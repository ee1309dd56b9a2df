import Mathlib.Data.List.Basic
import Mathlib.Data.List.TakeDrop
import Mathlib.Data.List.TakeWhile
import Chatflow.Plan.Table
import Chatflow.Proofs.Yaml.Number

/-!
# Names in documents

What becomes of an unquoted name of capital letters and underscores when a document is read: it has
none of the forms of a number or a date, but some names are words for booleans or for nothing.
-/

namespace Chatflow

def nameChars : List Char := "ABCDEFGHIJKLMNOPQRSTUVWXYZ_".toList

/-- A name of capital letters and underscores. -/
def IsName (name : String) : Prop := name ≠ "" ∧ ∀ c ∈ name.toList, c ∈ nameChars

-- The instance is named: a search may find one that goes through all characters there are.
instance (name : String) : Decidable (IsName name) :=
  @instDecidableAnd _ _ inferInstance (List.decidableBAll (· ∈ nameChars) name.toList)

theorem forall_nameChar {p : Char → Prop} [DecidablePred p]
    (all : nameChars.all (fun c => decide (p c)) = true) : ∀ c ∈ nameChars, p c :=
  forall_of_all all

namespace Text

theorem upperChar_of_nameChar : ∀ c ∈ nameChars, upperChar c = [c] := by
  unfold upperChar mapRuns
  simp only [← Array.find?_toList]
  exact forall_nameChar (by decide)

theorem isBlank_of_nameChar : ∀ c ∈ nameChars, isBlank c = false :=
  forall_nameChar (by decide)

theorem dropWhile_of_none {p : Char → Bool} {cs : List Char} (none : ∀ c ∈ cs, p c = false) :
    cs.dropWhile p = cs := by
  cases cs with
  | nil => rfl
  | cons c rest => rw [List.dropWhile_cons_of_neg (by simp [none c])]

end Text

/-! ### Names are in their normal form -/

namespace IsName

variable {name : String} (isName : IsName name)
include isName

theorem strip_eq : Text.strip name = name := by
  have solid : ∀ c ∈ name.toList, Text.isBlank c = false := fun c mem =>
    Text.isBlank_of_nameChar c (isName.2 c mem)
  unfold Text.strip Text.trimList
  rw [Text.dropWhile_of_none solid, Text.dropWhile_of_none fun c mem =>
    solid c (List.mem_reverse.mp mem), List.reverse_reverse, String.ofList_toList]

theorem upper_eq : Text.upper name = name := by
  have same : name.toList.flatMap Text.upperChar = name.toList.flatMap fun c => [c] :=
    List.flatMap_congr fun c mem => Text.upperChar_of_nameChar c (isName.2 c mem)
  rw [Text.upper, same, List.flatMap_singleton', String.ofList_toList]

theorem normalName_eq : PlanLimit.normalName (.str name) = name := by
  rw [PlanLimit.normalName, Value.display, isName.strip_eq, isName.upper_eq]

end IsName

namespace Yaml

/-! ### Names are no numbers and no dates -/

theorem not_isDigit_of_nameChar : ∀ c ∈ nameChars, Json.isDigit c = false :=
  forall_nameChar (by decide)

section

variable {cs : List Char} (named : ∀ c ∈ cs, c ∈ nameChars)
include named

theorem not_mem_of_named {c : Char} (other : c ∉ nameChars) : c ∉ cs :=
  fun mem => other (named c mem)

theorem splitSign_of_named : splitSign cs = (false, cs) := by
  unfold splitSign
  split
  · exact absurd (named '-' List.mem_cons_self) (by decide)
  · exact absurd (named '+' List.mem_cons_self) (by decide)
  · rfl

theorem isPlainDecimal_of_named : isPlainDecimal cs = false := by
  cases cs with
  | nil => rfl
  | cons c rest =>
    have other : ∀ c ∈ nameChars, ('1' ≤ c && c ≤ '9') = false := forall_nameChar (by decide)
    rw [isPlainDecimal, other c (named c List.mem_cons_self), Bool.false_and]

theorem integer?_of_named : integer? cs = none := by
  have zero : '0' ∉ cs := not_mem_of_named named (by decide)
  unfold integer?
  rw [splitSign_of_named named]
  dsimp only
  split
  · exact absurd List.mem_cons_self zero
  · exact absurd List.mem_cons_self zero
  · exact absurd List.mem_cons_self zero
  · exact absurd List.mem_cons_self zero
  · rw [isPlainDecimal_of_named named, splitAt_of_not_mem (not_mem_of_named named (by decide))]
    simp

theorem float?_of_named : float? cs = none := float?_eq_none (not_mem_of_named named (by decide))

theorem exactNumber?_of_named {width : Nat} (some : width ≠ 0) :
    exactNumber? width (cs.take width) = none := by
  refine if_neg ?_
  rintro ⟨long, digits⟩
  cases cs with
  | nil =>
    rw [List.take_nil, List.length_nil] at long
    exact some long.symm
  | cons c rest =>
    obtain ⟨width, rfl⟩ := Nat.exists_eq_succ_of_ne_zero some
    simp [not_isDigit_of_nameChar c (named c List.mem_cons_self)] at digits

theorem timestamp?_of_named : timestamp? cs = none := by
  have whole : splitAt '-' (cs.take 10) = [cs.take 10] :=
    splitAt_of_not_mem fun mem =>
      not_mem_of_named named (c := '-') (by decide) (List.mem_of_mem_take mem)
  unfold timestamp?
  rw [whole]
  simp [exactNumber?_of_named named]

end

/-! ### What names stand for -/

/-- The names that an unquoted scalar does not stand for: they are read as booleans or as nothing,
whose texts are other names. -/
def misreadNames : List String := ["YES", "ON", "NO", "OFF", "NULL"]

/-- The name that stands in a list of names when an unquoted one is written there. -/
def nameRead (name : String) : String :=
  if name = "YES" ∨ name = "ON" then "TRUE"
  else if name = "NO" ∨ name = "OFF" then "FALSE"
  else if name = "NULL" then "NONE"
  else name

theorem nameRead_of_not_misread {name : String} (kept : name ∉ misreadNames) :
    nameRead name = name := by
  simp only [misreadNames, List.mem_cons, List.not_mem_nil, or_false, not_or] at kept
  simp [nameRead, kept]

theorem normalName_of_word : PlanLimit.normalName .null = "NONE" ∧
    PlanLimit.normalName (.bool true) = "TRUE" ∧ PlanLimit.normalName (.bool false) = "FALSE" := by
  unfold PlanLimit.normalName Text.upper Text.upperChar Text.mapRuns
  simp only [← Array.find?_toList]
  decide

theorem nameRead_of_nullWord : ∀ word ∈ nullWords, IsName word → nameRead word = "NONE" := by
  decide

theorem nameRead_of_trueWord : ∀ word ∈ trueWords, IsName word → nameRead word = "TRUE" := by
  decide

theorem nameRead_of_falseWord : ∀ word ∈ falseWords, IsName word → nameRead word = "FALSE" := by
  decide

theorem word_of_misread : ∀ name ∈ misreadNames,
    name ∈ nullWords ∨ name ∈ trueWords ∨ name ∈ falseWords := by
  decide

/-- An unquoted name has a value, which stands in a list of names as what it is read as. -/
theorem exists_resolve_name {name : String} (isName : IsName name) :
    ∃ v, resolve name = .ok v ∧ PlanLimit.normalName v = nameRead name := by
  obtain ⟨null, holds, fails⟩ := normalName_of_word
  unfold resolve
  by_cases nothing : name ∈ nullWords
  · rw [if_pos nothing, nameRead_of_nullWord name nothing isName]
    exact ⟨_, rfl, null⟩
  rw [if_neg nothing]
  by_cases affirms : name ∈ trueWords
  · rw [if_pos affirms, nameRead_of_trueWord name affirms isName]
    exact ⟨_, rfl, holds⟩
  rw [if_neg affirms]
  by_cases denies : name ∈ falseWords
  · rw [if_pos denies, nameRead_of_falseWord name denies isName]
    exact ⟨_, rfl, fails⟩
  have kept : name ∉ misreadNames := by
    intro misread
    rcases word_of_misread name misread with word | word | word
    · exact nothing word
    · exact affirms word
    · exact denies word
  have noMark : ¬(name = "=" ∨ name = "<<") := by
    rintro (rfl | rfl) <;> exact absurd isName (by decide)
  rw [if_neg denies, if_neg noMark, float?_of_named isName.2, integer?_of_named isName.2,
    timestamp?_of_named isName.2, nameRead_of_not_misread kept]
  exact ⟨_, rfl, isName.normalName_eq⟩

end Yaml

end Chatflow

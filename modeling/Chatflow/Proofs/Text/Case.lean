import Chatflow.Text.Case
import Mathlib.Data.List.Basic
import Mathlib.Data.List.TakeWhile

/-!
# Lower case inside a text

The lower-case form of a part of a text is the lower-case form of the part alone, but for the
capital sigmas in it: one of them may end a word in the part and not in the text, or the other way
round. A word that keeps its sigmas is found in lower case wherever it stands (`StandsIn.lower`).
-/

namespace Chatflow.Text

/-- The lower-case form of characters between their neighbours. Those before them come nearest
first. -/
def lowerBetween (before : List Char) : List Char → List Char → List Char
  | [], _ => []
  | c :: rest, after => lowerChar before c (rest ++ after) ++ lowerBetween (c :: before) rest after

/-- Each capital sigma of a word ends a word, or not, as it does when the word stands alone. -/
def KeepsSigmas (before word after : List Char) : Prop :=
  ∀ first rest, word = first ++ 'Σ' :: rest →
    sigmaIsFinal (first.reverse ++ before.reverse) (rest ++ after) =
      sigmaIsFinal first.reverse rest

def StandsIn (word text : List Char) : Prop :=
  ∃ before after, text = before ++ word ++ after ∧ KeepsSigmas before word after

def EnclosesSigmas (word : List Char) : Prop :=
  ∀ first rest, word = first ++ 'Σ' :: rest →
    (∃ c ∈ first, isCaseIgnorable c = false) ∧ ∃ c ∈ rest, isCaseIgnorable c = false

variable {before word after text cs : List Char} {c : Char}

/-! ### Parts of texts -/

theorem lowerFrom_append (before cs after : List Char) :
    lowerFrom before (cs ++ after) =
      lowerBetween before cs after ++ lowerFrom (cs.reverse ++ before) after := by
  induction cs generalizing before with
  | nil => rfl
  | cons c cs ih =>
    rw [List.cons_append, lowerFrom, ih, lowerBetween, List.append_assoc, List.reverse_cons,
      List.append_assoc]
    rfl

theorem lowerFrom_eq_lowerBetween (before cs : List Char) :
    lowerFrom before cs = lowerBetween before cs [] := by
  have whole := lowerFrom_append before cs []
  rwa [List.append_nil, lowerFrom, List.append_nil] at whole

/-- The lower-case form of a word between its neighbours is a part of that of the text. -/
theorem lowerBetween_infix (before word after : List Char) :
    lowerBetween before.reverse word after <:+: lowerList (before ++ word ++ after) := by
  rw [lowerList, List.append_assoc, lowerFrom_append, lowerFrom_append, List.append_nil]
  exact ⟨_, _, List.append_assoc ..⟩

theorem lowerList_eq_nil_iff : lowerList cs = [] ↔ cs = [] := by
  have kept : ∀ before c after, lowerChar before c after ≠ [] := by
    intro before c after
    unfold lowerChar
    split_ifs <;> exact List.cons_ne_nil _ _
  cases cs with
  | nil => exact iff_of_true rfl rfl
  | cons c rest =>
    refine iff_of_false (fun none => ?_) (List.cons_ne_nil c rest)
    exact kept _ _ _ (List.append_eq_nil_iff.mp none).1

/-! ### Sigmas -/

theorem lowerChar_of_ne (other : c ≠ 'Σ') (before before' after after' : List Char) :
    lowerChar before c after = lowerChar before' c after' := by
  simp [lowerChar, other]

theorem lowerChar_sigma_eq_iff {before' after' : List Char} :
    lowerChar before 'Σ' after = lowerChar before' 'Σ' after' ↔
      sigmaIsFinal before after = sigmaIsFinal before' after' := by
  unfold lowerChar
  cases sigmaIsFinal before after <;> cases sigmaIsFinal before' after' <;> simp

theorem length_lowerChar (before before' after after' : List Char) :
    (lowerChar before c after).length = (lowerChar before' c after').length := by
  unfold lowerChar
  split
  · rfl
  · split <;> rfl

/-- Between neighbours a word has the lower-case form that it has alone exactly when it keeps its
sigmas. By induction on what is left of the word, with what is passed already. -/
theorem lowerBetween_eq_iff (passed before word after : List Char) :
    lowerBetween (passed ++ before) word after = lowerBetween passed word [] ↔
      ∀ first rest, word = first ++ 'Σ' :: rest →
        sigmaIsFinal (first.reverse ++ (passed ++ before)) (rest ++ after) =
          sigmaIsFinal (first.reverse ++ passed) rest := by
  induction word generalizing passed with
  | nil => simp [lowerBetween]
  | cons c word ih =>
    have next := ih (c :: passed)
    rw [lowerBetween, lowerBetween, List.append_nil]
    constructor
    · intro same first rest split
      obtain ⟨own, later⟩ := List.append_inj same (length_lowerChar ..)
      cases first with
      | nil =>
        obtain ⟨rfl, rfl⟩ := List.cons.inj split
        exact lowerChar_sigma_eq_iff.mp own
      | cons d first =>
        obtain ⟨rfl, rfl⟩ := List.cons.inj split
        simpa using next.mp later first rest rfl
    · intro keeps
      have own : lowerChar (passed ++ before) c (word ++ after) = lowerChar passed c word := by
        by_cases sigma : c = 'Σ'
        · subst sigma
          exact lowerChar_sigma_eq_iff.mpr (keeps [] word rfl)
        · exact lowerChar_of_ne sigma ..
      have later : lowerBetween (c :: passed ++ before) word after =
          lowerBetween (c :: passed) word [] := by
        refine next.mpr fun first rest split => ?_
        simpa using keeps (c :: first) rest (by rw [split]; rfl)
      exact congrArg₂ (· ++ ·) own later

theorem keepsSigmas_iff :
    KeepsSigmas before word after ↔ lowerBetween before.reverse word after = lowerList word := by
  rw [lowerList, lowerFrom_eq_lowerBetween]
  simpa [KeepsSigmas] using (lowerBetween_eq_iff [] before.reverse word after).symm

/-- A word that stands in a text is found there in lower case. -/
theorem StandsIn.lower (stands : StandsIn word text) : lowerList word <:+: lowerList text := by
  obtain ⟨before, after, rfl, keeps⟩ := stands
  rw [← keepsSigmas_iff.mp keeps]
  exact lowerBetween_infix before word after

/-- A character that is not passed over decides what stands next to a sigma. -/
theorem head?_dropWhile_append {p : Char → Bool} (stop : ∃ c ∈ cs, p c = false)
    (more : List Char) : ((cs ++ more).dropWhile p).head? = (cs.dropWhile p).head? := by
  obtain ⟨c, mem, stops⟩ := stop
  have left : cs.dropWhile p ≠ [] := fun none => by
    simp [List.dropWhile_eq_nil_iff.mp none c mem] at stops
  rw [List.dropWhile_append, if_neg (by simpa using left), List.head?_append_of_ne_nil _ left]

/-- A word in which every capital sigma has such a character on both sides stands wherever it
occurs. -/
theorem EnclosesSigmas.standsIn (encloses : EnclosesSigmas word) (occurs : word <:+: text) :
    StandsIn word text := by
  obtain ⟨before, after, same⟩ := occurs
  refine ⟨before, after, same.symm, fun first rest split => ?_⟩
  obtain ⟨behind, ahead⟩ := encloses first rest split
  rw [sigmaIsFinal, sigmaIsFinal, head?_dropWhile_append (by simpa using behind),
    head?_dropWhile_append ahead]

theorem enclosesSigmas_of_not_mem (none : 'Σ' ∉ word) : EnclosesSigmas word :=
  fun first rest split => absurd (by simp [split]) none

end Chatflow.Text

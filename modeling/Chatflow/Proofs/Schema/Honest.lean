import Chatflow.Node.Message

/-!
# Readings that say what is wrong

A reading that gives no value names at least one issue, so that settings without a problem can be
read. The lemmas follow the ways in which readings are put together.
-/

namespace Chatflow

namespace Schema

variable {α β : Type}

namespace Checked

def Honest (checked : Checked α) : Prop := checked ≠ bad []

@[grind ←] theorem honest_ok (a : α) : Honest (ok a) := nofun

@[grind ←] theorem honest_defect (v : Value) (d : Defect) : Honest (defect v d : Checked α) := nofun

@[grind ←] theorem honest_bad (i : Issue) (more : List Issue) :
    Honest (bad (i :: more) : Checked α) := nofun

@[grind ←] theorem Honest.map {checked : Checked α} (honest : Honest checked) (f : α → β) :
    Honest (f <$> checked) := by
  cases checked with
  | ok a => exact honest_ok (f a)
  | bad issues =>
    rintro ⟨⟩
    exact honest rfl

theorem Honest.seq {first : Checked (α → β)} {second : Checked α}
    (honest : Honest first) (also : Honest second) : Honest (first <*> second) := by
  match first, second with
  | ok f, ok a => exact honest_ok (f a)
  | ok f, bad issues =>
    rintro ⟨⟩
    exact also rfl
  | bad issues, ok a =>
    rintro ⟨⟩
    exact honest rfl
  | bad [], bad more => exact absurd rfl honest
  | bad (i :: issues), bad more => exact nofun

@[grind ←] theorem Honest.andThen {checked : Checked α} {next : α → Checked β}
    (honest : Honest checked) (rest : ∀ a, Honest (next a)) : Honest (checked.andThen next) := by
  cases checked with
  | ok a => exact rest a
  | bad issues =>
    rintro ⟨⟩
    exact honest rfl

@[grind ←] theorem Honest.under {checked : Checked α} (honest : Honest checked) (step : Step) :
    Honest (checked.under step) := by
  match checked with
  | ok a => exact honest_ok a
  | bad [] => exact absurd rfl honest
  | bad (i :: issues) => exact nofun

/-- A named reading gives a value unless it names an issue. -/
theorem Honest.exists_of_named {checked : Checked α} (honest : Honest checked) {record : String}
    (faultless : ∀ invalid, checked.named record = .error invalid → invalid.issues = []) :
    ∃ a, checked.named record = .ok a := by
  cases checked with
  | ok a => exact ⟨a, rfl⟩
  | bad issues =>
    obtain rfl : issues = [] := faultless ⟨record, issues⟩ rfl
    exact absurd rfl honest

end Checked

open Checked

@[grind ←] theorem honest_text (v : Value) : Honest (text v) := by
  cases v <;> grind [text]

@[grind ←] theorem honest_textWithin (least : Nat) (most : Option Nat) (v : Value) :
    Honest (textWithin least most v) := by
  refine (honest_text v).andThen fun s => ?_
  cases most <;> grind

@[grind ←] theorem honest_optional {reading : Reading α} (own : ∀ v, Honest (reading v))
    (v : Value) : Honest (optional reading v) := by
  cases v with
  | null => exact honest_ok none
  | _ => exact (own _).map some

@[grind ←] theorem honest_flag (v : Value) : Honest (flag v) := by
  cases v <;> grind [flag, flagOfInt]

@[grind ←] theorem honest_orDefault (f : Field) (value : α) {reading : Reading α}
    (own : ∀ v, Honest (reading v)) (es : Entries Value) :
    Honest (f.orDefault value reading es) := by
  unfold Field.orDefault
  split
  · exact (own _).under _
  · exact honest_ok value

theorem honest_textKeys (issue : Value → Issue) (pairs : List (Value × Value)) :
    Honest (textKeys issue pairs) := by
  induction pairs with
  | nil => exact honest_ok []
  | cons pair rest ih =>
    obtain ⟨key, v⟩ := pair
    refine .seq (.map ?_ _) ih
    cases key <;> grind

@[grind ←] theorem honest_openRecord (record : String) (v : Value) :
    Honest (openRecord record v) := by
  cases v <;> grind [openRecord, honest_textKeys]

end Schema

/-! ### What was read -/

namespace Schema

variable {α β : Type}

namespace Checked

theorem map_eq_ok_iff {f : α → β} {checked : Checked α} {b : β} :
    f <$> checked = ok b ↔ ∃ a, checked = ok a ∧ f a = b := by
  cases checked with
  | ok a =>
    constructor
    · rintro ⟨⟩
      exact ⟨a, rfl, rfl⟩
    · rintro ⟨_, ⟨⟩, rfl⟩
      rfl
  | bad issues => exact ⟨nofun, nofun⟩

theorem seq_eq_ok_iff {first : Checked (α → β)} {second : Checked α} {b : β} :
    first <*> second = ok b ↔ ∃ f a, first = ok f ∧ second = ok a ∧ f a = b := by
  match first, second with
  | ok f, ok a =>
    constructor
    · rintro ⟨⟩
      exact ⟨f, a, rfl, rfl, rfl⟩
    · rintro ⟨_, _, ⟨⟩, ⟨⟩, rfl⟩
      rfl
  | ok f, bad issues => exact ⟨nofun, nofun⟩
  | bad issues, ok a => exact ⟨nofun, nofun⟩
  | bad issues, bad more => exact ⟨nofun, nofun⟩

theorem andThen_eq_ok_iff {checked : Checked α} {next : α → Checked β} {b : β} :
    checked.andThen next = ok b ↔ ∃ a, checked = ok a ∧ next a = ok b := by
  cases checked with
  | ok a => exact ⟨fun reads => ⟨a, rfl, reads⟩, fun | ⟨_, rfl, reads⟩ => reads⟩
  | bad issues => exact ⟨nofun, nofun⟩

theorem under_eq_ok {checked : Checked α} {step : Step} {a : α}
    (reads : checked.under step = .ok a) : checked = .ok a := by
  cases checked with
  | ok b => exact reads
  | bad issues => cases reads

theorem named_eq_ok_iff {checked : Checked α} {record : String} {a : α} :
    checked.named record = .ok a ↔ checked = ok a := by
  cases checked with
  | ok b => exact ⟨fun | rfl => rfl, fun | rfl => rfl⟩
  | bad issues => exact ⟨nofun, nofun⟩

end Checked

open Checked

theorem eq_of_text {s t : String} (read : text (.str s) = ok t) : t = s := by
  cases read
  rfl

theorem eq_of_textWithin {least : Nat} {most : Option Nat} {s t : String}
    (read : textWithin least most (.str s) = ok t) : t = s := by
  unfold textWithin text Checked.andThen defect at read
  grind

theorem exists_of_required {f : Field} {reading : Reading α} {es : Entries Value} {a : α}
    (reads : f.required reading es = ok a) : ∃ v, reading v = ok a := by
  unfold Field.required at reads
  split at reads
  · exact ⟨_, under_eq_ok reads⟩
  · cases reads

theorem le_length_of_listWithin {least : Nat} {most : Option Nat} {reading : Reading α} {v : Value}
    {read : List α} (reads : listWithin least most reading v = ok read) : least ≤ read.length := by
  unfold listWithin at reads
  split at reads
  · split at reads
    · cases reads
    obtain ⟨items, -, enough⟩ := andThen_eq_ok_iff.mp reads
    split at enough
    · cases enough
    · rename_i long
      cases enough
      exact Nat.le_of_not_lt long
  · cases reads

theorem eq_of_orDefault_text {f : Field} {reading : Reading String} {es : Entries Value}
    {key s : String} {value read : Option String} (found : f.find? es = some (key, .str s))
    (own : ∀ t, reading (.str s) = ok t → t = s)
    (reads : f.orDefault value (optional reading) es = ok read) : read = some s := by
  rw [Field.orDefault, found] at reads
  dsimp only [optional] at reads
  cases text : reading (.str s) with
  | ok t =>
    rw [text] at reads
    cases reads
    rw [own t text]
  | bad issues =>
    rw [text] at reads
    cases reads

end Schema

/-! ### Settings of nodes that send texts -/

open Schema.Checked

theorem MessageConfig.honest_read (v : Value) : Honest (read v) := by
  refine .andThen (Schema.honest_openRecord _ v) fun es => .seq (.map ?_ _) ?_ <;> grind

theorem ReplyCommentConfig.honest_read (v : Value) : Honest (read v) := by
  refine .andThen (Schema.honest_openRecord _ v) fun es => .map ?_ _
  grind

theorem ReplyMentionConfig.honest_read (v : Value) : Honest (read v) := by
  refine .andThen (Schema.honest_openRecord _ v) fun es => .map ?_ _
  grind

end Chatflow

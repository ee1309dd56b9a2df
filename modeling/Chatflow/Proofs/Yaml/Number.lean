import Chatflow.Proofs.Json.Text
import Chatflow.Yaml.Scalar
import Mathlib.Data.List.TakeDrop
import Mathlib.Data.List.TakeWhile

/-!
# Numbers without quotation marks

An integer in decimal digits is read as the integer that it is.
-/

namespace Chatflow.Yaml

/-! ### Decimal digits -/

theorem digitsIn_eq (base : Nat) (cs : List Char) :
    digitsIn base cs = Nat.ofDigitChars base cs 0 := by
  rw [Nat.ofDigitChars_eq_foldl, digitsIn]
  congr 1
  funext acc c
  rw [Nat.mul_comm]
  rfl

theorem digitsIn_toDigits (n : Nat) : digitsIn 10 (Nat.toDigits 10 n) = n := by
  rw [digitsIn_eq, Nat.ofDigitChars_ten_toDigits]

theorem isDigit_of_mem_toDigits {n : Nat} {c : Char} (mem : c ∈ Nat.toDigits 10 n) :
    Json.isDigit c = true := by
  have digit : ∀ d < 10, Json.isDigit d.digitChar = true := by decide
  obtain ⟨d, small, rfl⟩ := Json.mem_toDigits (by decide) mem
  exact digit d small

theorem exists_cons_of_toDigits {n : Nat} (pos : 0 < n) :
    ∃ c cs, Nat.toDigits 10 n = c :: cs ∧ ('1' ≤ c && c ≤ '9') = true := by
  have leads : ∀ d < 10, 0 < d → ('1' ≤ d.digitChar && d.digitChar ≤ '9') = true := by decide
  induction n using Nat.strongRecOn with
  | ind n ih =>
    rw [Nat.toDigits_eq_if (by decide)]
    split
    · exact ⟨n.digitChar, [], rfl, leads n ‹_› pos⟩
    · obtain ⟨c, cs, front, lead⟩ := ih (n / 10) (by omega) (by omega)
      exact ⟨c, cs ++ [(n % 10).digitChar], by rw [front]; rfl, lead⟩

theorem withoutUnderscores_of_digits {cs : List Char} (digits : ∀ c ∈ cs, Json.isDigit c = true) :
    withoutUnderscores cs = cs := by
  refine List.filter_eq_self.mpr fun c mem => ?_
  have other : c ≠ '_' := by
    rintro rfl
    exact absurd (digits _ mem) (by decide)
  simpa using other

theorem isDecimal_of_digits {cs : List Char} (digits : ∀ c ∈ cs, Json.isDigit c = true) :
    isDecimal cs = true := List.all_eq_true.mpr fun c mem => by rw [digits c mem]; rfl

/-! ### Words and numbers -/

theorem splitAt_of_not_mem {sep : Char} {cs : List Char} (none : sep ∉ cs) :
    splitAt sep cs = [cs] := by
  induction cs with
  | nil => rfl
  | cons c rest ih =>
    rw [List.mem_cons, not_or] at none
    rw [splitAt, if_neg (Ne.symm none.1), ih none.2]

/-- A text that begins like a number is none of the words that have a value. -/
theorem resolve_number {text : String} {c : Char} {cs : List Char} (form : text.toList = c :: cs)
    (start : Json.isDigit c = true ∨ c = '-') :
    resolve text =
      match float? (c :: cs) with
      | some v => .ok v
      | none =>
        match integer? (c :: cs) with
        | some v => v
        | none =>
          match timestamp? (c :: cs) with
          | some v => v
          | none => .ok (.str text) := by
  have words : ∀ word ∈ nullWords ++ trueWords ++ falseWords ++ ["=", "<<"],
      word.toList.head?.any (fun c => Json.isDigit c || c = '-') = false := by decide
  have other : text ∉ nullWords ++ trueWords ++ falseWords ++ ["=", "<<"] := by
    intro mem
    have none := words text mem
    rw [form] at none
    rcases start with digit | rfl
    · simp [digit] at none
    · simp at none
  simp only [List.mem_append, List.mem_cons, List.not_mem_nil, or_false, not_or] at other
  rw [← form]
  unfold resolve
  exact (if_neg other.1.1.1).trans <| (if_neg other.1.1.2).trans <| (if_neg other.1.2).trans <|
    if_neg (not_or.mpr other.2)

theorem float?_eq_none {cs : List Char} (pointless : '.' ∉ cs) : float? cs = none := by
  obtain ⟨negative, body, split⟩ : ∃ negative body, splitSign cs = (negative, body) := ⟨_, _, rfl⟩
  have pointless : '.' ∉ body := by
    have body_eq : body = (splitSign cs).2 := by rw [split]
    rw [body_eq]
    unfold splitSign
    split
    · exact fun mem => pointless (List.mem_cons_of_mem _ mem)
    · exact fun mem => pointless (List.mem_cons_of_mem _ mem)
    · exact pointless
  have pointed : ∀ word ∈ [".inf", ".Inf", ".INF", ".nan", ".NaN", ".NAN"], '.' ∈ word.toList := by
    decide
  have other : ∀ word ∈ [".inf", ".Inf", ".INF", ".nan", ".NaN", ".NAN"],
      String.ofList body ≠ word := by
    rintro word mem rfl
    exact pointless (by simpa using pointed _ mem)
  have rest : body.dropWhile (fun c => !decide (c = '.')) = [] := by
    refine List.dropWhile_eq_nil_iff.mpr fun c mem => ?_
    simpa using fun same : c = '.' => pointless (same ▸ mem)
  simp only [List.forall_mem_cons] at other
  simp [float?, split, other, rest]

theorem splitSign_of_digit {c : Char} {cs : List Char} (digit : Json.isDigit c = true) :
    splitSign (c :: cs) = (false, c :: cs) := by
  have minus : c ≠ '-' := by rintro rfl; exact absurd digit (by decide)
  have plus : c ≠ '+' := by rintro rfl; exact absurd digit (by decide)
  simp [splitSign, minus, plus]

/-- Decimal digits after a sign are an integer, unless there are too many. -/
theorem integer?_digits {cs : List Char} {negative : Bool} {n : Nat}
    (split : splitSign cs = (negative, Nat.toDigits 10 n))
    (short : (Nat.toDigits 10 n).length ≤ Value.mostDigits) :
    integer? cs = some (.ok (.int (signed negative n))) := by
  rcases Nat.eq_zero_or_pos n with rfl | pos
  · simp [integer?, split]
  · obtain ⟨c, more, form, lead⟩ := exists_cons_of_toDigits pos
    have digits : ∀ d ∈ c :: more, Json.isDigit d = true := fun d mem =>
      isDigit_of_mem_toDigits (form ▸ mem)
    have zero : c ≠ '0' := by rintro rfl; exact absurd lead (by decide)
    have plain : isPlainDecimal (c :: more) = true := by
      rw [isPlainDecimal, lead, isDecimal_of_digits fun d mem => digits d (by simp [mem])]
      rfl
    have number := digitsIn_toDigits n
    rw [form] at split number short
    have few : ¬Value.mostDigits < (c :: more).length := Nat.not_lt.mpr short
    simp [integer?, split, zero, plain, withoutUnderscores_of_digits digits, number, few,
      -List.length_cons]

/-- The decimal digits of an integer, after a sign if it is negative, are read as the integer. -/
theorem resolve_int {n : Int} (few : Value.hasFewDigits n = true) :
    resolve (toString n) = .ok (.int n) := by
  have short : (Nat.toDigits 10 n.natAbs).length ≤ Value.mostDigits := of_decide_eq_true few
  have pointless : ∀ m, '.' ∉ Nat.toDigits 10 m := fun m mem =>
    absurd (isDigit_of_mem_toDigits mem) (by decide)
  rw [Int.toString_eq_repr, Int.repr_eq_if]
  split
  · rename_i sign
    have digits : (Nat.repr n.toNat).toList = Nat.toDigits 10 n.toNat := Nat.toList_repr
    obtain ⟨c, cs, form⟩ :=
      List.exists_cons_of_ne_nil (Nat.toDigits_ne_nil (n := n.toNat) (b := 10))
    have digit : Json.isDigit c = true :=
      isDigit_of_mem_toDigits (n := n.toNat) (by rw [form]; simp)
    have split : splitSign (Nat.toDigits 10 n.toNat) = (false, Nat.toDigits 10 n.toNat) := by
      rw [form, splitSign_of_digit digit]
    have same : n.toNat = n.natAbs := by omega
    rw [resolve_number (digits.trans form) (.inl digit), ← form, float?_eq_none (pointless _),
      integer?_digits split (same ▸ short)]
    simp [signed, Int.toNat_of_nonneg sign]
  · rename_i sign
    have digits : ("-" ++ Nat.repr (-n).toNat).toList = '-' :: Nat.toDigits 10 (-n).toNat := by
      rw [String.toList_append, Nat.toList_repr]
      rfl
    have pointless : '.' ∉ '-' :: Nat.toDigits 10 (-n).toNat := by
      simpa using pointless _
    have same : (-n).toNat = n.natAbs := by omega
    rw [resolve_number digits (.inr rfl), float?_eq_none pointless,
      integer?_digits rfl (same ▸ short)]
    simp only [signed, ↓reduceIte, Int.toNat_of_nonneg (by omega : 0 ≤ -n), Int.neg_neg]

end Chatflow.Yaml

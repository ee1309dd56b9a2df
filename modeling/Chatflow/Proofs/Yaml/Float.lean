import Chatflow.Proofs.Decimal.Shortest
import Chatflow.Proofs.Yaml.Number

/-!
# Doubles without quotation marks

The text of a double with a point in it is read as the double. Without a point it is a text: an
exponent alone does not make a float.
-/

namespace Chatflow.Yaml

open Decimal

/-! ### Digits around a point -/

variable {cs ds whole fraction rest : List Char} {negative : Bool} {e point : Int}

abbrev Digits (cs : List Char) : Prop := ∀ c ∈ cs, Json.isDigit c = true

theorem digitsIn_append (cs ds : List Char) :
    digitsIn 10 (cs ++ ds) = digitsIn 10 cs * 10 ^ ds.length + digitsIn 10 ds := by
  rw [digitsIn_eq, digitsIn_eq, digitsIn_eq, Nat.ofDigitChars_append,
    Nat.ofDigitChars_eq_ofDigitChars_zero, Nat.mul_comm]

theorem digitsIn_zeros (n : Nat) : digitsIn 10 (List.replicate n '0') = 0 := by
  rw [digitsIn_eq, Nat.ofDigitChars_replicate_zero, Nat.mul_zero]

theorem takeWhile_digits (digits : Digits fraction)
    (ends : rest.head?.any (fun c => Json.isDigit c || c = '_') = false) :
    (fraction ++ rest).takeWhile (fun c => Json.isDigit c || c = '_') = fraction := by
  rw [List.takeWhile_append_of_pos fun c mem => by rw [digits c mem]; rfl]
  cases rest with
  | nil => simp
  | cons c rest => rw [List.takeWhile_cons_of_neg (by simpa using ends), List.append_nil]

theorem pointFloat?_digits (whole_digits : Digits whole) (some_digit : whole ≠ [])
    (fraction_digits : Digits fraction)
    (ends : rest.head?.any (fun c => Json.isDigit c || c = '_') = false)
    (exponent : floatExponent? rest = some e) :
    pointFloat? negative whole (fraction ++ rest) =
      some (floatOf negative (whole ++ fraction) (e - fraction.length)) := by
  have colon : ':' ∉ whole := fun mem => absurd (whole_digits _ mem) (by decide)
  have first : whole.head?.any Json.isDigit = true := by
    obtain ⟨c, more, rfl⟩ := List.exists_cons_of_ne_nil some_digit
    exact whole_digits c (by simp)
  unfold pointFloat?
  simp only [takeWhile_digits fraction_digits ends, List.drop_left, splitAt_of_not_mem colon,
    isDecimal_of_digits whole_digits, withoutUnderscores_of_digits whole_digits,
    withoutUnderscores_of_digits fraction_digits, first, exponent]
  rfl

theorem float?_of_point {after : List Char}
    (split : splitSign cs = (negative, whole ++ '.' :: after))
    (whole_digits : Digits whole) (some_digit : whole ≠ []) :
    float? cs = pointFloat? negative whole after := by
  have pointless : ∀ c ∈ whole, decide (c ≠ '.') = true := fun c mem => by
    have digit := whole_digits c mem
    have other : c ≠ '.' := by rintro rfl; exact absurd digit (by decide)
    simpa using other
  have parts : (whole ++ '.' :: after).span (· ≠ '.') = (whole, '.' :: after) := by
    rw [List.span_eq_takeWhile_dropWhile, List.takeWhile_append_of_pos pointless,
      List.dropWhile_append_of_pos pointless]
    simp
  obtain ⟨c, more, rfl⟩ := List.exists_cons_of_ne_nil some_digit
  have other : ∀ word ∈ [".inf", ".Inf", ".INF", ".nan", ".NaN", ".NAN"],
      String.ofList (c :: more ++ '.' :: after) ≠ word := by
    have pointed : ∀ word ∈ [".inf", ".Inf", ".INF", ".nan", ".NaN", ".NAN"],
        word.toList.head? = some '.' := by decide
    rintro word mem rfl
    have first := pointed _ mem
    rw [String.toList_ofList, List.cons_append, List.head?_cons, Option.some.injEq] at first
    exact absurd (whole_digits c (by simp)) (by rw [first]; decide)
  simp only [List.forall_mem_cons] at other
  unfold float?
  rw [split]
  dsimp only
  rw [if_neg (by simp only [other, or_self, not_false_eq_true]),
    if_neg (by simp only [other, or_self, and_false, not_false_eq_true]), parts]
  rfl

/-! ### Exponents -/

theorem digits_exponent (e : Int) :
    ∃ ds, exponentText e = 'e' :: (if e < 0 then '-' else '+') :: ds ∧ ds ≠ [] ∧ Digits ds ∧
      digitsIn 10 ds = e.natAbs := by
  have digits : Digits (digitText e.natAbs) := fun c mem => isDigit_of_mem_toDigits mem
  have value : digitsIn 10 (digitText e.natAbs) = e.natAbs := digitsIn_toDigits _
  by_cases short : (digitText e.natAbs).length < 2
  · refine ⟨'0' :: digitText e.natAbs, ?_, by simp, ?_, ?_⟩
    · simp only [exponentText, if_pos short]
    · intro c mem
      rcases List.mem_cons.mp mem with rfl | mem
      · decide
      · exact digits c mem
    · have zero : digitsIn 10 ['0'] = 0 := digitsIn_zeros 1
      rw [← List.singleton_append, digitsIn_append, zero, value, Nat.zero_mul, Nat.zero_add]
  · exact ⟨digitText e.natAbs, by simp only [exponentText, if_neg short], Nat.toDigits_ne_nil,
      digits, value⟩

theorem pointless_exponent (e : Int) : '.' ∉ exponentText e := by
  obtain ⟨ds, form, -, digits, -⟩ := digits_exponent e
  have absent : '.' ∉ ds := fun mem => absurd (digits _ mem) (by decide)
  rw [form]
  split_ifs <;> simpa using absent

theorem floatExponent?_exponentText (e : Int) : floatExponent? (exponentText e) = some e := by
  obtain ⟨ds, form, some_digit, digits, value⟩ := digits_exponent e
  have all_digits : ds.all Json.isDigit = true := List.all_eq_true.mpr digits
  rw [form]
  by_cases negative : e < 0
  · simp [floatExponent?, negative, some_digit, all_digits, value, signed, -Nat.cast_natAbs]
    omega
  · simp [floatExponent?, negative, some_digit, all_digits, value, signed, -Nat.cast_natAbs]
    omega

/-! ### Layouts -/

/-- The parts of a number with a point: digits before it, digits after it, and an exponent or
nothing. -/
structure PointForm (whole fraction rest : List Char) (e : Int) : Prop where
  some_digit : whole ≠ []
  whole_digits : Digits whole
  fraction_digits : Digits fraction
  exponent : rest = [] ∧ e = 0 ∨ rest = exponentText e

/-- A number with a point is read by its parts. -/
theorem PointForm.float?_eq (form : PointForm whole fraction rest e)
    (split : splitSign cs = (negative, whole ++ '.' :: (fraction ++ rest))) :
    float? cs = some (floatOf negative (whole ++ fraction) (e - fraction.length)) := by
  rw [float?_of_point split form.whole_digits form.some_digit]
  rcases form.exponent with ⟨rfl, rfl⟩ | rfl
  · exact pointFloat?_digits form.whole_digits form.some_digit form.fraction_digits rfl rfl
  · exact pointFloat?_digits form.whole_digits form.some_digit form.fraction_digits rfl
      (floatExponent?_exponentText e)

/-- A text with a point that stands for the digits with a point after the first of them. -/
def LaidOut (ds : List Char) (point : Int) (cs : List Char) : Prop :=
  ∃ whole fraction rest e, PointForm whole fraction rest e ∧
    cs = whole ++ '.' :: (fraction ++ rest) ∧
    (digitsIn 10 (whole ++ fraction) : ℚ) * 10 ^ (e - fraction.length) =
      digitsIn 10 ds * 10 ^ (point - ds.length)

theorem digits_zeros (n : Nat) : Digits (List.replicate n '0') := fun c mem => by
  rw [List.eq_of_mem_replicate mem]
  decide

theorem Digits.append (left : Digits cs) (right : Digits ds) : Digits (cs ++ ds) :=
  fun c mem => (List.mem_append.mp mem).elim (left c) (right c)

theorem laidOut_scientific {d : Char} (digits : Digits (d :: ds)) :
    LaidOut (d :: ds) point (d :: '.' :: ds ++ exponentText (point - 1)) := by
  refine ⟨[d], ds, exponentText (point - 1), point - 1, ⟨by simp, ?_, ?_, .inr rfl⟩, rfl, ?_⟩
  · exact fun c mem => digits c (by simp_all)
  · exact fun c mem => digits c (by simp [mem])
  · rw [List.singleton_append, List.length_cons]
    congr 2
    omega

theorem laidOut_small (digits : Digits ds) (small : point ≤ 0) :
    LaidOut ds point (['0', '.'] ++ List.replicate (-point).toNat '0' ++ ds) := by
  refine ⟨['0'], List.replicate (-point).toNat '0' ++ ds, [], 0,
    ⟨by simp, digits_zeros 1, (digits_zeros _).append digits, .inl ⟨rfl, rfl⟩⟩, by simp, ?_⟩
  have zero : digitsIn 10 ['0'] = 0 := digitsIn_zeros 1
  rw [digitsIn_append, digitsIn_append, zero, digitsIn_zeros, Nat.zero_mul, Nat.zero_mul,
    Nat.zero_add, Nat.zero_add, List.length_append, List.length_replicate]
  congr 2
  omega

theorem laidOut_whole (digits : Digits ds) (positive : 0 < point) (all : ds.length ≤ point) :
    LaidOut ds point (ds ++ List.replicate (point - ds.length).toNat '0' ++ ['.', '0']) := by
  refine ⟨ds ++ List.replicate (point - ds.length).toNat '0', ['0'], [], 0,
    ⟨?_, digits.append (digits_zeros _), digits_zeros 1, .inl ⟨rfl, rfl⟩⟩, by simp, ?_⟩
  · intro none
    have lengths := congrArg List.length none
    rw [List.length_append, List.length_replicate, List.length_nil] at lengths
    omega
  · have zero : digitsIn 10 ['0'] = 0 := digitsIn_zeros 1
    have exponent : point - ds.length = (point - ds.length).toNat := by omega
    rw [digitsIn_append, digitsIn_append, zero, digitsIn_zeros, List.length_replicate, exponent,
      zpow_natCast, Int.toNat_natCast]
    norm_num
    ring

theorem laidOut_inside (digits : Digits ds) (positive : 0 < point) (inside : point < ds.length) :
    LaidOut ds point (ds.take point.toNat ++ '.' :: ds.drop point.toNat) := by
  refine ⟨ds.take point.toNat, ds.drop point.toNat, [], 0,
    ⟨?_, ?_, ?_, .inl ⟨rfl, rfl⟩⟩, by simp, ?_⟩
  · intro none
    have lengths := congrArg List.length none
    rw [List.length_take, List.length_nil] at lengths
    omega
  · exact fun c mem => digits c (List.mem_of_mem_take mem)
  · exact fun c mem => digits c (List.mem_of_mem_drop mem)
  · rw [List.take_append_drop, List.length_drop]
    congr 2
    omega

/-- Digits laid out with a point have it after some digits, and stand for the same number. -/
theorem laidOut_render (digits : Digits ds) (pointed : '.' ∈ Layout.shortest.render ds point) :
    LaidOut ds point (Layout.shortest.render ds point) := by
  have lowest : Layout.shortest.lowestPoint = -3 := rfl
  have highest : Layout.shortest.highestPoint = 16 := rfl
  have keeps : Layout.shortest.keepsFraction = true := rfl
  unfold Layout.render at pointed ⊢
  simp only [lowest, highest, keeps, ↓reduceIte] at pointed ⊢
  split_ifs at pointed ⊢ with scientific small whole
  · cases ds with
    | nil => cases pointed
    | cons d more =>
      -- One digit is written without a point.
      have some_fraction : more ≠ [] := by
        rintro rfl
        rcases List.mem_cons.mp pointed with rfl | mem
        · exact absurd (digits '.' (by simp)) (by decide)
        · exact pointless_exponent _ mem
      dsimp only
      rw [if_neg some_fraction]
      exact laidOut_scientific digits
  · exact laidOut_small digits small
  · exact laidOut_whole digits (not_le.mp small) whole
  · exact laidOut_inside digits (not_le.mp small) (not_le.mp whole)

/-! ### Exponents without a point -/

theorem head?_splitAt (sep : Char) (cs : List Char) :
    (splitAt sep cs).head? = some (cs.takeWhile (· ≠ sep)) := by
  induction cs with
  | nil => rfl
  | cons c cs ih =>
    rw [splitAt]
    split_ifs with same
    · simp [same]
    · rw [List.takeWhile_cons_of_pos (by simpa using same)]
      cases parts : splitAt sep cs with
      | nil => simp [parts] at ih
      | cons part parts' => simp_all

/-- A date begins with a year of four digits. -/
theorem timestamp?_eq_none {a b : Char} (other : Json.isDigit a = false ∨ Json.isDigit b = false) :
    timestamp? (a :: b :: rest) = none := by
  have no_number : ∀ more, exactNumber? 4 (a :: b :: more) = none := fun more => by
    rcases other with other | other <;> simp [exactNumber?, other]
  have year : exactNumber? 4 ((a :: b :: rest).take 4) = none := no_number _
  have part : ∀ y, (splitAt '-' ((a :: b :: rest).take 10)).head? = some y →
      exactNumber? 4 y = none := by
    intro y first
    rw [head?_splitAt, Option.some.injEq, List.take_succ_cons, List.take_succ_cons] at first
    rw [← first, List.takeWhile_cons]
    split
    · rw [List.takeWhile_cons]
      split
      · exact no_number _
      · rfl
    · rfl
  unfold timestamp?
  simp only [year, Option.bind_eq_bind, Option.bind_none]
  split
  · rename_i y m d parts
    rw [part y (by rw [parts]; rfl)]
    split <;> rfl
  · rfl

/-- A number with a sign or without is read as a float if it is one. -/
theorem resolve_of_float {text : String} {c : Char} {v : Value}
    (form : text.toList = signText negative ++ c :: cs) (digit : Json.isDigit c = true)
    (float : float? (signText negative ++ c :: cs) = some v) : resolve text = .ok v := by
  cases negative with
  | false =>
    change text.toList = c :: cs at form
    change float? (c :: cs) = some v at float
    rw [resolve_number form (.inl digit), float]
  | true =>
    change text.toList = '-' :: c :: cs at form
    change float? ('-' :: c :: cs) = some v at float
    rw [resolve_number form (.inr rfl), float]

/-- Digits before an exponent are no integer. -/
theorem integer?_exponent {d : Char} (split : splitSign cs = (negative, d :: exponentText e))
    (digit : Json.isDigit d = true) (lead : d ≠ '0') : integer? cs = none := by
  obtain ⟨ds, form, -, digits, -⟩ := digits_exponent e
  have whole : ':' ∉ d :: exponentText e := by
    have first : d ≠ ':' := by rintro rfl; exact absurd digit (by decide)
    have more : ':' ∉ ds := fun mem => absurd (digits _ mem) (by decide)
    rw [form]
    split_ifs <;> simp [first.symm, more]
  have decimal : isDecimal (exponentText e) = false := by rw [form]; rfl
  simp [integer?, split, lead, isPlainDecimal, decimal, splitAt_of_not_mem whole]

/-- Digits before an exponent are a text, as no float is without a point. -/
theorem resolve_exponent {text : String} {d : Char}
    (form : text.toList = signText negative ++ d :: exponentText e) (digit : Json.isDigit d = true)
    (lead : d ≠ '0') : resolve text = .ok (.str text) := by
  obtain ⟨ds, exponent, -, -, -⟩ := digits_exponent e
  have pointless : '.' ∉ d :: exponentText e := by
    have first : d ≠ '.' := by rintro rfl; exact absurd digit (by decide)
    simpa [first.symm] using pointless_exponent e
  cases negative with
  | false =>
    have float := float?_eq_none pointless
    have integer : integer? (d :: exponentText e) = none :=
      integer?_exponent (splitSign_of_digit digit) digit lead
    rw [signText, if_neg Bool.false_ne_true, List.nil_append] at form
    rw [resolve_number form (.inl digit), float, integer, exponent]
    have stamp : timestamp? (d :: 'e' :: (if e < 0 then '-' else '+') :: ds) = none :=
      timestamp?_eq_none (.inr rfl)
    rw [stamp]
  | true =>
    have float : float? ('-' :: d :: exponentText e) = none :=
      float?_eq_none (by simpa using pointless)
    have integer : integer? ('-' :: d :: exponentText e) = none := integer?_exponent rfl digit lead
    have stamp : timestamp? ('-' :: d :: exponentText e) = none := timestamp?_eq_none (.inl rfl)
    rw [signText, if_pos rfl, List.singleton_append] at form
    rw [resolve_number form (.inr rfl), float, integer, stamp]

/-- Without a point there is one digit, and an exponent after it. -/
theorem render_pointless {d : Char} (pointless : '.' ∉ Layout.shortest.render (d :: ds) point) :
    Layout.shortest.render (d :: ds) point = d :: exponentText (point - 1) := by
  have keeps : Layout.shortest.keepsFraction = true := rfl
  unfold Layout.render at pointless ⊢
  simp only [keeps, ↓reduceIte] at pointless ⊢
  split_ifs at pointless ⊢ with scientific alone
  · rfl
  all_goals exact absurd (by simp) pointless

/-! ### Doubles -/

theorem exists_dropped (ds : List Char) :
    ∃ k, ds = dropTrailingZeros ds ++ List.replicate k '0' := by
  refine ⟨(ds.reverse.takeWhile (· = '0')).length, ?_⟩
  have zeros : ds.reverse.takeWhile (· = '0') =
      List.replicate (ds.reverse.takeWhile (· = '0')).length '0' :=
    List.eq_replicate_of_mem fun c mem => by simpa using List.mem_takeWhile_imp mem
  have whole :=
    congrArg List.reverse (List.takeWhile_append_dropWhile (p := (· = '0')) (l := ds.reverse))
  rw [zeros, List.reverse_append, List.reverse_replicate, List.reverse_reverse] at whole
  exact whole.symm

variable {m : Nat} {p : Int}

/-- The digits that are written for a double, without the zeros at their end. -/
theorem written_digits (canonical : Canonical m p) :
    ∃ d ds, dropTrailingZeros (digitText (shortest m p).digits) = d :: ds ∧ d ≠ '0' ∧
      Digits (d :: ds) ∧
      (digitsIn 10 (d :: ds) : ℚ) *
          10 ^ ((digitText (shortest m p).digits).length + (shortest m p).exponent -
            (d :: ds).length) =
        (shortest m p).digits * 10 ^ (shortest m p).exponent := by
  obtain ⟨k, whole⟩ := exists_dropped (digitText (shortest m p).digits)
  obtain ⟨c, more, form, lead⟩ :=
    exists_cons_of_toDigits ((between_shortest canonical).pos canonical)
  have nonzero : c ≠ '0' := by rintro rfl; exact absurd lead (by decide)
  have value := digitsIn_toDigits (shortest m p).digits
  rw [digitText] at whole ⊢
  cases dropped : dropTrailingZeros (Nat.toDigits 10 (shortest m p).digits) with
  | nil =>
    rw [dropped, form, List.nil_append] at whole
    exact absurd (List.eq_of_mem_replicate (whole ▸ List.mem_cons_self)) nonzero
  | cons d ds =>
    rw [dropped] at whole
    have digits : Digits (d :: ds) := fun b mem =>
      isDigit_of_mem_toDigits (by rw [whole]; exact List.mem_append_left _ mem)
    have first : c = d := by
      rw [form] at whole
      exact (List.cons.inj whole).1
    refine ⟨d, ds, rfl, first ▸ nonzero, digits, ?_⟩
    rw [whole, digitsIn_append, digitsIn_zeros, Nat.add_zero, List.length_replicate] at value
    have exponent : (((d :: ds) ++ List.replicate k '0').length : Int) + (shortest m p).exponent -
        (d :: ds).length = k + (shortest m p).exponent := by
      rw [List.length_append, List.length_replicate]
      push_cast
      ring
    rw [whole, exponent, zpow_add₀ (by norm_num), zpow_natCast, ← mul_assoc]
    congr 1
    exact_mod_cast value

/-- The positive double or its opposite. -/
theorem eq_of_unpack {x : Float} (canonical : Canonical m p)
    (unpacked : x.toModel.unpack = .finite (signOf negative) m p canonical.pos) :
    x = if negative then -double canonical else double canonical := by
  cases negative with
  | false => exact eq_double canonical unpacked
  | true =>
    have packed := pack_unpack x.toModel
    have opposite : (-double canonical).toModel = .pack (.finite .negative m p canonical.pos) :=
      congrArg (fun u : Float.Model.UnpackedFloat => Float.Model.pack u.neg)
        (unpack_double canonical)
    rw [unpacked] at packed
    exact congrArg Float.ofModel (packed.symm.trans opposite.symm)

/-- A text with a point is read as the double that it was written for, and a text otherwise. -/
theorem resolve_finite {text : String} (canonical : Canonical m p)
    (form : text.toList = signText negative ++
      Layout.shortest.render (dropTrailingZeros (digitText (shortest m p).digits))
        ((digitText (shortest m p).digits).length + (shortest m p).exponent)) :
    resolve text = .ok (if '.' ∈ text.toList then
      .float (if negative then -double canonical else double canonical) else .str text) := by
  obtain ⟨d, ds, dropped, lead, digits, value⟩ := written_digits canonical
  have signless : ∀ cs, '.' ∈ signText negative ++ cs ↔ '.' ∈ cs := fun cs => by
    cases negative <;> simp [signText]
  rw [dropped] at form
  by_cases pointed : '.' ∈ text.toList
  · rw [if_pos pointed]
    rw [form, signless] at pointed
    obtain ⟨whole, fraction, rest, e, parts, laid, same⟩ := laidOut_render digits pointed
    have number := toFloat_shortest canonical (same.trans value)
    obtain ⟨c, more, rfl⟩ := List.exists_cons_of_ne_nil parts.some_digit
    have digit := parts.whole_digits c (by simp)
    have split : splitSign (signText negative ++ (c :: more ++ '.' :: (fraction ++ rest))) =
        (negative, c :: more ++ '.' :: (fraction ++ rest)) := by
      cases negative with
      | false => exact splitSign_of_digit digit
      | true => rfl
    have float : float? (signText negative ++ (c :: more ++ '.' :: (fraction ++ rest))) =
        some (.float (if negative then -double canonical else double canonical)) := by
      rw [parts.float?_eq split, floatOf, number]
    rw [laid] at form
    exact resolve_of_float form digit float
  · rw [if_neg pointed]
    rw [form, signless] at pointed
    rw [render_pointless pointed] at form
    exact resolve_exponent form (digits d (by simp)) lead

theorem eq_of_unpack_zero {x : Float} (unpacked : x.toModel.unpack = .zero (signOf negative)) :
    x = if negative then -0.0 else 0.0 := by
  have packed := pack_unpack x.toModel
  rw [unpacked] at packed
  cases negative <;> exact congrArg Float.ofModel packed.symm

/-- What the text of a double can be. -/
theorem floatText_cases (x : Float) :
    Json.floatText x = "NaN" ∨
    (∃ negative : Bool, Json.floatText x = if negative then "-Infinity" else "Infinity") ∨
    (∃ negative : Bool, x = (if negative then -0.0 else 0.0) ∧
      Json.floatText x = if negative then "-0.0" else "0.0") ∨
    ∃ (negative : Bool) (m : Nat) (p : Int) (canonical : Canonical m p),
      x = (if negative then -double canonical else double canonical) ∧
        (Json.floatText x).toList = signText negative ++
          Layout.shortest.render (dropTrailingZeros (digitText (shortest m p).digits))
            ((digitText (shortest m p).digits).length + (shortest m p).exponent) := by
  unfold Json.floatText
  rcases unpack_cases x with ⟨-, nan⟩ | ⟨negative, -, infinite⟩ | ⟨negative, unpacked, zero⟩ |
    ⟨negative, m, p, canonical, unpacked, finite⟩
  · rw [nan]
    exact .inl rfl
  · rw [infinite]
    exact .inr (.inl ⟨negative, rfl⟩)
  · rw [zero]
    refine .inr (.inr (.inl ⟨negative, eq_of_unpack_zero unpacked, ?_⟩))
    simp only [Decimal.text, zero]
    cases negative <;> rfl
  · rw [finite]
    have some_bit : m ≠ 0 := Nat.ne_of_gt canonical.pos
    refine .inr (.inr (.inr ⟨negative, m, p, canonical, eq_of_unpack canonical unpacked, ?_⟩))
    simp only [Decimal.text, finite, String.toList_ofList]

/-- The text of a double is read as the double if it has a point, and as a text otherwise. -/
theorem resolve_float (x : Float) :
    resolve (Json.floatText x) =
      .ok (if '.' ∈ (Json.floatText x).toList then .float x else .str (Json.floatText x)) := by
  rcases floatText_cases x with nan | ⟨negative, infinite⟩ | ⟨negative, number, zero⟩ |
    ⟨negative, m, p, canonical, number, finite⟩
  · rw [nan]
    rfl
  · rw [infinite]
    cases negative <;> rfl
  · rw [zero, number]
    cases negative <;> rfl
  · rw [resolve_finite canonical finite, ← number]

end Chatflow.Yaml

import RoomLayout.Proofs.Lexing.Faults

/-!
# Plain numerals

A number can be written in many ways, with zeros in front and, if it is zero, with a minus
sign. It is rendered in one of them, its plain numeral. So a text can be had back from the
number that it writes exactly if it is a plain numeral.
-/

namespace RoomLayout

/-- Decimal digits with no zero in front, unless zero is all that they write. -/
structure IsPlainCount (digits : List Char) : Prop where
  run : IsRunOf Char.isDigit digits
  noLeadingZero : digits.head? = some '0' → digits = ['0']

/-- The one way in which a whole number is rendered. -/
inductive IsPlainNumeral : List Char → Prop where
  | count {digits : List Char} (plain : IsPlainCount digits) : IsPlainNumeral digits
  | negative {digits : List Char} (plain : IsPlainCount digits) (nonzero : digits ≠ ['0']) :
      IsPlainNumeral ('-' :: digits)

namespace Decimal

theorem ofDigits_append_singleton (digits : List Char) (digit : Char) :
    ofDigits (digits ++ [digit]) = 10 * ofDigits digits + (digit.toNat - 48) := by
  rw [ofDigits, List.foldl_append]
  rfl

/-- A count is read back from its digits. -/
theorem ofDigits_toDigits (count : Nat) : ofDigits (Nat.toDigits 10 count) = count :=
  Nat.ofDigitChars_toDigits (by decide) (by decide)

end Decimal

/-- A digit is the one of its value. -/
theorem toDigits_of_isDigit {digit : Char} (isDigit : digit.isDigit = true) :
    digit.toNat - 48 < 10 ∧ Nat.toDigits 10 (digit.toNat - 48) = [digit] := by
  obtain ⟨above, below⟩ : 48 ≤ digit.toNat ∧ digit.toNat ≤ 57 := Char.isDigit_iff_toNat.mp isDigit
  have small : digit.toNat - 48 < 10 := by omega
  have same : Nat.digitChar (digit.toNat - 48) = digit := by
    apply Char.toNat_inj.mp
    rw [Nat.toNat_digitChar_of_lt_ten small]
    omega
  exact ⟨small, by rw [Nat.toDigits_of_lt_base small, same]⟩

namespace IsPlainCount

/-- The digits of a plain numeral can be had back from their value. -/
theorem toDigits_ofDigits {digits : List Char} (plain : IsPlainCount digits) :
    Nat.toDigits 10 (Decimal.ofDigits digits) = digits := by
  induction digits using List.reverseRecOn with
  | nil => exact absurd rfl plain.run.1
  | append_singleton digits last inductionHypothesis =>
    obtain ⟨run, noLeadingZero⟩ := plain
    obtain ⟨small, lastDigit⟩ := toDigits_of_isDigit (run.2 last (by simp))
    rw [Decimal.ofDigits_append_singleton]
    cases digits with
    | nil =>
      have empty : Decimal.ofDigits [] = 0 := rfl
      rw [empty, Nat.mul_zero, Nat.zero_add]
      exact lastDigit
    | cons first middle =>
      have notZero : first ≠ '0' := by
        rintro rfl
        exact absurd (noLeadingZero rfl) (by simp)
      have shorter := inductionHypothesis
        ⟨run.of_append (List.cons_ne_nil _ _), fun zero => absurd (Option.some.inj zero) notZero⟩
      have positive : 0 < Decimal.ofDigits (first :: middle) := by
        refine Nat.pos_of_ne_zero fun zero => ?_
        rw [zero] at shorter
        exact notZero (List.cons.inj shorter).1.symm
      rw [← Nat.toDigits_append_toDigits (by decide) positive small, shorter, lastDigit]

/-- The digits of a count are plain. -/
theorem toDigits (count : Nat) : IsPlainCount (Nat.toDigits 10 count) := by
  refine ⟨⟨Nat.toDigits_ne_nil, fun c => Nat.isDigit_of_mem_toDigits (by decide) (by decide)⟩, ?_⟩
  induction count using Nat.strongRecOn with
  | ind count inductionHypothesis =>
    rcases Nat.lt_or_ge count 10 with small | large
    · rw [Nat.toDigits_of_lt_base small]
      exact fun zero => congrArg (fun c => [c]) (Option.some.inj zero)
    · rw [Nat.toDigits_of_base_le (by decide) large,
        List.head?_append_of_ne_nil _ Nat.toDigits_ne_nil]
      intro zero
      have leading := inductionHypothesis (count / 10) (by omega) zero
      have isZero : count / 10 = 0 := by
        rw [← Decimal.ofDigits_toDigits (count / 10), leading]
        rfl
      omega

end IsPlainCount

theorem toList_toString_natCast (count : Nat) :
    (toString (count : Int)).toList = Nat.toDigits 10 count := Nat.toList_repr

theorem toList_toString_negSucc (count : Nat) :
    (toString (Int.negSucc count)).toList = '-' :: Nat.toDigits 10 (count + 1) := by
  rw [Int.toString_eq_repr, Int.repr, String.toList_append, Nat.toList_repr]
  rfl

/-- A whole number is rendered as a plain numeral. -/
theorem isPlainNumeral_toString (value : Int) : IsPlainNumeral (toString value).toList := by
  rcases value with count | count
  · rw [Int.ofNat_eq_natCast, toList_toString_natCast]
    exact .count (.toDigits count)
  · rw [toList_toString_negSucc]
    refine .negative (.toDigits _) fun zero => ?_
    have isZero := congrArg Decimal.ofDigits zero
    rw [Decimal.ofDigits_toDigits] at isZero
    exact Nat.succ_ne_zero count isZero

/-- A whole number is read back from its plain numeral. -/
theorem integerValue_toString (value : Int) : integerValue (toString value).toList = value := by
  rcases value with count | count
  · rw [Int.ofNat_eq_natCast, toList_toString_natCast,
      integerValue_of_isRunOf (IsPlainCount.toDigits count).run, Decimal.ofDigits_toDigits]
  · rw [toList_toString_negSucc]
    exact congrArg (fun count : Nat => -(count : Int)) (Decimal.ofDigits_toDigits _)

/-- A text can be had back from the number that it writes exactly if it is a plain numeral. -/
theorem toString_integerValue_eq_iff {text : List Char} :
    (toString (integerValue text)).toList = text ↔ IsPlainNumeral text := by
  constructor
  · intro same
    rw [← same]
    exact isPlainNumeral_toString _
  · intro plain
    cases plain with
    | count plain =>
      rw [integerValue_of_isRunOf plain.run, toList_toString_natCast, plain.toDigits_ofDigits]
    | @negative digits plain nonzero =>
      rw [integerValue]
      cases written : Decimal.ofDigits digits with
      | zero =>
        have zero := plain.toDigits_ofDigits
        rw [written] at zero
        exact absurd zero.symm nonzero
      | succ count =>
        change (toString (Int.negSucc count)).toList = '-' :: digits
        rw [toList_toString_negSucc, ← written, plain.toDigits_ofDigits]

end RoomLayout

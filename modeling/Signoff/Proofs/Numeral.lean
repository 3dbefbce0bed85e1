import Mathlib.Tactic.Ring
import Signoff.Numeral.Decimal
import Signoff.Numeral.Hex

namespace Signoff.Numeral

section Decimal

theorem digitChar_spec :
    ∀ digit < 10, isDigit (digitChar digit) = true ∧ digitValue (digitChar digit) = digit := by
  decide

/-- Every digit shifts the value before it by one place. -/
theorem foldl_value (value : Nat) (characters : List Char) :
    characters.foldl (fun value character => 10 * value + digitValue character) value =
      value * 10 ^ characters.length + valueOf characters := by
  induction characters generalizing value with
  | nil => simp [valueOf]
  | cons character rest inductionHypothesis =>
      have own : valueOf (character :: rest) = digitValue character * 10 ^ rest.length + valueOf rest := by
        rw [valueOf, List.foldl_cons, Nat.mul_zero, Nat.zero_add, inductionHypothesis]
      rw [List.foldl_cons, inductionHypothesis, own, List.length_cons]
      ring

theorem valueOf_append (front back : List Char) :
    valueOf (front ++ back) = valueOf front * 10 ^ back.length + valueOf back := by
  rw [valueOf, List.foldl_append, foldl_value]
  rfl

theorem valueOf_cons (character : Char) (rest : List Char) :
    valueOf (character :: rest) = digitValue character * 10 ^ rest.length + valueOf rest := by
  rw [valueOf, List.foldl_cons, Nat.mul_zero, Nat.zero_add, foldl_value]

theorem valueOf_singleton {digit : Nat} (small : digit < 10) : valueOf [digitChar digit] = digit := by
  simp [valueOf, (digitChar_spec digit small).2]

theorem valueOf_replicate_zero (count : Nat) : valueOf (List.replicate count '0') = 0 := by
  induction count with
  | zero => rfl
  | succ count inductionHypothesis =>
      rw [List.replicate_succ', valueOf_append, inductionHypothesis]
      rfl

theorem isDigit_of_mem_digits (number : Nat) : ∀ character ∈ digits number, isDigit character := by
  induction number using digits.induct with
  | case1 number small =>
      rw [digits, if_pos small]
      exact List.forall_mem_singleton.mpr (digitChar_spec number small).1
  | case2 number large inductionHypothesis =>
      rw [digits, if_neg large]
      intro character member
      rcases List.mem_append.mp member with front | last
      · exact inductionHypothesis character front
      · rw [List.mem_singleton.mp last]
        exact (digitChar_spec _ (Nat.mod_lt _ (by decide))).1

theorem valueOf_digits (number : Nat) : valueOf (digits number) = number := by
  induction number using digits.induct with
  | case1 number small =>
      rw [digits, if_pos small]
      exact valueOf_singleton small
  | case2 number large inductionHypothesis =>
      rw [digits, if_neg large, valueOf_append, inductionHypothesis,
        valueOf_singleton (Nat.mod_lt _ (by decide))]
      exact Nat.div_add_mod' number 10

/-- A small number has few digits. -/
theorem length_digits_le {number width : Nat} (small : number < 10 ^ width) (positive : 0 < width) :
    (digits number).length ≤ width := by
  induction number using digits.induct generalizing width with
  | case1 number below =>
      rw [digits, if_pos below]
      exact positive
  | case2 number large inductionHypothesis =>
      obtain ⟨shorter, rfl⟩ := Nat.exists_eq_succ_of_ne_zero (Nat.ne_of_gt positive)
      have quotient : number / 10 < 10 ^ shorter := by
        rw [Nat.div_lt_iff_lt_mul (by decide), ← Nat.pow_succ]
        exact small
      have room : 0 < shorter := by
        rcases Nat.eq_zero_or_pos shorter with rfl | room
        · omega
        · exact room
      rw [digits, if_neg large, List.length_append]
      exact Nat.succ_le_succ (inductionHypothesis quotient room)

theorem isDigit_of_mem_paddedDigits (width number : Nat) :
    ∀ character ∈ paddedDigits width number, isDigit character := by
  intro character member
  rcases List.mem_append.mp member with zero | written
  · rw [List.eq_of_mem_replicate zero]
    rfl
  · exact isDigit_of_mem_digits number character written

theorem valueOf_paddedDigits (width number : Nat) : valueOf (paddedDigits width number) = number := by
  rw [paddedDigits, valueOf_append, valueOf_replicate_zero, valueOf_digits, Nat.zero_mul, Nat.zero_add]

theorem le_length_paddedDigits (width number : Nat) : width ≤ (paddedDigits width number).length := by
  rw [paddedDigits, List.length_append, List.length_replicate]
  omega

theorem length_paddedDigits {width number : Nat} (small : number < 10 ^ width) (positive : 0 < width) :
    (paddedDigits width number).length = width := by
  have written := length_digits_le small positive
  rw [paddedDigits, List.length_append, List.length_replicate]
  omega

end Decimal

section Hexadecimal

theorem hexValue?_hexChar : ∀ digit < 16, hexValue? (hexChar digit) = some digit := by
  decide

theorem length_fixedHex (width number : Nat) : (fixedHex width number).length = width := by
  induction width generalizing number with
  | zero => rfl
  | succ width inductionHypothesis =>
      rw [fixedHex, List.length_append, inductionHypothesis]
      rfl

theorem readHexFrom?_append (value : Nat) (front back : List Char) :
    readHexFrom? value (front ++ back) = (readHexFrom? value front).bind (readHexFrom? · back) := by
  induction front generalizing value with
  | nil => rfl
  | cons character rest inductionHypothesis =>
      rw [List.cons_append, readHexFrom?, readHexFrom?]
      cases hexValue? character with
      | none => rfl
      | some digit => exact inductionHypothesis _

/-- The last digits of a number are read behind those that have been read. -/
theorem readHexFrom?_fixedHex (value width number : Nat) :
    readHexFrom? value (fixedHex width number) = some (value * 16 ^ width + number % 16 ^ width) := by
  induction width generalizing number with
  | zero => simp [fixedHex, readHexFrom?, Nat.mod_one]
  | succ width inductionHypothesis =>
      have last := hexValue?_hexChar (number % 16) (Nat.mod_lt _ (by decide))
      rw [fixedHex, readHexFrom?_append, inductionHypothesis, Option.bind_some, readHexFrom?, last]
      refine congrArg some ?_
      rw [Nat.pow_succ', Nat.mod_mul]
      ring

/-- A number is read from as many digits as it needs. -/
theorem readHex?_fixedHex {width number : Nat} (small : number < 16 ^ width) (positive : 0 < width) :
    readHex? (fixedHex width number) = some number := by
  have some : (fixedHex width number).isEmpty = false := by
    rw [← Bool.not_eq_true, List.isEmpty_iff, ← List.length_eq_zero_iff, length_fixedHex]
    exact Nat.ne_of_gt positive
  rw [readHex?, some, if_neg Bool.false_ne_true, readHexFrom?_fixedHex, Nat.zero_mul, Nat.zero_add,
    Nat.mod_eq_of_lt small]

end Hexadecimal

end Signoff.Numeral

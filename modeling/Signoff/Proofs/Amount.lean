import Signoff.Amount.Text
import Signoff.Proofs.Numeral

namespace Signoff.Amount

open Numeral (isDigit valueOf paddedDigits)

/-- This is the amount without the sign of zero. -/
def plain (amount : Amount) : Amount :=
  { amount with negative := amount.negative && amount.coefficient != 0 }

theorem plain_plain (amount : Amount) : amount.plain.plain = amount.plain := by
  simp [plain]

/-- Only a zero with a minus sign is not plain. -/
theorem plain_eq_self_iff (amount : Amount) :
    amount.plain = amount ↔ ¬ (amount.negative = true ∧ amount.coefficient = 0) := by
  obtain ⟨negative, coefficient, scale, _, _⟩ := amount
  cases negative <;> simp [plain]

theorem ofParts?_self (amount : Amount) :
    ofParts? amount.negative amount.coefficient amount.scale = some amount.plain :=
  dif_pos ⟨amount.coefficient_le, amount.scale_le⟩

section Sign

variable {negative : Bool} {coefficient scale : Nat} {amount : Amount}

theorem plain_of_ofParts? (built : ofParts? negative coefficient scale = some amount) :
    amount.plain = amount := by
  unfold ofParts? ofSigned? at built
  split at built
  next =>
    obtain rfl := Option.some.inj built
    simp [plain]
  next => cases built

theorem plain_of_roundedAt? {next : Char} {rest : List Char}
    (rounded : roundedAt? negative coefficient scale next rest = some amount) :
    amount.plain = amount := by
  unfold roundedAt? roundedBy? at rounded
  repeat' split at rounded
  all_goals first
    | exact plain_of_ofParts? rounded
    | cases rounded

theorem plain_of_readFrom? {point digit : Bool} {characters : List Char}
    (read : readFrom? negative coefficient scale point digit characters = some amount) :
    amount.plain = amount := by
  induction characters generalizing coefficient scale point digit with
  | nil =>
      rw [readFrom?] at read
      split at read
      next => exact plain_of_ofParts? read
      next => cases read
  | cons next rest inductionHypothesis =>
      rw [readFrom?] at read
      dsimp only at read
      repeat' split at read
      all_goals first
        | exact inductionHypothesis read
        | exact plain_of_roundedAt? read
        | cases read

/-- No positional text is read as a zero with a minus sign. -/
theorem plain_of_readPositional? {characters : List Char}
    (read : readPositional? characters = some amount) : amount.plain = amount := by
  unfold readPositional? at read
  split at read
  all_goals exact plain_of_readFrom? read

end Sign

/-- Digits that fit are read one after the other, and those behind the point are counted. -/
theorem readFrom?_digits (negative point digit : Bool) {written : List Char}
    (areDigits : ∀ character ∈ written, isDigit character) (coefficient scale : Nat)
    (fits : coefficient * 10 ^ written.length + valueOf written ≤ greatest)
    (room : point = true → scale + written.length ≤ greatestScale) (rest : List Char) :
    readFrom? negative coefficient scale point digit (written ++ rest) =
      readFrom? negative (coefficient * 10 ^ written.length + valueOf written)
        (if point then scale + written.length else scale) point (digit || !written.isEmpty) rest := by
  induction written generalizing digit coefficient scale with
  | nil => simp [valueOf]
  | cons next others inductionHypothesis =>
      have own : isDigit next = true := areDigits next List.mem_cons_self
      have unmarked : ¬ (next = '_' ∧ digit = true) := by
        rintro ⟨rfl, _⟩
        cases own
      have open_ : ¬ (point && decide (greatestScale ≤ scale)) = true := by
        intro full
        obtain ⟨behind, reached⟩ := Bool.and_eq_true_iff.mp full
        have free := room behind
        rw [List.length_cons] at free
        exact absurd (of_decide_eq_true reached) (by omega)
      have value : (10 * coefficient + Numeral.digitValue next) * 10 ^ others.length + valueOf others =
          coefficient * 10 ^ (next :: others).length + valueOf (next :: others) := by
        rw [Numeral.valueOf_cons, List.length_cons]
        ring
      -- The whole value fits, and so does each of its beginnings.
      have longer : 10 * coefficient + Numeral.digitValue next ≤ greatest :=
        ((Nat.le_mul_of_pos_right _ (Nat.pow_pos (by decide))).trans (Nat.le_add_right ..)).trans
          (value ▸ fits)
      have step := inductionHypothesis true
        (fun character member => areDigits character (List.mem_cons_of_mem next member))
        (10 * coefficient + Numeral.digitValue next) (if point then scale + 1 else scale)
        (value ▸ fits) (fun behind => by
          have free := room behind
          rw [List.length_cons] at free
          rw [if_pos behind]
          omega)
      rw [List.cons_append, readFrom?, if_neg unmarked, if_neg open_, if_pos own]
      dsimp only
      rw [if_pos longer, step, value]
      cases point <;> simp [Nat.add_assoc, Nat.add_comm 1]

/-- A text that begins with a digit has no sign. -/
theorem readPositional?_of_digit {first : Char} (own : isDigit first) (rest : List Char) :
    readPositional? (first :: rest) = readFrom? false 0 0 false false (first :: rest) := by
  unfold readPositional?
  split
  next same =>
    obtain ⟨rfl, _⟩ := List.cons.inj same
    cases own
  next same =>
    obtain ⟨rfl, _⟩ := List.cons.inj same
    cases own
  next => rfl

/-- The digits of an amount are those before its point and those behind it. -/
theorem writeChars_eq (amount : Amount) : ∃ whole places,
    amount.writeChars = (if amount.negative then ['-'] else []) ++
      (if amount.scale = 0 then whole else whole ++ '.' :: places) ∧
    whole ≠ [] ∧ places.length = amount.scale ∧
    (∀ character ∈ whole ++ places, isDigit character) ∧
    valueOf (whole ++ places) = amount.coefficient := by
  have enough := Numeral.le_length_paddedDigits (amount.scale + 1) amount.coefficient
  refine ⟨_, _, rfl, ?_, ?_, ?_, ?_⟩
  · rw [← List.length_pos_iff, List.length_take]
    omega
  · rw [List.length_drop]
    omega
  · rw [List.take_append_drop]
    exact Numeral.isDigit_of_mem_paddedDigits _ _
  · rw [List.take_append_drop]
    exact Numeral.valueOf_paddedDigits _ _

/-- The point is read once, behind a digit. -/
theorem readFrom?_point (negative : Bool) (coefficient scale : Nat) (rest : List Char) :
    readFrom? negative coefficient scale false true ('.' :: rest) =
      readFrom? negative coefficient scale true true rest := by
  rw [readFrom?, if_neg (by simp), if_neg (by simp), if_neg (by decide), if_pos (by simp)]

/-- The digits of an amount are read as its coefficient and its scale. -/
theorem readFrom?_places (amount : Amount) (negative : Bool) {whole places : List Char}
    (given : whole ≠ []) (count : places.length = amount.scale)
    (areDigits : ∀ character ∈ whole ++ places, isDigit character)
    (value : valueOf (whole ++ places) = amount.coefficient) :
    readFrom? negative 0 0 false false (if amount.scale = 0 then whole else whole ++ '.' :: places) =
      ofParts? negative amount.coefficient amount.scale := by
  rw [Numeral.valueOf_append] at value
  have wholeDigits : ∀ character ∈ whole, isDigit character := fun character member =>
    areDigits character (List.mem_append_left _ member)
  have placeDigits : ∀ character ∈ places, isDigit character := fun character member =>
    areDigits character (List.mem_append_right _ member)
  have all : valueOf whole * 10 ^ places.length + valueOf places ≤ greatest :=
    value ▸ amount.coefficient_le
  have some : 0 * 10 ^ whole.length + valueOf whole ≤ greatest := by
    have power : 0 < 10 ^ places.length := Nat.pow_pos (by decide)
    have fewer := Nat.le_mul_of_pos_right (valueOf whole) power
    omega
  have front (rest : List Char) : readFrom? negative 0 0 false false (whole ++ rest) =
      readFrom? negative (valueOf whole) 0 false true rest := by
    have read := readFrom?_digits negative false false wholeDigits 0 0 some nofun rest
    have digit : (false || !whole.isEmpty) = true := by simpa using given
    rwa [digit, Nat.zero_mul, Nat.zero_add, if_neg Bool.false_ne_true] at read
  have room : 0 + places.length ≤ greatestScale := by
    rw [Nat.zero_add, count]
    exact amount.scale_le
  have back := readFrom?_digits negative true true placeDigits (valueOf whole) 0 all (fun _ => room) []
  rw [List.append_nil, value, if_pos rfl, Nat.zero_add, count, Bool.true_or] at back
  split
  next zero =>
    have none : places = [] := List.length_eq_zero_iff.mp (count.trans zero)
    have whole_eq : valueOf whole = amount.coefficient := by simpa [none, valueOf] using value
    have read := front []
    rw [List.append_nil, whole_eq] at read
    rw [read, zero, readFrom?, if_pos rfl]
  next positive =>
    rw [front, readFrom?_point, back, readFrom?, if_pos rfl]

theorem read?_write (amount : Amount) : read? amount.write = some amount.plain := by
  obtain ⟨whole, places, written, given, count, areDigits, value⟩ := amount.writeChars_eq
  have read := amount.readFrom?_places amount.negative given count areDigits value
  have positional : readPositional? amount.writeChars = some amount.plain := by
    rw [written, ← ofParts?_self, ← read]
    cases amount.negative with
    | true => rfl
    | false =>
        obtain ⟨first, rest, rfl⟩ := List.exists_cons_of_ne_nil given
        have own := areDigits first List.mem_cons_self
        change readPositional? (if amount.scale = 0 then _ else _) = _
        split
        next => exact readPositional?_of_digit own _
        next => exact readPositional?_of_digit own _
  rw [Amount.read?, write, String.toList_ofList, positional]
  rfl

/-- A minus sign stands in front of a negative amount only. -/
theorem head?_writeChars (amount : Amount) :
    amount.writeChars.head? = some '-' ↔ amount.negative = true := by
  obtain ⟨whole, places, written, given, _, areDigits, _⟩ := amount.writeChars_eq
  rw [written]
  cases amount.negative with
  | true => simp
  | false =>
      obtain ⟨first, rest, rfl⟩ := List.exists_cons_of_ne_nil given
      have own := areDigits first List.mem_cons_self
      have unsigned : first ≠ '-' := by
        rintro rfl
        cases own
      change List.head? (if amount.scale = 0 then _ else _) = _ ↔ _
      split <;> simp [unsigned]

/-- Different amounts are written differently, also those that differ in the sign of zero only. -/
theorem write_injective : Function.Injective write := by
  intro left right same
  have read := left.read?_write
  rw [same, right.read?_write] at read
  obtain ⟨_, coefficient, scale⟩ := Amount.mk.inj (Option.some.inj read)
  have sign : left.negative = right.negative := by
    rw [Bool.eq_iff_iff, ← head?_writeChars, ← head?_writeChars, String.ofList_injective same]
  cases left
  cases right
  dsimp only at sign coefficient scale
  subst sign coefficient scale
  rfl

end Signoff.Amount

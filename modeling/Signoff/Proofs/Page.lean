import Mathlib.Data.List.Basic
import Signoff.Page

namespace Signoff

section Count

variable {total perPage number : Nat}

/-- The count of the pages is a quotient rounded up, as long as it is a count. -/
theorem countPages_eq (positive : 1 ≤ perPage) (bounded : total ≤ perPage * greatestCount) :
    countPages total perPage = if total = 0 then 1 else (total + perPage - 1) / perPage := by
  have within : (total + perPage - 1) / perPage ≤ greatestCount := by
    rw [Nat.div_le_iff_le_mul_add_pred positive]
    omega
  unfold countPages
  by_cases none : total = 0
  · rw [if_pos (.inl none), if_pos none]
  · rw [if_neg (by omega), if_neg none, Nat.min_eq_left within]

/-- All items stand on the pages. -/
theorem le_countPages_mul (positive : 1 ≤ perPage) (bounded : total ≤ perPage * greatestCount) :
    total ≤ countPages total perPage * perPage := by
  rw [countPages_eq positive bounded]
  split
  next none => omega
  next =>
    have above := Nat.lt_mul_div_succ (total + perPage - 1) positive
    rw [Nat.mul_succ, Nat.mul_comm] at above
    omega

/-- A page before the last one has items after it. -/
theorem mul_le_of_lt_countPages (positive : 1 ≤ perPage) (before : number < countPages total perPage) :
    number * perPage ≤ total := by
  unfold countPages at before
  split at before
  next => simp [Nat.lt_one_iff.mp before]
  next =>
    have earlier : number + 1 ≤ (total + perPage - 1) / perPage :=
      Nat.le_trans before (Nat.min_le_left ..)
    have below : (number + 1) * perPage ≤ total + perPage - 1 :=
      (Nat.le_div_iff_mul_le positive).mp earlier
    rw [Nat.succ_mul] at below
    omega

end Count

namespace PageRequest

/-- No offset needs more than 64 bits. -/
theorem offset_le (request : PageRequest) (page : request.page ≤ greatestCount)
    (perPage : request.perPage ≤ greatestCount) : request.offset ≤ Numeral.greatestLong := by
  have before : request.page - 1 ≤ greatestCount := Nat.le_trans (Nat.sub_le ..) page
  exact Nat.le_trans (Nat.mul_le_mul before perPage) (by decide)

section Slice

variable {Item Value : Type}

theorem slice_succ (number perPage : Nat) (items : List Item) :
    slice ⟨number + 1, perPage⟩ items = (items.drop (number * perPage)).take perPage := rfl

/-- A short list is its own first page. -/
theorem slice_one_of_length_le {perPage : Nat} {items : List Item} (short : items.length ≤ perPage) :
    slice ⟨1, perPage⟩ items = items := by
  rw [slice_succ, Nat.zero_mul, List.drop_zero, List.take_of_length_le short]

theorem map_slice (request : PageRequest) (change : Item → Value) (items : List Item) :
    (request.slice items).map change = request.slice (items.map change) := by
  rw [slice, slice, List.map_take, List.map_drop]

theorem slice_sublist (request : PageRequest) (items : List Item) :
    (request.slice items).Sublist items :=
  (List.take_sublist ..).trans (List.drop_sublist ..)

/-- The first pages put together are the beginning of the list. -/
theorem flatMap_slice (perPage count : Nat) (items : List Item) :
    ((List.range count).flatMap fun number => slice ⟨number + 1, perPage⟩ items) =
      items.take (count * perPage) := by
  induction count with
  | zero => simp
  | succ count inductionHypothesis =>
      rw [List.range_succ, List.flatMap_append, inductionHypothesis, Nat.succ_mul, List.take_add]
      simp [slice_succ]

end Slice

/-- The pages with so many items divide a list. -/
structure Divides {Item : Type} (perPage : Nat) (items : List Item) : Prop where
  /-- Put together, the pages are the list. -/
  whole : ((List.range (countPages items.length perPage)).flatMap fun number =>
    slice ⟨number + 1, perPage⟩ items) = items
  /-- Every page but the last is full. -/
  full : ∀ number, 1 ≤ number → number < countPages items.length perPage →
    (slice ⟨number, perPage⟩ items).length = perPage
  /-- There is nothing on the pages after the last. -/
  beyond : ∀ number, countPages items.length perPage < number → slice ⟨number, perPage⟩ items = []
  /-- Page zero is the first page. -/
  first : slice ⟨0, perPage⟩ items = slice ⟨1, perPage⟩ items

theorem divides {Item : Type} {perPage : Nat} {items : List Item} (positive : 1 ≤ perPage)
    (bounded : items.length ≤ perPage * greatestCount) : Divides perPage items where
  whole := by
    rw [flatMap_slice, List.take_of_length_le (le_countPages_mul positive bounded)]
  full := by
    intro number first before
    obtain ⟨earlier, rfl⟩ := Nat.exists_eq_add_of_le' first
    have room := mul_le_of_lt_countPages positive before
    rw [Nat.succ_mul] at room
    rw [slice_succ, List.length_take, List.length_drop]
    omega
  beyond := by
    intro number after
    obtain ⟨earlier, rfl⟩ := Nat.exists_eq_add_of_le' (Nat.one_le_of_lt after)
    have all := le_countPages_mul positive bounded
    have skipped : items.length ≤ earlier * perPage :=
      Nat.le_trans all (Nat.mul_le_mul_right perPage (Nat.le_of_lt_succ after))
    rw [slice_succ, List.drop_of_length_le skipped, List.take_nil]
  first := rfl

end PageRequest

end Signoff

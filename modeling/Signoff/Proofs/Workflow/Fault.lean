import Mathlib.Algebra.Order.Field.Rat
import Mathlib.Tactic.Positivity
import Signoff.Proofs.Workflow.History

namespace Signoff

namespace Text

theorem dropWhile_isBlank_of_head {characters : List Char}
    (starts : ∀ character ∈ characters.head?, ¬ isBlank character) :
    characters.dropWhile isBlank = characters := by
  cases characters with
  | nil => rfl
  | cons first rest => exact List.dropWhile_cons_of_neg (starts first rfl)

/-- There is one way to cut off the white space. -/
theorem IsTrimmed.eq_trim {text kept : String} (trimmed : IsTrimmed text kept) : kept = trim text := by
  obtain ⟨⟨front, back, split, frontBlank, backBlank⟩, starts, ends⟩ := trimmed
  have cut : trimChars text.toList = kept.toList := by
    rw [trimChars, split, List.append_assoc, List.dropWhile_append_of_pos frontBlank]
    by_cases empty : kept.toList = []
    · have nothing : back.dropWhile isBlank = [] := List.dropWhile_eq_nil_iff.mpr backBlank
      rw [empty, List.nil_append, nothing]
      rfl
    · have first : ∀ character ∈ (kept.toList ++ back).head?, ¬ isBlank character := by
        rw [List.head?_append_of_ne_nil _ empty]
        exact starts
      have last : ∀ character ∈ kept.toList.reverse.head?, ¬ isBlank character := by
        rw [List.head?_reverse]
        exact ends
      have backwards : ∀ character ∈ back.reverse, isBlank character := fun character member =>
        backBlank character (List.mem_reverse.mp member)
      rw [dropWhile_isBlank_of_head first, trimEnd, List.reverse_append,
        List.dropWhile_append_of_pos backwards, dropWhile_isBlank_of_head last, List.reverse_reverse]
  rw [trim, cut, String.ofList_toList]

/-- A trimmed text has nothing more to cut off. -/
theorem trim_trim (text : String) : trim (trim text) = trim text := by
  have trimmed := isTrimmed_trim text
  have again : IsTrimmed (trim text) (trim text) :=
    ⟨⟨[], [], by simp, nofun, nofun⟩, trimmed.starts, trimmed.ends⟩
  exact again.eq_trim.symm

theorem trim_eq_empty_iff (text : String) :
    trim text = "" ↔ ∀ character ∈ text.toList, isBlank character := by
  obtain ⟨⟨front, back, split, frontBlank, backBlank⟩, starts, _⟩ := isTrimmed_trim text
  rw [← String.toList_eq_nil_iff]
  constructor
  · intro empty character member
    rw [split, empty, List.append_nil, List.mem_append] at member
    exact member.elim (frontBlank character) (backBlank character)
  · intro blank
    cases kept : (trim text).toList with
    | nil => rfl
    | cons first rest =>
        have member : first ∈ text.toList := by
          rw [split, kept]
          simp
        exact absurd (blank first member) (starts first (by simp [kept]))

end Text

namespace Amount

/-- This is the number that an amount stands for. -/
def value (amount : Amount) : ℚ :=
  (if amount.negative then -1 else 1) * amount.coefficient / 10 ^ amount.scale

theorem isPositive_iff (amount : Amount) : amount.isPositive = true ↔ 0 < amount.value := by
  have unit : (0 : ℚ) < 10 ^ amount.scale := by positivity
  rw [value, div_pos_iff_of_pos_right unit, isPositive]
  cases amount.negative with
  | true => simp
  | false => simp

end Amount

/-- A search that finds every fault and finds nothing in what is valid is exact, since there is no third
case. -/
theorem search_exact {Fault : Type} {found : Option Fault} {Valid : Prop} {Fails : Fault → Prop}
    (ofValid : Valid → found = none) (ofFails : ∀ fault, Fails fault → found = some fault)
    (either : Valid ∨ ∃ fault, Fails fault) :
    (found = none ↔ Valid) ∧ ∀ fault, found = some fault ↔ Fails fault := by
  refine ⟨⟨fun nothing => ?_, ofValid⟩, fun fault => ⟨fun something => ?_, ofFails fault⟩⟩
  · refine either.resolve_right ?_
    rintro ⟨fault, fails⟩
    cases nothing.symm.trans (ofFails fault fails)
  · rcases either with valid | ⟨other, fails⟩
    · cases something.symm.trans (ofValid valid)
    · cases something.symm.trans (ofFails other fails)
      exact fails

namespace Draft

/-- A currency code is three letters from A to Z. -/
structure IsCode (text : String) : Prop where
  length_eq : text.toList.length = 3
  letters : ∀ letter ∈ text.toList, 'A' ≤ letter ∧ letter ≤ 'Z'

theorem isCurrencyCode_iff (text : String) : isCurrencyCode text = true ↔ IsCode text := by
  constructor
  · intro code
    simp only [isCurrencyCode, Bool.and_eq_true, beq_iff_eq, List.all_eq_true, decide_eq_true_eq]
      at code
    exact ⟨code.1, code.2⟩
  · rintro ⟨length, letters⟩
    simpa [isCurrencyCode, length] using letters

/-- These are the drafts without fault. -/
structure IsValid (draft : Draft) : Prop where
  amount_pos : 0 < draft.amount.value
  currency : IsCode (Text.trim draft.currency)
  category_pos : 1 ≤ (Text.trim draft.category).utf8ByteSize
  category_le : (Text.trim draft.category).utf8ByteSize ≤ greatestCategorySize

/-- The draft has this fault, and none of those that are looked for earlier. -/
inductive FailsAt (draft : Draft) : DraftFault → Prop where
  | amount (notPositive : draft.amount.value ≤ 0) : FailsAt draft (.amountNotPositive draft.amount)
  | currency (positive : 0 < draft.amount.value) (unknown : ¬ IsCode (Text.trim draft.currency)) :
      FailsAt draft (.currencyUnknown draft.currency)
  | missing (positive : 0 < draft.amount.value) (code : IsCode (Text.trim draft.currency))
      (blank : ∀ character ∈ draft.category.toList, Text.isBlank character) :
      FailsAt draft .categoryMissing
  | tooLong (positive : 0 < draft.amount.value) (code : IsCode (Text.trim draft.currency))
      (named : ¬ ∀ character ∈ draft.category.toList, Text.isBlank character)
      (long : greatestCategorySize < (Text.trim draft.category).utf8ByteSize) :
      FailsAt draft .categoryTooLong

instance (text : String) : Decidable (IsCode text) :=
  decidable_of_iff _ (isCurrencyCode_iff text)

theorem fault?_eq (draft : Draft) :
    draft.fault? =
      if draft.amount.value ≤ 0 then some (.amountNotPositive draft.amount)
      else if ¬ IsCode (Text.trim draft.currency) then some (.currencyUnknown draft.currency)
      else if Text.trim draft.category = "" then some .categoryMissing
      else if greatestCategorySize < (Text.trim draft.category).utf8ByteSize then some .categoryTooLong
      else none := by
  have amount : (!draft.amount.isPositive) = true ↔ draft.amount.value ≤ 0 := by
    rw [Bool.not_eq_true', Bool.eq_false_iff, Ne, Amount.isPositive_iff, not_lt]
  have currency : (!isCurrencyCode (Text.trim draft.currency)) = true ↔
      ¬ IsCode (Text.trim draft.currency) := by
    rw [Bool.not_eq_true', Bool.eq_false_iff, Ne, isCurrencyCode_iff]
  simp only [fault?, amount, currency]

theorem FailsAt.fault?_eq {draft : Draft} {fault : DraftFault} (fails : draft.FailsAt fault) :
    draft.fault? = some fault := by
  rw [Draft.fault?_eq]
  have emptyIff := Text.trim_eq_empty_iff draft.category
  cases fails with
  | amount notPositive => rw [if_pos notPositive]
  | currency positive unknown => rw [if_neg (not_le.mpr positive), if_pos unknown]
  | missing positive code blank =>
      rw [if_neg (not_le.mpr positive), if_neg (not_not.mpr code), if_pos (emptyIff.mpr blank)]
  | tooLong positive code named long =>
      rw [if_neg (not_le.mpr positive), if_neg (not_not.mpr code), if_neg (mt emptyIff.mp named),
        if_pos long]

theorem IsValid.fault?_eq {draft : Draft} (valid : draft.IsValid) : draft.fault? = none := by
  have named : Text.trim draft.category ≠ "" := by
    intro empty
    have sized := valid.category_pos
    rw [empty] at sized
    exact absurd sized (by decide)
  rw [Draft.fault?_eq, if_neg (not_le.mpr valid.amount_pos), if_neg (not_not.mpr valid.currency),
    if_neg named, if_neg (Nat.not_lt.mpr valid.category_le)]

/-- A draft is valid, or it fails at one of the faults. -/
theorem isValid_or_failsAt (draft : Draft) : draft.IsValid ∨ ∃ fault, draft.FailsAt fault := by
  by_cases positive : 0 < draft.amount.value
  · by_cases code : IsCode (Text.trim draft.currency)
    · by_cases blank : ∀ character ∈ draft.category.toList, Text.isBlank character
      · exact .inr ⟨_, .missing positive code blank⟩
      · have named := mt (Text.trim_eq_empty_iff draft.category).mp blank
        have size := mt String.utf8ByteSize_eq_zero_iff.mp named
        rcases Nat.lt_or_ge greatestCategorySize (Text.trim draft.category).utf8ByteSize with long | short
        · exact .inr ⟨_, .tooLong positive code blank long⟩
        · exact .inl ⟨positive, code, Nat.one_le_iff_ne_zero.mpr size, short⟩
    · exact .inr ⟨_, .currency positive code⟩
  · exact .inr ⟨_, .amount (not_lt.mp positive)⟩

/-- The first fault is found, if there is one. -/
theorem fault?_exact (draft : Draft) :
    (draft.fault? = none ↔ draft.IsValid) ∧ ∀ fault, draft.fault? = some fault ↔ draft.FailsAt fault :=
  search_exact IsValid.fault?_eq (fun _ => FailsAt.fault?_eq) draft.isValid_or_failsAt

/-- What is kept of a valid draft is valid, and is kept as it is. -/
theorem IsValid.trimmed {draft : Draft} (valid : draft.IsValid) : draft.trimmed.IsValid := by
  have currency : Text.trim draft.trimmed.currency = Text.trim draft.currency := Text.trim_trim _
  have category : Text.trim draft.trimmed.category = Text.trim draft.category := Text.trim_trim _
  refine ⟨valid.amount_pos, ?_, ?_, ?_⟩
  · rw [currency]
    exact valid.currency
  · rw [category]
    exact valid.category_pos
  · rw [category]
    exact valid.category_le

theorem trimmed_trimmed (draft : Draft) : draft.trimmed.trimmed = draft.trimmed := by
  simp only [trimmed, Text.trim_trim]

end Draft

namespace Policy

theorem fault?_eq_some_iff (policy : Policy) (fault : RuleFault) :
    policy.fault? = some fault ↔ ∃ threshold, policy = parallel threshold ∧
      (threshold = 0 ∨ greatestPercent < threshold) ∧ fault = .percentOutOfRange threshold := by
  cases policy with
  | sequential => simp [fault?, ofParts, mode, percent, greatestPercent]
  | parallel threshold =>
      simp only [fault?, ofParts, mode, percent]
      by_cases outside : threshold = 0 ∨ greatestPercent < threshold
      · simp [outside, eq_comm]
      · simp [outside]

end Policy

namespace Rule

/-- The name is not blank. -/
def IsNamed (rule : Rule) : Prop :=
  ∃ character ∈ rule.name.toList, ¬ Text.isBlank character

theorem isNamed_iff (rule : Rule) : rule.IsNamed ↔ Text.trim rule.name ≠ "" := by
  rw [Ne, Text.trim_eq_empty_iff, IsNamed]
  push Not
  rfl

/-- These are the rules without fault. -/
structure IsValid (rule : Rule) : Prop where
  named : rule.IsNamed
  approvers_ne_nil : rule.approvers ≠ []
  approvers_nodup : rule.approvers.Nodup
  version_pos : 1 ≤ rule.version
  policy : rule.policy.IsValid

/-- The rule has this fault, and none of those that are looked for earlier. -/
inductive FailsAt (rule : Rule) : RuleFault → Prop where
  | nameless (blank : ∀ character ∈ rule.name.toList, Text.isBlank character) :
      FailsAt rule .nameMissing
  | empty (named : rule.IsNamed) (empty : rule.approvers = []) : FailsAt rule .noApprovers
  | repeated (named : rule.IsNamed) {front back : List Uuid} {approver : Uuid}
      (split : rule.approvers = front ++ approver :: back) (distinct : front.Nodup)
      (known : approver ∈ front) : FailsAt rule (.repeatedApprover approver)
  | unversioned (named : rule.IsNamed) (nonempty : rule.approvers ≠ [])
      (distinct : rule.approvers.Nodup) (version : rule.version < 1) :
      FailsAt rule (.versionNotPositive rule.version)
  | threshold (named : rule.IsNamed) (nonempty : rule.approvers ≠ [])
      (distinct : rule.approvers.Nodup) (version : 1 ≤ rule.version) {threshold : Nat}
      (panel : rule.policy = .parallel threshold)
      (outside : threshold = 0 ∨ Policy.greatestPercent < threshold) :
      FailsAt rule (.percentOutOfRange threshold)

/-- The approver who is found stands behind itself or is seen before, as nobody in front of it does. -/
theorem repeated?_eq_some_iff (seen approvers : List Uuid) (approver : Uuid) :
    repeated? seen approvers = some approver ↔
      ∃ front back, approvers = front ++ approver :: back ∧ front.Nodup ∧
        (∀ other ∈ front, other ∉ seen) ∧ (approver ∈ front ∨ approver ∈ seen) := by
  induction approvers generalizing seen with
  | nil => simp [repeated?]
  | cons first rest inductionHypothesis =>
      by_cases known : first ∈ seen
      · simp only [repeated?, known, if_true, Option.some.injEq]
        constructor
        · rintro rfl
          exact ⟨[], rest, rfl, List.nodup_nil, List.forall_mem_nil _, .inr known⟩
        · rintro ⟨_ | ⟨head, front⟩, back, split, _, unseen, _⟩
          · exact (List.cons.inj split).1
          · obtain ⟨rfl, _⟩ := List.cons.inj split
            exact absurd known (unseen first List.mem_cons_self)
      · simp only [repeated?, known, if_false, inductionHypothesis]
        constructor
        · rintro ⟨front, back, rfl, distinct, unseen, found⟩
          refine ⟨first :: front, back, rfl, ?_, ?_, ?_⟩
          · exact List.nodup_cons.mpr ⟨fun member => unseen first member List.mem_cons_self, distinct⟩
          · intro other member
            rcases List.mem_cons.mp member with rfl | later
            · exact known
            · exact fun inSeen => unseen other later (List.mem_cons_of_mem _ inSeen)
          · simp only [List.mem_cons] at found ⊢
            tauto
        · rintro ⟨_ | ⟨head, front⟩, back, split, distinct, unseen, found⟩
          · obtain ⟨rfl, _⟩ := List.cons.inj split
            exact absurd (found.resolve_left List.not_mem_nil) known
          · obtain ⟨rfl, rfl⟩ := List.cons.inj split
            obtain ⟨absent, distinct⟩ := List.nodup_cons.mp distinct
            refine ⟨front, back, rfl, distinct, ?_, ?_⟩
            · intro other member inSeen
              rcases List.mem_cons.mp inSeen with rfl | earlier
              · exact absent member
              · exact unseen other (List.mem_cons_of_mem _ member) earlier
            · simp only [List.mem_cons] at found ⊢
              tauto

theorem IsValid.fault?_eq {rule : Rule} (valid : rule.IsValid) : rule.fault? = none :=
  (fault?_eq_none_iff rule).mpr ⟨(isNamed_iff rule).mp valid.named,
    ⟨valid.approvers_ne_nil, valid.approvers_nodup⟩, valid.version_pos, valid.policy⟩

theorem FailsAt.fault?_eq {rule : Rule} {fault : RuleFault} (fails : rule.FailsAt fault) :
    rule.fault? = some fault := by
  cases fails with
  | nameless blank => rw [fault?, if_pos ((Text.trim_eq_empty_iff _).mpr blank)]
  | empty named empty =>
      rw [fault?, if_neg ((isNamed_iff rule).mp named), empty]
      rfl
  | @repeated named front back approver split distinct known =>
      have found : repeated? [] rule.approvers = some approver :=
        (repeated?_eq_some_iff ..).mpr ⟨front, back, split, distinct, by simp, .inl known⟩
      have nonempty : rule.approvers ≠ [] := by simp [split]
      have listed : approversFault? rule.approvers = some (.repeatedApprover approver) := by
        simp [approversFault?, nonempty, found]
      rw [fault?, if_neg ((isNamed_iff rule).mp named), listed]
  | unversioned named nonempty distinct version =>
      have listed := (approversFault?_eq_none_iff rule.approvers).mpr ⟨nonempty, distinct⟩
      rw [fault?, if_neg ((isNamed_iff rule).mp named), listed]
      exact if_pos version
  | @threshold named nonempty distinct version threshold panel outside =>
      have listed := (approversFault?_eq_none_iff rule.approvers).mpr ⟨nonempty, distinct⟩
      have unmet := (rule.policy.fault?_eq_some_iff _).mpr ⟨threshold, panel, outside, rfl⟩
      rw [fault?, if_neg ((isNamed_iff rule).mp named), listed]
      exact (if_neg (Int.not_lt.mpr version)).trans unmet

/-- A rule is valid, or it fails at one of the faults. -/
theorem isValid_or_failsAt (rule : Rule) : rule.IsValid ∨ ∃ fault, rule.FailsAt fault := by
  by_cases blank : ∀ character ∈ rule.name.toList, Text.isBlank character
  · exact .inr ⟨_, .nameless blank⟩
  have named := (isNamed_iff rule).mpr (mt (Text.trim_eq_empty_iff _).mp blank)
  by_cases empty : rule.approvers = []
  · exact .inr ⟨_, .empty named empty⟩
  cases found : repeated? [] rule.approvers with
  | some approver =>
      obtain ⟨front, back, split, distinct, _, known⟩ := (repeated?_eq_some_iff ..).mp found
      exact .inr ⟨_, .repeated named split distinct (known.resolve_right List.not_mem_nil)⟩
  | none =>
      have distinct := ((repeated?_eq_none_iff ..).mp found).1
      by_cases version : rule.version < 1
      · exact .inr ⟨_, .unversioned named empty distinct version⟩
      have positive := Int.not_lt.mp version
      cases bad : rule.policy.fault? with
      | none =>
          exact .inl ⟨named, empty, distinct, positive, (Policy.fault?_eq_none_iff _).mp bad⟩
      | some fault =>
          obtain ⟨threshold, panel, outside, _⟩ := (Policy.fault?_eq_some_iff ..).mp bad
          exact .inr ⟨_, .threshold named empty distinct positive panel outside⟩

/-- The first fault is found, if there is one. -/
theorem fault?_exact (rule : Rule) :
    (rule.fault? = none ↔ rule.IsValid) ∧ ∀ fault, rule.fault? = some fault ↔ rule.FailsAt fault :=
  search_exact IsValid.fault?_eq (fun _ => FailsAt.fault?_eq) rule.isValid_or_failsAt

end Rule

end Signoff

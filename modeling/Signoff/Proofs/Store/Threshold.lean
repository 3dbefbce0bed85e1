import Signoff.Proofs.Evaluation.Monotone
import Signoff.Proofs.Store.RuleHistory

namespace Signoff.Store

/-- The stored parts say what the policy does. -/
structure KeepsThreshold (mode : Mode) (percent : Int) (policy : Policy) : Prop where
  mode_eq : mode = policy.mode
  unanimous : mode = .sequential → percent = 100
  evaluate_eq : ∀ ledger, policy.evaluate ledger = (Policy.parallel percent.toNat).evaluate ledger

theorem keepsThreshold (policy : Policy) : KeepsThreshold policy.mode policy.percent policy where
  mode_eq := rfl
  unanimous chain := by
    cases policy with
    | sequential => rfl
    | parallel threshold => cases chain
  evaluate_eq := policy.evaluate_eq_parallel_percent

/-- A chain is evaluated like a panel that asks for a hundred percent, and no number on the way exceeds its
bits. A hundred is also stored with a chain, so every stored policy can be evaluated by its threshold. -/
theorem chain_unanimous :
    (∀ ledger : Ledger, Policy.sequential.evaluate ledger = (Policy.parallel 100).evaluate ledger) ∧
    (∀ ledger : Ledger, ledger ≠ [] → ledger.length ≤ greatestCount →
      Tally.checkedStatus? 100 ledger = some (Policy.sequential.evaluate ledger)) ∧
    Policy.sequential.percent = 100 ∧
    ∀ store : Store, store.Reachable → ∃ tables, store.tables = some tables ∧
      (∀ row ∈ tables.rules, ∃ rule, store.getRule row.id = .ok rule ∧
        KeepsThreshold row.mode row.percent rule.policy) ∧
      ∀ row ∈ tables.expenses, ∃ policy,
        policyOf row.mode row.percent (.expenseThreshold row.id row.percent) = .ok policy ∧
          KeepsThreshold row.mode row.percent policy := by
  have chain := Policy.sequential.evaluate_eq_parallel_percent
  refine ⟨chain, fun ledger nonempty counted => ?_, rfl, fun store reachable => ?_⟩
  · rw [chain ledger]
    exact Tally.checkedStatus?_eq_some _ nonempty counted
  · obtain ⟨tables, opened, holding, book⟩ := reachable.ruleBook
    refine ⟨tables, opened, fun row member => ?_, fun row member => ?_⟩
    · obtain ⟨rule, keeps⟩ := book.kept row member
      have stored : tables.HasRule rule row.active := ⟨row, member, rfl, keeps⟩
      refine ⟨rule, ?_, ?_⟩
      · rw [keeps.id_eq]
        exact (stored.offers opened book).read
      · rw [keeps.mode_eq, keeps.percent_eq]
        exact keepsThreshold rule.policy
    · obtain ⟨submission, same, stored, _⟩ := holding.stored row.id (List.mem_map_of_mem member)
      obtain rfl := stored.row_eq member same.symm
      exact ⟨_, policyOf_percent stored.valid _, keepsThreshold submission.expense.policy⟩

end Signoff.Store

namespace Signoff.Example

open Store

/-- The percentage that is given for a chain is checked, but not kept. -/
def createChain : Operation :=
  .createRule ⟨panelRule.company, panelRule.name, panelRule.approvers, .sequential, 40⟩ panelRule.id noon

end Signoff.Example

namespace Signoff.Store

open Example

/-- The chain is stored with a hundred percent, and a panel with this threshold rejects a divided ledger. -/
theorem createChain_unanimous :
    let store := (office.perform createChain).2
    store.Reachable ∧
      (dividedLedger ≠ [] ∧ dividedLedger.length ≤ greatestCount ∧
        Tally.checkedStatus? 100 dividedLedger = some .rejected) ∧
      ∃ tables, store.tables = some tables ∧ ∃ row ∈ tables.rules, row.mode = .sequential ∧
        row.percent = 100 := by
  intro store
  have reachable : store.Reachable := .performed (.empty rfl) createChain
  obtain ⟨_, checked, _, stored⟩ := chain_unanimous
  obtain ⟨tables, opened, rules, _⟩ := stored store reachable
  have modes : store.tables.map (·.rules.map (·.mode)) = some [.sequential] := by decide
  rw [opened, Option.map_some, Option.some_inj] at modes
  have chain : .sequential ∈ tables.rules.map (·.mode) := by
    rw [modes]
    exact List.mem_cons_self
  obtain ⟨row, member, mode⟩ := List.mem_map.mp chain
  obtain ⟨rule, _, keeps⟩ := rules row member
  refine ⟨reachable, ⟨by decide, by decide, ?_⟩, tables, opened, row, member, mode,
    keeps.unanimous mode⟩
  rw [checked dividedLedger (by decide) (by decide)]
  decide

end Signoff.Store

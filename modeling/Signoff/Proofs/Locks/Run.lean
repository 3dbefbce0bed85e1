import Signoff.Proofs.Locks.Round

namespace Signoff.Locks

/-- Requests arrive, are polled and go away. A guard is released at once, or others act after its mutex has
been passed on and before the entry is looked after. -/
inductive Action
  | request (key : Uuid)
  | poll (count : Nat)
  | release (ticket : Ticket)
  | passOn (ticket : Ticket)
  | sweep (key : Uuid)
  | cancel (ticket : Ticket)
deriving DecidableEq

/-- The mutex of a guard is passed on, and nothing happens when there is no such guard. -/
def passOn (locks : Locks) (ticket : Ticket) : Locks :=
  match locks.held.find? fun guard => guard.ticket = ticket with
  | some guard => locks.unlock guard
  | none => locks

def act (locks : Locks) : Action → Locks
  | .request key => locks.request key
  | .poll count => locks.pollFirst count
  | .release ticket => locks.release ticket
  | .passOn ticket => locks.passOn ticket
  | .sweep key => locks.sweep key
  | .cancel ticket => locks.cancel ticket

/-- An action concerns the keys of those who act. -/
def Action.Concerns (locks : Locks) (key : Uuid) : Action → Prop
  | .request asked => asked = key
  | .poll count => ∃ request ∈ locks.pending.take count, request.key = key
  | .release ticket | .passOn ticket => ∃ guard ∈ locks.held, guard.ticket = ticket ∧ guard.key = key
  | .sweep swept => swept = key
  | .cancel ticket => ∃ request ∈ locks.pending, request.ticket = ticket ∧ request.key = key

section Lists

variable (locks : Locks) {ticket : Ticket}

theorem withoutGuard_eq_self (gone : ∀ guard ∈ locks.held, guard.ticket ≠ ticket) :
    locks.withoutGuard ticket = locks := by
  rw [withoutGuard, List.filter_eq_self.mpr fun guard member => decide_eq_true (gone guard member)]

theorem withoutRequest_eq_self (gone : ∀ request ∈ locks.pending, request.ticket ≠ ticket) :
    locks.withoutRequest ticket = locks := by
  rw [withoutRequest, List.filter_eq_self.mpr fun request member => decide_eq_true (gone request member)]

theorem cancel_eq_self (gone : ∀ request ∈ locks.pending, request.ticket ≠ ticket) :
    locks.cancel ticket = locks := by
  have absent : locks.pending.find? (fun request => request.ticket = ticket) = none := by
    simpa using gone
  rw [Locks.cancel, absent]

theorem sweep_eq (key : Uuid) : ∃ entries, locks.sweep key = { locks with entries := entries } := by
  unfold Locks.sweep
  split
  next entry _ =>
    split
    next => exact ⟨_, rfl⟩
    next => exact ⟨_, rfl⟩
  next => exact ⟨_, rfl⟩

theorem unlock_eq (guard : Request) :
    ∃ mutexes, locks.unlock guard = { locks.withoutGuard guard.ticket with mutexes := mutexes } := by
  unfold Locks.unlock
  split
  next => exact ⟨_, rfl⟩
  next => exact ⟨_, rfl⟩

/-- Nobody but the guard goes away, whether its entry is looked after or not. -/
theorem passOn_eq (ticket : Ticket) :
    (∃ mutexes, locks.passOn ticket = { locks.withoutGuard ticket with mutexes := mutexes }) ∧
      ∃ entries mutexes, locks.release ticket =
        { locks.withoutGuard ticket with entries := entries, mutexes := mutexes } := by
  unfold Locks.passOn Locks.release
  cases found : locks.held.find? fun guard => guard.ticket = ticket with
  | none =>
      have gone : ∀ guard ∈ locks.held, guard.ticket ≠ ticket := by
        simpa using List.find?_eq_none.mp found
      rw [locks.withoutGuard_eq_self gone]
      exact ⟨⟨_, rfl⟩, _, _, rfl⟩
  | some guard =>
      obtain rfl : guard.ticket = ticket := by simpa using List.find?_some found
      obtain ⟨mutexes, unlocked⟩ := locks.unlock_eq guard
      obtain ⟨entries, swept⟩ := (locks.unlock guard).sweep_eq guard.key
      refine ⟨⟨mutexes, unlocked⟩, entries, mutexes, ?_⟩
      dsimp only
      rw [swept, unlocked]

/-- Nobody but the request goes away, whether it has been polled or not. -/
theorem cancel_eq (ticket : Ticket) :
    ∃ mutexes, locks.cancel ticket = { locks.withoutRequest ticket with mutexes := mutexes } := by
  cases found : locks.pending.find? fun request => request.ticket = ticket with
  | none =>
      have gone : ∀ request ∈ locks.pending, request.ticket ≠ ticket := by
        simpa using List.find?_eq_none.mp found
      rw [locks.cancel_eq_self gone, locks.withoutRequest_eq_self gone]
      exact ⟨_, rfl⟩
  | some request =>
      rw [Locks.cancel, found]
      dsimp only
      cases request.handle with
      | none => exact ⟨_, rfl⟩
      | some handle => exact ⟨_, rfl⟩

end Lists

section Act

variable {locks : Locks}

theorem Sound.passOn (sound : locks.Sound) (ticket : Ticket) :
    locks.passOn ticket = locks ∧ locks.release ticket = locks ∨
      ∃ guard ∈ locks.held, guard.ticket = ticket ∧ locks.Moves (locks.passOn ticket) guard.key ∧
        locks.Moves (locks.release ticket) guard.key := by
  unfold Locks.passOn Locks.release
  cases found : locks.held.find? fun guard => guard.ticket = ticket with
  | none => exact .inl ⟨rfl, rfl⟩
  | some guard =>
      have member := List.mem_of_find?_eq_some found
      have named : guard.ticket = ticket := by simpa using List.find?_some found
      have moves := sound.unlock member
      exact .inr ⟨guard, member, named, moves, moves.trans (moves.sound.sweep guard.key)⟩

/-- Whatever happens, the locks stay sound and a key that it does not concern stays as it is. -/
theorem Sound.act (sound : locks.Sound) (action : Action) :
    (locks.act action).Sound ∧
      ∀ key, ¬ action.Concerns locks key → locks.Spares (locks.act action) key := by
  cases action with
  | request asked =>
      have moves := sound.request asked
      exact ⟨moves.sound, fun key apart => moves.spares key fun same => apart same.symm⟩
  | poll count =>
      have due := sound.ordered.due count
      have everyone : (locks.pollFirst count).Sound ∧ True :=
        @Sound.round locks _ (fun _ _ => True) (fun _ _ _ _ _ _ _ => trivial)
          (fun _ _ _ _ _ => trivial) sound due trivial
      refine ⟨everyone.1, fun key apart => sound.spares_round due fun request member listed => ?_⟩
      obtain ⟨pending, own⟩ := List.mem_filter.mp member
      obtain ⟨polled, taken, same⟩ := List.mem_map.mp listed
      obtain rfl := sound.ordered.request_eq (List.mem_of_mem_take taken) pending same
      exact absurd ⟨polled, taken, of_decide_eq_true own⟩ apart
  | release ticket =>
      obtain ⟨_, same⟩ | ⟨guard, member, named, _, moves⟩ := sound.passOn ticket
      · rw [Locks.act, same]
        exact ⟨sound, fun key _ => .refl locks key⟩
      · exact ⟨moves.sound, fun key apart => moves.spares key fun same =>
          apart ⟨guard, member, named, same.symm⟩⟩
  | passOn ticket =>
      obtain ⟨same, _⟩ | ⟨guard, member, named, moves, _⟩ := sound.passOn ticket
      · rw [Locks.act, same]
        exact ⟨sound, fun key _ => .refl locks key⟩
      · exact ⟨moves.sound, fun key apart => moves.spares key fun same =>
          apart ⟨guard, member, named, same.symm⟩⟩
  | sweep swept =>
      have moves := sound.sweep swept
      exact ⟨moves.sound, fun key apart => moves.spares key fun same => apart same.symm⟩
  | cancel ticket =>
      by_cases known : ∃ request ∈ locks.pending, request.ticket = ticket
      · obtain ⟨request, member, rfl⟩ := known
        have moves := sound.cancel member
        exact ⟨moves.sound, fun key apart => moves.spares key fun same =>
          apart ⟨request, member, rfl, same.symm⟩⟩
      · push Not at known
        rw [Locks.act, locks.cancel_eq_self known]
        exact ⟨sound, fun key _ => .refl locks key⟩

end Act

end Signoff.Locks

import Signoff.Proofs.Locks.Registry

namespace Signoff.Locks

/-- These are the guards of a key in the order of acquisition. -/
def guardsOf (locks : Locks) (key : Uuid) : List Request :=
  locks.held.filter fun guard => guard.key = key

/-- These are the requests for a key in the order of arrival. -/
def requestsOf (locks : Locks) (key : Uuid) : List Request :=
  locks.pending.filter fun request => request.key = key

def holders (locks : Locks) (key : Uuid) : List Ticket :=
  (locks.guardsOf key).map (·.ticket)

/-- These are the requests that have been polled. -/
def waiters (locks : Locks) (key : Uuid) : List Ticket :=
  ((locks.requestsOf key).filter (·.handle.isSome)).map (·.ticket)

/-- The mutex is free, or its owner has a guard, or its owner is the first of those who wait. -/
inductive Mutex.Serves : Mutex → List Ticket → List Ticket → Prop
  | free : Serves .free [] []
  | held (owner : Ticket) (queue : List Ticket) : Serves ⟨some owner, queue⟩ [owner] queue
  | handed (owner : Ticket) (queue : List Ticket) : Serves ⟨some owner, queue⟩ [] (owner :: queue)

theorem filter_ne_cons {ticket : Ticket} {rest : List Ticket} (absent : ticket ∉ rest) :
    (ticket :: rest).filter (· ≠ ticket) = rest := by
  rw [List.filter_cons_of_neg (by simp), List.filter_eq_self]
  intro other member
  exact decide_eq_true fun same => absent (same ▸ member)

namespace Mutex.Serves

variable {mutex : Mutex} {holding waiting : List Ticket} {ticket : Ticket}

theorem queue_subset (serves : mutex.Serves holding waiting) : mutex.queue ⊆ waiting := by
  cases serves with
  | free => exact List.nil_subset _
  | held => exact List.Subset.refl _
  | handed => exact List.subset_cons_self _ _

theorem owned_or_queued (serves : mutex.Serves holding waiting) (member : ticket ∈ waiting) :
    mutex.owner = some ticket ∨ ticket ∈ mutex.queue := by
  cases serves with
  | free => cases member
  | held => exact .inr member
  | handed => exact (List.mem_cons.mp member).imp_left fun same => congrArg some same.symm

theorem eq_free (serves : mutex.Serves [] []) : mutex = .free := by
  cases serves
  rfl

theorem length_holding (serves : mutex.Serves holding waiting) : holding.length ≤ 1 := by
  cases serves <;> simp

theorem take (serves : mutex.Serves holding waiting) (unowned : mutex.owner = none)
    (ticket : Ticket) : (mutex.take ticket).Serves (holding ++ [ticket]) waiting := by
  cases serves with
  | free => exact .held ticket []
  | held | handed => cases unowned

theorem join (serves : mutex.Serves holding waiting) (owned : mutex.owner ≠ none)
    (ticket : Ticket) : (mutex.join ticket).Serves holding (waiting ++ [ticket]) := by
  cases serves with
  | free => exact absurd rfl owned
  | held owner => exact .held owner (waiting ++ [ticket])
  | handed owner queue => exact .handed owner (queue ++ [ticket])

/-- The owner that has been handed the mutex leaves those who wait and has a guard. -/
theorem grant (serves : mutex.Serves holding waiting) (distinct : (holding ++ waiting).Nodup)
    (owned : mutex.owner = some ticket) (waits : ticket ∈ waiting) :
    mutex.Serves (holding ++ [ticket]) (waiting.filter (· ≠ ticket)) := by
  cases serves with
  | free => cases owned
  | held owner =>
      obtain rfl := Option.some_inj.mp owned
      exact absurd waits (List.nodup_cons.mp distinct).1
  | handed owner queue =>
      obtain rfl := Option.some_inj.mp owned
      rw [filter_ne_cons (List.nodup_cons.mp distinct).1]
      exact .held owner queue

/-- The next in the queue is handed the mutex. -/
theorem handOn (owner : Ticket) (queue : List Ticket) :
    (Mutex.mk (some owner) queue).passOn.Serves [] queue := by
  cases queue with
  | nil => exact .free
  | cons next rest => exact .handed next rest

theorem passOn (serves : mutex.Serves holding waiting) (holds : ticket ∈ holding) :
    mutex.passOn.Serves (holding.filter (· ≠ ticket)) waiting := by
  cases serves with
  | free | handed => cases holds
  | held owner =>
      obtain rfl := List.mem_singleton.mp holds
      rw [List.filter_cons_of_neg (by simp)]
      exact handOn ticket waiting

theorem leave (serves : mutex.Serves holding waiting) (distinct : (holding ++ waiting).Nodup)
    (waits : ticket ∈ waiting) :
    (mutex.leave ticket).Serves holding (waiting.filter (· ≠ ticket)) := by
  cases serves with
  | free => cases waits
  | held owner =>
      have different : owner ≠ ticket := fun same =>
        (List.nodup_cons.mp distinct).1 (same ▸ waits)
      rw [Mutex.leave, if_neg (mt Option.some_inj.mp different)]
      exact .held owner _
  | handed owner queue =>
      by_cases same : owner = ticket
      · subst same
        rw [Mutex.leave, if_pos rfl, filter_ne_cons (List.nodup_cons.mp distinct).1]
        exact handOn owner queue
      · rw [Mutex.leave, if_neg (mt Option.some_inj.mp same),
          List.filter_cons_of_pos (by simp [same])]
        exact .handed owner _

end Mutex.Serves

/-- The earlier request has been polled before the later one. -/
def Request.Precedes (earlier later : Request) : Prop :=
  earlier.ticket < later.ticket ∧ (later.handle.isSome → earlier.handle.isSome)

/-- Tickets are told apart, requests stand and are polled in the order of their tickets, and every guard has
a handle. -/
structure Ordered (locks : Locks) : Prop where
  distinct : ((locks.held ++ locks.pending).map (·.ticket)).Nodup
  issued : ∀ request ∈ locks.held ++ locks.pending, request.ticket < locks.nextTicket
  arrived : locks.pending.Pairwise Request.Precedes
  guarded : ∀ guard ∈ locks.held, guard.handle.isSome

/-- The mutex of every key serves its guards and those who wait for it. -/
structure Sound (locks : Locks) : Prop where
  registered : locks.Registered
  ordered : locks.Ordered
  serves : ∀ key, (locks.mutexOf key).Serves (locks.holders key) (locks.waiters key)

theorem sound_empty : empty.Sound where
  registered := registered_empty
  ordered := ⟨List.nodup_nil, fun _ member => absurd member List.not_mem_nil, .nil,
    fun _ member => absurd member List.not_mem_nil⟩
  serves := fun _ => .free

namespace Ordered

variable {locks : Locks} (ordered : locks.Ordered) {left right : Request}

include ordered

theorem eq_of_ticket (leftMember : left ∈ locks.held ++ locks.pending)
    (rightMember : right ∈ locks.held ++ locks.pending) (same : left.ticket = right.ticket) :
    left = right :=
  List.inj_on_of_nodup_map ordered.distinct leftMember rightMember same

theorem guard_eq (leftMember : left ∈ locks.held) (rightMember : right ∈ locks.held)
    (same : left.ticket = right.ticket) : left = right :=
  ordered.eq_of_ticket (List.mem_append_left _ leftMember) (List.mem_append_left _ rightMember) same

theorem request_eq (leftMember : left ∈ locks.pending) (rightMember : right ∈ locks.pending)
    (same : left.ticket = right.ticket) : left = right :=
  ordered.eq_of_ticket (List.mem_append_right _ leftMember) (List.mem_append_right _ rightMember) same

theorem ticket_ne (guardMember : left ∈ locks.held) (requestMember : right ∈ locks.pending) :
    left.ticket ≠ right.ticket := by
  have distinct := ordered.distinct
  rw [List.map_append, List.nodup_append] at distinct
  exact distinct.2.2 _ (List.mem_map_of_mem guardMember) _ (List.mem_map_of_mem requestMember)

theorem nodup_served (key : Uuid) : (locks.holders key ++ locks.waiters key).Nodup := by
  have distinct := ordered.distinct
  rw [List.map_append] at distinct
  have held : (locks.holders key).Sublist (locks.held.map (·.ticket)) := List.filter_sublist.map _
  have pending : (locks.waiters key).Sublist (locks.pending.map (·.ticket)) :=
    (List.filter_sublist.trans List.filter_sublist).map _
  exact distinct.sublist (held.append pending)

theorem mem_waiters_iff (member : right ∈ locks.pending) :
    right.ticket ∈ locks.waiters right.key ↔ right.handle.isSome := by
  constructor
  · intro waits
    obtain ⟨other, otherMember, same⟩ := List.mem_map.mp waits
    obtain ⟨requested, polled⟩ := List.mem_filter.mp otherMember
    obtain rfl := ordered.request_eq (List.mem_filter.mp requested).1 member same
    exact polled
  · intro polled
    refine List.mem_map_of_mem (List.mem_filter.mpr ⟨?_, polled⟩)
    exact List.mem_filter.mpr ⟨member, decide_eq_true rfl⟩

end Ordered

/-- No two guards have the same key. -/
theorem Sound.nodup_keys {locks : Locks} (sound : locks.Sound) : (locks.held.map (·.key)).Nodup := by
  rw [List.nodup_iff_count_le_one]
  intro key
  have counted : (locks.held.map (·.key)).count key = (locks.holders key).length := by
    rw [List.count, List.countP_map, List.countP_eq_length_filter, holders, guardsOf, List.length_map]
    congr 2
  rw [counted]
  exact (sound.serves key).length_holding

end Signoff.Locks

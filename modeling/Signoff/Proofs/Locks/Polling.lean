import Signoff.Proofs.Locks.Operation

namespace Signoff.Locks

section Grant

variable {before after : Locks} {request : Request} {handle : Handle}

/-- A request that becomes a guard keeps its ticket. -/
theorem Ordered.grant (ordered : before.Ordered) (member : request ∈ before.pending)
    (held : after.held = before.held ++ [request.bind handle])
    (pending : after.pending = before.pending.filter (·.ticket ≠ request.ticket))
    (next : after.nextTicket = before.nextTicket) : after.Ordered where
  distinct := by
    rw [held, pending, List.map_append, List.nodup_append, List.map_append, List.nodup_append]
    have distinct := ordered.distinct
    rw [List.map_append, List.nodup_append] at distinct
    refine ⟨⟨distinct.1, List.nodup_singleton _, ?_⟩,
      distinct.2.1.sublist (List.filter_sublist.map _), ?_⟩
    · rintro other known _ new rfl
      obtain ⟨old, oldMember, same⟩ := List.mem_map.mp known
      exact ordered.ticket_ne oldMember member (same.trans (List.mem_singleton.mp new))
    · intro left leftMember right rightMember
      obtain ⟨rest, restMember, rfl⟩ := List.mem_map.mp rightMember
      obtain ⟨pendingMember, apart⟩ := List.mem_filter.mp restMember
      rcases List.mem_append.mp leftMember with old | new
      · exact distinct.2.2 left old _ (List.mem_map_of_mem pendingMember)
      · have own : left = request.ticket := List.mem_singleton.mp new
        exact own ▸ (of_decide_eq_true apart).symm
  issued := by
    intro other otherMember
    rw [next]
    rw [held, pending, List.append_assoc, List.mem_append, List.mem_append,
      List.mem_singleton] at otherMember
    obtain old | rfl | rest := otherMember
    · exact ordered.issued other (List.mem_append_left _ old)
    · exact ordered.issued request (List.mem_append_right _ member)
    · exact ordered.issued other (List.mem_append_right _ (List.mem_filter.mp rest).1)
  arrived := pending ▸ ordered.arrived.sublist List.filter_sublist
  guarded := by
    intro other otherMember
    rw [held, List.mem_append, List.mem_singleton] at otherMember
    obtain old | rfl := otherMember
    · exact ordered.guarded other old
    · rfl

/-- A request becomes a guard when its mutex serves it as one. -/
theorem Sound.grant (sound : before.Sound) (member : request ∈ before.pending)
    (entered : ⟨request.key, handle⟩ ∈ before.entries)
    (entries : after.entries = before.entries)
    (length : after.mutexes.length = before.mutexes.length)
    (next : after.nextTicket = before.nextTicket)
    (held : after.held = before.held ++ [request.bind handle])
    (pending : after.pending = before.pending.filter (·.ticket ≠ request.ticket))
    (mutexes : ∀ other, other ≠ request.key → after.mutexOf other = before.mutexOf other)
    (own : (after.mutexOf request.key).Serves (before.holders request.key ++ [request.ticket])
      ((before.waiters request.key).filter (· ≠ request.ticket))) :
    before.Moves after request.key := by
  have guards (other : Uuid) : after.guardsOf other = before.guardsOf other ++
      if request.key = other then [request.bind handle] else [] := by
    simp only [guardsOf, held, List.filter_append]
    by_cases same : request.key = other <;> simp [Request.bind, same]
  refine sound.moves ?_ (sound.ordered.grant member held pending next) mutexes ?_ ?_ ?_
  · apply sound.registered.of_handles entries length
    intro other otherMember shared same
    rw [held, pending, List.append_assoc, List.mem_append, List.mem_append,
      List.mem_singleton] at otherMember
    obtain old | rfl | rest := otherMember
    · exact sound.registered.bound other (List.mem_append_left _ old) shared same
    · cases same
      exact entered
    · exact sound.registered.bound other (List.mem_append_right _ (List.mem_filter.mp rest).1)
        shared same
  · intro other different
    rw [guards, if_neg different.symm, List.append_nil]
  · intro other different
    rw [requestsOf, pending]
    exact filter_filter_of_ne
      (fun found known => sound.ordered.request_eq known member) different
  · rw [holders, guards, if_pos rfl, List.map_append, waiters_of_filter pending]
    exact own

end Grant

section Join

variable {before after : Locks} {request : Request} {handle : Handle}

/-- A request stands behind those that arrived before it. -/
theorem Ordered.split (ordered : before.Ordered) (member : request ∈ before.pending) :
    ∃ front back, before.pending = front ++ request :: back ∧
      (∀ earlier ∈ front, earlier.Precedes request) ∧ ∀ later ∈ back, request.Precedes later := by
  obtain ⟨front, back, parts⟩ := List.append_of_mem member
  have arrived := ordered.arrived
  rw [parts, List.pairwise_append, List.pairwise_cons] at arrived
  exact ⟨front, back, parts, fun earlier inFront => arrived.2.2 earlier inFront request List.mem_cons_self,
    arrived.2.1.1⟩

/-- The handle is kept by this request only. -/
theorem withHandle_eq {front back : List Request} (parts : before.pending = front ++ request :: back)
    (earlier : ∀ other ∈ front, other.Precedes request)
    (later : ∀ other ∈ back, request.Precedes other) :
    (before.withHandle request.ticket handle).pending = front ++ request.bind handle :: back := by
  have unchanged {others : List Request} (apart : ∀ other ∈ others, other.ticket ≠ request.ticket) :
      others.map (fun other => if other.ticket = request.ticket then other.bind handle else other) =
        others := by
    conv_rhs => rw [← List.map_id others]
    exact List.map_congr_left fun other member => if_neg (apart other member)
  rw [withHandle, parts]
  simp only [List.map_append, List.map_cons, if_true]
  rw [unchanged fun other member => Nat.ne_of_lt (earlier other member).1,
    unchanged fun other member => Nat.ne_of_gt (later other member).1]

/-- A request that is polled for the first time keeps its place. -/
theorem Ordered.join {front back : List Request} (ordered : before.Ordered)
    (parts : before.pending = front ++ request :: back)
    (polled : ∀ other ∈ front, other.handle.isSome) (held : after.held = before.held)
    (pending : after.pending = front ++ request.bind handle :: back)
    (next : after.nextTicket = before.nextTicket) : after.Ordered where
  distinct := by
    have tickets : (after.held ++ after.pending).map (·.ticket) =
        (before.held ++ before.pending).map (·.ticket) := by
      simp [held, pending, parts, Request.bind]
    exact tickets ▸ ordered.distinct
  issued := by
    intro other otherMember
    have issued := ordered.issued
    rw [parts] at issued
    rw [held, pending] at otherMember
    rw [next]
    simp only [List.mem_append, List.mem_cons] at issued otherMember
    obtain old | inFront | rfl | inBack := otherMember
    · exact issued other (.inl old)
    · exact issued other (.inr (.inl inFront))
    · exact issued request (.inr (.inr (.inl rfl)))
    · exact issued other (.inr (.inr (.inr inBack)))
  arrived := by
    have arrived := ordered.arrived
    rw [parts, List.pairwise_append, List.pairwise_cons] at arrived
    obtain ⟨front, ⟨later, back⟩, across⟩ := arrived
    rw [pending, List.pairwise_append, List.pairwise_cons]
    refine ⟨front, ⟨fun other inBack => ⟨(later other inBack).1, fun _ => rfl⟩, back⟩, ?_⟩
    intro other inFront last member
    rcases List.mem_cons.mp member with rfl | inBack
    · exact ⟨(across other inFront request List.mem_cons_self).1, fun _ => polled other inFront⟩
    · exact across other inFront last (List.mem_cons_of_mem _ inBack)
  guarded := held ▸ ordered.guarded

/-- A request that is polled for the first time joins those that were polled before it. -/
theorem Sound.join (sound : before.Sound) (member : request ∈ before.pending)
    (unpolled : request.handle = none)
    (turn : ∀ other ∈ before.pending, other.ticket < request.ticket → other.handle.isSome)
    (entered : ⟨request.key, handle⟩ ∈ before.entries)
    (owned : (before.mutexOf request.key).owner ≠ none) :
    before.Moves ((before.updateMutex handle fun taken => taken.join request.ticket).withHandle
      request.ticket handle) request.key := by
  obtain ⟨front, back, parts, earlier, later⟩ := sound.ordered.split member
  generalize afterEq : (before.updateMutex handle fun taken => taken.join request.ticket).withHandle
    request.ticket handle = after
  have held : after.held = before.held := afterEq ▸ rfl
  have pending : after.pending = front ++ request.bind handle :: back :=
    afterEq ▸ withHandle_eq parts earlier later
  have mutexes (other : Uuid) : after.mutexOf other =
      if other = request.key then (before.mutexOf request.key).join request.ticket
      else before.mutexOf other :=
    afterEq ▸ sound.registered.mutexOf_updateMutex entered (fun taken => taken.join request.ticket) other
  have polled : ∀ other ∈ front, other.handle.isSome := fun other inFront =>
    turn other (parts ▸ List.mem_append_left _ inFront) (earlier other inFront).1
  refine sound.moves ?_ (sound.ordered.join parts polled held pending (afterEq ▸ rfl)) ?_ ?_ ?_ ?_
  · apply sound.registered.of_handles (afterEq ▸ rfl) (afterEq ▸ List.length_modify ..)
    intro other otherMember shared same
    have bound := sound.registered.bound
    rw [parts] at bound
    rw [held, pending] at otherMember
    simp only [List.mem_append, List.mem_cons] at bound otherMember
    obtain old | inFront | rfl | inBack := otherMember
    · exact bound other (.inl old) shared same
    · exact bound other (.inr (.inl inFront)) shared same
    · cases same
      exact entered
    · exact bound other (.inr (.inr (.inr inBack))) shared same
  · intro other different
    rw [mutexes, if_neg different]
  · intro other _
    rw [guardsOf, held, guardsOf]
  · intro other different
    simp [requestsOf, pending, parts, Request.bind, different.symm]
  · have waiters : after.waiters request.key = before.waiters request.key ++ [request.ticket] := by
      have none : (back.filter (·.key = request.key)).filter (·.handle.isSome) = [] := by
        rw [List.filter_eq_nil_iff]
        intro other otherMember polled
        have impossible := (later other (List.mem_filter.mp otherMember).1).2 polled
        simp [unpolled] at impossible
      simp [Locks.waiters, requestsOf, pending, parts, Request.bind, unpolled, none]
    rw [mutexes, if_pos rfl, holders, guardsOf, held, waiters]
    exact (sound.serves request.key).join owned request.ticket

end Join

/-- A poll makes a request the guard of its key, if nobody else has waited longer, or lets it wait for the
owner of its mutex. -/
inductive Polled (before : Locks) (request : Request) (handle : Handle) (after : Locks) : Prop
  | granted (held : after.held = before.held ++ [request.bind handle])
      (pending : after.pending = before.pending.filter (·.ticket ≠ request.ticket))
      (first : ∀ other ∈ before.pending, other.key = request.key → request.ticket ≤ other.ticket)
  | waits (held : after.held = before.held)
      (pending : after.pending = (before.withHandle request.ticket handle).pending)
      (owner : (after.mutexOf request.key).owner = (before.mutexOf request.key).owner)
      (other : (before.mutexOf request.key).owner ≠ some request.ticket)

section Poll

variable {locks : Locks} {request : Request} {handle : Handle}

theorem Ordered.waiters_ascending (ordered : locks.Ordered) (key : Uuid) :
    (locks.waiters key).Pairwise (· < ·) := by
  rw [waiters, List.pairwise_map]
  exact (ordered.arrived.sublist (List.filter_sublist.trans List.filter_sublist)).imp And.left

/-- Whoever is polled before all who wait for the key has asked for it first. -/
theorem Sound.first (sound : locks.Sound)
    (turn : ∀ other ∈ locks.pending, other.ticket < request.ticket → other.handle.isSome)
    (ahead : ∀ ticket ∈ locks.waiters request.key, request.ticket ≤ ticket) :
    ∀ other ∈ locks.pending, other.key = request.key → request.ticket ≤ other.ticket := by
  intro other member same
  by_contra later
  have polled := turn other member (Nat.lt_of_not_le later)
  exact later (ahead _ (same ▸ (sound.ordered.mem_waiters_iff member).mpr polled))

theorem Mutex.Serves.waiting_eq {mutex : Mutex} {holding waiting : List Ticket} {ticket : Ticket}
    (serves : mutex.Serves holding waiting) (owned : mutex.owner = some ticket)
    (apart : ticket ∉ holding) : waiting = ticket :: mutex.queue := by
  cases serves with
  | free => cases owned
  | held owner =>
      obtain rfl := Option.some_inj.mp owned
      exact absurd List.mem_cons_self apart
  | handed owner queue =>
      obtain rfl := Option.some_inj.mp owned
      rfl

theorem Mutex.Serves.waiting_nil {mutex : Mutex} {holding waiting : List Ticket}
    (serves : mutex.Serves holding waiting) (unowned : mutex.owner = none) : waiting = [] := by
  cases serves with
  | free => rfl
  | held | handed => cases unowned

section Lock

variable (sound : locks.Sound) (member : request ∈ locks.pending)
  (turn : ∀ other ∈ locks.pending, other.ticket < request.ticket → other.handle.isSome)
  (entered : ⟨request.key, handle⟩ ∈ locks.entries)

include sound member

theorem Sound.notMem_holders : request.ticket ∉ locks.holders request.key := by
  intro holds
  obtain ⟨guard, guardMember, same⟩ := List.mem_map.mp holds
  exact sound.ordered.ticket_ne (List.mem_filter.mp guardMember).1 member same

include turn entered

/-- A request that has been handed its mutex becomes a guard. -/
theorem Sound.grant_handed (owned : (locks.mutexOf request.key).owner = some request.ticket) :
    locks.Moves (locks.grant (request.bind handle)) request.key ∧
      locks.Polled request handle (locks.grant (request.bind handle)) := by
  have serves := sound.serves request.key
  have line := serves.waiting_eq owned (sound.notMem_holders member)
  have waits : request.ticket ∈ locks.waiters request.key := line ▸ List.mem_cons_self
  refine ⟨?_, .granted rfl rfl (sound.first turn ?_)⟩
  · apply sound.grant member entered
    iterate 5 rfl
    · exact fun _ _ => rfl
    · exact serves.grant (sound.ordered.nodup_served request.key) owned waits
  · have ascending := sound.ordered.waiters_ascending request.key
    rw [line, List.pairwise_cons] at ascending
    rw [line]
    refine List.forall_mem_cons.mpr ⟨Nat.le_refl _, fun ticket queued => ?_⟩
    exact Nat.le_of_lt (ascending.1 ticket queued)

/-- A request that finds its mutex free becomes a guard. -/
theorem Sound.grant_free (free : (locks.mutexOf request.key).owner = none) :
    locks.Moves ((locks.updateMutex handle fun mutex => mutex.take request.ticket).grant
        (request.bind handle)) request.key ∧
      locks.Polled request handle ((locks.updateMutex handle fun mutex =>
        mutex.take request.ticket).grant (request.bind handle)) := by
  have serves := sound.serves request.key
  have none := serves.waiting_nil free
  have mutexes := sound.registered.mutexOf_updateMutex entered fun mutex => mutex.take request.ticket
  refine ⟨?_, .granted rfl rfl (sound.first turn (none ▸ List.forall_mem_nil _))⟩
  apply sound.grant member entered
  · rfl
  · exact List.length_modify ..
  iterate 3 rfl
  · exact fun other different => (mutexes other).trans (if_neg different)
  · have taken := serves.take free request.ticket
    rw [none] at taken ⊢
    exact ((mutexes request.key).trans (if_pos rfl)) ▸ taken

/-- Everybody who has a mutex in the registry gets what it serves. -/
theorem Sound.lock (own : request.handle = none ∨ request.handle = some handle) :
    locks.Moves (locks.lock request handle) request.key ∧
      (locks.lock request handle).nextTicket = locks.nextTicket ∧
        locks.Polled request handle (locks.lock request handle) := by
  have serves := sound.serves request.key
  have waits_iff := sound.ordered.mem_waiters_iff member
  unfold Locks.lock
  simp only [sound.registered.mutexes_eq entered]
  split
  next owned =>
    obtain ⟨moves, polled⟩ := sound.grant_handed member turn entered owned
    exact ⟨moves, rfl, polled⟩
  next unowned =>
    split
    next queued =>
      have waits := serves.queue_subset queued
      have bound : request.bind handle = request := by
        have polled := Option.isSome_iff_ne_none.mp (waits_iff.mp waits)
        rw [Request.bind, ← own.resolve_left polled]
      obtain ⟨front, back, parts, before, after⟩ := sound.ordered.split member
      refine ⟨.refl sound _, rfl, .waits rfl ?_ rfl unowned⟩
      rw [withHandle_eq parts before after, bound, parts]
    next unqueued =>
      split
      next free =>
        obtain ⟨moves, polled⟩ := sound.grant_free member turn entered free
        exact ⟨moves, rfl, polled⟩
      next taken =>
        have unpolled : request.handle = none := by
          by_contra polled
          have waits := waits_iff.mpr (Option.isSome_iff_ne_none.mpr polled)
          exact (serves.owned_or_queued waits).elim unowned unqueued
        have mutexes := sound.registered.mutexOf_updateMutex entered
          (fun mutex => mutex.join request.ticket) request.key
        rw [if_pos rfl] at mutexes
        have owner := congrArg Mutex.owner mutexes
        exact ⟨sound.join member unpolled turn entered taken, rfl, .waits rfl rfl owner unowned⟩

end Lock

/-- The registry gives a mutex for the key, and nobody else notices when it has been made for this. -/
theorem Sound.lookUp (sound : locks.Sound) (key : Uuid) :
    ∃ handle found, locks.lookUp key = (handle, found) ∧ ⟨key, handle⟩ ∈ found.entries ∧
      found.nextTicket = locks.nextTicket ∧ found.held = locks.held ∧
        found.pending = locks.pending ∧ (∀ other, found.mutexOf other = locks.mutexOf other) ∧
          locks.Moves found key := by
  cases entry : locks.entryOf? key with
  | some known =>
      obtain ⟨member, rfl⟩ := entryOf?_eq_some entry
      have result : locks.lookUp known.key = (known.handle, locks) := by rw [Locks.lookUp, entry]
      exact ⟨known.handle, locks, result, member, rfl, rfl, rfl, fun _ => rfl, .refl sound _⟩
  | none =>
      have result : locks.lookUp key = (locks.mutexes.length, locks.addMutex key) := by
        rw [Locks.lookUp, entry]
      have mutexes := mutexOf_addMutex sound.registered.made key
      have moves : locks.Moves (locks.addMutex key) key := by
        refine sound.moves (sound.registered.addMutex entry) ?_ (fun other _ => mutexes other)
          (fun _ _ => rfl) (fun _ _ => rfl) ?_
        · exact sound.ordered.of_sublist (List.Sublist.refl _) (List.Sublist.refl _) rfl
        · rw [mutexes]
          exact sound.serves key
      exact ⟨_, _, result, List.mem_append_right _ List.mem_cons_self, rfl, rfl, rfl, mutexes, moves⟩

/-- A request is polled after all that have arrived before it. -/
theorem Sound.pollRequest (sound : locks.Sound) (member : request ∈ locks.pending)
    (turn : ∀ other ∈ locks.pending, other.ticket < request.ticket → other.handle.isSome) :
    locks.Moves (locks.pollRequest request) request.key ∧
      (locks.pollRequest request).nextTicket = locks.nextTicket ∧
        ∃ handle, locks.Polled request handle (locks.pollRequest request) := by
  unfold Locks.pollRequest
  cases polled : request.handle with
  | some handle =>
      have entered := sound.registered.bound request (List.mem_append_right _ member) handle polled
      obtain ⟨moves, next, polled⟩ := sound.lock member turn entered (.inr polled)
      exact ⟨moves, next, handle, polled⟩
  | none =>
      obtain ⟨handle, found, result, entered, nextFound, held, pending, mutexes, looked⟩ :=
        sound.lookUp request.key
      rw [result]
      dsimp only
      rw [← pending] at member turn
      obtain ⟨moves, next, polled⟩ := looked.sound.lock member turn entered (.inl polled)
      refine ⟨looked.trans moves, next.trans nextFound, handle, ?_⟩
      cases polled with
      | granted heldAfter pendingAfter first =>
          rw [held] at heldAfter
          rw [pending] at pendingAfter first
          exact .granted heldAfter pendingAfter first
      | waits heldAfter pendingAfter owner other =>
          rw [mutexes] at owner other
          refine .waits (heldAfter.trans held) ?_ owner other
          rw [pendingAfter, withHandle, pending, withHandle]

/-- A request that has been polled waits until it is handed its mutex. -/
theorem Sound.pollRequest_eq (sound : locks.Sound) (member : request ∈ locks.pending)
    (polled : request.handle.isSome) (unowned : (locks.mutexOf request.key).owner ≠ some request.ticket) :
    locks.pollRequest request = locks := by
  obtain ⟨handle, bound⟩ := Option.isSome_iff_exists.mp polled
  have entered := sound.registered.bound request (List.mem_append_right _ member) handle bound
  have waits := (sound.ordered.mem_waiters_iff member).mpr polled
  have queued := ((sound.serves request.key).owned_or_queued waits).resolve_left unowned
  simp only [Locks.pollRequest, bound, Locks.lock, sound.registered.mutexes_eq entered, unowned,
    if_false, queued, if_true]

end Poll

end Signoff.Locks

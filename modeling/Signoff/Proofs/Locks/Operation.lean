import Signoff.Proofs.Locks.Exclusion

namespace Signoff.Locks

/-- Nothing has changed for this key. -/
structure Spares (before after : Locks) (key : Uuid) : Prop where
  mutex : after.mutexOf key = before.mutexOf key
  guards : after.guardsOf key = before.guardsOf key
  requests : after.requestsOf key = before.requestsOf key

/-- The locks are sound afterwards, and nothing has changed for any other key. -/
structure Moves (before after : Locks) (key : Uuid) : Prop where
  sound : after.Sound
  spares : ∀ other, other ≠ key → before.Spares after other

section Frame

variable {before after : Locks} {key : Uuid}

theorem Spares.refl (locks : Locks) (key : Uuid) : locks.Spares locks key :=
  ⟨rfl, rfl, rfl⟩

theorem Spares.trans {middle : Locks} (first : before.Spares middle key)
    (second : middle.Spares after key) : before.Spares after key :=
  ⟨second.mutex.trans first.mutex, second.guards.trans first.guards,
    second.requests.trans first.requests⟩

theorem Moves.refl (sound : before.Sound) (key : Uuid) : before.Moves before key :=
  ⟨sound, fun other _ => .refl before other⟩

theorem Moves.trans {middle : Locks} (first : before.Moves middle key)
    (second : middle.Moves after key) : before.Moves after key :=
  ⟨second.sound, fun other different =>
    (first.spares other different).trans (second.spares other different)⟩

/-- The mutexes of the other keys serve as before. -/
theorem Sound.moves (sound : before.Sound) (registered : after.Registered) (ordered : after.Ordered)
    (mutexes : ∀ other, other ≠ key → after.mutexOf other = before.mutexOf other)
    (guards : ∀ other, other ≠ key → after.guardsOf other = before.guardsOf other)
    (requests : ∀ other, other ≠ key → after.requestsOf other = before.requestsOf other)
    (own : (after.mutexOf key).Serves (after.holders key) (after.waiters key)) :
    before.Moves after key := by
  refine ⟨⟨registered, ordered, fun other => ?_⟩, fun other different =>
    ⟨mutexes other different, guards other different, requests other different⟩⟩
  by_cases same : other = key
  · exact same ▸ own
  · rw [mutexes other same, holders, guards other same, waiters, requests other same]
    exact sound.serves other

end Frame

section Lists

variable {before after : Locks} {ticket : Ticket} {key : Uuid}

theorem waiters_of_filter (pending : after.pending = before.pending.filter (·.ticket ≠ ticket)) :
    after.waiters key = (before.waiters key).filter (· ≠ ticket) := by
  simp only [waiters, requestsOf, pending, List.filter_map, List.filter_filter]
  congr 2
  funext request
  simp [Bool.and_comm, Bool.and_assoc]

theorem holders_of_filter (held : after.held = before.held.filter (·.ticket ≠ ticket)) :
    after.holders key = (before.holders key).filter (· ≠ ticket) := by
  simp only [holders, guardsOf, held, List.filter_map, List.filter_filter]
  congr 2
  funext guard
  simp [Bool.and_comm]

/-- Only the list of its own key loses a request. -/
theorem filter_filter_of_ne {requests : List Request} {request : Request} {other : Uuid}
    (unique : ∀ found ∈ requests, found.ticket = request.ticket → found = request)
    (different : other ≠ request.key) :
    (requests.filter (·.ticket ≠ request.ticket)).filter (·.key = other) =
      requests.filter (·.key = other) := by
  rw [List.filter_filter]
  refine List.filter_congr fun found member => ?_
  by_cases named : found.key = other
  · have apart : found.ticket ≠ request.ticket := fun same =>
      different (named.symm.trans (congrArg Request.key (unique found member same)))
    simp [named, apart]
  · simp [named]

end Lists

section Request

variable {locks : Locks}

/-- A new request has the last ticket and no handle. -/
theorem Ordered.request (ordered : locks.Ordered) (key : Uuid) : (locks.request key).Ordered where
  distinct := by
    have fresh : locks.nextTicket ∉ (locks.held ++ locks.pending).map (·.ticket) := by
      intro known
      obtain ⟨request, member, same⟩ := List.mem_map.mp known
      exact Nat.ne_of_lt (ordered.issued request member) same
    simp only [Locks.request, ← List.append_assoc, List.map_append, List.map_cons, List.map_nil]
    rw [← List.map_append, List.nodup_append]
    refine ⟨ordered.distinct, List.nodup_singleton _, ?_⟩
    rintro ticket known _ new rfl
    exact fresh (List.mem_singleton.mp new ▸ known)
  issued := by
    intro request member
    simp only [Locks.request, ← List.append_assoc, List.mem_append, List.mem_singleton] at member ⊢
    obtain old | rfl := member
    · exact Nat.lt_succ_of_lt (ordered.issued request (List.mem_append.mpr old))
    · exact Nat.lt_succ_self _
  arrived := by
    simp only [Locks.request, List.pairwise_append]
    refine ⟨ordered.arrived, List.pairwise_singleton .., ?_⟩
    intro earlier member later new
    obtain rfl := List.mem_singleton.mp new
    exact ⟨ordered.issued earlier (List.mem_append_right _ member), nofun⟩
  guarded := ordered.guarded

theorem Sound.request (sound : locks.Sound) (key : Uuid) : locks.Moves (locks.request key) key := by
  have requests (other : Uuid) : (locks.request key).requestsOf other =
      locks.requestsOf other ++ if key = other then [⟨locks.nextTicket, key, none⟩] else [] := by
    simp only [requestsOf, Locks.request, List.filter_append]
    by_cases own : key = other <;> simp [own]
  have registered : (locks.request key).Registered := by
    apply sound.registered.of_handles
    · rfl
    · rfl
    · intro request member handle own
      simp only [Locks.request, ← List.append_assoc, List.mem_append, List.mem_singleton] at member
      obtain old | rfl := member
      · exact sound.registered.bound request (List.mem_append.mpr old) handle own
      · cases own
  refine sound.moves registered (sound.ordered.request key) (fun _ _ => rfl) (fun _ _ => rfl) ?_ ?_
  · intro other different
    rw [requests, if_neg different.symm, List.append_nil]
  · have waiters : (locks.request key).waiters key = locks.waiters key := by
      rw [Locks.waiters, requests, if_pos rfl, List.filter_append]
      simp [Locks.waiters]
    rw [waiters]
    exact sound.serves key

end Request

section Leaving

variable {locks : Locks} {ticket : Ticket} {key : Uuid} {handle : Handle}

theorem Ordered.of_sublist {before after : Locks} (ordered : before.Ordered)
    (held : after.held.Sublist before.held) (pending : after.pending.Sublist before.pending)
    (next : after.nextTicket = before.nextTicket) : after.Ordered where
  distinct := ordered.distinct.sublist ((held.append pending).map _)
  issued := fun request member => next ▸ ordered.issued request ((held.append pending).subset member)
  arrived := ordered.arrived.sublist pending
  guarded := fun guard member => ordered.guarded guard (held.subset member)

/-- A guard that is dropped passes its mutex on. -/
theorem Sound.unlock (sound : locks.Sound) {guard : Request} (member : guard ∈ locks.held) :
    locks.Moves (locks.unlock guard) guard.key := by
  obtain ⟨handle, bound⟩ := Option.isSome_iff_exists.mp (sound.ordered.guarded guard member)
  have entered := sound.registered.bound guard (List.mem_append_left _ member) handle bound
  have unlocked : locks.unlock guard =
      (locks.withoutGuard guard.ticket).updateMutex handle Mutex.passOn := by
    rw [Locks.unlock, bound]
  have fewer : (locks.withoutGuard guard.ticket).held ++ locks.pending ⊆ locks.held ++ locks.pending :=
    (List.filter_sublist.append (List.Sublist.refl _)).subset
  have left : (locks.withoutGuard guard.ticket).Registered :=
    sound.registered.of_subset rfl rfl fewer
  have mutexes := left.mutexOf_updateMutex entered Mutex.passOn
  rw [unlocked]
  refine sound.moves (left.of_subset rfl (List.length_modify ..) (List.Subset.refl _)) ?_ ?_ ?_ ?_ ?_
  · exact sound.ordered.of_sublist List.filter_sublist (List.Sublist.refl _) rfl
  · intro other different
    rw [mutexes, if_neg different]
    rfl
  · intro other different
    exact filter_filter_of_ne (fun found known => sound.ordered.guard_eq known member) different
  · exact fun _ _ => rfl
  · have holding : guard.ticket ∈ locks.holders guard.key :=
      List.mem_map_of_mem (List.mem_filter.mpr ⟨member, decide_eq_true rfl⟩)
    rw [mutexes, if_pos rfl, holders_of_filter rfl]
    exact (sound.serves guard.key).passOn holding

/-- A mutex without handles has no guards and nobody who waits for it. -/
theorem Sound.idle (sound : locks.Sound) {entry : Entry} (known : entry ∈ locks.entries)
    (unused : locks.handleCount entry.handle = 0) :
    locks.holders entry.key = [] ∧ locks.waiters entry.key = [] := by
  have none : ∀ request ∈ locks.held ++ locks.pending, request.key = entry.key →
      request.handle = none := by
    intro request member own
    cases bound : request.handle with
    | none => rfl
    | some handle =>
        have entered := sound.registered.bound request member handle bound
        have equal := List.inj_on_of_nodup_map sound.registered.keys entered known own
        have counted := List.countP_eq_zero.mp unused request member
        exact absurd (decide_eq_true (bound.trans (congrArg (some ·.handle) equal))) counted
  constructor
  · rw [holders, List.map_eq_nil_iff, guardsOf, List.filter_eq_nil_iff]
    intro guard member own
    have unbound := none guard (List.mem_append_left _ member) (of_decide_eq_true own)
    simpa [unbound] using sound.ordered.guarded guard member
  · rw [waiters, List.map_eq_nil_iff, List.filter_eq_nil_iff]
    intro request member
    obtain ⟨pending, own⟩ := List.mem_filter.mp member
    simp [none request (List.mem_append_right _ pending) (of_decide_eq_true own)]

/-- The entry of a key is removed while its mutex is free only, which nobody notices. -/
theorem Sound.dropEntry (sound : locks.Sound) {entry : Entry} (known : entry ∈ locks.entries)
    (unused : locks.handleCount entry.handle = 0) :
    locks.Moves (locks.dropEntry entry.key) entry.key := by
  obtain ⟨holders, waiters⟩ := sound.idle known unused
  have serves := sound.serves entry.key
  rw [holders, waiters] at serves
  have same : ∀ other, (locks.dropEntry entry.key).mutexOf other = locks.mutexOf other := by
    intro other
    rw [mutexOf_dropEntry]
    split
    next own => rw [own, serves.eq_free]
    next => rfl
  refine sound.moves (sound.registered.dropEntry known unused) ?_ (fun other _ => same other)
    (fun _ _ => rfl) (fun _ _ => rfl) ?_
  · exact sound.ordered.of_sublist (List.Sublist.refl _) (List.Sublist.refl _) rfl
  · rw [same]
    exact sound.serves entry.key

theorem Sound.sweep (sound : locks.Sound) (key : Uuid) : locks.Moves (locks.sweep key) key := by
  unfold Locks.sweep
  split
  next entry found =>
    obtain ⟨known, rfl⟩ := entryOf?_eq_some found
    split
    next unused => exact sound.dropEntry known unused
    next => exact .refl sound _
  next => exact .refl sound key

theorem find?_ticket {requests : List Request} {request : Request} (member : request ∈ requests)
    (unique : ∀ found ∈ requests, found.ticket = request.ticket → found = request) :
    requests.find? (fun other => other.ticket = request.ticket) = some request := by
  cases result : requests.find? fun other => other.ticket = request.ticket with
  | none => simpa using List.find?_eq_none.mp result request member
  | some found =>
      have same : found.ticket = request.ticket := by simpa using List.find?_some result
      exact congrArg some (unique found (List.mem_of_find?_eq_some result) same)

/-- Nobody else is concerned when a request goes away. -/
theorem Sound.withoutRequest (sound : locks.Sound) {request : Request}
    (member : request ∈ locks.pending) :
    (locks.withoutRequest request.ticket).Registered ∧
      (locks.withoutRequest request.ticket).Ordered ∧ ∀ other, other ≠ request.key →
        (locks.withoutRequest request.ticket).requestsOf other = locks.requestsOf other := by
  have fewer : locks.held ++ (locks.withoutRequest request.ticket).pending ⊆
      locks.held ++ locks.pending := ((List.Sublist.refl _).append List.filter_sublist).subset
  refine ⟨sound.registered.of_subset rfl rfl fewer, ?_, fun other different => ?_⟩
  · exact sound.ordered.of_sublist (List.Sublist.refl _) List.filter_sublist rfl
  · exact filter_filter_of_ne (fun found known => sound.ordered.request_eq known member) different

theorem Sound.cancel_unpolled (sound : locks.Sound) {request : Request}
    (member : request ∈ locks.pending) (unpolled : request.handle = none) :
    locks.Moves (locks.withoutRequest request.ticket) request.key := by
  obtain ⟨registered, ordered, requests⟩ := sound.withoutRequest member
  refine sound.moves registered ordered (fun _ _ => rfl) (fun _ _ => rfl) requests ?_
  have absent : request.ticket ∉ locks.waiters request.key := by
    rw [sound.ordered.mem_waiters_iff member, unpolled]
    simp
  have same : (locks.waiters request.key).filter (· ≠ request.ticket) =
      locks.waiters request.key := by
    rw [List.filter_eq_self]
    intro ticket waits
    exact decide_eq_true fun equal => absent (equal ▸ waits)
  rw [waiters_of_filter rfl, same]
  exact sound.serves request.key

/-- A request that has been polled leaves the queue, or hands on what it has been handed. -/
theorem Sound.cancel_polled (sound : locks.Sound) {request : Request}
    (member : request ∈ locks.pending) (bound : request.handle = some handle) :
    locks.Moves ((locks.withoutRequest request.ticket).updateMutex handle
      fun mutex => mutex.leave request.ticket) request.key := by
  obtain ⟨registered, ordered, requests⟩ := sound.withoutRequest member
  have entered := sound.registered.bound request (List.mem_append_right _ member) handle bound
  have mutexes := registered.mutexOf_updateMutex entered fun mutex => mutex.leave request.ticket
  refine sound.moves (registered.of_subset rfl (List.length_modify ..) (List.Subset.refl _))
    (ordered.of_sublist (List.Sublist.refl _) (List.Sublist.refl _) rfl) ?_ (fun _ _ => rfl)
    requests ?_
  · intro other different
    rw [mutexes, if_neg different]
    rfl
  · have waits : request.ticket ∈ locks.waiters request.key := by
      rw [sound.ordered.mem_waiters_iff member, bound]
      rfl
    have waiters : (locks.withoutRequest request.ticket).waiters request.key =
        (locks.waiters request.key).filter (· ≠ request.ticket) := waiters_of_filter rfl
    have serves := (sound.serves request.key).leave (sound.ordered.nodup_served request.key) waits
    rw [← waiters] at serves
    rw [mutexes, if_pos rfl]
    exact serves

theorem Sound.cancel (sound : locks.Sound) {request : Request} (member : request ∈ locks.pending) :
    locks.Moves (locks.cancel request.ticket) request.key := by
  have found := find?_ticket member fun found known => sound.ordered.request_eq known member
  unfold Locks.cancel
  simp only [found]
  cases bound : request.handle with
  | none => exact sound.cancel_unpolled member bound
  | some handle => exact sound.cancel_polled member bound

end Leaving

end Signoff.Locks

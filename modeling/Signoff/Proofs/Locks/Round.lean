import Signoff.Proofs.Locks.Polling

namespace Signoff.Locks

section Round

variable {before after locks : Locks} {request : Request} {handle : Handle} {ticket : Ticket}
  {rest : List Ticket}

/-- These tickets are polled next. Whoever has arrived before them has been polled. -/
structure Due (locks : Locks) (rest : List Ticket) : Prop where
  ascending : rest.Pairwise (· < ·)
  polled : ∀ request ∈ locks.pending,
    request.handle.isSome ∨ request.ticket ∈ rest ∨ ∀ ticket ∈ rest, ticket < request.ticket

theorem Ordered.due (ordered : locks.Ordered) (count : Nat) :
    locks.Due ((locks.pending.take count).map (·.ticket)) where
  ascending := by
    rw [List.pairwise_map]
    exact (ordered.arrived.sublist (List.take_sublist count locks.pending)).imp And.left
  polled := by
    intro request member
    have arrived := ordered.arrived
    rw [← List.take_append_drop count locks.pending] at arrived member
    rcases List.mem_append.mp member with now | later
    · exact .inr (.inl (List.mem_map_of_mem now))
    · refine .inr (.inr fun ticket listed => ?_)
      obtain ⟨earlier, taken, rfl⟩ := List.mem_map.mp listed
      exact ((List.pairwise_append.mp arrived).2.2 earlier taken request later).1

theorem Due.turn (due : locks.Due (ticket :: rest)) :
    ∀ other ∈ locks.pending, other.ticket < ticket → other.handle.isSome := by
  intro other member earlier
  have later := (List.pairwise_cons.mp due.ascending).1
  obtain polled | listed | after := due.polled other member
  · exact polled
  · rcases List.mem_cons.mp listed with same | inRest
    · exact absurd earlier (same ▸ Nat.lt_irrefl _)
    · exact absurd earlier (Nat.lt_asymm (later _ inRest))
  · exact absurd earlier (Nat.lt_asymm (after ticket List.mem_cons_self))

/-- Only the request that is polled may have another handle afterwards. -/
theorem Polled.mem_pending (polled : before.Polled request handle after) (ordered : before.Ordered)
    (member : request ∈ before.pending) {other : Request} (otherMember : other ∈ after.pending) :
    other = request.bind handle ∨ other ∈ before.pending ∧ other.ticket ≠ request.ticket := by
  cases polled with
  | granted _ pending _ =>
      rw [pending] at otherMember
      obtain ⟨old, apart⟩ := List.mem_filter.mp otherMember
      exact .inr ⟨old, of_decide_eq_true apart⟩
  | waits _ pending _ _ =>
      rw [pending] at otherMember
      obtain ⟨old, oldMember, rfl⟩ := List.mem_map.mp otherMember
      split
      next same => exact .inl (congrArg (·.bind handle) (ordered.request_eq oldMember member same))
      next apart => exact .inr ⟨oldMember, apart⟩

theorem Due.poll (due : before.Due (request.ticket :: rest)) (ordered : before.Ordered)
    (member : request ∈ before.pending) (polled : before.Polled request handle after) :
    after.Due rest := by
  refine ⟨(List.pairwise_cons.mp due.ascending).2, fun other otherMember => ?_⟩
  obtain rfl | ⟨old, apart⟩ := polled.mem_pending ordered member otherMember
  · exact .inl rfl
  · refine (due.polled other old).imp_right (Or.imp ?_ ?_)
    · exact fun listed => (List.mem_cons.mp listed).resolve_left apart
    · exact fun later ticket inRest => later ticket (List.mem_cons_of_mem _ inRest)

theorem Due.skip (due : locks.Due (ticket :: rest))
    (gone : ∀ request ∈ locks.pending, request.ticket ≠ ticket) : locks.Due rest := by
  refine ⟨(List.pairwise_cons.mp due.ascending).2, fun other member => ?_⟩
  refine (due.polled other member).imp_right (Or.imp ?_ ?_)
  · exact fun listed => (List.mem_cons.mp listed).resolve_left (gone other member)
  · exact fun later ticket inRest => later ticket (List.mem_cons_of_mem _ inRest)

/-- What every poll keeps while its ticket is worked off is kept by the whole round. -/
theorem Sound.round {Kept : Locks → List Ticket → Prop}
    (poll : ∀ before request rest, before.Sound → request ∈ before.pending →
      before.Due (request.ticket :: rest) → Kept before (request.ticket :: rest) →
        Kept (before.pollRequest request) rest)
    (skip : ∀ before ticket rest, (∀ request ∈ before.pending, request.ticket ≠ ticket) →
      Kept before (ticket :: rest) → Kept before rest)
    (sound : locks.Sound) (due : locks.Due rest) (start : Kept locks rest) :
    (rest.foldl Locks.poll locks).Sound ∧ Kept (rest.foldl Locks.poll locks) [] := by
  induction rest generalizing locks with
  | nil => exact ⟨sound, start⟩
  | cons ticket rest inductionHypothesis =>
      rw [List.foldl_cons]
      cases found : locks.pending.find? fun request => request.ticket = ticket with
      | none =>
          have gone : ∀ request ∈ locks.pending, request.ticket ≠ ticket := by
            simpa using List.find?_eq_none.mp found
          have unchanged : locks.poll ticket = locks := by rw [Locks.poll, found]
          rw [unchanged]
          exact inductionHypothesis sound (due.skip gone) (skip locks ticket rest gone start)
      | some request =>
          have member : request ∈ locks.pending := List.mem_of_find?_eq_some found
          obtain rfl : request.ticket = ticket := by simpa using List.find?_some found
          obtain ⟨moves, _, handle, polled⟩ := sound.pollRequest member due.turn
          have result : locks.poll request.ticket = locks.pollRequest request := by
            rw [Locks.poll, found]
          rw [result]
          exact inductionHypothesis moves.sound (due.poll sound.ordered member polled)
            (poll locks request rest sound member due start)

end Round

section Progress

variable {locks : Locks}

/-- Everybody who waits for the key has been polled, and waits for somebody else. -/
def Settled (locks : Locks) (key : Uuid) : Prop :=
  ∀ request ∈ locks.requestsOf key,
    request.handle.isSome ∧ (locks.mutexOf key).owner ≠ some request.ticket

/-- Whoever has no poll to come in this round waits for somebody else. -/
def SettledBut (locks : Locks) (rest : List Ticket) : Prop :=
  ∀ waiting ∈ locks.pending, waiting.ticket ∈ rest ∨
    waiting.handle.isSome ∧ (locks.mutexOf waiting.key).owner ≠ some waiting.ticket

theorem Mutex.Serves.owner_eq {mutex : Mutex} {holding waiting : List Ticket} {ticket : Ticket}
    (serves : mutex.Serves holding waiting) (holds : ticket ∈ holding) :
    mutex.owner = some ticket := by
  cases serves with
  | free | handed => cases holds
  | held owner => exact congrArg some (List.mem_singleton.mp holds).symm

/-- A poll leaves nobody who has been polled with a mutex of his own. -/
theorem Sound.unowned_poll (sound : locks.Sound) {request : Request}
    (member : request ∈ locks.pending)
    (turn : ∀ other ∈ locks.pending, other.ticket < request.ticket → other.handle.isSome)
    {waiting : Request} (waits : waiting ∈ (locks.pollRequest request).pending)
    (others : waiting ∈ locks.pending → waiting.ticket ≠ request.ticket →
      waiting.handle.isSome ∧ (locks.mutexOf waiting.key).owner ≠ some waiting.ticket) :
    waiting.handle.isSome ∧
      ((locks.pollRequest request).mutexOf waiting.key).owner ≠ some waiting.ticket := by
  obtain ⟨moves, _, handle, polled⟩ := sound.pollRequest member turn
  cases polled with
  | granted held pending first =>
      rw [pending] at waits
      obtain ⟨old, apart⟩ := List.mem_filter.mp waits
      obtain ⟨bound, unowned⟩ := others old (of_decide_eq_true apart)
      refine ⟨bound, ?_⟩
      by_cases same : waiting.key = request.key
      · have holds : request.ticket ∈ (locks.pollRequest request).holders request.key := by
          rw [holders, guardsOf, held]
          simp [Request.bind]
        rw [same, (moves.sound.serves request.key).owner_eq holds]
        exact fun equal => of_decide_eq_true apart (Option.some_inj.mp equal).symm
      · rw [(moves.spares waiting.key same).mutex]
        exact unowned
  | waits held pending owner other =>
      rw [pending] at waits
      obtain ⟨old, oldMember, rfl⟩ := List.mem_map.mp waits
      split
      next same =>
        obtain rfl := sound.ordered.request_eq oldMember member same
        exact ⟨rfl, owner ▸ other⟩
      next apart =>
        rw [if_neg apart] at others
        obtain ⟨bound, unowned⟩ := others oldMember apart
        refine ⟨bound, ?_⟩
        by_cases same : old.key = request.key
        · rw [same, owner, ← same]
          exact unowned
        · rw [(moves.spares old.key same).mutex]
          exact unowned

theorem SettledBut.poll (sound : locks.Sound) {request : Request} {rest : List Ticket}
    (member : request ∈ locks.pending) (due : locks.Due (request.ticket :: rest))
    (settled : locks.SettledBut (request.ticket :: rest)) :
    (locks.pollRequest request).SettledBut rest := by
  intro waiting waits
  by_cases listed : waiting.ticket ∈ rest
  · exact .inl listed
  · refine .inr (sound.unowned_poll member due.turn waits fun old apart => ?_)
    refine (settled waiting old).resolve_left fun inList => ?_
    exact (List.mem_cons.mp inList).elim apart listed

theorem SettledBut.skip {ticket : Ticket} {rest : List Ticket}
    (gone : ∀ request ∈ locks.pending, request.ticket ≠ ticket)
    (settled : locks.SettledBut (ticket :: rest)) : locks.SettledBut rest :=
  fun waiting member => (settled waiting member).imp_left fun listed =>
    (List.mem_cons.mp listed).resolve_left (gone waiting member)

/-- After a round everybody waits for somebody else. -/
theorem Sound.pollAll (sound : locks.Sound) :
    locks.pollAll.Sound ∧ ∀ key, locks.pollAll.Settled key := by
  have start : locks.SettledBut ((locks.pending.take locks.pending.length).map (·.ticket)) := by
    intro waiting member
    rw [List.take_length]
    exact .inl (List.mem_map_of_mem member)
  obtain ⟨soundAfter, settled⟩ := Sound.round
    (fun _ _ _ sound member due kept => SettledBut.poll sound member due kept)
    (fun _ _ _ gone kept => SettledBut.skip gone kept)
    sound (sound.ordered.due locks.pending.length) start
  refine ⟨soundAfter, fun key request member => ?_⟩
  obtain ⟨pending, own⟩ := List.mem_filter.mp member
  obtain rfl : request.key = key := of_decide_eq_true own
  exact (settled request pending).resolve_left List.not_mem_nil

/-- Whoever waits for somebody else waits for a guard. -/
theorem Sound.exists_guard (sound : locks.Sound) {key : Uuid} (settled : locks.Settled key)
    {request : Request} (member : request ∈ locks.requestsOf key) :
    ∃ guard ∈ locks.held, guard.key = key := by
  have waits : request.ticket ∈ locks.waiters key :=
    List.mem_map_of_mem (List.mem_filter.mpr ⟨member, (settled request member).1⟩)
  have serves := sound.serves key
  have handed (owner : Ticket) (waiting : owner ∈ locks.waiters key) :
      (locks.mutexOf key).owner ≠ some owner := by
    obtain ⟨first, firstMember, rfl⟩ := List.mem_map.mp waiting
    exact (settled first (List.mem_filter.mp firstMember).1).2
  cases held : locks.guardsOf key with
  | cons guard _ =>
      have found : guard ∈ locks.guardsOf key := held ▸ List.mem_cons_self
      obtain ⟨guardMember, own⟩ := List.mem_filter.mp found
      exact ⟨guard, guardMember, of_decide_eq_true own⟩
  | nil =>
      rw [holders, held, List.map_nil] at serves
      generalize locks.mutexOf key = mutex, locks.waiters key = waiting at serves waits handed
      cases serves with
      | free => cases waits
      | handed owner queue => exact absurd rfl (handed owner List.mem_cons_self)

end Progress

section Frame

variable {locks : Locks} {key : Uuid} {rest : List Ticket}

/-- Nothing comes of the polls of this key in a round. -/
def Quiet (locks : Locks) (key : Uuid) (rest : List Ticket) : Prop :=
  ∀ request ∈ locks.requestsOf key, request.ticket ∈ rest →
    request.handle.isSome ∧ (locks.mutexOf key).owner ≠ some request.ticket

theorem Quiet.of_spares {before after : Locks} (quiet : before.Quiet key rest)
    (spares : before.Spares after key) : after.Quiet key rest := by
  intro request member
  rw [spares.requests] at member
  rw [spares.mutex]
  exact quiet request member

theorem Settled.quiet (settled : locks.Settled key) (rest : List Ticket) : locks.Quiet key rest :=
  fun request member _ => settled request member

theorem Quiet.tail {ticket : Ticket} (quiet : locks.Quiet key (ticket :: rest)) :
    locks.Quiet key rest :=
  fun request member listed => quiet request member (List.mem_cons_of_mem _ listed)

theorem Quiet.spares_poll (sound : locks.Sound) {request : Request} (member : request ∈ locks.pending)
    (due : locks.Due (request.ticket :: rest)) (quiet : locks.Quiet key (request.ticket :: rest)) :
    locks.Spares (locks.pollRequest request) key := by
  by_cases own : key = request.key
  · subst own
    have asked : request ∈ locks.requestsOf request.key :=
      List.mem_filter.mpr ⟨member, decide_eq_true rfl⟩
    obtain ⟨polled, unowned⟩ := quiet request asked List.mem_cons_self
    rw [sound.pollRequest_eq member polled unowned]
    exact .refl locks _
  · exact (sound.pollRequest member due.turn).1.spares key own

/-- Since the start of the round nothing has changed for this key, and nothing will. -/
def Undisturbed (start : Locks) (key : Uuid) (locks : Locks) (rest : List Ticket) : Prop :=
  locks.Quiet key rest ∧ start.Spares locks key

theorem Sound.spares_round (sound : locks.Sound) (due : locks.Due rest)
    (quiet : locks.Quiet key rest) : locks.Spares (rest.foldl Locks.poll locks) key := by
  have start : locks.Undisturbed key locks rest := ⟨quiet, .refl locks key⟩
  refine (Sound.round (fun before request rest sound member due kept => ?_)
    (fun _ _ _ _ kept => ⟨kept.1.tail, kept.2⟩) sound due start).2.2
  have spares := kept.1.spares_poll sound member due
  exact ⟨kept.1.tail.of_spares spares, kept.2.trans spares⟩

theorem Settled.of_spares {before after : Locks} (settled : before.Settled key)
    (spares : before.Spares after key) : after.Settled key := by
  intro request member
  rw [spares.requests] at member
  rw [spares.mutex]
  exact settled request member

theorem Sound.spares_pollAll (sound : locks.Sound) (settled : locks.Settled key) :
    locks.Spares locks.pollAll key :=
  sound.spares_round (sound.ordered.due locks.pending.length) (settled.quiet _)

end Frame

end Signoff.Locks

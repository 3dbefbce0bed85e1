import Mathlib.Data.List.Induction
import Mathlib.Data.List.Sort
import Signoff.Proofs.Locks.Run

namespace Signoff.Locks

/-- This is what was asked for, with the ticket that the request has got. -/
def Request.call (request : Request) : Uuid × Ticket :=
  (request.key, request.ticket)

/-- This is what has come of the requests of a run. The keys stand in the order of their tickets. -/
structure Log where
  asked : List Uuid
  granted : List Request
  released : List Request
  cancelled : List Request

/-- These are the tickets for a key that were not cancelled, in the order of arrival. -/
def Log.line (log : Log) (key : Uuid) : List Ticket :=
  (log.asked.zipIdx.filter fun call =>
    call.1 = key ∧ call.2 ∉ log.cancelled.map (·.ticket)).map Prod.snd

def Log.grant (log : Log) (guards : List Request) : Log :=
  { log with granted := log.granted ++ guards }

/-- These are the guards that were not there before. -/
def gained (before after : Locks) : List Request :=
  after.held.filter fun guard => guard ∉ before.held

def Log.note (log : Log) (before : Locks) (action : Action) : Log :=
  let seen := log.grant (before.gained (before.act action))
  match action with
  | .request key => { seen with asked := log.asked ++ [key] }
  | .release ticket | .passOn ticket =>
      { seen with released := log.released ++ before.held.filter (·.ticket = ticket) }
  | .cancel ticket =>
      { seen with cancelled := log.cancelled ++ before.pending.filter (·.ticket = ticket) }
  | .poll _ | .sweep _ => seen

/-- Every request is granted, cancelled or pending, and every guard that has not been released is there.
Nobody is granted the key before somebody who has asked for it before. -/
structure Log.Accounts (log : Log) (locks : Locks) : Prop where
  issued : locks.nextTicket = log.asked.length
  requests : ((log.granted ++ log.cancelled ++ locks.pending).map Request.call).Perm log.asked.zipIdx
  guards : log.granted.Perm (log.released ++ locks.held)
  granted : log.granted.Pairwise fun earlier later =>
    earlier.key = later.key → earlier.ticket < later.ticket
  pending : ∀ guard ∈ log.granted, ∀ request ∈ locks.pending,
    guard.key = request.key → guard.ticket < request.ticket

theorem Ordered.perm_cons_filter {locks : Locks} (ordered : locks.Ordered) {request : Request}
    (member : request ∈ locks.pending) :
    (request :: locks.pending.filter (·.ticket ≠ request.ticket)).Perm locks.pending := by
  obtain ⟨front, back, parts, earlier, later⟩ := ordered.split member
  have kept : locks.pending.filter (·.ticket ≠ request.ticket) = front ++ back := by
    rw [parts, List.filter_append, List.filter_cons_of_neg (by simp), List.filter_eq_self.mpr,
      List.filter_eq_self.mpr]
    · exact fun other inBack => decide_eq_true (Nat.ne_of_gt (later other inBack).1)
    · exact fun other inFront => decide_eq_true (Nat.ne_of_lt (earlier other inFront).1)
  rw [kept, parts]
  exact List.perm_middle.symm

namespace Log.Accounts

section Step

variable {log : Log} {before after : Locks} (accounts : log.Accounts before)

include accounts

theorem tickets_perm : ((log.granted ++ log.cancelled ++ before.pending).map (·.ticket)).Perm
    (List.range log.asked.length) := by
  have numbered := accounts.requests.map Prod.snd
  rw [List.map_map, List.zipIdx_map_snd, ← List.range_eq_range'] at numbered
  exact numbered

/-- The handles are of no account. -/
theorem of_calls (next : after.nextTicket = before.nextTicket) (held : after.held = before.held)
    (calls : after.pending.map Request.call = before.pending.map Request.call) :
    log.Accounts after where
  issued := next.trans accounts.issued
  requests := by
    rw [List.map_append, calls, ← List.map_append]
    exact accounts.requests
  guards := held ▸ accounts.guards
  granted := accounts.granted
  pending := by
    intro guard known request member
    obtain ⟨old, oldMember, same⟩ := List.mem_map.mp (calls ▸ List.mem_map_of_mem member)
    obtain ⟨key, ticket⟩ := Prod.mk.inj same
    rw [← key, ← ticket]
    exact accounts.pending guard known old oldMember

theorem request (key : Uuid) :
    ({ log with asked := log.asked ++ [key] } : Log).Accounts (before.request key) where
  issued := by
    simp [Locks.request, accounts.issued]
  requests := by
    have appended : log.granted ++ log.cancelled ++ (before.request key).pending =
        log.granted ++ log.cancelled ++ before.pending ++ [⟨before.nextTicket, key, none⟩] :=
      (List.append_assoc ..).symm
    rw [appended, List.map_append, List.zipIdx_append]
    refine accounts.requests.append ?_
    simp [Request.call, accounts.issued]
  guards := accounts.guards
  granted := accounts.granted
  pending := by
    intro guard known request member same
    rcases List.mem_append.mp member with old | new
    · exact accounts.pending guard known request old same
    · obtain rfl := List.mem_singleton.mp new
      have listed : guard.ticket ∈ (log.granted ++ log.cancelled ++ before.pending).map (·.ticket) :=
        List.mem_map_of_mem (List.mem_append_left _ (List.mem_append_left _ known))
      have issued := List.mem_range.mp (accounts.tickets_perm.subset listed)
      exact accounts.issued ▸ issued

theorem release {ticket : Ticket} (next : after.nextTicket = before.nextTicket)
    (held : after.held = before.held.filter (·.ticket ≠ ticket))
    (pending : after.pending = before.pending) :
    ({ log with released := log.released ++ before.held.filter (·.ticket = ticket) } : Log).Accounts
      after where
  issued := next.trans accounts.issued
  requests := pending ▸ accounts.requests
  guards := by
    have parts := List.filter_append_perm (fun guard : Request => guard.ticket = ticket) before.held
    refine accounts.guards.trans ?_
    rw [held, List.append_assoc]
    refine List.Perm.append_left _ ?_
    simpa using parts.symm
  granted := accounts.granted
  pending := pending ▸ accounts.pending

theorem cancel {ticket : Ticket} (next : after.nextTicket = before.nextTicket)
    (held : after.held = before.held)
    (pending : after.pending = before.pending.filter (·.ticket ≠ ticket)) :
    ({ log with cancelled := log.cancelled ++ before.pending.filter (·.ticket = ticket) } :
      Log).Accounts after where
  issued := next.trans accounts.issued
  requests := by
    have parts := List.filter_append_perm (fun request : Request => request.ticket = ticket)
      before.pending
    refine (List.Perm.map _ ?_).trans accounts.requests
    rw [pending, List.append_assoc, List.append_assoc, List.append_assoc]
    refine List.Perm.append_left _ (List.Perm.append_left _ ?_)
    simpa using parts
  guards := held ▸ accounts.guards
  granted := accounts.granted
  pending := by
    intro guard known request member
    rw [pending] at member
    exact accounts.pending guard known request (List.mem_filter.mp member).1

/-- A request that becomes a guard has been pending, and nobody who has asked before is pending still. -/
theorem grant {request : Request} {handle : Handle} (ordered : before.Ordered)
    (member : request ∈ before.pending) (next : after.nextTicket = before.nextTicket)
    (held : after.held = before.held ++ [request.bind handle])
    (pending : after.pending = before.pending.filter (·.ticket ≠ request.ticket))
    (first : ∀ other ∈ before.pending, other.key = request.key → request.ticket ≤ other.ticket) :
    (log.grant [request.bind handle]).Accounts after where
  issued := next.trans accounts.issued
  requests := by
    have moved := ((ordered.perm_cons_filter member).map Request.call).append_left
      (log.cancelled.map Request.call)
    refine List.Perm.trans ?_ accounts.requests
    simp only [pending, Log.grant, List.map_append, List.map_cons, List.map_nil, List.append_assoc]
    refine List.Perm.append_left _ (List.Perm.trans ?_ moved)
    rw [List.map_cons, List.singleton_append]
    exact List.perm_middle.symm
  guards := by
    rw [held, ← List.append_assoc]
    exact accounts.guards.append_right _
  granted := by
    refine List.pairwise_append.mpr ⟨accounts.granted, List.pairwise_singleton .., ?_⟩
    intro guard known new isNew same
    obtain rfl := List.mem_singleton.mp isNew
    exact accounts.pending guard known request member same
  pending := by
    intro guard known other otherMember same
    rw [pending] at otherMember
    obtain ⟨old, apart⟩ := List.mem_filter.mp otherMember
    rcases List.mem_append.mp known with earlier | new
    · exact accounts.pending guard earlier other old same
    · obtain rfl := List.mem_singleton.mp new
      exact Nat.lt_of_le_of_ne (first other old same.symm) (of_decide_eq_true apart).symm

end Step

section Line

variable {log : Log} {locks : Locks} (accounts : log.Accounts locks)

include accounts

theorem nodup_tickets :
    ((log.granted ++ log.cancelled ++ locks.pending).map (·.ticket)).Nodup :=
  accounts.tickets_perm.nodup_iff.mpr List.nodup_range

/-- Nobody is cancelled who has had a guard or waits for one. -/
theorem notMem_cancelled {request : Request} (member : request ∈ log.granted ++ locks.pending) :
    request.ticket ∉ log.cancelled.map (·.ticket) := by
  have distinct := accounts.nodup_tickets
  rw [List.map_append, List.map_append, List.nodup_append, List.nodup_append] at distinct
  obtain ⟨⟨_, _, fromGranted⟩, _, fromPending⟩ := distinct
  intro cancelled
  rcases List.mem_append.mp member with granted | pending
  · exact fromGranted _ (List.mem_map_of_mem granted) _ cancelled rfl
  · exact fromPending _ (List.mem_append_right _ cancelled) _ (List.mem_map_of_mem pending) rfl

theorem mem_line_iff (key : Uuid) (ticket : Ticket) : ticket ∈ log.line key ↔
    ticket ∈ ((log.granted ++ locks.pending).filter (·.key = key)).map (·.ticket) := by
  constructor
  · intro listed
    obtain ⟨⟨asked, number⟩, member, rfl⟩ := List.mem_map.mp listed
    obtain ⟨called, kept⟩ := List.mem_filter.mp member
    obtain rfl : asked = key := (of_decide_eq_true kept).1
    obtain ⟨request, member, same⟩ := List.mem_map.mp (accounts.requests.mem_iff.mpr called)
    obtain ⟨own, numbered⟩ := Prod.mk.inj same
    refine List.mem_map.mpr ⟨request, List.mem_filter.mpr ⟨?_, decide_eq_true own⟩, numbered⟩
    rcases List.mem_append.mp member with earlier | pending
    · refine List.mem_append_left _ ((List.mem_append.mp earlier).resolve_right fun cancelled => ?_)
      exact (of_decide_eq_true kept).2 (numbered ▸ List.mem_map_of_mem cancelled)
    · exact List.mem_append_right _ pending
  · intro listed
    obtain ⟨request, member, rfl⟩ := List.mem_map.mp listed
    obtain ⟨known, own⟩ := List.mem_filter.mp member
    obtain rfl : request.key = key := of_decide_eq_true own
    have counted : request ∈ log.granted ++ log.cancelled ++ locks.pending := by
      rcases List.mem_append.mp known with granted | pending
      · exact List.mem_append_left _ (List.mem_append_left _ granted)
      · exact List.mem_append_right _ pending
    have called : request.call ∈ log.asked.zipIdx :=
      accounts.requests.subset (List.mem_map_of_mem counted)
    refine List.mem_map.mpr ⟨request.call, List.mem_filter.mpr ⟨called, decide_eq_true ?_⟩, rfl⟩
    exact ⟨rfl, accounts.notMem_cancelled known⟩

/-- Those for the key who have it, had it or wait for it stand in one line. -/
theorem line_eq (ordered : locks.Ordered) (key : Uuid) :
    log.line key = ((log.granted ++ locks.pending).filter (·.key = key)).map (·.ticket) := by
  have arrivals : (log.line key).Pairwise (· < ·) := by
    refine List.Pairwise.sublist (List.filter_sublist.map Prod.snd) ?_
    rw [List.zipIdx_map_snd]
    exact List.pairwise_lt_range'
  have served : (((log.granted ++ locks.pending).filter (·.key = key)).map (·.ticket)).Pairwise
      (· < ·) := by
    have apart : (log.granted ++ locks.pending).Pairwise fun earlier later =>
        earlier.key = later.key → earlier.ticket < later.ticket :=
      List.pairwise_append.mpr ⟨accounts.granted,
        ordered.arrived.imp fun precedes _ => precedes.1, accounts.pending⟩
    rw [List.pairwise_map, List.pairwise_filter]
    exact apart.imp fun ascends left right =>
      ascends ((of_decide_eq_true left).trans (of_decide_eq_true right).symm)
  -- Two ascending lists with the same members are equal.
  refine List.Perm.eq_of_pairwise' arrivals served ?_
  rw [List.perm_ext_iff_of_nodup (arrivals.imp Nat.ne_of_lt) (served.imp Nat.ne_of_lt)]
  exact accounts.mem_line_iff key

end Line

end Log.Accounts

section Note

variable {log : Log} {before after : Locks}

theorem gained_eq_nil (subset : after.held ⊆ before.held) : before.gained after = [] := by
  rw [gained, List.filter_eq_nil_iff]
  intro guard member fresh
  exact of_decide_eq_true fresh (subset member)

theorem gained_eq {guards : List Request} (ordered : after.Ordered)
    (held : after.held = before.held ++ guards) : before.gained after = guards := by
  have distinct : (before.held ++ guards).Nodup :=
    held ▸ (List.nodup_append.mp (ordered.distinct.of_map _)).1
  have apart := (List.nodup_append.mp distinct).2.2
  have old : before.held.filter (· ∉ before.held) = [] := by
    rw [List.filter_eq_nil_iff]
    exact fun guard member fresh => of_decide_eq_true fresh member
  have new : guards.filter (· ∉ before.held) = guards := by
    rw [List.filter_eq_self]
    exact fun guard member => decide_eq_true fun known => apart guard known guard member rfl
  rw [gained, held, List.filter_append, old, new, List.nil_append]

/-- The guards of this round are granted, as far as it has come. -/
def Log.Granting (log : Log) (start locks : Locks) (_ : List Ticket) : Prop :=
  ∃ guards, locks.held = start.held ++ guards ∧ (log.grant guards).Accounts locks

theorem Log.Granting.poll {start : Locks} {request : Request} {rest : List Ticket}
    (sound : before.Sound) (member : request ∈ before.pending)
    (due : before.Due (request.ticket :: rest))
    (granting : log.Granting start before (request.ticket :: rest)) :
    log.Granting start (before.pollRequest request) rest := by
  obtain ⟨guards, held, accounts⟩ := granting
  obtain ⟨_, next, handle, polled⟩ := sound.pollRequest member due.turn
  cases polled with
  | granted heldAfter pending first =>
      refine ⟨guards ++ [request.bind handle], ?_, ?_⟩
      · rw [heldAfter, held, List.append_assoc]
      · have granted := accounts.grant sound.ordered member next heldAfter pending first
        rw [Log.grant, Log.grant, List.append_assoc] at granted
        exact granted
  | waits heldAfter pending owner other =>
      refine ⟨guards, heldAfter.trans held, accounts.of_calls next heldAfter ?_⟩
      rw [pending, withHandle, List.map_map]
      refine List.map_congr_left fun found _ => ?_
      rw [Function.comp_apply]
      split <;> rfl

theorem Log.grant_nil (log : Log) : log.grant [] = log := by
  rw [Log.grant, List.append_nil]

theorem Log.Accounts.poll (accounts : log.Accounts before) (sound : before.Sound) (count : Nat) :
    (log.note before (.poll count)).Accounts (before.act (.poll count)) := by
  have start : log.Granting before before ((before.pending.take count).map (·.ticket)) :=
    ⟨[], (List.append_nil _).symm, log.grant_nil.symm ▸ accounts⟩
  obtain ⟨after, guards, held, granted⟩ := Sound.round
    (fun _ _ _ sound member due kept => kept.poll sound member due)
    (fun _ _ _ _ kept => kept) sound (sound.ordered.due count) start
  have fresh : before.gained (before.act (.poll count)) = guards := gained_eq after.ordered held
  rw [Log.note, fresh]
  exact granted

theorem Log.Accounts.note (accounts : log.Accounts before) (sound : before.Sound) (action : Action) :
    (log.note before action).Accounts (before.act action) := by
  cases action with
  | poll count => exact accounts.poll sound count
  | request key =>
      have nobody : before.gained (before.request key) = [] := gained_eq_nil (List.Subset.refl _)
      simp only [Locks.act, Log.note, nobody, Log.grant_nil]
      exact accounts.request key
  | sweep key =>
      obtain ⟨entries, swept⟩ := before.sweep_eq key
      have nobody : before.gained (before.sweep key) = [] :=
        gained_eq_nil (swept ▸ List.Subset.refl _)
      simp only [Locks.act, Log.note, nobody, Log.grant_nil]
      exact swept ▸ accounts.of_calls rfl rfl rfl
  | release ticket =>
      obtain ⟨_, entries, mutexes, released⟩ := before.passOn_eq ticket
      have nobody : before.gained (before.release ticket) = [] :=
        gained_eq_nil (released ▸ List.filter_sublist.subset)
      simp only [Locks.act, Log.note, nobody, Log.grant_nil]
      exact released ▸ accounts.release rfl rfl rfl
  | passOn ticket =>
      obtain ⟨⟨mutexes, passed⟩, _⟩ := before.passOn_eq ticket
      have nobody : before.gained (before.passOn ticket) = [] :=
        gained_eq_nil (passed ▸ List.filter_sublist.subset)
      simp only [Locks.act, Log.note, nobody, Log.grant_nil]
      exact passed ▸ accounts.release rfl rfl rfl
  | cancel ticket =>
      obtain ⟨mutexes, cancelled⟩ := before.cancel_eq ticket
      have nobody : before.gained (before.cancel ticket) = [] :=
        gained_eq_nil (cancelled ▸ List.Subset.refl _)
      simp only [Locks.act, Log.note, nobody, Log.grant_nil]
      exact cancelled ▸ accounts.cancel rfl rfl rfl

end Note

section Run

/-- This is a registry with the log of what has happened to it. -/
structure Run where
  locks : Locks
  log : Log

def Run.step (run : Run) (action : Action) : Run :=
  ⟨run.locks.act action, run.log.note run.locks action⟩

def run (actions : List Action) : Run :=
  actions.foldl Run.step ⟨empty, ⟨[], [], [], []⟩⟩

theorem run_sound (actions : List Action) :
    (run actions).locks.Sound ∧ (run actions).log.Accounts (run actions).locks := by
  induction actions using List.reverseRecOn with
  | nil =>
      refine ⟨sound_empty, rfl, .nil, .nil, .nil, ?_⟩
      exact fun guard known => absurd known List.not_mem_nil
  | append_singleton actions action inductionHypothesis =>
      obtain ⟨sound, accounts⟩ := inductionHypothesis
      rw [run, List.foldl_append]
      exact ⟨(sound.act action).1, accounts.note sound action⟩

/-- This is what everybody may rely on at a moment of a run. -/
structure Run.Fair (run : Run) : Prop where
  /-- No two guards have the same key. -/
  alone : (run.locks.held.map (·.key)).Nodup
  /-- Those who have a key, had it or wait for it stand in the order of arrival. -/
  inLine : ∀ key, run.log.line key =
    ((run.log.granted ++ run.locks.pending).filter (·.key = key)).map (·.ticket)
  /-- No request is lost. -/
  accounted : ((run.log.granted ++ run.log.cancelled ++ run.locks.pending).map Request.call).Perm
    run.log.asked.zipIdx
  /-- Only a guard that is released goes away. -/
  kept : run.log.granted.Perm (run.log.released ++ run.locks.held)
  /-- After a round of polls everybody waits for a guard. -/
  served : ∀ request ∈ run.locks.pollAll.pending,
    ∃ guard ∈ run.locks.pollAll.held, guard.key = request.key
  /-- An action leaves the guards and the requests of all other keys alone. -/
  spared : ∀ action key, ¬ action.Concerns run.locks key →
    (run.locks.act action).guardsOf key = run.locks.guardsOf key ∧
      (run.locks.act action).requestsOf key = run.locks.requestsOf key
  /-- It does so as well between two rounds of polls. -/
  sparedByRounds : ∀ action key, ¬ action.Concerns run.locks.pollAll key →
    (run.locks.pollAll.act action).pollAll.guardsOf key = run.locks.pollAll.guardsOf key ∧
      (run.locks.pollAll.act action).pollAll.requestsOf key = run.locks.pollAll.requestsOf key

/-- Whatever happens to a registry, it is fair at every moment. -/
theorem run_fair (actions : List Action) : (run actions).Fair := by
  obtain ⟨sound, accounts⟩ := run_sound actions
  obtain ⟨polled, settled⟩ := sound.pollAll
  refine ⟨sound.nodup_keys, accounts.line_eq sound.ordered, accounts.requests, accounts.guards, ?_, ?_, ?_⟩
  · intro request member
    exact polled.exists_guard (settled request.key)
      (List.mem_filter.mpr ⟨member, decide_eq_true rfl⟩)
  · intro action key apart
    have spares := (sound.act action).2 key apart
    exact ⟨spares.guards, spares.requests⟩
  · intro action key apart
    obtain ⟨after, spares⟩ := polled.act action
    have untouched := spares key apart
    have round := untouched.trans (after.spares_pollAll ((settled key).of_spares untouched))
    exact ⟨round.guards, round.requests⟩

/-- The second request gives up, so the third has the lock after the first. The entry goes with the last. -/
example :
    let crowd := [Action.request .nil, .request .nil, .request .nil, .poll 3, .cancel 1, .release 0, .poll 1]
    (run crowd).locks.held.map (·.ticket) = [2] ∧ (run crowd).log.line .nil = [0, 2] ∧
      (run (crowd ++ [.release 2])).locks.isEmpty = true := by
  decide

end Run

end Signoff.Locks

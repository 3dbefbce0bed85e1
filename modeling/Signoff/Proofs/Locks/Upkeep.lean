import Mathlib.Data.List.Dedup
import Signoff.Proofs.Locks.Fairness

namespace Signoff.Locks

/-- The registry has an entry for this key. -/
def Knows (locks : Locks) (key : Uuid) : Prop :=
  key ∈ locks.entries.map (·.key)

/-- These are the guards of a key and the requests that wait for it. Nobody waits before the first poll. -/
def users (locks : Locks) (key : Uuid) : List Request :=
  (locks.held ++ locks.pending).filter fun user => user.key = key ∧ user.handle.isSome

/-- There is an entry for a key that nobody uses. -/
structure Stale (locks : Locks) (key : Uuid) : Prop where
  known : locks.Knows key
  unused : locks.users key = []

section Users

variable {locks before after : Locks} {key : Uuid} {user : Request}

theorem mem_users_iff : user ∈ locks.users key ↔
    user ∈ locks.held ++ locks.pending ∧ user.key = key ∧ user.handle.isSome := by
  rw [users, List.mem_filter, decide_eq_true_iff]

theorem users_eq : locks.users key =
    (locks.guardsOf key ++ locks.requestsOf key).filter (·.handle.isSome) := by
  rw [users, guardsOf, requestsOf, ← List.filter_append, List.filter_filter]
  exact List.filter_congr fun user _ => by simp [Bool.and_comm]

theorem Spares.users_eq (spares : before.Spares after key) : after.users key = before.users key := by
  rw [Locks.users_eq, Locks.users_eq, spares.guards, spares.requests]

/-- A key in use has an entry. -/
theorem Registered.knows (registered : locks.Registered) (member : user ∈ locks.users key) :
    locks.Knows key := by
  obtain ⟨known, rfl, bound⟩ := mem_users_iff.mp member
  obtain ⟨handle, handleEq⟩ := Option.isSome_iff_exists.mp bound
  exact List.mem_map_of_mem (registered.bound user known handle handleEq)

/-- The count of the handles of a mutex says whether its key is in use. -/
theorem Registered.handleCount_eq_zero_iff (registered : locks.Registered) {entry : Entry}
    (known : entry ∈ locks.entries) :
    locks.handleCount entry.handle = 0 ↔ locks.users entry.key = [] := by
  rw [handleCount, List.countP_eq_zero, users, List.filter_eq_nil_iff]
  refine forall₂_congr fun user member => not_congr ?_
  simp only [decide_eq_true_eq]
  constructor
  · intro bound
    have entered := registered.bound user member entry.handle bound
    have same := List.inj_on_of_nodup_map registered.handles entered known rfl
    exact ⟨congrArg Entry.key same, bound ▸ rfl⟩
  · rintro ⟨own, bound⟩
    obtain ⟨handle, handleEq⟩ := Option.isSome_iff_exists.mp bound
    have entered := registered.bound user member handle handleEq
    have same := List.inj_on_of_nodup_map registered.keys entered known own
    exact handleEq.trans (congrArg (some ·.handle) same)

end Users

section Leaving

variable {locks before after : Locks} {key : Uuid} {user : Request}

/-- A key gets out of use when its only user goes away. -/
theorem Sound.stale_of_leaving (sound : before.Sound) (member : user ∈ before.held ++ before.pending)
    (entries : after.entries = before.entries)
    (left : after.held ++ after.pending =
      (before.held ++ before.pending).filter (·.ticket ≠ user.ticket)) :
    after.Stale key ↔ before.Stale key ∨ before.users key = [user] := by
  have users : after.users key = (before.users key).filter (·.ticket ≠ user.ticket) := by
    rw [Locks.users, Locks.users, left, List.filter_comm]
  have only : ∀ other ∈ before.users key, other.ticket = user.ticket → other = user :=
    fun other otherMember same =>
      sound.ordered.eq_of_ticket (mem_users_iff.mp otherMember).1 member same
  have knows : after.Knows key ↔ before.Knows key := by
    rw [Knows, entries, Knows]
  constructor
  · rintro ⟨known, unused⟩
    rw [users, List.filter_eq_nil_iff] at unused
    have same : ∀ other ∈ before.users key, other = user := fun other otherMember =>
      only other otherMember (by simpa using unused other otherMember)
    have distinct : (before.users key).Nodup := (sound.ordered.distinct.of_map _).filter _
    cases all : before.users key with
    | nil => exact .inl ⟨knows.mp known, all⟩
    | cons first rest =>
        rw [all] at same distinct
        obtain rfl := same first List.mem_cons_self
        have none : rest = [] := List.eq_nil_iff_forall_not_mem.mpr fun other inRest =>
          (List.nodup_cons.mp distinct).1 (same other (List.mem_cons_of_mem _ inRest) ▸ inRest)
        exact .inr (none ▸ rfl)
  · rintro (⟨known, unused⟩ | alone)
    · exact ⟨knows.mpr known, by rw [users, unused, List.filter_nil]⟩
    · have known := sound.registered.knows (alone ▸ List.mem_singleton_self user)
      exact ⟨knows.mpr known, by simp [users, alone]⟩

/-- A guard whose mutex is passed on may have been the only user of its key. -/
theorem Sound.stale_unlock (sound : locks.Sound) (member : user ∈ locks.held) :
    (locks.unlock user).Stale key ↔ locks.Stale key ∨ locks.users key = [user] := by
  obtain ⟨mutexes, unlocked⟩ := locks.unlock_eq user
  refine sound.stale_of_leaving (List.mem_append_left _ member) (unlocked ▸ rfl) ?_
  have others : locks.pending.filter (·.ticket ≠ user.ticket) = locks.pending :=
    List.filter_eq_self.mpr fun other pending =>
      decide_eq_true (sound.ordered.ticket_ne member pending).symm
  rw [List.filter_append, others, unlocked]
  rfl

/-- A request that is cancelled may have been the only user of its key. -/
theorem Sound.stale_cancel (sound : locks.Sound) (member : user ∈ locks.pending) :
    (locks.cancel user.ticket).Stale key ↔ locks.Stale key ∨ locks.users key = [user] := by
  obtain ⟨mutexes, cancelled⟩ := locks.cancel_eq user.ticket
  refine sound.stale_of_leaving (List.mem_append_right _ member) (cancelled ▸ rfl) ?_
  have others : locks.held.filter (·.ticket ≠ user.ticket) = locks.held :=
    List.filter_eq_self.mpr fun other held => decide_eq_true (sound.ordered.ticket_ne held member)
  rw [List.filter_append, others, cancelled]
  rfl

/-- The entry that is looked after is there for a key in use only. -/
theorem Sound.stale_sweep (sound : locks.Sound) (swept : Uuid) :
    (locks.sweep swept).Stale key ↔ locks.Stale key ∧ key ≠ swept := by
  unfold Locks.sweep
  split
  next entry found =>
    obtain ⟨known, rfl⟩ := entryOf?_eq_some found
    have counted := sound.registered.handleCount_eq_zero_iff known
    split
    next unused =>
      have knows : (locks.dropEntry entry.key).Knows key ↔ locks.Knows key ∧ key ≠ entry.key := by
        change key ∈ (locks.entries.filter ((fun other => other ≠ entry.key) ∘ (·.key))).map _ ↔ _
        rw [← List.filter_map, List.mem_filter, decide_eq_true_iff]
        rfl
      constructor
      · rintro ⟨knownAfter, unusedAfter⟩
        exact ⟨⟨(knows.mp knownAfter).1, unusedAfter⟩, (knows.mp knownAfter).2⟩
      · rintro ⟨⟨knownBefore, unusedBefore⟩, apart⟩
        exact ⟨knows.mpr ⟨knownBefore, apart⟩, unusedBefore⟩
    next used =>
      refine (and_iff_left_of_imp fun stale same => used ?_).symm
      exact counted.mpr (same ▸ stale.unused)
  next absent =>
    refine (and_iff_left_of_imp fun stale same => ?_).symm
    exact entryOf?_eq_none absent (same ▸ stale.known)

/-- A guard that is released leaves no entry behind. -/
theorem Sound.stale_release (sound : locks.Sound) (member : user ∈ locks.held) :
    ((locks.unlock user).sweep user.key).Stale key ↔ locks.Stale key := by
  rw [(sound.unlock member).sound.stale_sweep, sound.stale_unlock member]
  have used : user ∈ locks.users user.key :=
    mem_users_iff.mpr ⟨List.mem_append_left _ member, rfl, sound.ordered.guarded user member⟩
  constructor
  · rintro ⟨stale | alone, apart⟩
    · exact stale
    · have own := (mem_users_iff.mp (alone ▸ List.mem_singleton_self user)).2.1
      exact absurd own.symm apart
  · intro stale
    refine ⟨.inl stale, ?_⟩
    rintro rfl
    exact List.ne_nil_of_mem used stale.unused

end Leaving

section Poll

variable {before after locks : Locks} {key : Uuid} {request : Request} {handle : Handle}

/-- Whoever is polled uses the key. -/
theorem Polled.mem_users (polled : before.Polled request handle after)
    (member : request ∈ before.pending) : request.bind handle ∈ after.users request.key := by
  refine mem_users_iff.mpr ⟨List.mem_append.mpr ?_, rfl, rfl⟩
  cases polled with
  | granted held pending first =>
      rw [held]
      exact .inl (List.mem_append_right _ List.mem_cons_self)
  | waits held pending owner other =>
      rw [pending]
      exact .inr (List.mem_map.mpr ⟨request, member, if_pos rfl⟩)

/-- A poll makes an entry for its own key only. -/
theorem knows_pollRequest (locks : Locks) (request : Request) (key : Uuid) :
    (locks.Knows key → (locks.pollRequest request).Knows key) ∧
      ((locks.pollRequest request).Knows key → locks.Knows key ∨ key = request.key) := by
  have lock_entries (found : Locks) (handle : Handle) :
      (found.lock request handle).entries = found.entries := by
    unfold Locks.lock
    repeat' split
    all_goals rfl
  unfold Locks.pollRequest
  cases request.handle with
  | some handle =>
      simp only [Knows, lock_entries]
      exact ⟨id, .inl⟩
  | none =>
      simp only [Knows, lock_entries]
      unfold Locks.lookUp
      cases locks.entryOf? request.key with
      | some entry => exact ⟨id, .inl⟩
      | none =>
          simp only [addMutex, List.map_append, List.map_cons, List.map_nil, List.mem_append,
            List.mem_singleton]
          exact ⟨.inl, id⟩

/-- As far as a round has come, no entry has been lost and none has been left behind. -/
def Tending (start : Locks) (key : Uuid) (locks : Locks) (_ : List Ticket) : Prop :=
  (start.Knows key → locks.Knows key) ∧ (locks.Stale key → start.Stale key)

theorem Tending.poll {start : Locks} {rest : List Ticket} (sound : before.Sound)
    (member : request ∈ before.pending) (due : before.Due (request.ticket :: rest))
    (tending : start.Tending key before (request.ticket :: rest)) :
    start.Tending key (before.pollRequest request) rest := by
  obtain ⟨kept, fresh⟩ := before.knows_pollRequest request key
  obtain ⟨moves, _, handle, polled⟩ := sound.pollRequest member due.turn
  refine ⟨fun known => kept (tending.1 known), fun ⟨known, unused⟩ => tending.2 ?_⟩
  -- A poll may make an entry, but whoever is polled uses it.
  have apart : key ≠ request.key := by
    rintro rfl
    exact List.ne_nil_of_mem (polled.mem_users member) unused
  exact ⟨(fresh known).resolve_right apart, (moves.spares key apart).users_eq ▸ unused⟩

/-- A round of polls leaves no entry behind, but it may use one that has been left behind. -/
theorem Sound.stale_poll (sound : locks.Sound) (count : Nat) :
    (locks.pollFirst count).Stale key ↔ locks.Stale key ∧ (locks.pollFirst count).users key = [] := by
  have start : locks.Tending key locks ((locks.pending.take count).map (·.ticket)) := ⟨id, id⟩
  obtain ⟨_, kept, left⟩ := Sound.round
    (fun _ _ _ sound member due tending => tending.poll sound member due)
    (fun _ _ _ _ tending => tending) sound (sound.ordered.due count) start
  exact ⟨fun stale => ⟨left stale, stale.unused⟩, fun ⟨stale, unused⟩ => ⟨kept stale.known, unused⟩⟩

end Poll

section Act

/-- The last user of a key goes away with this action, and its entry is not looked after. -/
def Action.Abandons (locks : Locks) (key : Uuid) : Action → Prop
  | .cancel ticket => ∃ request ∈ locks.pending, request.ticket = ticket ∧ locks.users key = [request]
  | .passOn ticket => ∃ guard ∈ locks.held, guard.ticket = ticket ∧ locks.users key = [guard]
  | .request _ | .poll _ | .release _ | .sweep _ => False

/-- The entry of a key has been left behind before this action and is still there afterwards. -/
structure Action.Neglects (locks : Locks) (key : Uuid) (action : Action) : Prop where
  stale : locks.Stale key
  unused : (locks.act action).users key = []
  unswept : action ≠ .sweep key

variable {locks : Locks} {key : Uuid}

/-- Entries that were left behind earlier are neglected by every action that does not look after them. -/
theorem Action.stale_iff {action : Action}
    (left : (locks.act action).Stale key ↔ locks.Stale key ∨ action.Abandons locks key)
    (unswept : action ≠ .sweep key) :
    (locks.act action).Stale key ↔ action.Neglects locks key ∨ action.Abandons locks key := by
  constructor
  · intro stale
    exact (left.mp stale).imp_left fun before => ⟨before, stale.unused, unswept⟩
  · exact fun after => left.mpr (after.imp_left Action.Neglects.stale)

theorem exists_alone_iff {requests : List Request} {user : Request} (member : user ∈ requests)
    (unique : ∀ found ∈ requests, found.ticket = user.ticket → found = user) :
    (∃ found ∈ requests, found.ticket = user.ticket ∧ locks.users key = [found]) ↔
      locks.users key = [user] := by
  refine ⟨?_, fun alone => ⟨user, member, rfl, alone⟩⟩
  rintro ⟨found, known, same, alone⟩
  exact unique found known same ▸ alone

/-- Asking for a lock uses no key yet. -/
theorem stale_request (locks : Locks) (asked key : Uuid) :
    (locks.request asked).Stale key ↔ locks.Stale key := by
  have users : (locks.request asked).users key = locks.users key := by
    simp [Locks.users, Locks.request]
  constructor
  · exact fun stale => ⟨stale.known, users ▸ stale.unused⟩
  · exact fun stale => ⟨stale.known, users.trans stale.unused⟩

/-- Dropping a guard leaves no entry behind. -/
theorem Sound.stale_drop (sound : locks.Sound) (ticket : Ticket) (key : Uuid) :
    (locks.release ticket).Stale key ↔ locks.Stale key := by
  rw [Locks.release]
  cases found : locks.held.find? fun guard => guard.ticket = ticket with
  | none => exact Iff.rfl
  | some guard => exact sound.stale_release (List.mem_of_find?_eq_some found)

/-- A guard that is passed on leaves an entry behind when nobody else uses its key. -/
theorem Sound.stale_passOn (sound : locks.Sound) (ticket : Ticket) (key : Uuid) :
    (locks.passOn ticket).Stale key ↔
      locks.Stale key ∨ (Action.passOn ticket).Abandons locks key := by
  rw [Action.Abandons]
  by_cases held : ∃ guard ∈ locks.held, guard.ticket = ticket
  · obtain ⟨guard, member, rfl⟩ := held
    have unique (found : Request) (known : found ∈ locks.held) :=
      sound.ordered.guard_eq known member
    rw [exists_alone_iff member unique, Locks.passOn, find?_ticket member unique]
    exact sound.stale_unlock member
  · have gone : locks.held.find? (fun guard => guard.ticket = ticket) = none := by simpa using held
    rw [Locks.passOn, gone]
    refine (or_iff_left ?_).symm
    rintro ⟨guard, member, named, -⟩
    exact held ⟨guard, member, named⟩

/-- A request that is withdrawn leaves an entry behind when nobody else uses its key. -/
theorem Sound.stale_withdraw (sound : locks.Sound) (ticket : Ticket) (key : Uuid) :
    (locks.cancel ticket).Stale key ↔
      locks.Stale key ∨ (Action.cancel ticket).Abandons locks key := by
  rw [Action.Abandons]
  by_cases waits : ∃ request ∈ locks.pending, request.ticket = ticket
  · obtain ⟨request, member, rfl⟩ := waits
    have unique (found : Request) (known : found ∈ locks.pending) :=
      sound.ordered.request_eq known member
    rw [exists_alone_iff member unique]
    exact sound.stale_cancel member
  · rw [locks.cancel_eq_self (by simpa using waits)]
    refine (or_iff_left ?_).symm
    rintro ⟨request, member, named, -⟩
    exact waits ⟨request, member, named⟩

/-- An entry is left behind by whoever abandons its key. It stays until the key is used again or the entry
is looked after. -/
theorem Sound.stale_act (sound : locks.Sound) (action : Action) :
    (locks.act action).Stale key ↔ action.Neglects locks key ∨ action.Abandons locks key := by
  cases action with
  | request asked =>
      refine Action.stale_iff ?_ (by simp)
      exact (locks.stale_request asked key).trans (.of_eq (or_false _).symm)
  | poll count =>
      refine (sound.stale_poll count).trans (Iff.trans ?_ (.of_eq (or_false _).symm))
      constructor
      · rintro ⟨stale, unused⟩
        exact ⟨stale, unused, by simp⟩
      · exact fun neglects => ⟨neglects.stale, neglects.unused⟩
  | release ticket =>
      refine Action.stale_iff ?_ (by simp)
      exact (sound.stale_drop ticket key).trans (.of_eq (or_false _).symm)
  | passOn ticket => exact Action.stale_iff (sound.stale_passOn ticket key) (by simp)
  | sweep swept =>
      refine (sound.stale_sweep swept).trans (Iff.trans ?_ (.of_eq (or_false _).symm))
      constructor
      · rintro ⟨stale, apart⟩
        obtain ⟨entries, kept⟩ := locks.sweep_eq swept
        refine ⟨stale, ?_, fun same => apart (Action.sweep.inj same).symm⟩
        rw [Locks.act, kept]
        exact stale.unused
      · intro neglects
        refine ⟨neglects.stale, ?_⟩
        rintro rfl
        exact neglects.unswept rfl
  | cancel ticket => exact Action.stale_iff (sound.stale_withdraw ticket key) (by simp)

/-- A request abandons its key only when it has been handed the lock and has not been polled since. -/
theorem Sound.handed_of_abandons (sound : locks.Sound) {ticket : Ticket}
    (abandons : (Action.cancel ticket).Abandons locks key) :
    locks.holders key = [] ∧ (locks.mutexOf key).owner = some ticket := by
  obtain ⟨request, member, rfl, alone⟩ := abandons
  have only (other : Request) (used : other ∈ locks.users key) : other = request :=
    List.mem_singleton.mp (alone ▸ used)
  obtain ⟨_, rfl, bound⟩ := mem_users_iff.mp (alone ▸ List.mem_singleton_self request)
  have holders : locks.holders request.key = [] := by
    rw [Locks.holders, List.map_eq_nil_iff, guardsOf, List.filter_eq_nil_iff]
    intro guard held own
    have used := mem_users_iff.mpr
      ⟨List.mem_append_left _ held, of_decide_eq_true own, sound.ordered.guarded guard held⟩
    exact sound.ordered.ticket_ne held member (congrArg Request.ticket (only guard used))
  refine ⟨holders, ?_⟩
  have serves := sound.serves request.key
  have waits := (sound.ordered.mem_waiters_iff member).mpr bound
  have first (owner : Ticket) (waiting : owner ∈ locks.waiters request.key) : owner = request.ticket := by
    obtain ⟨other, otherMember, rfl⟩ := List.mem_map.mp waiting
    obtain ⟨requested, polled⟩ := List.mem_filter.mp otherMember
    obtain ⟨pending, own⟩ := List.mem_filter.mp requested
    have used := mem_users_iff.mpr ⟨List.mem_append_right _ pending, of_decide_eq_true own, polled⟩
    exact congrArg Request.ticket (only other used)
  -- Without guards, a mutex that is waited for has been handed to one of those who wait.
  rw [holders] at serves
  generalize locks.mutexOf request.key = mutex, locks.waiters request.key = waiting at serves waits first
  cases serves with
  | free => cases waits
  | handed owner queue => exact congrArg some (first owner List.mem_cons_self)

end Act

section Run

/-- These are the locks after a run. -/
def after (actions : List Action) : Locks :=
  (run actions).locks

theorem after_append (actions : List Action) (action : Action) :
    after (actions ++ [action]) = (after actions).act action := by
  rw [after, run, List.foldl_append]
  rfl

/-- The last user of the key has gone away without looking after its entry, and since then nobody has used
the key or looked after its entry. -/
inductive Neglected (key : Uuid) : List Action → Prop
  | abandoned {actions : List Action} {action : Action}
      (abandons : action.Abandons (after actions) key) : Neglected key (actions ++ [action])
  | still {actions : List Action} {action : Action} (neglected : Neglected key actions)
      (unused : (after (actions ++ [action])).users key = []) (unswept : action ≠ .sweep key) :
      Neglected key (actions ++ [action])

theorem neglected_append_iff {actions : List Action} {action : Action} {key : Uuid} :
    Neglected key (actions ++ [action]) ↔ action.Abandons (after actions) key ∨
      Neglected key actions ∧ (after (actions ++ [action])).users key = [] ∧ action ≠ .sweep key := by
  constructor
  · generalize whole : actions ++ [action] = all
    rintro (abandons | ⟨neglected, unused, unswept⟩)
    · obtain ⟨rfl, same⟩ := List.append_inj' whole rfl
      exact .inl (List.singleton_inj.mp same ▸ abandons)
    · obtain ⟨rfl, same⟩ := List.append_inj' whole rfl
      obtain rfl := List.singleton_inj.mp same
      exact .inr ⟨neglected, unused, unswept⟩
  · rintro (abandons | ⟨neglected, unused, unswept⟩)
    · exact .abandoned abandons
    · exact .still neglected unused unswept

theorem after_sound (actions : List Action) : (after actions).Sound :=
  (run_sound actions).1

/-- An entry is left behind as long as its key is neglected. -/
theorem stale_iff_neglected (actions : List Action) (key : Uuid) :
    (after actions).Stale key ↔ Neglected key actions := by
  induction actions using List.reverseRecOn with
  | nil =>
      constructor
      · exact fun stale => absurd stale.known List.not_mem_nil
      · generalize whole : ([] : List Action) = all
        rintro (abandons | neglected) <;> simp at whole
  | append_singleton actions action inductionHypothesis =>
      rw [neglected_append_iff, ← inductionHypothesis, after_append,
        (after_sound actions).stale_act action, or_comm]
      refine or_congr_right ⟨fun neglects => ⟨neglects.stale, neglects.unused, neglects.unswept⟩, ?_⟩
      rintro ⟨stale, unused, unswept⟩
      exact ⟨stale, unused, unswept⟩

/-- These are the keys that have a guard or are waited for. -/
def usedKeys (locks : Locks) : List Uuid :=
  (((locks.held ++ locks.pending).filter (·.handle.isSome)).map (·.key)).dedup

theorem mem_usedKeys_iff {locks : Locks} {key : Uuid} :
    key ∈ locks.usedKeys ↔ locks.users key ≠ [] := by
  rw [usedKeys, List.mem_dedup, List.mem_map]
  constructor
  · rintro ⟨user, member, own⟩
    obtain ⟨known, bound⟩ := List.mem_filter.mp member
    exact List.ne_nil_of_mem (mem_users_iff.mpr ⟨known, own, bound⟩)
  · intro used
    obtain ⟨user, member⟩ := List.exists_mem_of_ne_nil _ used
    obtain ⟨known, own, bound⟩ := mem_users_iff.mp member
    exact ⟨user, List.mem_filter.mpr ⟨known, bound⟩, own⟩

/-- No key is in use when there are neither guards nor requests that wait. -/
theorem Ordered.usedKeys_eq_nil_iff {locks : Locks} (ordered : locks.Ordered) :
    locks.usedKeys = [] ↔ locks.held = [] ∧ ∀ request ∈ locks.pending, request.handle = none := by
  rw [usedKeys, List.dedup_eq_nil, List.map_eq_nil_iff, List.filter_append, List.append_eq_nil_iff,
    List.filter_eq_self.mpr ordered.guarded]
  simp [List.filter_eq_nil_iff]

/-- This is what may be relied on of the entries after a run. -/
structure Upkeep (actions : List Action) : Prop where
  /-- Every key in use has an entry, and so have the keys that are neglected. -/
  entries : ∀ key, (after actions).Knows key ↔ (after actions).users key ≠ [] ∨ Neglected key actions
  /-- When no key is neglected, the entries are those of the keys in use. -/
  size : (∀ key, ¬ Neglected key actions) → (after actions).size = (after actions).usedKeys.length
  /-- When no key is neglected, there is no entry once nobody has a lock or waits for one. -/
  isEmpty : (∀ key, ¬ Neglected key actions) → ((after actions).isEmpty ↔
    (after actions).held = [] ∧ ∀ request ∈ (after actions).pending, request.handle = none)
  /-- A request that abandons its key has been handed the lock and has not been polled since. -/
  handed : ∀ ticket key, (Action.cancel ticket).Abandons (after actions) key →
    (after actions).holders key = [] ∧ ((after actions).mutexOf key).owner = some ticket
  /-- After a round of polls no request can abandon its key. -/
  polled : ∀ ticket key, ¬ (Action.cancel ticket).Abandons (after actions).pollAll key

/-- In every run the entries are those of the keys in use and of the neglected keys. -/
theorem run_upkeep (actions : List Action) : Upkeep actions := by
  have sound := after_sound actions
  have entries (key : Uuid) :
      (after actions).Knows key ↔ (after actions).users key ≠ [] ∨ Neglected key actions := by
    rw [← stale_iff_neglected]
    constructor
    · intro known
      by_cases unused : (after actions).users key = []
      · exact .inr ⟨known, unused⟩
      · exact .inl unused
    · rintro (used | stale)
      · obtain ⟨user, member⟩ := List.exists_mem_of_ne_nil _ used
        exact sound.registered.knows member
      · exact stale.known
  have exact_size (kept : ∀ key, ¬ Neglected key actions) :
      (after actions).size = (after actions).usedKeys.length := by
    have same (key : Uuid) :
        key ∈ (after actions).entries.map (·.key) ↔ key ∈ (after actions).usedKeys := by
      rw [mem_usedKeys_iff]
      exact (entries key).trans (or_iff_left (kept key))
    have perm := (List.perm_ext_iff_of_nodup sound.registered.keys (List.nodup_dedup _)).mpr same
    exact (List.length_map _).symm.trans perm.length_eq
  refine ⟨entries, exact_size, fun kept => ?_, fun _ _ => sound.handed_of_abandons, ?_⟩
  · rw [← sound.ordered.usedKeys_eq_nil_iff, ← List.length_eq_zero_iff, ← exact_size kept, size,
      List.length_eq_zero_iff]
    exact List.isEmpty_iff
  · intro ticket key abandons
    obtain ⟨polled, settled⟩ := sound.pollAll
    obtain ⟨_, owned⟩ := polled.handed_of_abandons abandons
    obtain ⟨request, member, rfl, alone⟩ := abandons
    obtain ⟨_, own, _⟩ := mem_users_iff.mp (alone ▸ List.mem_singleton_self request)
    have asked : request ∈ (after actions).pollAll.requestsOf key :=
      List.mem_filter.mpr ⟨member, decide_eq_true own⟩
    exact (settled key request asked).2 owned

/-- The second request gives up after it has been handed the lock. Nobody uses the key any more, but its
entry stays. -/
theorem abandoned_entry_stays :
    let locks := after [.request .nil, .request .nil, .poll 2, .release 0, .cancel 1]
    locks.held = [] ∧ locks.pending = [] ∧ locks.size = 1 ∧ locks.isEmpty = false := by
  decide

end Run

end Signoff.Locks

import Mathlib.Data.List.Nodup
import Signoff.Locks

namespace Signoff.Locks

/-- This is the mutex of a key. It is free while the registry has none. -/
def mutexOf (locks : Locks) (key : Uuid) : Mutex :=
  match locks.entryOf? key with
  | some entry => (locks.mutexes[entry.handle]?).getD .free
  | none => .free

/-- Every key has one mutex, and all handles of others are known to the registry. -/
structure Registered (locks : Locks) : Prop where
  keys : (locks.entries.map (·.key)).Nodup
  handles : (locks.entries.map (·.handle)).Nodup
  made : ∀ entry ∈ locks.entries, entry.handle < locks.mutexes.length
  bound : ∀ request ∈ locks.held ++ locks.pending, ∀ handle, request.handle = some handle →
    ⟨request.key, handle⟩ ∈ locks.entries

theorem registered_empty : empty.Registered :=
  ⟨List.nodup_nil, List.nodup_nil, fun _ member => absurd member List.not_mem_nil,
    fun _ member => absurd member List.not_mem_nil⟩

section Lookup

variable {locks : Locks} {key : Uuid} {handle : Handle}

theorem entryOf?_eq_some {entry : Entry} (found : locks.entryOf? key = some entry) :
    entry ∈ locks.entries ∧ entry.key = key :=
  ⟨List.mem_of_find?_eq_some found, by simpa using List.find?_some found⟩

theorem entryOf?_eq_none (absent : locks.entryOf? key = none) : key ∉ locks.entries.map (·.key) := by
  intro known
  obtain ⟨entry, member, same⟩ := List.mem_map.mp known
  have different := List.find?_eq_none.mp absent entry member
  exact different (decide_eq_true same)

/-- A new mutex is free, as it was while the registry had none. -/
theorem mutexOf_addMutex (made : ∀ entry ∈ locks.entries, entry.handle < locks.mutexes.length)
    (key other : Uuid) :
    (locks.addMutex key).mutexOf other = locks.mutexOf other := by
  have searched : (locks.addMutex key).entryOf? other =
      (locks.entryOf? other).or ([⟨key, locks.mutexes.length⟩].find? fun entry => entry.key = other) :=
    List.find?_append
  unfold mutexOf
  rw [searched]
  cases found : locks.entryOf? other with
  | some entry =>
      have old := made entry (entryOf?_eq_some found).1
      simp [addMutex, List.getElem?_append_left old]
  | none =>
      by_cases own : key = other
      · simp [addMutex, own]
      · simp [own]

theorem mutexOf_dropEntry (other : Uuid) :
    (locks.dropEntry key).mutexOf other = if other = key then .free else locks.mutexOf other := by
  have searched : (locks.dropEntry key).entryOf? other =
      locks.entries.find? fun entry => entry.key ≠ key ∧ entry.key = other := by
    rw [entryOf?, dropEntry, List.find?_filter]
    simp
  by_cases own : other = key
  · have absent : (locks.dropEntry key).entryOf? other = none := by
      rw [searched, List.find?_eq_none]
      simp [own]
    rw [mutexOf, absent, if_pos own]
  · have same : (locks.dropEntry key).entryOf? other = locks.entryOf? other := by
      rw [searched, entryOf?]
      congr 1
      funext entry
      by_cases named : entry.key = other
      · simp [named, own]
      · simp [named]
    rw [mutexOf, same, if_neg own]
    rfl

end Lookup

namespace Registered

section Reading

variable {locks : Locks} (registered : locks.Registered) {key : Uuid} {handle : Handle}

include registered

theorem entryOf?_eq (member : ⟨key, handle⟩ ∈ locks.entries) :
    locks.entryOf? key = some ⟨key, handle⟩ := by
  cases found : locks.entryOf? key with
  | none => exact absurd (List.mem_map_of_mem member) (entryOf?_eq_none found)
  | some entry =>
      obtain ⟨known, same⟩ := entryOf?_eq_some found
      exact congrArg some (List.inj_on_of_nodup_map registered.keys known member same)

theorem mutexes_eq (member : ⟨key, handle⟩ ∈ locks.entries) :
    locks.mutexes[handle]? = some (locks.mutexOf key) := by
  have inside : handle < locks.mutexes.length := registered.made _ member
  rw [mutexOf, registered.entryOf?_eq member]
  simp [inside]

/-- Changing the mutex of one key leaves those of the other keys alone. -/
theorem mutexOf_updateMutex (member : ⟨key, handle⟩ ∈ locks.entries) (change : Mutex → Mutex)
    (other : Uuid) :
    (locks.updateMutex handle change).mutexOf other =
      if other = key then change (locks.mutexOf key) else locks.mutexOf other := by
  have searched : (locks.updateMutex handle change).entryOf? other = locks.entryOf? other := rfl
  by_cases own : other = key
  · have inside : handle < locks.mutexes.length := registered.made _ member
    rw [if_pos own, own, mutexOf, mutexOf, ← own, searched, own, registered.entryOf?_eq member]
    simp [updateMutex, inside]
  · rw [if_neg own, mutexOf, mutexOf, searched]
    cases found : locks.entryOf? other with
    | none => rfl
    | some entry =>
        obtain ⟨known, same⟩ := entryOf?_eq_some found
        have apart : handle ≠ entry.handle := by
          intro shared
          have equal := List.inj_on_of_nodup_map registered.handles member known shared
          exact own (same.symm.trans (congrArg Entry.key equal).symm)
        simp [updateMutex, apart]

end Reading

section Keeping

variable {before after : Locks} (registered : before.Registered)

include registered

/-- What holds of the registry depends on the handles of requests and guards only. -/
theorem of_handles (entries : after.entries = before.entries)
    (mutexes : after.mutexes.length = before.mutexes.length)
    (bound : ∀ request ∈ after.held ++ after.pending, ∀ handle, request.handle = some handle →
      ⟨request.key, handle⟩ ∈ before.entries) : after.Registered where
  keys := entries ▸ registered.keys
  handles := entries ▸ registered.handles
  made := by
    rw [entries, mutexes]
    exact registered.made
  bound := entries ▸ bound

theorem of_subset (entries : after.entries = before.entries)
    (mutexes : after.mutexes.length = before.mutexes.length)
    (fewer : after.held ++ after.pending ⊆ before.held ++ before.pending) : after.Registered :=
  registered.of_handles entries mutexes fun request member => registered.bound request (fewer member)

theorem addMutex {key : Uuid} (absent : before.entryOf? key = none) :
    (before.addMutex key).Registered where
  keys := by
    simp only [Locks.addMutex, List.map_append, List.map_cons, List.map_nil, List.nodup_append]
    refine ⟨registered.keys, by simp, ?_⟩
    rintro known member _ new rfl
    exact entryOf?_eq_none absent (List.mem_singleton.mp new ▸ member)
  handles := by
    simp only [Locks.addMutex, List.map_append, List.map_cons, List.map_nil, List.nodup_append]
    refine ⟨registered.handles, by simp, ?_⟩
    rintro handle member _ new rfl
    obtain ⟨entry, known, same⟩ := List.mem_map.mp member
    have old := registered.made entry known
    rw [same, List.mem_singleton.mp new] at old
    exact Nat.lt_irrefl _ old
  made := by
    intro entry member
    simp only [Locks.addMutex, List.length_append, List.length_cons, List.length_nil]
    rcases List.mem_append.mp member with old | new
    · exact Nat.lt_succ_of_lt (registered.made entry old)
    · rw [List.mem_singleton.mp new]
      exact Nat.lt_succ_self _
  bound := fun request member handle own =>
    List.mem_append_left _ (registered.bound request member handle own)

/-- An entry whose mutex is of no use to anybody may be removed. -/
theorem dropEntry {key : Uuid} {handle : Handle} (known : ⟨key, handle⟩ ∈ before.entries)
    (unused : before.handleCount handle = 0) : (before.dropEntry key).Registered where
  keys := registered.keys.sublist (List.filter_sublist.map _)
  handles := registered.handles.sublist (List.filter_sublist.map _)
  made := fun entry member => registered.made entry (List.mem_filter.mp member).1
  bound := by
    intro request member own same
    have entered := registered.bound request member own same
    refine List.mem_filter.mpr ⟨entered, decide_eq_true fun sameKey => ?_⟩
    have equal := List.inj_on_of_nodup_map registered.keys entered known sameKey
    have shared : own = handle := congrArg Entry.handle equal
    have counted := List.countP_eq_zero.mp unused request member
    exact counted (decide_eq_true (same.trans (congrArg some shared)))

end Keeping

end Registered

end Signoff.Locks

import Signoff.Uuid

/-!
This module holds the locks that serialise the work on one expense.
-/

namespace Signoff

/-- Requests are numbered in the order in which they are made. -/
abbrev Locks.Ticket := Nat

/-- Mutexes are numbered in the order in which they are made. -/
abbrev Locks.Handle := Nat

/-- This is a request for the lock of a key, or the guard that the request has become. Until its first poll it
does nothing and has no handle. -/
structure Locks.Request where
  ticket : Locks.Ticket
  key : Uuid
  handle : Option Locks.Handle
deriving DecidableEq

/-- This is the request with a handle of its mutex. -/
def Locks.Request.bind (request : Locks.Request) (handle : Locks.Handle) : Locks.Request :=
  { request with handle := some handle }

/-- The owner has a guard, or has been handed the mutex since its last poll. -/
structure Locks.Mutex where
  owner : Option Locks.Ticket
  queue : List Locks.Ticket
deriving DecidableEq

/-- The registry keeps a handle of the mutex of a key. -/
structure Locks.Entry where
  key : Uuid
  handle : Locks.Handle
deriving DecidableEq

/-- Pending requests stand in the order of arrival and guards in the order of acquisition. A mutex without
handles is never used again. -/
structure Locks where
  nextTicket : Locks.Ticket
  entries : List Locks.Entry
  mutexes : List Locks.Mutex
  pending : List Locks.Request
  held : List Locks.Request
deriving DecidableEq

namespace Locks

def empty : Locks := ⟨0, [], [], [], []⟩

/-- This is the count of the keys with an entry. -/
def size (locks : Locks) : Nat :=
  locks.entries.length

def isEmpty (locks : Locks) : Bool :=
  locks.entries.isEmpty

namespace Mutex

def free : Mutex := ⟨none, []⟩

def take (mutex : Mutex) (ticket : Ticket) : Mutex :=
  { mutex with owner := some ticket }

def join (mutex : Mutex) (ticket : Ticket) : Mutex :=
  { mutex with queue := mutex.queue ++ [ticket] }

/-- The mutex goes to the request that has queued longest, which has it from its next poll on. It is free when
nobody queues. -/
def passOn (mutex : Mutex) : Mutex :=
  match mutex.queue with
  | [] => free
  | next :: rest => ⟨some next, rest⟩

/-- A request that goes away leaves the queue. If it has been handed the mutex, it hands it on. -/
def leave (mutex : Mutex) (ticket : Ticket) : Mutex :=
  if mutex.owner = some ticket then mutex.passOn
  else { mutex with queue := mutex.queue.filter fun other => other ≠ ticket }

end Mutex

def entryOf? (locks : Locks) (key : Uuid) : Option Entry :=
  locks.entries.find? fun entry => entry.key = key

def dropEntry (locks : Locks) (key : Uuid) : Locks :=
  { locks with entries := locks.entries.filter fun entry => entry.key ≠ key }

/-- A new mutex is made for a key. -/
def addMutex (locks : Locks) (key : Uuid) : Locks :=
  { locks with
    entries := locks.entries ++ [⟨key, locks.mutexes.length⟩]
    mutexes := locks.mutexes ++ [.free] }

def updateMutex (locks : Locks) (handle : Handle) (change : Mutex → Mutex) : Locks :=
  { locks with mutexes := locks.mutexes.modify handle change }

/-- This is the count of the handles of a mutex, except for that of the registry. -/
def handleCount (locks : Locks) (handle : Handle) : Nat :=
  (locks.held ++ locks.pending).countP fun request => request.handle = some handle

/-- A new request waits for its first poll. -/
def request (locks : Locks) (key : Uuid) : Locks :=
  { locks with
    nextTicket := locks.nextTicket + 1
    pending := locks.pending ++ [⟨locks.nextTicket, key, none⟩] }

def withoutRequest (locks : Locks) (ticket : Ticket) : Locks :=
  { locks with pending := locks.pending.filter fun other => other.ticket ≠ ticket }

def withoutGuard (locks : Locks) (ticket : Ticket) : Locks :=
  { locks with held := locks.held.filter fun other => other.ticket ≠ ticket }

/-- A request keeps the handle that it has got. -/
def withHandle (locks : Locks) (ticket : Ticket) (handle : Handle) : Locks :=
  { locks with
    pending := locks.pending.map fun other =>
      if other.ticket = ticket then other.bind handle else other }

/-- A request that has its mutex becomes a guard. -/
def grant (locks : Locks) (request : Request) : Locks :=
  { locks.withoutRequest request.ticket with held := locks.held ++ [request] }

/-- This is the handle in the registry, which makes a mutex if the key has none. -/
def lookUp (locks : Locks) (key : Uuid) : Handle × Locks :=
  match locks.entryOf? key with
  | some entry => (entry.handle, locks)
  | none => (locks.mutexes.length, locks.addMutex key)

/-- A request takes its mutex, waits for it, or finds that it has been handed it. -/
def lock (locks : Locks) (request : Request) (handle : Handle) : Locks :=
  match locks.mutexes[handle]? with
  | none => locks
  | some mutex =>
      if mutex.owner = some request.ticket then locks.grant (request.bind handle)
      else if request.ticket ∈ mutex.queue then locks
      else if mutex.owner = none then
        (locks.updateMutex handle fun free => free.take request.ticket).grant (request.bind handle)
      else
        (locks.updateMutex handle fun taken => taken.join request.ticket).withHandle
          request.ticket handle

/-- A pending request asks for its mutex, which it looks up at its first poll only. -/
def pollRequest (locks : Locks) (request : Request) : Locks :=
  match request.handle with
  | some handle => locks.lock request handle
  | none =>
      let (handle, found) := locks.lookUp request.key
      found.lock request handle

def poll (locks : Locks) (ticket : Ticket) : Locks :=
  match locks.pending.find? fun request => request.ticket = ticket with
  | some request => locks.pollRequest request
  | none => locks

/-- So many pending requests are polled once, in the order of arrival. -/
def pollFirst (locks : Locks) (count : Nat) : Locks :=
  ((locks.pending.take count).map (·.ticket)).foldl poll locks

def pollAll (locks : Locks) : Locks :=
  locks.pollFirst locks.pending.length

/-- A guard that is dropped passes its mutex on and gives its handle back. -/
def unlock (locks : Locks) (guard : Request) : Locks :=
  match guard.handle with
  | some handle => (locks.withoutGuard guard.ticket).updateMutex handle Mutex.passOn
  | none => locks.withoutGuard guard.ticket

/-- The entry of a key is removed when nobody else has a handle of its mutex. -/
def sweep (locks : Locks) (key : Uuid) : Locks :=
  match locks.entryOf? key with
  | some entry => if locks.handleCount entry.handle = 0 then locks.dropEntry key else locks
  | none => locks

/-- The entry is looked after once the mutex has been passed on. -/
def release (locks : Locks) (ticket : Ticket) : Locks :=
  match locks.held.find? fun guard => guard.ticket = ticket with
  | none => locks
  | some guard => (locks.unlock guard).sweep guard.key

/-- A request that is dropped leaves its queue. The entry stays even when nobody else needs it. -/
def cancel (locks : Locks) (ticket : Ticket) : Locks :=
  match locks.pending.find? fun request => request.ticket = ticket with
  | none => locks
  | some request =>
      match request.handle with
      | none => locks.withoutRequest ticket
      | some handle =>
          (locks.withoutRequest ticket).updateMutex handle fun mutex => mutex.leave ticket

end Locks

end Signoff

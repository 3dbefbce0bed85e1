import Signoff.Submission

namespace Signoff.Store

/-- A receiver is the count of changes that it has read or missed. Changes that nobody could receive
are not counted. -/
structure Feed where
  capacity : Nat
  sent : List StatusChange
  receivers : List Nat
deriving DecidableEq

namespace Feed

/-- This is the least power of two that is not below a number. -/
def powerAbove (number : Nat) : Nat :=
  if number ≤ 1 then 1 else Nat.pow 2 ((number - 1).log2 + 1)

/-- A feed keeps one change at least. -/
def ofSize (size : Nat) : Feed :=
  ⟨powerAbove size, [], []⟩

/-- No feed has room for more changes than this. -/
def greatestCapacity : Nat := Nat.pow 2 57

/-- A feed of the given size has to be possible. -/
def ofSize? (size : Nat) : Option Feed :=
  if powerAbove size ≤ greatestCapacity then some (ofSize size) else none

def hasReceivers (feed : Feed) : Bool :=
  !feed.receivers.isEmpty

/-- A new receiver hears of later changes only. Receivers are numbered from zero. -/
def subscribe (feed : Feed) : Feed :=
  { feed with receivers := feed.receivers ++ [feed.sent.length] }

def send (feed : Feed) (change : StatusChange) : Feed :=
  if feed.hasReceivers then { feed with sent := feed.sent ++ [change] } else feed

/-- This is what a receiver is given: how many changes it has lost, and those that are kept. -/
structure Delivery where
  lost : Nat
  changes : List StatusChange
deriving DecidableEq

/-- This is the position of the oldest change that is kept. -/
def oldest (feed : Feed) : Nat :=
  feed.sent.length - feed.capacity

/-- A receiver is given everything that it has not read. -/
def drain? (feed : Feed) (receiver : Nat) : Option (Delivery × Feed) :=
  (feed.receivers[receiver]?).map fun position =>
    (⟨feed.oldest - position, feed.sent.drop (max position feed.oldest)⟩,
      { feed with receivers := feed.receivers.set receiver feed.sent.length })

end Feed

end Signoff.Store

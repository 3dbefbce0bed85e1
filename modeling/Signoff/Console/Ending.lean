namespace Signoff.Console

/-- The lines about status changes are written by a listener of its own, and stand apart. -/
structure Ending where
  exitCode : Nat
  lines : List String
  events : List String
deriving DecidableEq

namespace Ending

def success : Nat := 0

def failure : Nat := 1

/-- The arguments of the program are wrong. -/
def misuse : Nat := 2

/-- The program has broken off. -/
def abort : Nat := 101

/-- A program can end without a word. -/
def silent (exitCode : Nat) : Ending := ⟨exitCode, [], []⟩

end Ending

end Signoff.Console

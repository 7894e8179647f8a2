import MathTokens.Event
/-! A log in memory that keeps the most recent events up to a threshold. -/
namespace MathTokens

structure Journal where
  capacity : Nat
  threshold : Level
  events : Array Event

namespace Journal

def empty (capacity : Nat) (threshold : Level) : Journal := ⟨capacity, threshold, #[]⟩

def surplus (j : Journal) : Nat := j.events.size - j.capacity + 1

def makeRoom (j : Journal) : Array Event :=
  if j.capacity ≤ j.events.size then j.events.extract j.surplus j.events.size else j.events

def keep (j : Journal) (e : Event) : Journal := { j with events := j.makeRoom.push e }

def log (j : Journal) (e : Event) : Journal := if e.level.within j.threshold then j.keep e else j

def logAll (j : Journal) (events : List Event) : Journal := events.foldl log j

def clear (j : Journal) : Journal := { j with events := #[] }

def errors (j : Journal) : Array Event := j.events.filter (·.level == .error)

def hasErrorWith (j : Journal) (code : Code) : Bool :=
  j.events.any fun e => e.level == .error && e.code == code

def hasSuccessWith (j : Journal) (code : Code) : Bool :=
  j.events.any fun e => e.level == .info && e.code == code

inductive Move where
  | event (e : Event)
  | error (code : Code) (message : String)
  | success (code : Code) (message : String)
  | info (message : String)
  | debug (message : String)
  | clear
  deriving DecidableEq, Repr

def Move.event? (limits : Limits.Logging) : Move → Option Event
  | .event e => some e
  | .error code message => some (.error limits code message)
  | .success code message => some (.success limits code message)
  | .info message => some (.info limits message)
  | .debug message => some (.debug limits message)
  | .clear => none

def perform (limits : Limits.Logging) (j : Journal) (m : Move) : Journal :=
  match m.event? limits with
  | some e => j.log e
  | none => j.clear

def performs (limits : Limits.Logging) (j : Journal) (moves : List Move) : Journal :=
  moves.foldl (perform limits) j

end Journal
end MathTokens

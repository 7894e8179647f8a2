import MathTokens.Scanner
/-! The ways to ask a scanner for its next token, all of them on one cursor. Callers mix them freely. -/
namespace MathTokens

inductive Pull where
  | located
  | token
  | reader
  | iterate
  deriving DecidableEq, Repr

def Pull.shown : Pull → LocatedToken → Option Span
  | .located, t => some t.span
  | _, _ => none

inductive Reply where
  | token (value : Token) (span : Option Span)
  | ended
  | failed (error : LexError)
  deriving DecidableEq, Repr

namespace Reply

def ofLocated : Except LexError (Option LocatedToken) → Reply
  | .ok (some t) => .token t.value (some t.span)
  | .ok none => .ended
  | .error e => .failed e

def ofToken : Except LexError (Option Token) → Reply
  | .ok (some t) => .token t none
  | .ok none => .ended
  | .error e => .failed e

def ofItem : Option (Except LexError Token) → Reply
  | some (.ok t) => .token t none
  | none => .ended
  | some (.error e) => .failed e

def isToken : Reply → Bool
  | .token .. => true
  | _ => false

def span? : Reply → Option Span
  | .token _ span => span
  | .ended => none
  | .failed e => some e.span

end Reply

namespace Scanner

def Turn.map {α β : Type} (f : α → β) (turn : Turn α) : Turn β :=
  ⟨f turn.answer, turn.scanner, turn.events⟩

def pull (s : Scanner) : Pull → Turn Reply
  | .located => s.next.map .ofLocated
  | .token | .reader => s.nextToken.map .ofToken
  | .iterate => s.iterate.map .ofItem

def pulls (s : Scanner) : List Pull → Turn (List (Pull × Reply))
  | [] => ⟨[], s, []⟩
  | p :: calls =>
    let first := s.pull p
    let later := first.scanner.pulls calls
    ⟨(p, first.answer) :: later.answer, later.scanner, first.events ++ later.events⟩

end Scanner
end MathTokens

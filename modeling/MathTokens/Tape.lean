import MathTokens.Source.LineIndex
import MathTokens.Token
/-! A finished run of tokens under a movable head, for readers that look ahead and turn back. The
tokens never change; the head stands on one of them or just past the last. -/
namespace MathTokens

structure Tape where
  tokens : Array LocatedToken
  position : Nat
  index : Option LineIndex
  positionInside : position ≤ tokens.size := by omega

structure Checkpoint where
  position : Nat
  deriving DecidableEq, Repr

inductive TapeError where
  | unexpected (expected : Kind) (found : String) (span : Span)
  | ended (expected : Kind)
  deriving DecidableEq, Repr

def TapeError.message : TapeError → String
  | .unexpected expected found span =>
    "Expected " ++ expected.text ++ ", found '" ++ found ++ "' at " ++ span.text
  | .ended expected => "Expected " ++ expected.text ++ ", but reached end of input"

namespace Tape

def ofList (tokens : List LocatedToken) (index : Option LineIndex) : Tape :=
  ⟨tokens.toArray, 0, index, Nat.zero_le _⟩

def size (t : Tape) : Nat := t.tokens.size

def isEmpty (t : Tape) : Bool := t.tokens.isEmpty

def peek? (t : Tape) (n : Nat) : Option LocatedToken := t.tokens[t.position + n]?

def current? (t : Tape) : Option LocatedToken := t.peek? 0

def isAtEnd (t : Tape) : Bool := decide (t.tokens.size ≤ t.position)

def remaining (t : Tape) : List LocatedToken := t.tokens.toList.drop t.position

def remainingCount (t : Tape) : Nat := t.tokens.size - t.position

def moveTo (t : Tape) (position : Nat) : Tape :=
  { t with position := min position t.tokens.size, positionInside := Nat.min_le_right .. }

def advance (t : Tape) : Tape := t.moveTo (t.position + 1)

def checkpoint (t : Tape) : Checkpoint := ⟨t.position⟩

def restore (t : Tape) (c : Checkpoint) : Tape := t.moveTo c.position

def hasKind (t : Tape) (kind : Kind) : Bool := t.current?.any (·.value.kind == kind)

def consumeIf (t : Tape) (p : Token → Bool) : Option LocatedToken × Tape :=
  match t.current? with
  | some found => if p found.value then (some found, t.advance) else (none, t)
  | none => (none, t)

def consumeSymbol (t : Tape) (c : Char) : Bool × Tape :=
  let (found, after) := t.consumeIf (·.isSymbol c)
  (found.isSome, after)

def expectKind (t : Tape) (kind : Kind) : Except TapeError LocatedToken × Tape :=
  match t.current? with
  | none => (.error (.ended kind), t)
  | some found =>
    if found.value.kind = kind then (.ok found, t.advance)
    else (.error (.unexpected kind found.value.text found.span), t)

def nextToken (t : Tape) : Option Token × Tape := (t.current?.map Located.value, t.advance)

def tally (t : Tape) : Tally := t.tokens.foldl (fun tally token => tally.add token.value.kind) .zero

def explain (t : Tape) (s : Span) (message : String) : String :=
  match t.index with
  | some index => index.explain s message
  | none => "Error at " ++ s.text ++ ": " ++ message

def diagnostic (t : Tape) : String :=
  let current := match t.current? with
    | some found => "'" ++ found.value.text ++ "' at " ++ found.span.text
    | none => "<end>"
  s!"TokenStream(pos: {t.position}/{t.tokens.size}, current: {current})"

end Tape
end MathTokens

import MathTokens.Source.Position
/-! Stretches of source text from a first place up to, not including, a last one. Nothing keeps the
two in order: a span read from outside may be reversed or off the text, and `slice?` says so. -/
namespace MathTokens

structure Span where
  start : Position
  stop : Position
  deriving DecidableEq, Repr

namespace Span

def dummy : Span := ⟨.start, .start⟩

def covering (p : Position) (cs : List Char) : Span := ⟨p, p.advanceOver cs⟩

def merge (s t : Span) : Span := ⟨s.start.earlier t.start, s.stop.later t.stop⟩

def byteCount (s : Span) : Nat := s.stop.offset - s.start.offset

def isEmpty (s : Span) : Bool := s.start.offset == s.stop.offset

def contains (s : Span) (p : Position) : Bool :=
  decide (s.start.offset ≤ p.offset ∧ p.offset < s.stop.offset)

def slice? (s : Span) (cs : List Char) : Option (List Char) :=
  Text.slice? s.start.offset s.stop.offset cs

def text (s : Span) : String :=
  if s.start.line = s.stop.line then s!"{s.start.line}:{s.start.column}-{s.stop.column}"
  else s!"{s.start.text}-{s.stop.text}"

end Span

structure Located (α : Type) where
  value : α
  span : Span
  deriving DecidableEq, Repr

end MathTokens

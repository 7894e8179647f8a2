import MathTokens.Source.Span
/-! Where the lines of a source begin, and what can be answered from that: the line and column of a
byte offset, the text of a line, and an excerpt that underlines a span. -/
namespace MathTokens

structure LineIndex where
  source : List Char
  starts : List Nat
  deriving DecidableEq, Repr

namespace LineIndex

def mark (state : Nat × List Nat) (c : Char) : Nat × List Nat :=
  let next := state.1 + c.utf8Size
  (next, if c = '\n' then next :: state.2 else state.2)

def lineStarts (cs : List Char) : List Nat := (cs.foldl mark (0, [0])).2.reverse

def ofChars (cs : List Char) : LineIndex := ⟨cs, lineStarts cs⟩

def ofString (s : String) : LineIndex := ofChars s.toList

def empty : LineIndex := ⟨[], []⟩

def lineCount (x : LineIndex) : Nat := x.starts.length

def lineAt? (x : LineIndex) (offset : Nat) : Option Nat :=
  match x.starts.countP (fun s => decide (s ≤ offset)) with
  | 0 => none
  | n + 1 => some n

/-- An offset past the end stands for the end. There is no place inside a character. -/
def positionAt? (x : LineIndex) (offset : Nat) : Option Position := do
  let offset := min offset (Text.byteLength x.source)
  let line ← x.lineAt? offset
  let start ← x.starts[line]?
  let before ← Text.slice? start offset x.source
  some ⟨offset, line + 1, before.length + 1⟩

def line? (x : LineIndex) : Nat → Option (List Char)
  | 0 => none
  | n + 1 => do
    let start ← x.starts[n]?
    let stop := match x.starts[n + 1]? with
      | some next => next - 1
      | none => Text.byteLength x.source
    let text ← Text.slice? start stop x.source
    some (Text.trimEnd (· == '\r') text)

def spanText? (x : LineIndex) (s : Span) : Option (List Char) := s.slice? x.source

/-- The column behind a line. Columns have 32 bits: behind a line that fills them it is zero again. -/
def edge (line : List Char) : UInt32 := UInt32.ofNat line.length + 1

def caretCount (line : List Char) (s : Span) : Nat :=
  max 1 (if s.start.line = s.stop.line then s.stop.column - s.start.column
    else (edge line).toNat - s.start.column)

def sourceExcerpt (line : List Char) (s : Span) : String :=
  let number := toString s.start.line
  let gutter := String.ofList (List.replicate number.length ' ')
  gutter ++ " |\n" ++ number ++ " | " ++ String.ofList line ++ "\n" ++ gutter ++ " | "
    ++ String.ofList (List.replicate (s.start.column - 1) ' ')
    ++ String.ofList (List.replicate (caretCount line s) '^') ++ "\n"

def explain (x : LineIndex) (s : Span) (message : String) : String :=
  s!"Error: {message}\n  --> {s.start.text}\n"
    ++ match x.line? s.start.line with
      | some line => sourceExcerpt line s
      | none => ""

def overflows (line : List Char) (s : Span) : Bool :=
  s.start.line != s.stop.line && edge line == 0

/-- The report of a program that stops where the sum of an edge does not fit into 32 bits. -/
def explain? (x : LineIndex) (s : Span) (message : String) : Option String :=
  if (x.line? s.start.line).any (overflows · s) then none else some (x.explain s message)

end LineIndex
end MathTokens

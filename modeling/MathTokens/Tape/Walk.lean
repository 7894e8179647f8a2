import MathTokens.Tape
/-! All that a parser does with a tape, told as data, so that any mixture of it is a list of moves. -/
namespace MathTokens.Tape

inductive Move where
  | current
  | peek
  | peekAhead (n : Nat)
  | advance
  | checkpoint
  | restore (c : Checkpoint)
  | hasKind (kind : Kind)
  | consumeIf (p : Token → Bool)
  | consumeSymbol (c : Char)
  | expectKind (kind : Kind)
  | read

inductive Answer where
  | located (found : Option LocatedToken)
  | token (found : Option Token)
  | expected (found : Except TapeError LocatedToken)
  | decided (yes : Bool)
  | checkpoint (c : Checkpoint)
  | done

def perform (t : Tape) : Move → Answer × Tape
  | .current => (.located t.current?, t)
  | .peek => (.located (t.peek? 1), t)
  | .peekAhead n => (.located (t.peek? n), t)
  | .advance => (.located t.advance.current?, t.advance)
  | .checkpoint => (.checkpoint t.checkpoint, t)
  | .restore c => (.done, t.restore c)
  | .hasKind kind => (.decided (t.hasKind kind), t)
  | .consumeIf p => (t.consumeIf p).map .located id
  | .consumeSymbol c => (t.consumeSymbol c).map .decided id
  | .expectKind kind => (t.expectKind kind).map .expected id
  | .read => t.nextToken.map .token id

def performs (t : Tape) : List Move → List Answer × Tape
  | [] => ([], t)
  | m :: moves =>
    let first := t.perform m
    let later := first.2.performs moves
    (first.1 :: later.1, later.2)

end MathTokens.Tape

import MathTokens.Scanner
import MathTokens.Tape
/-! One pass over a whole source: all its tokens on a tape, or the first failure. -/
namespace MathTokens

structure Outcome (ε α : Type) where
  result : Except ε α
  events : List Event

def millisecondsOf (nanoseconds : Nat) : Double :=
  let seconds := Double.ofNat (nanoseconds / 1000000000)
  let fraction := (Double.ofNat (nanoseconds % 1000000000)).div (Double.ofNat 1000000000)
  (seconds.add fraction).mul (Double.ofNat 1000)

namespace Pass

/-- Reports a pass that took `elapsed` nanoseconds. The kinds are those of the metrics, which stay at
zero when none are collected. -/
def completionEvent (limits : Limits.Logging) (elapsed count : Nat) (m : Metrics) : Event :=
  (Event.success limits .tokenizationComplete "Tokenization completed").withPairs
    [("tokens", toString count), ("names", toString m.tally.names),
      ("numbers", toString m.tally.numbers), ("strings", toString m.tally.strings),
      ("symbols", toString m.tally.symbols), ("duration_ms", (millisecondsOf elapsed).fixedText 2)]

abbrev Scan := Scanner.Turn (Except LexError (List LocatedToken))

def scan (limits : Limits) (settings : Settings.Lexical) (source : List Char) : Scan :=
  (Scanner.start limits settings source).drain

def conclude (limits : Limits) (elapsed : Nat) (source : List Char) (scan : Scan) :
    Outcome LexError Tape :=
  match scan.answer with
  | .error e => ⟨.error e, scan.events⟩
  | .ok tokens =>
    ⟨.ok (Tape.ofList tokens (some (LineIndex.ofChars source))),
      scan.events ++ [completionEvent limits.logging elapsed tokens.length scan.scanner.metrics]⟩

def run (limits : Limits) (settings : Settings.Lexical) (elapsed : Nat) (source : List Char) :
    Outcome LexError Tape :=
  conclude limits elapsed source (scan limits settings source)

def tokenize (limits : Limits) (source : String) : Except LexError Tape :=
  (run limits (.ofEnvironment []) 0 source.toList).result

end Pass
end MathTokens

import MathTokens.Token
import Std.Data.TreeMap
/-! A running summary of the tokens produced: their number by kind, the longest name and string, and
how often each symbol occurred. -/
namespace MathTokens

structure Metrics where
  total : Nat
  tally : Tally
  longestName : Nat
  longestString : Nat
  symbolUsage : Std.TreeMap Char Nat compare

namespace Metrics

def empty : Metrics := ⟨0, .zero, 0, 0, ∅⟩

def countSymbol (usage : Std.TreeMap Char Nat compare) (c : Char) : Std.TreeMap Char Nat compare :=
  usage.insert c (usage.getD c 0 + 1)

def record (m : Metrics) (t : Token) : Metrics :=
  let counted := { m with total := m.total + 1, tally := m.tally.add t.kind }
  match t with
  | .name s => { counted with longestName := max m.longestName s.utf8ByteSize }
  | .string s => { counted with longestString := max m.longestString s.utf8ByteSize }
  | .symbol c => { counted with symbolUsage := countSymbol m.symbolUsage c }
  | .number _ => counted

def json (m : Metrics) : Json :=
  .object [("total_tokens", .integer m.total), ("name_tokens", .integer m.tally.names),
    ("number_tokens", .integer m.tally.numbers), ("string_tokens", .integer m.tally.strings),
    ("symbol_tokens", .integer m.tally.symbols), ("longest_name", .integer m.longestName),
    ("longest_string", .integer m.longestString),
    ("symbol_usage", .object <| m.symbolUsage.toList.map fun (c, n) =>
      (String.singleton c, .integer n))]

end Metrics
end MathTokens

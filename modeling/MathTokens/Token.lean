import MathTokens.Json.Value
import MathTokens.Number.Arithmetic
import MathTokens.Source.Span
import MathTokens.Text.Quoted
/-! Tokens: names, string literals, numbers and single-character symbols, each with its source form. -/
namespace MathTokens

inductive Kind where
  | name | string | number | symbol
  deriving DecidableEq, Repr

namespace Kind

def all : List Kind := [.name, .string, .number, .symbol]

def rank : Kind → Nat
  | .name => 0
  | .string => 1
  | .number => 2
  | .symbol => 3

def text : Kind → String
  | .name => "Name"
  | .string => "String"
  | .number => "Number"
  | .symbol => "Symbol"

end Kind

inductive Token where
  | name (text : String)
  | number (value : Double)
  | string (content : String)
  | symbol (c : Char)
  deriving DecidableEq, Repr

abbrev LocatedToken := Located Token

namespace Token

def kind : Token → Kind
  | .name _ => .name
  | .number _ => .number
  | .string _ => .string
  | .symbol _ => .symbol

def text : Token → String
  | .name s => s
  | .number d => d.text
  | .string s => String.ofList ('"' :: (Quoted.escape s.toList ++ ['"']))
  | .symbol c => String.singleton c

def asName? : Token → Option String
  | .name s => some s
  | _ => none

def asNumber? : Token → Option Double
  | .number d => some d
  | _ => none

def asString? : Token → Option String
  | .string s => some s
  | _ => none

def asSymbol? : Token → Option Char
  | .symbol c => some c
  | _ => none

def isName (t : Token) (s : String) : Bool := t.asName? == some s

def isSymbol (t : Token) (c : Char) : Bool := t.asSymbol? == some c

def isLiteral : Token → Bool
  | .number _ | .string _ => true
  | _ => false

def equal : Token → Token → Bool
  | .number a, .number b => a.equal b
  | s, t => decide (s = t)

def json : Token → Json
  | .name s => .object [("Name", .string s)]
  | .number d => .object [("Number", .double d)]
  | .string s => .object [("StringLiteral", .string s)]
  | .symbol c => .object [("Symbol", .string (String.singleton c))]

end Token

structure Tally where
  names : Nat
  numbers : Nat
  strings : Nat
  symbols : Nat
  deriving DecidableEq, Repr

namespace Tally

def zero : Tally := ⟨0, 0, 0, 0⟩

def total (t : Tally) : Nat := t.names + t.numbers + t.strings + t.symbols

def get (t : Tally) : Kind → Nat
  | .name => t.names
  | .string => t.strings
  | .number => t.numbers
  | .symbol => t.symbols

def add (t : Tally) : Kind → Tally
  | .name => { t with names := t.names + 1 }
  | .string => { t with strings := t.strings + 1 }
  | .number => { t with numbers := t.numbers + 1 }
  | .symbol => { t with symbols := t.symbols + 1 }

def json (t : Tally) : Json :=
  .object [("names", .integer t.names), ("numbers", .integer t.numbers),
    ("strings", .integer t.strings), ("symbols", .integer t.symbols)]

end Tally
end MathTokens

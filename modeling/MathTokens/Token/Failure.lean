import MathTokens.Event
import MathTokens.Token.Rule
/-! Failures of tokenization: what is wrong, where, and under which code it is logged. -/
namespace MathTokens

inductive LexError where
  | construction (kind : Kind) (excerpt : String) (span : Span) (defect : Defect)
  | unexpectedCharacter (character : Char) (span : Span)
  | unterminatedString (span : Span)
  | unbalancedQuotes (word : String) (span : Span)
  | tooManyTokens (limit : Nat) (span : Span)
  deriving DecidableEq, Repr

def Defect.code : Defect → Code
  | .malformedNumber _ | .numberTooLong .. | .numberOutOfRange _ => .invalidNumber
  | .nameTooLong .. => .nameTooLong
  | .stringTooLarge .. => .stringTooLarge
  | .notOneCharacter _ => .unexpectedCharacter

namespace LexError

def span : LexError → Span
  | .construction _ _ span _ | .unexpectedCharacter _ span | .unterminatedString span
  | .unbalancedQuotes _ span | .tooManyTokens _ span => span

def code : LexError → Code
  | .construction _ _ _ defect => defect.code
  | .unexpectedCharacter .. => .unexpectedCharacter
  | .unterminatedString _ => .unterminatedString
  | .unbalancedQuotes .. => .unbalancedQuotes
  | .tooManyTokens .. => .tooManyTokens

def message (e : LexError) : String :=
  let place := e.span.start.text
  match e with
  | .construction kind excerpt _ defect =>
    "Invalid " ++ kind.text ++ " token '" ++ excerpt ++ "' at " ++ place ++ ": " ++ defect.message
  | .unexpectedCharacter c _ => "Unexpected character '" ++ String.singleton c ++ "' at " ++ place
  | .unterminatedString _ => "Unterminated string literal at " ++ place
  | .unbalancedQuotes word _ => "Unbalanced quotes after '" ++ word ++ "' at " ++ place
  | .tooManyTokens limit _ => s!"Too many tokens: limit of {limit} reached at {place}"

def cause? : LexError → Option Defect
  | .construction _ _ _ defect => some defect
  | _ => none

def event (limits : Limits.Logging) (withPlace : Bool) (emitted : Nat) (e : LexError) : Event :=
  let reported := Event.error limits e.code e.message
  let tokens := ("tokens_emitted", toString emitted)
  if withPlace then
    let start := e.span.start
    (reported.withSpan e.span).withPairs
      [("line", toString start.line), ("column", toString start.column), tokens]
  else reported.withPairs [tokens]

end LexError

def excerptLength : Nat := 32

def excerpt (cs : List Char) : String :=
  if cs.length ≤ excerptLength then String.ofList cs
  else String.ofList (cs.take excerptLength) ++ "..."

end MathTokens

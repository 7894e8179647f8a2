import MathTokens.Limits
import MathTokens.Number.Reading
import MathTokens.Token
/-! The rules of the language. A rule splits a lexeme off the front of the input and builds a token of
it; a table of rules is tried in order. -/
namespace MathTokens

inductive Defect where
  | malformedNumber (reason : NumeralError)
  | numberTooLong (length limit : Nat)
  | numberOutOfRange (length : Nat)
  | nameTooLong (length limit : Nat)
  | stringTooLarge (size limit : Nat)
  | notOneCharacter (text : String)
  deriving DecidableEq, Repr

def Defect.message : Defect → String
  | .malformedNumber reason => "Invalid number: " ++ reason.message
  | .numberTooLong length limit => s!"Number too long: {length} digits (max {limit})"
  | .numberOutOfRange length => s!"Number out of range: {length} digits exceed the largest double"
  | .nameTooLong length limit => s!"Name too long: {length} characters (max {limit})"
  | .stringTooLarge size limit => s!"String too large: {size} bytes (max {limit})"
  | .notOneCharacter text => "Not a single symbol character: '" ++ text ++ "'"

/-- The six separators. Every other blank is a symbol. -/
def isSeparator (c : Char) : Bool :=
  c == ' ' || c == '\t' || c == '\n' || c == '\x0b' || c == '\x0c' || c == '\r'

def isWordChar (c : Char) : Bool := c.isAlphanum || c == '_'

def splitWord? : List Char → Option (List Char × List Char)
  | [] => none
  | c :: cs =>
    if c.isAlpha then some (c :: cs.takeWhile isWordChar, cs.dropWhile isWordChar) else none

/-- A word is a name only if what follows leaves no quote open, so no word inside a literal is one. -/
def splitName? (cs : List Char) : Option (List Char × List Char) :=
  (splitWord? cs).filter fun (_, rest) => Quoted.balanced rest

def splitDigits? (cs : List Char) : Option (List Char × List Char) :=
  match cs.takeWhile isDigit with
  | [] => none
  | digits => some (digits, cs.dropWhile isDigit)

def splitSymbol? : List Char → Option (List Char × List Char)
  | [] => none
  | c :: cs => if isSeparator c || isWordChar c || c == '"' then none else some ([c], cs)

def buildName (limits : Limits.Lexical) (cs : List Char) : Except Defect Token :=
  if limits.nameLength < Text.byteLength cs then
    .error (.nameTooLong (Text.byteLength cs) limits.nameLength)
  else .ok (.name (String.ofList cs))

def buildString (limits : Limits.Lexical) (cs : List Char) : Except Defect Token :=
  let content := Quoted.unescape (Quoted.stripQuotes cs)
  if limits.stringSize < Text.byteLength content then
    .error (.stringTooLarge (Text.byteLength content) limits.stringSize)
  else .ok (.string (String.ofList content))

def buildNumber (limits : Limits.Lexical) (cs : List Char) : Except Defect Token :=
  let length := Text.byteLength cs
  if limits.numberLength < length then .error (.numberTooLong length limits.numberLength)
  else match Double.read cs with
    | .error reason => .error (.malformedNumber reason)
    | .ok d => if d.isFinite then .ok (.number d) else .error (.numberOutOfRange length)

def buildSymbol (_ : Limits.Lexical) : List Char → Except Defect Token
  | [c] => .ok (.symbol c)
  | cs => .error (.notOneCharacter (String.ofList cs))

structure Rule where
  kind : Kind
  split? : List Char → Option (List Char × List Char)
  build : Limits.Lexical → List Char → Except Defect Token
  splitWhole : ∀ {cs text rest}, split? cs = some (text, rest) → cs = text ++ rest ∧ text ≠ []

theorem splitWordWhole {cs text rest : List Char} (h : splitWord? cs = some (text, rest)) :
    cs = text ++ rest ∧ text ≠ [] := by
  unfold splitWord? at h
  split at h
  · cases h
  · split at h
    · cases h; simp [List.takeWhile_append_dropWhile]
    · cases h

theorem splitNameWhole {cs text rest : List Char} (h : splitName? cs = some (text, rest)) :
    cs = text ++ rest ∧ text ≠ [] :=
  splitWordWhole (Option.filter_eq_some_iff.mp h).1

theorem splitDigitsWhole {cs text rest : List Char} (h : splitDigits? cs = some (text, rest)) :
    cs = text ++ rest ∧ text ≠ [] := by
  unfold splitDigits? at h
  split at h
  · cases h
  · next nonempty =>
    cases h
    exact ⟨(List.takeWhile_append_dropWhile ..).symm, nonempty⟩

theorem splitSymbolWhole {cs text rest : List Char} (h : splitSymbol? cs = some (text, rest)) :
    cs = text ++ rest ∧ text ≠ [] := by
  unfold splitSymbol? at h
  split at h
  · cases h
  · split at h
    · cases h
    · cases h; simp

namespace Rule

def name : Rule := ⟨.name, splitName?, buildName, splitNameWhole⟩

def anyWord : Rule := ⟨.name, splitWord?, buildName, splitWordWhole⟩

def string : Rule := ⟨.string, Quoted.splitLiteral?, buildString, Quoted.splitLiteralWhole⟩

def number : Rule := ⟨.number, splitDigits?, buildNumber, splitDigitsWhole⟩

def symbol : Rule := ⟨.symbol, splitSymbol?, buildSymbol, splitSymbolWhole⟩

def table : List Rule := [name, string, number, symbol]

def wordTable : List Rule := [anyWord, string, number, symbol]

end Rule
end MathTokens

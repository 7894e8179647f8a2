import MathTokens.Scanner.Metrics
import MathTokens.Settings
import MathTokens.Token.Failure
/-! Tokens on demand. `Lexing.step` says what comes next at a place of the source: a token, the end, or
the first failure. A `Scanner` remembers the place, and keeps it when a step fails. -/
namespace MathTokens

namespace Lexing

structure Lexeme where
  token : LocatedToken
  text : List Char
  next : Position
  rest : List Char

def unmatched (p : Position) (first : Char) (input : List Char) : LexError :=
  if first = '"' then
    .unterminatedString (.covering p (Text.trimEnd (· == '\r') (input.takeWhile (· != '\n'))))
  else match splitWord? input with
    | some (word, _) => .unbalancedQuotes (excerpt word) (.covering p word)
    | none => .unexpectedCharacter first (.covering p [first])

def accept (limits : Limits.Lexical) (p : Position) (rule : Rule) (text after : List Char) :
    Except LexError Lexeme :=
  let span := Span.covering p text
  match rule.build limits text with
  | .error defect => .error (.construction rule.kind (excerpt text) span defect)
  | .ok token =>
    let next := span.stop.advanceOver (after.takeWhile isSeparator)
    .ok ⟨⟨token, span⟩, text, next, after.dropWhile isSeparator⟩

def firstMatch? (rules : List Rule) (input : List Char) : Option (Rule × List Char × List Char) :=
  rules.findSome? fun rule => (rule.split? input).map fun (text, after) => (rule, text, after)

/-- What comes next at `p`, where `input` is left and `emitted` tokens came before. The end of the
input goes before the limit, and the limit before everything else. -/
def step (rules : List Rule) (limits : Limits.Lexical) (emitted : Nat) (p : Position) :
    List Char → Except LexError (Option Lexeme)
  | [] => .ok none
  | first :: others =>
    if limits.tokenCount ≤ emitted then .error (.tooManyTokens limits.tokenCount ⟨p, p⟩)
    else match firstMatch? rules (first :: others) with
      | some (rule, text, after) => (accept limits p rule text after).map some
      | none => .error (unmatched p first (first :: others))

end Lexing

structure Scanner where
  rules : List Rule
  limits : Limits
  settings : Settings.Lexical
  source : List Char
  position : Position
  rest : List Char
  emitted : Nat
  failed : Bool
  metrics : Metrics

namespace Scanner

def startWith (rules : List Rule) (limits : Limits) (settings : Settings.Lexical)
    (source : List Char) : Scanner :=
  ⟨rules, limits, settings, source, Position.start.advanceOver (source.takeWhile isSeparator),
    source.dropWhile isSeparator, 0, false, .empty⟩

def start (limits : Limits) (settings : Settings.Lexical) (source : List Char) : Scanner :=
  startWith Rule.table limits settings source

def ofString (limits : Limits) (settings : Settings.Lexical) (source : String) : Scanner :=
  start limits settings source.toList

def isExhausted (s : Scanner) : Bool := s.rest.isEmpty

structure Turn (α : Type) where
  answer : α
  scanner : Scanner
  events : List Event

def tokenEvent (limits : Limits.Logging) (lexeme : Lexing.Lexeme) : Event :=
  (Event.debug limits "Token produced").withPairs
    [("kind", lexeme.token.value.kind.text), ("text", String.ofList lexeme.text),
      ("position", lexeme.token.span.start.text)]

def take (s : Scanner) (lexeme : Lexing.Lexeme) : Scanner :=
  { s with
    position := lexeme.next
    rest := lexeme.rest
    emitted := s.emitted + 1
    metrics := if s.settings.collectMetrics then s.metrics.record lexeme.token.value else s.metrics }

def next (s : Scanner) : Turn (Except LexError (Option LocatedToken)) :=
  match Lexing.step s.rules s.limits.lexical s.emitted s.position s.rest with
  | .error e => ⟨.error e, s, [e.event s.limits.logging s.settings.positionInErrors s.emitted]⟩
  | .ok none => ⟨.ok none, s, []⟩
  | .ok (some lexeme) =>
    ⟨.ok (some lexeme.token), s.take lexeme,
      if s.settings.logEachToken then [tokenEvent s.limits.logging lexeme] else []⟩

def nextToken (s : Scanner) : Turn (Except LexError (Option Token)) :=
  let turn := s.next
  ⟨turn.answer.map (Option.map Located.value), turn.scanner, turn.events⟩

def iterate (s : Scanner) : Turn (Option (Except LexError Token)) :=
  if s.failed then ⟨none, s, []⟩
  else
    let turn := s.nextToken
    match turn.answer with
    | .error e => ⟨some (.error e), { turn.scanner with failed := true }, turn.events⟩
    | .ok none => ⟨none, turn.scanner, turn.events⟩
    | .ok (some t) => ⟨some (.ok t), turn.scanner, turn.events⟩

structure Gathered where
  tokens : List LocatedToken
  events : List Event

namespace Gathered

def none : Gathered := ⟨[], []⟩

def addEvents (g : Gathered) (events : List Event) : Gathered :=
  { g with events := events.foldl (fun out e => e :: out) g.events }

def addToken (g : Gathered) (t : LocatedToken) : Gathered := { g with tokens := t :: g.tokens }

end Gathered

def gather (fuel : Nat) (s : Scanner) (g : Gathered) :
    Turn (Except LexError (List LocatedToken)) :=
  match fuel with
  | 0 => ⟨.ok g.tokens.reverse, s, g.events.reverse⟩
  | fuel + 1 =>
    let turn := s.next
    let g := g.addEvents turn.events
    match turn.answer with
    | .error e => ⟨.error e, turn.scanner, g.events.reverse⟩
    | .ok none => ⟨.ok g.tokens.reverse, turn.scanner, g.events.reverse⟩
    | .ok (some t) => gather fuel turn.scanner (g.addToken t)

/-- All tokens that are left, or the failure met on the way. Every token takes a character, so there
are fewer than calls allowed here. -/
def drain (s : Scanner) : Turn (Except LexError (List LocatedToken)) :=
  s.gather (s.rest.length + 1) .none

def iterateAll (s : Scanner) : Turn (Except LexError (List LocatedToken)) :=
  if s.failed then ⟨.ok [], s, []⟩
  else
    let turn := s.drain
    match turn.answer with
    | .error e => ⟨.error e, { turn.scanner with failed := true }, turn.events⟩
    | .ok ts => ⟨.ok ts, turn.scanner, turn.events⟩

end Scanner
end MathTokens

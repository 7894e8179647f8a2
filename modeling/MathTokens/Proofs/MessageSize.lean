import Mathlib.Data.Nat.Digits.Defs
import MathTokens.Proofs.Diagnostics
import MathTokens.Proofs.Normalising

/-! How long the message of a failure can be. It quotes an excerpt, never a whole lexeme, and its numbers
have the digits of a machine word, so no source however large makes it longer than `messageBound`. -/
namespace MathTokens

def Fits (size : Nat) (s : String) : Prop := s.utf8ByteSize ≤ size
instance (size : Nat) (s : String) : Decidable (Fits size s) := by unfold Fits; infer_instance

theorem fitsSelf (s : String) : Fits s.utf8ByteSize s := Nat.le_refl _

theorem fitsMore {m n : Nat} {s : String} (h : Fits m s) (more : m ≤ n) : Fits n s :=
  Nat.le_trans h more

theorem fitsAppend {m n : Nat} {s t : String} (first : Fits m s) (second : Fits n t) :
    Fits (m + n) (s ++ t) := by
  rw [Fits, String.utf8ByteSize_append]
  exact Nat.add_le_add first second

namespace Text

theorem byteSizeOfList (cs : List Char) : (String.ofList cs).utf8ByteSize = byteLength cs := by
  induction cs with
  | nil => rfl
  | cons c cs ih =>
    rw [String.ofList_cons, String.utf8ByteSize_append, String.utf8ByteSize_singleton, ih,
      byteLengthCons]

theorem sublistBytes {xs ys : List Char} (h : xs.Sublist ys) : byteLength xs ≤ byteLength ys := by
  induction h with
  | slnil => exact Nat.le_refl _
  | cons c _ ih => rw [byteLengthCons]; omega
  | cons_cons c _ ih => rw [byteLengthCons, byteLengthCons]; omega

end Text

theorem digitsFit {n : Nat} (small : n ≤ UInt64.size) : Fits 20 (toString n) := by
  have few := Nat.repr_length n 20 (by decide) (Nat.lt_of_le_of_lt small (by decide))
  change (String.ofList (Nat.toDigits 10 n)).utf8ByteSize ≤ 20
  rw [Text.byteSizeOfList, digitsLength (toDigitsDigits n)]
  simpa [Nat.repr] using few

theorem placeFits {p : Position} (line : p.line ≤ UInt64.size) (column : p.column ≤ UInt64.size) :
    Fits 41 p.text := by
  unfold Position.text
  exact fitsAppend (fitsAppend (digitsFit line) (fitsSelf (toString ":"))) (digitsFit column)

theorem excerptFits (cs : List Char) : Fits 131 (excerpt cs) := by
  unfold excerpt
  split
  · next short =>
    have bytes := Text.bytesLeLength cs
    have few : cs.length ≤ 32 := short
    rw [Fits, Text.byteSizeOfList]
    omega
  · have bytes := Text.bytesLeLength (cs.take excerptLength)
    have few : (cs.take excerptLength).length ≤ 32 := List.length_take_le _ _
    refine fitsAppend (m := 128) ?_ (fitsSelf "...")
    rw [Fits, Text.byteSizeOfList]
    omega

def Defect.Measured (limits : Limits.Lexical) (size : Nat) : Defect → Prop
  | .nameTooLong n limit => n ≤ size ∧ limit = limits.nameLength
  | .stringTooLarge n limit => n ≤ size ∧ limit = limits.stringSize
  | .numberTooLong n limit => n ≤ size ∧ limit = limits.numberLength
  | .numberOutOfRange n => n ≤ size
  | .malformedNumber _ | .notOneCharacter _ => False

theorem Quoted.stripSublist (cs : List Char) : (stripQuotes cs).Sublist cs := by
  unfold stripQuotes
  split
  · next cs =>
    split
    · exact (List.dropLast_sublist cs).cons _
    · exact List.Sublist.refl _
  · exact List.Sublist.refl _

namespace Rule

def Measures (rule : Rule) : Prop :=
  ∀ {limits : Limits.Lexical} {cs text rest : List Char} {defect : Defect},
    rule.split? cs = some (text, rest) → rule.build limits text = .error defect →
    defect.Measured limits (Text.byteLength text)

theorem nameMeasures : name.Measures := by
  intro limits cs text rest defect _ refused
  change buildName limits text = _ at refused
  unfold buildName at refused
  split at refused
  · cases refused
    exact ⟨Nat.le_refl _, rfl⟩
  · cases refused

theorem stringMeasures : string.Measures := by
  intro limits cs text rest defect _ refused
  change buildString limits text = _ at refused
  unfold buildString at refused
  simp only at refused
  split at refused
  · cases refused
    exact ⟨Text.sublistBytes ((Quoted.unescapeSublist _).trans (Quoted.stripSublist text)), rfl⟩
  · cases refused

theorem numberMeasures : number.Measures := by
  intro limits cs text rest defect cut refused
  obtain ⟨nonempty, digits, _⟩ := splitDigitsIff.mp cut
  change buildNumber limits text = _ at refused
  unfold buildNumber at refused
  simp only [Double.readDigits nonempty digits] at refused
  split at refused
  · cases refused
    exact ⟨Nat.le_refl _, rfl⟩
  · split at refused
    · cases refused
    · cases refused
      exact Nat.le_refl _

theorem symbolMeasures : symbol.Measures := by
  intro limits cs text rest defect cut refused
  obtain ⟨c, _, rfl, _⟩ := splitSymbolIff.mp cut
  cases refused

theorem tableMeasures : ∀ rule ∈ table, rule.Measures := by
  simp only [table, List.forall_mem_cons]
  exact ⟨nameMeasures, stringMeasures, numberMeasures, symbolMeasures, by simp⟩

end Rule

def messageBound : Nat := 275

/- A machine of 64 bits, and log messages that have room for any failure. -/
structure Roomy (limits : Limits) (source : List Char) : Prop where
  message : messageBound ≤ limits.logging.messageLength
  source : Text.byteLength source < UInt64.size
  tokens : limits.lexical.tokenCount < UInt64.size
  name : limits.lexical.nameLength < UInt64.size
  string : limits.lexical.stringSize < UInt64.size
  number : limits.lexical.numberLength < UInt64.size

theorem profilesRoomy {limits : Limits} (profile : limits ∈ [Limits.development, .production])
    {source : List Char} (small : Text.byteLength source < UInt64.size) : Roomy limits source := by
  simp only [List.mem_cons, List.not_mem_nil, or_false] at profile
  rcases profile with rfl | rfl
  · exact ⟨by decide, small, by decide, by decide, by decide, by decide⟩
  · exact ⟨by decide, small, by decide, by decide, by decide, by decide⟩

variable {limits : Limits} {source : List Char}

theorem limitedFits {before between : String} (words : Fits 33 (before ++ between)) {n limit : Nat}
    (count : n ≤ UInt64.size) (bound : limit < UInt64.size) :
    Fits 74 (before ++ toString n ++ between ++ toString limit ++ toString ")") := by
  have digits := digitsFit count
  have digits' := digitsFit (Nat.le_of_lt bound)
  have closing : Fits 1 (toString ")") := fitsSelf ")"
  simp only [Fits, String.utf8ByteSize_append] at words digits digits' closing ⊢
  omega

theorem defectFits (roomy : Roomy limits source) {size : Nat}
    (inside : size ≤ Text.byteLength source) {defect : Defect}
    (measured : defect.Measured limits.lexical size) : Fits 74 defect.message := by
  have small := Nat.le_trans inside (Nat.le_of_lt roomy.source)
  unfold Defect.message
  cases defect with
  | nameTooLong n limit =>
    obtain ⟨count, rfl⟩ := measured
    exact limitedFits (by decide) (Nat.le_trans count small) roomy.name
  | stringTooLarge n limit =>
    obtain ⟨count, rfl⟩ := measured
    exact limitedFits (by decide) (Nat.le_trans count small) roomy.string
  | numberTooLong n limit =>
    obtain ⟨count, rfl⟩ := measured
    exact limitedFits (by decide) (Nat.le_trans count small) roomy.number
  | numberOutOfRange n =>
    have count := digitsFit (Nat.le_trans measured small)
    exact fitsMore (fitsAppend (fitsAppend (fitsSelf _) count) (fitsSelf _)) (by decide)
  | malformedNumber | notOneCharacter => cases measured

namespace Scanner

variable {s : Scanner} (within : s.Within source)
include within

theorem cursorBytes :
    ∃ front, s.position = Position.start.advanceOver front ∧
      Text.byteLength front + Text.byteLength s.rest = Text.byteLength source := by
  obtain ⟨front, whole, place⟩ := within.placed.front
  refine ⟨front, place, ?_⟩
  rw [← within.source, whole, Text.byteLengthAppend]

theorem positionFits (roomy : Roomy limits source) : Fits 41 s.position.text := by
  obtain ⟨front, place, bytes⟩ := cursorBytes within
  have small := roomy.source
  have characters := Text.lengthLeBytes front
  have line := Position.lineAdvanceOver Position.start front
  have column := Position.columnAdvanceOver Position.start front
  have feeds := front.count_le_length (a := '\n')
  simp only [Position.start] at line column
  rw [place]
  exact placeFits (by simp only [Position.start]; omega) (by simp only [Position.start]; omega)

theorem failureFits (roomy : Roomy limits source) (under : s.limits = limits) {e : LexError}
    (answer : s.next.answer = .error e) : Fits messageBound e.message := by
  have stepped := nextFailedIff.mp answer
  have place : Fits 41 e.span.start.text := by
    obtain ⟨text, after, _, cover⟩ := Lexing.failureCovers stepped
    rw [cover]
    exact positionFits within roomy
  obtain ⟨front, _, bytes⟩ := cursorBytes within
  have fails := Lexing.stepFails stepped
  rw [within.rules, under] at fails
  generalize s.rest = input at fails bytes
  unfold LexError.message
  cases fails with
  | full room =>
    have limit := digitsFit (Nat.le_of_lt roomy.tokens)
    have head := fitsAppend (fitsSelf (toString "Too many tokens: limit of ")) limit
    exact fitsMore (fitsAppend (fitsAppend head (fitsSelf _)) place) (by decide)
  | @refused _ rule text after defect found built =>
    obtain ⟨member, cut⟩ := Lexing.firstMatchSource found
    have inside : Text.byteLength text ≤ Text.byteLength source := by
      rw [(Lexing.firstMatchWhole found).1, Text.byteLengthAppend] at bytes
      omega
    have cause := defectFits roomy inside (Rule.tableMeasures rule member cut built)
    have kind : Fits 6 rule.kind.text := by cases rule.kind <;> decide
    have head := fitsAppend (fitsAppend (fitsSelf "Invalid ") kind) (fitsSelf " token '")
    have quoted := fitsAppend (fitsAppend head (excerptFits text)) (fitsSelf "' at ")
    exact fitsMore (fitsAppend (fitsAppend (fitsAppend quoted place) (fitsSelf _)) cause) (by decide)
  | unclosed missed =>
    exact fitsMore (fitsAppend (fitsSelf _) place) (by decide)
  | @unbalanced _ word after missed cut =>
    have head := fitsAppend (fitsSelf "Unbalanced quotes after '") (excerptFits word)
    exact fitsMore (fitsAppend (fitsAppend head (fitsSelf _)) place) (by decide)
  | @stray first others missed cut =>
    have one : Fits 4 (String.singleton first) := by
      rw [Fits, String.utf8ByteSize_singleton]
      exact first.utf8Size_le_four
    have head := fitsAppend (fitsSelf "Unexpected character '") one
    exact fitsMore (fitsAppend (fitsAppend head (fitsSelf _)) place) (by decide)

end Scanner
end MathTokens

import MathTokens.Proofs.JsonRecords
import MathTokens.Token.Decoding

/-! Located tokens written as JSON and read again. The readers look members up by name, so the order in
which an object lists them is free, and a text that can be read back belongs to one token only. -/
namespace MathTokens

open Json (Plain)

namespace Position

inductive Written (p : Position) : Json → Prop
  | object {members : List (String × Json)}
      (order : members.Perm
        [("offset", .integer p.offset), ("line", .integer p.line), ("column", .integer p.column)]) :
      Written p (.object members)

theorem Written.plain {p : Position} {j : Json} (written : p.Written j) (fits : p.Fits) : Plain j := by
  have wide : UInt32.size ≤ UInt64.size := by decide
  cases written with
  | object order =>
    refine Json.plainReordered order ?_
    simp only [List.forall_mem_cons, List.not_mem_nil, false_implies, implies_true, and_true]
    exact ⟨.natural fits.offset, .natural (Nat.lt_of_lt_of_le fits.line wide),
      .natural (Nat.lt_of_lt_of_le fits.column wide)⟩

theorem Written.read {p : Position} {j : Json} (written : p.Written j) (fits : p.Fits) :
    Position.ofJson? j = some p := by
  cases written with
  | object order =>
    rw [Position.ofJson?, Json.fieldsReordered order (by simp)]
    simp [Json.fields?, Json.member?, Json.natural?, fits.offset, fits.line, fits.column]

end Position

namespace Span

structure Fits (s : Span) : Prop where
  start : s.start.Fits
  stop : s.stop.Fits

instance (s : Span) : Decidable s.Fits :=
  decidable_of_iff (s.start.Fits ∧ s.stop.Fits)
    ⟨fun ⟨start, stop⟩ => ⟨start, stop⟩, fun fits => ⟨fits.start, fits.stop⟩⟩

inductive Written (s : Span) : Json → Prop
  | object {start stop : Json} {members : List (String × Json)} (first : s.start.Written start)
      (last : s.stop.Written stop) (order : members.Perm [("start", start), ("end", stop)]) :
      Written s (.object members)

theorem Written.plain {s : Span} {j : Json} (written : s.Written j) (fits : s.Fits) : Plain j := by
  cases written with
  | object first last order =>
    refine Json.plainReordered order ?_
    simp only [List.forall_mem_cons, List.not_mem_nil, false_implies, implies_true, and_true]
    exact ⟨first.plain fits.start, last.plain fits.stop⟩

theorem Written.read {s : Span} {j : Json} (written : s.Written j) (fits : s.Fits) :
    Span.ofJson? j = some s := by
  cases written with
  | object first last order =>
    rw [Span.ofJson?, Json.fieldsReordered order (by simp)]
    simp [Json.fields?, Json.member?, first.read fits.start, last.read fits.stop]

theorem writtenJson (s : Span) : s.Written s.json :=
  .object (.object (.refl _)) (.object (.refl _)) (.refl _)

end Span

namespace Token

inductive Portable : Token → Prop
  | name (s : String) : Portable (.name s)
  | string (s : String) : Portable (.string s)
  | symbol (c : Char) : Portable (.symbol c)
  | number (negative : Bool) {n : Nat} (small : n < Nat.pow 10 15) : Portable (.number (.whole negative n))

theorem Portable.plain {t : Token} (portable : t.Portable) : Plain t.json := by
  cases portable with
  | name s => exact .object (by simpa using Plain.string s)
  | string s => exact .object (by simpa using Plain.string s)
  | symbol c => exact .object (by simpa using Plain.string (String.singleton c))
  | number negative small => exact .object (by simpa using Plain.whole negative small)

theorem Portable.read {t : Token} (portable : t.Portable) : Token.ofJson? t.json = some t := by
  cases portable with
  | name s => rfl
  | string s => rfl
  | symbol c => simp [json, ofJson?, Json.character?, Json.string?]
  | number negative small =>
    obtain ⟨rank, _, signed⟩ := Double.wholeFinite negative small
    rw [signed]
    rfl

def wordless : Json := .object [("Number", .null)]

theorem wordlessText (l : Json.Layout) (depth : Nat) (out : String) {d : Double} (odd : ¬d.isFinite) :
    Json.write l depth out (json (.number d)) = Json.write l depth out wordless := by
  cases d with
  | finite negative rank => exact absurd rfl odd
  | _ => simp [json, wordless, Json.write, Json.writeMembers, Json.leafText, Double.jsonText]

theorem wordlessPlain : Plain wordless := .object (by simpa using Plain.null)

theorem wordlessRejected (l : Json.Layout) {d : Double} (odd : ¬d.isFinite) :
    Json.decode? ofJson? (Json.write l 0 "" (json (.number d))).toList = none := by
  rw [wordlessText l 0 "" odd, Json.decodeWritten ofJson? l wordlessPlain]
  rfl

end Token

namespace LocatedToken

structure Portable (t : LocatedToken) : Prop where
  value : t.value.Portable
  span : t.span.Fits

inductive Written (t : LocatedToken) : Json → Prop
  | object {span : Json} {members : List (String × Json)} (place : t.span.Written span)
      (order : members.Perm [("value", t.value.json), ("span", span)]) : Written t (.object members)

theorem Written.plain {t : LocatedToken} {j : Json} (written : t.Written j) (portable : t.Portable) :
    Plain j := by
  cases written with
  | object place order =>
    refine Json.plainReordered order ?_
    simp only [List.forall_mem_cons, List.not_mem_nil, false_implies, implies_true, and_true]
    exact ⟨portable.value.plain, place.plain portable.span⟩

theorem Written.read {t : LocatedToken} {j : Json} (written : t.Written j) (portable : t.Portable) :
    LocatedToken.ofJson? j = some t := by
  cases written with
  | object place order =>
    rw [LocatedToken.ofJson?, Json.fieldsReordered order (by simp)]
    simp [Json.fields?, Json.member?, portable.value.read, place.read portable.span]

theorem writtenJson (t : LocatedToken) : t.Written t.json := .object t.span.writtenJson (.refl _)

theorem readWritten {t : LocatedToken} (portable : t.Portable) (l : Json.Layout) {j : Json}
    (written : t.Written j) : Json.decode? ofJson? (Json.write l 0 "" j).toList = some t := by
  rw [Json.decodeWritten ofJson? l (written.plain portable), written.read portable]

theorem wordlessRejected {s : Span} (fits : s.Fits) (l : Json.Layout) {d : Double} (odd : ¬d.isFinite) :
    Json.decode? ofJson? (Json.write l 0 "" (json ⟨.number d, s⟩)).toList = none := by
  have text : Json.write l 0 "" (json ⟨.number d, s⟩) =
      Json.write l 0 "" (.object [("value", Token.wordless), ("span", s.json)]) := by
    simp [json, Json.write, Json.writeMembers, Token.wordlessText l _ _ odd]
  have plain : Plain (.object [("value", Token.wordless), ("span", s.json)]) :=
    .object (by simpa using ⟨Token.wordlessPlain, s.writtenJson.plain fits⟩)
  rw [text, Json.decodeWritten ofJson? l plain]
  simp [ofJson?, Json.fields?, Json.member?, Token.wordless, Token.ofJson?, Json.double?]

end LocatedToken

theorem tokenJsonReadsBack {t : LocatedToken} (portable : t.Portable) (l : Json.Layout) :
    t.Written t.json ∧
    (∀ {j : Json}, t.Written j →
      Json.decode? LocatedToken.ofJson? (Json.write l 0 "" j).toList = some t) ∧
    (∀ {u : LocatedToken}, u.Portable → Json.write l 0 "" t.json = Json.write l 0 "" u.json → t = u) ∧
    (∀ {d : Double}, ¬d.isFinite →
      Json.decode? Token.ofJson? (Json.write l 0 "" (Token.number d).json).toList = none ∧
      Json.decode? LocatedToken.ofJson?
        (Json.write l 0 "" (LocatedToken.json ⟨.number d, t.span⟩)).toList = none) := by
  refine ⟨t.writtenJson, LocatedToken.readWritten portable l, ?_, ?_⟩
  · intro u portable' same
    have read := LocatedToken.readWritten portable l t.writtenJson
    rw [same, LocatedToken.readWritten portable' l u.writtenJson] at read
    exact (Option.some.inj read).symm
  · intro d odd
    exact ⟨Token.wordlessRejected l odd, LocatedToken.wordlessRejected portable.span l odd⟩

def markedString : LocatedToken :=
  ⟨.string "a\"\n\u00e9", ⟨⟨18446744073709551615, 4294967295, 7⟩, ⟨0, 1, 1⟩⟩⟩

def markedStringTurned : Json :=
  .object [("value", markedString.value.json),
    ("span", .object [
      ("end", .object [("column", .integer 1), ("line", .integer 1), ("offset", .integer 0)]),
      ("start", markedString.span.start.json)])]

theorem turnedStringReadsBack :
    markedString.Portable ∧ markedString.Written markedStringTurned ∧
    Json.decode? LocatedToken.ofJson? markedStringTurned.compactText.toList = some markedString := by
  have portable : markedString.Portable := ⟨.string _, by decide⟩
  have turned : markedString.Written markedStringTurned :=
    .object (.object (.object (.refl _)) (.object (List.reverse_perm _)) (.swap _ _ _)) (.refl _)
  exact ⟨portable, turned, (tokenJsonReadsBack portable .compact).2.1 turned⟩

end MathTokens

import Mathlib.Data.List.Basic
import MathTokens.Proofs.Lines
import MathTokens.Proofs.Rendering

/-! Sources in normal form: the texts of the tokens with one space between neighbours. What a pass
gives is well-formed, whatever the source, so its normal form reads back and is its own normal form. -/
namespace MathTokens

namespace Quoted

theorem unescapeSublist (cs : List Char) : (unescape cs).Sublist cs := by
  induction cs with
  | nil => exact .slnil
  | cons c cs ih =>
    rw [unescapeCons]
    split
    · exact ih.cons c
    · exact ih.cons_cons c

theorem unescapeLast (cs : List Char) : (unescape cs).getLast? = cs.getLast? := by
  induction cs with
  | nil => rfl
  | cons c cs ih =>
    rw [unescapeCons, List.getLast?_cons]
    split
    · next dropped =>
      obtain ⟨_, quote⟩ := dropped
      cases cs with
      | nil => cases quote
      | cons d cs => rw [ih, List.getLast?_cons, Option.getD_some]
    · rw [List.getLast?_cons, ih]

end Quoted

theorem spellingWellFormed {limits : Limits.Lexical} {text : List Char} {t : Token}
    (h : Spelling limits text t) : t.WellFormed limits := by
  cases h with
  | name word short =>
    rw [Token.WellFormed, String.toList_ofList]
    exact ⟨word, short⟩
  | @string body valid line small =>
    rw [Token.WellFormed, String.toList_ofList, Quoted.unescapeLast]
    exact ⟨fun feed => line ((Quoted.unescapeSublist body).subset feed), valid.closable, small⟩
  | number nonempty digits short finite => exact Double.ofNatWhole finite
  | symbol symbolic => exact Token.symbolAccepted.mpr symbolic

theorem piecesWellFormed {limits : Limits.Lexical} {xs : List Piece} (h : Pieces limits xs) :
    ∀ t ∈ xs.map Piece.token, t.WellFormed limits := by
  induction h with
  | nil => simp
  | cons spelling gap apart rest ih =>
    rw [List.map_cons]
    exact List.forall_mem_cons.mpr ⟨spellingWellFormed spelling, ih⟩

theorem Token.textLine {limits : Limits.Lexical} {t : Token} (h : t.WellFormed limits) :
    '\n' ∉ t.text.toList := by
  have wider : t.WellFormed { limits with numberLength := 309 } := by
    cases t with
    | name | string | number | symbol => exact h
  exact spellingLine (textSpelling (Nat.le_refl _) wider)

def normalText (ts : List Token) : List Char := [' '].intercalate (ts.map fun t => t.text.toList)

@[simp] theorem normalTextOne (t : Token) : normalText [t] = t.text.toList := by
  simp [normalText]

@[simp] theorem normalTextCons (t u : Token) (ts : List Token) :
    normalText (t :: u :: ts) = t.text.toList ++ ' ' :: normalText (u :: ts) := by
  simp [normalText, List.intercalate]

theorem normalTextLine {limits : Limits.Lexical} {ts : List Token}
    (wellFormed : ∀ t ∈ ts, t.WellFormed limits) : '\n' ∉ normalText ts := by
  induction ts with
  | nil => simp [normalText]
  | cons t ts ih =>
    obtain ⟨here, others⟩ := List.forall_mem_cons.mp wellFormed
    have first := Token.textLine here
    have later := ih others
    cases ts with
    | nil => rwa [normalTextOne]
    | cons u ts => simp [first, later]

def normalItems : List Token → List Item
  | [] => []
  | [t] => [(t, [])]
  | t :: u :: ts => (t, [' ']) :: normalItems (u :: ts)

theorem normalItemsChars (ts : List Token) :
    (normalItems ts).flatMap Item.chars = normalText ts := by
  induction ts with
  | nil => rfl
  | cons t ts ih =>
    cases ts with
    | nil => rw [normalTextOne, normalItems, List.flatMap_singleton, Item.chars, List.append_nil]
    | cons u ts =>
      rw [normalItems, List.flatMap_cons, ih, normalTextCons, Item.chars, List.append_assoc]
      rfl

theorem normalItemsTokens (ts : List Token) : (normalItems ts).map Prod.fst = ts := by
  induction ts with
  | nil => rfl
  | cons t ts ih =>
    cases ts with
    | nil => rfl
    | cons u ts => rw [normalItems, List.map_cons, ih]

theorem normalItemsGaps (ts : List Token) : ∀ x ∈ normalItems ts, Separated x.2 := by
  induction ts with
  | nil => simp [normalItems]
  | cons t ts ih =>
    cases ts with
    | nil => simp [normalItems, Separated]
    | cons u ts =>
      have space : Separated [' '] := by decide
      exact List.forall_mem_cons.mpr ⟨space, ih⟩

theorem normalItemsApart (ts : List Token) : Item.Apart (normalItems ts) := by
  induction ts with
  | nil => trivial
  | cons t ts ih =>
    cases ts with
    | nil => trivial
    | cons u ts =>
      cases ts with
      | nil => exact ⟨nofun, ih⟩
      | cons v ts => exact ⟨nofun, ih⟩

theorem normalTextReads {limits : Limits} (wide : 309 ≤ limits.lexical.numberLength)
    (settings : Settings.Lexical) (elapsed : Nat) {ts : List Token}
    (wellFormed : ∀ t ∈ ts, t.WellFormed limits.lexical)
    (count : ts.length ≤ limits.lexical.tokenCount) :
    ∃ tape, (Pass.run limits settings elapsed (normalText ts)).result = .ok tape ∧
      tape.tokens.toList.map Located.value = ts := by
  have each : ∀ x ∈ normalItems ts, x.1.WellFormed limits.lexical := by
    intro x member
    refine wellFormed x.1 ?_
    rw [← normalItemsTokens ts]
    exact List.mem_map_of_mem member
  have pieces := Item.piecesValid wide each (normalItemsGaps ts) (normalItemsApart ts)
  have length : ((normalItems ts).map Item.piece).length = ts.length := by
    rw [List.length_map, ← List.length_map (f := Prod.fst), normalItemsTokens]
  have valid : Layout.Valid limits.lexical ⟨[], (normalItems ts).map Item.piece⟩ :=
    ⟨by simp [Separated], pieces, length ▸ count⟩
  have chars : Layout.chars ⟨[], (normalItems ts).map Item.piece⟩ = normalText ts := by
    rw [Layout.chars, Item.piecesChars, normalItemsChars, List.nil_append]
  refine ⟨_, Pass.runLayoutIff.mpr ⟨_, valid, chars, rfl⟩, ?_⟩
  simp only [Tape.ofList, List.toList_toArray, Layout.tokens, Item.piecesTokens, normalItemsTokens]

/- A rounded number may be written with more digits than its source had, but never with more than 309,
and both profiles leave room for those. -/
theorem normalisingIdempotent (limits : Limits) (settings : Settings.Lexical) (elapsed : Nat)
    (source : List Char) (tape : Tape)
    (read : (Pass.run limits settings elapsed source).result = .ok tape) :
    let ts := tape.tokens.toList.map Located.value
    (∀ t ∈ ts, t.WellFormed limits.lexical) ∧ '\n' ∉ normalText ts ∧
      (309 ≤ limits.lexical.numberLength → ∀ settings' elapsed', ∃ again,
        (Pass.run limits settings' elapsed' (normalText ts)).result = .ok again ∧
        again.tokens.toList.map Located.value = ts ∧
        normalText (again.tokens.toList.map Located.value) = normalText ts) := by
  obtain ⟨d, valid, _, rfl⟩ := Pass.runLayoutIff.mp read
  have values : (Tape.ofList d.tokens (some (LineIndex.ofChars source))).tokens.toList.map
      Located.value = d.pieces.map Piece.token := by
    rw [Tape.ofList, List.toList_toArray, Layout.tokens, Piece.locatedTokens]
  rw [values]
  have wellFormed := piecesWellFormed valid.pieces
  refine ⟨wellFormed, normalTextLine wellFormed, fun wide settings' elapsed' => ?_⟩
  have count : (d.pieces.map Piece.token).length ≤ limits.lexical.tokenCount := by
    rw [List.length_map]
    exact valid.count
  obtain ⟨again, result, same⟩ := normalTextReads wide settings' elapsed' wellFormed count
  exact ⟨again, result, same, by rw [same]⟩

theorem looseSourceNormalised :
    ∃ tape again,
      (Pass.run .production (.ofEnvironment []) 0 "007\"a\\\\\"b\"\n x".toList).result = .ok tape ∧
      (Pass.run .production (.ofEnvironment []) 0 "7 \"a\\\\\"b\" x".toList).result = .ok again ∧
      tape.tokens.toList.map Located.value =
        [.number (Double.ofNat 7), .string "a\\\"b", .name "x"] ∧
      again.tokens.toList.map Located.value = tape.tokens.toList.map Located.value := by
  have scanned : (Scanner.start .production (.ofEnvironment [])
      "007\"a\\\\\"b\"\n x".toList).drain.answer =
      .ok [⟨.number (Double.ofNat 7), ⟨⟨0, 1, 1⟩, ⟨3, 1, 4⟩⟩⟩,
        ⟨.string "a\\\"b", ⟨⟨3, 1, 4⟩, ⟨10, 1, 11⟩⟩⟩, ⟨.name "x", ⟨⟨12, 2, 2⟩, ⟨13, 2, 3⟩⟩⟩] := by
    decide +kernel
  obtain ⟨tape, read, values⟩ : ∃ tape,
      (Pass.run .production (.ofEnvironment []) 0 "007\"a\\\\\"b\"\n x".toList).result = .ok tape ∧
      tape.tokens.toList.map Located.value =
        [.number (Double.ofNat 7), .string "a\\\"b", .name "x"] :=
    ⟨_, Pass.runOkIff.mpr ⟨_, Scanner.drainOkIff.mp scanned, rfl⟩, rfl⟩
  obtain ⟨_, _, normal⟩ := normalisingIdempotent .production (.ofEnvironment []) 0 _ tape read
  obtain ⟨again, result, same, _⟩ := normal (by decide) (.ofEnvironment []) 0
  have text : normalText [.number (Double.ofNat 7), .string "a\\\"b", .name "x"] =
      "7 \"a\\\\\"b\" x".toList := by decide +kernel
  rw [values, text] at result
  exact ⟨tape, again, read, result, values, same⟩

end MathTokens

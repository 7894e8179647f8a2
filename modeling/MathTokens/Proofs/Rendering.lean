import MathTokens.Proofs.Grammar
import MathTokens.Proofs.Wholes

/-! Tokens written out and read back. The written form of a token spells that token, so any list of
tokens set between separators is a layout of the grammar, whatever its strings contain. -/
namespace MathTokens

namespace Token

def WellFormed (limits : Limits.Lexical) : Token → Prop
  | .name s => IsWord s.toList ∧ Text.byteLength s.toList ≤ limits.nameLength
  | .string s => '\n' ∉ s.toList ∧ s.toList.getLast? ≠ some '\\' ∧
      Text.byteLength s.toList ≤ limits.stringSize
  | .number d => d.IsWhole
  | .symbol c => (splitSymbol? [c]).isSome
instance (limits : Limits.Lexical) (t : Token) : Decidable (t.WellFormed limits) := by
  cases t <;> unfold WellFormed <;> infer_instance

theorem symbolAccepted {c : Char} : (splitSymbol? [c]).isSome ↔ IsSymbolic c := by
  rw [Option.isSome_iff_exists]
  constructor
  · rintro ⟨⟨text, rest⟩, split⟩
    obtain ⟨_, symbolic, _, same⟩ := splitSymbolIff.mp split
    cases same
    exact symbolic
  · intro symbolic
    exact ⟨([c], []), splitSymbolIff.mpr ⟨c, symbolic, rfl, rfl⟩⟩

theorem textSpelling {limits : Limits.Lexical} (wide : 309 ≤ limits.numberLength) {t : Token}
    (h : t.WellFormed limits) : Spelling limits t.text.toList t := by
  cases t with
  | name s =>
    obtain ⟨word, short⟩ := h
    have spelling := Spelling.name word short
    rwa [String.ofList_toList] at spelling
  | string s =>
    obtain ⟨line, closable, small⟩ := h
    have back : Quoted.unescape (Quoted.escape s.toList) = s.toList := Quoted.unescapeEscape _
    have spelling : Spelling limits _ _ := .string (Quoted.escapeBody closable)
      (Quoted.escapeLine line) (by rwa [back])
    rw [back, String.ofList_toList] at spelling
    rwa [text, String.toList_ofList]
  | number d =>
    obtain ⟨nonempty, digits, length, value⟩ := Double.wholeText h
    have finite : d.isFinite := by
      cases d with
      | finite negative rank => rfl
      | infinite negative => cases h
      | nan => cases h
    have spelling := Spelling.number nonempty digits (Nat.le_trans length wide) (by rwa [value])
    rwa [value] at spelling
  | symbol c =>
    rw [Token.text, String.toList_singleton]
    exact .symbol (symbolAccepted.mp h)

end Token

abbrev Item := Token × List Char

namespace Item

def chars (x : Item) : List Char := x.1.text.toList ++ x.2

def Apart : List Item → Prop
  | x :: y :: items => (x.2 = [] → ¬Fused x.1.kind y.1.kind) ∧ Apart (y :: items)
  | _ => True
instance decidableApart : (items : List Item) → Decidable (Apart items)
  | [] => .isTrue trivial
  | [_] => .isTrue trivial
  | _ :: y :: items =>
    have := decidableApart (y :: items)
    inferInstanceAs (Decidable (_ ∧ _))

def piece (x : Item) : Piece := ⟨x.1.text.toList, x.1, x.2⟩

theorem piecesChars (items : List Item) :
    Piece.joined (items.map piece) = items.flatMap chars := by
  induction items with
  | nil => rfl
  | cons x items ih =>
    rw [List.map_cons, Piece.joinedCons, ih, List.flatMap_cons, chars, List.append_assoc]
    rfl

theorem piecesTokens (p : Position) (items : List Item) :
    (Piece.located p (items.map piece)).map Located.value = items.map Prod.fst := by
  rw [Piece.locatedTokens, List.map_map]
  rfl

theorem piecesValid {limits : Limits.Lexical} (wide : 309 ≤ limits.numberLength)
    {items : List Item} (wellFormed : ∀ x ∈ items, x.1.WellFormed limits)
    (gaps : ∀ x ∈ items, Separated x.2) (apart : Apart items) :
    Pieces limits (items.map piece) := by
  induction items with
  | nil => exact .nil
  | cons x items ih =>
    obtain ⟨here, others⟩ := List.forall_mem_cons.mp wellFormed
    obtain ⟨gap, behind⟩ := List.forall_mem_cons.mp gaps
    have spelling := Token.textSpelling wide here
    cases items with
    | nil => exact .cons spelling gap nofun .nil
    | cons y items =>
      refine .cons spelling gap ?_ (ih others behind apart.2)
      intro empty z first
      cases first
      exact apart.1 empty

end Item

/- The bound is the length of the longest finite whole number. Both profiles leave room for it. -/
theorem writtenReadsBack (limits : Limits) (wide : 309 ≤ limits.lexical.numberLength)
    (settings : Settings.Lexical) (elapsed : Nat) (lead : List Char) (items : List Item)
    (count : items.length ≤ limits.lexical.tokenCount)
    (wellFormed : ∀ x ∈ items, x.1.WellFormed limits.lexical)
    (separated : Separated lead) (gaps : ∀ x ∈ items, Separated x.2)
    (apart : Item.Apart items) :
    ∃ tape,
      (Pass.run limits settings elapsed (lead ++ items.flatMap Item.chars)).result = .ok tape ∧
      tape.tokens.toList.map Located.value = items.map Prod.fst := by
  have pieces := Item.piecesValid wide wellFormed gaps apart
  have valid : Layout.Valid limits.lexical ⟨lead, items.map Item.piece⟩ :=
    ⟨separated, pieces, by rwa [List.length_map]⟩
  have chars : Layout.chars ⟨lead, items.map Item.piece⟩ = lead ++ items.flatMap Item.chars := by
    rw [Layout.chars, Item.piecesChars]
  refine ⟨_, Pass.runLayoutIff.mpr ⟨_, valid, chars, rfl⟩, ?_⟩
  simp only [Tape.ofList, List.toList_toArray, Layout.tokens, Item.piecesTokens]

theorem backslashSourceReadsBack :
    ∃ tape,
      (Pass.run .production (.ofEnvironment []) 0
        " \\\"a\\\\\"\"x_1\t42\n".toList).result = .ok tape ∧
      tape.tokens.toList.map Located.value =
        [.symbol '\\', .string "a\\\"", .name "x_1", .number (Double.ofNat 42)] := by
  have read := writtenReadsBack .production (by decide) (.ofEnvironment []) 0 [' ']
    [(.symbol '\\', []), (.string "a\\\"", []), (.name "x_1", ['\t']),
      (.number (Double.ofNat 42), ['\n'])]
    (by decide) (by decide +kernel) (by decide) (by decide) (by decide)
  have source : [' '] ++ List.flatMap Item.chars
      [(.symbol '\\', []), (.string "a\\\"", []), (.name "x_1", ['\t']),
        (.number (Double.ofNat 42), ['\n'])] = " \\\"a\\\\\"\"x_1\t42\n".toList := by
    decide +kernel
  rwa [source] at read

end MathTokens

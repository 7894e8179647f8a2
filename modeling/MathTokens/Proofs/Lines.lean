import MathTokens.Proofs.Grammar

/-! Two sources with a line feed between them. Neither half can lend the other anything: the whole is
accepted exactly if both halves are, and the tokens of the second half only move down. -/
namespace MathTokens

namespace Position

def shift (bytes lines : Nat) (p : Position) : Position :=
  ⟨p.offset + bytes, p.line + lines, p.column⟩

theorem shiftAdvance (bytes lines : Nat) (p : Position) (c : Char) :
    (p.shift bytes lines).advance c = (p.advance c).shift bytes lines := by
  unfold advance
  split
  · simp [shift, Nat.add_right_comm]
  · simp [shift, Nat.add_right_comm]

theorem shiftAdvanceOver (bytes lines : Nat) (p : Position) (cs : List Char) :
    (p.shift bytes lines).advanceOver cs = (p.advanceOver cs).shift bytes lines := by
  induction cs generalizing p with
  | nil => rfl
  | cons c cs ih => rw [advanceOverCons, shiftAdvance, ih, advanceOverCons]

theorem lineAdvanceOver (p : Position) (cs : List Char) :
    (p.advanceOver cs).line = p.line + cs.count '\n' := by
  induction cs generalizing p with
  | nil => rfl
  | cons c cs ih =>
    rw [advanceOverCons, ih, advance, List.count_cons]
    split
    · next feed => simp only [feed, beq_self_eq_true, ↓reduceIte]; omega
    · next other => simp [other]

theorem startBelow (cs : List Char) :
    start.advanceOver (cs ++ ['\n']) =
      start.shift (Text.byteLength cs + 1) (cs.count '\n' + 1) := by
  have line := lineAdvanceOver start cs
  have offset := advanceOverOffset start cs
  rw [advanceOverAppend, advanceOverCons, advanceOverNil, advance, if_pos rfl, line, offset]
  simp only [start, shift, mk.injEq]
  exact ⟨by omega, by omega, trivial⟩

end Position

def Span.shift (bytes lines : Nat) (s : Span) : Span :=
  ⟨s.start.shift bytes lines, s.stop.shift bytes lines⟩

def Located.shift {α : Type} (bytes lines : Nat) (x : Located α) : Located α :=
  ⟨x.value, x.span.shift bytes lines⟩

theorem Piece.locatedShift (bytes lines : Nat) (p : Position) (xs : List Piece) :
    located (p.shift bytes lines) xs = (located p xs).map (Located.shift bytes lines) := by
  induction xs generalizing p with
  | nil => rfl
  | cons x xs ih =>
    simp only [located, List.map_cons, Position.shiftAdvanceOver, ih, Span.covering,
      Located.shift, Span.shift]

theorem spellingLine {limits : Limits.Lexical} {text : List Char} {t : Token}
    (h : Spelling limits text t) : '\n' ∉ text := by
  intro feed
  cases h with
  | name word short =>
    cases text with
    | nil => cases feed
    | cons c cs =>
      rcases List.mem_cons.mp feed with rfl | inside
      · exact absurd word.1 (by decide)
      · exact absurd (word.2 _ inside) (by decide)
  | string valid line small => simp [line] at feed
  | number nonempty digits short finite => exact absurd (digits _ feed) (by decide)
  | symbol symbolic =>
    cases List.mem_singleton.mp feed
    exact absurd symbolic.separator (by decide)

namespace Layout

def follow (lead : List Char) : List Piece → Layout → Layout
  | [], e => ⟨lead ++ '\n' :: e.lead, e.pieces⟩
  | x :: xs, e =>
    let tail := follow x.gap xs e
    ⟨lead, { x with gap := tail.lead } :: tail.pieces⟩

theorem followChars (lead : List Char) (xs : List Piece) (e : Layout) :
    (follow lead xs e).chars = lead ++ (Piece.joined xs ++ '\n' :: e.chars) := by
  induction xs generalizing lead with
  | nil => simp [follow, chars]
  | cons x xs ih =>
    have tail := ih x.gap
    rw [chars] at tail
    simp only [follow, chars, Piece.joinedCons, tail]
    simp

theorem followLength (lead : List Char) (xs : List Piece) (e : Layout) :
    (follow lead xs e).pieces.length = xs.length + e.pieces.length := by
  induction xs generalizing lead with
  | nil => simp [follow]
  | cons x xs ih => simp only [follow, List.length_cons, ih]; omega

theorem followLocated (p : Position) (lead : List Char) (xs : List Piece) (e : Layout) :
    Piece.located (p.advanceOver (follow lead xs e).lead) (follow lead xs e).pieces =
      Piece.located (p.advanceOver lead) xs ++
        Piece.located (p.advanceOver (lead ++ (Piece.joined xs ++ '\n' :: e.lead))) e.pieces := by
  induction xs generalizing p lead with
  | nil => simp [follow, Piece.located]
  | cons x xs ih =>
    have tail := ih ((p.advanceOver lead).advanceOver x.text) x.gap
    simp only [← Position.advanceOverAppend] at tail
    simp only [follow, Piece.located, Piece.chars, Piece.joinedCons, List.cons_append,
      ← Position.advanceOverAppend]
    simp only [List.append_assoc] at tail ⊢
    rw [tail]

theorem followValid {limits : Limits.Lexical} {lead : List Char} {xs : List Piece} {e : Layout}
    (front : Separated lead) (pieces : Pieces limits xs) (lead' : Separated e.lead)
    (pieces' : Pieces limits e.pieces) :
    Separated (follow lead xs e).lead ∧ Pieces limits (follow lead xs e).pieces := by
  induction pieces generalizing lead with
  | nil =>
    refine ⟨?_, pieces'⟩
    intro c member
    rcases List.mem_append.mp member with before | after
    · exact front c before
    · rcases List.mem_cons.mp after with rfl | behind
      · decide
      · exact lead' c behind
  | @cons x xs spelling gap apart rest ih =>
    obtain ⟨separated, tail⟩ := ih gap
    refine ⟨front, .cons spelling separated ?_ tail⟩
    intro empty y first
    cases xs with
    | nil => simp [follow] at empty
    | cons z zs =>
      cases first
      exact apart empty z rfl

theorem feedSide {xs ys a b : List Char} {c : Char} (whole : xs ++ ys = a ++ c :: b) :
    (∃ l, xs = a ++ c :: l ∧ b = l ++ ys) ∨ (∃ l, a = xs ++ l ∧ ys = l ++ c :: b) := by
  rcases List.append_eq_append_iff.mp whole with later | ⟨l, front, back⟩
  · exact .inr later
  · cases l with
    | nil => exact .inr ⟨[], by simp [front], by simp [back]⟩
    | cons d l =>
      cases back
      exact .inl ⟨l, front, rfl⟩

theorem separatedCut {a l : List Char} {c : Char} (h : Separated (a ++ c :: l)) :
    Separated a ∧ Separated l :=
  ⟨fun d member => h d (by simp [member]), fun d member => h d (by simp [member])⟩

theorem followSplit {limits : Limits.Lexical} {lead a b : List Char} {xs : List Piece}
    (front : Separated lead) (pieces : Pieces limits xs)
    (whole : lead ++ Piece.joined xs = a ++ '\n' :: b) :
    ∃ lead' ys e, Separated lead' ∧ Pieces limits ys ∧ Separated e.lead ∧
      Pieces limits e.pieces ∧ lead' ++ Piece.joined ys = a ∧ e.chars = b ∧
      follow lead' ys e = ⟨lead, xs⟩ := by
  -- on the pieces in front of the cut; a line feed among them stands in a gap
  induction pieces generalizing lead a with
  | nil =>
    rw [Piece.joinedNil, List.append_nil] at whole
    subst whole
    obtain ⟨before, behind⟩ := separatedCut front
    exact ⟨a, [], ⟨b, []⟩, before, .nil, behind, .nil, by simp, by simp [chars], rfl⟩
  | @cons x xs spelling gap apart rest ih =>
    have pieces := Pieces.cons spelling gap apart rest
    rcases feedSide whole with ⟨l, rfl, rfl⟩ | ⟨a', rfl, inside⟩
    · obtain ⟨before, behind⟩ := separatedCut front
      exact ⟨a, [], ⟨l, x :: xs⟩, before, .nil, behind, pieces, by simp, rfl, rfl⟩
    · rw [Piece.joinedCons] at inside
      rcases feedSide inside with ⟨l, text, _⟩ | ⟨a'', rfl, later⟩
      · exact absurd (by simp [text]) (spellingLine spelling)
      · obtain ⟨gap', ys, e, separated, ours, lead', theirs, rfl, rfl, same⟩ := ih gap later
        refine ⟨lead, { x with gap := gap' } :: ys, e, front, .cons spelling separated ?_ ours,
          lead', theirs, by simp, rfl, by simp [follow, same]⟩
        intro (empty : gap' = []) y first
        have ends := piecesEnd pieces
        rw [later, empty] at ends
        cases ours with
        | nil => cases first
        | @cons z zs next _ _ _ =>
          cases first
          simp only [Piece.joinedCons, List.nil_append, List.append_assoc] at ends
          exact (endsSpelling next _ _).mp ends

def above (d e : Layout) : Layout := follow d.lead d.pieces e

theorem aboveChars (d e : Layout) : (above d e).chars = d.chars ++ '\n' :: e.chars := by
  rw [above, followChars]
  simp [chars]

theorem aboveTokens (d e : Layout) :
    (above d e).tokens = d.tokens ++
      e.tokens.map (Located.shift (Text.byteLength d.chars + 1) (d.chars.count '\n' + 1)) := by
  have reach : d.lead ++ (Piece.joined d.pieces ++ '\n' :: e.lead) =
      (d.chars ++ ['\n']) ++ e.lead := by simp [chars]
  rw [above, tokens, followLocated, reach, Position.advanceOverAppend, Position.startBelow,
    Position.shiftAdvanceOver, Piece.locatedShift]
  rfl

theorem aboveValid {limits : Limits.Lexical} {d e : Layout} (one : d.Valid limits)
    (two : e.Valid limits) (room : d.pieces.length + e.pieces.length ≤ limits.tokenCount) :
    (above d e).Valid limits := by
  obtain ⟨lead, pieces⟩ := followValid one.lead one.pieces two.lead two.pieces
  exact ⟨lead, pieces, by rwa [above, followLength]⟩

theorem validAbove {limits : Limits.Lexical} {whole : Layout} {a b : List Char}
    (valid : whole.Valid limits) (same : whole.chars = a ++ '\n' :: b) :
    ∃ d e, d.Valid limits ∧ e.Valid limits ∧ d.chars = a ∧ e.chars = b ∧ above d e = whole ∧
      d.pieces.length + e.pieces.length ≤ limits.tokenCount := by
  obtain ⟨lead, ys, e, front, ours, lead', theirs, here, there, joined⟩ :=
    followSplit valid.lead valid.pieces same
  have room : ys.length + e.pieces.length ≤ limits.tokenCount := by
    rw [← followLength lead ys e, joined]
    exact valid.count
  exact ⟨⟨lead, ys⟩, e, ⟨front, ours, Nat.le_trans (Nat.le_add_right _ _) room⟩,
    ⟨lead', theirs, Nat.le_trans (Nat.le_add_left _ _) room⟩, here, there, joined, room⟩

end Layout

theorem passComposesLines (limits : Limits) (settings : Settings.Lexical) (elapsed : Nat)
    (a b : List Char) (tape : Tape) :
    (Pass.run limits settings elapsed (a ++ '\n' :: b)).result = .ok tape ↔
      ∃ upper lower, (Pass.run limits settings elapsed a).result = .ok upper ∧
        (Pass.run limits settings elapsed b).result = .ok lower ∧
        upper.size + lower.size ≤ limits.lexical.tokenCount ∧
        tape = Tape.ofList (upper.tokens.toList ++
            lower.tokens.toList.map (Located.shift (Text.byteLength a + 1) (a.count '\n' + 1)))
          (some (LineIndex.ofChars (a ++ '\n' :: b))) := by
  simp only [Pass.runLayoutIff]
  constructor
  · rintro ⟨whole, valid, same, rfl⟩
    obtain ⟨d, e, one, two, rfl, rfl, rfl, room⟩ := Layout.validAbove valid same
    refine ⟨_, _, ⟨d, one, rfl, rfl⟩, ⟨e, two, rfl, rfl⟩, ?_, ?_⟩
    · simpa [Tape.size, Tape.ofList, Layout.tokensLength] using room
    · simp [Layout.aboveTokens, Tape.ofList]
  · rintro ⟨_, _, ⟨d, one, rfl, rfl⟩, ⟨e, two, rfl, rfl⟩, room, rfl⟩
    have room : d.pieces.length + e.pieces.length ≤ limits.lexical.tokenCount := by
      simpa [Tape.size, Tape.ofList, Layout.tokensLength] using room
    exact ⟨d.above e, Layout.aboveValid one two room, Layout.aboveChars d e,
      by simp [Layout.aboveTokens, Tape.ofList]⟩

end MathTokens

import MathTokens.Proofs.Matching

/-! The grammar of sources: spellings with separators around them, where neighbours that would fuse
stand apart. A pass accepts exactly the sources of the grammar, each of which has one reading. -/
namespace MathTokens

def Separated (cs : List Char) : Prop := ∀ c ∈ cs, isSeparator c
instance (cs : List Char) : Decidable (Separated cs) :=
  List.decidableBAll (fun c => isSeparator c) cs

structure Piece where
  text : List Char
  token : Token
  gap : List Char

namespace Piece

def chars (x : Piece) : List Char := x.text ++ x.gap

def joined (xs : List Piece) : List Char := xs.flatMap chars

def located : Position → List Piece → List LocatedToken
  | _, [] => []
  | p, x :: xs => ⟨x.token, .covering p x.text⟩ :: located (p.advanceOver x.chars) xs

@[simp] theorem joinedNil : joined [] = [] := rfl

@[simp] theorem joinedCons (x : Piece) (xs : List Piece) :
    joined (x :: xs) = x.text ++ (x.gap ++ joined xs) := by
  simp [joined, chars]

theorem locatedLength (p : Position) (xs : List Piece) : (located p xs).length = xs.length := by
  induction xs generalizing p with
  | nil => rfl
  | cons x xs ih => simp [located, ih]

theorem locatedTokens (p : Position) (xs : List Piece) :
    (located p xs).map Located.value = xs.map token := by
  induction xs generalizing p with
  | nil => rfl
  | cons x xs ih => rw [located, List.map_cons, List.map_cons, ih]

end Piece

inductive Pieces (limits : Limits.Lexical) : List Piece → Prop where
  | nil : Pieces limits []
  | cons {x xs} (spelling : Spelling limits x.text x.token) (gap : Separated x.gap)
      (apart : x.gap = [] → ∀ y ∈ xs.head?, ¬Fused x.token.kind y.token.kind)
      (rest : Pieces limits xs) : Pieces limits (x :: xs)

structure Layout where
  lead : List Char
  pieces : List Piece

namespace Layout

def chars (d : Layout) : List Char := d.lead ++ Piece.joined d.pieces

def tokens (d : Layout) : List LocatedToken :=
  Piece.located (Position.start.advanceOver d.lead) d.pieces

theorem tokensLength (d : Layout) : d.tokens.length = d.pieces.length := Piece.locatedLength _ _

structure Valid (limits : Limits.Lexical) (d : Layout) : Prop where
  lead : Separated d.lead
  pieces : Pieces limits d.pieces
  count : d.pieces.length ≤ limits.tokenCount

end Layout

/-! Whatever the grammar allows leaves no quote open, so the look ahead of the name rule never stands
in its way. -/

theorem spellingBalanced {limits : Limits.Lexical} {text : List Char} {t : Token}
    (h : Spelling limits text t) (rest : List Char) :
    Quoted.balanced (text ++ rest) = Quoted.balanced rest := by
  cases h with
  | name word short =>
    refine Quoted.balancedPlain (fun quote => ?_) rest
    cases text with
    | nil => cases quote
    | cons c cs =>
      rcases List.mem_cons.mp quote with rfl | inside
      · exact absurd word.1 (by decide)
      · exact wordNotQuote (word.2 _ inside) rfl
  | string valid line small => exact Quoted.balancedLiteral valid rest
  | number nonempty digits short finite =>
    exact Quoted.balancedPlain (fun quote => wordNotQuote (digitWord (digits _ quote)) rfl) rest
  | symbol symbolic =>
    exact Quoted.balancedPlain (fun quote => symbolic.quote (List.mem_singleton.mp quote).symm) rest

theorem separatedBalanced {gap : List Char} (h : Separated gap) (rest : List Char) :
    Quoted.balanced (gap ++ rest) = Quoted.balanced rest :=
  Quoted.balancedPlain (fun quote => (separatorClasses (h _ quote)).2.2 rfl) rest

theorem piecesBalanced {limits : Limits.Lexical} {xs : List Piece} (h : Pieces limits xs) :
    Quoted.balanced (Piece.joined xs) := by
  induction h with
  | nil => rfl
  | cons spelling gap apart rest ih =>
    rw [Piece.joinedCons, spellingBalanced spelling, separatedBalanced gap, ih]

theorem piecesStop {limits : Limits.Lexical} {xs : List Piece} (h : Pieces limits xs) :
    Stops isSeparator (Piece.joined xs) := by
  cases h with
  | nil => simp [Stops]
  | cons spelling gap apart rest =>
    obtain ⟨c, cs, same, opens⟩ := spellingOpens spelling
    simp [Stops, same, opensSeparator opens]

theorem piecesEnd {limits : Limits.Lexical} {x : Piece} {xs : List Piece}
    (h : Pieces limits (x :: xs)) : Ends x.token.kind (x.gap ++ Piece.joined xs) := by
  cases h with
  | cons spelling gap apart rest =>
    cases spaces : x.gap with
    | cons c cs => exact endsSeparator (gap c (by simp [spaces])) _ _
    | nil =>
      cases rest with
      | nil => exact endsNil _
      | @cons y ys next _ _ _ =>
        rw [List.nil_append, Piece.joinedCons, endsSpelling next]
        exact apart spaces y rfl

theorem gapTaken {limits : Limits.Lexical} {gap : List Char} {xs : List Piece}
    (separated : Separated gap) (h : Pieces limits xs) :
    (gap ++ Piece.joined xs).takeWhile isSeparator = gap ∧
      (gap ++ Piece.joined xs).dropWhile isSeparator = Piece.joined xs :=
  ⟨takeStops separated (piecesStop h), dropStops separated (piecesStop h)⟩

theorem matchPieces {limits : Limits.Lexical} {x : Piece} {xs : List Piece}
    (h : Pieces limits (x :: xs)) :
    ∃ rule ∈ Rule.table, rule.kind = x.token.kind ∧
      Lexing.firstMatch? Rule.table (Piece.joined (x :: xs)) =
        some (rule, x.text, x.gap ++ Piece.joined xs) ∧
      rule.build limits x.text = .ok x.token := by
  have ends := piecesEnd h
  cases h with
  | cons spelling gap apart rest =>
    rw [Piece.joinedCons]
    refine Lexing.firstMatchSpelling spelling ends fun _ => ?_
    rw [separatedBalanced gap, piecesBalanced rest]

theorem piecesUnique {limits : Limits.Lexical} {xs ys : List Piece} (one : Pieces limits xs)
    (two : Pieces limits ys) (same : Piece.joined xs = Piece.joined ys) : xs = ys := by
  have nonempty {x : Piece} {xs : List Piece} (h : Pieces limits (x :: xs)) :
      Piece.joined (x :: xs) ≠ [] := by
    obtain ⟨rule, _, _, found, _⟩ := matchPieces h
    intro empty
    have whole := Lexing.firstMatchWhole found
    rw [empty] at whole
    exact whole.2 (List.append_eq_nil_iff.mp whole.1.symm).1
  induction one generalizing ys with
  | nil =>
    cases ys with
    | nil => rfl
    | cons y ys => exact absurd same.symm (nonempty two)
  | @cons x xs spelling gap apart rest ih =>
    cases ys with
    | nil => exact absurd same (nonempty (.cons spelling gap apart rest))
    | cons y ys =>
      obtain ⟨rule, _, _, found, built⟩ := matchPieces (.cons spelling gap apart rest)
      obtain ⟨rule', _, _, found', built'⟩ := matchPieces two
      rw [same, found'] at found
      simp only [Option.some.injEq, Prod.mk.injEq] at found
      obtain ⟨rfl, text, after⟩ := found
      cases two with
      | cons spelling' gap' apart' rest' =>
        have ours := gapTaken gap rest
        have theirs := gapTaken gap' rest'
        rw [← after] at ours
        have spaces : x.gap = y.gap := ours.1.symm.trans theirs.1
        have others : xs = ys := ih rest' (ours.2.symm.trans theirs.2)
        rw [text, built] at built'
        have token : x.token = y.token := Except.ok.inj built'
        have first : x = y := by
          cases x
          cases y
          simp_all only
        rw [first, others]

/-! From the grammar to the scanner and back. -/

theorem stepPieces {limits : Limits.Lexical} {x : Piece} {xs : List Piece}
    (h : Pieces limits (x :: xs)) {emitted : Nat} (room : emitted < limits.tokenCount)
    (p : Position) :
    Lexing.step Rule.table limits emitted p (Piece.joined (x :: xs)) =
      .ok (some ⟨⟨x.token, .covering p x.text⟩, x.text, p.advanceOver x.chars,
        Piece.joined xs⟩) := by
  obtain ⟨rule, _, _, found, built⟩ := matchPieces h
  refine Lexing.stepTokenIff.mpr ⟨room, rule, x.text, _, x.token, found, built, ?_⟩
  cases h with
  | cons spelling gap apart rest =>
    obtain ⟨taken, dropped⟩ := gapTaken gap rest
    rw [taken, dropped, Piece.chars]

namespace Scanner

theorem piecesDelivered {xs : List Piece} {s : Scanner} (rules : s.rules = Rule.table)
    (h : Pieces s.limits.lexical xs) (left : s.rest = Piece.joined xs)
    (room : xs ≠ [] → s.emitted + xs.length ≤ s.limits.lexical.tokenCount) :
    s.Delivers (Piece.located s.position xs) none := by
  induction xs generalizing s with
  | nil => exact .ended (nextEndedIff.mpr left)
  | cons x xs ih =>
    have room := room nofun
    rw [List.length_cons] at room
    have here : s.emitted < s.limits.lexical.tokenCount := by omega
    have stepped := stepPieces h here s.position
    rw [← left, ← rules] at stepped
    refine .token (nextTokenIff.mpr ⟨_, stepped, rfl⟩) ?_
    rw [nextScanner stepped]
    cases h with
    | cons spelling gap apart rest =>
      exact ih rules rest rfl fun _ => by simp only [take]; omega

theorem deliveredPieces {s : Scanner} {ts : List LocatedToken} (h : s.Delivers ts none)
    (faithful : ∀ rule ∈ s.rules, rule.Faithful) :
    ∃ xs, Pieces s.limits.lexical xs ∧ s.rest = Piece.joined xs ∧
      ts = Piece.located s.position xs ∧
      (xs ≠ [] → s.emitted + xs.length ≤ s.limits.lexical.tokenCount) := by
  generalize ending : (none : Option LexError) = failure at h
  -- Behind a token stands a gap, or an input with which its spelling could not go on.
  induction h with
  | ended answer => exact ⟨[], .nil, nextEndedIff.mp answer, rfl, nofun⟩
  | failed => cases ending
  | @token s t ts failure answer later ih =>
    obtain ⟨lexeme, stepped, rfl⟩ := nextTokenIff.mp answer
    obtain ⟨room, rule, text, after, token, found, built, rfl⟩ := Lexing.stepTokenIff.mp stepped
    obtain ⟨member, cut⟩ := Lexing.firstMatchSource found
    obtain ⟨spelling, ends⟩ := faithful rule member cut built
    rw [nextScanner stepped] at ih
    obtain ⟨xs, pieces, left, rfl, fits⟩ := ih faithful ending
    have split : after = after.takeWhile isSeparator ++ Piece.joined xs := by
      rw [← left]
      exact List.takeWhile_append_dropWhile.symm
    refine ⟨⟨text, token, after.takeWhile isSeparator⟩ :: xs, ?_, ?_, ?_, fun _ => ?_⟩
    · refine .cons spelling (takenAll isSeparator after) ?_ pieces
      intro (empty : after.takeWhile isSeparator = []) y first
      rw [split, empty, List.nil_append] at ends
      cases pieces with
      | nil => cases first
      | @cons z zs next =>
        cases first
        rw [Piece.joinedCons] at ends
        exact (endsSpelling next _ _).mp ends
    · rw [(Lexing.firstMatchWhole found).1, Piece.joinedCons, ← split]
    · simp [Piece.located, Piece.chars, take]
    · cases xs with
      | nil => exact room
      | cons x xs =>
        have fits := fits (List.cons_ne_nil x xs)
        simp only [take, List.length_cons] at fits ⊢
        omega

end Scanner

namespace Layout

theorem validUnique {limits : Limits.Lexical} {d e : Layout} (one : d.Valid limits)
    (two : e.Valid limits) (same : d.chars = e.chars) : d = e := by
  have ours := gapTaken one.lead one.pieces
  have theirs := gapTaken two.lead two.pieces
  rw [chars, chars] at same
  rw [same] at ours
  have lead : d.lead = e.lead := ours.1.symm.trans theirs.1
  have pieces : d.pieces = e.pieces :=
    piecesUnique one.pieces two.pieces (ours.2.symm.trans theirs.2)
  cases d
  cases e
  simp_all only

theorem validDelivered {limits : Limits} {d : Layout} (h : d.Valid limits.lexical)
    (settings : Settings.Lexical) :
    (Scanner.start limits settings d.chars).Delivers d.tokens none := by
  obtain ⟨taken, dropped⟩ := gapTaken h.lead h.pieces
  have room := h.count
  have delivered := Scanner.piecesDelivered (s := Scanner.start limits settings d.chars) rfl
    h.pieces dropped fun _ => by simpa [Scanner.start, Scanner.startWith] using room
  simpa only [Scanner.start, Scanner.startWith, chars, taken, tokens] using delivered

theorem deliveredValid {rules : List Rule} (faithful : ∀ rule ∈ rules, rule.Faithful)
    {limits : Limits} {settings : Settings.Lexical} {source : List Char}
    {ts : List LocatedToken}
    (h : (Scanner.startWith rules limits settings source).Delivers ts none) :
    ∃ d : Layout, d.Valid limits.lexical ∧ d.chars = source ∧ ts = d.tokens := by
  obtain ⟨xs, pieces, left, rfl, fits⟩ := Scanner.deliveredPieces h faithful
  change source.dropWhile isSeparator = _ at left
  refine ⟨⟨source.takeWhile isSeparator, xs⟩, ⟨takenAll isSeparator source, pieces, ?_⟩, ?_, rfl⟩
  · cases xs with
    | nil => exact Nat.zero_le _
    | cons x xs => simpa [Scanner.startWith] using fits nofun
  · rw [chars, ← left, List.takeWhile_append_dropWhile]

theorem builtByTable {limits : Limits.Lexical} {xs : List Piece} (h : Pieces limits xs) :
    ∀ x ∈ xs, ∃ rule ∈ Rule.table, rule.kind = x.token.kind ∧
      rule.build limits x.text = .ok x.token := by
  induction h with
  | nil => simp
  | @cons x xs spelling gap apart rest ih =>
    obtain ⟨rule, member, kind, _, built⟩ := matchPieces (.cons spelling gap apart rest)
    exact List.forall_mem_cons.mpr ⟨⟨rule, member, kind, built⟩, ih⟩

end Layout

namespace Pass

theorem runLayoutIff {limits : Limits} {settings : Settings.Lexical} {elapsed : Nat}
    {source : List Char} {tape : Tape} :
    (run limits settings elapsed source).result = .ok tape ↔
      ∃ d : Layout, d.Valid limits.lexical ∧ d.chars = source ∧
        tape = Tape.ofList d.tokens (some (LineIndex.ofChars source)) := by
  rw [runOkIff]
  constructor
  · rintro ⟨ts, delivers, rfl⟩
    obtain ⟨d, valid, same, rfl⟩ := Layout.deliveredValid Rule.tableFaithful delivers
    exact ⟨d, valid, same, rfl⟩
  · rintro ⟨d, valid, rfl, rfl⟩
    exact ⟨d.tokens, Layout.validDelivered valid settings, rfl⟩

end Pass

theorem passAcceptsGrammar (limits : Limits) (settings : Settings.Lexical) (elapsed : Nat)
    (source : List Char) :
    (∀ tape, (Pass.run limits settings elapsed source).result = .ok tape ↔
      ∃ d : Layout, d.Valid limits.lexical ∧ d.chars = source ∧
        tape = Tape.ofList d.tokens (some (LineIndex.ofChars source))) ∧
    (∀ d e : Layout, d.Valid limits.lexical → e.Valid limits.lexical →
      d.chars = source → e.chars = source → d = e) ∧
    (∀ d : Layout, d.Valid limits.lexical → ∀ x ∈ d.pieces, ∃ rule ∈ Rule.table,
      rule.kind = x.token.kind ∧ rule.build limits.lexical x.text = .ok x.token) := by
  refine ⟨fun tape => Pass.runLayoutIff, ?_, fun d valid => Layout.builtByTable valid.pieces⟩
  intro d e one two same same'
  exact Layout.validUnique one two (same.trans same'.symm)

end MathTokens

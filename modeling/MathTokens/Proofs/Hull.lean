import Mathlib.Data.Prod.Lex
import Mathlib.Order.Fin.Basic
import Mathlib.Order.MinMax
import MathTokens.Proofs.LineTable

/-! Merged spans. Places have one order, and a merge keeps the earlier start and the later end, so any
number of merges in any order gives the hull of what was merged. Along a source the hull of some tokens
is the stretch from the first of them through the last. -/
namespace MathTokens

namespace Position

def key (p : Position) : Nat ×ₗ Nat ×ₗ Nat := toLex (p.offset, toLex (p.line, p.column))

theorem keyInjective : Function.Injective key := by
  rintro ⟨offset, line, column⟩ ⟨offset', line', column'⟩ same
  simpa [key] using same

instance : LinearOrder Position := LinearOrder.lift' key keyInjective

theorem ltIff {p q : Position} :
    p < q ↔ p.offset < q.offset ∨
      p.offset = q.offset ∧ (p.line < q.line ∨ p.line = q.line ∧ p.column < q.column) := by
  change p.key < q.key ↔ _
  simp only [key, Prod.Lex.toLex_lt_toLex]

theorem orderLtIff {p q : Position} : p.order q = .lt ↔ p < q := by
  simp only [order, Ordering.then_eq_lt, Nat.compare_eq_lt, Nat.compare_eq_eq, ltIff]

theorem earlierMin (p q : Position) : p.earlier q = min p q := by
  rw [earlier, min_comm, min_def_lt]
  simp only [orderLtIff]

theorem laterMax (p q : Position) : p.later q = max p q := by
  rw [later, max_comm, max_def_lt]
  simp only [orderLtIff]

theorem offsetMonotone {p q : Position} (h : p ≤ q) : p.offset ≤ q.offset := by
  rcases h.lt_or_eq with less | rfl
  · rcases ltIff.mp less with less | ⟨same, _⟩ <;> omega
  · exact Nat.le_refl _

theorem advanceOverLater (p : Position) (cs : List Char) : p ≤ p.advanceOver cs := by
  cases cs with
  | nil => exact le_refl p
  | cons c cs =>
    have positive := c.utf8Size_pos
    refine le_of_lt (ltIff.mpr (.inl ?_))
    rw [advanceOverOffset, Text.byteLengthCons]
    omega

end Position

namespace Span

theorem mergeStart (s t : Span) : (s.merge t).start = min s.start t.start :=
  Position.earlierMin ..

theorem mergeStop (s t : Span) : (s.merge t).stop = max s.stop t.stop :=
  Position.laterMax ..

theorem ext {s t : Span} (start : s.start = t.start) (stop : s.stop = t.stop) : s = t := by
  cases s
  cases t
  simp_all only

theorem mergeComm (s t : Span) : s.merge t = t.merge s := by
  refine ext ?_ ?_
  · rw [mergeStart, mergeStart, min_comm]
  · rw [mergeStop, mergeStop, max_comm]

theorem mergeAssoc (r s t : Span) : (r.merge s).merge t = r.merge (s.merge t) := by
  refine ext ?_ ?_
  · simp only [mergeStart, min_assoc]
  · simp only [mergeStop, max_assoc]

theorem mergeSelf (s : Span) : s.merge s = s := by
  refine ext ?_ ?_
  · rw [mergeStart, min_self]
  · rw [mergeStop, max_self]

theorem containsIff {s : Span} {p : Position} :
    s.contains p ↔ s.start.offset ≤ p.offset ∧ p.offset < s.stop.offset := by
  rw [contains, decide_eq_true_iff]

theorem mergeContains {s : Span} {p : Position} (h : s.contains p) (t : Span) :
    (s.merge t).contains p := by
  obtain ⟨low, high⟩ := containsIff.mp h
  have start : (s.merge t).start.offset ≤ s.start.offset :=
    Position.offsetMonotone (mergeStart s t ▸ min_le_left _ _)
  have stop : s.stop.offset ≤ (s.merge t).stop.offset :=
    Position.offsetMonotone (mergeStop s t ▸ le_max_left _ _)
  exact containsIff.mpr ⟨by omega, by omega⟩

def mergeAll : List Span → Option Span
  | [] => none
  | s :: rest => some (rest.foldl merge s)

structure Hulls (hull : Span) (ss : List Span) : Prop where
  first : ∃ s ∈ ss, s.start = hull.start
  last : ∃ s ∈ ss, s.stop = hull.stop
  covers : ∀ s ∈ ss, hull.start ≤ s.start ∧ s.stop ≤ hull.stop

theorem hullsOne (s : Span) : s.Hulls [s] := by
  refine ⟨⟨s, by simp, rfl⟩, ⟨s, by simp, rfl⟩, ?_⟩
  intro t member
  cases List.mem_singleton.mp member
  exact ⟨le_refl _, le_refl _⟩

theorem hullsMerge {s t : Span} {ss ts : List Span} (one : s.Hulls ss) (two : t.Hulls ts) :
    (s.merge t).Hulls (ss ++ ts) := by
  obtain ⟨⟨a, mine, first⟩, ⟨b, mine', last⟩, covers⟩ := one
  obtain ⟨⟨c, theirs, first'⟩, ⟨d, theirs', last'⟩, covers'⟩ := two
  constructor
  · rw [mergeStart]
    rcases min_choice s.start t.start with least | least
    · exact ⟨a, List.mem_append_left _ mine, by rw [least, first]⟩
    · exact ⟨c, List.mem_append_right _ theirs, by rw [least, first']⟩
  · rw [mergeStop]
    rcases max_choice s.stop t.stop with greatest | greatest
    · exact ⟨b, List.mem_append_left _ mine', by rw [greatest, last]⟩
    · exact ⟨d, List.mem_append_right _ theirs', by rw [greatest, last']⟩
  · intro r member
    rw [mergeStart, mergeStop]
    rcases List.mem_append.mp member with ours | others
    · obtain ⟨start, stop⟩ := covers r ours
      exact ⟨min_le_of_left_le start, le_max_of_le_left stop⟩
    · obtain ⟨start, stop⟩ := covers' r others
      exact ⟨min_le_of_right_le start, le_max_of_le_right stop⟩

theorem foldHulls {s : Span} {ss : List Span} (h : s.Hulls ss) (ts : List Span) :
    (ts.foldl merge s).Hulls (ss ++ ts) := by
  induction ts generalizing s ss with
  | nil => rwa [List.append_nil]
  | cons t ts ih =>
    rw [List.append_cons]
    exact ih (hullsMerge h (hullsOne t))

theorem hullsUnique {s t : Span} {ss : List Span} (one : s.Hulls ss) (two : t.Hulls ss) : s = t := by
  obtain ⟨⟨a, member, first⟩, ⟨b, member', last⟩, covers⟩ := one
  obtain ⟨⟨c, other, first'⟩, ⟨d, other', last'⟩, covers'⟩ := two
  refine ext (le_antisymm ?_ ?_) (le_antisymm ?_ ?_)
  · exact first' ▸ (covers c other).1
  · exact first ▸ (covers' a member).1
  · exact last ▸ (covers' b member').2
  · exact last' ▸ (covers d other').2

/- Only the order of places is left in this, nothing of the order of the merges. -/
theorem mergeAllIff {ss : List Span} {hull : Span} : mergeAll ss = some hull ↔ hull.Hulls ss := by
  cases ss with
  | nil => exact ⟨nofun, fun h => by obtain ⟨_, member, _⟩ := h.first; cases member⟩
  | cons s rest =>
    have folded : (rest.foldl merge s).Hulls (s :: rest) := foldHulls (hullsOne s) rest
    constructor
    · intro merged
      cases merged
      exact folded
    · intro h
      rw [mergeAll, hullsUnique folded h]

end Span

namespace Piece

theorem joinedAppend (xs ys : List Piece) : joined (xs ++ ys) = joined xs ++ joined ys :=
  List.flatMap_append

theorem joinedBetween {m n : Nat} (ordered : m ≤ n) (xs : List Piece) :
    joined (xs.take n) = joined (xs.take m) ++ joined ((xs.take n).drop m) := by
  rw [← joinedAppend]
  conv_lhs => rw [← List.take_append_drop m (xs.take n), List.take_take, Nat.min_eq_left ordered]

theorem joinedAt {xs : List Piece} {n : Nat} {x : Piece} (found : xs[n]? = some x) :
    joined xs = joined (xs.take n) ++ (x.text ++ (x.gap ++ joined (xs.drop (n + 1)))) := by
  obtain ⟨inside, rfl⟩ := List.getElem?_eq_some_iff.mp found
  rw [← joinedCons, ← joinedAppend, ← List.drop_eq_getElem_cons inside, List.take_append_drop]

theorem locatedAt (p : Position) (xs : List Piece) (n : Nat) :
    (located p xs)[n]? = xs[n]?.map fun x =>
      ⟨x.token, .covering (p.advanceOver (joined (xs.take n))) x.text⟩ := by
  induction xs generalizing p n with
  | nil => rfl
  | cons x xs ih =>
    cases n with
    | zero => rfl
    | succ n =>
      rw [located, List.getElem?_cons_succ, ih, List.getElem?_cons_succ, List.take_succ_cons,
        joinedCons, ← List.append_assoc, Position.advanceOverAppend, chars]

theorem locatedBehind {p : Position} {xs : List Piece} {t : LocatedToken} (h : t ∈ located p xs) :
    p ≤ t.span.start ∧ t.span.start ≤ t.span.stop := by
  induction xs generalizing p with
  | nil => cases h
  | cons x xs ih =>
    rcases List.mem_cons.mp h with rfl | later
    · exact ⟨le_refl p, p.advanceOverLater x.text⟩
    · obtain ⟨behind, forward⟩ := ih later
      exact ⟨le_trans (p.advanceOverLater x.chars) behind, forward⟩

theorem locatedOrdered (p : Position) (xs : List Piece) :
    (located p xs).Pairwise fun a b =>
      a.span.start ≤ b.span.start ∧ a.span.stop ≤ b.span.stop := by
  induction xs generalizing p with
  | nil => exact .nil
  | cons x xs ih =>
    refine .cons (fun t later => ?_) (ih _)
    obtain ⟨behind, forward⟩ := locatedBehind later
    have text : p.advanceOver x.text ≤ p.advanceOver x.chars := by
      rw [chars, Position.advanceOverAppend]
      exact Position.advanceOverLater _ _
    exact ⟨le_trans (p.advanceOverLater x.chars) behind, le_trans text (le_trans behind forward)⟩

end Piece

namespace Layout

def through (d : Layout) (first last : Nat) : List Char :=
  Piece.joined ((d.pieces.take last).drop first) ++ (d.pieces[last]?.map Piece.text).getD []

theorem tokensFollow (d : Layout) {m n : Nat} {a b : LocatedToken} (ordered : m ≤ n)
    (one : d.tokens[m]? = some a) (two : d.tokens[n]? = some b) :
    a.span.start ≤ b.span.start ∧ a.span.stop ≤ b.span.stop := by
  obtain ⟨inside, rfl⟩ := List.getElem?_eq_some_iff.mp one
  obtain ⟨inside', rfl⟩ := List.getElem?_eq_some_iff.mp two
  rcases Nat.lt_or_eq_of_le ordered with less | rfl
  · exact List.pairwise_iff_getElem.mp (Piece.locatedOrdered _ d.pieces) m n inside inside' less
  · exact ⟨le_refl _, le_refl _⟩

theorem throughSliced (d : Layout) {first last : Nat} {a b : LocatedToken} (ordered : first ≤ last)
    (one : d.tokens[first]? = some a) (two : d.tokens[last]? = some b) :
    Span.slice? ⟨a.span.start, b.span.stop⟩ d.chars = some (d.through first last) := by
  rw [tokens, Piece.locatedAt, Option.map_eq_some_iff] at one two
  obtain ⟨x, _, rfl⟩ := one
  obtain ⟨z, found, rfl⟩ := two
  -- Both ends are told by the text before them: `front`, and `front` with the stretch itself.
  generalize above : d.lead ++ Piece.joined (d.pieces.take first) = front
  have upper : d.lead ++ Piece.joined (d.pieces.take last) =
      front ++ Piece.joined ((d.pieces.take last).drop first) := by
    rw [Piece.joinedBetween ordered, ← above, List.append_assoc]
  have text : d.through first last = Piece.joined ((d.pieces.take last).drop first) ++ z.text := by
    rw [through, found, Option.map_some, Option.getD_some]
  have reach : (d.lead ++ Piece.joined (d.pieces.take last)) ++ z.text =
      front ++ d.through first last := by
    rw [upper, text, List.append_assoc]
  have whole : d.chars = front ++ (d.through first last ++
      (z.gap ++ Piece.joined (d.pieces.drop (last + 1)))) := by
    rw [chars, Piece.joinedAt found, ← List.append_assoc front, ← reach]
    simp only [List.append_assoc]
  have begins : ((Position.start.advanceOver d.lead).advanceOver
      (Piece.joined (d.pieces.take first))).offset = Text.byteLength front := by
    rw [← Position.advanceOverAppend, above, Position.startOffset]
  have ends : (((Position.start.advanceOver d.lead).advanceOver
      (Piece.joined (d.pieces.take last))).advanceOver z.text).offset =
        Text.byteLength (front ++ d.through first last) := by
    rw [← Position.advanceOverAppend Position.start, ← Position.advanceOverAppend, reach,
      Position.startOffset]
  simp only [Span.slice?, Span.covering, begins, ends]
  rw [whole, Text.sliceAppend]

end Layout

section

variable {tape : Tape} {d : Layout} (read : tape.tokens.toList = d.tokens)
include read

theorem tokenAt (n : Fin tape.tokens.size) : d.tokens[n.val]? = some tape.tokens[n] := by
  simp [← read]

theorem picksHull {picks : List (Fin tape.tokens.size)} {first last : Fin tape.tokens.size}
    (least : first ∈ picks) (greatest : last ∈ picks)
    (between : ∀ n ∈ picks, first ≤ n ∧ n ≤ last) :
    (Span.mk tape.tokens[first].span.start tape.tokens[last].span.stop).Hulls
      (picks.map fun n => tape.tokens[n].span) := by
  refine ⟨⟨_, List.mem_map_of_mem least, rfl⟩, ⟨_, List.mem_map_of_mem greatest, rfl⟩, ?_⟩
  intro s member
  obtain ⟨n, picked, rfl⟩ := List.mem_map.mp member
  obtain ⟨low, high⟩ := between n picked
  have behind := d.tokensFollow low (tokenAt read first) (tokenAt read n)
  have ahead := d.tokensFollow high (tokenAt read n) (tokenAt read last)
  exact ⟨behind.1, ahead.2⟩

end

theorem mergesGiveHull :
    (∀ s t : Span, s.merge t = t.merge s) ∧
    (∀ r s t : Span, (r.merge s).merge t = r.merge (s.merge t)) ∧
    (∀ s : Span, s.merge s = s) ∧
    (∀ (s t : Span) (p : Position), s.contains p ∨ t.contains p → (s.merge t).contains p) ∧
    ∀ limits settings elapsed source tape,
      (Pass.run limits settings elapsed source).result = .ok tape →
        ∃ d : Layout, d.Valid limits.lexical ∧ d.chars = source ∧ tape.tokens.toList = d.tokens ∧
          ∀ picks : List (Fin tape.tokens.size), picks ≠ [] →
            ∃ first ∈ picks, ∃ last ∈ picks, (∀ n ∈ picks, first ≤ n ∧ n ≤ last) ∧
              let hull := Span.mk tape.tokens[first].span.start tape.tokens[last].span.stop
              Span.mergeAll (picks.map fun n => tape.tokens[n].span) = some hull ∧
                hull.slice? source = some (d.through first last) := by
  refine ⟨Span.mergeComm, Span.mergeAssoc, Span.mergeSelf, ?_, ?_⟩
  · rintro s t p (ours | theirs)
    · exact Span.mergeContains ours t
    · rw [Span.mergeComm]
      exact Span.mergeContains theirs s
  · intro limits settings elapsed source tape read
    obtain ⟨d, valid, rfl, rfl⟩ := Pass.runLayoutIff.mp read
    refine ⟨d, valid, rfl, rfl, fun picks nonempty => ?_⟩
    have least := List.min_mem nonempty
    have greatest := List.max_mem nonempty
    have between (n) (member : n ∈ picks) : picks.min nonempty ≤ n ∧ n ≤ picks.max nonempty :=
      ⟨List.min_le_of_mem member, List.le_max_of_mem member⟩
    have ordered := (between _ greatest).1
    refine ⟨_, least, _, greatest, between, ?_, ?_⟩
    · exact Span.mergeAllIff.mpr (picksHull rfl least greatest between)
    · exact d.throughSliced ordered (tokenAt rfl _) (tokenAt rfl _)

theorem repeatedPicksMerged :
    let source := "π a\r\n= b ;c".toList
    let tape := Tape.ofList [⟨.symbol 'π', ⟨⟨0, 1, 1⟩, ⟨2, 1, 2⟩⟩⟩,
      ⟨.name "a", ⟨⟨3, 1, 3⟩, ⟨4, 1, 4⟩⟩⟩, ⟨.symbol '=', ⟨⟨6, 2, 1⟩, ⟨7, 2, 2⟩⟩⟩,
      ⟨.name "b", ⟨⟨8, 2, 3⟩, ⟨9, 2, 4⟩⟩⟩, ⟨.symbol ';', ⟨⟨10, 2, 5⟩, ⟨11, 2, 6⟩⟩⟩,
      ⟨.name "c", ⟨⟨11, 2, 6⟩, ⟨12, 2, 7⟩⟩⟩] (some (LineIndex.ofChars source))
    let picks : List (Fin 6) := [3, 1, 3]
    (Pass.run .production (.ofEnvironment []) 0 source).result = .ok tape ∧ picks ≠ [] ∧
      ∃ d : Layout, d.chars = source ∧
        Span.mergeAll (picks.map fun n => tape.tokens[n].span) = some ⟨⟨3, 1, 3⟩, ⟨9, 2, 4⟩⟩ ∧
        d.through 1 3 = "a\r\n= b".toList := by
  intro source tape picks
  have scanned : (Scanner.start .production (.ofEnvironment []) source).drain.answer =
      .ok tape.tokens.toList := by decide +kernel
  have read : (Pass.run .production (.ofEnvironment []) 0 source).result = .ok tape :=
    Pass.runOkIff.mpr ⟨_, Scanner.drainOkIff.mp scanned, rfl⟩
  have nonempty : picks ≠ [] := List.cons_ne_nil _ _
  obtain ⟨_, _, _, _, hulls⟩ := mergesGiveHull
  obtain ⟨d, _, same, _, hulls⟩ := hulls _ _ _ _ _ read
  obtain ⟨first, least, last, greatest, between, merged, text⟩ := hulls picks nonempty
  have range : ∀ n ∈ picks, (1 : Fin 6) ≤ n ∧ n ≤ 3 := by decide
  have one : (1 : Fin 6) ∈ picks := by decide
  have three : (3 : Fin 6) ∈ picks := by decide
  obtain rfl : first = (1 : Fin 6) :=
    le_antisymm (between _ one).1 (range first least).1
  obtain rfl : last = (3 : Fin 6) :=
    le_antisymm (range last greatest).2 (between _ three).2
  have cut : Span.slice? ⟨⟨3, 1, 3⟩, ⟨9, 2, 4⟩⟩ source = some "a\r\n= b".toList := by decide +kernel
  exact ⟨read, nonempty, d, same, merged, Option.some.inj (text.symm.trans cut)⟩

end MathTokens

import MathTokens.Tape.Walk

/-! A tape is a list with an index. Whatever a parser does with it, the tokens stay, the head stays
within them, and every answer is the one that the list of the tokens still to be read would give. -/
namespace MathTokens

theorem Token.isSymbolIff (t : Token) (c : Char) : t.isSymbol c ↔ t = .symbol c := by
  cases t <;> simp [Token.isSymbol, Token.asSymbol?]

namespace Tape

def Move.onList (ts left : List LocatedToken) : Move → Answer × List LocatedToken
  | .current => (.located left.head?, left)
  | .peek => (.located left[1]?, left)
  | .peekAhead n => (.located left[n]?, left)
  | .advance => (.located left.tail.head?, left.tail)
  | .checkpoint => (.checkpoint ⟨ts.length - left.length⟩, left)
  | .restore c => (.done, ts.drop c.position)
  | .hasKind kind => (.decided (left.head?.any (·.value.kind == kind)), left)
  | .consumeIf p => match left with
    | [] => (.located none, [])
    | found :: rest =>
      if p found.value then (.located (some found), rest) else (.located none, found :: rest)
  | .consumeSymbol c => match left with
    | [] => (.decided false, [])
    | found :: rest =>
      if found.value = .symbol c then (.decided true, rest) else (.decided false, found :: rest)
  | .expectKind kind => match left with
    | [] => (.expected (.error (.ended kind)), [])
    | found :: rest =>
      if found.value.kind = kind then (.expected (.ok found), rest)
      else (.expected (.error (.unexpected kind found.value.text found.span)), found :: rest)
  | .read => (.token (left.head?.map Located.value), left.tail)

def Move.allOnList (ts left : List LocatedToken) : List Move → List Answer × List LocatedToken
  | [] => ([], left)
  | m :: moves =>
    let first := m.onList ts left
    let later := allOnList ts first.2 moves
    (first.1 :: later.1, later.2)

structure Shows (t : Tape) (left : List LocatedToken) : Prop where
  remaining : t.remaining = left
  count : t.remainingCount = left.length
  current : t.current? = left.head?
  ahead : ∀ n, t.peek? n = left[n]?
  atEnd : t.isAtEnd ↔ left = []

theorem showsRemaining (t : Tape) : t.Shows t.remaining where
  remaining := rfl
  count := by simp [remainingCount, remaining]
  current := by simp [current?, peek?, remaining]
  ahead n := by simp [peek?, remaining]
  atEnd := by simp [isAtEnd, remaining]

inductive Consumes (t : Tape) (wanted : Token → Prop) : Option LocatedToken → Tape → Prop where
  | taken {found after} (current : t.current? = some found) (fits : wanted found.value)
      (tokens : after.tokens = t.tokens) (index : after.index = t.index)
      (next : after.position = t.position + 1) : Consumes t wanted (some found) after
  | kept (refused : ∀ found ∈ t.current?, ¬wanted found.value) : Consumes t wanted none t

theorem currentInside {t : Tape} {found : LocatedToken} (h : t.current? = some found) :
    t.position < t.tokens.size := by
  obtain ⟨inside, _⟩ := Array.getElem?_eq_some_iff.mp h
  exact inside

theorem advanceNext {t : Tape} (inside : t.position < t.tokens.size) :
    t.advance.position = t.position + 1 := Nat.min_eq_left inside

theorem advanceEnded {t : Tape} (ended : t.current? = none) : t.advance = t := by
  have past : t.tokens.size ≤ t.position := Array.getElem?_eq_none_iff.mp ended
  have here : min (t.position + 1) t.tokens.size = t.position := by
    have inside := t.positionInside
    omega
  simp only [advance, moveTo, here]

theorem consumeIfConsumes (t : Tape) (p : Token → Bool) :
    t.Consumes (fun token => p token) (t.consumeIf p).1 (t.consumeIf p).2 := by
  unfold consumeIf
  split
  · next found current =>
    split
    · next fits => exact .taken current fits rfl rfl (advanceNext (currentInside current))
    · next other => exact .kept (by simpa [current] using other)
  · next ended => exact .kept (by simp [ended])

theorem expectKindConsumes (t : Tape) (kind : Kind) :
    t.Consumes (·.kind = kind) (t.expectKind kind).1.toOption (t.expectKind kind).2 := by
  unfold expectKind
  split
  · next ended => exact .kept (by simp [ended])
  · next found current =>
    split
    · next fits => exact .taken current fits rfl rfl (advanceNext (currentInside current))
    · next other => exact .kept (by simpa [current] using other)

/-! Each move on a tape is the same move on the list of the tokens that remain. -/

theorem remainingMoveTo (t : Tape) (n : Nat) : (t.moveTo n).remaining = t.tokens.toList.drop n := by
  change t.tokens.toList.drop (min n t.tokens.size) = _
  rcases Nat.le_total n t.tokens.size with inside | past
  · rw [Nat.min_eq_left inside]
  · rw [Nat.min_eq_right past, List.drop_of_length_le (by simp), List.drop_of_length_le (by simpa)]

theorem remainingAdvance (t : Tape) : t.advance.remaining = t.remaining.tail := by
  rw [advance, remainingMoveTo, remaining, List.tail_drop]

theorem performOnList (t : Tape) (m : Move) :
    m.onList t.tokens.toList t.remaining = ((t.perform m).1, (t.perform m).2.remaining) := by
  have shows := showsRemaining t
  cases m with
  | current => rw [Move.onList, perform, shows.current]
  | peek => rw [Move.onList, perform, shows.ahead]
  | peekAhead n => rw [Move.onList, perform, shows.ahead]
  | advance =>
    rw [Move.onList, perform, (showsRemaining t.advance).current, remainingAdvance]
  | checkpoint =>
    have read : t.tokens.toList.length - t.remaining.length = t.position := by
      have inside := t.positionInside
      simp only [remaining, List.length_drop, Array.length_toList]
      omega
    rw [Move.onList, perform, checkpoint, read]
  | restore c => rw [Move.onList, perform, restore, remainingMoveTo]
  | hasKind kind => rw [Move.onList, perform, hasKind, shows.current]
  | consumeIf p =>
    rw [perform, consumeIf, shows.current]
    cases left : t.remaining with
    | nil => simp [Move.onList, left]
    | cons found rest =>
      by_cases fits : p found.value
      · simp [Move.onList, fits, remainingAdvance, left]
      · simp [Move.onList, fits, left]
  | consumeSymbol c =>
    rw [perform, consumeSymbol, consumeIf, shows.current]
    cases left : t.remaining with
    | nil => simp [Move.onList, left]
    | cons found rest =>
      by_cases same : found.value = .symbol c
      · simp [Move.onList, same, Token.isSymbolIff, remainingAdvance, left]
      · simp [Move.onList, same, Token.isSymbolIff, left]
  | expectKind kind =>
    rw [perform, expectKind, shows.current]
    cases left : t.remaining with
    | nil => simp [Move.onList, left]
    | cons found rest =>
      by_cases fits : found.value.kind = kind
      · simp [Move.onList, fits, remainingAdvance, left]
      · simp [Move.onList, fits, left]
  | read => simp [Move.onList, perform, nextToken, shows.current, remainingAdvance]

theorem performKeeps (t : Tape) (m : Move) :
    (t.perform m).2.tokens = t.tokens ∧ (t.perform m).2.index = t.index := by
  have kept {wanted : Token → Prop} {found : Option LocatedToken} {after : Tape}
      (consumes : t.Consumes wanted found after) :
      after.tokens = t.tokens ∧ after.index = t.index := by
    cases consumes with
    | taken _ _ tokens index => exact ⟨tokens, index⟩
    | kept => exact ⟨rfl, rfl⟩
  cases m with
  | consumeIf p => exact kept (consumeIfConsumes t p)
  | consumeSymbol c => exact kept (consumeIfConsumes t (·.isSymbol c))
  | expectKind kind => exact kept (expectKindConsumes t kind)
  | current | peek | peekAhead | advance | checkpoint | restore | hasKind | read =>
    exact ⟨rfl, rfl⟩

theorem performsKeep (t : Tape) (moves : List Move) :
    (t.performs moves).2.tokens = t.tokens ∧ (t.performs moves).2.index = t.index := by
  induction moves generalizing t with
  | nil => exact ⟨rfl, rfl⟩
  | cons m moves ih =>
    obtain ⟨tokens, index⟩ := performKeeps t m
    obtain ⟨tokens', index'⟩ := ih (t.perform m).2
    exact ⟨tokens'.trans tokens, index'.trans index⟩

theorem performsOnList (t : Tape) (moves : List Move) :
    Move.allOnList t.tokens.toList t.remaining moves =
      ((t.performs moves).1, (t.performs moves).2.remaining) := by
  induction moves generalizing t with
  | nil => rfl
  | cons m moves ih =>
    have later := ih (t.perform m).2
    rw [(performKeeps t m).1] at later
    simp only [Move.allOnList, performs, performOnList, later]

theorem restoreCheckpoint {t after : Tape} (tokens : after.tokens = t.tokens)
    (index : after.index = t.index) : after.restore t.checkpoint = t := by
  obtain ⟨_, _, _, inside⟩ := t
  obtain ⟨_, _, _, _⟩ := after
  subst tokens index
  simp only [restore, checkpoint, moveTo, Nat.min_eq_left inside]

end Tape

theorem tapeRefinesList (ts : List LocatedToken) (index : Option LineIndex)
    (moves : List Tape.Move) :
    let walk := (Tape.ofList ts index).performs moves
    let t := walk.2
    t.tokens.toList = ts ∧ t.index = index ∧ t.position ≤ ts.length ∧
      t.Shows (ts.drop t.position) ∧
      Tape.Move.allOnList ts ts moves = (walk.1, ts.drop t.position) ∧
      (∀ p, t.Consumes (fun token => p token) (t.consumeIf p).1 (t.consumeIf p).2) ∧
      (∀ c, ∃ found, t.Consumes (· = .symbol c) found (t.consumeSymbol c).2 ∧
        (t.consumeSymbol c).1 = found.isSome) ∧
      (∀ kind, t.Consumes (·.kind = kind) (t.expectKind kind).1.toOption (t.expectKind kind).2) ∧
      ∀ between later,
        ((t.performs between).2.restore t.checkpoint).performs later = t.performs later := by
  intro walk t
  obtain ⟨same, kept⟩ : t.tokens = ts.toArray ∧ t.index = index :=
    Tape.performsKeep (Tape.ofList ts index) moves
  have tokens : t.tokens.toList = ts := by rw [same]
  have remaining : t.remaining = ts.drop t.position := by rw [Tape.remaining, tokens]
  refine ⟨tokens, kept, ?_, remaining ▸ Tape.showsRemaining t, ?_, Tape.consumeIfConsumes t, ?_,
    Tape.expectKindConsumes t, ?_⟩
  · simpa [same] using t.positionInside
  · exact remaining ▸ Tape.performsOnList (Tape.ofList ts index) moves
  · intro c
    refine ⟨(t.consumeIf (·.isSymbol c)).1, ?_, rfl⟩
    simpa only [Token.isSymbolIff, Tape.consumeSymbol] using Tape.consumeIfConsumes t (·.isSymbol c)
  · intro between later
    obtain ⟨tokens', index'⟩ := Tape.performsKeep t between
    rw [Tape.restoreCheckpoint tokens' index']

end MathTokens

import MathTokens.Scanner.Pass

/-! What a scanner delivers if it is called again and again: some tokens, and then the end or a
failure. Every scanner delivers exactly one such sequence, and a pass is that sequence collected. -/
namespace MathTokens

namespace Lexing

theorem firstMatchHit {rule : Rule} {input text rest : List Char}
    (h : rule.split? input = some (text, rest)) (rules : List Rule) :
    firstMatch? (rule :: rules) input = some (rule, text, rest) := by
  simp [firstMatch?, h]

theorem firstMatchMiss {rule : Rule} {input : List Char} (h : rule.split? input = none)
    (rules : List Rule) : firstMatch? (rule :: rules) input = firstMatch? rules input := by
  simp [firstMatch?, h]

theorem firstMatchSource {rules : List Rule} {input text rest : List Char} {rule : Rule}
    (h : firstMatch? rules input = some (rule, text, rest)) :
    rule ∈ rules ∧ rule.split? input = some (text, rest) := by
  obtain ⟨found, member, hit⟩ := List.exists_of_findSome?_eq_some h
  obtain ⟨⟨front, back⟩, cut, same⟩ := Option.map_eq_some_iff.mp hit
  cases same
  exact ⟨member, cut⟩

theorem firstMatchWhole {rules : List Rule} {input text rest : List Char} {rule : Rule}
    (h : firstMatch? rules input = some (rule, text, rest)) : input = text ++ rest ∧ text ≠ [] :=
  rule.splitWhole (firstMatchSource h).2

def unlimitedStep (rules : List Rule) (limits : Limits.Lexical) (p : Position) :
    List Char → Except LexError (Option Lexeme)
  | [] => .ok none
  | first :: others =>
    match firstMatch? rules (first :: others) with
    | some (rule, text, after) => (accept limits p rule text after).map some
    | none => .error (unmatched p first (first :: others))

theorem stepWithin {limits : Limits.Lexical} {emitted : Nat} (room : emitted < limits.tokenCount)
    (rules : List Rule) (p : Position) (input : List Char) :
    step rules limits emitted p input = unlimitedStep rules limits p input := by
  cases input with
  | nil => rfl
  | cons first others => exact if_neg (Nat.not_le.mpr room)

theorem stepFull {limits : Limits.Lexical} {emitted : Nat} (full : limits.tokenCount ≤ emitted)
    (rules : List Rule) (p : Position) (first : Char) (others : List Char) :
    step rules limits emitted p (first :: others) =
      .error (.tooManyTokens limits.tokenCount ⟨p, p⟩) :=
  if_pos full

theorem unlimitedTokenIff {rules : List Rule} {limits : Limits.Lexical} {p : Position}
    {input : List Char} {lexeme : Lexeme} :
    unlimitedStep rules limits p input = .ok (some lexeme) ↔
      ∃ rule text after token,
        firstMatch? rules input = some (rule, text, after) ∧ rule.build limits text = .ok token ∧
        lexeme = ⟨⟨token, .covering p text⟩, text,
          p.advanceOver (text ++ after.takeWhile isSeparator), after.dropWhile isSeparator⟩ := by
  cases input with
  | nil =>
    simp only [unlimitedStep, Except.ok.injEq, reduceCtorEq, false_iff, not_exists]
    intro rule text after token found
    have whole := firstMatchWhole found.1
    exact absurd (List.append_eq_nil_iff.mp whole.1.symm).1 whole.2
  | cons first others =>
    rw [unlimitedStep]
    cases found : firstMatch? rules (first :: others) with
    | none => simp
    | some hit =>
      obtain ⟨rule, text, after⟩ := hit
      simp only [accept]
      cases built : rule.build limits text with
      | error defect => simp [Except.map, built]
      | ok token =>
        simp only [Except.map, Except.ok.injEq, Option.some.injEq, Prod.mk.injEq]
        constructor
        · rintro rfl
          refine ⟨rule, text, after, token, ⟨rfl, rfl, rfl⟩, built, ?_⟩
          simp [Span.covering, Position.advanceOverAppend]
        · rintro ⟨rule', text', after', token', ⟨rfl, rfl, rfl⟩, built', rfl⟩
          cases built.symm.trans built'
          simp [Span.covering, Position.advanceOverAppend]

/- All that a step with a token does. It takes the lexeme of the first rule that accepts the input,
builds its token, and goes on behind the separators that follow. -/
theorem stepTokenIff {rules : List Rule} {limits : Limits.Lexical} {emitted : Nat} {p : Position}
    {input : List Char} {lexeme : Lexeme} :
    step rules limits emitted p input = .ok (some lexeme) ↔
      emitted < limits.tokenCount ∧ ∃ rule text after token,
        firstMatch? rules input = some (rule, text, after) ∧ rule.build limits text = .ok token ∧
        lexeme = ⟨⟨token, .covering p text⟩, text,
          p.advanceOver (text ++ after.takeWhile isSeparator), after.dropWhile isSeparator⟩ := by
  rw [← unlimitedTokenIff]
  by_cases room : emitted < limits.tokenCount
  · rw [stepWithin room, and_iff_right room]
  · refine iff_of_false ?_ fun given => room given.1
    cases input with
    | nil => exact nofun
    | cons first others =>
      rw [stepFull (Nat.le_of_not_lt room)]
      exact nofun

theorem unlimitedEndIff {rules : List Rule} {limits : Limits.Lexical} {p : Position}
    {input : List Char} : unlimitedStep rules limits p input = .ok none ↔ input = [] := by
  cases input with
  | nil => simp [unlimitedStep]
  | cons first others =>
    simp only [reduceCtorEq, iff_false]
    rw [unlimitedStep]
    split
    · cases accept limits p _ _ _ <;> simp [Except.map]
    · simp

theorem stepEndIff {rules : List Rule} {limits : Limits.Lexical} {emitted : Nat} {p : Position}
    {input : List Char} : step rules limits emitted p input = .ok none ↔ input = [] := by
  by_cases room : emitted < limits.tokenCount
  · rw [stepWithin room, unlimitedEndIff]
  · cases input with
    | nil => simp [step]
    | cons first others => simp [stepFull (Nat.le_of_not_lt room)]

theorem unlimitedShorter {rules : List Rule} {limits : Limits.Lexical} {p : Position}
    {input : List Char} {lexeme : Lexeme}
    (h : unlimitedStep rules limits p input = .ok (some lexeme)) :
    lexeme.rest.length < input.length := by
  obtain ⟨rule, text, after, token, found, _, rfl⟩ := unlimitedTokenIff.mp h
  obtain ⟨rfl, nonempty⟩ := firstMatchWhole found
  have front : 0 < text.length := List.length_pos_iff.mpr nonempty
  have back := (List.dropWhile_sublist isSeparator (l := after)).length_le
  simp only [List.length_append]
  omega

theorem stepShorter {rules : List Rule} {limits : Limits.Lexical} {emitted : Nat} {p : Position}
    {input : List Char} {lexeme : Lexeme}
    (h : step rules limits emitted p input = .ok (some lexeme)) :
    lexeme.rest.length < input.length :=
  unlimitedShorter (unlimitedTokenIff.mpr (stepTokenIff.mp h).2)

inductive Fails (rules : List Rule) (limits : Limits.Lexical) (emitted : Nat) (p : Position) :
    List Char → LexError → Prop where
  | full {first others} (room : limits.tokenCount ≤ emitted) :
      Fails rules limits emitted p (first :: others) (.tooManyTokens limits.tokenCount ⟨p, p⟩)
  | refused {input rule text after defect}
      (found : firstMatch? rules input = some (rule, text, after))
      (built : rule.build limits text = .error defect) :
      Fails rules limits emitted p input
        (.construction rule.kind (excerpt text) (.covering p text) defect)
  | unclosed {others} (missed : firstMatch? rules ('"' :: others) = none) :
      Fails rules limits emitted p ('"' :: others) (.unterminatedString
        (.covering p (Text.trimEnd (· == '\r') (('"' :: others).takeWhile (· != '\n')))))
  | unbalanced {input word after} (missed : firstMatch? rules input = none)
      (cut : splitWord? input = some (word, after)) :
      Fails rules limits emitted p input (.unbalancedQuotes (excerpt word) (.covering p word))
  | stray {first others} (missed : firstMatch? rules (first :: others) = none)
      (cut : splitWord? (first :: others) = none) :
      Fails rules limits emitted p (first :: others)
        (.unexpectedCharacter first (.covering p [first]))

theorem unmatchedFails {rules : List Rule} {first : Char} {others : List Char}
    (missed : firstMatch? rules (first :: others) = none) (limits : Limits.Lexical) (emitted : Nat)
    (p : Position) :
    Fails rules limits emitted p (first :: others) (unmatched p first (first :: others)) := by
  unfold unmatched
  split
  · next quote =>
    subst quote
    exact .unclosed missed
  · split
    · next word after cut => exact .unbalanced missed cut
    · next cut => exact .stray missed cut

theorem stepFails {rules : List Rule} {limits : Limits.Lexical} {emitted : Nat} {p : Position}
    {input : List Char} {e : LexError} (h : step rules limits emitted p input = .error e) :
    Fails rules limits emitted p input e := by
  cases input with
  | nil => cases h
  | cons first others =>
    rw [step] at h
    split at h
    · next room =>
      cases h
      exact .full room
    · split at h
      · next rule text after found =>
        simp only [accept] at h
        split at h
        · next defect built =>
          cases h
          exact .refused found built
        · cases h
      · next missed =>
        cases h
        exact unmatchedFails missed limits emitted p

theorem unclosedFront (others : List Char) : ∃ after,
    '"' :: others =
      Text.trimEnd (· == '\r') (('"' :: others).takeWhile (· != '\n')) ++ after := by
  obtain ⟨tail, line⟩ := Text.trimEndAppend (· == '\r') (('"' :: others).takeWhile (· != '\n'))
  refine ⟨tail ++ ('"' :: others).dropWhile (· != '\n'), ?_⟩
  rw [← List.append_assoc, ← line, List.takeWhile_append_dropWhile]

theorem failureCovers {rules : List Rule} {limits : Limits.Lexical} {emitted : Nat} {p : Position}
    {input : List Char} {e : LexError} (h : step rules limits emitted p input = .error e) :
    ∃ text after, input = text ++ after ∧ e.span = .covering p text := by
  cases stepFails h with
  | full => exact ⟨[], _, rfl, rfl⟩
  | @refused _ _ text after _ found => exact ⟨text, after, (firstMatchWhole found).1, rfl⟩
  | @unclosed others =>
    obtain ⟨after, front⟩ := unclosedFront others
    exact ⟨_, after, front, rfl⟩
  | @unbalanced _ word after _ cut => exact ⟨word, after, (splitWordWhole cut).1, rfl⟩
  | @stray first others => exact ⟨[first], others, rfl, rfl⟩

end Lexing

namespace Scanner

theorem nextEndedIff {s : Scanner} : s.next.answer = .ok none ↔ s.rest = [] := by
  have ended : Lexing.step s.rules s.limits.lexical s.emitted s.position s.rest = .ok none ↔ _ :=
    Lexing.stepEndIff
  rw [← ended, next]
  split <;> simp [*]

theorem nextTokenIff {s : Scanner} {t : LocatedToken} :
    s.next.answer = .ok (some t) ↔ ∃ lexeme,
      Lexing.step s.rules s.limits.lexical s.emitted s.position s.rest = .ok (some lexeme) ∧
      t = lexeme.token := by
  rw [next]
  split <;> simp [*, eq_comm]

theorem nextFailedIff {s : Scanner} {e : LexError} :
    s.next.answer = .error e ↔
      Lexing.step s.rules s.limits.lexical s.emitted s.position s.rest = .error e := by
  rw [next]
  split <;> simp [*]

theorem nextScanner {s : Scanner} {lexeme : Lexing.Lexeme}
    (h : Lexing.step s.rules s.limits.lexical s.emitted s.position s.rest = .ok (some lexeme)) :
    s.next.scanner = s.take lexeme := by
  rw [next, h]

theorem nextCounts {s : Scanner} {t : LocatedToken} (h : s.next.answer = .ok (some t)) :
    s.next.scanner.emitted = s.emitted + 1 := by
  obtain ⟨lexeme, stepped, _⟩ := nextTokenIff.mp h
  rw [nextScanner stepped, take]

inductive Delivers : Scanner → List LocatedToken → Option LexError → Prop where
  | ended {s} (answer : s.next.answer = .ok none) : Delivers s [] none
  | failed {s e} (answer : s.next.answer = .error e) : Delivers s [] (some e)
  | token {s t ts failure} (answer : s.next.answer = .ok (some t))
      (later : Delivers s.next.scanner ts failure) : Delivers s (t :: ts) failure

theorem nextShorter {s : Scanner} {t : LocatedToken} (h : s.next.answer = .ok (some t)) :
    s.next.scanner.rest.length < s.rest.length := by
  obtain ⟨lexeme, stepped, _⟩ := nextTokenIff.mp h
  rw [nextScanner stepped]
  exact Lexing.stepShorter stepped

theorem deliversExists (s : Scanner) : ∃ ts failure, s.Delivers ts failure := by
  cases answer : s.next.answer with
  | error e => exact ⟨[], some e, .failed answer⟩
  | ok found =>
    cases found with
    | none => exact ⟨[], none, .ended answer⟩
    | some t =>
      have shorter := nextShorter answer
      obtain ⟨ts, failure, later⟩ := deliversExists s.next.scanner
      exact ⟨t :: ts, failure, .token answer later⟩
termination_by s.rest.length

theorem deliversUnique {s : Scanner} {ts us : List LocatedToken} {failure other : Option LexError}
    (one : s.Delivers ts failure) (two : s.Delivers us other) : ts = us ∧ failure = other := by
  induction one generalizing us other with
  | ended answer =>
    cases two with
    | ended => exact ⟨rfl, rfl⟩
    | failed answer' => cases answer.symm.trans answer'
    | token answer' => cases answer.symm.trans answer'
  | failed answer =>
    cases two with
    | ended answer' => cases answer.symm.trans answer'
    | failed answer' => cases answer.symm.trans answer'; exact ⟨rfl, rfl⟩
    | token answer' => cases answer.symm.trans answer'
  | token answer later ih =>
    cases two with
    | ended answer' => cases answer.symm.trans answer'
    | failed answer' => cases answer.symm.trans answer'
    | token answer' later' =>
      cases answer.symm.trans answer'
      obtain ⟨rfl, rfl⟩ := ih later'
      exact ⟨rfl, rfl⟩

theorem deliversLength {s : Scanner} {ts : List LocatedToken} {failure : Option LexError}
    (h : s.Delivers ts failure) : ts.length ≤ s.rest.length := by
  induction h with
  | ended => simp
  | failed => simp
  | token answer later ih =>
    have shorter := nextShorter answer
    simp only [List.length_cons]
    omega

/-! Collecting: the loop of a pass is given more calls than there can be tokens. -/

def settled (ts : List LocatedToken) : Option LexError → Except LexError (List LocatedToken)
  | none => .ok ts
  | some e => .error e

theorem gatherDelivers {s : Scanner} {ts : List LocatedToken} {failure : Option LexError}
    (h : s.Delivers ts failure) {fuel : Nat} (enough : ts.length < fuel) (g : Gathered) :
    (s.gather fuel g).answer = settled (g.tokens.reverse ++ ts) failure := by
  induction h generalizing fuel g with
  | ended answer =>
    obtain ⟨fuel, rfl⟩ := Nat.exists_eq_succ_of_ne_zero (Nat.ne_of_gt enough)
    simp [gather, answer, settled, Gathered.addEvents]
  | failed answer =>
    obtain ⟨fuel, rfl⟩ := Nat.exists_eq_succ_of_ne_zero (Nat.ne_of_gt enough)
    simp [gather, answer, settled]
  | token answer later ih =>
    cases fuel with
    | zero => cases enough
    | succ fuel =>
      rw [List.length_cons, Nat.succ_lt_succ_iff] at enough
      simp only [gather, answer]
      rw [ih enough]
      simp [Gathered.addToken, Gathered.addEvents]

theorem drainDelivers {s : Scanner} {ts : List LocatedToken} {failure : Option LexError}
    (h : s.Delivers ts failure) : s.drain.answer = settled ts failure := by
  have enough : ts.length < s.rest.length + 1 := Nat.lt_succ_of_le (deliversLength h)
  simpa [drain, Gathered.none] using gatherDelivers h enough .none

theorem drainOkIff {s : Scanner} {ts : List LocatedToken} :
    s.drain.answer = .ok ts ↔ s.Delivers ts none := by
  constructor
  · intro h
    obtain ⟨us, failure, delivers⟩ := deliversExists s
    rw [drainDelivers delivers] at h
    cases failure with
    | none => cases h; exact delivers
    | some e => cases h
  · exact drainDelivers

theorem drainFailedIff {s : Scanner} {e : LexError} :
    s.drain.answer = .error e ↔ ∃ ts, s.Delivers ts (some e) := by
  constructor
  · intro h
    obtain ⟨us, failure, delivers⟩ := deliversExists s
    rw [drainDelivers delivers] at h
    cases failure with
    | none => cases h
    | some e => cases h; exact ⟨us, delivers⟩
  · rintro ⟨ts, delivers⟩
    exact drainDelivers delivers

end Scanner

namespace Pass

theorem runOkIff {limits : Limits} {settings : Settings.Lexical} {elapsed : Nat}
    {source : List Char} {tape : Tape} :
    (run limits settings elapsed source).result = .ok tape ↔
      ∃ ts, (Scanner.start limits settings source).Delivers ts none ∧
        tape = Tape.ofList ts (some (LineIndex.ofChars source)) := by
  simp only [← Scanner.drainOkIff]
  rw [run, conclude, scan]
  cases (Scanner.start limits settings source).drain.answer <;> simp [eq_comm]

theorem runFailedIff {limits : Limits} {settings : Settings.Lexical} {elapsed : Nat}
    {source : List Char} {e : LexError} :
    (run limits settings elapsed source).result = .error e ↔
      ∃ ts, (Scanner.start limits settings source).Delivers ts (some e) := by
  rw [← Scanner.drainFailedIff, run, conclude, scan]
  cases (Scanner.start limits settings source).drain.answer <;> simp

end Pass
end MathTokens

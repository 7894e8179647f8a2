import MathTokens.Proofs.Grammar

/-! The look ahead of the name rule. A scanner that takes any word for a name accepts the same sources
and gives the same tokens; only which error comes first can differ. -/
namespace MathTokens

namespace Lexing

theorem stepWord (limits : Limits.Lexical) (emitted : Nat) (p : Position) (input : List Char) :
    step Rule.wordTable limits emitted p input = step Rule.table limits emitted p input ∨
      ∃ word, step Rule.table limits emitted p input =
        .error (.unbalancedQuotes (excerpt word) (.covering p word)) := by
  cases input with
  | nil => exact .inl rfl
  | cons first others =>
    simp only [step]
    split
    · exact .inl rfl
    · cases found : splitWord? (first :: others) with
      | none =>
        have name : splitName? (first :: others) = none := by simp [splitName?, found]
        have any : firstMatch? Rule.wordTable (first :: others) =
          firstMatch? [.string, .number, .symbol] (first :: others) := firstMatchMiss found _
        have named : firstMatch? Rule.table (first :: others) =
          firstMatch? [.string, .number, .symbol] (first :: others) := firstMatchMiss name _
        rw [any, named]
        exact .inl rfl
      | some cut =>
        obtain ⟨word, after⟩ := cut
        cases closed : Quoted.balanced after with
        | true =>
          have name := splitNameIff.mpr ⟨found, closed⟩
          have any : firstMatch? Rule.wordTable (first :: others) = some (.anyWord, word, after) :=
            firstMatchHit found _
          have named : firstMatch? Rule.table (first :: others) = some (.name, word, after) :=
            firstMatchHit name _
          rw [any, named]
          exact .inl rfl
        | false =>
          have name : splitName? (first :: others) = none := by simp [splitName?, found, closed]
          have alpha : Opens .name first := by
            refine Classical.byContradiction fun other => ?_
            rw [splitWordOther other] at found
            cases found
          have notQuote : first ≠ '"' := mt (opensQuote alpha).mp (by decide)
          have notDigit : ¬isDigit first := mt (opensDigit alpha).mp (by decide)
          have string := splitLiteralOther notQuote others
          have number := splitDigitsOther notDigit others
          have symbol : splitSymbol? (first :: others) = none := by
            simp [splitSymbol?, (opensWord alpha).mpr (.inl rfl)]
          have refused : firstMatch? Rule.table (first :: others) = none :=
            (firstMatchMiss name _).trans ((firstMatchMiss string _).trans
              ((firstMatchMiss number _).trans (firstMatchMiss symbol _)))
          exact .inr ⟨word, by simp [refused, unmatched, notQuote, found]⟩

theorem stepFailurePlace {rules : List Rule} {limits : Limits.Lexical} {emitted : Nat}
    {p : Position} {input : List Char} {e : LexError}
    (h : step rules limits emitted p input = .error e) : e.span.start = p := by
  obtain ⟨text, _, _, same⟩ := failureCovers h
  rw [same, Span.covering]

end Lexing

namespace Scanner

def withRules (s : Scanner) (rules : List Rule) : Scanner := { s with rules }

theorem nextOffset {s : Scanner} {t : LocatedToken} (h : s.next.answer = .ok (some t)) :
    s.position.offset ≤ s.next.scanner.position.offset := by
  obtain ⟨lexeme, stepped, _⟩ := nextTokenIff.mp h
  rw [nextScanner stepped]
  obtain ⟨_, rule, text, after, token, _, _, rfl⟩ := Lexing.stepTokenIff.mp stepped
  simp only [take, Position.advanceOverOffset]
  omega

theorem deliveredFailureOffset {s : Scanner} {ts : List LocatedToken} {e : LexError}
    (h : s.Delivers ts (some e)) : s.position.offset ≤ e.span.start.offset := by
  generalize ending : some e = failure at h
  induction h with
  | ended => cases ending
  | failed answer =>
    cases ending
    rewrite [Lexing.stepFailurePlace (nextFailedIff.mp answer)]
    exact Nat.le_refl _
  | token answer later ih => exact Nat.le_trans (nextOffset answer) (ih ending)

theorem nextWord {s : Scanner} (rules : s.rules = Rule.table) :
    ((s.withRules Rule.wordTable).next.answer = s.next.answer ∧
      (s.withRules Rule.wordTable).next.scanner = s.next.scanner.withRules Rule.wordTable) ∨
    ∃ word, s.next.answer =
      .error (.unbalancedQuotes (excerpt word) (.covering s.position word)) := by
  rcases Lexing.stepWord s.limits.lexical s.emitted s.position s.rest with same | ⟨word, open'⟩
  · left
    have ours : Lexing.step s.rules s.limits.lexical s.emitted s.position s.rest = _ :=
      rules ▸ same.symm
    simp only [next, withRules, ours]
    split <;> simp [take]
  · exact .inr ⟨word, nextFailedIff.mpr (rules ▸ open')⟩

theorem nextRules {s : Scanner} {t : LocatedToken} (h : s.next.answer = .ok (some t)) :
    s.next.scanner.rules = s.rules := by
  obtain ⟨lexeme, stepped, _⟩ := nextTokenIff.mp h
  rw [nextScanner stepped, take]

theorem wordAccepts {s : Scanner} (rules : s.rules = Rule.table) {ts : List LocatedToken}
    (h : s.Delivers ts none) : (s.withRules Rule.wordTable).Delivers ts none := by
  generalize ending : (none : Option LexError) = failure at h
  induction h with
  | ended answer =>
    have left := nextEndedIff.mp answer
    exact .ended (nextEndedIff.mpr left)
  | failed => cases ending
  | @token s t ts failure answer later ih =>
    rcases nextWord rules with ⟨same, following⟩ | ⟨word, failed⟩
    · refine .token (same.trans answer) ?_
      rw [following]
      exact ih ((nextRules answer).trans rules) ending
    · cases answer.symm.trans failed

theorem acceptsWord {s : Scanner} (rules : s.rules = Rule.table) {ts : List LocatedToken}
    (h : (s.withRules Rule.wordTable).Delivers ts none) : s.Delivers ts none := by
  obtain ⟨xs, pieces, left, rfl, room⟩ := deliveredPieces h Rule.wordTableFaithful
  exact piecesDelivered rules pieces left room

theorem wordFails {s : Scanner} (rules : s.rules = Rule.table) {ts : List LocatedToken}
    {e : LexError} (h : s.Delivers ts (some e)) :
    (s.withRules Rule.wordTable).Delivers ts (some e) ∨
      ∃ word span, e = .unbalancedQuotes word span ∧ ∃ us later,
        (s.withRules Rule.wordTable).Delivers us (some later) ∧ ts <+: us ∧
        span.start.offset ≤ later.span.start.offset := by
  generalize ending : some e = failure at h
  -- Where the look ahead alone refuses a word, the other scanner goes on, but not to the end: that
  -- would make the word acceptable.
  induction h with
  | ended => cases ending
  | @failed s e' answer =>
    cases ending
    rcases nextWord rules with ⟨same, _⟩ | ⟨word, refused⟩
    · exact .inl (.failed (same.trans answer))
    · cases answer.symm.trans refused
      obtain ⟨us, failure, other⟩ := deliversExists (s.withRules Rule.wordTable)
      cases failure with
      | none => cases (deliversUnique (.failed answer) (acceptsWord rules other)).2
      | some later =>
        have place := deliveredFailureOffset other
        exact .inr ⟨_, _, rfl, us, later, other, List.nil_prefix, place⟩
  | @token s t ts failure answer later ih =>
    rcases nextWord rules with ⟨same, following⟩ | ⟨word, failed⟩
    · have agreed := same.trans answer
      rw [← following] at ih
      rcases ih ((nextRules answer).trans rules) ending with
        agrees | ⟨word, span, cause, us, later', other, before, place⟩
      · exact .inl (.token agreed agrees)
      · exact .inr ⟨word, span, cause, t :: us, later', .token agreed other,
          List.prefix_cons_inj t |>.mpr before, place⟩
    · cases answer.symm.trans failed

end Scanner

theorem lookaheadOrdersErrors (limits : Limits) (settings : Settings.Lexical)
    (source : List Char) :
    (∀ ts, (Scanner.start limits settings source).drain.answer = .ok ts ↔
      (Scanner.startWith Rule.wordTable limits settings source).drain.answer = .ok ts) ∧
    (∀ e, (Scanner.start limits settings source).drain.answer = .error e →
      ∃ ts, (Scanner.start limits settings source).Delivers ts (some e) ∧
        ((Scanner.startWith Rule.wordTable limits settings source).Delivers ts (some e) ∨
          ∃ word span, e = .unbalancedQuotes word span ∧ ∃ us later,
            (Scanner.startWith Rule.wordTable limits settings source).Delivers us (some later) ∧
            ts <+: us ∧ span.start.offset ≤ later.span.start.offset)) := by
  refine ⟨fun ts => ?_, fun e failed => ?_⟩
  · rw [Scanner.drainOkIff, Scanner.drainOkIff]
    exact ⟨Scanner.wordAccepts rfl, Scanner.acceptsWord (s := .start limits settings source) rfl⟩
  · obtain ⟨ts, delivers⟩ := Scanner.drainFailedIff.mp failed
    exact ⟨ts, delivers, Scanner.wordFails rfl delivers⟩

end MathTokens

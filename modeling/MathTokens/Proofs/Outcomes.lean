import MathTokens.Proofs.Cursor
import MathTokens.Proofs.RuleOrder

/-! What a step can come to, told by the character at the cursor: a token of the kind that it begins,
or one of few failures. The other failures that are declared never happen. -/
namespace MathTokens

namespace Quoted

def Closes (cs : List Char) : Prop :=
  ∃ before after, cs = before ++ '"' :: after ∧ '\n' ∉ before ∧ before.getLast? ≠ some '\\'

theorem closeFromIff (previous : Char) (taken cs : List Char) :
    (closeFrom previous taken cs).isSome ↔
      ∃ before after, cs = before ++ '"' :: after ∧ '\n' ∉ before ∧
        before.getLast?.getD previous ≠ '\\' := by
  induction cs generalizing previous taken with
  | nil => simp [closeFrom]
  | cons c cs ih =>
    rw [closeFrom]
    split
    · next feed =>
      refine iff_of_false Bool.false_ne_true ?_
      rintro ⟨before, after, split, line, _⟩
      cases before with
      | nil => cases split; cases feed
      | cons b before => cases split; simp [feed] at line
    · next plain =>
      split
      · next closing =>
        exact iff_of_true rfl ⟨[], cs, by rw [closing.1]; rfl, by simp, closing.2⟩
      · next kept =>
        rw [ih]
        constructor
        · rintro ⟨before, after, rfl, line, last⟩
          refine ⟨c :: before, after, rfl, by simp [Ne.symm plain, line], ?_⟩
          simpa [List.getLast?_cons] using last
        · rintro ⟨before, after, split, line, last⟩
          cases before with
          | nil => cases split; exact absurd ⟨rfl, last⟩ kept
          | cons b before =>
            cases split
            rw [List.mem_cons, not_or] at line
            exact ⟨before, after, rfl, line.2, by simpa [List.getLast?_cons] using last⟩

theorem splitLiteralCloses (cs : List Char) : (splitLiteral? ('"' :: cs)).isSome ↔ Closes cs := by
  have last (before : List Char) :
      before.getLast?.getD '"' ≠ '\\' ↔ before.getLast? ≠ some '\\' := by
    cases before.getLast? <;> simp
  simp only [splitLiteral?, closeFromIff, last, Closes]

end Quoted

def Defect.Of : Kind → Defect → Prop
  | .name, .nameTooLong .. => True
  | .string, .stringTooLarge .. => True
  | .number, .numberTooLong .. => True
  | .number, .numberOutOfRange _ => True
  | _, _ => False

namespace Rule

def Settles (rule : Rule) : Prop :=
  ∀ {limits : Limits.Lexical} {cs text rest : List Char}, rule.split? cs = some (text, rest) →
    (∃ t, rule.build limits text = .ok t ∧ t.kind = rule.kind) ∨
      ∃ defect, rule.build limits text = .error defect ∧ defect.Of rule.kind

theorem nameSettles : name.Settles := by
  intro limits cs text rest _
  change (∃ t, buildName limits text = .ok t ∧ _) ∨ ∃ d, buildName limits text = .error d ∧ _
  unfold buildName
  split
  · exact .inr ⟨_, rfl, trivial⟩
  · exact .inl ⟨_, rfl, rfl⟩

theorem stringSettles : string.Settles := by
  intro limits cs text rest _
  change (∃ t, buildString limits text = .ok t ∧ _) ∨ ∃ d, buildString limits text = .error d ∧ _
  unfold buildString
  simp only
  split
  · exact .inr ⟨_, rfl, trivial⟩
  · exact .inl ⟨_, rfl, rfl⟩

theorem numberSettles : number.Settles := by
  intro limits cs text rest cut
  obtain ⟨nonempty, digits, _⟩ := splitDigitsIff.mp cut
  change (∃ t, buildNumber limits text = .ok t ∧ _) ∨ ∃ d, buildNumber limits text = .error d ∧ _
  unfold buildNumber
  simp only [Double.readDigits nonempty digits]
  split
  · exact .inr ⟨_, rfl, trivial⟩
  · split
    · exact .inl ⟨_, rfl, rfl⟩
    · exact .inr ⟨_, rfl, trivial⟩

theorem symbolSettles : symbol.Settles := by
  intro limits cs text rest cut
  obtain ⟨c, _, rfl, _⟩ := splitSymbolIff.mp cut
  exact .inl ⟨.symbol c, rfl, rfl⟩

theorem tableSettles : ∀ rule ∈ table, rule.Settles := by
  simp only [table, List.forall_mem_cons]
  exact ⟨nameSettles, stringSettles, numberSettles, symbolSettles, by simp⟩

end Rule

namespace Lexing

theorem firstMatchOpened {rule : Rule} (member : rule ∈ Rule.table) {c : Char}
    (opens : Opens rule.kind c) (cs : List Char) :
    firstMatch? Rule.table (c :: cs) =
      (rule.split? (c :: cs)).map fun (text, after) => (rule, text, after) := by
  cases cut : rule.split? (c :: cs) with
  | some found =>
    obtain ⟨text, after⟩ := found
    exact (firstMatchIff (List.Subset.refl _)).mpr ⟨member, cut⟩
  | none =>
    refine Option.eq_none_iff_forall_ne_some.mpr fun (other, text, after) found => ?_
    obtain ⟨member', cut'⟩ := firstMatchSource found
    have same := opensOne (Rule.tableOpens member' cut') opens
    obtain rfl := Rule.tableKinds member' member same
    cases cut.symm.trans cut'

theorem firstMatchSymbol {c : Char} (symbolic : IsSymbolic c) (cs : List Char) :
    firstMatch? Rule.table (c :: cs) = some (.symbol, [c], cs) := by
  have member : Rule.symbol ∈ Rule.table := by simp [Rule.table]
  have cut : Rule.symbol.split? (c :: cs) = some ([c], cs) :=
    splitSymbolIff.mpr ⟨c, symbolic, rfl, rfl⟩
  exact (firstMatchIff (List.Subset.refl _)).mpr ⟨member, cut⟩

theorem firstMatchUnopened {c : Char} (closed : ∀ k, ¬Opens k c) (cs : List Char) :
    firstMatch? Rule.table (c :: cs) = none := by
  refine Option.eq_none_iff_forall_ne_some.mpr fun (rule, text, after) found => ?_
  obtain ⟨member, cut⟩ := firstMatchSource found
  exact closed _ (Rule.tableOpens member cut)

theorem underscoreUnopened (k : Kind) : ¬Opens k '_' := by
  cases k with
  | name => exact nofun
  | string => exact nofun
  | number => exact nofun
  | symbol => exact fun symbolic => nomatch symbolic.word

end Lexing

namespace Scanner

def Reads (k : Kind) (answer : Except LexError (Option LocatedToken)) : Prop :=
  (∃ t, answer = .ok (some t) ∧ t.value.kind = k) ∨
    ∃ x span defect, answer = .error (.construction k x span defect) ∧ defect.Of k

theorem readsFailed {k : Kind} {answer : Except LexError (Option LocatedToken)}
    (reads : Reads k answer) {e : LexError} (failed : answer = .error e) :
    ∃ x span defect, e = .construction k x span defect ∧ defect.Of k := by
  rcases reads with ⟨t, same, _⟩ | ⟨x, span, defect, same, of⟩
  · cases same.symm.trans failed
  · cases same.symm.trans failed
    exact ⟨x, span, defect, rfl, of⟩

variable {s : Scanner} {c : Char} {cs : List Char}

theorem nextBuilt (room : s.emitted < s.limits.lexical.tokenCount) {rule : Rule}
    {text after : List Char} {t : Token}
    (found : Lexing.firstMatch? s.rules s.rest = some (rule, text, after))
    (built : rule.build s.limits.lexical text = .ok t) :
    s.next.answer = .ok (some ⟨t, .covering s.position text⟩) := by
  have stepped := (Lexing.stepTokenIff (p := s.position)).mpr
    ⟨room, rule, text, after, t, found, built, rfl⟩
  exact nextTokenIff.mpr ⟨_, stepped, rfl⟩

theorem nextRefused (room : s.emitted < s.limits.lexical.tokenCount) {rule : Rule}
    {text after : List Char} {defect : Defect} (rest : s.rest = c :: cs)
    (found : Lexing.firstMatch? s.rules s.rest = some (rule, text, after))
    (refused : rule.build s.limits.lexical text = .error defect) :
    s.next.answer =
      .error (.construction rule.kind (excerpt text) (.covering s.position text) defect) := by
  refine nextFailedIff.mpr ?_
  rw [rest] at found ⊢
  rw [Lexing.step, if_neg (Nat.not_le.mpr room), found]
  simp only [Lexing.accept, refused]
  rfl

theorem nextMiss (table : s.rules = Rule.table) (rest : s.rest = c :: cs)
    (room : s.emitted < s.limits.lexical.tokenCount)
    (missed : Lexing.firstMatch? Rule.table (c :: cs) = none) :
    s.next.answer = .error (Lexing.unmatched s.position c (c :: cs)) := by
  refine nextFailedIff.mpr ?_
  rw [table, rest, Lexing.step, if_neg (Nat.not_le.mpr room), missed]

theorem nextReads (table : s.rules = Rule.table) (rest : s.rest = c :: cs)
    (room : s.emitted < s.limits.lexical.tokenCount) {rule : Rule} (member : rule ∈ Rule.table)
    {text after : List Char} (cut : rule.split? (c :: cs) = some (text, after)) :
    Reads rule.kind s.next.answer := by
  have found : Lexing.firstMatch? s.rules s.rest = some (rule, text, after) := by
    rw [table, rest]
    exact (Lexing.firstMatchIff (List.Subset.refl _)).mpr ⟨member, cut⟩
  rcases Rule.tableSettles rule member cut with ⟨t, built, kind⟩ | ⟨defect, refused, of⟩
  · exact .inl ⟨_, nextBuilt room found built, kind⟩
  · exact .inr ⟨_, _, defect, nextRefused room rest found refused, of⟩

/- What the answer is, as far as the input tells it: a quote by what closes it, a letter by the quotes
behind its word, every other character by itself. -/
structure ToldBy (c : Char) (cs : List Char)
    (answer : Except LexError (Option LocatedToken)) : Prop where
  quote : c = '"' →
    ((∃ span, answer = .error (.unterminatedString span)) ↔ ¬Quoted.Closes cs) ∧
      (Quoted.Closes cs → Reads .string answer)
  letter : c.isAlpha →
    ((∃ word span, answer = .error (.unbalancedQuotes word span)) ↔
        ¬Quoted.balanced (cs.dropWhile isWordChar)) ∧
      (Quoted.balanced (cs.dropWhile isWordChar) → Reads .name answer)
  digit : isDigit c → Reads .number answer
  underscore : c = '_' → ∃ span, answer = .error (.unexpectedCharacter '_' span)
  other : c ≠ '"' → ¬c.isAlpha → ¬isDigit c → c ≠ '_' →
    ∃ span, answer = .ok (some ⟨.symbol c, span⟩)

theorem nextQuote (table : s.rules = Rule.table) (rest : s.rest = '"' :: cs)
    (room : s.emitted < s.limits.lexical.tokenCount) :
    ((∃ span, s.next.answer = .error (.unterminatedString span)) ↔ ¬Quoted.Closes cs) ∧
      (Quoted.Closes cs → Reads .string s.next.answer) := by
  have string : Rule.string ∈ Rule.table := by simp [Rule.table]
  have reads (closes : Quoted.Closes cs) : Reads .string s.next.answer := by
    obtain ⟨cut, split⟩ := Option.isSome_iff_exists.mp ((Quoted.splitLiteralCloses cs).mpr closes)
    exact nextReads table rest room string split
  refine ⟨⟨?_, ?_⟩, reads⟩
  · rintro ⟨span, failed⟩ closes
    obtain ⟨_, _, _, same, _⟩ := readsFailed (reads closes) failed
    cases same
  · intro stuck
    have opens : Opens Rule.string.kind '"' := rfl
    have missed := Lexing.firstMatchOpened string opens cs
    have none : Rule.string.split? ('"' :: cs) = none :=
      Option.not_isSome_iff_eq_none.mp (mt (Quoted.splitLiteralCloses cs).mp stuck)
    rw [none] at missed
    exact ⟨_, (nextMiss table rest room missed).trans (by rw [Lexing.unmatched, if_pos rfl])⟩

theorem nextLetter (table : s.rules = Rule.table) (rest : s.rest = c :: cs)
    (room : s.emitted < s.limits.lexical.tokenCount) (alpha : c.isAlpha) :
    ((∃ word span, s.next.answer = .error (.unbalancedQuotes word span)) ↔
        ¬Quoted.balanced (cs.dropWhile isWordChar)) ∧
      (Quoted.balanced (cs.dropWhile isWordChar) → Reads .name s.next.answer) := by
  have name : Rule.name ∈ Rule.table := by simp [Rule.table]
  have word : splitWord? (c :: cs) =
      some (c :: cs.takeWhile isWordChar, cs.dropWhile isWordChar) := if_pos alpha
  have reads (closed : Quoted.balanced (cs.dropWhile isWordChar)) : Reads .name s.next.answer :=
    nextReads table rest room name (splitNameIff.mpr ⟨word, closed⟩)
  refine ⟨⟨?_, ?_⟩, reads⟩
  · rintro ⟨x, span, failed⟩ closed
    obtain ⟨_, _, _, same, _⟩ := readsFailed (reads closed) failed
    cases same
  · intro stuck
    have opens : Opens Rule.name.kind c := alpha
    have missed := Lexing.firstMatchOpened name opens cs
    have refused : Rule.name.split? (c :: cs) = none := by
      change splitName? (c :: cs) = none
      simp [splitName?, word, stuck]
    rw [refused] at missed
    refine ⟨excerpt (c :: cs.takeWhile isWordChar),
      .covering s.position (c :: cs.takeWhile isWordChar), ?_⟩
    rw [nextMiss table rest room missed, Lexing.unmatched, if_neg (wordNotQuote (alphaWord alpha)),
      word]

theorem nextTold (table : s.rules = Rule.table) (rest : s.rest = c :: cs)
    (room : s.emitted < s.limits.lexical.tokenCount) (stops : Stops isSeparator s.rest) :
    ToldBy c cs s.next.answer where
  quote same := by
    subst same
    exact nextQuote table rest room
  letter alpha := nextLetter table rest room alpha
  digit digit := by
    have number : Rule.number ∈ Rule.table := by simp [Rule.table]
    have cut : splitDigits? (c :: cs) =
        some ((c :: cs).takeWhile isDigit, (c :: cs).dropWhile isDigit) := by
      simp [splitDigits?, digit]
    exact nextReads table rest room number cut
  underscore same := by
    subst same
    exact ⟨_, nextMiss table rest room (Lexing.firstMatchUnopened Lexing.underscoreUnopened cs)⟩
  other quote alpha digit underscore := by
    have word : isWordChar c = false := by
      simpa [underscore] using (not_congr (wordCharIff c)).mpr (by simp [alpha, digit, underscore])
    have separator : isSeparator c = false := stops c (by rw [rest]; rfl)
    have found := Lexing.firstMatchSymbol ⟨separator, word, quote⟩ cs
    rw [← rest, ← table] at found
    exact ⟨_, nextBuilt room found rfl⟩

end Scanner

def LexError.Told : LexError → Prop
  | .construction k _ _ defect => defect.Of k
  | .unexpectedCharacter c _ => c = '_'
  | _ => True

namespace Scanner

theorem readsTold {k : Kind} {answer : Except LexError (Option LocatedToken)}
    (reads : Reads k answer) {e : LexError} (failed : answer = .error e) : e.Told := by
  obtain ⟨_, _, _, rfl, of⟩ := readsFailed reads failed
  exact of

theorem toldByTold {c : Char} {cs : List Char} {answer : Except LexError (Option LocatedToken)}
    (told : ToldBy c cs answer) {e : LexError} (failed : answer = .error e) : e.Told := by
  by_cases quote : c = '"'
  · obtain ⟨stuck, reads⟩ := told.quote quote
    by_cases closes : Quoted.Closes cs
    · exact readsTold (reads closes) failed
    · obtain ⟨span, same⟩ := stuck.mpr closes
      cases same.symm.trans failed
      trivial
  by_cases alpha : c.isAlpha
  · obtain ⟨stuck, reads⟩ := told.letter alpha
    by_cases closed : Quoted.balanced (cs.dropWhile isWordChar)
    · exact readsTold (reads closed) failed
    · obtain ⟨word, span, same⟩ := stuck.mpr closed
      cases same.symm.trans failed
      trivial
  by_cases digit : isDigit c
  · exact readsTold (told.digit digit) failed
  by_cases underscore : c = '_'
  · obtain ⟨span, same⟩ := told.underscore underscore
    cases same.symm.trans failed
    rfl
  · obtain ⟨span, same⟩ := told.other quote alpha digit underscore
    cases same.symm.trans failed

theorem nextFailureTold {s : Scanner} (table : s.rules = Rule.table) (placed : s.Placed)
    {e : LexError} (failed : s.next.answer = .error e) : e.Told := by
  have stepped := nextFailedIff.mp failed
  cases rest : s.rest with
  | nil =>
    rw [rest] at stepped
    cases stepped
  | cons c cs =>
    by_cases room : s.emitted < s.limits.lexical.tokenCount
    · exact toldByTold (nextTold table rest room placed.stops) failed
    · rw [rest, Lexing.step, if_pos (Nat.le_of_not_lt room)] at stepped
      cases stepped
      trivial

theorem pullsTold {s : Scanner} (table : s.rules = Rule.table) (placed : s.Placed)
    (calls : List Pull) : ∀ call ∈ (s.pulls calls).answer, ∀ e, call.2 = .failed e → e.Told := by
  refine (pullsKeep (I := fun s => s.rules = Rule.table ∧ s.Placed)
    (Q := fun _ reply => ∀ e, reply = .failed e → e.Told) ?_ ⟨table, placed⟩ calls).2
  rintro s p ⟨table, placed⟩
  refine ⟨⟨(pullAkin s p).rules.trans table, (pullPlaced placed p).1⟩, fun e failed => ?_⟩
  have call := pulled s p
  generalize (s.pull p).answer = reply, (s.pull p).scanner = after at call failed
  cases call with
  | failed answer =>
    cases failed
    exact nextFailureTold table placed answer
  | past | ended | token => cases failed

end Scanner

theorem outcomesToldByFirstCharacter (limits : Limits) (settings : Settings.Lexical)
    (source : List Char) :
    (∀ input, (Rule.table.filter fun rule => (rule.split? input).isSome).length ≤ 1) ∧
    (∀ rules, rules.Perm Rule.table → ∀ calls,
      let usual := (Scanner.start limits settings source).pulls calls
      (Scanner.startWith rules limits settings source).pulls calls =
        ⟨usual.answer, usual.scanner.withRules rules, usual.events⟩) ∧
    ∀ calls,
      let turn := (Scanner.start limits settings source).pulls calls
      (∀ c cs, turn.scanner.rest = c :: cs → turn.scanner.emitted < limits.lexical.tokenCount →
        Scanner.ToldBy c cs turn.scanner.next.answer) ∧
      ∀ call ∈ turn.answer, ∀ e, call.2 = .failed e → e.Told := by
  have placed := Scanner.startPlaced Rule.table limits settings source
  refine ⟨Rule.tableAccepts, fun rules permuted calls => ?_, fun calls => ⟨?_, ?_⟩⟩
  · exact Scanner.pullsPermuted (s := .start limits settings source) rfl permuted calls
  · intro c cs rest room
    have akin := Scanner.pullsAkin (.start limits settings source) calls
    exact Scanner.nextTold akin.rules rest (akin.limits ▸ room)
      (Scanner.pullsPlaced Rule.table limits settings source calls).stops
  · exact Scanner.pullsTold (s := .start limits settings source) rfl placed calls

end MathTokens

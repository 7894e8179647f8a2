import MathTokens.Proofs.Summary
import MathTokens.Proofs.Whereabouts

/-! What the event behind a finished pass tells of its tape. The number of tokens is that of the tape; the
numbers by kind are kept by the scanner, and are those of the tape if metrics are collected at all. -/
namespace MathTokens

structure Tells (event : Event) (count : Nat) (tally : Tally) : Prop where
  code : event.code = .tokenizationComplete
  tokens : event.context.lookup "tokens" = some (toString count)
  names : event.context.lookup "names" = some (toString tally.names)
  numbers : event.context.lookup "numbers" = some (toString tally.numbers)
  strings : event.context.lookup "strings" = some (toString tally.strings)
  symbols : event.context.lookup "symbols" = some (toString tally.symbols)

theorem digitsInjective {m n : Nat} (same : some (toString m) = some (toString n)) : m = n := by
  have chars := congrArg String.toList (Option.some.inj same)
  simp only [toString, Nat.toList_repr] at chars
  exact toDigitsInjective chars

theorem tellsUnique {event : Event} {count count' : Nat} {tally tally' : Tally}
    (first : Tells event count tally) (second : Tells event count' tally') :
    count = count' ∧ tally = tally' := by
  refine ⟨digitsInjective (first.tokens.symm.trans second.tokens), Tally.sameCounts fun k => ?_⟩
  cases k with
  | name => exact digitsInjective (first.names.symm.trans second.names)
  | string => exact digitsInjective (first.strings.symm.trans second.strings)
  | number => exact digitsInjective (first.numbers.symm.trans second.numbers)
  | symbol => exact digitsInjective (first.symbols.symm.trans second.symbols)

theorem completionTells (limits : Limits.Logging) (elapsed count : Nat) (m : Metrics) :
    Tells (Pass.completionEvent limits elapsed count m) count m.tally where
  code := rfl
  tokens := by simp [Pass.completionEvent]
  names := by simp [Pass.completionEvent]
  numbers := by simp [Pass.completionEvent]
  strings := by simp [Pass.completionEvent]
  symbols := by simp [Pass.completionEvent]

def Settings.Lexical.told (settings : Settings.Lexical) (tape : Tape) : Tally :=
  if settings.collectMetrics then tape.tally else .zero

namespace Tape

theorem tallyTotal (t : Tape) : t.tally.total = t.size := by
  rw [tallyTokens, Tally.totalOfTokens, List.length_map]
  rfl

theorem tallyZeroIff (t : Tape) : .zero = t.tally ↔ t.size = 0 := by
  rw [← tallyTotal]
  constructor
  · intro same
    rw [← same]
    rfl
  · intro none
    obtain ⟨earlier, symbols⟩ := Nat.add_eq_zero_iff.mp none
    obtain ⟨earlier, strings⟩ := Nat.add_eq_zero_iff.mp earlier
    obtain ⟨names, numbers⟩ := Nat.add_eq_zero_iff.mp earlier
    refine Tally.sameCounts fun k => ?_
    cases k with
    | name => exact names.symm
    | string => exact strings.symm
    | number => exact numbers.symm
    | symbol => exact symbols.symm

theorem toldIff (t : Tape) (settings : Settings.Lexical) :
    settings.told t = t.tally ↔ settings.collectMetrics = true ∨ t.size = 0 := by
  cases on : settings.collectMetrics with
  | true => simp [Settings.Lexical.told, on]
  | false => simpa [Settings.Lexical.told, on] using t.tallyZeroIff

end Tape

theorem Announced.behindLines {limits : Limits} {settings : Settings.Lexical} {source : List Char}
    {tape : Tape} {events : List Event} (announced : Announced limits settings source (.ok tape) events) :
    ∃ lines last, events = lines ++ [last] ∧ ∀ line ∈ lines, line.code = .plainDebug := by
  cases announced with
  | finished _ _ _ plain => exact ⟨_, _, rfl, fun line inside => (plain line inside).2⟩

namespace Pass
variable {limits : Limits} {settings : Settings.Lexical} {source : List Char}

theorem scanTells {ts : List LocatedToken}
    (delivers : (Scanner.start limits settings source).Delivers ts none) (index : Option LineIndex) :
    (scan limits settings source).scanner.metrics.tally = settings.told (Tape.ofList ts index) := by
  have scanned := Scanner.gatherGiven (Scanner.startGiven limits settings source)
    (Scanner.drainOkIff.mpr delivers)
  rw [Settings.Lexical.told]
  split
  · next on =>
    rw [Tape.tallyTokens]
    exact (scanned.collected on).tally
  · next off => exact congrArg Metrics.tally (scanned.idle (Bool.eq_false_iff.mpr off))

theorem runEvents (elapsed : Nat) {ts : List LocatedToken}
    (delivers : (Scanner.start limits settings source).Delivers ts none) :
    (run limits settings elapsed source).events = (scan limits settings source).events ++
      [completionEvent limits.logging elapsed ts.length
        (scan limits settings source).scanner.metrics] := by
  have answer : (scan limits settings source).answer = .ok ts := Scanner.drainOkIff.mpr delivers
  rw [run, conclude, answer]

theorem runCompletes {elapsed : Nat} {tape : Tape}
    (read : (run limits settings elapsed source).result = .ok tape) :
    ∃ lines event, (run limits settings elapsed source).events = lines ++ [event] ∧
      (∀ line ∈ lines, line.code ≠ .tokenizationComplete) ∧
      Tells event tape.size (settings.told tape) := by
  have announced := runAnnounced limits settings elapsed source
  rw [read] at announced
  obtain ⟨lines, last, both, plain⟩ := announced.behindLines
  obtain ⟨ts, delivers, rfl⟩ := runOkIff.mp read
  have events := runEvents elapsed delivers
  have same := (List.append_inj' (both.symm.trans events) rfl).1
  refine ⟨lines, _, same ▸ events, fun line inside => ?_, ?_⟩
  · rw [plain line inside]
    decide
  · rw [← scanTells delivers]
    exact completionTells ..

end Pass

theorem completionTellsTape {limits : Limits} {settings : Settings.Lexical} {elapsed : Nat}
    {source : List Char} {tape : Tape}
    (read : (Pass.run limits settings elapsed source).result = .ok tape) :
    ∃ lines event, (Pass.run limits settings elapsed source).events = lines ++ [event] ∧
      (∀ line ∈ lines, line.code ≠ .tokenizationComplete) ∧
      Tells event tape.size (settings.told tape) ∧
      tape.tally.total = tape.size ∧
      (Tells event tape.size tape.tally ↔ settings.collectMetrics = true ∨ tape.size = 0) := by
  obtain ⟨lines, event, events, before, tells⟩ := Pass.runCompletes read
  refine ⟨lines, event, events, before, tells, tape.tallyTotal, ?_⟩
  rw [← Tape.toldIff]
  constructor
  · intro all
    exact (tellsUnique tells all).2
  · intro same
    exact same ▸ tells

theorem completionTellsSum :
    let run := Pass.run .development ⟨true, true, true⟩ 0 "a = b".toList
    ∃ tape lines event, run.result = .ok tape ∧ run.events = lines ++ [event] ∧
      Tells event 3 ⟨2, 0, 0, 1⟩ := by
  intro run
  have scanned : (Scanner.start .development ⟨true, true, true⟩ "a = b".toList).drain.answer =
      .ok [⟨.name "a", ⟨⟨0, 1, 1⟩, ⟨1, 1, 2⟩⟩⟩, ⟨.symbol '=', ⟨⟨2, 1, 3⟩, ⟨3, 1, 4⟩⟩⟩,
        ⟨.name "b", ⟨⟨4, 1, 5⟩, ⟨5, 1, 6⟩⟩⟩] := by
    decide +kernel
  have read : run.result = .ok _ := Pass.runOkIff.mpr ⟨_, Scanner.drainOkIff.mp scanned, rfl⟩
  obtain ⟨lines, event, events, _, tells, _⟩ := completionTellsTape read
  exact ⟨_, lines, event, read, events, tells⟩

theorem completionTellsNoNames :
    let run := Pass.run .development ⟨false, false, true⟩ 0 ['a']
    ∃ tape lines event, run.result = .ok tape ∧ run.events = lines ++ [event] ∧
      tape.tally.names = 1 ∧ event.code = .tokenizationComplete ∧
      event.context.lookup "tokens" = some "1" ∧ event.context.lookup "names" = some "0" := by
  intro run
  have scanned : (Scanner.start .development ⟨false, false, true⟩ ['a']).drain.answer =
      .ok [⟨.name "a", ⟨⟨0, 1, 1⟩, ⟨1, 1, 2⟩⟩⟩] := by
    decide +kernel
  have read : run.result = .ok _ := Pass.runOkIff.mpr ⟨_, Scanner.drainOkIff.mp scanned, rfl⟩
  obtain ⟨lines, event, events, _, tells⟩ := Pass.runCompletes read
  exact ⟨_, lines, event, read, events, rfl, tells.code, tells.tokens, tells.names⟩

end MathTokens

import Mathlib.Algebra.BigOperators.Group.List.Lemmas
import Mathlib.Algebra.Ring.Nat
import MathTokens.Proofs.Pulling

/-! Metrics as a summary of what was given so far. Each number in them is counted by itself, yet after
any calls all of them tell the same tokens, and so does the tally of a finished tape. -/
namespace MathTokens

namespace Token

theorem asSymbolIff (t : Token) (c : Char) : t.asSymbol? = some c ↔ t = .symbol c := by
  cases t <;> simp [asSymbol?]

theorem countSymbols (ts : List Token) (c : Char) :
    (ts.filterMap asSymbol?).count c = ts.count (.symbol c) := by
  rw [List.count_filterMap, List.count]
  exact List.countP_congr fun t _ => by simp [asSymbolIff]

end Token

namespace Tally

def ofTokens (ts : List Token) : Tally :=
  ⟨ts.countP (·.kind = .name), ts.countP (·.kind = .number), ts.countP (·.kind = .string),
    ts.countP (·.kind = .symbol)⟩

theorem getAdd (t : Tally) (k other : Kind) :
    (t.add k).get other = t.get other + if k = other then 1 else 0 := by
  cases k <;> cases other <;> rfl

theorem totalAdd (t : Tally) (k : Kind) : (t.add k).total = t.total + 1 := by
  cases k <;> simp only [add, total] <;> omega

theorem sameCounts {s t : Tally} (h : ∀ k, s.get k = t.get k) : s = t := by
  obtain ⟨names, numbers, strings, symbols⟩ := s
  obtain ⟨names', numbers', strings', symbols'⟩ := t
  have name : names = names' := h .name
  have number : numbers = numbers' := h .number
  have string : strings = strings' := h .string
  have symbol : symbols = symbols' := h .symbol
  rw [name, number, string, symbol]

theorem getOfTokens (ts : List Token) (k : Kind) : (ofTokens ts).get k = ts.countP (·.kind = k) := by
  cases k <;> rfl

theorem ofTokensConcat (ts : List Token) (t : Token) :
    ofTokens (ts ++ [t]) = (ofTokens ts).add t.kind := by
  refine sameCounts fun k => ?_
  rw [getAdd, getOfTokens, getOfTokens, List.countP_append, List.countP_singleton]
  simp only [decide_eq_true_eq]

theorem totalOfTokens (ts : List Token) : (ofTokens ts).total = ts.length := by
  induction ts using List.reverseRecOn with
  | nil => rfl
  | append_singleton ts t ih => rw [ofTokensConcat, totalAdd, ih, List.length_append]; rfl

theorem foldAdd (before ts : List Token) :
    ts.foldl (fun tally t => tally.add t.kind) (ofTokens before) = ofTokens (before ++ ts) := by
  induction ts generalizing before with
  | nil => rw [List.append_nil]; rfl
  | cons t ts ih => rw [List.foldl_cons, ← ofTokensConcat, ih, List.append_assoc]; rfl

end Tally

theorem Tape.tallyTokens (t : Tape) : t.tally = .ofTokens (t.tokens.toList.map Located.value) := by
  have fold := Tally.foldAdd [] (t.tokens.toList.map Located.value)
  rw [List.foldl_map, List.nil_append] at fold
  rw [tally, ← Array.foldl_toList, ← fold]
  rfl

def longest (texts : List String) : Nat := (texts.map String.utf8ByteSize).max?.getD 0

theorem longestAppend (texts more : List String) :
    longest (texts ++ more) = max (longest texts) (longest more) := by
  have fold (texts : List String) :
      longest texts = (texts.map String.utf8ByteSize).foldl max 0 := by
    rw [List.foldl_max, Nat.zero_max, longest]
  rw [fold, List.map_append, List.foldl_append, ← fold, List.foldl_max, longest.eq_def more]
  cases (more.map String.utf8ByteSize).max? <;> simp

namespace Metrics

structure Summarises (m : Metrics) (ts : List Token) : Prop where
  total : m.total = ts.length
  tally : m.tally = .ofTokens ts
  longestName : m.longestName = longest (ts.filterMap Token.asName?)
  longestString : m.longestString = longest (ts.filterMap Token.asString?)
  symbolUsage : ∀ c, m.symbolUsage[c]? =
    if .symbol c ∈ ts then some (ts.count (.symbol c)) else none

theorem emptySummarises : empty.Summarises [] where
  total := rfl
  tally := rfl
  longestName := rfl
  longestString := rfl
  symbolUsage c := by simp [empty]

theorem recordCounts (m : Metrics) (t : Token) :
    (m.record t).total = m.total + 1 ∧ (m.record t).tally = m.tally.add t.kind := by
  cases t <;> exact ⟨rfl, rfl⟩

theorem recordLongest (m : Metrics) (t : Token) :
    (m.record t).longestName = max m.longestName (longest t.asName?.toList) ∧
      (m.record t).longestString = max m.longestString (longest t.asString?.toList) := by
  cases t <;> simp [record, longest, Token.asName?, Token.asString?]

theorem recordUsage (m : Metrics) (t : Token) (c : Char) :
    (m.record t).symbolUsage[c]? =
      if t = .symbol c then some (m.symbolUsage[c]?.getD 0 + 1) else m.symbolUsage[c]? := by
  cases t with
  | symbol d =>
    simp only [record, countSymbol, Std.TreeMap.getElem?_insert, Std.TreeMap.getD_eq_getD_getElem?,
      Std.LawfulEqCmp.compare_eq_iff_eq, Token.symbol.injEq]
    split
    · next same => rw [same]
    · rfl
  | name | number | string => rfl

theorem recordSummarises {m : Metrics} {ts : List Token} (h : m.Summarises ts) (t : Token) :
    (m.record t).Summarises (ts ++ [t]) := by
  obtain ⟨total, tally⟩ := recordCounts m t
  obtain ⟨name, string⟩ := recordLongest m t
  have texts (f : Token → Option String) : [t].filterMap f = (f t).toList := by
    cases found : f t <;> simp [found]
  refine ⟨?_, ?_, ?_, ?_, fun c => ?_⟩
  · rw [total, h.total, List.length_append]
    rfl
  · rw [tally, h.tally, Tally.ofTokensConcat]
  · rw [name, h.longestName, List.filterMap_append, longestAppend, texts]
  · rw [string, h.longestString, List.filterMap_append, longestAppend, texts]
  · rw [recordUsage, h.symbolUsage, List.count_append, List.count_singleton]
    by_cases same : t = .symbol c
    · by_cases earlier : .symbol c ∈ ts
      · simp [same, earlier]
      · simp [same, earlier, List.count_eq_zero_of_not_mem earlier]
    · simp [same, Ne.symm same]

theorem usageKeys {m : Metrics} {ts : List Token} (h : m.Summarises ts) :
    m.symbolUsage.keys.Perm (ts.filterMap Token.asSymbol?).dedup := by
  refine (List.perm_ext_iff_of_nodup Std.TreeMap.nodup_keys (List.nodup_dedup _)).mpr fun c => ?_
  rw [Std.TreeMap.mem_keys, Std.TreeMap.mem_iff_isSome_getElem?, h.symbolUsage, List.mem_dedup,
    List.mem_filterMap]
  simp only [Token.asSymbolIff, exists_eq_right]
  split
  · next met => exact iff_of_true rfl met
  · next unmet => exact iff_of_false Bool.false_ne_true unmet

theorem usageTotal {m : Metrics} {ts : List Token} (h : m.Summarises ts) :
    (m.symbolUsage.toList.map Prod.snd).sum = m.tally.symbols := by
  have counts : m.symbolUsage.toList.map Prod.snd =
      m.symbolUsage.keys.map fun c => (ts.filterMap Token.asSymbol?).count c := by
    rw [← Std.TreeMap.map_fst_toList_eq_keys, List.map_map]
    refine List.map_congr_left fun entry member => ?_
    have found := Std.TreeMap.mem_toList_iff_getElem?_eq_some.mp member
    rw [h.symbolUsage] at found
    split at found
    · rw [Function.comp_apply, Token.countSymbols]
      exact (Option.some.inj found).symm
    · cases found
  have symbols : (ts.filterMap Token.asSymbol?).length = m.tally.symbols := by
    rw [List.length_filterMap_eq_countP, h.tally]
    refine List.countP_congr fun t _ => ?_
    cases t <;> simp [Token.asSymbol?, Token.kind]
  rw [counts, ((usageKeys h).map _).sum_eq, List.sum_map_count_dedup_eq_length, symbols]

end Metrics

def Reply.token? : Reply → Option Token
  | .token t _ => some t
  | .ended | .failed _ => none

def givenTokens (answers : List (Pull × Reply)) : List Token := answers.filterMap (·.2.token?)

namespace Scanner

structure HasGiven (s : Scanner) (settings : Settings.Lexical) (ts : List Token) : Prop where
  under : s.settings = settings
  emitted : s.emitted = ts.length
  collected : settings.collectMetrics = true → s.metrics.Summarises ts
  idle : settings.collectMetrics = false → s.metrics = .empty

theorem startGiven (limits : Limits) (settings : Settings.Lexical) (source : List Char) :
    (start limits settings source).HasGiven settings [] :=
  ⟨rfl, rfl, fun _ => Metrics.emptySummarises, fun _ => rfl⟩

variable {settings : Settings.Lexical}

theorem nextGiven {s : Scanner} {ts : List Token} (h : s.HasGiven settings ts) {t : LocatedToken}
    (answer : s.next.answer = .ok (some t)) :
    s.next.scanner.HasGiven settings (ts ++ [t.value]) := by
  obtain ⟨lexeme, stepped, rfl⟩ := nextTokenIff.mp answer
  rw [nextScanner stepped]
  refine ⟨h.under, ?_, fun on => ?_, fun off => ?_⟩
  · simp only [take, h.emitted, List.length_append, List.length_singleton]
  · simp only [take, h.under, on, if_true]
    exact Metrics.recordSummarises (h.collected on) lexeme.token.value
  · simp only [take, h.under, off, Bool.false_eq_true, if_false]
    exact h.idle off

theorem pullGiven {s : Scanner} {ts : List Token} (h : s.HasGiven settings ts) (p : Pull) :
    (s.pull p).scanner.HasGiven settings (ts ++ (s.pull p).answer.token?.toList) := by
  have call := pulled s p
  generalize (s.pull p).answer = reply, (s.pull p).scanner = after at call
  cases call with
  | past | ended => simpa [Reply.token?] using h
  | failed =>
    rw [Reply.token?, Option.toList_none, List.append_nil]
    exact ⟨h.under, h.emitted, h.collected, h.idle⟩
  | token answer => exact nextGiven h answer

theorem pullsGiven {s : Scanner} {ts : List Token} (h : s.HasGiven settings ts)
    (calls : List Pull) :
    (s.pulls calls).scanner.HasGiven settings (ts ++ givenTokens (s.pulls calls).answer) := by
  induction calls generalizing s ts with
  | nil => simpa [pulls, givenTokens] using h
  | cons p calls ih =>
    have later := ih (pullGiven h p)
    have first : givenTokens (s.pulls (p :: calls)).answer = (s.pull p).answer.token?.toList ++
        givenTokens ((s.pull p).scanner.pulls calls).answer := by
      rw [pulls, givenTokens, List.filterMap_cons]
      cases (s.pull p).answer.token? <;> rfl
    rw [first, ← List.append_assoc]
    exact later

theorem gatherGiven {s : Scanner} {fuel : Nat} {g : Gathered} {ts : List LocatedToken}
    (h : s.HasGiven settings (g.tokens.reverse.map Located.value))
    (answer : (s.gather fuel g).answer = .ok ts) :
    (s.gather fuel g).scanner.HasGiven settings (ts.map Located.value) := by
  induction fuel generalizing s g with
  | zero =>
    cases answer
    exact h
  | succ fuel ih =>
    rw [gather] at answer ⊢
    cases next : s.next.answer with
    | error e =>
      simp only [next] at answer
      cases answer
    | ok found =>
      cases found with
      | none =>
        simp only [next] at answer ⊢
        cases answer
        rw [nextUnmoved (by simp [next])]
        exact h
      | some t =>
        simp only [next] at answer ⊢
        refine ih ?_ answer
        simpa [Gathered.addToken, Gathered.addEvents] using nextGiven h next

theorem givesTokens {answers : List (Pull × Reply)} {given : List LocatedToken}
    (h : List.Forall₂ Gives (answers.filter (·.2.isToken)) given) :
    givenTokens answers = given.map Located.value := by
  induction answers generalizing given with
  | nil =>
    cases h
    rfl
  | cons call answers ih =>
    obtain ⟨p, reply⟩ := call
    cases reply with
    | ended | failed => exact ih h
    | token t span =>
      cases h with
      | cons gives later =>
        obtain ⟨rfl, _⟩ := Reply.token.inj gives
        exact congrArg _ (ih later)

theorem pullsExhausted {s : Scanner} {ts : List LocatedToken} (h : s.Ahead ts none)
    {calls : List Pull} (exhausted : (s.pulls calls).scanner.isExhausted) :
    givenTokens (s.pulls calls).answer = ts.map Located.value := by
  obtain ⟨given, left, rfl, gives, ahead, _⟩ := pullsAhead h calls
  have ended := nextEndedIff.mpr (List.isEmpty_iff.mp exhausted)
  obtain ⟨rfl, _⟩ := deliversUnique ahead.delivers (.ended ended)
  rw [List.append_nil]
  exact givesTokens gives

end Scanner

theorem metricsSummariseTokens (limits : Limits) (settings : Settings.Lexical)
    (source : List Char) :
    (∀ calls,
      let turn := (Scanner.start limits settings source).pulls calls
      let ts := givenTokens turn.answer
      let m := turn.scanner.metrics
      turn.scanner.emitted = ts.length ∧
        (settings.collectMetrics = true → m.Summarises ts ∧ m.tally.total = ts.length ∧
          (∀ k, m.tally.get k = ts.countP (·.kind = k)) ∧
          (m.symbolUsage.toList.map Prod.snd).sum = m.tally.symbols) ∧
        (settings.collectMetrics = false → m = .empty)) ∧
    ∀ elapsed tape, (Pass.run limits settings elapsed source).result = .ok tape →
      tape.tally.total = tape.size ∧
      (settings.collectMetrics = true →
        tape.tally = (Pass.scan limits settings source).scanner.metrics.tally ∧
        ∀ calls,
          let s := ((Scanner.start limits settings source).pulls calls).scanner
          s.isExhausted → tape.tally = s.metrics.tally) := by
  have fresh := Scanner.startGiven limits settings source
  have given (calls : List Pull) := Scanner.pullsGiven fresh calls
  refine ⟨fun calls => ⟨(given calls).emitted, fun on => ?_, (given calls).idle⟩, ?_⟩
  · have summarises := (given calls).collected on
    refine ⟨summarises, ?_, fun k => ?_, Metrics.usageTotal summarises⟩
    · rw [summarises.tally, Tally.totalOfTokens]
      rfl
    · rw [summarises.tally, Tally.getOfTokens]
      rfl
  · intro elapsed tape read
    obtain ⟨ts, delivers, rfl⟩ := Pass.runOkIff.mp read
    have tally : (Tape.ofList ts (some (LineIndex.ofChars source))).tally =
        .ofTokens (ts.map Located.value) := Tape.tallyTokens _
    rw [tally]
    refine ⟨?_, fun on => ⟨?_, fun calls exhausted => ?_⟩⟩
    · rw [Tally.totalOfTokens, List.length_map]
      rfl
    · have scanned := Scanner.gatherGiven fresh (Scanner.drainOkIff.mpr delivers)
      exact (scanned.collected on).tally.symm
    · have all := Scanner.pullsExhausted ⟨delivers, nofun⟩ exhausted
      rw [((given calls).collected on).tally, List.nil_append, all]

end MathTokens

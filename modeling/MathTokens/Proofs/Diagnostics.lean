import MathTokens.CommandLine.Listing
import MathTokens.Proofs.Excerpt
import MathTokens.Proofs.Outcomes
import MathTokens.Startup

/-! Where reports point. Whatever is told of a source, a token or a failure, is told of a text on one
line that is shown with carets under that text, and no part of a report breaks its lines. -/
namespace MathTokens

def OneLine (s : String) : Prop := '\n' ∉ s.toList
instance (s : String) : Decidable (OneLine s) := by unfold OneLine; infer_instance

@[simp] theorem oneLineOf {s : String} (plain : '\n' ∉ s.toList) : OneLine s := plain

@[simp] theorem oneLineAppend (s t : String) : OneLine (s ++ t) ↔ OneLine s ∧ OneLine t := by
  simp [OneLine]

@[simp] theorem oneLinePush (s : String) (c : Char) :
    OneLine (s.push c) ↔ OneLine s ∧ c ≠ '\n' := by
  simp [OneLine, eq_comm]

@[simp] theorem oneLineOfList (cs : List Char) : OneLine (String.ofList cs) ↔ '\n' ∉ cs := by
  simp [OneLine]

@[simp] theorem oneLineString (s : String) : OneLine (toString s) ↔ OneLine s := Iff.rfl

@[simp] theorem oneLineNat (n : Nat) : OneLine n.repr := by
  intro feed
  rw [Nat.toList_repr] at feed
  exact absurd (Nat.isDigit_of_mem_toDigits (by decide) (by decide) feed) (by decide)

@[simp] theorem oneLinePlace (p : Position) : OneLine p.text := by
  unfold Position.text
  simp

theorem oneLineExcerpt {text : List Char} (line : '\n' ∉ text) : OneLine (excerpt text) := by
  unfold excerpt
  split
  · simpa using line
  · have front : '\n' ∉ text.take excerptLength := fun feed => line (List.mem_of_mem_take feed)
    simp [front]

@[simp] theorem oneLineKind (k : Kind) : OneLine k.text := by
  cases k <;> decide

theorem LexError.codeRegistered (e : LexError) : e.code ∈ Startup.lexicalCodes := by
  unfold code Startup.lexicalCodes
  cases e with
  | construction _ _ _ defect => cases defect <;> simp [Defect.code]
  | unexpectedCharacter | unterminatedString | unbalancedQuotes | tooManyTokens => simp

theorem oneLineCode (e : LexError) : OneLine e.code.text ∧ OneLine e.code.category := by
  have registered : ∀ code ∈ Startup.lexicalCodes, OneLine code.text ∧ OneLine code.category := by
    decide +kernel
  exact registered e.code e.codeRegistered

theorem oneLineDefect {k : Kind} {defect : Defect} (h : defect.Of k) : OneLine defect.message := by
  cases defect with
  | numberTooLong | numberOutOfRange | nameTooLong | stringTooLarge =>
    unfold Defect.message
    simp
  | malformedNumber | notOneCharacter => cases k <;> cases h

def LexError.Plain : LexError → Prop
  | .construction _ x _ defect => OneLine x ∧ OneLine defect.message
  | .unexpectedCharacter c _ => c ≠ '\n'
  | .unbalancedQuotes word _ => OneLine word
  | .unterminatedString _ | .tooManyTokens .. => True

theorem oneLineMessage {e : LexError} (plain : e.Plain) : OneLine e.message := by
  unfold LexError.message
  cases e with
  | construction kind x span defect => simp [plain.1, plain.2]
  | unexpectedCharacter c span => simp [show c ≠ '\n' from plain]
  | unbalancedQuotes word span => simp [show OneLine word from plain]
  | unterminatedString span | tooManyTokens limit span => simp

theorem oneLineCause {e : LexError} (plain : e.Plain) :
    ∀ defect ∈ e.cause?, OneLine defect.message := by
  cases e with
  | construction kind x span defect => rintro _ ⟨⟩; exact plain.2
  | unexpectedCharacter | unbalancedQuotes | unterminatedString | tooManyTokens => exact nofun

/-! What a rule cuts off, and what is told of an input that no rule accepts, can be underlined. -/

theorem unseparatedClear {text : List Char} (nonempty : text ≠ [])
    (h : ∀ c ∈ text, isSeparator c = false) : Clear text where
  nonempty := nonempty
  line feed := nomatch h _ feed
  last final := nomatch h _ (List.mem_of_getLast? final)

theorem wordClear {cs text rest : List Char} (cut : splitWord? cs = some (text, rest)) :
    Clear text := by
  refine unseparatedClear (splitWordWhole cut).2 fun c member => wordNotSeparator ?_
  obtain ⟨word, _⟩ := splitWordIff.mp cut
  cases text with
  | nil => cases member
  | cons d text =>
    rcases List.mem_cons.mp member with rfl | inside
    · exact alphaWord word.1
    · exact word.2 c inside

theorem firstClear {first : Char} {others : List Char}
    (stops : Stops isSeparator (first :: others)) : Clear [first] :=
  unseparatedClear (by simp) (by simpa [Stops] using stops)

theorem unclosedClear (others : List Char) :
    Clear (Text.trimEnd (· == '\r') (('"' :: others).takeWhile (· != '\n'))) := by
  have kept : ∀ c ∈ ['"'].getLast?, (c == '\r') = false := by simp
  have opened : Text.trimEnd (· == '\r') (('"' :: others).takeWhile (· != '\n')) =
      '"' :: Text.trimEnd (· == '\r') (others.takeWhile (· != '\n')) :=
    Text.trimEndKeeps (· == '\r') kept _
  refine ⟨by rw [opened]; exact List.cons_ne_nil _ _, fun feed => ?_, fun final => ?_⟩
  · obtain ⟨tail, line⟩ := Text.trimEndAppend (· == '\r') (('"' :: others).takeWhile (· != '\n'))
    have inside := takenAll (· != '\n') ('"' :: others) '\n'
      (line ▸ List.mem_append_left tail feed)
    cases inside
  · cases Text.trimEndLast (· == '\r') _ _ final

namespace Rule

def CutsClear (rule : Rule) : Prop :=
  ∀ {cs text rest : List Char}, rule.split? cs = some (text, rest) → Clear text

theorem nameClear : name.CutsClear := by
  intro cs text rest cut
  exact wordClear (splitNameIff.mp cut).1

theorem stringClear : string.CutsClear := by
  intro cs text rest cut
  obtain ⟨body, _, line, rfl, _⟩ := Quoted.splitLiteralIff.mp cut
  refine ⟨by simp, by simp [line], ?_⟩
  rw [← List.cons_append, List.getLast?_concat]
  decide

theorem numberClear : number.CutsClear := by
  intro cs text rest cut
  obtain ⟨nonempty, digits, _⟩ := splitDigitsIff.mp cut
  exact unseparatedClear nonempty fun c member => wordNotSeparator (digitWord (digits c member))

theorem symbolClear : symbol.CutsClear := by
  intro cs text rest cut
  obtain ⟨c, symbolic, rfl, _⟩ := splitSymbolIff.mp cut
  exact unseparatedClear (by simp) (by simpa using symbolic.separator)

theorem tableClear : ∀ rule ∈ table, rule.CutsClear := by
  simp only [table, List.forall_mem_cons]
  exact ⟨nameClear, stringClear, numberClear, symbolClear, by simp⟩

end Rule

namespace Lexing

variable {limits : Limits.Lexical} {emitted : Nat} {p : Position} {input : List Char} {e : LexError}

/- An open quote is underlined up to the carriage returns of its line; where there is no room for a
token, the first character of that token is. -/
theorem failsUnderlined (h : Fails Rule.table limits emitted p input e)
    (stops : Stops isSeparator input) :
    ∃ text marked after, e.span = .covering p text ∧ input = marked ++ after ∧
      Underlines marked text := by
  cases h with
  | @full first others => exact ⟨[], [first], others, rfl, rfl, .first (firstClear stops)⟩
  | @refused _ rule text after _ found =>
    obtain ⟨member, cut⟩ := firstMatchSource found
    exact ⟨text, text, after, rfl, (firstMatchWhole found).1,
      .whole (Rule.tableClear rule member cut)⟩
  | @unclosed others =>
    obtain ⟨after, front⟩ := unclosedFront others
    exact ⟨_, _, after, rfl, front, .whole (unclosedClear others)⟩
  | @unbalanced _ word after _ cut =>
    exact ⟨word, word, after, rfl, (splitWordWhole cut).1, .whole (wordClear cut)⟩
  | @stray first others =>
    exact ⟨[first], [first], others, rfl, rfl, .whole (firstClear stops)⟩

theorem failsPlain (h : Fails Rule.table limits emitted p input e)
    (stops : Stops isSeparator input) : e.Plain := by
  cases h with
  | full | unclosed => trivial
  | @refused _ rule text after defect found built =>
    obtain ⟨member, cut⟩ := firstMatchSource found
    refine ⟨oneLineExcerpt (Rule.tableClear rule member cut).line, ?_⟩
    rcases Rule.tableSettles rule member cut with ⟨t, other, _⟩ | ⟨other, same, of⟩
    · cases built.symm.trans other
    · cases built.symm.trans same
      exact oneLineDefect of
  | unbalanced missed cut => exact oneLineExcerpt (wordClear cut).line
  | stray => exact fun feed => (firstClear stops).line (List.mem_singleton.mpr feed.symm)

end Lexing

def reportLines (line text : List Char) (e : LexError) : List String :=
  LineIndex.explainedLines line e.span (max 1 text.length) e.message ++
    e.cause?.toList.map (fun defect => "  caused by: " ++ defect.message) ++
    ["  [" ++ e.code.text ++ "] " ++ e.code.category]

structure Reported (source : List Char) (e : LexError) : Prop where
  message : OneLine e.message
  cause : ∀ defect ∈ e.cause?, OneLine defect.message
  report : ∃ line text, Pinpoints source e.span line text ∧
    CommandLine.failureReport source e = printed (reportLines line text e) ∧
    (∀ row ∈ reportLines line text e, OneLine row) ∧
    (reportLines line text e).length = if e.cause?.isSome then 7 else 6

theorem explainedOneLine {line : List Char} (plain : '\n' ∉ line) (span : Span) (carets : Nat)
    {message : String} (told : OneLine message) :
    ∀ row ∈ LineIndex.explainedLines line span carets message, OneLine row := by
  have filled (n : Nat) {c : Char} (other : c ≠ '\n') : '\n' ∉ List.replicate n c := by
    simp [List.mem_replicate, other.symm]
  have spaces (n : Nat) : OneLine (Text.spaces n) := (oneLineOfList _).mpr (filled n (by decide))
  have marks : '\n' ∉ List.replicate carets '^' := filled carets (by decide)
  simp [LineIndex.explainedLines, LineIndex.excerptLines, told, spaces, marks, plain]

theorem pinpointsReported {source : List Char} {e : LexError} {line text : List Char}
    (h : Pinpoints source e.span line text) (plain : e.Plain) : Reported source e := by
  have message := oneLineMessage plain
  refine ⟨message, oneLineCause plain, line, text, h, ?_, ?_, ?_⟩
  · rw [CommandLine.failureReport, h.explained, reportLines, printedAppend, printedAppend]
    cases e.cause? with
    | none => simp [String.append_assoc]
    | some defect =>
      simp only [Option.toList_some, List.map_cons, List.map_nil, printedCons, printedNil,
        String.append_assoc, String.append_empty]
  · intro row member
    simp only [reportLines, List.mem_append, List.mem_map, List.mem_singleton,
      Option.mem_toList] at member
    rcases member with (shown | ⟨defect, only, rfl⟩) | rfl
    · exact explainedOneLine h.plain e.span (max 1 text.length) message row shown
    · simpa using oneLineCause plain defect only
    · simpa using oneLineCode e
  · cases cause : e.cause? <;>
      simp [reportLines, LineIndex.explainedLines, LineIndex.excerptLines, cause]

namespace Scanner

def Points (s : Scanner) (span : Span) : Prop :=
  ∃ text marked after, span = .covering s.position text ∧ s.rest = marked ++ after ∧
    Underlines marked text

theorem pointsPinpoint {s : Scanner} (placed : s.Placed) (small : Addressable s.source)
    {span : Span} (points : s.Points span) : Pinpointed s.source span := by
  obtain ⟨text, marked, after, rfl, rest, underlines⟩ := points
  obtain ⟨front, source, place⟩ := placed.front
  rw [rest] at source
  exact place ▸ underlinedPinpoints small source underlines

structure Within (s : Scanner) (source : List Char) : Prop where
  rules : s.rules = Rule.table
  source : s.source = source
  placed : s.Placed

theorem startWithin (limits : Limits) (settings : Settings.Lexical) (source : List Char) :
    (start limits settings source).Within source :=
  ⟨rfl, rfl, startPlaced Rule.table limits settings source⟩

theorem pullWithin {s : Scanner} {source : List Char} (h : s.Within source) (p : Pull) :
    (s.pull p).scanner.Within source :=
  have akin := pullAkin s p
  ⟨akin.rules.trans h.rules, akin.source.trans h.source, (pullPlaced h.placed p).1⟩

theorem nextWithin {s : Scanner} {source : List Char} (h : s.Within source) {t : LocatedToken}
    (answer : s.next.answer = .ok (some t)) : s.next.scanner.Within source :=
  have akin := nextAkin s
  ⟨akin.rules.trans h.rules, akin.source.trans h.source, (nextPlaced h.placed answer).1⟩

variable {s : Scanner} {source : List Char}

theorem tokenPinpointed (h : s.Within source) (small : Addressable source)
    {t : LocatedToken} (answer : s.next.answer = .ok (some t)) : Pinpointed source t.span := by
  obtain ⟨lexeme, stepped, rfl⟩ := nextTokenIff.mp answer
  obtain ⟨_, rule, text, after, token, found, _, rfl⟩ := Lexing.stepTokenIff.mp stepped
  rw [h.rules] at found
  obtain ⟨member, cut⟩ := Lexing.firstMatchSource found
  rw [← h.source] at small ⊢
  exact pointsPinpoint h.placed small ⟨text, text, after, rfl, (Lexing.firstMatchWhole found).1,
    .whole (Rule.tableClear rule member cut)⟩

theorem failureReported (h : s.Within source) (small : Addressable source)
    {e : LexError} (answer : s.next.answer = .error e) : Reported source e := by
  have fails := Lexing.stepFails (nextFailedIff.mp answer)
  rw [h.rules] at fails
  rw [← h.source] at small ⊢
  obtain ⟨line, text, pinpoints⟩ :=
    pointsPinpoint h.placed small (Lexing.failsUnderlined fails h.placed.stops)
  exact pinpointsReported pinpoints (Lexing.failsPlain fails h.placed.stops)

theorem pullsReported (h : s.Within source) (small : Addressable source)
    (calls : List Pull) :
    ∀ call ∈ (s.pulls calls).answer,
      (∀ span ∈ call.2.span?, Pinpointed source span) ∧
      ∀ e, call.2 = .failed e → Reported source e := by
  refine (pullsKeep (I := (Within · source)) (Q := fun _ reply =>
    (∀ span ∈ reply.span?, Pinpointed source span) ∧ ∀ e, reply = .failed e → Reported source e)
    (fun s p h => ⟨pullWithin h p, ?_⟩) h calls).2
  have call := pulled s p
  generalize (s.pull p).answer = reply, (s.pull p).scanner = after at call
  cases call with
  | past | ended => exact ⟨nofun, nofun⟩
  | failed answer =>
    have reported := failureReported h small answer
    obtain ⟨line, text, pinpoints, _⟩ := reported.report
    refine ⟨?_, ?_⟩
    · rintro span ⟨⟩
      exact ⟨line, text, pinpoints⟩
    · rintro e ⟨⟩
      exact reported
  | token answer =>
    refine ⟨fun span shown => ?_, nofun⟩
    cases p with
    | located =>
      cases shown
      exact tokenPinpointed h small answer
    | token | reader | iterate => cases shown

theorem deliversReported {ts : List LocatedToken} {failure : Option LexError}
    (delivers : s.Delivers ts failure) (h : s.Within source)
    (small : Addressable source) :
    (∀ t ∈ ts, Pinpointed source t.span) ∧ ∀ e ∈ failure, Reported source e := by
  induction delivers with
  | ended => exact ⟨by simp, nofun⟩
  | failed answer =>
    refine ⟨by simp, ?_⟩
    rintro e ⟨⟩
    exact failureReported h small answer
  | token answer later ih =>
    obtain ⟨tokens, failed⟩ := ih (nextWithin h answer)
    exact ⟨List.forall_mem_cons.mpr ⟨tokenPinpointed h small answer, tokens⟩, failed⟩

end Scanner

theorem reportsPointAtText (limits : Limits) (settings : Settings.Lexical) (source : List Char)
    (small : Addressable source) :
    (∀ elapsed tape, (Pass.run limits settings elapsed source).result = .ok tape →
      ∀ t ∈ tape.tokens.toList, Pinpointed source t.span) ∧
    (∀ elapsed e, (Pass.run limits settings elapsed source).result = .error e →
      Reported source e) ∧
    ∀ calls, ∀ call ∈ ((Scanner.start limits settings source).pulls calls).answer,
      (∀ span ∈ call.2.span?, Pinpointed source span) ∧
      ∀ e, call.2 = .failed e → Reported source e := by
  have start := Scanner.startWithin limits settings source
  refine ⟨?_, ?_, Scanner.pullsReported start small⟩
  · intro elapsed tape read
    obtain ⟨ts, delivers, rfl⟩ := Pass.runOkIff.mp read
    exact (Scanner.deliversReported delivers start small).1
  · intro elapsed e failed
    obtain ⟨ts, delivers⟩ := Pass.runFailedIff.mp failed
    exact (Scanner.deliversReported delivers start small).2 e rfl

theorem openQuoteReported :
    let source := ";\n  \"π\r\r\nb".toList
    let e := LexError.unterminatedString ⟨⟨4, 2, 3⟩, ⟨7, 2, 5⟩⟩
    Addressable source ∧
      (Pass.run .production (.ofEnvironment []) 0 source).result = .error e ∧
      Reported source e ∧
      CommandLine.failureReport source e = "Error: Unterminated string literal at 2:3\n" ++
        "  --> 2:3\n  |\n2 |   \"π\n  |   ^^\n  [E021] Lexical\n" := by
  intro source e
  have small : Addressable source := by decide
  have failed : (Pass.run .production (.ofEnvironment []) 0 source).result = .error e :=
    Pass.runFailedIff.mpr (Scanner.drainFailedIff.mp (by decide +kernel))
  obtain ⟨_, reported, _⟩ := reportsPointAtText .production (.ofEnvironment []) source small
  exact ⟨small, failed, reported 0 e failed, by decide +kernel⟩

end MathTokens

import MathTokens.File.Intake
import MathTokens.Proofs.Rows
import MathTokens.Startup

/-! Which files are taken in. Each check has its own objection to a file, whatever the others say; the
first of them in a fixed order is the error, told once in the log, and a file without one is taken. -/
namespace MathTokens

theorem lineCountTable (cs : List Char) :
    lineCount cs + (if cs = [] ∨ cs.getLast? = some '\n' then 1 else 0) =
      (LineIndex.ofChars cs).lineCount := by
  rw [LineIndex.lineCountRows, rowsCount, lineCount]
  cases last : cs.getLast? with
  | none => simp [List.getLast?_eq_none_iff.mp last]
  | some c =>
    have filled : cs ≠ [] := fun empty => by simp [empty] at last
    by_cases fed : c = '\n'
    · simp [filled, fed]
    · simp [filled, fed]

namespace Intake

inductive Check where
  | path | presence | regular | size | extension | encoding | lines
  deriving DecidableEq, Repr

namespace Check

def rank : Check → Nat
  | .path => 0
  | .presence => 1
  | .regular => 2
  | .size => 3
  | .extension => 4
  | .encoding => 5
  | .lines => 6

theorem rankInjective {check other : Check} (same : check.rank = other.rank) : check = other := by
  cases check <;> cases other <;> first | rfl | cases same

theorem rankBound (check : Check) : check.rank < Check.lines.rank + 1 := by
  cases check <;> decide

end Check

def extensionAt (place : List String) : Option String :=
  (place.getLast?.bind extension?).map Text.lowercase

section
variable (limits : Limits) (settings : Settings.Files) (path : String)

inductive Objects : Found → Check → FileError → Prop where
  | path {found} (empty : path = "") : Objects found .path (.invalidPath "")
  | presence : Objects .nothing .presence (.notFound path)
  | regular : Objects .notAFile .regular (.invalidPath path)
  | size {place size bytes} (exceeds : limits.files.fileSize < size) :
      Objects (.file place size bytes) .size (.tooLarge size limits.files.fileSize)
  | extension {place size bytes} (required : settings.requireExtension = true)
      (other : extensionAt place ≠ some sourceExtension) :
      Objects (.file place size bytes) .extension (.invalidExtension (extensionAt place))
  | encoding {place size bytes} (broken : ¬bytes.IsValidUTF8) :
      Objects (.file place size bytes) .encoding (.invalidEncoding (placeText place))
  | lines {place size} {source : String} (exceeds : limits.files.lineCount < lineCount source.toList) :
      Objects (.file place size source.toByteArray) .lines
        (.tooManyLines (lineCount source.toList) limits.files.lineCount)

def Clear (found : Found) (rank : Nat) : Prop :=
  ∀ check e, check.rank < rank → ¬Objects limits settings path found check e

def FirstObjection (found : Found) (e : FileError) : Prop :=
  ∃ check, Objects limits settings path found check e ∧ Clear limits settings path found check.rank

end

structure TakenFrom (found : Found) (elapsed : Nat) (f : SourceFile) : Prop where
  origin : ∃ place, found = .file place f.size f.source.toByteArray ∧ f.path = placeText place ∧
    f.extension = extensionAt place
  lines : f.lineCount + (if f.source.toList = [] ∨ f.source.toList.getLast? = some '\n' then 1 else 0) =
    (LineIndex.ofString f.source).lineCount
  elapsed : f.elapsed = elapsed

section
variable {limits : Limits} {settings : Settings.Files} {path : String} {found : Found}

theorem objectsUnique {check : Check} {e other : FileError}
    (first : Objects limits settings path found check e)
    (second : Objects limits settings path found check other) : e = other := by
  cases first with
  | lines =>
    generalize whole : String.toByteArray _ = bytes at second
    cases second
    rw [String.toByteArray_inj.mp whole]
  | path | presence | regular | size | extension | encoding =>
    cases second
    rfl

theorem firstUnique {e other : FileError} (first : FirstObjection limits settings path found e)
    (second : FirstObjection limits settings path found other) : e = other := by
  obtain ⟨check, objects, clear⟩ := first
  obtain ⟨check', objects', clear'⟩ := second
  have behind : ¬check.rank < check'.rank := fun before => clear' check e before objects
  have ahead : ¬check'.rank < check.rank := fun before => clear check' other before objects'
  cases Check.rankInjective (Nat.le_antisymm (Nat.not_lt.mp ahead) (Nat.not_lt.mp behind))
  exact objectsUnique objects objects'

theorem takenUnique {elapsed : Nat} {f other : SourceFile} (first : TakenFrom found elapsed f)
    (second : TakenFrom found elapsed other) : f = other := by
  obtain ⟨⟨place, origin, text, extension⟩, lines, spent⟩ := first
  obtain ⟨⟨place', origin', text', extension'⟩, lines', spent'⟩ := second
  obtain ⟨source, path, size, ext, count, elapsed⟩ := f
  obtain ⟨source', path', size', ext', count', elapsed'⟩ := other
  obtain ⟨rfl, rfl, bytes⟩ := Found.file.inj (origin.symm.trans origin')
  cases String.toByteArray_inj.mp bytes
  have same : count = count' := Nat.add_right_cancel (lines.trans lines'.symm)
  simp_all

theorem clearStart : Clear limits settings path found 0 :=
  fun _ _ below => absurd below (Nat.not_lt_zero _)

theorem clearNext (check : Check) (clear : Clear limits settings path found check.rank)
    (silent : ∀ e, ¬Objects limits settings path found check e) :
    Clear limits settings path found (check.rank + 1) := by
  intro other e below objects
  rcases Nat.lt_succ_iff_lt_or_eq.mp below with before | same
  · exact clear other e before objects
  · exact silent e (Check.rankInjective same ▸ objects)

structure Tells (e : FileError) (event : Event) : Prop where
  level : event.level = .error
  code : event.code = e.code

theorem failTells (e : FileError) (message : String) (pairs : List (String × String)) :
    Tells (fail limits e message pairs).1 (fail limits e message pairs).2 :=
  ⟨Event.withPairsLevel _ _, Event.withPairsCode _ _⟩

/- What a step of the intake comes to: a failure is the first objection and its report, and a step that
does not fail has what it promises. -/
def Judged {α : Type} (limits : Limits) (settings : Settings.Files) (path : String) (found : Found)
    (promised : α → Prop) : Except Failure α → Prop
  | .error (e, event) => FirstObjection limits settings path found e ∧ Tells e event
  | .ok a => promised a

theorem judgedFail {α : Type} {promised : α → Prop} {e : FileError} (check : Check)
    (clear : Clear limits settings path found check.rank)
    (objects : Objects limits settings path found check e) (message : String)
    (pairs : List (String × String)) :
    Judged limits settings path found promised (.error (fail limits e message pairs)) :=
  ⟨⟨check, objects, clear⟩, failTells e message pairs⟩

theorem judgedBind {α β : Type} {promised : α → Prop} {promisedNext : β → Prop}
    {step : Except Failure α} {next : α → Except Failure β}
    (first : Judged limits settings path found promised step)
    (later : ∀ a, promised a → Judged limits settings path found promisedNext (next a)) :
    Judged limits settings path found promisedNext (step.bind next) := by
  cases step with
  | error failure => exact first
  | ok a => exact later a first

theorem pathSilent (named : path ≠ "") (e : FileError) :
    ¬Objects limits settings path found .path e
  | .path empty => named empty

theorem fileClear (named : path ≠ "") (place : List String) (size : Nat) (bytes : ByteArray) :
    Clear limits settings path (.file place size bytes) Check.size.rank := by
  have past : Clear limits settings path (.file place size bytes) Check.presence.rank :=
    clearNext .path clearStart (pathSilent named)
  have present := clearNext .presence past fun e objects => by cases objects
  exact clearNext .regular present fun e objects => by cases objects

theorem locateJudged :
    Judged limits settings path found
      (fun c => ∃ place size bytes, found = .file place size bytes ∧ c = candidate place size bytes ∧
        Clear limits settings path found Check.size.rank)
      (locate limits path found) := by
  by_cases empty : path = ""
  · rw [locate.eq_def, if_pos (String.isEmpty_iff.mpr empty)]
    exact judgedFail .path clearStart (.path empty) _ _
  · rw [locate.eq_def, if_neg (fun none => empty (String.isEmpty_iff.mp none))]
    have named : Clear limits settings path found Check.presence.rank :=
      clearNext .path clearStart (pathSilent empty)
    cases found with
    | nothing => exact judgedFail .presence named .presence _ _
    | notAFile =>
      have present := clearNext .presence named fun e objects => by cases objects
      exact judgedFail .regular present .regular _ _
    | file place size bytes => exact ⟨place, size, bytes, rfl, rfl, fileClear empty place size bytes⟩

variable {place : List String} {size : Nat} {bytes : ByteArray}

theorem sizeSilent (fits : ¬limits.files.fileSize < size) (e : FileError) :
    ¬Objects limits settings path (.file place size bytes) .size e
  | .size exceeds => fits exceeds

theorem extensionSilent
    (welcome : ¬(settings.requireExtension ∧ extensionAt place ≠ some sourceExtension))
    (e : FileError) : ¬Objects limits settings path (.file place size bytes) .extension e
  | .extension required other => welcome ⟨required, other⟩

theorem screenJudged (clear : Clear limits settings path (.file place size bytes) Check.size.rank) :
    Judged limits settings path (.file place size bytes)
      (fun _ => Clear limits settings path (.file place size bytes) Check.encoding.rank)
      (screen limits settings path (candidate place size bytes)) := by
  rw [screen.eq_def]
  split
  · next exceeds => exact judgedFail .size clear (.size exceeds) _ _
  · next fits =>
    have small := clearNext .size clear (sizeSilent fits)
    split
    · next other => exact judgedFail .extension small (.extension other.1 other.2) _ _
    · next welcome => exact clearNext .extension small (extensionSilent welcome)

theorem encodingSilent (valid : bytes.IsValidUTF8) (e : FileError) :
    ¬Objects limits settings path (.file place size bytes) .encoding e
  | .encoding broken => broken valid

theorem decodeJudged (clear : Clear limits settings path (.file place size bytes) Check.encoding.rank) :
    Judged limits settings path (.file place size bytes)
      (fun source => source.toByteArray = bytes ∧
        Clear limits settings path (.file place size bytes) Check.lines.rank)
      (decode limits path (candidate place size bytes)) := by
  by_cases valid : bytes.IsValidUTF8
  · have decoded : String.fromUTF8? (candidate place size bytes).bytes = some (.fromUTF8 bytes valid) :=
      dif_pos valid
    rw [decode.eq_def, decoded]
    exact ⟨rfl, clearNext .encoding clear (encodingSilent valid)⟩
  · have broken : String.fromUTF8? (candidate place size bytes).bytes = none := dif_neg valid
    rw [decode.eq_def, broken]
    exact judgedFail .encoding clear (.encoding valid) _ _

theorem linesSilent {source : String} (fits : ¬limits.files.lineCount < lineCount source.toList)
    (whole : source.toByteArray = bytes) (e : FileError) :
    ¬Objects limits settings path (.file place size bytes) .lines e := by
  intro objects
  cases objects with
  | lines exceeds => exact fits (String.toByteArray_inj.mp whole ▸ exceeds)

theorem linesJudged {source : String}
    (clear : Clear limits settings path (.file place size source.toByteArray) Check.lines.rank) :
    Judged limits settings path (.file place size source.toByteArray)
      (fun lines => lines = lineCount source.toList ∧
        Clear limits settings path (.file place size source.toByteArray) (Check.lines.rank + 1))
      (checkLines limits path source) := by
  by_cases exceeds : limits.files.lineCount < lineCount source.toList
  · have refused : checkLines limits path source = .error _ := if_pos exceeds
    rw [refused]
    exact judgedFail .lines clear (.lines exceeds) _ _
  · have passed : checkLines limits path source = .ok _ := if_neg exceeds
    rw [passed]
    exact ⟨rfl, clearNext .lines clear (linesSilent exceeds rfl)⟩

def judge (limits : Limits) (settings : Settings.Files) (elapsed : Nat) (path : String)
    (found : Found) : Except Failure SourceFile := do
  let c ← locate limits path found
  screen limits settings path c
  let source ← decode limits path c
  let lines ← checkLines limits path source
  .ok ⟨source, c.path, c.size, c.extension, lines, elapsed⟩

variable (limits settings path found) in
theorem judgeJudged (elapsed : Nat) :
    Judged limits settings path found
      (fun f => TakenFrom found elapsed f ∧ ∀ check e, ¬Objects limits settings path found check e)
      (judge limits settings elapsed path found) := by
  refine judgedBind locateJudged fun c ⟨place, size, bytes, file, located, regular⟩ => ?_
  subst file located
  refine judgedBind (screenJudged regular) fun _ welcome => ?_
  refine judgedBind (decodeJudged welcome) fun source ⟨whole, decoded⟩ => ?_
  subst whole
  refine judgedBind (linesJudged decoded) fun lines ⟨counted, short⟩ => ?_
  subst counted
  exact ⟨⟨⟨place, rfl, rfl, rfl⟩, lineCountTable _, rfl⟩, fun check e => short check e check.rankBound⟩

def Quiet (event : Event) : Prop := event.level = .debug ∧ event.code = .plainDebug

theorem debugQuiet (message : String) (pairs : List (String × String)) :
    Quiet (debug limits message pairs) :=
  ⟨Event.withPairsLevel _ _, Event.withPairsCode _ _⟩

variable (limits settings path found) in
theorem runJudges (elapsed : Nat) : ∃ quiet, (∀ event ∈ quiet, Quiet event) ∧
    run limits settings elapsed path found =
      match judge limits settings elapsed path found with
      | .error (e, event) => ⟨.error e, quiet ++ [event]⟩
      | .ok f => ⟨.ok f, quiet ++ [doneEvent limits settings path f]⟩ := by
  have started : ∀ event ∈ [startEvent limits path], Quiet event :=
    List.forall_mem_singleton.mpr (debugQuiet _ _)
  have seen (c : Candidate) :
      ∀ event ∈ [startEvent limits path, locatedEvent limits c, candidateEvent limits c], Quiet event :=
    List.forall_mem_cons.mpr ⟨debugQuiet _ _, List.forall_mem_cons.mpr
      ⟨debugQuiet _ _, List.forall_mem_singleton.mpr (debugQuiet _ _)⟩⟩
  have read (c : Candidate) (source : String) : ∀ event ∈ [startEvent limits path,
      locatedEvent limits c, candidateEvent limits c, readEvent limits path source], Quiet event :=
    List.forall_mem_append.mpr ⟨seen c, List.forall_mem_singleton.mpr (debugQuiet _ _)⟩
  rw [run.eq_def, judge.eq_def]
  cases locate limits path found with
  | error failure => exact ⟨_, started, rfl⟩
  | ok c =>
    dsimp only [bind, Except.bind]
    cases screen limits settings path c with
    | error failure => exact ⟨_, seen c, rfl⟩
    | ok =>
      dsimp only
      cases decode limits path c with
      | error failure => exact ⟨_, seen c, rfl⟩
      | ok source =>
        dsimp only
        cases checkLines limits path source with
        | error failure => exact ⟨_, read c source, rfl⟩
        | ok lines => exact ⟨_, read c source, rfl⟩

theorem codeOther (e : FileError) : e.code ≠ .fileProcessed := by
  have registered : e.code ∈ Startup.fileCodes := by
    cases e <;> simp [FileError.code, Startup.fileCodes]
  have others : ∀ code ∈ Startup.fileCodes, code ≠ .fileProcessed := by decide
  exact others e.code registered

variable (limits settings path) in
theorem doneEventTells (f : SourceFile) :
    (doneEvent limits settings path f).level = .info ∧
      (doneEvent limits settings path f).code = .fileProcessed := by
  rw [doneEvent.eq_def]
  split <;> exact ⟨Event.withPairsLevel _ _, Event.withPairsCode _ _⟩

section
variable {quiet : List Event} (still : ∀ event ∈ quiet, Quiet event) {event : Event}
include still

theorem refusalTold {e : FileError} (tells : Tells e event) :
    ((quiet ++ [event]).filter (·.level = .error)).map Event.code = [e.code] ∧
      ∀ other ∈ quiet ++ [event], other.code ≠ .fileProcessed := by
  have noError : quiet.filter (·.level = .error) = [] :=
    List.filter_eq_nil_iff.mpr fun other member => by simp [(still other member).1]
  have noDone : ∀ other ∈ quiet, other.code ≠ .fileProcessed := fun other member => by
    rw [(still other member).2]
    decide
  constructor
  · rw [List.filter_append, noError, List.filter_singleton, tells.level]
    exact congrArg (List.cons · []) tells.code
  · exact List.forall_mem_append.mpr
      ⟨noDone, List.forall_mem_singleton.mpr (tells.code ▸ codeOther e)⟩

theorem successTold (level : event.level = .info) (code : event.code = .fileProcessed) :
    (quiet ++ [event]).filter (·.code = .fileProcessed) = [event] ∧
      ∀ other ∈ quiet ++ [event], other.level ≠ .error := by
  have noDone : quiet.filter (·.code = .fileProcessed) = [] :=
    List.filter_eq_nil_iff.mpr fun other member => by
      rw [(still other member).2]
      decide
  have noError : ∀ other ∈ quiet, other.level ≠ .error := fun other member => by
    simp [(still other member).1]
  constructor
  · rw [List.filter_append, noDone, List.filter_singleton, code]
    rfl
  · exact List.forall_mem_append.mpr ⟨noError, List.forall_mem_singleton.mpr (by simp [level])⟩

end

variable (limits settings path found) in
theorem runEnds (elapsed : Nat) :
    let outcome := run limits settings elapsed path found
    (∃ e, outcome.result = .error e ∧ FirstObjection limits settings path found e ∧
      (outcome.events.filter (·.level = .error)).map Event.code = [e.code] ∧
        ∀ event ∈ outcome.events, event.code ≠ .fileProcessed) ∨
    ∃ f, outcome.result = .ok f ∧ (TakenFrom found elapsed f ∧
        ∀ check e, ¬Objects limits settings path found check e) ∧
      outcome.events.filter (·.code = .fileProcessed) = [doneEvent limits settings path f] ∧
        ∀ event ∈ outcome.events, event.level ≠ .error := by
  intro outcome
  obtain ⟨quiet, still, whole⟩ := runJudges limits settings path found elapsed
  have judged := judgeJudged limits settings path found elapsed
  change outcome = _ at whole
  cases ended : judge limits settings elapsed path found with
  | error failure =>
    obtain ⟨e, event⟩ := failure
    rw [ended] at whole judged
    obtain ⟨first, tells⟩ := judged
    rw [whole]
    exact .inl ⟨e, rfl, first, refusalTold still tells⟩
  | ok f =>
    rw [ended] at whole judged
    obtain ⟨level, code⟩ := doneEventTells limits settings path f
    rw [whole]
    exact .inr ⟨f, rfl, judged, successTold still level code⟩

end

theorem intakeDecidesInOrder (limits : Limits) (settings : Settings.Files) (elapsed : Nat)
    (path : String) (found : Found) :
    let outcome := run limits settings elapsed path found
    (∀ e, outcome.result = .error e ↔ FirstObjection limits settings path found e) ∧
    (∀ f, outcome.result = .ok f ↔ TakenFrom found elapsed f ∧
      ∀ check e, ¬Objects limits settings path found check e) ∧
    (∀ e, outcome.result = .error e →
      (outcome.events.filter (·.level = .error)).map Event.code = [e.code] ∧
        ∀ event ∈ outcome.events, event.code ≠ .fileProcessed) ∧
    (∀ f, outcome.result = .ok f →
      outcome.events.filter (·.code = .fileProcessed) = [doneEvent limits settings path f] ∧
        ∀ event ∈ outcome.events, event.level ≠ .error) := by
  intro outcome
  rcases runEnds limits settings path found elapsed with
    ⟨e, refused, first, told⟩ | ⟨f, read, taken, told⟩
  · change outcome.result = _ at refused
    refine ⟨fun other => ?_, fun f => ?_, fun other again => ?_, fun f read => ?_⟩
    · rw [refused, Except.error.injEq]
      exact ⟨fun same => same ▸ first, firstUnique first⟩
    · obtain ⟨check, objects, _⟩ := first
      rw [refused]
      exact ⟨nofun, fun ⟨_, silent⟩ => absurd objects (silent check e)⟩
    · cases refused.symm.trans again
      exact told
    · cases refused.symm.trans read
  · change outcome.result = _ at read
    refine ⟨fun e => ?_, fun other => ?_, fun e refused => ?_, fun other again => ?_⟩
    · rw [read]
      exact ⟨nofun, fun ⟨check, objects, _⟩ => absurd objects (taken.2 check e)⟩
    · rw [read, Except.ok.injEq]
      exact ⟨fun same => same ▸ taken, fun again => takenUnique taken.1 again.1⟩
    · cases read.symm.trans refused
    · cases read.symm.trans again
      exact told

theorem sizeCountsFirst :
    let settings : Settings.Files := ⟨true, true⟩
    let found : Found := .file ["work", "notes.TXT"] 2000000 ⟨#[0xff]⟩
    let outcome := run .production settings 0 "notes.TXT" found
    Objects .production settings "notes.TXT" found .extension (.invalidExtension (some "txt")) ∧
    Objects .production settings "notes.TXT" found .encoding (.invalidEncoding "/work/notes.TXT") ∧
    outcome.result = .error (.tooLarge 2000000 1048576) ∧
    (outcome.events.filter (·.level = .error)).map Event.code = [.fileTooLarge] := by
  intro settings found outcome
  have lowered : extensionAt ["work", "notes.TXT"] = some "txt" := by decide +kernel
  have foreign : Objects .production settings "notes.TXT" found .extension
      (.invalidExtension (extensionAt ["work", "notes.TXT"])) :=
    .extension rfl (by rw [lowered]; decide)
  have large : Objects .production settings "notes.TXT" found .size (.tooLarge 2000000 1048576) :=
    .size (by decide)
  obtain ⟨errors, _, told, _⟩ := intakeDecidesInOrder .production settings 0 "notes.TXT" found
  have refused := (errors _).mpr ⟨.size, large, fileClear (by decide) _ _ _⟩
  exact ⟨lowered ▸ foreign, .encoding (by decide), refused, (told _ refused).1⟩

end Intake
end MathTokens

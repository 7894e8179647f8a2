import Mathlib.Data.List.TakeWhile
import MathTokens.File.Intake
import MathTokens.Proofs.Outcomes
import MathTokens.Proofs.TokenLimit

/-! What counts as an empty program. A file is empty if it is white space of any kind. A pass finds
nothing only in a source that is all separators, and reads any other white space as symbols. -/
namespace MathTokens

theorem separatorBlank {c : Char} (h : isSeparator c) : Text.isBlank c := by
  rcases separatorCases h with rfl | rfl | rfl | rfl | rfl | rfl <;> decide

theorem blankRange {c : Char} (h : Text.isBlank c) : c.toNat ≤ 32 ∨ 133 ≤ c.toNat := by
  obtain ⟨⟨first, last⟩, member, inside⟩ := List.any_eq_true.mp h
  have bounds : ∀ range ∈ Text.blanks, range.2 ≤ 32 ∨ 133 ≤ range.1 := by decide
  have apart := bounds _ member
  simp only [Bool.and_eq_true, decide_eq_true_eq] at inside apart
  omega

theorem blankSymbolic {c : Char} (blank : Text.isBlank c) (other : isSeparator c = false) :
    IsSymbolic c where
  separator := other
  word := by
    have range := blankRange blank
    refine Bool.eq_false_iff.mpr fun word => ?_
    rcases (wordCharIff c).mp word with alpha | digit | rfl
    · have letter := alphaRange alpha
      omega
    · have figure := digitRange digit
      omega
    · revert range
      decide
  quote := by
    rintro rfl
    exact absurd blank (by decide)

def Symbolic (cs : List Char) : Prop := ∀ c ∈ cs, isSeparator c = false → IsSymbolic c

def symbols (cs : List Char) : List Token := (cs.filter fun c => !isSeparator c).map .symbol

theorem symbolsDropped (cs : List Char) : symbols (cs.dropWhile isSeparator) = symbols cs := by
  induction cs with
  | nil => rfl
  | cons c cs ih =>
    rw [List.dropWhile_cons]
    split
    · next separator =>
      rw [ih]
      simp [symbols, separator]
    · rfl

theorem symbolicDropped {cs : List Char} (h : Symbolic cs) :
    Symbolic (cs.dropWhile isSeparator) :=
  fun c member => h c ((List.dropWhile_sublist isSeparator).subset member)

namespace Lexing

theorem unlimitedSymbols (limits : Limits.Lexical) (p : Position) {input : List Char}
    (symbolic : Symbolic input) (stops : Stops isSeparator input) :
    ∃ ts, unlimited Rule.table limits p input = ⟨ts, none⟩ ∧ ts.map (·.value) = symbols input := by
  cases input with
  | nil =>
    rw [unlimitedStepped]
    exact ⟨[], rfl, rfl⟩
  | cons c cs =>
    have separator : isSeparator c = false := stops c rfl
    have found := firstMatchSymbol (symbolic c (by simp) separator) cs
    have stepped : unlimitedStep Rule.table limits p (c :: cs) = .ok (some _) :=
      unlimitedTokenIff.mpr ⟨Rule.symbol, [c], cs, .symbol c, found, rfl, rfl⟩
    obtain ⟨ts, course, values⟩ := unlimitedSymbols limits
      (p.advanceOver ([c] ++ cs.takeWhile isSeparator))
      (symbolicDropped fun d member => symbolic d (by simp [member])) (stopsDropped isSeparator cs)
    refine ⟨⟨.symbol c, .covering p [c]⟩ :: ts, ?_, ?_⟩
    · rw [unlimitedStepped, stepped]
      simp only [course]
    · rw [List.map_cons, values, symbolsDropped]
      simp [symbols, separator]
termination_by input.length
decreasing_by
  subst_vars
  have back := (List.dropWhile_sublist isSeparator (l := cs)).length_le
  rw [List.length_cons]
  omega

end Lexing

namespace Scanner

theorem startExhaustedIff (limits : Limits) (settings : Settings.Lexical) (source : List Char) :
    (start limits settings source).isExhausted ↔ ∀ c ∈ source, isSeparator c := by
  rw [isExhausted, List.isEmpty_iff]
  exact List.dropWhile_eq_nil_iff

theorem startSymbols (limits : Limits) (settings : Settings.Lexical) {source : List Char}
    (symbolic : Symbolic source) :
    ∃ ts, (start limits settings source).unlimited = ⟨ts, none⟩ ∧
      ts.map (·.value) = symbols source := by
  rw [← symbolsDropped]
  exact Lexing.unlimitedSymbols limits.lexical _ (symbolicDropped symbolic)
    (stopsDropped isSeparator source)

end Scanner

namespace Pass

def FindsNothing (limits : Limits) (settings : Settings.Lexical) (elapsed : Nat)
    (source : List Char) : Prop :=
  ∃ tape, (run limits settings elapsed source).result = .ok tape ∧ tape.isEmpty

variable (limits : Limits) (settings : Settings.Lexical) (elapsed : Nat) {source : List Char}

theorem findsNothingIff :
    FindsNothing limits settings elapsed source ↔
      (Scanner.start limits settings source).isExhausted := by
  rw [Scanner.isExhausted, List.isEmpty_iff, ← Scanner.nextEndedIff]
  constructor
  · rintro ⟨tape, read, empty⟩
    obtain ⟨ts, delivers, rfl⟩ := runOkIff.mp read
    obtain rfl : ts = [] := by simpa [Tape.isEmpty, Tape.ofList] using empty
    cases delivers with
    | ended answer => exact answer
  · intro answer
    exact ⟨_, runOkIff.mpr ⟨[], .ended answer, rfl⟩, rfl⟩

theorem runSymbols (symbolic : Symbolic source) :
    let result := (run limits settings elapsed source).result
    let count := limits.lexical.tokenCount
    if (symbols source).length ≤ count then
      ∃ tape, result = .ok tape ∧ tape.tokens.toList.map (·.value) = symbols source
    else ∃ span, result = .error (.tooManyTokens count span) := by
  intro result count
  obtain ⟨ts, course, values⟩ := Scanner.startSymbols limits settings symbolic
  have cuts := Scanner.limitCuts (Scanner.startResumes limits settings source) (Nat.zero_add count)
  rw [course] at cuts
  have length : ts.length = (symbols source).length := by rw [← values, List.length_map]
  have below : Course.Below ⟨ts, none⟩ count ↔ (symbols source).length ≤ count := by
    simp only [Course.Below, length, and_true]
    omega
  rw [below] at cuts
  split
  · next fits =>
    have delivers := (cuts.resolve_right fun other => other.1 fits).2
    exact ⟨_, runOkIff.mpr ⟨ts, delivers, rfl⟩, values⟩
  · next more =>
    obtain ⟨p, _, _, _, delivers⟩ := (cuts.resolve_left fun other => more other.1).2
    exact ⟨⟨p, p⟩, runFailedIff.mpr ⟨_, delivers⟩⟩

end Pass

theorem SourceFile.effectivelyEmptyIff (f : SourceFile) :
    f.isEffectivelyEmpty ↔ ∀ c ∈ f.source.toList, Text.isBlank c :=
  List.all_eq_true

/- The two notions differ on the sources that are white space and have symbols. -/
theorem emptyProgramsCompared (limits : Limits) (settings : Settings.Lexical) (elapsed : Nat)
    (f : SourceFile) :
    let source := f.source.toList
    let nothing := Pass.FindsNothing limits settings elapsed source
    (nothing ↔ (Scanner.start limits settings source).isExhausted) ∧
    (nothing ↔ ∀ c ∈ source, isSeparator c) ∧
    (f.isEffectivelyEmpty ↔ ∀ c ∈ source, Text.isBlank c) ∧
    (nothing → f.isEffectivelyEmpty) ∧
    (f.isEffectivelyEmpty →
      let result := (Pass.run limits settings elapsed source).result
      let count := limits.lexical.tokenCount
      if (symbols source).length ≤ count then
        ∃ tape, result = .ok tape ∧ tape.tokens.toList.map (·.value) = symbols source
      else ∃ span, result = .error (.tooManyTokens count span)) ∧
    ((f.isEffectivelyEmpty ↔ nothing) ↔
      ¬(f.isEffectivelyEmpty ∧ ∃ c ∈ source, isSeparator c = false)) := by
  intro source nothing
  have exhausted : nothing ↔ (Scanner.start limits settings source).isExhausted :=
    Pass.findsNothingIff limits settings elapsed
  have separated : nothing ↔ ∀ c ∈ source, isSeparator c :=
    exhausted.trans (Scanner.startExhaustedIff limits settings source)
  have blank := f.effectivelyEmptyIff
  have empty (none : nothing) : f.isEffectivelyEmpty :=
    blank.mpr fun c member => separatorBlank (separated.mp none c member)
  refine ⟨exhausted, separated, blank, empty, fun white => ?_, ?_⟩
  · exact Pass.runSymbols limits settings elapsed fun c member other =>
      blankSymbolic (blank.mp white c member) other
  · constructor
    · rintro agree ⟨white, c, member, other⟩
      rw [separated.mp (agree.mp white) c member] at other
      cases other
    · intro apart
      refine ⟨fun white => separated.mpr fun c member => ?_, empty⟩
      by_contra other
      exact apart ⟨white, c, member, Bool.eq_false_iff.mpr other⟩

theorem unbreakableSpaceRead :
    let f : SourceFile := ⟨"\u00a0", "/work/a.mlang", 2, some "mlang", 1, 0⟩
    let settings := Settings.Lexical.ofEnvironment []
    let source := f.source.toList
    ¬(f.isEffectivelyEmpty ↔ Pass.FindsNothing .development settings 0 source) ∧
      ¬(f.isEffectivelyEmpty ↔ (Scanner.start .development settings source).isExhausted) := by
  intro f settings source
  have white : f.isEffectivelyEmpty := by decide
  have more : (Scanner.start .development settings source).isExhausted = false := by decide +kernel
  have differ : ¬(f.isEffectivelyEmpty ↔
      (Scanner.start .development settings source).isExhausted) := by
    rw [white, more]
    decide
  exact ⟨fun same => differ (same.trans (Pass.findsNothingIff .development settings 0)), differ⟩

end MathTokens

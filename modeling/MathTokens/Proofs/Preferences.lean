import MathTokens.Proofs.JsonRecords
import MathTokens.Proofs.Resolution
import MathTokens.Proofs.TomlTables

/-! Preferences as documents. What is written of settings gives all of them, so it is read back whatever
the environment says; of any other document the environment fills the gaps, and no more. -/
namespace MathTokens

namespace Settings

theorem jsonPlain (s : Settings) : Json.Plain s.json := by
  have files : Json.Plain s.files.json := .object (by simpa using ⟨.bool _, .bool _⟩)
  have lexical : Json.Plain s.lexical.json := .object (by simpa using ⟨.bool _, .bool _, .bool _⟩)
  have logging : Json.Plain s.logging.json := .object (by simpa using ⟨.bool _, .bool _, .string _⟩)
  exact .object (by simpa using ⟨files, lexical, logging⟩)

theorem jsonReadsBack (env : Environment) (l : Json.Layout) (s : Settings) :
    ofJson? env (Json.write l 0 "" s.json).toList = some s := by
  rw [ofJson?, Json.parseWritten l s.jsonPlain, Option.bind_some]
  obtain ⟨files, lexical, ⟨structured, console, threshold⟩⟩ := s
  cases threshold <;> rfl

def tomlTables (s : Settings) : List Toml.Table :=
  [("file_processor", [("require_mlang_extension", .boolean s.files.requireExtension),
      ("enable_performance_logging", .boolean s.files.logPerformance)]),
    ("lexical", [("collect_metrics", .boolean s.lexical.collectMetrics),
      ("log_each_token", .boolean s.lexical.logEachToken),
      ("include_position_in_errors", .boolean s.lexical.positionInErrors)]),
    ("logging", [("use_structured_logging", .boolean s.logging.structured),
      ("enable_console_logging", .boolean s.logging.console),
      ("min_log_level", .text (levelWord s.logging.threshold))])]

theorem levelWordSimple (level : Level) : Toml.Simple (.text (levelWord level)) := by
  cases level <;> exact .text (eachDecided (by decide))

theorem tomlWritable (s : Settings) : Toml.Writable s.tomlTables where
  apart := (show tables.Nodup by decide)
  named := by
    simp only [tomlTables, List.forall_mem_cons, List.not_mem_nil, false_implies, implies_true, and_true]
    exact ⟨by decide, by decide, by decide⟩
  keys := by
    simp only [tomlTables, List.forall_mem_cons, List.not_mem_nil, false_implies, implies_true, and_true,
      List.map_cons, List.map_nil]
    decide
  pairs := by
    simp only [tomlTables, List.forall_mem_cons, List.not_mem_nil, false_implies, implies_true, and_true]
    exact ⟨⟨⟨by decide, .boolean _⟩, ⟨by decide, .boolean _⟩⟩,
      ⟨⟨by decide, .boolean _⟩, ⟨by decide, .boolean _⟩, ⟨by decide, .boolean _⟩⟩,
      ⟨⟨by decide, .boolean _⟩, ⟨by decide, .boolean _⟩, ⟨by decide, levelWordSimple _⟩⟩⟩

theorem tomlReadsBack (env : Environment) (s : Settings) :
    ofToml? env (Toml.documentChars s.tomlTables) = some s := by
  rw [ofToml?, Toml.parseDocument s.tomlWritable, Option.bind_some]
  obtain ⟨files, lexical, ⟨structured, console, threshold⟩⟩ := s
  cases threshold <;> rfl

structure Language.Resolves {V : Type} (d : Language V)
    (read? : Environment → List Char → Option Settings) : Prop where
  resolved {env : Environment} {cs : List Char} {s : Settings} (read : read? env cs = some s)
    (tabular : d.ObjectForm cs) : d.Resolved env cs s
  legible {cs : List Char} (env : Environment) (tabular : d.ObjectForm cs) :
    (read? env cs).isSome ↔ ∃ v, d.parse? cs = some v ∧ d.Legible v
  parses (env env' : Environment) (cs : List Char) : (read? env cs).isSome = (read? env' cs).isSome
  same {env env' : Environment} {cs : List Char} {s s' : Settings} (read : read? env cs = some s)
    (read' : read? env' cs = some s') (tabular : d.ObjectForm cs) : d.SameTold cs s s'

theorem languageResolves {V : Type} (d : Language V) : d.Resolves d.read? where
  resolved := Language.resolved
  legible := Language.parsesIff
  parses := d.parsesAlike
  same := Language.sameTold

end Settings

open Settings

theorem preferencesResolved :
    tomlLanguage.Resolves ofToml? ∧ jsonLanguage.Resolves ofJson? ∧
    (∀ {s s' : Settings}, (∀ f ∈ flags, f.get s = f.get s') →
      s.logging.threshold = s'.logging.threshold → s = s') ∧
    (∀ (env : Environment) (s : Settings), ofToml? env (Toml.documentChars s.tomlTables) = some s ∧
      ∀ l : Json.Layout, ofJson? env (Json.write l 0 "" s.json).toList = some s) :=
  ⟨languageResolves tomlLanguage, languageResolves jsonLanguage, flagsWhole,
    fun env s => ⟨tomlReadsBack env s, fun l => jsonReadsBack env l s⟩⟩

def eachTokenTables : List Toml.Table := [("lexical", [("log_each_token", .boolean true)])]

def contraryEnvironment : Environment :=
  [("MATHLANG_LEXICAL_LOG_EACH_TOKEN", "false"), ("MATHLANG_LEXICAL_COLLECT_METRICS", "false"),
    ("MATHLANG_LOGGING_MIN_LEVEL", "Warn"), ("MATHLANG_LOGGING_ENABLE_CONSOLE", "TRUE")]

def eachTokenSettings : Settings := ⟨⟨false, true⟩, ⟨false, true, true⟩, ⟨false, false, .warning⟩⟩

theorem eachTokenResolved :
    ofToml? contraryEnvironment (Toml.documentChars eachTokenTables) = some eachTokenSettings ∧
    tomlLanguage.ObjectForm (Toml.documentChars eachTokenTables) ∧
    tomlLanguage.Resolved contraryEnvironment (Toml.documentChars eachTokenTables) eachTokenSettings := by
  have simple : ∀ pair ∈ [("log_each_token", Toml.boolean true)],
      Toml.Bare pair.1 ∧ Toml.Simple pair.2 := by
    simpa using ⟨by decide, .boolean true⟩
  have writable : Toml.Writable eachTokenTables :=
    ⟨by decide, by decide, by simp [eachTokenTables], by simpa [eachTokenTables] using simple⟩
  have parsed := Toml.parseDocument writable
  have read : ofToml? contraryEnvironment (Toml.documentChars eachTokenTables) =
      some eachTokenSettings := by
    rw [ofToml?, parsed]
    rfl
  have tabular : tomlLanguage.ObjectForm (Toml.documentChars eachTokenTables) := by
    intro v same
    cases parsed.symm.trans same
    refine ⟨rfl, fun table one v' found => ?_⟩
    simp only [tables, List.mem_cons, List.not_mem_nil, or_false] at one
    rcases one with rfl | rfl | rfl
    · cases found
    · cases found
      rfl
    · cases found
  exact ⟨read, tabular, preferencesResolved.1.resolved read tabular⟩

end MathTokens

import Mathlib.Data.List.Nodup
import MathTokens.Proofs.Lookahead
import MathTokens.Proofs.Pulling

/-! The order of the rules. Kinds begin differently, so at most one rule of the table accepts an input,
and a scanner with the rules in another order answers every call alike. -/
namespace MathTokens

theorem opensOne {j k : Kind} {c : Char} (one : Opens j c) (two : Opens k c) : j = k := by
  cases j with
  | name => exact ((opensAlpha two).mp one).symm
  | string => exact ((opensQuote two).mp one).symm
  | number => exact ((opensDigit two).mp one).symm
  | symbol =>
    cases k with
    | name => exact (opensAlpha one).mp two
    | string => exact (opensQuote one).mp two
    | number => exact (opensDigit one).mp two
    | symbol => rfl

namespace Rule

theorem tableKindsNodup : (table.map kind).Nodup := by decide

theorem tableKinds {rule other : Rule} (member : rule ∈ table) (member' : other ∈ table)
    (same : rule.kind = other.kind) : rule = other :=
  List.inj_on_of_nodup_map tableKindsNodup member member' same

theorem tableOpens {rule : Rule} (member : rule ∈ table) {c : Char} {cs text rest : List Char}
    (cut : rule.split? (c :: cs) = some (text, rest)) : Opens rule.kind c := by
  refine Classical.byContradiction fun other => ?_
  simp only [table, List.mem_cons, List.not_mem_nil, or_false] at member
  rcases member with rfl | rfl | rfl | rfl
  · cases (splitNameOther other cs).symm.trans cut
  · cases (splitLiteralOther other cs).symm.trans cut
  · cases (splitDigitsOther other cs).symm.trans cut
  · have found : splitSymbol? (c :: cs) = some (text, rest) := cut
    obtain ⟨d, symbolic, _, same⟩ := splitSymbolIff.mp found
    cases same
    exact other symbolic

theorem tableExclusive {rule other : Rule} (member : rule ∈ table) (member' : other ∈ table)
    {input : List Char} {cut cut' : List Char × List Char} (one : rule.split? input = some cut)
    (two : other.split? input = some cut') : rule = other := by
  cases input with
  | nil =>
    have whole := rule.splitWhole one
    exact absurd (List.append_eq_nil_iff.mp whole.1.symm).1 whole.2
  | cons c cs =>
    exact tableKinds member member' (opensOne (tableOpens member one) (tableOpens member' two))

theorem tableAccepts (input : List Char) :
    (table.filter fun rule => (rule.split? input).isSome).length ≤ 1 := by
  have distinct := (List.Nodup.of_map kind tableKindsNodup).filter
    fun rule => (rule.split? input).isSome
  have same : ∀ rule ∈ table.filter fun rule => (rule.split? input).isSome,
      ∀ other ∈ table.filter fun rule => (rule.split? input).isSome, rule = other := by
    intro rule member other member'
    obtain ⟨inside, accepts⟩ := List.mem_filter.mp member
    obtain ⟨inside', accepts'⟩ := List.mem_filter.mp member'
    obtain ⟨cut, one⟩ := Option.isSome_iff_exists.mp accepts
    obtain ⟨cut', two⟩ := Option.isSome_iff_exists.mp accepts'
    exact tableExclusive inside inside' one two
  generalize table.filter (fun rule => (rule.split? input).isSome) = accepted at distinct same ⊢
  rcases accepted with _ | ⟨rule, _ | ⟨other, rules⟩⟩
  · simp
  · simp
  · have equal : rule = other := same rule (by simp) other (by simp)
    simp [equal] at distinct

end Rule

namespace Lexing

theorem firstMatchIff {rules : List Rule} (inside : rules ⊆ Rule.table) {rule : Rule}
    {input text rest : List Char} :
    firstMatch? rules input = some (rule, text, rest) ↔
      rule ∈ rules ∧ rule.split? input = some (text, rest) := by
  refine ⟨firstMatchSource, fun ⟨member, cut⟩ => ?_⟩
  cases found : firstMatch? rules input with
  | none =>
    have refused := List.findSome?_eq_none_iff.mp found rule member
    simp [cut] at refused
  | some hit =>
    obtain ⟨other, text', rest'⟩ := hit
    obtain ⟨member', cut'⟩ := firstMatchSource found
    obtain rfl := Rule.tableExclusive (inside member) (inside member') cut cut'
    cases cut.symm.trans cut'
    rfl

theorem stepPermuted {rules : List Rule} (permuted : rules.Perm Rule.table) :
    step rules = step Rule.table := by
  have first (input : List Char) : firstMatch? rules input = firstMatch? Rule.table input := by
    refine Option.ext fun (rule, text, rest) => ?_
    rw [firstMatchIff permuted.subset, firstMatchIff (List.Subset.refl _), permuted.mem_iff]
  funext limits emitted p input
  cases input with
  | nil => rfl
  | cons c cs => simp only [step, first]

end Lexing

namespace Scanner

theorem nextPermuted {s : Scanner} (table : s.rules = Rule.table) {rules : List Rule}
    (permuted : rules.Perm Rule.table) :
    (s.withRules rules).next =
      ⟨s.next.answer, s.next.scanner.withRules rules, s.next.events⟩ := by
  have same : Lexing.step rules = Lexing.step s.rules := by rw [table, Lexing.stepPermuted permuted]
  simp only [next, withRules, same]
  rcases Lexing.step s.rules s.limits.lexical s.emitted s.position s.rest with e | _ | lexeme
  · rfl
  · rfl
  · rfl

theorem pullPermuted {s : Scanner} (table : s.rules = Rule.table) {rules : List Rule}
    (permuted : rules.Perm Rule.table) (p : Pull) :
    (s.withRules rules).pull p =
      ⟨(s.pull p).answer, (s.pull p).scanner.withRules rules, (s.pull p).events⟩ := by
  have same := nextPermuted table permuted
  cases p with
  | located => rw [pull, same]; rfl
  | token | reader => rw [pull, nextToken, same]; rfl
  | iterate =>
    rw [pull, pull, iterate, iterate, nextToken, nextToken, same]
    cases met : s.failed with
    | true => simp [withRules, met, Turn.map]
    | false =>
      generalize s.next = turn
      obtain ⟨answer, after, events⟩ := turn
      rcases answer with e | _ | t
      · simp [withRules, met, Turn.map, Except.map]
      · simp [withRules, met, Turn.map, Except.map]
      · simp [withRules, met, Turn.map, Except.map]

theorem pullsPermuted {s : Scanner} (table : s.rules = Rule.table) {rules : List Rule}
    (permuted : rules.Perm Rule.table) (calls : List Pull) :
    (s.withRules rules).pulls calls =
      ⟨(s.pulls calls).answer, (s.pulls calls).scanner.withRules rules, (s.pulls calls).events⟩ := by
  induction calls generalizing s with
  | nil => rfl
  | cons p calls ih =>
    have kept : (s.pull p).scanner.rules = Rule.table := (pullAkin s p).rules.trans table
    simp only [pulls, pullPermuted table permuted, ih kept]

end Scanner

end MathTokens

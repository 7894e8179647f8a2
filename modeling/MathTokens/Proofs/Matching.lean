import MathTokens.Proofs.Delivery
import MathTokens.Proofs.Spelling

/-! Each rule against the spellings of its kind: what it cuts off, what it builds, and that the first
rule of the table to accept an input is the only one that could. -/
namespace MathTokens

theorem splitWordIff {cs text rest : List Char} :
    splitWord? cs = some (text, rest) ↔
      IsWord text ∧ Stops isWordChar rest ∧ cs = text ++ rest := by
  constructor
  · intro h
    unfold splitWord? at h
    split at h
    · cases h
    · split at h
      · next c others alpha =>
        cases h
        exact ⟨⟨alpha, takenAll isWordChar others⟩, stopsDropped isWordChar others,
          by simp [List.takeWhile_append_dropWhile]⟩
      · cases h
  · rintro ⟨word, stop, rfl⟩
    cases text with
    | nil => cases word
    | cons c text => simp [splitWord?, word.1, takeStops word.2 stop, dropStops word.2 stop]

theorem splitNameIff {cs text rest : List Char} :
    splitName? cs = some (text, rest) ↔
      splitWord? cs = some (text, rest) ∧ Quoted.balanced rest := by
  simp [splitName?, Option.filter_eq_some_iff]

theorem splitDigitsIff {cs text rest : List Char} :
    splitDigits? cs = some (text, rest) ↔
      text ≠ [] ∧ (∀ c ∈ text, isDigit c) ∧ Stops isDigit rest ∧ cs = text ++ rest := by
  constructor
  · intro h
    unfold splitDigits? at h
    split at h
    · cases h
    · next nonempty =>
      cases h
      exact ⟨nonempty, takenAll isDigit cs, stopsDropped isDigit cs,
        List.takeWhile_append_dropWhile.symm⟩
  · rintro ⟨nonempty, digits, stop, rfl⟩
    simp [splitDigits?, takeStops digits stop, dropStops digits stop]

theorem splitSymbolIff {cs text rest : List Char} :
    splitSymbol? cs = some (text, rest) ↔ ∃ c, IsSymbolic c ∧ text = [c] ∧ cs = c :: rest := by
  constructor
  · intro h
    unfold splitSymbol? at h
    split at h
    · cases h
    · split at h
      · cases h
      · next c others other =>
        cases h
        simp only [Bool.or_eq_true, beq_iff_eq, not_or, Bool.not_eq_true] at other
        exact ⟨c, ⟨other.1.1, other.1.2, other.2⟩, rfl, rfl⟩
  · rintro ⟨c, symbolic, rfl, rfl⟩
    simp [splitSymbol?, symbolic.separator, symbolic.word, symbolic.quote]

theorem digitsLength {ds : List Char} (digits : ∀ c ∈ ds, isDigit c) :
    Text.byteLength ds = ds.length := by
  induction ds with
  | nil => rfl
  | cons d ds ih =>
    have small := (digitRange (digits d (by simp))).2
    have one : d.utf8Size = 1 := Char.utf8Size_eq_one_iff.mpr (by
      rw [UInt32.le_iff_toNat_le]
      change d.toNat ≤ 127
      omega)
    rw [Text.byteLengthCons, one, ih fun c member => digits c (List.mem_cons_of_mem _ member)]
    simp [Nat.add_comm]

theorem buildNameIff {limits : Limits.Lexical} {cs : List Char} {t : Token} :
    buildName limits cs = .ok t ↔
      Text.byteLength cs ≤ limits.nameLength ∧ t = .name (String.ofList cs) := by
  unfold buildName
  split
  · next long => simp [Nat.not_le.mpr long]
  · next short => simp [Nat.not_lt.mp short, eq_comm]

theorem buildLiteralIff {limits : Limits.Lexical} {body : List Char} {t : Token} :
    buildString limits ('"' :: (body ++ ['"'])) = .ok t ↔
      Text.byteLength (Quoted.unescape body) ≤ limits.stringSize ∧
        t = .string (String.ofList (Quoted.unescape body)) := by
  simp only [buildString, Quoted.stripLiteral]
  split
  · next large => simp [Nat.not_le.mpr large]
  · next small => simp [Nat.not_lt.mp small, eq_comm]

theorem buildDigitsIff {limits : Limits.Lexical} {ds : List Char} {t : Token} (nonempty : ds ≠ [])
    (digits : ∀ c ∈ ds, isDigit c) :
    buildNumber limits ds = .ok t ↔
      ds.length ≤ limits.numberLength ∧ (Double.ofNat (digitsValue ds)).isFinite ∧
        t = .number (Double.ofNat (digitsValue ds)) := by
  simp only [buildNumber, digitsLength digits, Double.readDigits nonempty digits]
  split
  · next long => simp [Nat.not_le.mpr long]
  · next short =>
    cases finite : (Double.ofNat (digitsValue ds)).isFinite with
    | false => simp
    | true => simp [Nat.not_lt.mp short, eq_comm]

namespace Rule

def Faithful (rule : Rule) : Prop :=
  ∀ {limits : Limits.Lexical} {cs text rest : List Char} {t : Token},
    rule.split? cs = some (text, rest) → rule.build limits text = .ok t →
      Spelling limits text t ∧ Ends t.kind rest

theorem anyWordFaithful : anyWord.Faithful := by
  intro limits cs text rest t cut built
  obtain ⟨word, stop, _⟩ := splitWordIff.mp cut
  obtain ⟨short, rfl⟩ := buildNameIff.mp built
  exact ⟨.name word short, stop⟩

theorem nameFaithful : name.Faithful := by
  intro limits cs text rest t cut built
  exact anyWordFaithful (splitNameIff.mp cut).1 built

theorem stringFaithful : string.Faithful := by
  intro limits cs text rest t cut built
  obtain ⟨body, valid, line, rfl, _⟩ := Quoted.splitLiteralIff.mp cut
  obtain ⟨small, rfl⟩ := buildLiteralIff.mp built
  exact ⟨.string valid line small, trivial⟩

theorem numberFaithful : number.Faithful := by
  intro limits cs text rest t cut built
  obtain ⟨nonempty, digits, stop, _⟩ := splitDigitsIff.mp cut
  obtain ⟨short, finite, rfl⟩ := (buildDigitsIff nonempty digits).mp built
  exact ⟨.number nonempty digits short finite, stop⟩

theorem symbolFaithful : symbol.Faithful := by
  intro limits cs text rest t cut built
  obtain ⟨c, symbolic, rfl, _⟩ := splitSymbolIff.mp cut
  cases built
  exact ⟨.symbol symbolic, trivial⟩

theorem tableFaithful : ∀ rule ∈ table, rule.Faithful := by
  simp only [table, List.forall_mem_cons]
  exact ⟨nameFaithful, stringFaithful, numberFaithful, symbolFaithful, by simp⟩

theorem wordTableFaithful : ∀ rule ∈ wordTable, rule.Faithful := by
  simp only [wordTable, List.forall_mem_cons]
  exact ⟨anyWordFaithful, stringFaithful, numberFaithful, symbolFaithful, by simp⟩

end Rule

/-! A rule refuses an input whose first character opens another kind. -/

theorem splitWordOther {c : Char} (h : ¬c.isAlpha) (cs : List Char) :
    splitWord? (c :: cs) = none := by
  simp [splitWord?, h]

theorem splitNameOther {c : Char} (h : ¬c.isAlpha) (cs : List Char) :
    splitName? (c :: cs) = none := by
  simp [splitName?, splitWordOther h]

theorem splitLiteralOther {c : Char} (h : c ≠ '"') (cs : List Char) :
    Quoted.splitLiteral? (c :: cs) = none := by
  unfold Quoted.splitLiteral?
  split
  · next same => cases same; exact absurd rfl h
  · rfl

theorem splitDigitsOther {c : Char} (h : ¬isDigit c) (cs : List Char) :
    splitDigits? (c :: cs) = none := by
  simp [splitDigits?, h]

namespace Lexing

theorem firstMatchSpelling {limits : Limits.Lexical} {text rest : List Char} {t : Token}
    (spelling : Spelling limits text t) (ends : Ends t.kind rest)
    (closed : t.kind = .name → Quoted.balanced rest) :
    ∃ rule ∈ Rule.table, rule.kind = t.kind ∧
      firstMatch? Rule.table (text ++ rest) = some (rule, text, rest) ∧
      rule.build limits text = .ok t := by
  obtain ⟨c, cs, first, opens⟩ := spellingOpens spelling
  have begins : text ++ rest = c :: (cs ++ rest) := by rw [first, List.cons_append]
  have notName (other : t.kind ≠ .name) : splitName? (text ++ rest) = none :=
    begins ▸ splitNameOther (fun h => other ((opensAlpha opens).mp h)) _
  have notString (other : t.kind ≠ .string) : Quoted.splitLiteral? (text ++ rest) = none :=
    begins ▸ splitLiteralOther (fun h => other ((opensQuote opens).mp h)) _
  have notNumber (other : t.kind ≠ .number) : splitDigits? (text ++ rest) = none :=
    begins ▸ splitDigitsOther (fun h => other ((opensDigit opens).mp h)) _
  cases spelling with
  | name word short =>
    have cut := splitNameIff.mpr ⟨splitWordIff.mpr ⟨word, ends, rfl⟩, closed rfl⟩
    exact ⟨.name, by simp [Rule.table], rfl, firstMatchHit cut _,
      buildNameIff.mpr ⟨short, rfl⟩⟩
  | @string body valid line small =>
    have cut := (Quoted.splitLiteralIff).mpr
      ⟨body, valid, line, rfl, (rfl : '"' :: (body ++ ['"']) ++ rest = _)⟩
    refine ⟨.string, by simp [Rule.table], rfl, ?_, buildLiteralIff.mpr ⟨small, rfl⟩⟩
    exact (firstMatchMiss (notName nofun) _).trans (firstMatchHit cut _)
  | number nonempty digits short finite =>
    have cut := splitDigitsIff.mpr ⟨nonempty, digits, ends, rfl⟩
    refine ⟨.number, by simp [Rule.table], rfl, ?_,
      (buildDigitsIff nonempty digits).mpr ⟨short, finite, rfl⟩⟩
    exact (firstMatchMiss (notName nofun) _).trans
      ((firstMatchMiss (notString nofun) _).trans (firstMatchHit cut _))
  | @symbol c' symbolic =>
    have cut := splitSymbolIff.mpr ⟨c', symbolic, rfl, (rfl : [c'] ++ rest = _)⟩
    refine ⟨.symbol, by simp [Rule.table], rfl, ?_, rfl⟩
    exact (firstMatchMiss (notName nofun) _).trans
      ((firstMatchMiss (notString nofun) _).trans
        ((firstMatchMiss (notNumber nofun) _).trans (firstMatchHit cut _)))

end Lexing
end MathTokens

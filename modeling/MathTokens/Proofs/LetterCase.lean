import MathTokens.Proofs.Spelling
import MathTokens.Settings
import MathTokens.Text.Lowercase

/-! Words in any letter case. A word of ASCII letters without a k is the lower case of no text that holds a
letter beyond ASCII, so for the names of levels the lower case of Unicode is that of ASCII. -/
namespace MathTokens

namespace Text

/- An ASCII character that is the lower case of ASCII characters only. The sign of the kelvin is another
letter whose lower case is k. -/
def OwnLower (c : Char) : Prop := 0 < c.toNat ∧ c.toNat < 0x80 ∧ c.toNat ≠ 'k'.toNat
instance : DecidablePred OwnLower := fun c => by unfold OwnLower; infer_instance

theorem ofNatForeign {n : Nat} (foreign : 0x80 ≤ n ∨ n = 'k'.toNat) : ¬OwnLower (Char.ofNat n) := by
  rintro ⟨positive, small, unlike⟩
  by_cases valid : n.isValidChar
  · have same : Char.ofNat n = Char.ofNatAux n valid := dif_pos valid
    have value : (Char.ofNat n).toNat = n := by rw [same]; rfl
    rcases foreign with wide | letter
    · omega
    · exact unlike (value.trans letter)
  · have same : Char.ofNat n = '\x00' := dif_neg valid
    rw [same] at positive
    exact absurd positive (by decide)

theorem caseRowsForeign : ∀ row ∈ caseRows,
    (0x80 : Int) ≤ row.first + row.offset ∨ row.first = row.last ∧ row.first + row.offset = 'k'.toNat := by
  have all : caseRows.all (fun row => decide ((0x80 : Int) ≤ row.first + row.offset ∨
      row.first = row.last ∧ row.first + row.offset = 'k'.toNat)) := by decide +kernel
  exact fun row inside => of_decide_eq_true (List.all_eq_true.mp all row inside)

theorem lowerCharForeign {c : Char} (wide : 0x80 ≤ c.toNat) : ¬OwnLower (lowerChar c) := by
  rw [lowerChar, if_neg (Nat.not_lt.mpr wide)]
  split
  · next row found =>
    have foreign := caseRowsForeign row (List.mem_of_find?_eq_some found)
    have holds := List.find?_some found
    simp only [CaseRow.holds, Bool.and_eq_true, decide_eq_true_eq] at holds
    exact ofNatForeign (by omega)
  · exact fun own => absurd own.2.1 (Nat.not_lt.mpr wide)

theorem lowerFromAscii {c : Char} (small : c.toNat < 0x80) (before cs : List Char) :
    lowerFrom before (c :: cs) = c.toLower :: lowerFrom (c :: before) cs := by
  have sigma : c ≠ 'Σ' := by rintro rfl; exact absurd small (by decide)
  have dotted : c ≠ 'İ' := by rintro rfl; exact absurd small (by decide)
  rw [lowerFrom, if_neg sigma, if_neg dotted, lowerChar, if_pos small]
  rfl

theorem lowerFromWide {c : Char} (wide : 0x80 ≤ c.toNat) (before cs : List Char) :
    ∃ foreign ∈ lowerFrom before (c :: cs), ¬OwnLower foreign := by
  have ending : ¬OwnLower 'ς' ∧ ¬OwnLower 'σ' ∧ ¬OwnLower (Char.ofNat 0x307) := by
    decide
  rw [lowerFrom]
  split
  · refine ⟨lowerSigma before cs, by simp, ?_⟩
    unfold lowerSigma
    split
    · exact ending.1
    · exact ending.2.1
  · split
    · exact ⟨Char.ofNat 0x307, by simp, ending.2.2⟩
    · exact ⟨lowerChar c, by simp, lowerCharForeign wide⟩

theorem toLowerWide {c : Char} (wide : 0x80 ≤ c.toNat) : c.toLower = c := by
  have lower : ¬(c.val ≥ 'A'.val ∧ c.val ≤ 'Z'.val) := by
    rintro ⟨_, small⟩
    exact absurd (UInt32.le_iff_toNat_le.mp small) (Nat.not_le.mpr (Nat.lt_of_lt_of_le (by decide) wide))
  exact dif_neg lower

theorem lowerFromIff {before cs word : List Char} (own : ∀ c ∈ word, OwnLower c) :
    lowerFrom before cs = word ↔ cs.map Char.toLower = word := by
  induction cs generalizing before word with
  | nil => rfl
  | cons c cs ih =>
    rcases Nat.lt_or_ge c.toNat 0x80 with small | wide
    · rw [lowerFromAscii small, List.map_cons]
      cases word with
      | nil => simp
      | cons w ws =>
        rw [List.cons.injEq, List.cons.injEq, ih (List.forall_mem_cons.mp own).2]
    · obtain ⟨foreign, inside, other⟩ := lowerFromWide wide before cs
      constructor
      · intro same
        exact absurd (own foreign (same ▸ inside)) other
      · intro same
        have first : c ∈ word := by
          rw [← same, List.map_cons, toLowerWide wide]
          exact List.mem_cons_self
        exact absurd (own c first).2.1 (Nat.not_lt.mpr wide)

end Text

namespace Level

def words : Level → List String
  | .error => ["error", "0"]
  | .warning => ["warning", "warn", "1"]
  | .info => ["info", "2"]
  | .debug => ["debug", "3"]

theorem ofNameIff (name : String) (level : Level) :
    ofName? name = some level ↔ Text.lowercase name ∈ level.words := by
  have own : ∀ level : Level, ∀ word ∈ level.words, ∀ c ∈ word.toList, Text.OwnLower c := by
    intro level word member
    have each : level.words.all fun word => word.toList.all fun c => decide (Text.OwnLower c) := by
      cases level <;> decide
    exact eachDecided (List.all_eq_true.mp each word member)
  have text (cs : List Char) (word : String) : String.ofList cs = word ↔ cs = word.toList :=
    ⟨fun same => by rw [← same, String.toList_ofList], fun same => by rw [same, String.ofList_toList]⟩
  have lower : Text.lowercase name ∈ level.words ↔
      String.ofList (name.toList.map Char.toLower) ∈ level.words := by
    have each : ∀ word ∈ level.words,
        Text.lowercase name = word ↔ String.ofList (name.toList.map Char.toLower) = word := by
      intro word member
      rw [Text.lowercase, text, text]
      exact Text.lowerFromIff (own level word member)
    constructor
    · intro member
      rwa [(each _ member).mp rfl]
    · intro member
      rwa [(each _ member).mpr rfl]
  rw [lower, ofName?]
  generalize String.ofList (name.toList.map Char.toLower) = word
  constructor
  · intro read
    split at read <;> cases read <;> simp [words]
  · intro member
    cases level <;> simp only [words, List.mem_cons, List.not_mem_nil, or_false] at member
    · rcases member with rfl | rfl <;> rfl
    · rcases member with rfl | rfl | rfl <;> rfl
    · rcases member with rfl | rfl <;> rfl
    · rcases member with rfl | rfl <;> rfl

end Level
end MathTokens

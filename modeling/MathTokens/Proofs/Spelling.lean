import MathTokens.Proofs.Literals
import MathTokens.Proofs.Numerals
import MathTokens.Token.Rule

/-! The texts that spell a token, told without the rules, and the rules measured against them. A rule
cuts off exactly one spelling, and never stops where the spelling could still go on. -/
namespace MathTokens

def IsWord : List Char → Prop
  | [] => False
  | c :: cs => c.isAlpha ∧ ∀ d ∈ cs, isWordChar d
instance : (cs : List Char) → Decidable (IsWord cs)
  | [] => .isFalse id
  | _ :: cs => have := List.decidableBAll (fun d => isWordChar d) cs; instDecidableAnd

structure IsSymbolic (c : Char) : Prop where
  separator : isSeparator c = false
  word : isWordChar c = false
  quote : c ≠ '"'

inductive Spelling (limits : Limits.Lexical) : List Char → Token → Prop where
  | name {cs} (word : IsWord cs) (short : Text.byteLength cs ≤ limits.nameLength) :
      Spelling limits cs (.name (String.ofList cs))
  | string {body} (valid : Quoted.Body body) (line : '\n' ∉ body)
      (small : Text.byteLength (Quoted.unescape body) ≤ limits.stringSize) :
      Spelling limits ('"' :: (body ++ ['"'])) (.string (String.ofList (Quoted.unescape body)))
  | number {cs} (nonempty : cs ≠ []) (digits : ∀ c ∈ cs, isDigit c)
      (short : cs.length ≤ limits.numberLength)
      (finite : (Double.ofNat (digitsValue cs)).isFinite) :
      Spelling limits cs (.number (Double.ofNat (digitsValue cs)))
  | symbol {c} (symbolic : IsSymbolic c) : Spelling limits [c] (.symbol c)

def Stops (p : Char → Bool) (cs : List Char) : Prop := ∀ c ∈ cs.head?, p c = false

def Ends : Kind → List Char → Prop
  | .name, rest => Stops isWordChar rest
  | .number, rest => Stops isDigit rest
  | .string, _ => True
  | .symbol, _ => True

/- Two kinds whose spellings would read as one, or as others, if nothing stood between them. -/
def Fused : Kind → Kind → Prop
  | .name, .name => True
  | .name, .number => True
  | .number, .number => True
  | _, _ => False
instance (j k : Kind) : Decidable (Fused j k) := by
  cases j <;> cases k <;> unfold Fused <;> infer_instance

theorem takeStops {p : Char → Bool} {xs ys : List Char} (inside : ∀ c ∈ xs, p c)
    (stop : Stops p ys) : (xs ++ ys).takeWhile p = xs := by
  rw [List.takeWhile_append_of_pos inside]
  cases ys with
  | nil => simp
  | cons y ys => simp [stop y rfl]

theorem dropStops {p : Char → Bool} {xs ys : List Char} (inside : ∀ c ∈ xs, p c)
    (stop : Stops p ys) : (xs ++ ys).dropWhile p = ys := by
  rw [List.dropWhile_append_of_pos inside]
  cases ys with
  | nil => rfl
  | cons y ys => simp [stop y rfl]

/- Decided item by item. Over the characters of a list as a class it would be decided for all there are. -/
theorem eachDecided {α : Type} {p : α → Prop} [DecidablePred p] {xs : List α}
    (each : xs.all fun x => decide (p x)) : ∀ x ∈ xs, p x :=
  fun x inside => of_decide_eq_true (List.all_eq_true.mp each x inside)

theorem markIff {mark : Char} {xs ys rest rest' : List Char} (free : mark ∉ xs)
    (free' : mark ∉ ys) : xs ++ mark :: rest = ys ++ mark :: rest' ↔ xs = ys ∧ rest = rest' := by
  have inside {cs : List Char} (free : mark ∉ cs) : ∀ c ∈ cs, (c != mark) = true :=
    fun c member => bne_iff_ne.mpr fun same => free (same ▸ member)
  have stop (cs : List Char) : Stops (· != mark) (mark :: cs) := by simp [Stops]
  constructor
  · intro same
    have front := congrArg (List.takeWhile (· != mark)) same
    rw [takeStops (inside free) (stop _), takeStops (inside free') (stop _)] at front
    rw [front] at same
    exact ⟨front, (List.cons.inj (List.append_cancel_left same)).2⟩
  · rintro ⟨rfl, rfl⟩
    rfl

theorem takenAll (p : Char → Bool) (cs : List Char) : ∀ c ∈ cs.takeWhile p, p c := by
  intro c member
  exact List.all_eq_true.mp (List.all_takeWhile (l := cs) (p := p)) c member

theorem stopsDropped (p : Char → Bool) (cs : List Char) : Stops p (cs.dropWhile p) := by
  intro c first
  have stop := List.head?_dropWhile_not p cs
  rw [Option.mem_def.mp first] at stop
  simpa using stop

/-! Classes of characters. The first character of a spelling settles its kind. -/

theorem separatorCases {c : Char} (h : isSeparator c) :
    c = ' ' ∨ c = '\t' ∨ c = '\n' ∨ c = '\x0b' ∨ c = '\x0c' ∨ c = '\r' := by
  simpa [isSeparator, or_assoc] using h

theorem separatorClasses {c : Char} (h : isSeparator c) :
    isWordChar c = false ∧ isDigit c = false ∧ c ≠ '"' := by
  rcases separatorCases h with rfl | rfl | rfl | rfl | rfl | rfl <;> decide

theorem alphaRange {c : Char} (h : c.isAlpha) :
    65 ≤ c.toNat ∧ c.toNat ≤ 90 ∨ 97 ≤ c.toNat ∧ c.toNat ≤ 122 := by
  rcases Bool.or_eq_true_iff.mp h with upper | lower
  · have range : 'A' ≤ c ∧ c ≤ 'Z' := of_decide_eq_true upper
    exact .inl range
  · obtain ⟨first, last⟩ := Bool.and_eq_true_iff.mp lower
    have low : 'a' ≤ c := of_decide_eq_true first
    have high : c ≤ 'z' := of_decide_eq_true last
    exact .inr ⟨low, high⟩

theorem alphaNotDigit {c : Char} (h : c.isAlpha) : isDigit c = false := by
  refine Bool.eq_false_iff.mpr fun digit => ?_
  have low := digitRange digit
  have high := alphaRange h
  omega

theorem digitWord {c : Char} (h : isDigit c) : isWordChar c := by
  have digit : c.isDigit := by
    simp only [Char.isDigit, Bool.and_eq_true, decide_eq_true_eq]
    exact digitRange h
  simp [isWordChar, Char.isAlphanum, digit]

theorem alphaWord {c : Char} (h : c.isAlpha) : isWordChar c := by
  simp [isWordChar, Char.isAlphanum, h]

theorem wordCharIff (c : Char) : isWordChar c ↔ c.isAlpha ∨ isDigit c ∨ c = '_' := by
  have digit : c.isDigit = isDigit c := by
    rw [Char.isDigit, isDigit, Bool.decide_and]
    rfl
  simp [isWordChar, Char.isAlphanum, digit, or_assoc]

theorem wordNotSeparator {c : Char} (h : isWordChar c) : isSeparator c = false := by
  refine Bool.eq_false_iff.mpr fun separator => ?_
  simp [(separatorClasses separator).1] at h

theorem wordNotQuote {c : Char} (h : isWordChar c) : c ≠ '"' := by
  rintro rfl
  exact absurd h (by decide)

def Opens : Kind → Char → Prop
  | .name, c => c.isAlpha
  | .string, c => c = '"'
  | .number, c => isDigit c
  | .symbol, c => IsSymbolic c

theorem opensSeparator {k : Kind} {c : Char} (h : Opens k c) : isSeparator c = false := by
  cases k with
  | name => exact wordNotSeparator (alphaWord h)
  | string => cases h; decide
  | number => exact wordNotSeparator (digitWord h)
  | symbol => exact h.separator

theorem opensWord {k : Kind} {c : Char} (h : Opens k c) :
    isWordChar c ↔ k = .name ∨ k = .number := by
  cases k with
  | name => simpa using alphaWord h
  | string => cases h; decide
  | number => simpa using digitWord h
  | symbol => simp [h.word]

theorem opensAlpha {k : Kind} {c : Char} (h : Opens k c) : c.isAlpha ↔ k = .name := by
  cases k with
  | name => exact iff_of_true h rfl
  | string => cases h; decide
  | number =>
    simp only [reduceCtorEq, iff_false]
    intro alpha
    rw [Opens, alphaNotDigit alpha] at h
    cases h
  | symbol =>
    simp only [reduceCtorEq, iff_false]
    intro alpha
    have word := alphaWord alpha
    simp [h.word] at word

theorem opensDigit {k : Kind} {c : Char} (h : Opens k c) : isDigit c ↔ k = .number := by
  cases k with
  | name => simp [alphaNotDigit h]
  | string => cases h; decide
  | number => exact iff_of_true h rfl
  | symbol =>
    simp only [reduceCtorEq, iff_false]
    intro digit
    have word := digitWord digit
    simp [h.word] at word

theorem opensQuote {k : Kind} {c : Char} (h : Opens k c) : c = '"' ↔ k = .string := by
  cases k with
  | name => simpa using wordNotQuote (alphaWord h)
  | string => exact iff_of_true h rfl
  | number => simpa using wordNotQuote (digitWord h)
  | symbol => simpa using h.quote

theorem spellingOpens {limits : Limits.Lexical} {text : List Char} {t : Token}
    (h : Spelling limits text t) : ∃ c cs, text = c :: cs ∧ Opens t.kind c := by
  cases h with
  | name word short =>
    cases text with
    | nil => cases word
    | cons c cs => exact ⟨c, cs, rfl, word.1⟩
  | string valid line small => exact ⟨'"', _, rfl, rfl⟩
  | number nonempty digits short finite =>
    cases text with
    | nil => exact absurd rfl nonempty
    | cons c cs => exact ⟨c, cs, rfl, digits c (by simp)⟩
  | symbol symbolic => exact ⟨_, [], rfl, symbolic⟩

theorem endsSpelling {limits : Limits.Lexical} {text : List Char} {t : Token}
    (h : Spelling limits text t) (k : Kind) (rest : List Char) :
    Ends k (text ++ rest) ↔ ¬Fused k t.kind := by
  obtain ⟨c, cs, rfl, opens⟩ := spellingOpens h
  have word := opensWord opens
  have digit := opensDigit opens
  cases k with
  | name =>
    simp only [Ends, Stops, List.cons_append, List.head?_cons, Option.mem_def, Option.some.injEq,
      forall_eq', ← Bool.not_eq_true, word]
    cases t.kind <;> simp [Fused]
  | number =>
    simp only [Ends, Stops, List.cons_append, List.head?_cons, Option.mem_def, Option.some.injEq,
      forall_eq', ← Bool.not_eq_true, digit]
    cases t.kind <;> simp [Fused]
  | string => simp [Ends, Fused]
  | symbol => simp [Ends, Fused]

theorem endsNil (k : Kind) : Ends k [] := by
  cases k <;> simp [Ends, Stops]

theorem endsSeparator {c : Char} (h : isSeparator c) (k : Kind) (cs : List Char) :
    Ends k (c :: cs) := by
  obtain ⟨word, digit, _⟩ := separatorClasses h
  cases k <;> simp [Ends, Stops, word, digit]

end MathTokens

import MathTokens.Proofs.ByteScans

/-! Which texts leave no quote open. They are those that fall into plain characters and closed literals,
and they do so in one way only; what the scan for a literal cuts off is the first of these parts. -/
namespace MathTokens

namespace Quoted

inductive Part where
  | plain (c : Char)
  | literal (body : List Char)
  deriving DecidableEq, Repr

namespace Part

def chars : Part → List Char
  | .plain c => [c]
  | .literal body => '"' :: (body ++ ['"'])

def Valid : Part → Prop
  | .plain c => c ≠ '"'
  | .literal body => Body body

end Part

def joined (parts : List Part) : List Char := parts.flatMap Part.chars

theorem joinedCons (x : Part) (xs : List Part) : joined (x :: xs) = x.chars ++ joined xs := rfl

structure Divides (parts : List Part) (cs : List Char) : Prop where
  valid : ∀ x ∈ parts, x.Valid
  whole : joined parts = cs

theorem balancedPart {x : Part} (valid : x.Valid) (rest : List Char) :
    balanced (x.chars ++ rest) = balanced rest := by
  cases x with
  | plain c => exact balancedPlain (by simpa [Part.chars] using Ne.symm valid) rest
  | literal body => exact balancedLiteral valid rest

theorem joinedBalanced {parts : List Part} (valid : ∀ x ∈ parts, x.Valid) :
    balanced (joined parts) := by
  induction parts with
  | nil => rfl
  | cons x xs ih =>
    obtain ⟨here, later⟩ := List.forall_mem_cons.mp valid
    rw [joinedCons, balancedPart here]
    exact ih later

theorem openedCloses {previous : Char} {cs : List Char} (closed : balancedFrom true previous cs) :
    ∃ body rest, Held previous body ∧ cs = body ++ '"' :: rest ∧ balanced rest := by
  induction cs generalizing previous with
  | nil => cases closed
  | cons c cs ih =>
    rw [balancedFrom] at closed
    by_cases closing : c = '"' ∧ previous ≠ '\\'
    · obtain ⟨rfl, bare⟩ := closing
      rw [if_pos ⟨rfl, fun kept => bare kept.2⟩] at closed
      exact ⟨[], cs, bare, rfl, (balancedFromClosed '"' cs).symm.trans closed⟩
    · rw [if_neg (fun h => closing ⟨h.1, fun same => h.2 ⟨rfl, same⟩⟩)] at closed
      obtain ⟨body, rest, held, rfl, later⟩ := ih closed
      exact ⟨c :: body, rest,
        ⟨fun quote => Classical.not_not.mp fun bare => closing ⟨quote, bare⟩, held⟩, rfl, later⟩

theorem balancedParts (cs : List Char) (closed : balanced cs) : ∃ parts, Divides parts cs := by
  match cs with
  | [] => exact ⟨[], by simp, rfl⟩
  | c :: cs =>
    by_cases quote : c = '"'
    · subst quote
      obtain ⟨body, rest, held, rfl, later⟩ := @openedCloses '"' cs closed
      obtain ⟨parts, valid, rfl⟩ := balancedParts rest later
      refine ⟨.literal body :: parts, List.forall_mem_cons.mpr ⟨(bodyIff body).mpr held, valid⟩, ?_⟩
      simp [joinedCons, Part.chars]
    · have later : balanced cs := by rwa [← balancedPart (x := .plain c) quote]
      obtain ⟨parts, valid, rfl⟩ := balancedParts cs later
      exact ⟨.plain c :: parts, List.forall_mem_cons.mpr ⟨quote, valid⟩, rfl⟩
termination_by cs.length

/- A quote behind a body is none that the body could hold, so nothing but the text tells where a body
ends. -/
theorem heldUnique {previous : Char} {one two xs ys : List Char} (first : Held previous one)
    (second : Held previous two) (same : one ++ '"' :: xs = two ++ '"' :: ys) :
    one = two ∧ xs = ys := by
  induction one generalizing previous two with
  | nil =>
    cases two with
    | nil => exact ⟨rfl, (List.cons.inj same).2⟩
    | cons d two => exact absurd (second.1 (List.cons.inj same).1.symm) first
  | cons c one ih =>
    cases two with
    | nil => exact absurd (first.1 (List.cons.inj same).1) second
    | cons d two =>
      obtain ⟨rfl, tails⟩ := List.cons.inj same
      obtain ⟨rfl, rest⟩ := ih first.2 second.2 tails
      exact ⟨rfl, rest⟩

theorem partUnique {x y : Part} (first : x.Valid) (second : y.Valid) {xs ys : List Char}
    (same : x.chars ++ xs = y.chars ++ ys) : x = y ∧ xs = ys := by
  cases x with
  | plain c =>
    cases y with
    | plain d =>
      obtain ⟨rfl, rest⟩ := List.cons.inj same
      exact ⟨rfl, rest⟩
    | literal body => exact absurd (List.cons.inj same).1 first
  | literal body =>
    cases y with
    | plain d => exact absurd (List.cons.inj same).1.symm second
    | literal other =>
      have tails : body ++ ['"'] ++ xs = other ++ ['"'] ++ ys := (List.cons.inj same).2
      rw [List.append_assoc, List.append_assoc] at tails
      obtain ⟨rfl, rest⟩ := heldUnique ((bodyIff body).mp first) ((bodyIff other).mp second) tails
      exact ⟨rfl, rest⟩

theorem partsUnique {xs ys : List Part} (first : ∀ x ∈ xs, x.Valid) (second : ∀ y ∈ ys, y.Valid)
    (same : joined xs = joined ys) : xs = ys := by
  have filled (x : Part) : x.chars ≠ [] := by cases x <;> exact List.cons_ne_nil _ _
  induction xs generalizing ys with
  | nil =>
    cases ys with
    | nil => rfl
    | cons y ys => exact absurd (List.append_eq_nil_iff.mp same.symm).1 (filled y)
  | cons x xs ih =>
    cases ys with
    | nil => exact absurd (List.append_eq_nil_iff.mp same).1 (filled x)
    | cons y ys =>
      obtain ⟨here, later⟩ := List.forall_mem_cons.mp first
      obtain ⟨here', later'⟩ := List.forall_mem_cons.mp second
      obtain ⟨rfl, tails⟩ := partUnique here here' same
      rw [ih later later' tails]

theorem literalLengthIff {cs : List Char} {n : Nat} :
    Bytes.literalLength? (Bytes.encode cs) = some n ↔
      ∃ body rest, Text.splitAtByte? n cs = some (Part.chars (.literal body), rest) ∧ Body body ∧
        '\n' ∉ body := by
  rw [Bytes.literalLength, Option.map_eq_some_iff]
  constructor
  · rintro ⟨⟨text, rest⟩, cut, rfl⟩
    obtain ⟨body, valid, line, rfl, rfl⟩ := splitLiteralIff.mp cut
    exact ⟨body, rest, Text.splitAtByteAppend _ rest, valid, line⟩
  · rintro ⟨body, rest, front, valid, line⟩
    obtain ⟨rfl, length⟩ := Text.splitAtByteWhole front
    exact ⟨(Part.chars (.literal body), rest), splitLiteralIff.mpr ⟨body, valid, line, rfl, rfl⟩,
      length⟩

theorem dividesUnique {xs ys : List Part} {cs : List Char} (one : Divides xs cs)
    (two : Divides ys cs) : xs = ys :=
  partsUnique one.valid two.valid (one.whole.trans two.whole.symm)

end Quoted

theorem quoteScansAgree (cs : List Char) :
    let balanced (cs : List Char) := Bytes.balancedFrom false 0 (Bytes.encode cs)
    let literal? (cs : List Char) := Bytes.literalLength? (Bytes.encode cs)
    (balanced cs ↔ ∃ parts, Quoted.Divides parts cs) ∧
    (∀ xs ys, Quoted.Divides xs cs → Quoted.Divides ys cs → xs = ys) ∧
    (∀ n, literal? cs = some n ↔ ∃ body rest,
      Text.splitAtByte? n cs = some (Quoted.Part.chars (.literal body), rest) ∧
        Quoted.Body body ∧ '\n' ∉ body) ∧
    (∀ n, literal? cs = some n → ∃ text rest, Text.splitAtByte? n cs = some (text, rest) ∧
      balanced cs = balanced rest) ∧
    balanced cs = Quoted.balanced cs ∧
    literal? cs = (Quoted.splitLiteral? cs).map Bytes.cutLength := by
  intro balanced literal?
  have counted (cs : List Char) : balanced cs = Quoted.balanced cs :=
    Bytes.balancedEncode false (by decide) cs
  refine ⟨?_, fun xs ys => Quoted.dividesUnique, fun n => Quoted.literalLengthIff, ?_, counted cs,
    Bytes.literalLength cs⟩
  · rw [counted]
    constructor
    · exact Quoted.balancedParts cs
    · rintro ⟨parts, valid, rfl⟩
      exact Quoted.joinedBalanced valid
  · intro n found
    obtain ⟨body, rest, front, valid, _⟩ := Quoted.literalLengthIff.mp found
    refine ⟨_, rest, front, ?_⟩
    rw [counted, counted, (Text.splitAtByteWhole front).1]
    exact Quoted.balancedLiteral valid rest

example : Quoted.Divides [.plain '\\', .literal ['\\', '"']] "\\\"\\\"\"".toList :=
  ⟨by simp [Quoted.Part.Valid, Quoted.bodyIff, Quoted.Held], rfl⟩

end MathTokens

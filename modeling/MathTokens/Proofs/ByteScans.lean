import MathTokens.Proofs.Matching

/-! The scans of the rules over the bytes of a text. A byte below 128 is a character of its own, and
all bytes of the other characters lie beyond, so a scan stops between two characters, where its rule
cuts. -/
namespace MathTokens

namespace Text

theorem byteLengthReverse (cs : List Char) : byteLength cs.reverse = byteLength cs := by
  induction cs with
  | nil => rfl
  | cons c cs ih =>
    rw [List.reverse_cons, byteLengthAppend, ih, byteLengthCons, byteLengthCons, byteLengthNil]
    omega

end Text

namespace Bytes

def encode (cs : List Char) : List UInt8 := cs.flatMap String.utf8EncodeChar

def isDigit (b : UInt8) : Bool := decide (48 ≤ b ∧ b ≤ 57)

def isAlpha (b : UInt8) : Bool := decide (65 ≤ b ∧ b ≤ 90 ∨ 97 ≤ b ∧ b ≤ 122)

def isWord (b : UInt8) : Bool := isAlpha b || isDigit b || b == '_'.toUInt8

def wordLength? : List UInt8 → Option Nat
  | [] => none
  | b :: bs => if isAlpha b then some ((b :: bs).takeWhile isWord).length else none

def balancedFrom (isOpen : Bool) (previous : UInt8) : List UInt8 → Bool
  | [] => !isOpen
  | b :: bs =>
    balancedFrom
      (if b = '"'.toUInt8 ∧ ¬(isOpen ∧ previous = '\\'.toUInt8) then !isOpen else isOpen) b bs

def nameLength? (bs : List UInt8) : Option Nat :=
  (wordLength? bs).filter fun n => balancedFrom false 0 (bs.drop n)

def closeFrom (previous : UInt8) (passed : Nat) : List UInt8 → Option Nat
  | [] => none
  | b :: bs =>
    if b = '\n'.toUInt8 then none
    else if b = '"'.toUInt8 ∧ previous ≠ '\\'.toUInt8 then some (passed + 1)
    else closeFrom b (passed + 1) bs

def literalLength? : List UInt8 → Option Nat
  | [] => none
  | b :: bs => if b = '"'.toUInt8 then closeFrom b 1 bs else none

def digitsLength? (bs : List UInt8) : Option Nat :=
  let length := (bs.takeWhile isDigit).length
  if 0 < length then some length else none

def symbolLength? : List Char → Option Nat
  | [] => none
  | c :: _ => if isSeparator c || isWordChar c || c == '"' then none else some c.utf8Size

def length? : Kind → List Char → Option Nat
  | .name, cs => nameLength? (encode cs)
  | .string, cs => literalLength? (encode cs)
  | .number, cs => digitsLength? (encode cs)
  | .symbol, cs => symbolLength? cs

theorem encodeCons (c : Char) (cs : List Char) :
    encode (c :: cs) = String.utf8EncodeChar c ++ encode cs := rfl

theorem encodeAppend (xs ys : List Char) : encode (xs ++ ys) = encode xs ++ encode ys := by
  simp [encode]

theorem encodeLength (cs : List Char) : (encode cs).length = Text.byteLength cs := by
  induction cs with
  | nil => rfl
  | cons c cs ih =>
    rw [encodeCons, List.length_append, String.length_utf8EncodeChar, ih, Text.byteLengthCons]

theorem byteBeyond {n : Nat} (range : 128 ≤ n ∧ n < 256) : 128 ≤ (UInt8.ofNat n).toNat := by
  have value : (UInt8.ofNat n).toNat = n := Nat.mod_eq_of_lt range.2
  rw [value]
  exact range.1

theorem charBytes (c : Char) :
    (c.toNat < 128 ∧ String.utf8EncodeChar c = [UInt8.ofNat c.toNat]) ∨
      (128 ≤ c.toNat ∧ ∀ b ∈ String.utf8EncodeChar c, 128 ≤ b.toNat) := by
  unfold String.utf8EncodeChar
  change (c.val.toNat < 128 ∧ _) ∨ (128 ≤ c.val.toNat ∧ _)
  dsimp only
  split
  · next small => exact .inl ⟨Nat.lt_succ_of_le small, rfl⟩
  · next wide =>
    refine .inr ⟨Nat.lt_of_not_le wide, ?_⟩
    split
    · simp only [List.forall_mem_cons]
      exact ⟨byteBeyond (by omega), byteBeyond (by omega), by simp⟩
    · split
      · simp only [List.forall_mem_cons]
        exact ⟨byteBeyond (by omega), byteBeyond (by omega), byteBeyond (by omega), by simp⟩
      · simp only [List.forall_mem_cons]
        exact ⟨byteBeyond (by omega), byteBeyond (by omega), byteBeyond (by omega),
          byteBeyond (by omega), by simp⟩

/- A class of bytes and one of characters that agree on every byte of every character. -/
def Agrees (p : UInt8 → Bool) (q : Char → Bool) : Prop :=
  ∀ c, ∀ b ∈ String.utf8EncodeChar c, p b = q c

theorem agreesOf {p : UInt8 → Bool} {q : Char → Bool} (beyond : Bool)
    (ascii : ∀ n < 128, p (UInt8.ofNat n) = q (Char.ofNat n))
    (bytes : ∀ b : UInt8, 128 ≤ b.toNat → p b = beyond)
    (chars : ∀ c : Char, 128 ≤ c.toNat → q c = beyond) : Agrees p q := by
  intro c b member
  rcases charBytes c with ⟨small, single⟩ | ⟨wide, several⟩
  · rw [single, List.mem_singleton] at member
    rw [member, ascii _ small, Char.ofNat_toNat]
  · rw [bytes b (several b member), chars c wide]

theorem digitAgrees : Agrees isDigit MathTokens.isDigit := by
  refine agreesOf false (by decide) (fun b beyond => ?_) (fun c beyond => ?_)
  · simp only [isDigit, UInt8.le_iff_toNat_le, decide_eq_false_iff_not]
    intro range
    have high : b.toNat ≤ 57 := range.2
    omega
  · refine Bool.eq_false_iff.mpr fun digit => ?_
    have range := digitRange digit
    omega

theorem alphaAgrees : Agrees isAlpha Char.isAlpha := by
  refine agreesOf false (by decide) (fun b beyond => ?_) (fun c beyond => ?_)
  · simp only [isAlpha, UInt8.le_iff_toNat_le, decide_eq_false_iff_not]
    intro range
    have high : b.toNat ≤ 90 ∨ b.toNat ≤ 122 := range.imp And.right And.right
    omega
  · refine Bool.eq_false_iff.mpr fun alpha => ?_
    have range := alphaRange alpha
    omega

theorem byteCode {c : Char} (small : c.toNat < 128) : c.toUInt8.toNat = c.toNat :=
  Nat.mod_eq_of_lt (Nat.lt_trans small (by decide))

theorem byteApart {d : Char} (small : d.toNat < 128) {b : UInt8} (beyond : 128 ≤ b.toNat) :
    b ≠ d.toUInt8 := by
  rintro rfl
  have code := byteCode small
  omega

theorem charApart {c d : Char} (small : d.toNat < 128) (wide : 128 ≤ c.toNat) : c ≠ d := by
  rintro rfl
  omega

theorem byteIff {d : Char} (small : d.toNat < 128) {c : Char} {b : UInt8}
    (member : b ∈ String.utf8EncodeChar c) : b = d.toUInt8 ↔ c = d := by
  rcases charBytes c with ⟨single, bytes⟩ | ⟨wide, several⟩
  · rw [bytes, List.mem_singleton] at member
    have here : (UInt8.ofNat c.toNat).toNat = c.toNat := byteCode single
    rw [member, ← UInt8.toNat_inj, here, byteCode small]
    exact Char.toNat_inj
  · exact iff_of_false (byteApart small (several b member)) (charApart small wide)

theorem wordAgrees : Agrees isWord isWordChar := by
  intro c b member
  have underscore : b = '_'.toUInt8 ↔ c = '_' := byteIff (by decide) member
  rw [isWord, alphaAgrees c b member, digitAgrees c b member, Bool.eq_iff_iff, wordCharIff]
  simp [underscore, or_assoc]

theorem takeWhileEncode {p : UInt8 → Bool} {q : Char → Bool} (agree : Agrees p q)
    (cs : List Char) : (encode cs).takeWhile p = encode (cs.takeWhile q) := by
  induction cs with
  | nil => rfl
  | cons c cs ih =>
    rw [encodeCons, List.takeWhile_cons]
    cases inside : q c with
    | true =>
      have all : ∀ b ∈ String.utf8EncodeChar c, p b := fun b member =>
        (agree c b member).trans inside
      rw [List.takeWhile_append_of_pos all, ih]
      rfl
    | false =>
      obtain ⟨b, bs, bytes⟩ := List.exists_cons_of_ne_nil (String.utf8EncodeChar_ne_nil (c := c))
      have outside : p b = false := (agree c b (by simp [bytes])).trans inside
      rw [bytes, List.cons_append, List.takeWhile_cons, outside]
      rfl

/-! Each scan sees the front of a text as its rule does. -/

theorem encodeFirst (c : Char) (cs : List Char) :
    ∃ b bs, encode (c :: cs) = b :: bs ∧ b ∈ String.utf8EncodeChar c := by
  obtain ⟨b, bs, bytes⟩ := List.exists_cons_of_ne_nil (String.utf8EncodeChar_ne_nil (c := c))
  exact ⟨b, bs ++ encode cs, by rw [encodeCons, bytes, List.cons_append], by simp [bytes]⟩

def cutLength (cut : List Char × List Char) : Nat := Text.byteLength cut.1

theorem wordLength (cs : List Char) : wordLength? (encode cs) = (splitWord? cs).map cutLength := by
  cases cs with
  | nil => rfl
  | cons c cs =>
    obtain ⟨b, bs, bytes, member⟩ := encodeFirst c cs
    have taken := takeWhileEncode wordAgrees (c :: cs)
    rw [bytes] at taken ⊢
    rw [wordLength?, taken, alphaAgrees c b member, encodeLength, splitWord?]
    split
    · next alpha =>
      rw [List.takeWhile_cons, if_pos (alphaWord alpha)]
      rfl
    · rfl

theorem digitsLength (cs : List Char) :
    digitsLength? (encode cs) = (splitDigits? cs).map cutLength := by
  unfold digitsLength? splitDigits?
  rw [takeWhileEncode digitAgrees, encodeLength]
  cases cs.takeWhile MathTokens.isDigit with
  | nil => rfl
  | cons c ds =>
    have positive := c.utf8Size_pos
    exact if_pos (by rw [Text.byteLengthCons]; omega)

theorem lastByte (c : Char) (previous : UInt8) :
    (String.utf8EncodeChar c).getLastD previous = '\\'.toUInt8 ↔ c = '\\' := by
  have member : (String.utf8EncodeChar c).getLastD previous ∈ String.utf8EncodeChar c := by
    rw [List.getLastD_eq_getLast?, List.getLast?_eq_some_getLast String.utf8EncodeChar_ne_nil]
    exact List.getLast_mem _
  exact byteIff (by decide) member

theorem balancedPast (isOpen : Bool) {bytes : List UInt8} (beyond : ∀ b ∈ bytes, 128 ≤ b.toNat)
    (previous : UInt8) (bs : List UInt8) :
    balancedFrom isOpen previous (bytes ++ bs) =
      balancedFrom isOpen (bytes.getLastD previous) bs := by
  induction bytes generalizing previous with
  | nil => rfl
  | cons b bytes ih =>
    obtain ⟨far, others⟩ := List.forall_mem_cons.mp beyond
    have other : b ≠ '"'.toUInt8 := byteApart (by decide) far
    rw [List.cons_append, balancedFrom, if_neg (fun h => other h.1), ih others, List.getLastD_cons]

theorem balancedEncode (isOpen : Bool) {previous : UInt8} {before : Char}
    (same : previous = '\\'.toUInt8 ↔ before = '\\') (cs : List Char) :
    balancedFrom isOpen previous (encode cs) = Quoted.balancedFrom isOpen before cs := by
  induction cs generalizing isOpen previous before with
  | nil => rfl
  | cons c cs ih =>
    rw [encodeCons, Quoted.balancedFrom, ← ih _ (lastByte c previous)]
    rcases charBytes c with ⟨single, bytes⟩ | ⟨wide, several⟩
    · have quote : UInt8.ofNat c.toNat = '"'.toUInt8 ↔ c = '"' :=
        byteIff (by decide) (by rw [bytes, List.mem_singleton])
      rw [bytes, List.singleton_append, balancedFrom]
      simp only [quote, same]
      rfl
    · have other : c ≠ '"' := charApart (by decide) wide
      rw [balancedPast isOpen several, if_neg (fun h => other h.1)]

theorem closePast {bytes : List UInt8} (beyond : ∀ b ∈ bytes, 128 ≤ b.toNat)
    (previous : UInt8) (passed : Nat) (bs : List UInt8) :
    closeFrom previous passed (bytes ++ bs) =
      closeFrom (bytes.getLastD previous) (passed + bytes.length) bs := by
  induction bytes generalizing previous passed with
  | nil => rfl
  | cons b bytes ih =>
    obtain ⟨far, others⟩ := List.forall_mem_cons.mp beyond
    have plain : b ≠ '\n'.toUInt8 := byteApart (by decide) far
    have other : b ≠ '"'.toUInt8 := byteApart (by decide) far
    rw [List.cons_append, closeFrom, if_neg plain, if_neg (fun h => other h.1), ih others,
      List.getLastD_cons, List.length_cons, Nat.add_assoc, Nat.add_comm 1]

theorem closeEncode {previous : UInt8} {before : Char}
    (same : previous = '\\'.toUInt8 ↔ before = '\\') (taken cs : List Char) :
    closeFrom previous (Text.byteLength taken) (encode cs) =
      (Quoted.closeFrom before taken cs).map cutLength := by
  induction cs generalizing previous before taken with
  | nil => rfl
  | cons c cs ih =>
    have later := ih (lastByte c previous) (c :: taken)
    rw [Text.byteLengthCons, Nat.add_comm] at later
    rw [encodeCons, Quoted.closeFrom]
    rcases charBytes c with ⟨single, bytes⟩ | ⟨wide, several⟩
    · have member : UInt8.ofNat c.toNat ∈ String.utf8EncodeChar c := by
        rw [bytes, List.mem_singleton]
      have feed : UInt8.ofNat c.toNat = '\n'.toUInt8 ↔ c = '\n' := byteIff (by decide) member
      have quote : UInt8.ofNat c.toNat = '"'.toUInt8 ↔ c = '"' := byteIff (by decide) member
      have size : c.utf8Size = 1 := by
        rw [← String.length_utf8EncodeChar, bytes]
        rfl
      rw [bytes, size] at later
      rw [bytes, List.singleton_append, closeFrom]
      simp only [feed, quote, same, ne_eq]
      split
      · rfl
      · split
        · rw [Option.map_some, cutLength, Text.byteLengthReverse, Text.byteLengthCons, size,
            Nat.add_comm]
        · exact later
    · have plain : c ≠ '\n' := charApart (by decide) wide
      have other : c ≠ '"' := charApart (by decide) wide
      rw [closePast several, if_neg plain, if_neg (fun h => other h.1),
        String.length_utf8EncodeChar, later]

theorem literalLength (cs : List Char) :
    literalLength? (encode cs) = (Quoted.splitLiteral? cs).map cutLength := by
  cases cs with
  | nil => rfl
  | cons c cs =>
    by_cases quote : c = '"'
    · subst quote
      exact closeEncode (by decide) ['"'] cs
    · obtain ⟨b, bs, bytes, member⟩ := encodeFirst c cs
      have other : b ≠ '"'.toUInt8 := mt (byteIff (by decide) member).mp quote
      rw [bytes, literalLength?, if_neg other, splitLiteralOther quote]
      rfl

theorem nameLength (cs : List Char) : nameLength? (encode cs) = (splitName? cs).map cutLength := by
  rw [nameLength?, splitName?, wordLength]
  cases found : splitWord? cs with
  | none => rfl
  | some cut =>
    obtain ⟨word, rest⟩ := cut
    have behind : (encode cs).drop (Text.byteLength word) = encode rest := by
      rw [(splitWordWhole found).1, encodeAppend, ← encodeLength, List.drop_left]
    have closed : balancedFrom false 0 (encode rest) = Quoted.balanced rest :=
      balancedEncode false (by decide) rest
    simp only [Option.map_some, Option.filter_some, cutLength, behind, closed]
    split <;> rfl

theorem symbolLength (cs : List Char) : symbolLength? cs = (splitSymbol? cs).map cutLength := by
  cases cs with
  | nil => rfl
  | cons c cs =>
    rw [symbolLength?, splitSymbol?]
    split
    · rfl
    · simp [cutLength]

theorem ruleLength : ∀ rule ∈ Rule.table, ∀ cs,
    length? rule.kind cs = (rule.split? cs).map cutLength := by
  simp only [Rule.table, List.forall_mem_cons]
  exact ⟨nameLength, literalLength, digitsLength, symbolLength, by simp⟩

theorem lengthCuts {cs : List Char} {length : Option Nat} {split : Option (List Char × List Char)}
    (same : length = split.map cutLength) (whole : ∀ cut ∈ split, cs = cut.1 ++ cut.2) :
    length.map (fun n => Text.splitAtByte? n cs) = split.map some := by
  subst same
  cases split with
  | none => rfl
  | some cut =>
    rw [Option.map_some, Option.map_some, Option.map_some, cutLength, whole cut rfl,
      Text.splitAtByteAppend]

structure Cuts (cs : List Char) : Prop where
  rules : ∀ rule ∈ Rule.table,
    (length? rule.kind cs).map (fun n => Text.splitAtByte? n cs) = (rule.split? cs).map some
  word : (wordLength? (encode cs)).map (fun n => Text.splitAtByte? n cs) = (splitWord? cs).map some
  first : ∀ c ∈ cs.head?, Text.splitAtByte? c.utf8Size cs = some ([c], cs.tail)
  line : Text.splitAtByte? ((encode cs).takeWhile (· != '\n'.toUInt8)).length cs =
    some (cs.takeWhile (· != '\n'), cs.dropWhile (· != '\n'))
  blanks : Text.splitAtByte? (Text.byteLength cs - Text.byteLength (cs.dropWhile isSeparator)) cs =
    some (cs.takeWhile isSeparator, cs.dropWhile isSeparator)

theorem cutWhile (q : Char → Bool) (cs : List Char) :
    Text.splitAtByte? (Text.byteLength (cs.takeWhile q)) cs =
      some (cs.takeWhile q, cs.dropWhile q) := by
  have cut := Text.splitAtByteAppend (cs.takeWhile q) (cs.dropWhile q)
  rwa [List.takeWhile_append_dropWhile] at cut

theorem cuts (cs : List Char) : Cuts cs where
  rules rule member := lengthCuts (ruleLength rule member cs) fun _ cut =>
    (rule.splitWhole cut).1
  word := lengthCuts (wordLength cs) fun _ cut => (splitWordWhole cut).1
  first c head := by
    cases cs with
    | nil => cases head
    | cons d cs =>
      cases head
      simpa using Text.splitAtByteAppend [c] cs
  line := by
    have feed : Agrees (· != '\n'.toUInt8) (· != '\n') := by
      intro c b member
      have same : b = '\n'.toUInt8 ↔ c = '\n' := byteIff (by decide) member
      rw [Bool.eq_iff_iff, bne_iff_ne, bne_iff_ne]
      exact not_congr same
    rw [takeWhileEncode feed, encodeLength, cutWhile]
  blanks := by
    have whole : Text.byteLength cs =
        Text.byteLength (cs.takeWhile isSeparator ++ cs.dropWhile isSeparator) := by
      rw [List.takeWhile_append_dropWhile]
    rw [whole, Text.byteLengthAppend, Nat.add_sub_cancel, cutWhile]

end Bytes
end MathTokens

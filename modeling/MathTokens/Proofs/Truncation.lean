import MathTokens.Event
import MathTokens.Proofs.MessageSize
import MathTokens.Proofs.ByteScans

/-! Messages cut at a number of bytes. Stepping back from the limit over the bytes inside a character ends
behind the longest front of whole characters, at most three bytes below the limit. -/
namespace MathTokens

namespace Bytes

def isInner (b : UInt8) : Bool := decide (128 ≤ b ∧ b < 192)

def isBoundary (bs : List UInt8) (offset : Nat) : Bool :=
  offset == 0 || match bs[offset]? with
    | some b => !isInner b
    | none => offset == bs.length

def stepBack (bs : List UInt8) : Nat → Option Nat
  | 0 => if isBoundary bs 0 then some 0 else none
  | offset + 1 => if isBoundary bs (offset + 1) then some (offset + 1) else stepBack bs offset

theorem outerByte {n : Nat} (range : n < 128 ∨ 192 ≤ n) (small : n < 256) :
    isInner (UInt8.ofNat n) = false := by
  have value : (UInt8.ofNat n).toNat = n := Nat.mod_eq_of_lt small
  simp only [isInner, UInt8.le_iff_toNat_le, UInt8.lt_iff_toNat_lt, value, decide_eq_false_iff_not]
  intro ⟨low, high⟩
  have low : 128 ≤ n := low
  have high : n < 192 := high
  omega

theorem innerByte {n : Nat} (range : 128 ≤ n ∧ n < 192) : isInner (UInt8.ofNat n) = true := by
  have value : (UInt8.ofNat n).toNat = n := Nat.mod_eq_of_lt (by omega)
  simp only [isInner, UInt8.le_iff_toNat_le, UInt8.lt_iff_toNat_lt, value, decide_eq_true_eq]
  exact range

theorem charInner (c : Char) :
    ∃ b bs, String.utf8EncodeChar c = b :: bs ∧ isInner b = false ∧ ∀ x ∈ bs, isInner x = true := by
  unfold String.utf8EncodeChar
  dsimp only
  split
  · next small =>
    exact ⟨_, [], rfl, outerByte (.inl (by omega)) (by omega), by simp⟩
  split
  · refine ⟨_, _, rfl, outerByte (.inr (by omega)) (by omega), ?_⟩
    simp only [List.forall_mem_cons]
    exact ⟨innerByte (by omega), by simp⟩
  split
  · refine ⟨_, _, rfl, outerByte (.inr (by omega)) (by omega), ?_⟩
    simp only [List.forall_mem_cons]
    exact ⟨innerByte (by omega), innerByte (by omega), by simp⟩
  · refine ⟨_, _, rfl, outerByte (.inr (by omega)) (by omega), ?_⟩
    simp only [List.forall_mem_cons]
    exact ⟨innerByte (by omega), innerByte (by omega), innerByte (by omega), by simp⟩

theorem frontBoundary (front : List Char) (c : Char) (rest : List Char) :
    isBoundary (encode (front ++ c :: rest)) (Text.byteLength front) = true := by
  obtain ⟨b, bs, bytes, outer, _⟩ := charInner c
  have here : (encode (front ++ c :: rest))[Text.byteLength front]? = some b := by
    rw [encodeAppend, encodeCons, bytes, List.getElem?_append_right (Nat.le_of_eq (encodeLength front)),
      encodeLength, Nat.sub_self]
    rfl
  simp [isBoundary, here, outer]

theorem insideBoundary (front : List Char) (c : Char) (rest : List Char) {offset : Nat}
    (above : Text.byteLength front < offset) (below : offset < Text.byteLength front + c.utf8Size) :
    isBoundary (encode (front ++ c :: rest)) offset = false := by
  obtain ⟨b, bs, bytes, _, inner⟩ := charInner c
  have size : (b :: bs).length = c.utf8Size := by
    rw [← bytes, String.length_utf8EncodeChar]
  obtain ⟨k, rfl⟩ := Nat.exists_eq_add_of_lt above
  have short : k < bs.length := by
    rw [List.length_cons] at size
    omega
  have here : (encode (front ++ c :: rest))[Text.byteLength front + k + 1]? = some bs[k] := by
    rw [encodeAppend, encodeCons, bytes, List.getElem?_append_right (by rw [encodeLength]; omega),
      encodeLength, List.getElem?_append_left (by rw [List.length_cons]; omega),
      show Text.byteLength front + k + 1 - Text.byteLength front = k + 1 by omega,
      List.getElem?_cons_succ, List.getElem?_eq_getElem short]
  simp [isBoundary, here, inner bs[k] (List.getElem_mem short)]

theorem stepBackTo {bs : List UInt8} {stop : Nat} (boundary : isBoundary bs stop = true) (more : Nat)
    (inside : ∀ offset, stop < offset → offset ≤ stop + more → isBoundary bs offset = false) :
    stepBack bs (stop + more) = some stop := by
  induction more with
  | zero => cases stop <;> simp [stepBack, boundary]
  | succ more ih =>
    have passed := inside (stop + more + 1) (by omega) (by omega)
    rw [← Nat.add_assoc, stepBack, passed, if_neg (by decide)]
    exact ih fun offset above below => inside offset above (by omega)

end Bytes

namespace Text

/- A front of whole characters within a limit that has no room for the next character. -/
structure Longest (limit : Nat) (cs front rest : List Char) : Prop where
  whole : cs = front ++ rest
  within : byteLength front ≤ limit
  full : ∀ c ∈ rest.head?, limit < byteLength front + c.utf8Size

theorem takeBytesFrom (taken : List Char) (budget : Nat) (cs : List Char) :
    ∃ front rest, takeBytes.go taken budget cs = taken.reverse ++ front ∧
      Longest budget cs front rest := by
  induction cs generalizing taken budget with
  | nil => exact ⟨[], [], by simp [takeBytes.go], rfl, Nat.zero_le _, by simp⟩
  | cons c cs ih =>
    rw [takeBytes.go]
    split
    · next fits =>
      obtain ⟨front, rest, taken', longest⟩ := ih (c :: taken) (budget - c.utf8Size)
      have within := longest.within
      refine ⟨c :: front, rest, by simp [taken'], by rw [longest.whole]; rfl, ?_, ?_⟩
      · rw [byteLengthCons]
        omega
      · intro d first
        have beyond := longest.full d first
        rw [byteLengthCons]
        omega
    · next wide =>
      refine ⟨[], c :: cs, by simp, rfl, Nat.zero_le _, ?_⟩
      intro d first
      cases first
      rw [byteLengthNil]
      omega

theorem takeBytesLongest (limit : Nat) (cs : List Char) :
    ∃ rest, Longest limit cs (takeBytes limit cs) rest := by
  obtain ⟨front, rest, taken, longest⟩ := takeBytesFrom [] limit cs
  have same : takeBytes limit cs = front := taken
  exact ⟨rest, same ▸ longest⟩

variable {limit : Nat} {cs front rest : List Char}

theorem Longest.holds (longest : Longest limit cs front rest) {other : List Char} (part : other <+: cs)
    (fits : byteLength other ≤ limit) : other <+: front := by
  have own : front <+: cs := ⟨rest, longest.whole.symm⟩
  rcases Nat.lt_or_ge front.length other.length with longer | shorter
  · obtain ⟨more, rfl⟩ := List.prefix_of_prefix_length_le own part (Nat.le_of_lt longer)
    obtain ⟨behind, whole⟩ := part
    rw [longest.whole, List.append_assoc, List.append_cancel_left_eq] at whole
    cases more with
    | nil => simp at longer
    | cons c more =>
      have beyond := longest.full c (by simp [← whole])
      rw [byteLengthAppend, byteLengthCons] at fits
      omega
  · exact List.prefix_of_prefix_length_le part own shorter

theorem Longest.reached (longest : Longest limit cs front rest) (long : limit < byteLength cs) :
    Bytes.stepBack (Bytes.encode cs) limit = some (byteLength front) ∧ limit ≤ byteLength front + 3 := by
  obtain ⟨rfl, within, full⟩ := longest
  cases rest with
  | nil =>
    rw [List.append_nil] at long
    omega
  | cons c rest =>
    have beyond := full c rfl
    have small := c.utf8Size_le_four
    obtain ⟨more, rfl⟩ := Nat.exists_eq_add_of_le within
    refine ⟨Bytes.stepBackTo (Bytes.frontBoundary front c rest) more fun offset above below => ?_,
      by omega⟩
    exact Bytes.insideBoundary front c rest above (by omega)

theorem sliceFront (front rest : List Char) :
    slice? 0 (byteLength front) (front ++ rest) = some front := by
  have start : splitAtByte? 0 (front ++ rest) = some ([], front ++ rest) :=
    splitAtByteAppend [] (front ++ rest)
  rw [slice?, if_pos (Nat.zero_le _), start, Nat.sub_zero]
  simp only [Option.bind_eq_bind, Option.bind_some, splitAtByteAppend]

def cutBack? (limit : Nat) (cs : List Char) : Option (List Char) :=
  if byteLength cs ≤ limit then some cs
  else do
    let stop ← Bytes.stepBack (Bytes.encode cs) limit
    let front ← slice? 0 stop cs
    some (front ++ ['.', '.', '.'])

end Text

theorem bytesOfString (s : String) : s.utf8ByteSize = Text.byteLength s.toList := by
  rw [← Text.byteSizeOfList, String.ofList_toList]

theorem truncationKeepsLongestFront (limit : Nat) (message : String) :
    let kept := Event.truncate limit message
    Text.cutBack? limit message.toList = some kept.toList ∧
    (message.utf8ByteSize ≤ limit → kept = message) ∧
    (limit < message.utf8ByteSize → ∃ front : List Char,
      kept = String.ofList front ++ "..." ∧
      front <+: message.toList ∧ Text.byteLength front ≤ limit ∧
      (∀ other, other <+: message.toList → Text.byteLength other ≤ limit → other <+: front) ∧
      Bytes.stepBack (Bytes.encode message.toList) limit = some (Text.byteLength front) ∧
      limit ≤ Text.byteLength front + 3 ∧
      limit ≤ kept.utf8ByteSize ∧ kept.utf8ByteSize ≤ limit + 3) := by
  intro kept
  obtain ⟨rest, longest⟩ := Text.takeBytesLongest limit message.toList
  rcases Nat.lt_or_ge limit message.utf8ByteSize with long | short
  · have cut : kept = String.ofList (Text.takeBytes limit message.toList) ++ "..." :=
      if_neg (Nat.not_le.mpr long)
    have size : kept.utf8ByteSize = Text.byteLength (Text.takeBytes limit message.toList) + 3 := by
      rw [cut, String.utf8ByteSize_append, Text.byteSizeOfList]
      rfl
    have within := longest.within
    obtain ⟨reached, near⟩ := longest.reached (bytesOfString message ▸ long)
    have slice := Text.sliceFront (Text.takeBytes limit message.toList) rest
    rw [← longest.whole] at slice
    refine ⟨?_, fun short => absurd short (Nat.not_le.mpr long), fun _ => ⟨_, cut,
      ⟨rest, longest.whole.symm⟩, within, fun other => longest.holds, reached, near, by omega, by omega⟩⟩
    rw [Text.cutBack?, if_neg (by rw [← bytesOfString]; omega), reached, cut, String.toList_append,
      String.toList_ofList]
    simp only [Option.bind_eq_bind, Option.bind_some, slice]
    rfl
  · have whole : kept = message := if_pos short
    refine ⟨?_, fun _ => whole, fun long => absurd short (Nat.not_le.mpr long)⟩
    rw [Text.cutBack?, if_pos (bytesOfString message ▸ short), whole]

end MathTokens

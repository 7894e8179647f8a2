/-! Text as a list of characters, measured and cut in UTF-8 bytes. A cut exists only on a
character boundary inside the text; the parts of a cut give the text back. -/
namespace MathTokens.Text

def byteLength (cs : List Char) : Nat := cs.foldl (fun n c => n + c.utf8Size) 0

theorem byteLengthFoldl (cs : List Char) (n : Nat) :
    cs.foldl (fun n c => n + c.utf8Size) n = n + byteLength cs := by
  induction cs generalizing n with
  | nil => simp [byteLength]
  | cons c cs ih => simp only [byteLength, List.foldl_cons]; rw [ih, ih (0 + _)]; omega

@[simp] theorem byteLengthNil : byteLength [] = 0 := rfl

@[simp] theorem byteLengthCons (c : Char) (cs : List Char) :
    byteLength (c :: cs) = c.utf8Size + byteLength cs := by
  rw [byteLength, List.foldl_cons, byteLengthFoldl]; omega

@[simp] theorem byteLengthAppend (xs ys : List Char) :
    byteLength (xs ++ ys) = byteLength xs + byteLength ys := by
  induction xs with
  | nil => simp
  | cons c xs ih => simp [ih, Nat.add_assoc]

theorem lengthLeBytes (cs : List Char) : cs.length ≤ byteLength cs := by
  induction cs with
  | nil => exact Nat.le_refl _
  | cons c cs ih =>
    have positive := c.utf8Size_pos
    rw [List.length_cons, byteLengthCons]
    omega

theorem bytesLeLength (cs : List Char) : byteLength cs ≤ 4 * cs.length := by
  induction cs with
  | nil => exact Nat.le_refl _
  | cons c cs ih =>
    have small := c.utf8Size_le_four
    rw [List.length_cons, byteLengthCons]
    omega

def cut (taken : List Char) : Nat → List Char → Option (List Char × List Char)
  | 0, cs => some (taken.reverse, cs)
  | _ + 1, [] => none
  | n + 1, c :: cs => if c.utf8Size ≤ n + 1 then cut (c :: taken) (n + 1 - c.utf8Size) cs else none
termination_by _ cs => cs.length

def splitAtByte? (offset : Nat) (cs : List Char) : Option (List Char × List Char) :=
  cut [] offset cs

theorem cutAppend (taken : List Char) (n : Nat) (cs : List Char) :
    ∀ front back, cut taken n cs = some (front, back) →
      ∃ mid, front = taken.reverse ++ mid ∧ cs = mid ++ back ∧ byteLength mid = n := by
  fun_induction cut taken n cs with
  | case1 taken cs => intro f b h; cases h; exact ⟨[], by simp⟩
  | case2 => intro f b h; cases h
  | case3 taken n c cs fits ih =>
    intro f b h
    obtain ⟨mid, rfl, rfl, hn⟩ := ih f b h
    exact ⟨c :: mid, by simp, by simp, by simp; omega⟩
  | case4 => intro f b h; cases h

theorem splitAtByteWhole {n : Nat} {cs front back : List Char}
    (h : splitAtByte? n cs = some (front, back)) : cs = front ++ back ∧ byteLength front = n := by
  obtain ⟨mid, rfl, rfl, hn⟩ := cutAppend [] n cs front back h
  exact ⟨by simp, by simpa using hn⟩

theorem cutOfAppend (taken mid back : List Char) :
    cut taken (byteLength mid) (mid ++ back) = some (taken.reverse ++ mid, back) := by
  induction mid generalizing taken with
  | nil => cases back <;> simp [cut]
  | cons c mid ih =>
    have pos : 0 < c.utf8Size := c.utf8Size_pos
    obtain ⟨n, hn⟩ : ∃ n, byteLength (c :: mid) = n + 1 := ⟨byteLength (c :: mid) - 1, by simp; omega⟩
    rw [hn, List.cons_append, cut, if_pos (by rw [← hn]; simp), ← hn]
    simp [ih]

theorem splitAtByteAppend (front back : List Char) :
    splitAtByte? (byteLength front) (front ++ back) = some (front, back) := by
  rw [splitAtByte?, cutOfAppend]; rfl

/-- The text from byte `start` up to byte `stop`; `none` when the two are the wrong way round, off
the text or inside a character. -/
def slice? (start stop : Nat) (cs : List Char) : Option (List Char) :=
  if start ≤ stop then do
    let (_, back) ← splitAtByte? start cs
    let (mid, _) ← splitAtByte? (stop - start) back
    some mid
  else none

def trimEnd (p : Char → Bool) (cs : List Char) : List Char := (cs.reverse.dropWhile p).reverse

theorem trimEndAppend (p : Char → Bool) (cs : List Char) : ∃ tail, cs = trimEnd p cs ++ tail := by
  refine ⟨(cs.reverse.takeWhile p).reverse, ?_⟩
  rw [trimEnd, ← List.reverse_append, List.takeWhile_append_dropWhile, List.reverse_reverse]

def takeBytes (budget : Nat) (cs : List Char) : List Char := go [] budget cs
where
  go (taken : List Char) (budget : Nat) : List Char → List Char
    | [] => taken.reverse
    | c :: cs => if c.utf8Size ≤ budget then go (c :: taken) (budget - c.utf8Size) cs else taken.reverse

def takeChars (n : Nat) (s : String) : String := String.ofList (s.toList.take n)

end MathTokens.Text

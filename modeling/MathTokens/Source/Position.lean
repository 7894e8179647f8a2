import MathTokens.Text.Utf8
/-! Places in a source text: a byte offset, and the line and column a reader counts from one.
A column counts characters. -/
namespace MathTokens

structure Position where
  offset : Nat
  line : Nat
  column : Nat
  deriving DecidableEq, Repr

namespace Position

/- What a place needs to be kept in memory: 64 bits for its offset, 32 for its line and its column. -/
structure Fits (p : Position) : Prop where
  offset : p.offset < UInt64.size
  line : p.line < UInt32.size
  column : p.column < UInt32.size

instance (p : Position) : Decidable p.Fits :=
  decidable_of_iff (p.offset < UInt64.size ∧ p.line < UInt32.size ∧ p.column < UInt32.size)
    ⟨fun ⟨offset, line, column⟩ => ⟨offset, line, column⟩,
      fun fits => ⟨fits.offset, fits.line, fits.column⟩⟩

def start : Position := ⟨0, 1, 1⟩

def advance (p : Position) (c : Char) : Position :=
  if c = '\n' then ⟨p.offset + 1, p.line + 1, 1⟩ else ⟨p.offset + c.utf8Size, p.line, p.column + 1⟩

def advanceOver (p : Position) (cs : List Char) : Position := cs.foldl advance p

def text (p : Position) : String := s!"{p.line}:{p.column}"

def order (p q : Position) : Ordering :=
  (compare p.offset q.offset).then ((compare p.line q.line).then (compare p.column q.column))

def earlier (p q : Position) : Position := if order q p = .lt then q else p

def later (p q : Position) : Position := if order q p = .lt then p else q

@[simp] theorem advanceOverNil (p : Position) : p.advanceOver [] = p := rfl

@[simp] theorem advanceOverCons (p : Position) (c : Char) (cs : List Char) :
    p.advanceOver (c :: cs) = (p.advance c).advanceOver cs := rfl

theorem advanceOverAppend (p : Position) (xs ys : List Char) :
    p.advanceOver (xs ++ ys) = (p.advanceOver xs).advanceOver ys := List.foldl_append ..

theorem advanceOffset (p : Position) (c : Char) : (p.advance c).offset = p.offset + c.utf8Size := by
  unfold advance; split
  · subst_vars; rfl
  · rfl

theorem advanceOverOffset (p : Position) (cs : List Char) :
    (p.advanceOver cs).offset = p.offset + Text.byteLength cs := by
  induction cs generalizing p with
  | nil => simp
  | cons c cs ih => simp [ih, advanceOffset, Nat.add_assoc]

end Position

/- A source short enough for all its places to fit, the one behind its last character too. -/
def Addressable (source : List Char) : Prop := source.length + 1 < UInt32.size

instance (source : List Char) : Decidable (Addressable source) :=
  inferInstanceAs (Decidable (source.length + 1 < UInt32.size))

theorem addressableShorter {source part : List Char} (small : Addressable source)
    (shorter : part.length ≤ source.length) : Addressable part :=
  Nat.lt_of_le_of_lt (Nat.succ_le_succ shorter) small

end MathTokens

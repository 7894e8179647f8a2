import MathTokens.Json.Numeral
/-! JSON text to values. White space may stand around every part, and only white space after the last.
A surrogate escape without its partner does not end the reading; it marks the value it stands in. -/
namespace MathTokens.Json

def isBlank (c : Char) : Bool := c == ' ' || c == '\n' || c == '\t' || c == '\r'

def skipBlank (cs : List Char) : List Char := cs.dropWhile isBlank

def hexValue? (c : Char) : Option Nat :=
  if '0' ≤ c ∧ c ≤ '9' then some (c.toNat - '0'.toNat)
  else if 'a' ≤ c ∧ c ≤ 'f' then some (c.toNat - 'a'.toNat + 10)
  else if 'A' ≤ c ∧ c ≤ 'F' then some (c.toNat - 'A'.toNat + 10)
  else none

def readUnit : List Char → Option (Nat × List Char)
  | a :: b :: c :: d :: cs => do
    let a ← hexValue? a
    let b ← hexValue? b
    let c ← hexValue? c
    let d ← hexValue? d
    some (((a * 16 + b) * 16 + c) * 16 + d, cs)
  | _ => none

def isLeading (unit : Nat) : Bool := decide (0xD800 ≤ unit ∧ unit < 0xDC00)

def isTrailing (unit : Nat) : Bool := decide (0xDC00 ≤ unit ∧ unit < 0xE000)

def readTrailing : List Char → Option (Nat × List Char)
  | '\\' :: 'u' :: cs => (readUnit cs).filter fun (unit, _) => isTrailing unit
  | _ => none

def readEscape : List Char → Option (Option Char × List Char)
  | '"' :: cs => some (some '"', cs)
  | '\\' :: cs => some (some '\\', cs)
  | '/' :: cs => some (some '/', cs)
  | 'b' :: cs => some (some '\x08', cs)
  | 'f' :: cs => some (some '\x0c', cs)
  | 'n' :: cs => some (some '\n', cs)
  | 'r' :: cs => some (some '\r', cs)
  | 't' :: cs => some (some '\t', cs)
  | 'u' :: cs => do
    let (unit, rest) ← readUnit cs
    if isLeading unit then
      match readTrailing rest with
      | some (low, rest) =>
        some (some (Char.ofNat (0x10000 + (unit - 0xD800) * 0x400 + (low - 0xDC00))), rest)
      | none => some (none, rest)
    else if isTrailing unit then some (none, rest)
    else some (some (Char.ofNat unit), rest)
  | _ => none

theorem readUnitShorter {cs rest : List Char} {unit : Nat} (h : readUnit cs = some (unit, rest)) :
    rest.length < cs.length := by
  unfold readUnit at h
  split at h
  · simp only [Option.bind_eq_bind, Option.bind_eq_some_iff, Option.some.injEq, Prod.mk.injEq] at h
    obtain ⟨-, -, -, -, -, -, -, -, -, rfl⟩ := h
    simp only [List.length_cons]
    omega
  · cases h

theorem readTrailingShorter {cs rest : List Char} {unit : Nat}
    (h : readTrailing cs = some (unit, rest)) : rest.length < cs.length := by
  unfold readTrailing at h
  split at h
  · have := readUnitShorter (Option.filter_eq_some_iff.mp h).1
    simp only [List.length_cons]
    omega
  · cases h

theorem readEscapeShorter {cs rest : List Char} {c : Option Char}
    (h : readEscape cs = some (c, rest)) : rest.length < cs.length := by
  unfold readEscape at h
  split at h
  case h_9 =>
    obtain ⟨⟨unit, after⟩, read, h⟩ := Option.bind_eq_some_iff.mp h
    have := readUnitShorter read
    simp only at h
    split at h
    · split at h
      · next read => have := readTrailingShorter read; cases h; simp only [List.length_cons]; omega
      · cases h; simp only [List.length_cons]; omega
    · split at h <;> cases h <;> simp only [List.length_cons] <;> omega
  case h_10 => cases h
  all_goals cases h; simp

/-- The rest of a string and its quote. `taken` is what came before, from the end, and `whole` says
whether it holds no surrogate on its own. -/
def readText (taken : List Char) (whole : Bool) (cs : List Char) : Option (Option String × List Char) :=
  match cs with
  | [] => none
  | '"' :: cs => some (if whole then some (String.ofList taken.reverse) else none, cs)
  | '\\' :: cs =>
    match _read : readEscape cs with
    | some (some c, rest) => readText (c :: taken) whole rest
    | some (none, rest) => readText taken false rest
    | none => none
  | c :: cs => if c.toNat < 0x20 then none else readText (c :: taken) whole cs
termination_by cs.length
decreasing_by
  · exact Nat.lt_succ_of_lt (readEscapeShorter _read)
  · exact Nat.lt_succ_of_lt (readEscapeShorter _read)
  · exact Nat.lt_succ_self _

def readQuoted : List Char → Option (Option String × List Char)
  | '"' :: cs => readText [] true cs
  | _ => none

def readWord (word : List Char) (value : Json) (cs : List Char) : Option (Json × List Char) :=
  if word.isPrefixOf cs then some (value, cs.drop word.length) else none

def readKey (cs : List Char) : Option (Option String × List Char) :=
  match readQuoted cs with
  | some (key, rest) =>
    match skipBlank rest with
    | ':' :: rest => some (key, skipBlank rest)
    | _ => none
  | none => none

mutual

/-- A value at the front of `cs`, where no blank stands. `fuel` bounds the depth and the number of the
parts. -/
def readValue (fuel : Nat) (cs : List Char) : Option (Json × List Char) :=
  match fuel with
  | 0 => none
  | fuel + 1 =>
    match cs with
    | '"' :: _ =>
      (readQuoted cs).map fun (text, rest) => (text.elim .unpaired .string, rest)
    | '[' :: cs =>
      match skipBlank cs with
      | ']' :: rest => some (.array [], rest)
      | cs => readItems fuel [] cs
    | '\x7b' :: cs =>
      match skipBlank cs with
      | '\x7d' :: rest => some (.object [], rest)
      | cs => readMembers fuel [] true cs
    | 't' :: _ => readWord ['t', 'r', 'u', 'e'] (.bool true) cs
    | 'f' :: _ => readWord ['f', 'a', 'l', 's', 'e'] (.bool false) cs
    | 'n' :: _ => readWord ['n', 'u', 'l', 'l'] .null cs
    | cs => readNumber cs

def readItems (fuel : Nat) (taken : List Json) (cs : List Char) : Option (Json × List Char) :=
  match fuel with
  | 0 => none
  | fuel + 1 =>
    match readValue fuel cs with
    | none => none
    | some (item, rest) =>
      match skipBlank rest with
      | ',' :: rest => readItems fuel (item :: taken) (skipBlank rest)
      | ']' :: rest => some (.array (item :: taken).reverse, rest)
      | _ => none

def readMembers (fuel : Nat) (taken : List (String × Json)) (whole : Bool) (cs : List Char) :
    Option (Json × List Char) :=
  match fuel with
  | 0 => none
  | fuel + 1 =>
    match readKey cs with
    | none => none
    | some (key, rest) =>
      match readValue fuel rest with
      | none => none
      | some (value, rest) =>
        let taken := (key.getD "", value) :: taken
        let whole := whole && key.isSome
        match skipBlank rest with
        | ',' :: rest => readMembers fuel taken whole (skipBlank rest)
        | '\x7d' :: rest => some (if whole then .object taken.reverse else .unpaired, rest)
        | _ => none

end

def parse? (cs : List Char) : Option Json :=
  match readValue (2 * cs.length + 2) (skipBlank cs) with
  | some (value, rest) => if (skipBlank rest).isEmpty then some value else none
  | none => none

end MathTokens.Json

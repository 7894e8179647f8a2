import MathTokens.Number.Reading
import MathTokens.Toml.Value
/-! The parts of TOML text that do not nest: blanks and comments, strings, numbers, dates and times.
Each reader takes its part off the front and returns the rest. -/
namespace MathTokens.Toml

def isBlank (c : Char) : Bool := c == ' ' || c == '\t'

def skipBlank (cs : List Char) : List Char := cs.dropWhile isBlank

def isPlain (c : Char) : Bool := c == '\t' || (decide (0x20 ≤ c.toNat) && c.toNat != 0x7f)

def readLineEnd : List Char → Option (List Char)
  | '\n' :: cs => some cs
  | '\r' :: '\n' :: cs => some cs
  | _ => none

def finishLine (cs : List Char) : Option (List Char) :=
  let rest := match skipBlank cs with
    | '#' :: comment => comment.dropWhile isPlain
    | rest => rest
  if rest.isEmpty then some [] else readLineEnd rest

def skipLines (inComment : Bool) : List Char → List Char
  | [] => []
  | '\n' :: cs => skipLines false cs
  | '\r' :: '\n' :: cs => skipLines false cs
  | c :: cs =>
    if inComment && isPlain c then skipLines true cs
    else if c == '#' then skipLines true cs
    else if isBlank c then skipLines false cs
    else c :: cs

/-! Strings -/

def hexValue? (c : Char) : Option Nat :=
  if '0' ≤ c ∧ c ≤ '9' then some (c.toNat - '0'.toNat)
  else if 'a' ≤ c ∧ c ≤ 'f' then some (c.toNat - 'a'.toNat + 10)
  else if 'A' ≤ c ∧ c ≤ 'F' then some (c.toNat - 'A'.toNat + 10)
  else none

def readScalar (width : Nat) (cs : List Char) : Option (Char × List Char) := do
  let digits ← (cs.take width).mapM hexValue?
  let code := digits.foldl (fun n d => 16 * n + d) 0
  if digits.length = width ∧ code.isValidChar then some (Char.ofNat code, cs.drop width) else none

def readEscape : List Char → Option (Char × List Char)
  | 'b' :: cs => some ('\x08', cs)
  | 't' :: cs => some ('\t', cs)
  | 'n' :: cs => some ('\n', cs)
  | 'f' :: cs => some ('\x0c', cs)
  | 'r' :: cs => some ('\r', cs)
  | '"' :: cs => some ('"', cs)
  | '\\' :: cs => some ('\\', cs)
  | 'u' :: cs => readScalar 4 cs
  | 'U' :: cs => readScalar 8 cs
  | _ => none

theorem readScalarLength {width : Nat} {cs rest : List Char} {c : Char}
    (h : readScalar width cs = some (c, rest)) : rest.length ≤ cs.length := by
  obtain ⟨digits, -, h⟩ := Option.bind_eq_some_iff.mp h
  simp only at h
  split at h
  · cases h; simp
  · cases h

theorem readEscapeLength {cs rest : List Char} {c : Char} (h : readEscape cs = some (c, rest)) :
    rest.length ≤ cs.length := by
  unfold readEscape at h
  split at h
  case h_8 => exact Nat.le_succ_of_le (readScalarLength h)
  case h_9 => exact Nat.le_succ_of_le (readScalarLength h)
  case h_10 => cases h
  all_goals cases h; simp

def readOneLine (quote : Char) (taken : List Char) (cs : List Char) : Option (String × List Char) :=
  match cs with
  | [] => none
  | c :: cs =>
    if c = quote then some (String.ofList taken.reverse, cs)
    else if c = '\\' ∧ quote = '"' then
      match _read : readEscape cs with
      | some (c, rest) => readOneLine quote (c :: taken) rest
      | none => none
    else if isPlain c then readOneLine quote (c :: taken) cs
    else none
termination_by cs.length
decreasing_by
  · exact Nat.lt_succ_of_le (readEscapeLength _read)
  · exact Nat.lt_succ_self _

def skipGap : List Char → List Char
  | [] => []
  | '\r' :: '\n' :: cs => skipGap cs
  | c :: cs => if c == '\n' || isBlank c then skipGap cs else c :: cs

def readContinuation (cs : List Char) : Option (List Char) :=
  (readLineEnd (skipBlank cs)).map skipGap

theorem skipBlankLength (cs : List Char) : (skipBlank cs).length ≤ cs.length :=
  (List.dropWhile_sublist _).length_le

theorem readLineEndLength {cs rest : List Char} (h : readLineEnd cs = some rest) :
    rest.length < cs.length := by
  unfold readLineEnd at h
  split at h
  · cases h; exact Nat.lt_succ_self _
  · cases h; exact Nat.lt_succ_of_lt (Nat.lt_succ_self _)
  · cases h

theorem skipGapLength (cs : List Char) : (skipGap cs).length ≤ cs.length := by
  fun_induction skipGap cs with
  | case1 => exact Nat.le_refl _
  | case2 cs ih => exact Nat.le_succ_of_le (Nat.le_succ_of_le ih)
  | case3 c cs _ _ ih => exact Nat.le_succ_of_le ih
  | case4 => exact Nat.le_refl _

theorem readContinuationLength {cs rest : List Char} (h : readContinuation cs = some rest) :
    rest.length ≤ cs.length := by
  obtain ⟨after, read, rfl⟩ := Option.map_eq_some_iff.mp h
  exact Nat.le_trans (skipGapLength after)
    (Nat.le_trans (Nat.le_of_lt (readLineEndLength read)) (skipBlankLength cs))

/-- The rest of a string over several lines. Three quotes end it, and up to two more before them belong
to it. Every line end counts as a line feed. -/
def readManyLines (quote : Char) (taken : List Char) (cs : List Char) : Option (String × List Char) :=
  match cs with
  | [] => none
  | c :: cs =>
    if c = quote then
      let run := 1 + (cs.takeWhile (· == quote)).length
      if run < 3 then readManyLines quote (c :: taken) cs
      else
        let inside := min (run - 3) 2
        some (String.ofList (taken.reverse ++ List.replicate inside quote), cs.drop (inside + 2))
    else if c = '\\' ∧ quote = '"' then
      match _escape : readEscape cs with
      | some (c, rest) => readManyLines quote (c :: taken) rest
      | none =>
        match _continuation : readContinuation cs with
        | some rest => readManyLines quote taken rest
        | none => none
    else
      match _lineEnd : readLineEnd (c :: cs) with
      | some rest => readManyLines quote ('\n' :: taken) rest
      | none => if isPlain c then readManyLines quote (c :: taken) cs else none
termination_by cs.length
decreasing_by
  · exact Nat.lt_succ_self _
  · exact Nat.lt_succ_of_le (readEscapeLength _escape)
  · exact Nat.lt_succ_of_le (readContinuationLength _continuation)
  · exact readLineEndLength _lineEnd
  · exact Nat.lt_succ_self _

def readString : List Char → Option (String × List Char)
  | [] => none
  | quote :: cs =>
    match cs with
    | a :: b :: rest =>
      if a = quote ∧ b = quote then
        readManyLines quote [] ((readLineEnd rest).getD rest)
      else readOneLine quote [] cs
    | cs => readOneLine quote [] cs

/-! Numbers -/

def readDigits (isDigit : Char → Bool) (taken : List Char) : List Char → List Char × List Char
  | [] => (taken.reverse, [])
  | [c] => if isDigit c then ((c :: taken).reverse, []) else (taken.reverse, [c])
  | c :: d :: cs =>
    if isDigit c then readDigits isDigit (c :: taken) (d :: cs)
    else if c = '_' ∧ isDigit d ∧ taken ≠ [] then readDigits isDigit taken (d :: cs)
    else (taken.reverse, c :: d :: cs)

def readInteger : List Char → List Char × List Char
  | '0' :: cs => (['0'], cs)
  | cs => readDigits isDigit [] cs

def readPlaces : List Char → Option (List Char × List Char)
  | '.' :: cs => some (readDigits isDigit [] cs)
  | _ => none

def readPower : List Char → Option (Int × List Char)
  | c :: cs =>
    if c = 'e' ∨ c = 'E' then
      let (negative, rest) := readSign cs
      let (digits, rest) := readDigits isDigit [] rest
      if digits = [] then none
      else some (if negative then -(exponentValue digits : Int) else exponentValue digits, rest)
    else none
  | [] => none

/-- A number with places, an exponent or both. It must not exceed the largest double. -/
def readFloat (negative : Bool) (cs : List Char) : Option (Toml × List Char) :=
  let (whole, rest) := readInteger cs
  if whole = [] then none
  else
    let (places, rest, pointed) := match readPlaces rest with
      | some (places, rest) => (places, rest, true)
      | none => ([], rest, false)
    if pointed ∧ places = [] then none
    else
      let (power, rest, marked) := match readPower rest with
        | some (power, rest) => (power, rest, true)
        | none => (0, rest, false)
      let d := Double.ofDecimal negative (digitsValue (whole ++ places)) (power - places.length)
      if ¬pointed ∧ ¬marked ∨ d = .infinite false then none else some (.float d, rest)

def smallest : Int := -9223372036854775808

def largest : Int := 9223372036854775807

def bounded (n : Int) : Option Toml := if smallest ≤ n ∧ n ≤ largest then some (.integer n) else none

def readDecimal (negative : Bool) (cs : List Char) : Option (Toml × List Char) := do
  let (digits, rest) := readInteger cs
  if digits = [] then none
  let n := digitsValue digits
  some (← bounded (if negative then -(n : Int) else n), rest)

def readRadix (base : Nat) (cs : List Char) : Option (Toml × List Char) := do
  let (digits, rest) := readDigits (fun c => (hexValue? c).any fun d => decide (d < base)) [] cs
  if digits = [] then none
  let values ← digits.mapM hexValue?
  some (← bounded (values.foldl (fun n d => base * n + d) 0 : Nat), rest)

def readSpecial (negative : Bool) : List Char → Option (Toml × List Char)
  | 'i' :: 'n' :: 'f' :: cs => some (.float (.infinite negative), cs)
  | 'n' :: 'a' :: 'n' :: cs => some (.float .nan, cs)
  | _ => none

/-! Dates and times -/

def readFixed (width : Nat) (cs : List Char) : Option (Nat × List Char) :=
  let digits := cs.take width
  if digits.length = width ∧ digits.all isDigit then some (digitsValue digits, cs.drop width) else none

def readPair (low high : Nat) (cs : List Char) : Option (Nat × List Char) :=
  (readFixed 2 cs).filter fun (n, _) => decide (low ≤ n ∧ n ≤ high)

def skip (c : Char) : List Char → Option (List Char)
  | d :: cs => if c = d then some cs else none
  | [] => none

def daysIn (year month : Nat) : Nat :=
  if month = 2 then (if year % 4 = 0 ∧ (year % 100 ≠ 0 ∨ year % 400 = 0) then 29 else 28)
  else if month = 4 ∨ month = 6 ∨ month = 9 ∨ month = 11 then 30 else 31

def readDate (cs : List Char) : Option (List Char) := do
  let (year, cs) ← readFixed 4 cs
  let (month, cs) ← readPair 1 12 (← skip '-' cs)
  let (_, cs) ← readPair 1 (daysIn year month) (← skip '-' cs)
  some cs

def readTime (cs : List Char) : Option (List Char) := do
  let (_, cs) ← readPair 0 23 cs
  let (_, cs) ← readPair 0 59 (← skip ':' cs)
  let (_, cs) ← readPair 0 60 (← skip ':' cs)
  match cs with
  | '.' :: rest => if (rest.takeWhile isDigit).isEmpty then some cs else some (rest.dropWhile isDigit)
  | _ => some cs

def readOffset (cs : List Char) : Option (List Char) := do
  match cs with
  | 'Z' :: rest | 'z' :: rest => some rest
  | '+' :: rest | '-' :: rest =>
    let (_, rest) ← readPair 0 23 rest
    let (_, rest) ← readPair 0 59 (← skip ':' rest)
    some rest
  | _ => none

def readTimeAfterDate : List Char → Option (List Char)
  | c :: cs =>
    if c = 'T' ∨ c = 't' ∨ c = ' ' then (readTime cs).map fun rest => (readOffset rest).getD rest
    else none
  | [] => none

def readMoment (cs : List Char) : Option (Toml × List Char) :=
  match readDate cs with
  | some rest => some (.moment, (readTimeAfterDate rest).getD rest)
  | none => (readTime cs).map fun rest => (.moment, rest)

def readNumber (cs : List Char) : Option (Toml × List Char) :=
  match readMoment cs with
  | some found => some found
  | none =>
    match cs with
    | '0' :: 'x' :: rest => readRadix 16 rest
    | '0' :: 'o' :: rest => readRadix 8 rest
    | '0' :: 'b' :: rest => readRadix 2 rest
    | cs =>
      let (negative, rest) := readSign cs
      match readFloat negative rest with
      | some found => some found
      | none =>
        match readSpecial negative rest with
        | some found => some found
        | none => readDecimal negative rest

end MathTokens.Toml

import MathTokens.Toml.Scalar
/-! TOML text to statements: headers of tables and of series of tables, and keys with their values. -/
namespace MathTokens.Toml

def depthLimit : Nat := 80

def isBare (c : Char) : Bool := c.isAlphanum || c == '_' || c == '-'

def readKey : List Char → Option (String × List Char)
  | '"' :: cs => readOneLine '"' [] cs
  | '\'' :: cs => readOneLine '\'' [] cs
  | cs =>
    let key := cs.takeWhile isBare
    if key.isEmpty then none else some (String.ofList key, cs.dropWhile isBare)

def readKeys (fuel : Nat) (taken : List String) (cs : List Char) :
    Option (List String × List Char) :=
  match fuel with
  | 0 => none
  | fuel + 1 =>
    match readKey (skipBlank cs) with
    | none => none
    | some (key, rest) =>
      match skipBlank rest with
      | '.' :: rest => readKeys fuel (key :: taken) rest
      | rest => some ((key :: taken).reverse, rest)

def readPath (cs : List Char) : Option (List String × List Char) :=
  (readKeys depthLimit [] cs).filter fun (path, _) => decide (path.length < depthLimit)

/-- A table written inside braces, while its members are read. Dotted keys may add to what only dotted
keys have made. -/
inductive Inline where
  | value (v : Toml)
  | dotted (entries : List (String × Inline))

def hasKey {α : Type} (key : String) (entries : List (String × α)) : Bool :=
  entries.any (·.1 == key)

def putEntry {α : Type} (key : String) (value : α) : List (String × α) → List (String × α)
  | [] => [(key, value)]
  | (k, v) :: rest => if k = key then (key, value) :: rest else (k, v) :: putEntry key value rest

def Inline.find? (key : String) (entries : List (String × Inline)) : Option Inline :=
  (entries.find? (·.1 == key)).map (·.2)

def Inline.add (value : Toml) : List String → List (String × Inline) → Option (List (String × Inline))
  | [], _ => none
  | [key], entries => if hasKey key entries then none else some (entries ++ [(key, .value value)])
  | key :: path, entries =>
    match Inline.find? key entries with
    | none => (Inline.add value path []).map fun made => entries ++ [(key, .dotted made)]
    | some (.dotted inner) =>
      (Inline.add value path inner).map fun made => putEntry key (.dotted made) entries
    | some (.value _) => none

mutual

def Inline.toValue : Inline → Toml
  | .value v => v
  | .dotted entries => .table (Inline.toEntries entries)

def Inline.toEntries : List (String × Inline) → List (String × Toml)
  | [] => []
  | (key, inner) :: rest => (key, inner.toValue) :: Inline.toEntries rest

end

mutual

def readValue (fuel depth : Nat) (cs : List Char) : Option (Toml × List Char) :=
  match fuel with
  | 0 => none
  | fuel + 1 =>
    match cs with
    | '"' :: _ | '\'' :: _ => (readString cs).map fun (s, rest) => (.text s, rest)
    | '[' :: cs => if depth + 1 < depthLimit then readArray fuel (depth + 1) [] cs else none
    | '\x7b' :: cs =>
      if depth + 1 < depthLimit then
        match skipBlank cs with
        | '\x7d' :: rest => some (.table [], rest)
        | cs => readInline fuel (depth + 1) [] cs
      else none
    | 't' :: 'r' :: 'u' :: 'e' :: rest => some (.boolean true, rest)
    | 'f' :: 'a' :: 'l' :: 's' :: 'e' :: rest => some (.boolean false, rest)
    | cs => readNumber cs

def readArray (fuel depth : Nat) (taken : List Toml) (cs : List Char) : Option (Toml × List Char) :=
  match fuel with
  | 0 => none
  | fuel + 1 =>
    match skipLines false cs with
    | ']' :: rest => some (.array taken.reverse, rest)
    | cs =>
      match readValue fuel depth cs with
      | none => none
      | some (item, rest) =>
        match skipLines false rest with
        | ',' :: rest => readArray fuel depth (item :: taken) rest
        | ']' :: rest => some (.array (item :: taken).reverse, rest)
        | _ => none

def readInline (fuel depth : Nat) (taken : List (String × Inline)) (cs : List Char) :
    Option (Toml × List Char) :=
  match fuel with
  | 0 => none
  | fuel + 1 =>
    match readPath cs with
    | some (path, '=' :: rest) =>
      match readValue fuel depth (skipBlank rest) with
      | none => none
      | some (value, rest) =>
        match Inline.add value path taken with
        | none => none
        | some taken =>
          match skipBlank rest with
          | ',' :: rest => readInline fuel depth taken rest
          | '\x7d' :: rest => some (.table (Inline.toEntries taken), rest)
          | _ => none
    | _ => none

end

inductive Statement where
  | table (path : List String)
  | series (path : List String)
  | pair (path : List String) (value : Toml)

def readHeader : List Char → Option (Statement × List Char)
  | '[' :: cs =>
    match readPath cs with
    | some (path, ']' :: ']' :: rest) => some (.series path, rest)
    | _ => none
  | cs =>
    match readPath cs with
    | some (path, ']' :: rest) => some (.table path, rest)
    | _ => none

def readStatement (fuel : Nat) (cs : List Char) : Option (Statement × List Char) :=
  match cs with
  | '[' :: cs => readHeader cs
  | cs =>
    match readPath cs with
    | some (path, '=' :: rest) =>
      (readValue (2 * fuel) 0 (skipBlank rest)).map fun (value, rest) =>
        (.pair path value, rest)
    | _ => none

def readStatements (fuel : Nat) (taken : List Statement) (cs : List Char) : Option (List Statement) :=
  match fuel with
  | 0 => none
  | fuel + 1 =>
    match skipBlank cs with
    | [] => some taken.reverse
    | '#' :: rest =>
      match finishLine ('#' :: rest) with
      | some rest => readStatements fuel taken rest
      | none => none
    | c :: rest =>
      match readLineEnd (c :: rest) with
      | some rest => readStatements fuel taken rest
      | none =>
        match readStatement fuel (c :: rest) with
        | none => none
        | some (statement, rest) =>
          match finishLine rest with
          | some rest => readStatements fuel (statement :: taken) rest
          | none => none

def statements? (cs : List Char) : Option (List Statement) :=
  match cs with
  | '\ufeff' :: cs => readStatements (cs.length + 1) [] cs
  | cs => readStatements (cs.length + 1) [] cs

end MathTokens.Toml

import MathTokens.Toml.Parser
/-! Statements to one table. Headers open tables, and dotted keys make tables on the way; what was made in
one way cannot be made again, nor added to in the other. -/
namespace MathTokens.Toml

inductive Origin where
  | header
  | implied
  | dotted
  deriving DecidableEq, Repr

inductive Entry where
  | value (v : Toml)
  | table (origin : Origin) (entries : List (String × Entry))
  /-- The tables under one repeated header, the last one first. -/
  | series (tables : List (List (String × Entry)))

abbrev Entries := List (String × Entry)

namespace Entries

def entry? (key : String) (entries : Entries) : Option Entry :=
  (List.find? (·.1 == key) entries).map (·.2)

def changeUnder (change : Entries → Option Entries) : List String → Entries → Option Entries
  | [], entries => change entries
  | key :: path, entries =>
    match entries.entry? key with
    | none => (changeUnder change path []).map fun made => entries ++ [(key, .table .implied made)]
    | some (.table origin inner) =>
      (changeUnder change path inner).map fun made => putEntry key (.table origin made) entries
    | some (.series (last :: others)) =>
      (changeUnder change path last).map fun made => putEntry key (.series (made :: others)) entries
    | some (.series []) | some (.value _) => none

def openTable (key : String) (entries : Entries) : Option Entries :=
  match entries.entry? key with
  | none => some (entries ++ [(key, .table .header [])])
  | some (.table .implied inner) => some (putEntry key (.table .header inner) entries)
  | some _ => none

def openSeries (key : String) (entries : Entries) : Option Entries :=
  match entries.entry? key with
  | none => some (entries ++ [(key, .series [[]])])
  | some (.series tables) => some (putEntry key (.series ([] :: tables)) entries)
  | some _ => none

def addValue (key : String) (value : Toml) (entries : Entries) : Option Entries :=
  if hasKey key entries then none else some (entries ++ [(key, .value value)])

/-- Adds a value under a dotted path. `origin` is how the table at hand came about: the last table on
a path of several keys must be one that dotted keys made. -/
def addUnder (value : Toml) (first : Bool) (origin : Origin) :
    List String → Entries → Option Entries
  | [], _ => none
  | [key], entries => if first ∨ origin = .dotted then addValue key value entries else none
  | key :: path, entries =>
    match entries.entry? key with
    | none =>
      (addUnder value false .dotted path []).map fun made => entries ++ [(key, .table .dotted made)]
    | some (.table .header _) => none
    | some (.table origin inner) =>
      (addUnder value false origin path inner).map fun made => putEntry key (.table origin made) entries
    | some (.series (last :: others)) =>
      (addUnder value false .header path last).map fun made =>
        putEntry key (.series (made :: others)) entries
    | some (.series []) | some (.value _) => none

end Entries

structure Draft where
  path : List String
  root : Entries

def splitLast? : List String → Option (List String × String)
  | [] => none
  | key :: rest =>
    match splitLast? rest with
    | none => some ([], key)
    | some (front, last) => some (key :: front, last)

def Draft.apply (d : Draft) : Statement → Option Draft
  | .table path => do
    let (front, key) ← splitLast? path
    some ⟨path, ← d.root.changeUnder (·.openTable key) front⟩
  | .series path => do
    let (front, key) ← splitLast? path
    some ⟨path, ← d.root.changeUnder (·.openSeries key) front⟩
  | .pair path value => do
    some { d with root := ← d.root.changeUnder (·.addUnder value true .header path) d.path }

mutual

def Entry.toValue : Entry → Toml
  | .value v => v
  | .table _ entries => .table (Entry.toPairs entries)
  | .series tables => .array (Entry.toTables tables).reverse

def Entry.toPairs : List (String × Entry) → List (String × Toml)
  | [] => []
  | (key, entry) :: rest => (key, entry.toValue) :: Entry.toPairs rest

def Entry.toTables : List (List (String × Entry)) → List Toml
  | [] => []
  | entries :: rest => .table (Entry.toPairs entries) :: Entry.toTables rest

end

def parse? (cs : List Char) : Option Toml := do
  let draft ← (← statements? cs).foldlM Draft.apply ⟨[], []⟩
  some (.table (Entry.toPairs draft.root))

end MathTokens.Toml

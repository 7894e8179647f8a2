import MathTokens.Proofs.Spelling
import MathTokens.Toml.Document

/-! TOML of tables with simple values, one line to each header and each pair. Such a document is read as
the tables it was written from. -/
namespace MathTokens.Toml

/-! How it is written -/

structure Bare (key : String) : Prop where
  nonempty : key.toList ≠ []
  letters : ∀ c ∈ key.toList, isBare c

instance (key : String) : Decidable (Bare key) :=
  decidable_of_iff (key.toList ≠ [] ∧ key.toList.all isBare)
    ⟨fun ⟨nonempty, letters⟩ => ⟨nonempty, List.all_eq_true.mp letters⟩,
      fun bare => ⟨bare.nonempty, List.all_eq_true.mpr bare.letters⟩⟩

inductive Simple : Toml → Prop
  | boolean (b : Bool) : Simple (.boolean b)
  | text {s : String} (clear : ∀ c ∈ s.toList, isPlain c ∧ c ≠ '"' ∧ c ≠ '\\') : Simple (.text s)

def simpleChars : Toml → List Char
  | .boolean true => ['t', 'r', 'u', 'e']
  | .boolean false => ['f', 'a', 'l', 's', 'e']
  | .text s => '"' :: (s.toList ++ ['"'])
  | _ => []

def pairChars (pair : String × Toml) : List Char :=
  pair.1.toList ++ (' ' :: '=' :: ' ' :: (simpleChars pair.2 ++ ['\n']))

def headerChars (name : String) : List Char := '[' :: (name.toList ++ [']', '\n'])

abbrev Table := String × List (String × Toml)

def tableChars (t : Table) : List Char := headerChars t.1 ++ t.2.flatMap pairChars

def documentChars : List Table → List Char
  | [] => []
  | [t] => tableChars t
  | t :: next :: more => tableChars t ++ '\n' :: documentChars (next :: more)

structure Writable (tables : List Table) : Prop where
  apart : (tables.map (·.1)).Nodup
  named : ∀ t ∈ tables, Bare t.1
  keys : ∀ t ∈ tables, (t.2.map (·.1)).Nodup
  pairs : ∀ t ∈ tables, ∀ pair ∈ t.2, Bare pair.1 ∧ Simple pair.2

/-! Its lines -/

theorem bareUnlike {c : Char} (bare : isBare c) {d : Char} (other : isBare d = false) : c ≠ d := by
  rintro rfl
  rw [other] at bare
  cases bare

theorem Bare.first {key : String} (bare : Bare key) : ∃ c cs, key.toList = c :: cs ∧ isBare c := by
  obtain ⟨c, cs, first⟩ := List.exists_cons_of_ne_nil bare.nonempty
  exact ⟨c, cs, first, bare.letters c (by simp [first])⟩

structure Opens (c : Char) : Prop where
  blank : isBlank c = false
  comment : c ≠ '#'
  feed : c ≠ '\n'
  ret : c ≠ '\r'

theorem bareOpens {c : Char} (letter : isBare c) : Opens c where
  blank := by simp [isBlank, bareUnlike letter (d := ' ') rfl, bareUnlike letter (d := '\t') rfl]
  comment := bareUnlike letter rfl
  feed := bareUnlike letter rfl
  ret := bareUnlike letter rfl

theorem skipBlankBare {key : String} (bare : Bare key) (rest : List Char) :
    skipBlank (key.toList ++ rest) = key.toList ++ rest := by
  obtain ⟨c, cs, first, letter⟩ := bare.first
  rw [first, List.cons_append, skipBlank, List.dropWhile_cons_of_neg (by simp [(bareOpens letter).blank])]

theorem readBareKey {key : String} (bare : Bare key) {rest : List Char} (stop : Stops isBare rest) :
    readKey (key.toList ++ rest) = some (key, rest) := by
  obtain ⟨c, cs, first, letter⟩ := bare.first
  have unquoted : readKey (key.toList ++ rest) =
      if ((key.toList ++ rest).takeWhile isBare).isEmpty then none
      else some (String.ofList ((key.toList ++ rest).takeWhile isBare),
        (key.toList ++ rest).dropWhile isBare) := by
    rw [readKey.eq_def, first, List.cons_append]
    split
    · next same => exact absurd (List.cons.inj same).1 (bareUnlike letter rfl)
    · next same => exact absurd (List.cons.inj same).1 (bareUnlike letter rfl)
    · rfl
  rw [unquoted, takeStops bare.letters stop, dropStops bare.letters stop, String.ofList_toList,
    if_neg (by simp [first])]

theorem readBarePath {key : String} (bare : Bare key) {rest : List Char} (stop : Stops isBare rest)
    {c : Char} {cs : List Char} (next : skipBlank rest = c :: cs) (ends : c ≠ '.') :
    readPath (key.toList ++ rest) = some ([key], c :: cs) := by
  have keys : readKeys depthLimit [] (key.toList ++ rest) = some ([key], c :: cs) := by
    rw [depthLimit, readKeys, skipBlankBare bare, readBareKey bare stop]
    simp only [next]
    split
    · next same => exact absurd (List.cons.inj same).1 ends
    · rfl
  rw [readPath, keys]
  rfl

theorem readLine {fuel : Nat} {c : Char} {cs rest : List Char} {statement : Statement} (opens : Opens c)
    (read : readStatement fuel (c :: cs) = some (statement, '\n' :: rest)) (taken : List Statement) :
    readStatements (fuel + 1) taken (c :: cs) = readStatements fuel (statement :: taken) rest := by
  have front : skipBlank (c :: cs) = c :: cs := List.dropWhile_cons_of_neg (by simp [opens.blank])
  have more : readLineEnd (c :: cs) = none := by
    unfold readLineEnd
    split
    · next same => exact absurd (List.cons.inj same).1 opens.feed
    · next same => exact absurd (List.cons.inj same).1 opens.ret
    · rfl
  rw [readStatements, front]
  split
  · next same => cases same
  · next same => exact absurd (List.cons.inj same).1 opens.comment
  · next same =>
    cases same
    rw [more]
    simp only [read]
    rfl

theorem readEmptyLine (fuel : Nat) (taken : List Statement) (rest : List Char) :
    readStatements (fuel + 1) taken ('\n' :: rest) = readStatements fuel taken rest := by
  rw [readStatements]
  rfl

theorem readClear {s taken rest : List Char} (clear : ∀ c ∈ s, isPlain c ∧ c ≠ '"' ∧ c ≠ '\\') :
    readOneLine '"' taken (s ++ '"' :: rest) = some (String.ofList (taken.reverse ++ s), rest) := by
  induction s generalizing taken with
  | nil => rw [List.nil_append, readOneLine, if_pos rfl, List.append_nil]
  | cons c s ih =>
    obtain ⟨⟨plain, quote, backslash⟩, clear⟩ := List.forall_mem_cons.mp clear
    rw [List.cons_append, readOneLine, if_neg quote, if_neg (fun escape => backslash escape.1),
      if_pos plain, ih clear, List.reverse_cons, List.append_assoc]
    rfl

theorem readClearString {s : String} (clear : ∀ c ∈ s.toList, isPlain c ∧ c ≠ '"' ∧ c ≠ '\\')
    (rest : List Char) :
    readString ('"' :: (s.toList ++ '"' :: '\n' :: rest)) = some (s, '\n' :: rest) := by
  have line : readString ('"' :: (s.toList ++ '"' :: '\n' :: rest)) =
      readOneLine '"' [] (s.toList ++ '"' :: '\n' :: rest) := by
    cases chars : s.toList with
    | nil => rfl
    | cons c cs =>
      rw [chars] at clear
      have quote : c ≠ '"' := (clear c (by simp)).2.1
      cases cs <;> exact if_neg fun both => quote both.1
  rw [line, readClear clear, List.reverse_nil, List.nil_append, String.ofList_toList]

theorem readSimple {v : Toml} (simple : Simple v) (fuel depth : Nat) (rest : List Char) :
    readValue (fuel + 1) depth (simpleChars v ++ '\n' :: rest) = some (v, '\n' :: rest) := by
  cases simple with
  | boolean b => cases b <;> rfl
  | @text s clear =>
    have read := readClearString clear rest
    simp only [simpleChars, List.cons_append, List.append_assoc, List.nil_append]
    rw [readValue, read]
    rfl

theorem skipSpace {v : Toml} (simple : Simple v) (rest : List Char) :
    skipBlank (' ' :: (simpleChars v ++ rest)) = simpleChars v ++ rest := by
  cases simple with
  | boolean b => cases b <;> rfl
  | text clear => rfl

theorem readHeaderLine {name : String} (bare : Bare name) (fuel : Nat) (taken : List Statement)
    (rest : List Char) :
    readStatements (fuel + 1) taken (headerChars name ++ rest) =
      readStatements fuel (.table [name] :: taken) rest := by
  have path : readPath (name.toList ++ ']' :: '\n' :: rest) = some ([name], ']' :: '\n' :: rest) :=
    readBarePath bare (by simp [Stops, isBare]) rfl (by decide)
  have header : readStatement fuel ('[' :: (name.toList ++ ']' :: '\n' :: rest)) =
      some (.table [name], '\n' :: rest) := by
    obtain ⟨c, cs, first, letter⟩ := bare.first
    rw [readStatement, readHeader.eq_def]
    split
    · next same =>
      rw [first] at same
      exact absurd (List.cons.inj same).1 (bareUnlike letter rfl)
    · rw [path]
      rfl
  have opens : Opens '[' := ⟨rfl, by decide, by decide, by decide⟩
  rw [headerChars, List.cons_append, List.append_assoc]
  exact readLine opens header taken

theorem readPairLine {pair : String × Toml} (bare : Bare pair.1) (simple : Simple pair.2) (fuel : Nat)
    (taken : List Statement) (rest : List Char) :
    readStatements (fuel + 2) taken (pairChars pair ++ rest) =
      readStatements (fuel + 1) (.pair [pair.1] pair.2 :: taken) rest := by
  obtain ⟨key, value⟩ := pair
  obtain ⟨c, cs, first, letter⟩ := bare.first
  have path : readPath (key.toList ++ ' ' :: '=' :: ' ' :: (simpleChars value ++ '\n' :: rest)) =
      some ([key], '=' :: ' ' :: (simpleChars value ++ '\n' :: rest)) :=
    readBarePath bare (by simp [Stops, isBare]) rfl (by decide)
  have read : readStatement (fuel + 1)
      (key.toList ++ ' ' :: '=' :: ' ' :: (simpleChars value ++ '\n' :: rest)) =
      some (.pair [key] value, '\n' :: rest) := by
    have value := readSimple simple (2 * fuel + 1) 0 rest
    rw [readStatement.eq_def]
    split
    · next same =>
      rw [first] at same
      exact absurd (List.cons.inj same).1 (bareUnlike letter rfl)
    · rw [path]
      simp only [skipSpace simple, value, Nat.mul_add]
      rfl
  rw [pairChars]
  simp only [List.append_assoc, List.cons_append, List.nil_append]
  rw [first, List.cons_append] at read ⊢
  exact readLine (bareOpens letter) read taken

/-! The whole document. The fuel is beyond the length of what is left, and each line is some of that. -/

def statementsOf (t : Table) : List Statement :=
  .table [t.1] :: t.2.map fun pair => .pair [pair.1] pair.2

theorem readPairs {pairs : List (String × Toml)} (simple : ∀ pair ∈ pairs, Bare pair.1 ∧ Simple pair.2)
    {fuel : Nat} {rest : List Char} (enough : (pairs.flatMap pairChars ++ rest).length < fuel)
    (taken : List Statement) :
    ∃ fuel', rest.length < fuel' ∧ readStatements fuel taken (pairs.flatMap pairChars ++ rest) =
      readStatements fuel' ((pairs.map fun pair => .pair [pair.1] pair.2).reverse ++ taken) rest := by
  induction pairs generalizing fuel taken with
  | nil => exact ⟨fuel, enough, rfl⟩
  | cons pair pairs ih =>
    obtain ⟨⟨bare, value⟩, others⟩ := List.forall_mem_cons.mp simple
    have length : 2 ≤ (pairChars pair).length := by simp [pairChars]; omega
    rw [List.flatMap_cons, List.append_assoc, List.length_append] at enough
    obtain ⟨fuel, rfl⟩ : ∃ less, fuel = less + 2 := ⟨fuel - 2, by omega⟩
    obtain ⟨fuel', more, read⟩ := ih others (show _ < fuel + 1 by omega) (.pair [pair.1] pair.2 :: taken)
    refine ⟨fuel', more, ?_⟩
    rw [List.flatMap_cons, List.append_assoc, readPairLine bare value, read, List.map_cons,
      List.reverse_cons, List.append_assoc]
    rfl

theorem readTable {t : Table} (bare : Bare t.1) (simple : ∀ pair ∈ t.2, Bare pair.1 ∧ Simple pair.2)
    {fuel : Nat} {rest : List Char} (enough : (tableChars t ++ rest).length < fuel)
    (taken : List Statement) :
    ∃ fuel', rest.length < fuel' ∧ readStatements fuel taken (tableChars t ++ rest) =
      readStatements fuel' ((statementsOf t).reverse ++ taken) rest := by
  -- the header costs a step, and so the pairs get one less
  rw [tableChars, List.append_assoc, List.length_append] at enough
  obtain ⟨fuel, rfl⟩ : ∃ less, fuel = less + 1 := ⟨fuel - 1, by omega⟩
  have length : 1 ≤ (headerChars t.1).length := by simp [headerChars]
  obtain ⟨fuel', more, read⟩ := @readPairs t.2 simple fuel rest (by omega) (.table [t.1] :: taken)
  refine ⟨fuel', more, ?_⟩
  rw [tableChars, List.append_assoc, readHeaderLine bare, read, statementsOf, List.reverse_cons,
    List.append_assoc]
  rfl

theorem readTables {tables : List Table} (named : ∀ t ∈ tables, Bare t.1)
    (simple : ∀ t ∈ tables, ∀ pair ∈ t.2, Bare pair.1 ∧ Simple pair.2) {fuel : Nat}
    (enough : (documentChars tables).length < fuel) (taken : List Statement) :
    readStatements fuel taken (documentChars tables) =
      some (taken.reverse ++ tables.flatMap statementsOf) := by
  have finish {fuel : Nat} (some' : 0 < fuel) (taken : List Statement) :
      readStatements fuel taken [] = some taken.reverse := by
    obtain ⟨fuel, rfl⟩ : ∃ less, fuel = less + 1 := ⟨fuel - 1, by omega⟩
    rw [readStatements]
    rfl
  induction tables generalizing fuel taken with
  | nil => rw [documentChars, finish (by omega), List.flatMap_nil, List.append_nil]
  | cons t more ih =>
    obtain ⟨bare, named⟩ := List.forall_mem_cons.mp named
    obtain ⟨pairs, simple⟩ := List.forall_mem_cons.mp simple
    cases more with
    | nil =>
      have whole : documentChars [t] = tableChars t ++ [] := (List.append_nil _).symm
      rw [whole] at enough ⊢
      obtain ⟨fuel', left, read⟩ := readTable bare pairs enough taken
      rw [read, finish left, List.reverse_append, List.reverse_reverse, List.flatMap_cons,
        List.flatMap_nil, List.append_nil]
    | cons next more =>
      rw [documentChars] at enough ⊢
      obtain ⟨fuel', left, read⟩ := readTable bare pairs enough taken
      obtain ⟨fuel', rfl⟩ : ∃ less, fuel' = less + 1 := ⟨fuel' - 1, by omega⟩
      have later := ih named simple (Nat.lt_of_succ_lt_succ left) ((statementsOf t).reverse ++ taken)
      rw [read, readEmptyLine, later, List.reverse_append, List.reverse_reverse, List.append_assoc]
      rfl

theorem statementsRead {tables : List Table} (writable : Writable tables) :
    statements? (documentChars tables) = some (tables.flatMap statementsOf) := by
  have unmarked : statements? (documentChars tables) =
      readStatements ((documentChars tables).length + 1) [] (documentChars tables) := by
    cases tables with
    | nil => rfl
    | cons t more => cases more <;> rfl
  rw [unmarked, readTables writable.named writable.pairs (Nat.lt_succ_self _), List.reverse_nil,
    List.nil_append]

/-! The tables of the statements. Each header opens a table behind the others, and its pairs are added
there. -/

section
variable {α : Type} {name : String} {before : List (String × α)} (fresh : name ∉ before.map (·.1))
include fresh

theorem findLast (last : α) : (before ++ [(name, last)]).find? (·.1 == name) = some (name, last) := by
  have other : before.find? (·.1 == name) = none :=
    List.find?_eq_none.mpr fun pair inside same =>
      fresh (List.mem_map.mpr ⟨pair, inside, by simpa using same⟩)
  simp [other]

theorem putLast (last value : α) :
    putEntry name value (before ++ [(name, last)]) = before ++ [(name, value)] := by
  induction before with
  | nil => simp [putEntry]
  | cons first before ih =>
    obtain ⟨key, v⟩ := first
    obtain ⟨unlike, fresh⟩ := not_or.mp (mt List.mem_cons.mpr fresh)
    rw [List.cons_append, putEntry, if_neg (fun same => unlike same.symm), ih fresh, List.cons_append]

theorem keyFresh : hasKey name before = false := by
  rw [hasKey, List.any_eq_false]
  exact fun pair inside same => fresh (List.mem_map.mpr ⟨pair, inside, by simpa using same⟩)

end

theorem applyHeader {name : String} {root : Entries} (fresh : name ∉ root.map (·.1)) (path : List String) :
    Draft.apply ⟨path, root⟩ (.table [name]) = some ⟨[name], root ++ [(name, .table .header [])]⟩ := by
  have absent : Entries.entry? name root = none := by
    rw [Entries.entry?, Option.map_eq_none_iff]
    exact List.find?_eq_none.mpr fun pair inside same =>
      fresh (List.mem_map.mpr ⟨pair, inside, by simpa using same⟩)
  simp [Draft.apply, splitLast?, Entries.changeUnder, Entries.openTable, absent]

theorem applyPair {name key : String} {root entries : Entries} (fresh : name ∉ root.map (·.1))
    (fresh' : key ∉ entries.map (·.1)) (value : Toml) :
    Draft.apply ⟨[name], root ++ [(name, .table .header entries)]⟩ (.pair [key] value) =
      some ⟨[name], root ++ [(name, .table .header (entries ++ [(key, .value value)]))]⟩ := by
  have here : Entries.entry? name (root ++ [(name, .table .header entries)]) =
      some (.table .header entries) := by
    rw [Entries.entry?, findLast fresh]
    rfl
  simp [Draft.apply, Entries.changeUnder, here, Entries.addUnder, Entries.addValue, keyFresh fresh',
    putLast fresh]

def valueEntries (pairs : List (String × Toml)) : Entries := pairs.map fun pair => (pair.1, .value pair.2)

def tableEntries (tables : List Table) : Entries :=
  tables.map fun t => (t.1, .table .header (valueEntries t.2))

theorem valueKeys (pairs : List (String × Toml)) : (valueEntries pairs).map (·.1) = pairs.map (·.1) := by
  simp [valueEntries]

theorem tableKeys (tables : List Table) : (tableEntries tables).map (·.1) = tables.map (·.1) := by
  simp [tableEntries]

theorem nextFresh {α : Type} {done rest : List (String × α)} {next : String × α}
    (apart : ((done ++ next :: rest).map (·.1)).Nodup) : next.1 ∉ done.map (·.1) := by
  rw [List.map_append, List.map_cons] at apart
  intro inside
  exact (List.nodup_append.mp apart).2.2 next.1 inside next.1 List.mem_cons_self rfl

theorem applyPairs {name : String} {root : Entries} (fresh : name ∉ root.map (·.1))
    {done pairs : List (String × Toml)} (apart : ((done ++ pairs).map (·.1)).Nodup) :
    (pairs.map fun pair => Statement.pair [pair.1] pair.2).foldlM Draft.apply
        ⟨[name], root ++ [(name, .table .header (valueEntries done))]⟩ =
      some ⟨[name], root ++ [(name, .table .header (valueEntries (done ++ pairs)))]⟩ := by
  induction pairs generalizing done with
  | nil => rw [List.append_nil]; rfl
  | cons pair pairs ih =>
    have grown : done ++ pair :: pairs = (done ++ [pair]) ++ pairs := by simp
    have fresh' : pair.1 ∉ (valueEntries done).map (·.1) := valueKeys done ▸ nextFresh apart
    have added : valueEntries done ++ [(pair.1, .value pair.2)] = valueEntries (done ++ [pair]) := by
      simp [valueEntries]
    rw [grown] at apart ⊢
    rw [List.map_cons, List.foldlM_cons, applyPair fresh fresh', added]
    exact ih apart

theorem applyTables {done tables : List Table} (apart : ((done ++ tables).map (·.1)).Nodup)
    (keys : ∀ t ∈ tables, (t.2.map (·.1)).Nodup) (path : List String) :
    ∃ path', (tables.flatMap statementsOf).foldlM Draft.apply ⟨path, tableEntries done⟩ =
      some ⟨path', tableEntries (done ++ tables)⟩ := by
  induction tables generalizing done path with
  | nil => exact ⟨path, by rw [List.append_nil]; rfl⟩
  | cons t tables ih =>
    obtain ⟨key, keys⟩ := List.forall_mem_cons.mp keys
    have grown : done ++ t :: tables = (done ++ [t]) ++ tables := by simp
    have fresh : t.1 ∉ (tableEntries done).map (·.1) := tableKeys done ▸ nextFresh apart
    have filled := @applyPairs t.1 (tableEntries done) fresh [] t.2 key
    have added : tableEntries done ++ [(t.1, .table .header (valueEntries t.2))] =
        tableEntries (done ++ [t]) := by
      simp [tableEntries]
    rw [grown] at apart ⊢
    obtain ⟨path', later⟩ := ih apart keys [t.1]
    refine ⟨path', ?_⟩
    rw [List.flatMap_cons, List.foldlM_append, statementsOf, List.foldlM_cons, applyHeader fresh]
    change ((t.2.map _).foldlM Draft.apply
      ⟨[t.1], tableEntries done ++ [(t.1, .table .header (valueEntries []))]⟩).bind _ = _
    rw [filled, List.nil_append, added]
    exact later

theorem pairsOfValues (pairs : List (String × Toml)) : Entry.toPairs (valueEntries pairs) = pairs := by
  induction pairs with
  | nil => rfl
  | cons pair pairs ih =>
    rw [valueEntries, List.map_cons, Entry.toPairs, Entry.toValue]
    exact congrArg _ ih

theorem pairsOfTables (tables : List Table) :
    Entry.toPairs (tableEntries tables) = tables.map fun t => (t.1, .table t.2) := by
  induction tables with
  | nil => rfl
  | cons t tables ih =>
    rw [tableEntries, List.map_cons, Entry.toPairs, Entry.toValue, pairsOfValues]
    exact congrArg _ ih

theorem parseDocument {tables : List Table} (writable : Writable tables) :
    parse? (documentChars tables) = some (.table (tables.map fun t => (t.1, .table t.2))) := by
  obtain ⟨path, applied⟩ := @applyTables [] tables writable.apart writable.keys []
  rw [parse?, statementsRead writable]
  change (List.foldlM Draft.apply ⟨[], tableEntries []⟩ _).bind _ = _
  rw [applied, List.nil_append, Option.bind_some, pairsOfTables]

end MathTokens.Toml

import MathTokens.CommandLine.Options

/-! The grammar of the command line. Arguments are read from the left in units, in one way only, and the
units decide what the options are. Their order counts only among the configurations. -/
namespace MathTokens.CommandLine

def NamesFile (arg : String) : Prop := arg ≠ "-h" ∧ ¬['-', '-'] <+: arg.toList
instance (arg : String) : Decidable (NamesFile arg) := by unfold NamesFile; infer_instance

inductive Item where
  | help
  | shortHelp
  | json
  | spans
  | expression (source : String)
  | config (path : String)
  | file (path : String) (named : NamesFile path)
  deriving DecidableEq

namespace Item

def args : Item → List String
  | .help => ["--help"]
  | .shortHelp => ["-h"]
  | .json => ["--json"]
  | .spans => ["--spans"]
  | .expression source => ["--expr", source]
  | .config path => ["--config", path]
  | .file path _ => [path]

def input? : Item → Option Input
  | .expression source => some (.expression source)
  | .file path _ => some (.file path)
  | _ => none

def config? : Item → Option String
  | .config path => some path
  | _ => none

theorem fileOfArgs {item : Item} {arg : String} {rest more : List String}
    (same : item.args ++ rest = arg :: more) (named : NamesFile arg) : item = .file arg named := by
  cases item with
  | file =>
    cases same
    rfl
  | help | shortHelp | json | spans | expression | config =>
    cases same
    exact absurd named (by decide)

theorem argsUnique {item other : Item} {rest more : List String}
    (same : item.args ++ rest = other.args ++ more) : item = other ∧ rest = more := by
  cases other with
  | file path named =>
    cases fileOfArgs same named
    simpa [args] using same
  | help | shortHelp | json | spans | expression | config =>
    cases item with
    | file path named => cases fileOfArgs same.symm named
    | help | shortHelp | json | spans | expression | config => simp_all [args]

end Item

def written (items : List Item) : List String := items.flatMap Item.args

theorem writtenUnique {items others : List Item} (same : written items = written others) :
    items = others := by
  induction items generalizing others with
  | nil =>
    cases others with
    | nil => rfl
    | cons other others => cases other <;> cases same
  | cons item items ih =>
    cases others with
    | nil => cases item <;> cases same
    | cons other others =>
      rw [written, written, List.flatMap_cons, List.flatMap_cons] at same
      obtain ⟨first, later⟩ := Item.argsUnique same
      rw [first, ih later]

def inputs (items : List Item) : List Input := items.filterMap Item.input?

def configs (items : List Item) : List String := items.filterMap Item.config?

def AsksHelp (items : List Item) : Prop := .help ∈ items ∨ .shortHelp ∈ items
instance (items : List Item) : Decidable (AsksHelp items) := by unfold AsksHelp; infer_instance

namespace Options

def take (o : Options) : Item → Except UsageError Options
  | .help | .shortHelp => .ok { o with help := true }
  | .json => .ok { o with json := true }
  | .spans => .ok { o with spans := true }
  | .expression source => o.setInput (.expression source)
  | .config path => .ok { o with config := some path }
  | .file path _ => o.setInput (.file path)

theorem wordsDashed :
    ∀ word ∈ ["--help", "--json", "--spans", "--expr", "--config"], ['-', '-'] <+: word.toList := by
  decide

theorem readItem (o : Options) (item : Item) (rest : List String) :
    o.read (item.args ++ rest) = (o.take item).bind (·.read rest) := by
  cases item with
  | help | shortHelp | json | spans | config => exact read.eq_def o _
  | expression source =>
    have taken : o.read ("--expr" :: source :: rest) = _ := read.eq_def o _
    cases input : o.setInput (.expression source) <;>
    · simp only [input] at taken
      simp only [take, input]
      exact taken
  | file path named =>
    have apart : ∀ word ∈ ["--help", "--json", "--spans", "--expr", "--config"], path ≠ word :=
      fun word member same => named.2 (same ▸ wordsDashed word member)
    simp only [List.forall_mem_cons] at apart
    obtain ⟨help, json, spans, expression, config, _⟩ := apart
    have plain : looksLikeOption path = false := by
      rw [looksLikeOption, Bool.eq_false_iff]
      exact fun dashed => named.2 (List.isPrefixOf_iff_prefix.mp dashed)
    rw [Item.args, List.singleton_append, read.eq_def]
    simp only [help, named.1, json, spans, expression, config, plain, or_self, if_false,
      Bool.false_eq_true, take]
    cases o.setInput (.file path) <;> rfl

theorem readWritten (o : Options) (items : List Item) :
    o.read (written items) = items.foldlM take o := by
  induction items generalizing o with
  | nil => exact read.eq_def o []
  | cons item items ih =>
    rw [written, List.flatMap_cons, readItem, List.foldlM_cons]
    exact congrArg (Except.bind (o.take item)) (funext fun next => ih next)

theorem unitInFront (item : Item) {rest : List String} (made : ∃ items, written items = rest) :
    ∃ items, written items = item.args ++ rest := by
  obtain ⟨items, rfl⟩ := made
  exact ⟨item :: items, List.flatMap_cons⟩

theorem readUnits {o out : Options} {args : List String} (accepted : o.read args = .ok out) :
    ∃ items, written items = args := by
  fun_induction Options.read o args with
  | case1 o => exact ⟨[], rfl⟩
  | case2 o arg rest help ih =>
    cases help with
    | inl long => exact long ▸ unitInFront .help (ih accepted)
    | inr short => exact short ▸ unitInFront .shortHelp (ih accepted)
  | case3 o rest _ ih => exact unitInFront .json (ih accepted)
  | case4 o rest _ _ ih => exact unitInFront .spans (ih accepted)
  | case6 o source rest next _ _ _ _ ih => exact unitInFront (.expression source) (ih accepted)
  | case9 o path rest _ _ _ _ ih => exact unitInFront (.config path) (ih accepted)
  | case11 o path rest help _ _ _ _ plain next _ ih =>
    have named : NamesFile path :=
      ⟨fun short => help (.inr short), fun dashed => plain (List.isPrefixOf_iff_prefix.mpr dashed)⟩
    exact unitInFront (.file path named) (ih accepted)
  | case5 | case7 | case8 | case10 | case12 => cases accepted

def ofItems (items : List Item) : Options where
  input := (inputs items).head?
  config := (configs items).getLast?
  json := decide (.json ∈ items)
  spans := decide (.spans ∈ items)
  help := decide (AsksHelp items)

theorem takeItem {before : List Item} (single : (inputs before).length ≤ 1) (item : Item) :
    (ofItems before).take item =
      if (inputs (before ++ [item])).length ≤ 1 then .ok (ofItems (before ++ [item]))
      else .error .secondInput := by
  have inputsNow : inputs (before ++ [item]) = inputs before ++ item.input?.toList := by
    rw [inputs, List.filterMap_append]
    cases found : item.input? <;> simp [inputs, found]
  have configsNow : configs (before ++ [item]) = configs before ++ item.config?.toList := by
    rw [configs, List.filterMap_append]
    cases found : item.config? <;> simp [configs, found]
  have helpNow : AsksHelp (before ++ [item]) ↔ AsksHelp before ∨ item = .help ∨ item = .shortHelp := by
    simp only [AsksHelp, List.mem_append, List.mem_singleton, eq_comm]
    exact or_or_or_comm
  cases item with
  | help | shortHelp | json | spans | config =>
    rw [inputsNow, if_pos (by simpa [Item.input?] using single), take]
    simp [ofItems, inputsNow, configsNow, helpNow, Item.input?, Item.config?]
  | expression | file =>
    simp only [take, setInput, inputsNow, Item.input?]
    cases given : inputs before with
    | nil => simp [ofItems, inputsNow, configsNow, helpNow, given, Item.input?, Item.config?]
    | cons first more => simp [ofItems, given]

theorem takeItems {before : List Item} (single : (inputs before).length ≤ 1) (items : List Item) :
    items.foldlM take (ofItems before) =
      if (inputs (before ++ items)).length ≤ 1 then .ok (ofItems (before ++ items))
      else .error .secondInput := by
  induction items generalizing before with
  | nil =>
    rw [List.append_nil, if_pos single]
    rfl
  | cons item items ih =>
    have whole : before ++ item :: items = before ++ [item] ++ items := by simp
    rw [List.foldlM_cons, takeItem single, whole]
    split
    · next fits => exact ih fits
    · next crowded =>
      have more : (inputs (before ++ [item])).length ≤ (inputs (before ++ [item] ++ items)).length :=
        ((List.sublist_append_left _ items).filterMap Item.input?).length_le
      rw [if_neg (fun fits => crowded (Nat.le_trans more fits))]
      rfl

theorem parseWritten (items : List Item) :
    parse (written items) =
      if 1 < (inputs items).length then .error .secondInput
      else if inputs items = [] ∧ ¬AsksHelp items then .error .noInput
      else .ok (ofItems items) := by
  have fresh : (inputs []).length ≤ 1 := Nat.zero_le 1
  have taken := takeItems fresh items
  rw [← readWritten, List.nil_append] at taken
  rw [parse, ← show ofItems [] = none from rfl, taken]
  by_cases single : (inputs items).length ≤ 1
  · rw [if_pos single, if_neg (Nat.not_lt.mpr single)]
    simp [ofItems]
  · rw [if_neg single, if_pos (Nat.lt_of_not_le single)]

theorem ofItemsPermuted {items others : List Item} (moved : items.Perm others)
    (ordered : configs items = configs others) (single : (inputs items).length ≤ 1) :
    ofItems items = ofItems others := by
  have given : (inputs items).Perm (inputs others) := moved.filterMap Item.input?
  have same : inputs items = inputs others := by
    match first : inputs items with
    | [] => exact (first ▸ given).nil_eq
    | [input] => exact (first ▸ given).singleton_eq
    | input :: next :: more => simp [first] at single
  simp only [ofItems, same, ordered, moved.mem_iff, AsksHelp]

theorem parsePermuted {items others : List Item} (moved : items.Perm others)
    (ordered : configs items = configs others) : parse (written items) = parse (written others) := by
  have given : (inputs items).Perm (inputs others) := moved.filterMap Item.input?
  have bare : inputs items = [] ↔ inputs others = [] := by
    rw [← List.length_eq_zero_iff, ← List.length_eq_zero_iff, given.length_eq]
  have help : AsksHelp items ↔ AsksHelp others := or_congr moved.mem_iff moved.mem_iff
  rw [parseWritten, parseWritten, given.length_eq]
  split
  · rfl
  · next single =>
    rw [← given.length_eq, Nat.not_lt] at single
    simp only [bare, help, ofItemsPermuted moved ordered single]

theorem parseUnits {args : List String} {out : Options} (accepted : parse args = .ok out) :
    ∃ items, written items = args := by
  rw [parse] at accepted
  cases read : none.read args with
  | error e => simp [read] at accepted
  | ok o => exact readUnits read

theorem optionsFollowGrammar :
    (∀ items others, written items = written others → items = others) ∧
    (∀ args out, parse args = .ok out ↔ ∃ items, written items = args ∧
      (inputs items).length ≤ 1 ∧ (inputs items ≠ [] ∨ AsksHelp items) ∧ out = ofItems items) ∧
    ∀ items others, items.Perm others → configs items = configs others →
      parse (written items) = parse (written others) := by
  refine ⟨fun _ _ => writtenUnique, fun args out => ?_, fun _ _ => parsePermuted⟩
  have enoughIff (items : List Item) :
      ¬(inputs items = [] ∧ ¬AsksHelp items) ↔ inputs items ≠ [] ∨ AsksHelp items := by
    rw [Decidable.not_and_not_right, Decidable.imp_iff_not_or]
  constructor
  · intro accepted
    obtain ⟨items, rfl⟩ := parseUnits accepted
    rw [parseWritten] at accepted
    split at accepted
    · cases accepted
    · next single =>
      split at accepted
      · cases accepted
      · next enough =>
        cases accepted
        exact ⟨items, rfl, Nat.not_lt.mp single, (enoughIff items).mp enough, rfl⟩
  · intro ⟨items, same, single, enough, told⟩
    rw [← same, parseWritten, if_neg (Nat.not_lt.mpr single), if_neg ((enoughIff items).mpr enough), told]

theorem valuesKeptInOrder :
    let items : List Item :=
      [.config "--json", .spans, .file "a.mlang" (by decide), .config "--help"]
    let others : List Item :=
      [.file "a.mlang" (by decide), .config "--json", .config "--help", .spans]
    items.Perm others ∧ configs items = configs others ∧
      parse (written items) = parse (written others) ∧
      parse (written others) = .ok ⟨some (.file "a.mlang"), some "--help", false, true, false⟩ := by
  intro items others
  have moved : items.Perm others := by decide
  have ordered : configs items = configs others := by decide
  exact ⟨moved, ordered, optionsFollowGrammar.2.2 items others moved ordered,
    (optionsFollowGrammar.2.1 _ _).mpr ⟨others, rfl, by decide, by decide, by decide⟩⟩

end Options
end MathTokens.CommandLine

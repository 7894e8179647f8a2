import MathTokens.Json.Parser
import MathTokens.Proofs.JsonNumerals

/-! JSON written and read again. What is written of a value, in either layout, is read as that value,
whatever its strings hold, and on one line no control character is left in it. -/
namespace MathTokens.Json

/- The values that their text tells in full. Of the doubles these are whole ones of at most 15 digits. -/
inductive Plain : Json → Prop where
  | null : Plain .null
  | bool (b : Bool) : Plain (.bool b)
  | natural {n : Nat} (small : n < UInt64.size) : Plain (.integer n)
  | whole (negative : Bool) {n : Nat} (small : n < Nat.pow 10 15) : Plain (.double (.whole negative n))
  | string (s : String) : Plain (.string s)
  | array {items : List Json} (each : ∀ item ∈ items, Plain item) : Plain (.array items)
  | object {members : List (String × Json)} (each : ∀ member ∈ members, Plain member.2) :
      Plain (.object members)

/-! Strings -/

theorem hexDigitRead : ∀ d < 16, hexValue? (hexDigit d) = some d := by decide

theorem readControl {c : Char} (control : c.toNat < 0x20) (cs : List Char) :
    readEscape ('u' :: '0' :: '0' :: hexDigit (c.toNat / 16) :: hexDigit (c.toNat % 16) :: cs) =
      some (some c, cs) := by
  have high := hexDigitRead (c.toNat / 16) (by omega)
  have low := hexDigitRead (c.toNat % 16) (by omega)
  have zero : hexValue? '0' = some 0 := rfl
  have unit : ((0 * 16 + 0) * 16 + c.toNat / 16) * 16 + c.toNat % 16 = c.toNat := by omega
  have leading : isLeading c.toNat = false := decide_eq_false (by omega)
  have trailing : isTrailing c.toNat = false := decide_eq_false (by omega)
  simp only [readEscape, readUnit, zero, high, low, Option.bind_eq_bind, Option.bind_some, unit, leading,
    trailing, Char.ofNat_toNat]
  rfl

theorem readTextEscape {cs rest : List Char} {c : Char} (read : readEscape cs = some (some c, rest))
    (taken : List Char) (whole : Bool) :
    readText taken whole ('\\' :: cs) = readText (c :: taken) whole rest := by
  rw [readText]
  split
  · next same =>
    rw [read] at same
    cases same
    rfl
  · next same =>
    rw [read] at same
    cases same
  · next same =>
    rw [read] at same
    cases same

theorem readTextOther {c : Char} (quote : c ≠ '"') (backslash : c ≠ '\\') (visible : 0x20 ≤ c.toNat)
    (taken : List Char) (whole : Bool) (cs : List Char) :
    readText taken whole (c :: cs) = readText (c :: taken) whole cs := by
  rw [readText.eq_def]
  split
  · next same => cases same
  · next same => exact absurd (List.cons.inj same).1 quote
  · next same => exact absurd (List.cons.inj same).1 backslash
  · next same =>
    cases same
    rw [if_neg (Nat.not_lt.mpr visible)]

theorem readTextChar (c : Char) (taken : List Char) (whole : Bool) (cs : List Char) :
    readText taken whole (escapeChar c ++ cs) = readText (c :: taken) whole cs := by
  unfold escapeChar
  split
  case h_8 quote backslash _ _ _ _ _ =>
    split
    · next control => exact readTextEscape (readControl control cs) taken whole
    · next visible => exact readTextOther quote backslash (Nat.le_of_not_lt visible) taken whole cs
  all_goals exact readTextEscape rfl taken whole

theorem readTextChars (s taken rest : List Char) :
    readText taken true (s.flatMap escapeChar ++ '"' :: rest) =
      some (some (String.ofList (taken.reverse ++ s)), rest) := by
  induction s generalizing taken with
  | nil =>
    rw [List.flatMap_nil, List.nil_append, readText, if_pos rfl, List.append_nil]
  | cons c s ih =>
    rw [List.flatMap_cons, List.append_assoc, readTextChar, ih, List.reverse_cons, List.append_assoc]
    rfl

theorem quotedChars (s : String) :
    (quoted s).toList = '"' :: (s.toList.flatMap escapeChar ++ ['"']) :=
  String.toList_ofList

theorem readQuotedChars (s : String) (rest : List Char) :
    readQuoted ((quoted s).toList ++ rest) = some (some s, rest) := by
  have read := readTextChars s.toList [] rest
  rw [List.reverse_nil, List.nil_append, String.ofList_toList] at read
  rw [quotedChars, List.cons_append, List.append_assoc, List.singleton_append]
  exact read

/-! The text of a value as characters -/

def Layout.gap (l : Layout) (depth : Nat) : List Char := (l.lineBreak depth).toList

mutual

def chars (l : Layout) (depth : Nat) : Json → List Char
  | .array items =>
    if items.isEmpty then ['[', ']']
    else '[' :: (l.gap (depth + 1) ++ (itemsChars l (depth + 1) items ++ (l.gap depth ++ [']'])))
  | .object members =>
    if members.isEmpty then ['\x7b', '\x7d']
    else '\x7b' :: (l.gap (depth + 1) ++ (membersChars l (depth + 1) members ++ (l.gap depth ++ ['\x7d'])))
  | leaf => (leafText leaf).toList

def itemsChars (l : Layout) (depth : Nat) : List Json → List Char
  | [] => []
  | item :: rest =>
    chars l depth item ++
      ((if rest.isEmpty then [] else ',' :: l.gap depth) ++ itemsChars l depth rest)

def membersChars (l : Layout) (depth : Nat) : List (String × Json) → List Char
  | [] => []
  | (key, value) :: rest =>
    (quoted key).toList ++ (l.colon.toList ++ (chars l depth value ++
      ((if rest.isEmpty then [] else ',' :: l.gap depth) ++ membersChars l depth rest)))

end

mutual

theorem writeChars (l : Layout) (depth : Nat) (out : String) (j : Json) :
    (write l depth out j).toList = out.toList ++ chars l depth j := by
  cases j with
  | array items =>
    rw [write, chars]
    split
    · simp
    · simp [writeItemsChars, Layout.gap]
  | object members =>
    rw [write, chars]
    split
    · simp
    · simp [writeMembersChars, Layout.gap]
  | _ => simp [write, chars]

theorem writeItemsChars (l : Layout) (depth : Nat) (out : String) (items : List Json) :
    (writeItems l depth out items).toList = out.toList ++ itemsChars l depth items := by
  cases items with
  | nil => simp [writeItems, itemsChars]
  | cons item rest =>
    rw [writeItems, itemsChars]
    split <;> simp [writeItemsChars, writeChars, Layout.gap]

theorem writeMembersChars (l : Layout) (depth : Nat) (out : String) (members : List (String × Json)) :
    (writeMembers l depth out members).toList = out.toList ++ membersChars l depth members := by
  cases members with
  | nil => simp [writeMembers, membersChars]
  | cons member rest =>
    obtain ⟨key, value⟩ := member
    rw [writeMembers, membersChars]
    split <;> simp [writeMembersChars, writeChars, Layout.gap]

end

/-! Reading it back -/

theorem skipLead (gap : List Char) (blank : ∀ c ∈ gap, isBlank c) {c : Char} (lead : isBlank c = false)
    (cs : List Char) : skipBlank (gap ++ c :: cs) = c :: cs :=
  dropStops blank (by simpa [Stops] using lead)

theorem gapBlank (l : Layout) (depth : Nat) : ∀ c ∈ l.gap depth, isBlank c := by
  unfold Layout.gap Layout.lineBreak
  split
  · intro c member
    rw [String.toList_append, List.mem_append] at member
    rcases member with feed | space
    · rw [List.mem_singleton.mp feed]
      rfl
    · rw [String.toList_ofList] at space
      rw [(List.mem_replicate.mp space).2]
      rfl
  · intro c member
    cases member

theorem markClosed {c : Char} (mark : c ∈ ['\n', ',', ']', '\x7d']) (cs : List Char) :
    Closed (c :: cs) := by
  have apart : ∀ c ∈ ['\n', ',', ']', '\x7d'], isDigit c = false ∧ c ≠ '.' ∧ isExponentMark c = false :=
    eachDecided (by decide)
  obtain ⟨digit, point, exponent⟩ := apart c mark
  exact ⟨by simpa [Stops] using digit, by simpa using point, by simpa [Stops] using exponent⟩

theorem gapClosed (l : Layout) (depth : Nat) {c : Char} (mark : c ∈ ['\n', ',', ']', '\x7d'])
    (cs : List Char) : Closed (l.gap depth ++ c :: cs) := by
  unfold Layout.gap Layout.lineBreak
  split
  · rw [String.toList_append]
    exact markClosed (by decide) _
  · exact markClosed mark cs

theorem commaClosed (cs : List Char) : Closed (',' :: cs) :=
  markClosed (by decide) cs

theorem skipComma (cs : List Char) : skipBlank (',' :: cs) = ',' :: cs :=
  skipLead [] (by simp) rfl cs

theorem digitUnlike {d c : Char} (digit : isDigit d) (other : isDigit c = false) : d ≠ c := by
  rintro rfl
  rw [other] at digit
  cases digit

theorem charsLead {j : Json} (plain : Plain j) (l : Layout) (depth : Nat) :
    ∃ c cs, chars l depth j = c :: cs ∧ isBlank c = false ∧ c ≠ ']' := by
  have digits (n : Nat) : ∃ c cs, Nat.toDigits 10 n = c :: cs ∧ isBlank c = false ∧ c ≠ ']' := by
    obtain ⟨d, ds, first⟩ := List.exists_cons_of_ne_nil (@Nat.toDigits_ne_nil n 10)
    have digit : isDigit d := toDigitsDigits n d (by simp [first])
    have unlike {c : Char} (other : isDigit c = false) : d ≠ c := digitUnlike digit other
    refine ⟨d, ds, first, ?_, unlike rfl⟩
    simp [isBlank, unlike (c := ' ') rfl, unlike (c := '\n') rfl, unlike (c := '\t') rfl,
      unlike (c := '\r') rfl]
  cases plain with
  | null => exact ⟨'n', _, rfl, rfl, by decide⟩
  | bool b => cases b <;> exact ⟨_, _, rfl, rfl, by decide⟩
  | @natural n small =>
    obtain ⟨d, ds, first, rest⟩ := digits n
    exact ⟨d, ds, by rw [← first]; exact Nat.toList_repr, rest⟩
  | @whole negative n small =>
    have text := Double.jsonTextWhole negative small
    cases negative with
    | true => exact ⟨'-', _, text, rfl, by decide⟩
    | false =>
      obtain ⟨d, ds, first, rest⟩ := digits n
      rw [first] at text
      exact ⟨d, _, text, rest⟩
  | string s => exact ⟨'"', _, quotedChars s, rfl, by decide⟩
  | array each =>
    rw [chars]
    split <;> exact ⟨'[', _, rfl, rfl, by decide⟩
  | object each =>
    rw [chars]
    split <;> exact ⟨'\x7b', _, rfl, rfl, by decide⟩

theorem readValueDigit {d : Char} (digit : isDigit d) (fuel : Nat) (ds : List Char) :
    readValue (fuel + 1) (d :: ds) = readNumber (d :: ds) := by
  have unlike {c : Char} (other : isDigit c = false) : d ≠ c := digitUnlike digit other
  rw [readValue.eq_def]
  simp only
  split
  case h_7 => rfl
  all_goals
    next same => exact absurd (List.cons.inj same).1 (unlike rfl)

theorem readWordFront (word : List Char) (value : Json) (rest : List Char) :
    readWord word value (word ++ rest) = some (value, rest) := by
  have front : word.isPrefixOf (word ++ rest) := List.isPrefixOf_iff_prefix.mpr (List.prefix_append _ _)
  rw [readWord, if_pos front, List.drop_left]

theorem readDigitsAs {n fuel : Nat} {cs rest : List Char} {value : Json}
    (read : readNumber (Nat.toDigits 10 n ++ cs) = some (value, rest)) :
    readValue (fuel + 1) (Nat.toDigits 10 n ++ cs) = some (value, rest) := by
  obtain ⟨d, ds, first⟩ := List.exists_cons_of_ne_nil (@Nat.toDigits_ne_nil n 10)
  have digit : isDigit d := toDigitsDigits n d (by simp [first])
  rw [← read, first]
  exact readValueDigit digit fuel _

theorem colonChars (l : Layout) : ∃ gap, l.colon.toList = ':' :: gap ∧ ∀ c ∈ gap, isBlank c := by
  unfold Layout.colon
  split
  · exact ⟨[' '], rfl, eachDecided rfl⟩
  · exact ⟨[], rfl, by simp⟩

theorem readKeyChars (l : Layout) (key : String) {c : Char} (lead : isBlank c = false) (cs : List Char) :
    readKey ((quoted key).toList ++ (l.colon.toList ++ c :: cs)) = some (some key, c :: cs) := by
  obtain ⟨gap, colon, blank⟩ := colonChars l
  have found : skipBlank (':' :: (gap ++ c :: cs)) = ':' :: (gap ++ c :: cs) :=
    skipLead [] (by simp) rfl _
  rw [readKey, readQuotedChars, colon, List.cons_append]
  simp only [found, skipLead gap blank lead]

theorem readItemsNext {fuel : Nat} {item : Json} {cs rest rest' : List Char}
    (read : readValue fuel cs = some (item, rest)) (comma : skipBlank rest = ',' :: rest')
    (taken : List Json) :
    readItems (fuel + 1) taken cs = readItems fuel (item :: taken) (skipBlank rest') := by
  simp [readItems, read, comma]

theorem readItemsEnd {fuel : Nat} {item : Json} {cs rest rest' : List Char}
    (read : readValue fuel cs = some (item, rest)) (bracket : skipBlank rest = ']' :: rest')
    (taken : List Json) :
    readItems (fuel + 1) taken cs = some (.array (item :: taken).reverse, rest') := by
  simp [readItems, read, bracket]

theorem readMembersNext {fuel : Nat} {key : String} {value : Json} {cs rest rest' rest'' : List Char}
    (named : readKey cs = some (some key, rest)) (read : readValue fuel rest = some (value, rest'))
    (comma : skipBlank rest' = ',' :: rest'') (taken : List (String × Json)) :
    readMembers (fuel + 1) taken true cs =
      readMembers fuel ((key, value) :: taken) true (skipBlank rest'') := by
  simp [readMembers, named, read, comma]

theorem readMembersEnd {fuel : Nat} {key : String} {value : Json} {cs rest rest' rest'' : List Char}
    (named : readKey cs = some (some key, rest)) (read : readValue fuel rest = some (value, rest'))
    (brace : skipBlank rest' = '\x7d' :: rest'') (taken : List (String × Json)) :
    readMembers (fuel + 1) taken true cs = some (.object ((key, value) :: taken).reverse, rest'') := by
  simp [readMembers, named, read, brace]

theorem readArrayOpen {gap : List Char} (blank : ∀ c ∈ gap, isBlank c) {c : Char}
    (lead : isBlank c = false) (more : c ≠ ']') (fuel : Nat) (cs : List Char) :
    readValue (fuel + 1) ('[' :: (gap ++ c :: cs)) = readItems fuel [] (c :: cs) := by
  rw [readValue, skipLead gap blank lead]
  split
  · next same => exact absurd (List.cons.inj same).1 more
  · rfl

theorem readObjectOpen {gap : List Char} (blank : ∀ c ∈ gap, isBlank c) (fuel : Nat) (cs : List Char) :
    readValue (fuel + 1) ('\x7b' :: (gap ++ '"' :: cs)) = readMembers fuel [] true ('"' :: cs) := by
  rw [readValue, skipLead gap blank rfl]
  rfl

theorem arrayChars (l : Layout) (depth : Nat) (item : Json) (more : List Json) :
    chars l depth (.array (item :: more)) =
      '[' :: (l.gap (depth + 1) ++
        (itemsChars l (depth + 1) (item :: more) ++ (l.gap depth ++ [']']))) := by
  rw [chars]
  rfl

theorem objectChars (l : Layout) (depth : Nat) (member : String × Json) (more : List (String × Json)) :
    chars l depth (.object (member :: more)) =
      '\x7b' :: (l.gap (depth + 1) ++
        (membersChars l (depth + 1) (member :: more) ++ (l.gap depth ++ ['\x7d']))) := by
  rw [chars]
  rfl

theorem itemsLast (l : Layout) (depth : Nat) (item : Json) :
    itemsChars l depth [item] = chars l depth item := by
  simp [itemsChars]

theorem itemsMore (l : Layout) (depth : Nat) (item next : Json) (more : List Json) :
    itemsChars l depth (item :: next :: more) =
      chars l depth item ++ ',' :: (l.gap depth ++ itemsChars l depth (next :: more)) := by
  rw [itemsChars]
  rfl

theorem membersLast (l : Layout) (depth : Nat) (key : String) (value : Json) :
    membersChars l depth [(key, value)] =
      (quoted key).toList ++ (l.colon.toList ++ chars l depth value) := by
  simp [membersChars]

theorem membersMore (l : Layout) (depth : Nat) (key : String) (value : Json) (next : String × Json)
    (more : List (String × Json)) :
    membersChars l depth ((key, value) :: next :: more) =
      (quoted key).toList ++ (l.colon.toList ++
        (chars l depth value ++ ',' :: (l.gap depth ++ membersChars l depth (next :: more)))) := by
  rw [membersChars]
  rfl

theorem itemsLead {item : Json} (plain : Plain item) (l : Layout) (depth : Nat) (more : List Json) :
    ∃ c cs, itemsChars l depth (item :: more) = c :: cs ∧ isBlank c = false ∧ c ≠ ']' := by
  obtain ⟨c, cs, lead, rest⟩ := charsLead plain l depth
  exact ⟨c, _, by rw [itemsChars, lead, List.cons_append], rest⟩

theorem membersLead (l : Layout) (depth : Nat) (member : String × Json) (more : List (String × Json)) :
    ∃ cs, membersChars l depth (member :: more) = '"' :: cs := by
  obtain ⟨key, value⟩ := member
  exact ⟨_, by rw [membersChars, quotedChars, List.cons_append]⟩

/- The value is read off its text. The fuel is twice the length of the text: one step goes to each value
and one to each mark behind it. -/
def ReadsBack (l : Layout) (j : Json) : Prop :=
  ∀ {depth fuel : Nat} {rest : List Char}, 2 * (chars l depth j).length ≤ fuel → Closed rest →
    readValue fuel (chars l depth j ++ rest) = some (j, rest)

theorem readsBackOf {l : Layout} {j : Json} (plain : Plain j)
    (step : ∀ {depth fuel : Nat} {rest : List Char}, 2 * (chars l depth j).length ≤ fuel + 1 → Closed rest →
      readValue (fuel + 1) (chars l depth j ++ rest) = some (j, rest)) : ReadsBack l j := by
  intro depth fuel rest enough closed
  obtain ⟨c, cs, lead, _⟩ := charsLead plain l depth
  obtain ⟨fuel, rfl⟩ : ∃ less, fuel = less + 1 := by
    rw [lead, List.length_cons] at enough
    exact ⟨fuel - 1, by omega⟩
  exact step enough closed

theorem readItemsChars (l : Layout) (depth depth' : Nat) {item : Json} {more : List Json}
    (plain : ∀ x ∈ item :: more, Plain x) (each : ∀ x ∈ item :: more, ReadsBack l x) {fuel : Nat}
    (enough : 2 * (itemsChars l depth (item :: more)).length + 1 ≤ fuel) (taken : List Json)
    (rest : List Char) :
    readItems fuel taken (itemsChars l depth (item :: more) ++ (l.gap depth' ++ ']' :: rest)) =
      some (.array (taken.reverse ++ item :: more), rest) := by
  -- on the items behind the one at hand, which decide whether a comma or the bracket follows it
  induction more generalizing item fuel taken with
  | nil =>
    obtain ⟨fuel, rfl⟩ : ∃ less, fuel = less + 1 := ⟨fuel - 1, by omega⟩
    rw [itemsLast] at enough ⊢
    have read := each item (by simp) (show 2 * (chars l depth item).length ≤ fuel by omega)
      (gapClosed l depth' (show ']' ∈ ['\n', ',', ']', '\x7d'] by decide) rest)
    rw [readItemsEnd read (skipLead _ (gapBlank l depth') rfl rest), List.reverse_cons]
  | cons next more ih =>
    obtain ⟨fuel, rfl⟩ : ∃ less, fuel = less + 1 := ⟨fuel - 1, by omega⟩
    obtain ⟨_, plains⟩ := List.forall_mem_cons.mp plain
    obtain ⟨reads, others⟩ := List.forall_mem_cons.mp each
    obtain ⟨c, cs, lead, visible, _⟩ := itemsLead (plains next (by simp)) l depth more
    rw [itemsMore, List.length_append, List.length_cons, List.length_append] at enough
    have read := reads (show 2 * (chars l depth item).length ≤ fuel by omega)
      (commaClosed (l.gap depth ++ (itemsChars l depth (next :: more) ++ (l.gap depth' ++ ']' :: rest))))
    have later := @ih next plains others fuel (by omega) (item :: taken)
    rw [itemsMore, List.append_assoc, List.cons_append, List.append_assoc,
      readItemsNext read (skipComma _)]
    simp only [lead, List.cons_append, skipLead _ (gapBlank l depth) visible] at later ⊢
    rw [later]
    simp

theorem readMembersChars (l : Layout) (depth depth' : Nat) {member : String × Json}
    {more : List (String × Json)} (plain : ∀ x ∈ member :: more, Plain x.2)
    (each : ∀ x ∈ member :: more, ReadsBack l x.2) {fuel : Nat}
    (enough : 2 * (membersChars l depth (member :: more)).length + 1 ≤ fuel)
    (taken : List (String × Json)) (rest : List Char) :
    readMembers fuel taken true
        (membersChars l depth (member :: more) ++ (l.gap depth' ++ '\x7d' :: rest)) =
      some (.object (taken.reverse ++ member :: more), rest) := by
  induction more generalizing member fuel taken with
  | nil =>
    obtain ⟨fuel, rfl⟩ : ∃ less, fuel = less + 1 := ⟨fuel - 1, by omega⟩
    obtain ⟨key, value⟩ := member
    obtain ⟨v, vs, first, visible, _⟩ := charsLead (plain (key, value) (by simp)) l depth
    rw [membersLast, List.length_append, List.length_append] at enough
    have read := each (key, value) (by simp) (show 2 * (chars l depth value).length ≤ fuel by omega)
      (gapClosed l depth' (show '\x7d' ∈ ['\n', ',', ']', '\x7d'] by decide) rest)
    have named := readKeyChars l key visible (vs ++ (l.gap depth' ++ '\x7d' :: rest))
    rw [← List.cons_append, ← first] at named
    rw [membersLast, List.append_assoc, List.append_assoc,
      readMembersEnd named read (skipLead _ (gapBlank l depth') rfl rest), List.reverse_cons]
  | cons next more ih =>
    obtain ⟨fuel, rfl⟩ : ∃ less, fuel = less + 1 := ⟨fuel - 1, by omega⟩
    obtain ⟨key, value⟩ := member
    obtain ⟨_, plains⟩ := List.forall_mem_cons.mp plain
    obtain ⟨reads, others⟩ := List.forall_mem_cons.mp each
    obtain ⟨v, vs, first, visible, _⟩ := charsLead (plain (key, value) (by simp)) l depth
    obtain ⟨cs, lead⟩ := membersLead l depth next more
    rw [membersMore, List.length_append, List.length_append, List.length_append, List.length_cons,
      List.length_append] at enough
    have read := reads (show 2 * (chars l depth value).length ≤ fuel by omega)
      (commaClosed (l.gap depth ++ (membersChars l depth (next :: more) ++
        (l.gap depth' ++ '\x7d' :: rest))))
    have named := readKeyChars l key visible
      (vs ++ ',' :: (l.gap depth ++
        (membersChars l depth (next :: more) ++ (l.gap depth' ++ '\x7d' :: rest))))
    have later := @ih next plains others fuel (by omega) ((key, value) :: taken)
    rw [← List.cons_append, ← first] at named
    rw [membersMore, List.append_assoc, List.append_assoc, List.append_assoc, List.cons_append,
      List.append_assoc, readMembersNext named read (skipComma _)]
    simp only [lead, List.cons_append, skipLead _ (gapBlank l depth) (show isBlank '"' = false from rfl)]
      at later ⊢
    rw [later]
    simp

theorem readValueChars (l : Layout) {j : Json} (plain : Plain j) : ReadsBack l j := by
  induction plain with
  | null => exact readsBackOf .null fun _ _ => readWordFront ['n', 'u', 'l', 'l'] .null _
  | bool b =>
    refine readsBackOf (.bool b) fun _ _ => ?_
    cases b with
    | true => exact readWordFront ['t', 'r', 'u', 'e'] (.bool true) _
    | false => exact readWordFront ['f', 'a', 'l', 's', 'e'] (.bool false) _
  | @natural n small =>
    refine readsBackOf (.natural small) fun {depth fuel rest} enough closed => ?_
    have text : chars l depth (.integer n) = Nat.toDigits 10 n := Nat.toList_repr
    rw [text]
    exact readDigitsAs (readNatural small closed)
  | @whole negative n small =>
    refine readsBackOf (.whole negative small) fun {depth fuel rest} enough closed => ?_
    have text : chars l depth (.double (.whole negative n)) =
      Double.signChars negative ++ (Nat.toDigits 10 n ++ ['.', '0']) := Double.jsonTextWhole negative small
    have read := readWhole negative small closed
    rw [text, List.append_assoc, List.append_assoc]
    cases negative with
    | true => exact read
    | false => exact readDigitsAs read
  | string s =>
    refine readsBackOf (.string s) fun {depth fuel rest} enough closed => ?_
    have read := readQuotedChars s rest
    have text : chars l depth (.string s) = '"' :: (s.toList.flatMap escapeChar ++ ['"']) := quotedChars s
    rw [quotedChars, List.cons_append] at read
    rw [text, List.cons_append, readValue, read]
    rfl
  | @array items plain each =>
    refine readsBackOf (.array plain) fun {depth fuel rest} enough closed => ?_
    cases items with
    | nil => rfl
    | cons item more =>
      obtain ⟨c, cs, lead, visible, inside⟩ := itemsLead (plain item (by simp)) l (depth + 1) more
      rw [arrayChars, List.length_cons, List.length_append, List.length_append] at enough
      have read := @readItemsChars l (depth + 1) depth item more plain each fuel (by omega) [] rest
      rw [lead] at read
      simp only [arrayChars, lead, List.cons_append, List.append_assoc, List.nil_append] at read ⊢
      rw [readArrayOpen (gapBlank l (depth + 1)) visible inside, read]
      rfl
  | @object members plain each =>
    refine readsBackOf (.object plain) fun {depth fuel rest} enough closed => ?_
    cases members with
    | nil => rfl
    | cons member more =>
      obtain ⟨cs, lead⟩ := membersLead l (depth + 1) member more
      rw [objectChars, List.length_cons, List.length_append, List.length_append] at enough
      have read := @readMembersChars l (depth + 1) depth member more plain each fuel (by omega) [] rest
      rw [lead] at read
      simp only [objectChars, lead, List.cons_append, List.append_assoc, List.nil_append] at read ⊢
      rw [readObjectOpen (gapBlank l (depth + 1)), read]
      rfl

theorem parseWritten (l : Layout) {j : Json} (plain : Plain j) :
    parse? (write l 0 "" j).toList = some j := by
  have text : (write l 0 "" j).toList = chars l 0 j := writeChars l 0 "" j
  obtain ⟨c, cs, lead, visible, _⟩ := charsLead plain l 0
  have front : skipBlank (chars l 0 j) = chars l 0 j := by
    rw [lead]
    exact skipLead [] (by simp) visible cs
  have read := @readValueChars l j plain 0 (2 * (chars l 0 j).length + 2) [] (by omega)
    ⟨by simp [Stops], by simp, by simp [Stops]⟩
  rw [List.append_nil] at read
  rw [parse?, text, front, read]
  rfl

/-! One line -/

theorem escapeVisible (c : Char) : ∀ x ∈ escapeChar c, 0x20 ≤ x.toNat := by
  have hex : ∀ d < 16, 0x20 ≤ (hexDigit d).toNat := by decide
  unfold escapeChar
  split
  case h_8 =>
    split
    · next control =>
      have high := hex (c.toNat / 16) (by omega)
      have low := hex (c.toNat % 16) (by omega)
      simp only [List.mem_cons, List.not_mem_nil, or_false]
      rintro x (rfl | rfl | rfl | rfl | rfl | rfl)
      case inr.inr.inr.inr.inl => exact high
      case inr.inr.inr.inr.inr => exact low
      all_goals decide
    · next visible =>
      intro x member
      rw [List.mem_singleton.mp member]
      exact Nat.le_of_not_lt visible
  all_goals exact eachDecided rfl

theorem quotedVisible (s : String) : ∀ x ∈ (quoted s).toList, 0x20 ≤ x.toNat := by
  intro x member
  rw [quotedChars, List.mem_cons, List.mem_append, List.mem_flatMap, List.mem_singleton] at member
  rcases member with rfl | ⟨c, _, inside⟩ | rfl
  · decide
  · exact escapeVisible c x inside
  · decide

theorem digitsVisible (n : Nat) : ∀ x ∈ Nat.toDigits 10 n, 0x20 ≤ x.toNat := by
  intro x member
  have digit := toDigitsDigits n x member
  simp only [isDigit, decide_eq_true_eq] at digit
  exact Nat.le_trans (by decide) digit.1

theorem itemsVisible (depth : Nat) {items : List Json}
    (each : ∀ item ∈ items, ∀ x ∈ chars .compact depth item, 0x20 ≤ x.toNat) :
    ∀ x ∈ itemsChars .compact depth items, 0x20 ≤ x.toNat := by
  have gap : Layout.compact.gap depth = [] := rfl
  induction items with
  | nil =>
    intro x member
    rw [itemsChars] at member
    cases member
  | cons item more ih =>
    obtain ⟨first, others⟩ := List.forall_mem_cons.mp each
    have later := ih others
    intro x member
    rw [itemsChars, gap, List.mem_append, List.mem_append] at member
    rcases member with here | comma | there
    · exact first x here
    · split at comma
      · cases comma
      · rw [List.mem_singleton.mp comma]
        decide
    · exact later x there

theorem membersVisible (depth : Nat) {members : List (String × Json)}
    (each : ∀ member ∈ members, ∀ x ∈ chars .compact depth member.2, 0x20 ≤ x.toNat) :
    ∀ x ∈ membersChars .compact depth members, 0x20 ≤ x.toNat := by
  have gap : Layout.compact.gap depth = [] := rfl
  have colon : Layout.compact.colon.toList = [':'] := rfl
  induction members with
  | nil =>
    intro x member
    rw [membersChars] at member
    cases member
  | cons member more ih =>
    obtain ⟨first, others⟩ := List.forall_mem_cons.mp each
    have later := ih others
    obtain ⟨key, value⟩ := member
    intro x member
    rw [membersChars, gap, colon, List.mem_append, List.mem_append, List.mem_append, List.mem_append]
      at member
    rcases member with name | mark | here | comma | there
    · exact quotedVisible key x name
    · rw [List.mem_singleton.mp mark]
      decide
    · exact first x here
    · split at comma
      · cases comma
      · rw [List.mem_singleton.mp comma]
        decide
    · exact later x there

theorem bracketedVisible {first last : Char} {inside : List Char} (opens : 0x20 ≤ first.toNat)
    (closes : 0x20 ≤ last.toNat) (each : ∀ x ∈ inside, 0x20 ≤ x.toNat) :
    ∀ x ∈ first :: ([] ++ (inside ++ ([] ++ [last]))), 0x20 ≤ x.toNat := by
  intro x member
  rw [List.nil_append, List.nil_append, List.mem_cons, List.mem_append, List.mem_singleton] at member
  rcases member with rfl | within | rfl
  · exact opens
  · exact each x within
  · exact closes

theorem compactVisible {j : Json} (plain : Plain j) (depth : Nat) :
    ∀ x ∈ chars .compact depth j, 0x20 ≤ x.toNat := by
  induction plain generalizing depth with
  | null => exact (eachDecided rfl : ∀ x ∈ "null".toList, 0x20 ≤ x.toNat)
  | bool b =>
    cases b with
    | true => exact (eachDecided rfl : ∀ x ∈ "true".toList, 0x20 ≤ x.toNat)
    | false => exact (eachDecided rfl : ∀ x ∈ "false".toList, 0x20 ≤ x.toNat)
  | @natural n small =>
    have text : chars .compact depth (.integer n) = Nat.toDigits 10 n := Nat.toList_repr
    rw [text]
    exact digitsVisible n
  | @whole negative n small =>
    have text : chars .compact depth (.double (.whole negative n)) =
      Double.signChars negative ++ (Nat.toDigits 10 n ++ ['.', '0']) := Double.jsonTextWhole negative small
    intro x member
    rw [text, List.mem_append, List.mem_append] at member
    rcases member with sign | digit | zero
    · cases negative <;> exact (eachDecided rfl : ∀ x ∈ Double.signChars _, 0x20 ≤ x.toNat) x sign
    · exact digitsVisible n x digit
    · exact (eachDecided rfl : ∀ x ∈ ['.', '0'], 0x20 ≤ x.toNat) x zero
  | string s => exact quotedVisible s
  | @array items plain each =>
    rw [chars]
    split
    · exact eachDecided rfl
    · exact bracketedVisible (by decide) (by decide)
        (itemsVisible (depth + 1) fun item member => each item member (depth + 1))
  | @object members plain each =>
    rw [chars]
    split
    · exact eachDecided rfl
    · exact bracketedVisible (by decide) (by decide)
        (membersVisible (depth + 1) fun member inside => each member inside (depth + 1))

end MathTokens.Json

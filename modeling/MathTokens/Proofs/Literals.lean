import MathTokens.Text.Quoted

/-! What may stand between the quotes of a literal. The scanner that looks for the closing quote and
the one that only counts open quotes are separate loops; both are measured here against `Body`. -/
namespace MathTokens.Quoted

structure Body (cs : List Char) : Prop where
  escaped : ∀ before after, cs = before ++ '"' :: after → before.getLast? = some '\\'
  closable : cs.getLast? ≠ some '\\'

/- The same condition told along the text, as the loops read it: `previous` stands before it. -/
def Held (previous : Char) : List Char → Prop
  | [] => previous ≠ '\\'
  | c :: cs => (c = '"' → previous = '\\') ∧ Held c cs

theorem heldIff (previous : Char) (cs : List Char) :
    Held previous cs ↔
      (∀ before after, cs = before ++ '"' :: after → before.getLast?.getD previous = '\\') ∧
      cs.getLast?.getD previous ≠ '\\' := by
  induction cs generalizing previous with
  | nil => simp [Held]
  | cons c cs ih =>
    simp only [Held, ih, List.getLast?_cons, Option.getD_some]
    constructor
    · rintro ⟨first, later, last⟩
      refine ⟨?_, last⟩
      intro before after split
      cases before with
      | nil =>
        cases split
        exact first rfl
      | cons b before =>
        cases split
        simpa [List.getLast?_cons] using later before after rfl
    · rintro ⟨all, last⟩
      refine ⟨?_, ?_, last⟩
      · rintro rfl
        exact all [] cs rfl
      · rintro before after rfl
        simpa [List.getLast?_cons] using all (c :: before) after rfl

theorem bodyIff (cs : List Char) : Body cs ↔ Held '"' cs := by
  have last (xs : List Char) : xs.getLast?.getD '"' = '\\' ↔ xs.getLast? = some '\\' := by
    cases xs.getLast? <;> simp
  rw [heldIff]
  simp only [last, ne_eq]
  exact ⟨fun h => ⟨h.escaped, h.closable⟩, fun h => ⟨h.1, h.2⟩⟩

theorem closeFromHeld {previous : Char} {body : List Char} (held : Held previous body)
    (line : '\n' ∉ body) (taken rest : List Char) :
    closeFrom previous taken (body ++ '"' :: rest) =
      some (taken.reverse ++ (body ++ ['"']), rest) := by
  induction body generalizing previous taken with
  | nil =>
    have closing : previous ≠ '\\' := held
    simp [closeFrom, closing]
  | cons c body ih =>
    obtain ⟨quote, later⟩ := held
    have plain : c ≠ '\n' := fun same => line (by simp [same])
    have kept : ¬(c = '"' ∧ previous ≠ '\\') := fun h => h.2 (quote h.1)
    rw [List.cons_append, closeFrom, if_neg plain, if_neg kept,
      ih later (fun inside => line (List.mem_cons_of_mem _ inside))]
    simp

theorem closeFromSource {previous : Char} {taken cs text rest : List Char}
    (h : closeFrom previous taken cs = some (text, rest)) :
    ∃ body, Held previous body ∧ '\n' ∉ body ∧ text = taken.reverse ++ (body ++ ['"']) ∧
      cs = body ++ '"' :: rest := by
  induction cs generalizing previous taken with
  | nil => cases h
  | cons c cs ih =>
    rw [closeFrom] at h
    split at h
    · cases h
    · next plain =>
      split at h
      · next closing =>
        cases h
        exact ⟨[], closing.2, by simp, by simp [closing.1], by simp [closing.1]⟩
      · next kept =>
        obtain ⟨body, held, line, rfl, rfl⟩ := ih h
        refine ⟨c :: body, ⟨?_, held⟩, ?_, by simp, rfl⟩
        · intro quote
          exact Classical.not_not.mp fun other => kept ⟨quote, other⟩
        · simpa [Ne.symm plain] using line

theorem splitLiteralIff {cs text rest : List Char} :
    splitLiteral? cs = some (text, rest) ↔
      ∃ body, Body body ∧ '\n' ∉ body ∧ text = '"' :: (body ++ ['"']) ∧ cs = text ++ rest := by
  constructor
  · intro h
    unfold splitLiteral? at h
    split at h
    · obtain ⟨body, held, line, rfl, rfl⟩ := closeFromSource h
      exact ⟨body, (bodyIff body).mpr held, line, rfl, by simp⟩
    · cases h
  · rintro ⟨body, valid, line, rfl, rfl⟩
    simpa [splitLiteral?] using closeFromHeld ((bodyIff body).mp valid) line ['"'] rest

theorem stripLiteral (body : List Char) : stripQuotes ('"' :: (body ++ ['"'])) = body := by
  simp [stripQuotes]

theorem balancedFromClosed (previous : Char) (cs : List Char) :
    balancedFrom false previous cs = balanced cs := by
  cases cs <;> simp [balanced, balancedFrom]

theorem balancedPlain {cs : List Char} (plain : '"' ∉ cs) (rest : List Char) :
    balanced (cs ++ rest) = balanced rest := by
  induction cs with
  | nil => rfl
  | cons c cs ih =>
    rw [List.mem_cons, not_or] at plain
    have other : c ≠ '"' := Ne.symm plain.1
    rw [List.cons_append, balanced, balancedFrom]
    simp only [other, false_and, ↓reduceIte]
    rw [balancedFromClosed, ih plain.2]

theorem balancedOpen {previous : Char} {body : List Char} (held : Held previous body)
    (rest : List Char) : balancedFrom true previous (body ++ '"' :: rest) = balanced rest := by
  induction body generalizing previous with
  | nil =>
    have closing : previous ≠ '\\' := held
    simp [balancedFrom, closing, balancedFromClosed]
  | cons c body ih =>
    obtain ⟨quote, later⟩ := held
    have kept : ¬(c = '"' ∧ ¬(true = true ∧ previous = '\\')) := fun h => h.2 ⟨rfl, quote h.1⟩
    rw [List.cons_append, balancedFrom, if_neg kept, ih later]

theorem balancedLiteral {body : List Char} (valid : Body body) (rest : List Char) :
    balanced ('"' :: (body ++ ['"']) ++ rest) = balanced rest := by
  have opened : balanced ('"' :: (body ++ '"' :: rest)) =
      balancedFrom true '"' (body ++ '"' :: rest) := by simp [balanced, balancedFrom]
  simpa [opened] using balancedOpen ((bodyIff body).mp valid) rest

theorem escapeCons (c : Char) (cs : List Char) :
    escape (c :: cs) = if c = '"' then '\\' :: '"' :: escape cs else c :: escape cs := by
  simp only [escape, List.flatMap_cons]
  split <;> rfl

theorem unescapeCons (c : Char) (cs : List Char) :
    unescape (c :: cs) =
      if c = '\\' ∧ cs.head? = some '"' then unescape cs else c :: unescape cs := by
  have ahead : (cs.foldr unescapeStep (none, [])).1 = cs.head? := by cases cs <;> rfl
  simp only [unescape, List.foldr_cons, unescapeStep, ahead]

theorem escapeHead (cs : List Char) : (escape cs).head? ≠ some '"' := by
  cases cs with
  | nil => simp [escape]
  | cons c cs =>
    rw [escapeCons]
    split
    · simp
    · next other => simpa using other

theorem unescapeEscape (cs : List Char) : unescape (escape cs) = cs := by
  induction cs with
  | nil => rfl
  | cons c cs ih =>
    rw [escapeCons]
    split
    · next quote => simp [unescapeCons, ih, quote]
    · rw [unescapeCons, if_neg (fun h => escapeHead cs h.2), ih]

theorem escapeHeld {previous : Char} {cs : List Char}
    (closable : cs.getLast?.getD previous ≠ '\\') : Held previous (escape cs) := by
  induction cs generalizing previous with
  | nil => exact closable
  | cons c cs ih =>
    rw [List.getLast?_cons, Option.getD_some] at closable
    rw [escapeCons]
    split
    · next quote =>
      subst quote
      exact ⟨by simp, fun _ => rfl, ih closable⟩
    · next other => exact ⟨fun quote => absurd quote other, ih closable⟩

theorem escapeBody {cs : List Char} (closable : cs.getLast? ≠ some '\\') : Body (escape cs) := by
  refine (bodyIff _).mpr (escapeHeld ?_)
  cases last : cs.getLast? with
  | none => simp
  | some c => simpa [last] using closable

theorem escapeLine {cs : List Char} (line : '\n' ∉ cs) : '\n' ∉ escape cs := by
  intro inside
  obtain ⟨c, member, here⟩ := List.mem_flatMap.mp inside
  split at here
  · simp at here
  · have same : '\n' = c := List.mem_singleton.mp here
    exact line (same ▸ member)

end MathTokens.Quoted

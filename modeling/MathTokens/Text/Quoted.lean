/-! Text between double quotes. A quote inside is written with a backslash before it; a backslash
anywhere else stands for itself. -/
namespace MathTokens.Quoted

def escape (cs : List Char) : List Char := cs.flatMap fun c => if c = '"' then ['\\', '"'] else [c]

def unescapeStep (c : Char) (state : Option Char × List Char) : Option Char × List Char :=
  (some c, if c = '\\' ∧ state.1 = some '"' then state.2 else c :: state.2)

def unescape (cs : List Char) : List Char := (cs.foldr unescapeStep (none, [])).2

/-- Whether no quote is left open. In an open literal a quote after a backslash does not close it. -/
def balancedFrom (isOpen : Bool) (previous : Char) : List Char → Bool
  | [] => !isOpen
  | c :: cs =>
    balancedFrom (if c = '"' ∧ ¬(isOpen ∧ previous = '\\') then !isOpen else isOpen) c cs

def balanced (cs : List Char) : Bool := balancedFrom false '\x00' cs

def closeFrom (previous : Char) (taken : List Char) : List Char → Option (List Char × List Char)
  | [] => none
  | c :: cs =>
    if c = '\n' then none
    else if c = '"' ∧ previous ≠ '\\' then some ((c :: taken).reverse, cs)
    else closeFrom c (c :: taken) cs

def splitLiteral? : List Char → Option (List Char × List Char)
  | '"' :: cs => closeFrom '"' ['"'] cs
  | _ => none

def stripQuotes : List Char → List Char
  | '"' :: cs => if cs.getLast? = some '"' then cs.dropLast else '"' :: cs
  | cs => cs

theorem closeFromWhole {previous : Char} {taken cs text rest : List Char}
    (h : closeFrom previous taken cs = some (text, rest)) :
    ∃ body, text = taken.reverse ++ body ∧ cs = body ++ rest ∧ body ≠ [] := by
  induction cs generalizing previous taken with
  | nil => cases h
  | cons c cs ih =>
    rw [closeFrom] at h
    split at h
    · cases h
    · split at h
      · cases h; exact ⟨[c], by simp⟩
      · obtain ⟨body, rfl, rfl, -⟩ := ih h
        exact ⟨c :: body, by simp⟩

theorem splitLiteralWhole {cs text rest : List Char}
    (h : splitLiteral? cs = some (text, rest)) : cs = text ++ rest ∧ text ≠ [] := by
  unfold splitLiteral? at h
  split at h
  · obtain ⟨body, rfl, rfl, -⟩ := closeFromWhole h
    simp
  · cases h

end MathTokens.Quoted

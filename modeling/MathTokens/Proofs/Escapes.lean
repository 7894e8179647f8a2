import MathTokens.Proofs.QuoteScans

/-! Escaping and what undoes it. Each is a replacement, from the left, of texts that do not overlap. The
two are inverse wherever every quote has its backslash, and the scan for a literal reads back what was
written unless the content runs into the closing quote or off the line. -/
namespace MathTokens

namespace Text

/- Replaces the occurrences of a pattern that do not begin inside an earlier one. Of the last one met,
`passing` characters are still to be passed over. -/
def replaceFrom (pattern replacement : List Char) : Nat → List Char → List Char
  | _, [] => []
  | passing + 1, _ :: cs => replaceFrom pattern replacement passing cs
  | 0, c :: cs =>
    if pattern.isPrefixOf (c :: cs) then
      replacement ++ replaceFrom pattern replacement (pattern.length - 1) cs
    else c :: replaceFrom pattern replacement 0 cs

def replace (pattern replacement cs : List Char) : List Char :=
  replaceFrom pattern replacement 0 cs

variable {pattern : List Char} (replacement : List Char)

theorem replacePassing (front cs : List Char) :
    replaceFrom pattern replacement front.length (front ++ cs) = replace pattern replacement cs := by
  induction front with
  | nil => rfl
  | cons c front ih => exact ih

theorem replaceHit (nonempty : pattern ≠ []) (cs : List Char) :
    replace pattern replacement (pattern ++ cs) = replacement ++ replace pattern replacement cs := by
  cases pattern with
  | nil => exact absurd rfl nonempty
  | cons p ps =>
    have hit : (p :: ps).isPrefixOf (p :: (ps ++ cs)) :=
      List.isPrefixOf_iff_prefix.mpr ⟨cs, rfl⟩
    rw [List.cons_append, replace, replaceFrom, if_pos hit, List.length_cons, Nat.add_sub_cancel,
      replacePassing]

theorem replaceMiss {c : Char} {cs : List Char} (missed : ¬pattern <+: c :: cs) :
    replace pattern replacement (c :: cs) = c :: replace pattern replacement cs :=
  if_neg (mt List.isPrefixOf_iff_prefix.mp missed)

end Text

namespace Quoted

theorem escapeReplaces (cs : List Char) : escape cs = Text.replace ['"'] ['\\', '"'] cs := by
  induction cs with
  | nil => rfl
  | cons c cs ih =>
    rw [escapeCons, ih]
    split
    · next quote =>
      subst quote
      exact (Text.replaceHit ['\\', '"'] (List.cons_ne_nil '"' []) cs).symm
    · next other => exact (Text.replaceMiss _ (by simpa using Ne.symm other)).symm

theorem unescapeReplaces (cs : List Char) : unescape cs = Text.replace ['\\', '"'] ['"'] cs := by
  match cs with
  | [] => rfl
  | c :: cs =>
    rw [unescapeCons]
    split
    · next pair =>
      obtain ⟨rfl, ahead⟩ := pair
      obtain ⟨rest, rfl⟩ := List.head?_eq_some_iff.mp ahead
      rw [unescapeCons, if_neg (by simp), unescapeReplaces rest]
      exact (Text.replaceHit ['"'] (List.cons_ne_nil '\\' ['"']) rest).symm
    · next apart =>
      rw [unescapeReplaces cs]
      refine (Text.replaceMiss _ fun met => apart ?_).symm
      obtain ⟨rest, same⟩ := met
      cases same
      exact ⟨rfl, rfl⟩
termination_by cs.length

def Shielded (cs : List Char) : Prop :=
  ∀ before after, cs = before ++ '"' :: after → before.getLast? = some '\\'

theorem shieldedBehind (front : List Char) {cs : List Char} (h : Shielded (front ++ cs))
    (apart : front.getLast? = some '\\' → cs.head? ≠ some '"') : Shielded cs := by
  intro before after split
  have found := h (front ++ before) after (by rw [split, List.append_assoc])
  rw [List.getLast?_append] at found
  cases before with
  | nil =>
    subst split
    exact absurd rfl (apart found)
  | cons b before => simpa [List.getLast?_cons] using found

theorem shieldedEscape (cs : List Char) : Shielded (escape cs) := by
  intro before after split
  have body : Body (escape (cs ++ [' '])) := escapeBody (by simp)
  have longer : escape (cs ++ [' ']) = before ++ '"' :: (after ++ [' ']) := by
    rw [escape, List.flatMap_append, ← escape, split]
    simp
  exact body.escaped before (after ++ [' ']) longer

theorem escapeUnescape (cs : List Char) (shielded : Shielded cs) : escape (unescape cs) = cs := by
  match cs with
  | [] => rfl
  | c :: cs =>
    by_cases pair : c = '\\' ∧ cs.head? = some '"'
    · obtain ⟨rfl, ahead⟩ := pair
      obtain ⟨rest, rfl⟩ := List.head?_eq_some_iff.mp ahead
      have behind : Shielded rest := shieldedBehind ['\\', '"'] shielded (by simp)
      rw [unescapeCons, if_pos ⟨rfl, rfl⟩, unescapeCons, if_neg (by simp), escapeCons, if_pos rfl,
        escapeUnescape rest behind]
    · have plain : c ≠ '"' := by
        rintro rfl
        cases shielded [] cs rfl
      have behind : Shielded cs := by
        refine shieldedBehind [c] shielded fun last ahead => pair ⟨?_, ahead⟩
        simpa using last
      rw [unescapeCons, if_neg pair, escapeCons, if_neg plain, escapeUnescape cs behind]
termination_by cs.length

theorem escapeUnescapeIff (cs : List Char) : escape (unescape cs) = cs ↔ Shielded cs := by
  refine ⟨fun same => ?_, escapeUnescape cs⟩
  rw [← same]
  exact shieldedEscape (unescape cs)

theorem escapeLast (cs : List Char) : (escape cs).getLast? = cs.getLast? := by
  induction cs with
  | nil => rfl
  | cons c cs ih =>
    rw [escapeCons]
    split
    · next quote => simp [List.getLast?_cons, ih, quote]
    · simp [List.getLast?_cons, ih]

theorem escapeBodyIff (cs : List Char) : Body (escape cs) ↔ cs.getLast? ≠ some '\\' := by
  refine ⟨fun body => ?_, escapeBody⟩
  rw [← escapeLast]
  exact body.closable

theorem escapeLineIff (cs : List Char) : '\n' ∉ escape cs ↔ '\n' ∉ cs := by
  refine ⟨fun line inside => line ?_, escapeLine⟩
  refine List.mem_flatMap.mpr ⟨'\n', inside, ?_⟩
  rw [if_neg (by decide)]
  exact List.mem_singleton_self _

theorem textString (s : String) :
    (Token.string s).text.toList = Part.chars (.literal (escape s.toList)) :=
  String.toList_ofList

theorem buildWritten (limits : Limits.Lexical) (s : String) :
    buildString limits (Token.string s).text.toList =
      if Text.byteLength s.toList ≤ limits.stringSize then .ok (.string s)
      else .error (.stringTooLarge (Text.byteLength s.toList) limits.stringSize) := by
  rw [textString, Part.chars, buildString]
  simp only [stripLiteral, unescapeEscape, String.ofList_toList]
  by_cases fits : Text.byteLength s.toList ≤ limits.stringSize
  · rw [if_neg (Nat.not_lt.mpr fits), if_pos fits]
  · rw [if_pos (Nat.lt_of_not_le fits), if_neg fits]

theorem literalLengthWritten (s : String) (rest : List Char) :
    Bytes.literalLength? (Bytes.encode ((Token.string s).text.toList ++ rest)) =
        some (Text.byteLength (Token.string s).text.toList) ↔
      '\n' ∉ s.toList ∧ s.toList.getLast? ≠ some '\\' := by
  rw [literalLengthIff, ← escapeLineIff, ← escapeBodyIff, textString]
  constructor
  · rintro ⟨body, after, front, valid, line⟩
    rw [Text.splitAtByteAppend, Option.some.injEq, Prod.mk.injEq] at front
    obtain ⟨rfl⟩ : escape s.toList = body := by simpa [Part.chars] using front.1
    exact ⟨line, valid⟩
  · rintro ⟨line, valid⟩
    exact ⟨escape s.toList, rest, Text.splitAtByteAppend _ rest, valid, line⟩

end Quoted

theorem escapingInverts (limits : Limits.Lexical) :
    (∀ cs, Quoted.escape cs = Text.replace ['"'] ['\\', '"'] cs) ∧
    (∀ cs, Quoted.unescape cs = Text.replace ['\\', '"'] ['"'] cs) ∧
    (∀ cs, Quoted.unescape (Quoted.escape cs) = cs) ∧
    (∀ cs, Quoted.escape (Quoted.unescape cs) = cs ↔ Quoted.Shielded cs) ∧
    (∀ s : String, buildString limits (Token.string s).text.toList =
      if Text.byteLength s.toList ≤ limits.stringSize then .ok (.string s)
      else .error (.stringTooLarge (Text.byteLength s.toList) limits.stringSize)) ∧
    ∀ (s : String) rest,
      Bytes.literalLength? (Bytes.encode ((Token.string s).text.toList ++ rest)) =
          some (Text.byteLength (Token.string s).text.toList) ↔
        '\n' ∉ s.toList ∧ s.toList.getLast? ≠ some '\\' :=
  ⟨Quoted.escapeReplaces, Quoted.unescapeReplaces, Quoted.unescapeEscape, Quoted.escapeUnescapeIff,
    Quoted.buildWritten limits, Quoted.literalLengthWritten⟩

example : Quoted.unescape ['\\', '\\', '"'] = ['\\', '"'] := by decide

end MathTokens

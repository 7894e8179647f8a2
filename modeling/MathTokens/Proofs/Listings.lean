import MathTokens.Proofs.Normalising
import MathTokens.Proofs.Rows
import MathTokens.Proofs.Whereabouts

/-! What the plain listing of the tokens tells. Each token has a line of its own. Its columns are no
fixed slices, since a span may be wider than its column, but each ends at its first blank, and what
stands behind the last is the text of the token, which no line feed can break. -/
namespace MathTokens

/-! Printed lines can be told apart again if none of them is broken. -/

theorem printedChars (lines : List String) :
    (printed lines).toList = fedRows (lines.map String.toList) := by
  induction lines with
  | nil => rfl
  | cons line lines ih => simp [ih]

theorem linesPlain {lines : List String} (plain : ∀ line ∈ lines, OneLine line) :
    ∀ row ∈ lines.map String.toList, '\n' ∉ row := by
  intro row member
  obtain ⟨line, inside, rfl⟩ := List.mem_map.mp member
  exact plain line inside

theorem printedCount {lines : List String} (plain : ∀ line ∈ lines, OneLine line) :
    (printed lines).toList.count '\n' = lines.length := by
  rw [printedChars, fedRowsCount (linesPlain plain), List.length_map]

theorem printedIff {lines lines' : List String} (plain : ∀ line ∈ lines, OneLine line)
    (plain' : ∀ line ∈ lines', OneLine line) :
    printed lines = printed lines' ↔ lines = lines' := by
  refine ⟨fun same => ?_, congrArg printed⟩
  have rows := congrArg (fun s : String => s.toList.splitOn '\n') same
  simp only [printedChars, fedRowsSplit (linesPlain plain),
    fedRowsSplit (linesPlain plain')] at rows
  have injective : Function.Injective String.toList := fun _ _ => String.toList_injective
  exact List.map_injective_iff.mpr injective (List.append_cancel_right rows)

theorem mapsAlike {α β γ : Type} {f : α → β} {g : α → γ} {xs ys : List α}
    (alike : ∀ x ∈ xs, ∀ y ∈ ys, f x = f y ↔ g x = g y) :
    xs.map f = ys.map f ↔ xs.map g = ys.map g := by
  induction xs generalizing ys with
  | nil => simp
  | cons x xs ih =>
    cases ys with
    | nil => simp
    | cons y ys =>
      have first := alike x (by simp) y (by simp)
      have later : xs.map f = ys.map f ↔ xs.map g = ys.map g :=
        ih fun a inside b inside' => alike a (by simp [inside]) b (by simp [inside'])
      simp only [List.map_cons, List.cons.injEq, first, later]

theorem pairsIff {α β γ : Type} (f : α → β) (g : α → γ) (xs ys : List α) :
    xs.map (fun x => (f x, g x)) = ys.map (fun y => (f y, g y)) ↔
      xs.map f = ys.map f ∧ xs.map g = ys.map g := by
  rw [← List.zip_map', ← List.zip_map']
  constructor
  · intro same
    have firsts := congrArg (List.map Prod.fst) same
    have seconds := congrArg (List.map Prod.snd) same
    simpa [List.map_fst_zip, List.map_snd_zip] using And.intro firsts seconds
  · rintro ⟨firsts, seconds⟩
    rw [firsts, seconds]

/-! What the columns hold, and what stands behind them. -/

theorem Kind.textInjective {j k : Kind} (same : j.text = k.text) : j = k := by
  cases j <;> cases k <;> first | rfl | exact absurd same (by decide)

theorem Kind.textSolid (k : Kind) : ' ' ∉ k.text.toList := by
  cases k <;> decide

theorem Token.textInjective {limits limits' : Limits.Lexical} {t u : Token}
    (one : t.WellFormed limits) (two : u.WellFormed limits') (kind : t.kind = u.kind)
    (same : t.text = u.text) : t = u := by
  cases t with
  | name s =>
    cases u with
    | name s' => exact congrArg name same
    | _ => cases kind
  | string s =>
    cases u with
    | string s' =>
      have quoted := (List.cons.inj (String.ofList_injective same)).2
      have content := congrArg Quoted.unescape (List.append_cancel_right quoted)
      rw [Quoted.unescapeEscape, Quoted.unescapeEscape] at content
      rw [String.toList_injective content]
    | _ => cases kind
  | number d =>
    cases u with
    | number d' =>
      have value : d.text = d'.text := same
      rw [← (Double.wholeText one).value, value, (Double.wholeText two).value]
    | _ => cases kind
  | symbol c =>
    cases u with
    | symbol c' =>
      have chars := congrArg String.toList same
      rw [text, text, String.toList_singleton, String.toList_singleton] at chars
      rw [(List.cons.inj chars).1]
    | _ => cases kind

namespace Span

def places (s : Span) : (Nat × Nat) × (Nat × Nat) :=
  ((s.start.line, s.start.column), (s.stop.line, s.stop.column))

def ending (s : Span) : List Char :=
  if s.start.line = s.stop.line then Nat.toDigits 10 s.stop.column else s.stop.text.toList

theorem textChars (s : Span) : s.text.toList = s.start.text.toList ++ '-' :: s.ending := by
  unfold text ending
  split
  · rw [Position.textChars]
    simp only [toString, String.toList_append, Nat.toList_repr]
    simp
  · simp only [toString, String.toList_append]
    simp

def PlaceChar (c : Char) : Prop := isDigit c ∨ c = ':'
instance (c : Char) : Decidable (PlaceChar c) := by unfold PlaceChar; infer_instance

theorem positionChars (p : Position) : ∀ c ∈ p.text.toList, PlaceChar c := by
  intro c member
  rw [Position.textChars, List.mem_append, List.mem_cons] at member
  rcases member with digit | rfl | digit
  · exact .inl (toDigitsDigits _ c digit)
  · exact .inr rfl
  · exact .inl (toDigitsDigits _ c digit)

theorem endingChars (s : Span) : ∀ c ∈ s.ending, PlaceChar c := by
  unfold ending
  split
  · exact fun c digit => .inl (toDigitsDigits _ c digit)
  · exact positionChars s.stop

theorem textCases (s : Span) : ∀ c ∈ s.text.toList, PlaceChar c ∨ c = '-' := by
  intro c member
  rw [textChars, List.mem_append, List.mem_cons] at member
  rcases member with start | dash | ending
  · exact .inl (positionChars s.start c start)
  · exact .inr dash
  · exact .inl (endingChars s c ending)

theorem textSolid (s : Span) : ' ' ∉ s.text.toList := by
  intro blank
  exact absurd (textCases s ' ' blank) (by decide)

theorem textOneLine (s : Span) : OneLine s.text := by
  intro feed
  exact absurd (textCases s '\n' feed) (by decide)

theorem endingIff {s t : Span} (line : s.start.line = t.start.line) :
    s.ending = t.ending ↔ s.stop.line = t.stop.line ∧ s.stop.column = t.stop.column := by
  have colon (p : Position) (n : Nat) : p.text.toList ≠ Nat.toDigits 10 n := by
    intro same
    have member : ':' ∈ p.text.toList := by simp [Position.textChars]
    rw [same] at member
    exact absurd (toDigitsDigits n ':' member) (by decide)
  unfold ending
  split
  · next short =>
    split
    · next short' =>
      have same : s.stop.line = t.stop.line := by omega
      exact ⟨fun digits => ⟨same, toDigitsInjective digits⟩, fun h => by rw [h.2]⟩
    · next long =>
      exact ⟨fun mixed => absurd mixed.symm (colon _ _), fun h => absurd h.1 (by omega)⟩
  · next long =>
    split
    · next short =>
      exact ⟨fun mixed => absurd mixed (colon _ _), fun h => absurd h.1 (by omega)⟩
    · rw [String.toList_inj, Position.textIff]

theorem textIff (s t : Span) : s.text = t.text ↔ s.places = t.places := by
  have free (p : Position) : '-' ∉ p.text.toList := fun dash =>
    absurd (positionChars p '-' dash) (by decide)
  rw [← String.toList_inj, textChars, textChars, markIff (free _) (free _), String.toList_inj,
    Position.textIff, places, places, Prod.mk.injEq, Prod.mk.injEq, Prod.mk.injEq]
  exact and_congr_right fun start => endingIff start.1

end Span

namespace CommandLine

def column (width : Nat) (s : String) : String := Text.pad .left width s ++ " "

def tokenRow (withSpan : Bool) (t : LocatedToken) : String :=
  if withSpan then
    column 8 t.span.text ++ (column 10 t.value.kind.text ++ t.value.text)
  else column 7 t.value.kind.text ++ t.value.text

theorem tokenLineRow (withSpan : Bool) (t : LocatedToken) :
    tokenLine withSpan t = tokenRow withSpan t ++ "\n" := by
  cases withSpan with
  | false => rfl
  | true => simp only [tokenLine, tokenRow, column, if_true, String.append_assoc]

theorem listingPrinted (withSpans : Bool) (ts : List LocatedToken) :
    listing false withSpans ts = printed (ts.map (tokenRow withSpans)) := by
  have lines (out : String) : ts.foldl (fun out t => out ++ tokenLine withSpans t) out =
      out ++ printed (ts.map (tokenRow withSpans)) := by
    induction ts generalizing out with
    | nil => simp
    | cons t ts ih =>
      rw [List.foldl_cons, ih, tokenLineRow, List.map_cons, printedCons, String.append_assoc]
  simpa [listing] using lines ""

theorem columnChars (width : Nat) (s : String) :
    (column width s).toList = s.toList ++ ' ' :: List.replicate (width - s.length) ' ' := by
  rw [column, Text.pad, Text.spaces, String.toList_append, String.toList_append,
    String.toList_ofList, List.append_assoc, ← List.replicate_succ, List.replicate_succ']
  rfl

/- Whatever its width, a column ends at its first blank. -/
theorem columnIff {width : Nat} {s t rest rest' : String} (solid : ' ' ∉ s.toList)
    (solid' : ' ' ∉ t.toList) :
    column width s ++ rest = column width t ++ rest' ↔ s = t ∧ rest = rest' := by
  constructor
  · intro same
    have chars := congrArg String.toList same
    simp only [String.toList_append, columnChars, List.append_assoc, List.cons_append] at chars
    have field : s = t := String.toList_injective ((markIff solid solid').mp chars).1
    rw [field, String.append_right_inj] at same
    exact ⟨field, same⟩
  · rintro ⟨rfl, rfl⟩
    rfl

theorem columnOneLine {width : Nat} {s : String} (plain : OneLine s) :
    OneLine (column width s) := by
  intro feed
  rw [columnChars, List.mem_append, List.mem_cons] at feed
  rcases feed with inside | blank | filling
  · exact plain inside
  · exact absurd blank (by decide)
  · exact absurd (List.eq_of_mem_replicate filling) (by decide)

variable {limits limits' : Limits.Lexical}

theorem rowOneLine {t : LocatedToken} (wellFormed : t.value.WellFormed limits) (withSpan : Bool) :
    OneLine (tokenRow withSpan t) := by
  have text : OneLine t.value.text := Token.textLine wellFormed
  have kind (width : Nat) : OneLine (column width t.value.kind.text) :=
    columnOneLine (oneLineKind t.value.kind)
  cases withSpan with
  | false => exact (oneLineAppend _ _).mpr ⟨kind 7, text⟩
  | true =>
    have span : OneLine (column 8 t.span.text) := columnOneLine t.span.textOneLine
    exact (oneLineAppend _ _).mpr ⟨span, (oneLineAppend _ _).mpr ⟨kind 10, text⟩⟩

theorem fieldsIff {width : Nat} {t u : Token} (one : t.WellFormed limits)
    (two : u.WellFormed limits') :
    column width t.kind.text ++ t.text = column width u.kind.text ++ u.text ↔ t = u := by
  rw [columnIff (Kind.textSolid _) (Kind.textSolid _)]
  constructor
  · rintro ⟨kind, text⟩
    exact Token.textInjective one two (Kind.textInjective kind) text
  · rintro rfl
    exact ⟨rfl, rfl⟩

theorem bareRowIff {t u : LocatedToken} (one : t.value.WellFormed limits)
    (two : u.value.WellFormed limits') :
    tokenRow false t = tokenRow false u ↔ t.value = u.value :=
  fieldsIff one two

theorem placedRowIff {t u : LocatedToken} (one : t.value.WellFormed limits)
    (two : u.value.WellFormed limits') :
    tokenRow true t = tokenRow true u ↔
      (t.value, t.span.places) = (u.value, u.span.places) := by
  have fields : column 10 t.value.kind.text ++ t.value.text =
      column 10 u.value.kind.text ++ u.value.text ↔ t.value = u.value := fieldsIff one two
  rw [Prod.mk.injEq, and_comm, ← Span.textIff, ← fields]
  exact columnIff t.span.textSolid u.span.textSolid

/-! The listings of two lists of tokens that may come from different passes. -/

variable {ts us : List LocatedToken} (one : ∀ t ∈ ts, t.value.WellFormed limits)
  (two : ∀ u ∈ us, u.value.WellFormed limits')
include one

theorem rowsOneLine (withSpans : Bool) : ∀ row ∈ ts.map (tokenRow withSpans), OneLine row := by
  intro row member
  obtain ⟨t, inside, rfl⟩ := List.mem_map.mp member
  exact rowOneLine (one t inside) withSpans

theorem listingCount (withSpans : Bool) :
    (listing false withSpans ts).toList.count '\n' = ts.length := by
  rw [listingPrinted, printedCount (rowsOneLine one withSpans), List.length_map]

include two

theorem bareListingIff :
    listing false false ts = listing false false us ↔
      ts.map Located.value = us.map Located.value := by
  rw [listingPrinted, listingPrinted, printedIff (rowsOneLine one _) (rowsOneLine two _)]
  exact mapsAlike fun t inside u inside' => bareRowIff (one t inside) (two u inside')

theorem placedListingIff :
    listing false true ts = listing false true us ↔
      ts.map Located.value = us.map Located.value ∧
        ts.map (fun t => t.span.places) = us.map (fun u => u.span.places) := by
  rw [listingPrinted, listingPrinted, printedIff (rowsOneLine one _) (rowsOneLine two _),
    ← pairsIff]
  exact mapsAlike fun t inside u inside' => placedRowIff (one t inside) (two u inside')

end CommandLine

theorem Pass.tokensWellFormed {limits : Limits} {settings : Settings.Lexical} {elapsed : Nat}
    {source : List Char} {tape : Tape}
    (read : (run limits settings elapsed source).result = .ok tape) :
    ∀ t ∈ tape.tokens.toList, t.value.WellFormed limits.lexical := by
  obtain ⟨d, valid, _, rfl⟩ := runLayoutIff.mp read
  rw [Tape.ofList, List.toList_toArray, Layout.tokens]
  intro t member
  refine piecesWellFormed valid.pieces t.value ?_
  rw [← Piece.locatedTokens]
  exact List.mem_map_of_mem member

theorem listingsTellTokens {limits limits' : Limits} (settings settings' : Settings.Lexical)
    (elapsed elapsed' : Nat) (source source' : List Char) {tape tape' : Tape}
    (read : (Pass.run limits settings elapsed source).result = .ok tape)
    (read' : (Pass.run limits' settings' elapsed' source').result = .ok tape') :
    let ts := tape.tokens.toList
    let us := tape'.tokens.toList
    (∀ withSpans,
      CommandLine.listing false withSpans ts =
        printed (ts.map (CommandLine.tokenRow withSpans)) ∧
      (∀ row ∈ ts.map (CommandLine.tokenRow withSpans), OneLine row) ∧
      (CommandLine.listing false withSpans ts).toList.count '\n' = ts.length) ∧
    (CommandLine.listing false false ts = CommandLine.listing false false us ↔
      ts.map Located.value = us.map Located.value) ∧
    (CommandLine.listing false true ts = CommandLine.listing false true us ↔
      ts.map Located.value = us.map Located.value ∧
        ts.map (fun t => t.span.places) = us.map (fun u => u.span.places)) := by
  intro ts us
  have one := Pass.tokensWellFormed read
  have two := Pass.tokensWellFormed read'
  refine ⟨fun withSpans => ⟨?_, ?_, ?_⟩, ?_, ?_⟩
  · exact CommandLine.listingPrinted withSpans ts
  · exact CommandLine.rowsOneLine one withSpans
  · exact CommandLine.listingCount one withSpans
  · exact CommandLine.bareListingIff one two
  · exact CommandLine.placedListingIff one two

theorem zerosListedAlike :
    ∃ tape tape',
      (Pass.run .production (.ofEnvironment []) 0 "a 007".toList).result = .ok tape ∧
      (Pass.run .development (.ofEnvironment []) 0 "a\n7".toList).result = .ok tape' ∧
      CommandLine.listing false false tape.tokens.toList = "Name    a\nNumber  7\n" ∧
      CommandLine.listing false false tape'.tokens.toList = "Name    a\nNumber  7\n" ∧
      CommandLine.listing false true tape.tokens.toList ≠
        CommandLine.listing false true tape'.tokens.toList := by
  have scanned : (Scanner.start .production (.ofEnvironment []) "a 007".toList).drain.answer =
      .ok [⟨.name "a", ⟨⟨0, 1, 1⟩, ⟨1, 1, 2⟩⟩⟩,
        ⟨.number (Double.ofNat 7), ⟨⟨2, 1, 3⟩, ⟨5, 1, 6⟩⟩⟩] := by
    decide +kernel
  have scanned' : (Scanner.start .development (.ofEnvironment []) "a\n7".toList).drain.answer =
      .ok [⟨.name "a", ⟨⟨0, 1, 1⟩, ⟨1, 1, 2⟩⟩⟩,
        ⟨.number (Double.ofNat 7), ⟨⟨2, 2, 1⟩, ⟨3, 2, 2⟩⟩⟩] := by
    decide +kernel
  have read : (Pass.run .production (.ofEnvironment []) 0 "a 007".toList).result = .ok _ :=
    Pass.runOkIff.mpr ⟨_, Scanner.drainOkIff.mp scanned, rfl⟩
  have read' : (Pass.run .development (.ofEnvironment []) 0 "a\n7".toList).result = .ok _ :=
    Pass.runOkIff.mpr ⟨_, Scanner.drainOkIff.mp scanned', rfl⟩
  obtain ⟨_, bare, placed⟩ := listingsTellTokens _ _ _ _ _ _ read read'
  have listed : CommandLine.listing false false
      [⟨.name "a", ⟨⟨0, 1, 1⟩, ⟨1, 1, 2⟩⟩⟩,
        ⟨.number (Double.ofNat 7), ⟨⟨2, 1, 3⟩, ⟨5, 1, 6⟩⟩⟩] = "Name    a\nNumber  7\n" := by
    decide +kernel
  refine ⟨_, _, read, read', listed, ?_, fun same => ?_⟩
  · rw [← bare.mpr rfl]
    exact listed
  · exact absurd (placed.mp same).2 (by decide)

end MathTokens

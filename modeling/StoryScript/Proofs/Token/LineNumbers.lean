import StoryScript.Proofs.Token.Lines
import StoryScript.Proofs.Token.LongestMatch

set_option autoImplicit false

namespace StoryScript

namespace Lexicon

-- A place of a piece in a text: the lexical grammar cuts the text into the pieces before it, the piece itself and
-- those after it.
structure Place (cs : List Char) (piece : Piece) where
  before : List Piece
  after : List Piece
  lexed : Lexed cs (before ++ piece :: after)

namespace Place

variable {cs : List Char} {piece : Piece}

def offset (place : Place cs piece) : Nat := (place.before.flatMap Piece.chars).length

def line (place : Place cs piece) (startLine : Nat) : Nat := startLine + (cs.take place.offset).count '\n'

def tokensBefore (place : Place cs piece) : Nat := (place.before.filterMap Piece.lexeme?).length

def complaintsBefore (place : Place cs piece) : Nat := (place.before.filterMap Piece.complaint?).length

theorem cut_there (place : Place cs piece) : pieces cs = place.before ++ piece :: place.after :=
  ((lexed_iff cs _).1 place.lexed).symm

theorem spelled (place : Place cs piece) :
    cs = place.before.flatMap Piece.chars ++ (piece.chars ++ place.after.flatMap Piece.chars) := by
  have whole := flatMap_chars_pieces cs
  rw [place.cut_there, List.flatMap_append, List.flatMap_cons] at whole
  exact whole.symm

theorem begins (place : Place cs piece) : piece.chars <+: cs.drop place.offset := by
  have later := congrArg (List.drop place.offset) place.spelled
  rw [offset, List.drop_left] at later
  exact ⟨place.after.flatMap Piece.chars, later.symm⟩

theorem line_eq (place : Place cs piece) (startLine : Nat) :
    place.line startLine = startLine + Piece.newlinesAll place.before := by
  have earlier := congrArg (List.take place.offset) place.spelled
  rw [offset, List.take_left] at earlier
  have counted : ∀ other ∈ place.before, other.Counted := by
    intro other member
    refine Piece.pieces_counted cs other ?_
    rw [place.cut_there]
    exact List.mem_append_left _ member
  rw [line, offset, earlier, Piece.newlinesAll_eq _ counted]

theorem wrapped_line (place : Place cs piece) (startLine : Nat) :
    place.before.foldl Piece.pass (wrapLine startLine) = wrapLine (place.line startLine) := by
  rw [Piece.foldl_pass, line_eq]

theorem line_le (place : Place cs piece) (startLine : Nat) : place.line startLine ≤ startLine + cs.count '\n' :=
  Nat.add_le_add_left ((List.take_sublist _ cs).count_le '\n') startLine

theorem line_end (place : Place cs piece) (startLine : Nat) (opened : piece.isOpen = true) :
    place.line startLine + piece.newlines = startLine + cs.count '\n' := by
  have nothing : place.after = [] := by
    by_contra some
    have inside : piece ∈ (place.before ++ piece :: place.after).dropLast := by
      rw [List.dropLast_append_cons, List.dropLast_cons_of_ne_nil some]
      exact List.mem_append_right _ List.mem_cons_self
    have closed := open_last cs _ place.lexed piece inside
    rw [opened] at closed
    cases closed
  have total := Piece.newlinesAll_pieces cs
  rw [place.cut_there, Piece.newlinesAll_split, nothing] at total
  rw [line_eq, ← total, Nat.add_assoc]
  rfl

end Place

-- The tokens that a text has, by their number: those of its pieces, each on the line of its first character, and
-- the end on the last line, with lines written as they are counted.
inductive TokenAt (counted : Nat → Nat) (cs : List Char) (startLine : Nat) : Nat → Token → Prop where
  | cut (kind : Kind) (lexeme : List Char) (place : Place cs (.token kind lexeme)) :
      TokenAt counted cs startLine place.tokensBefore
        (Token.spelled kind (String.ofList lexeme) (counted (place.line startLine)))
  | last (ps : List Piece) (lexed : Lexed cs ps) :
      TokenAt counted cs startLine (ps.filterMap Piece.lexeme?).length
        (Token.endAt (counted (startLine + cs.count '\n')))

-- What is wrong with a text, by its number. A string that is never closed is noticed at its quote, a comment at the
-- end of the text.
inductive DiagnosticAt (counted : Nat → Nat) (cs : List Char) (startLine : Nat) : Nat → Diagnostic → Prop where
  | invalid (c : Char) (place : Place cs (.invalid c)) :
      DiagnosticAt counted cs startLine place.complaintsBefore
        ((Complaint.invalidCharacter c).at (counted (place.line startLine)) .text)
  | openString (body : List Char) (place : Place cs (.openString body)) :
      DiagnosticAt counted cs startLine place.complaintsBefore
        (Complaint.unterminatedString.at (counted (place.line startLine)) .text)
  | openComment (body : List Char) (place : Place cs (.openComment body)) :
      DiagnosticAt counted cs startLine place.complaintsBefore
        (Complaint.unterminatedComment.at (counted (startLine + cs.count '\n')) .text)

theorem tokenAt_recounted (one other : Nat → Nat) (cs : List Char) (startLine : Nat)
    (agree : ∀ line ≤ startLine + cs.count '\n', one line = other line) (index : Nat) (t : Token)
    (found : TokenAt one cs startLine index t) : TokenAt other cs startLine index t := by
  cases found with
  | cut kind lexeme place =>
    rw [agree _ (place.line_le startLine)]
    exact .cut kind lexeme place
  | last ps lexed =>
    rw [agree _ (Nat.le_refl _)]
    exact .last ps lexed

theorem diagnosticAt_recounted (one other : Nat → Nat) (cs : List Char) (startLine : Nat)
    (agree : ∀ line ≤ startLine + cs.count '\n', one line = other line) (index : Nat) (d : Diagnostic)
    (found : DiagnosticAt one cs startLine index d) : DiagnosticAt other cs startLine index d := by
  cases found with
  | invalid c place =>
    rw [agree _ (place.line_le startLine)]
    exact .invalid c place
  | openString body place =>
    rw [agree _ (place.line_le startLine)]
    exact .openString body place
  | openComment body place =>
    rw [agree _ (Nat.le_refl _)]
    exact .openComment body place

end Lexicon

open Lexicon (Place TokenAt DiagnosticAt)

theorem length_collect_tokens (line : Nat) (ps : List Piece) :
    (Piece.collect Piece.token? line ps).length = (ps.filterMap Piece.lexeme?).length := by
  have lexemes := Piece.collect_map Piece.token? (fun t => (t.kind, t.lexeme.toList)) Piece.lexeme?
    (fun line piece => by cases piece <;> simp [Piece.token?, Piece.lexeme?]) line ps
  rw [← lexemes, List.length_map]

theorem length_collect_diagnostics (line : Nat) (ps : List Piece) :
    (Piece.collect Piece.diagnostic? line ps).length = (ps.filterMap Piece.complaint?).length := by
  have messages := Piece.collect_map Piece.diagnostic? Diagnostic.message
    (fun piece => (Piece.complaint? piece).map Complaint.message) (fun line piece => by cases piece <;> rfl) line ps
  rw [← List.length_map Complaint.message, List.map_filterMap, ← messages, List.length_map]

theorem collect_places {α β : Type} (view : Nat → Piece → Option α) (plain : Piece → Option β)
    (counts : ∀ line ps, (Piece.collect view line ps).length = (ps.filterMap plain).length) (cs : List Char)
    (startLine index : Nat) (found : α) :
    (Piece.collect view (wrapLine startLine) (pieces cs))[index]? = some found ↔
      ∃ piece, ∃ place : Place cs piece, (place.before.filterMap plain).length = index ∧
        view (wrapLine (place.line startLine)) piece = some found := by
  rw [Piece.getElem_collect]
  constructor
  · rintro ⟨before, piece, after, split, count, seen⟩
    refine ⟨piece, ⟨before, after, (Lexicon.lexed_iff cs _).2 split.symm⟩, ?_, ?_⟩
    · rw [← counts (wrapLine startLine), count]
    · rw [← Place.wrapped_line]
      exact seen
  · rintro ⟨piece, place, count, seen⟩
    refine ⟨place.before, piece, place.after, place.cut_there, ?_, ?_⟩
    · rw [counts, count]
    · rw [place.wrapped_line]
      exact seen

theorem getElem_concat {α : Type} (xs : List α) (last x : α) (index : Nat) :
    (xs ++ [last])[index]? = some x ↔ xs[index]? = some x ∨ xs.length = index ∧ last = x := by
  rw [List.getElem?_append]
  by_cases inside : index < xs.length
  · rw [if_pos inside]
    exact (or_iff_left fun atEnd => Nat.ne_of_gt inside atEnd.1).symm
  · rw [if_neg inside, List.getElem?_eq_none (Nat.le_of_not_lt inside), List.getElem?_singleton]
    by_cases atEnd : xs.length = index
    · simp [atEnd]
    · have beyond : index - xs.length ≠ 0 := by omega
      simp [atEnd, beyond]

theorem scan_token_at (text : String) (startLine index : Nat) (t : Token) :
    (scan text startLine).tokens[index]? = some t ↔ TokenAt wrapLine text.toList startLine index t := by
  have cut := collect_places Piece.token? Piece.lexeme? length_collect_tokens text.toList startLine index t
  rw [scan_tokens]
  refine (getElem_concat _ _ t index).trans ((or_congr_left cut).trans ?_)
  rw [tokensOf, length_collect_tokens]
  constructor
  · rintro (⟨piece, place, rfl, seen⟩ | ⟨rfl, rfl⟩)
    · cases piece with
      | token kind lexeme =>
        cases seen
        exact .cut kind lexeme place
      | _ => cases seen
    · exact .last _ (Lexicon.pieces_lexed text.toList)
  · rintro (⟨kind, lexeme, place⟩ | ⟨ps, lexed⟩)
    · exact Or.inl ⟨_, place, rfl, rfl⟩
    · rw [(Lexicon.lexed_iff _ ps).1 lexed]
      exact Or.inr ⟨rfl, rfl⟩

theorem scan_diagnostic_at (text : String) (startLine index : Nat) (d : Diagnostic) :
    (scan text startLine).diagnostics[index]? = some d ↔ DiagnosticAt wrapLine text.toList startLine index d := by
  have cut := collect_places Piece.diagnostic? Piece.complaint? length_collect_diagnostics text.toList startLine index d
  refine cut.trans ?_
  have ends : ∀ (body : List Char) (place : Place text.toList (.openComment body)),
      Piece.pass (wrapLine (place.line startLine)) (.openComment body) =
        wrapLine (startLine + text.toList.count '\n') :=
    fun body place => (wrapLine_add _ _).trans (congrArg wrapLine (place.line_end startLine rfl))
  constructor
  · rintro ⟨piece, place, rfl, seen⟩
    cases piece with
    | invalid c =>
      cases seen
      exact .invalid c place
    | openString body =>
      cases seen
      exact .openString body place
    | openComment body =>
      cases seen
      rw [ends body place]
      exact .openComment body place
    | _ => cases seen
  · rintro (⟨c, place⟩ | ⟨body, place⟩ | ⟨body, place⟩)
    · exact ⟨_, place, rfl, rfl⟩
    · exact ⟨_, place, rfl, rfl⟩
    · refine ⟨_, place, rfl, ?_⟩
      rw [← ends body place]
      rfl

-- The lines of a scan are those of the text: a piece stands where the grammar cuts it off, and its line is told by
-- the line ends before its first character, wrapped around where the numbers run out.
theorem scan_lines_are_exact (text : String) (startLine : Nat) :
    (∀ piece, ∀ place : Place text.toList piece, piece.chars <+: text.toList.drop place.offset ∧
      place.line startLine = startLine + (text.toList.take place.offset).count '\n') ∧
    (∀ index t, (scan text startLine).tokens[index]? = some t ↔ TokenAt wrapLine text.toList startLine index t) ∧
    (∀ index d, (scan text startLine).diagnostics[index]? = some d ↔
      DiagnosticAt wrapLine text.toList startLine index d) ∧
    (startLine + text.toList.count '\n' < lineLimit →
      (∀ index t, (scan text startLine).tokens[index]? = some t ↔ TokenAt id text.toList startLine index t) ∧
      ∀ index d, (scan text startLine).diagnostics[index]? = some d ↔
        DiagnosticAt id text.toList startLine index d) := by
  refine ⟨?_, scan_token_at text startLine, scan_diagnostic_at text startLine, ?_⟩
  · intro piece place
    exact ⟨place.begins, rfl⟩
  · intro fits
    have agree : ∀ line ≤ startLine + text.toList.count '\n', wrapLine line = id line :=
      fun line within => wrapLine_of_fits line (Nat.lt_of_le_of_lt within fits)
    have back : ∀ line ≤ startLine + text.toList.count '\n', id line = wrapLine line :=
      fun line within => (agree line within).symm
    refine ⟨fun index t => (scan_token_at text startLine index t).trans ?_,
      fun index d => (scan_diagnostic_at text startLine index d).trans ?_⟩
    · exact ⟨Lexicon.tokenAt_recounted _ _ _ _ agree index t, Lexicon.tokenAt_recounted _ _ _ _ back index t⟩
    · exact ⟨Lexicon.diagnosticAt_recounted _ _ _ _ agree index d, Lexicon.diagnosticAt_recounted _ _ _ _ back index d⟩

end StoryScript

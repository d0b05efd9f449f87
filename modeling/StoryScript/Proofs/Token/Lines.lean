import StoryScript.Token.Scan

set_option autoImplicit false

namespace StoryScript

theorem wrapLine_add (line more : Nat) : wrapLine (wrapLine line + more) = wrapLine (line + more) :=
  Nat.mod_add_mod line lineLimit more

theorem wrapLine_of_fits (line : Nat) (fits : line < lineLimit) : wrapLine line = line := Nat.mod_eq_of_lt fits

namespace Piece

def newlinesAll : List Piece → Nat
  | [] => 0
  | piece :: rest => piece.newlines + newlinesAll rest

-- The counter after some pieces tells how many lines end in them, as far as a word can tell.
theorem foldl_pass (line : Nat) (ps : List Piece) :
    ps.foldl pass (wrapLine line) = wrapLine (line + newlinesAll ps) := by
  induction ps generalizing line with
  | nil => rfl
  | cons piece rest ih =>
    have first : pass (wrapLine line) piece = wrapLine (line + piece.newlines) := wrapLine_add line _
    rw [List.foldl_cons, first, ih, newlinesAll, Nat.add_assoc]

def Counted (piece : Piece) : Prop := piece.newlines = piece.chars.count '\n'

theorem count_run (p : Char → Bool) (stops : p '\n' = false) (cs : List Char) : (cs.takeWhile p).count '\n' = 0 := by
  refine List.count_eq_zero.2 fun inside => ?_
  have passes := List.all_eq_true.1 List.all_takeWhile _ inside
  rw [stops] at passes
  cases passes

theorem count_cons_other (c : Char) (other : c ≠ '\n') (cs : List Char) : (c :: cs).count '\n' = cs.count '\n' :=
  List.count_cons_of_ne other

theorem cutString_counted (rest : List Char) : Counted (cutString rest).1 := by
  unfold cutString
  dsimp only
  split <;> rfl

theorem cutComment_counted (rest : List Char) : Counted (cutComment rest).1 := by
  unfold cutComment
  split <;> rfl

theorem count_fraction (rest : List Char) : (fraction rest).count '\n' = 0 := by
  unfold fraction
  split
  · split
    · rename_i c more digit
      have other : c ≠ '\n' := by
        rintro rfl
        cases digit
      rw [count_cons_other _ (by decide), count_cons_other c other, count_run _ rfl]
    · rfl
  · rfl

theorem cutNumber_counted (c : Char) (digit : c.isDigit = true) (rest : List Char) : Counted (cutNumber c rest).1 := by
  have other : c ≠ '\n' := by
    rintro rfl
    cases digit
  have none : (cutNumber c rest).1.chars.count '\n' = 0 := by
    simp only [cutNumber, chars]
    rw [count_cons_other c other, List.count_append, count_run _ rfl, count_fraction]
  rw [Counted, none]
  rfl

theorem keyword_other (kind : Kind) (word : List Char) (notName : Kind.identifier ≠ kind)
    (listed : ∀ entry ∈ keywords, entry.2 ≠ kind) : (keyword? word).getD .identifier ≠ kind := by
  cases found : keyword? word with
  | none => exact notName
  | some kind =>
    obtain ⟨before, after, same, _⟩ := List.lookup_eq_some_iff.1 found
    exact listed (String.ofList word, kind) (by rw [same]; exact List.mem_append_right _ List.mem_cons_self)

theorem newlines_token (kind : Kind) (lexeme : List Char) (other : kind ≠ .string) :
    (Piece.token kind lexeme).newlines = 0 := by
  cases kind with
  | string => exact absurd rfl other
  | _ => rfl

theorem cutWord_counted (c : Char) (letter : startsName c = true) (rest : List Char) : Counted (cutWord c rest).1 := by
  have other : c ≠ '\n' := by
    rintro rfl
    cases letter
  have none : (cutWord c rest).1.chars.count '\n' = 0 := by
    simp only [cutWord, chars]
    rw [count_cons_other c other, count_run _ rfl]
  rw [Counted, none]
  exact newlines_token _ _ (keyword_other .string _ (by decide) (by decide))

theorem cutSign_counted (c : Char) (other : c ≠ '\n') (rest : List Char) : Counted (cutSign c rest).1 := by
  have notString : sign? c ≠ some .string := by
    unfold sign?
    split <;> decide
  have notDoubled : signEqual? c ≠ some .string := by
    unfold signEqual?
    split <;> decide
  have single : ∀ kind, sign? c = some kind → Counted (.token kind [c]) := by
    intro kind found
    rw [Counted, newlines_token kind _ fun same => notString (same ▸ found)]
    simp [chars, other]
  have doubled : ∀ kind, signEqual? c = some kind → Counted (.token kind [c, '=']) := by
    intro kind found
    rw [Counted, newlines_token kind _ fun same => notDoubled (same ▸ found)]
    simp [chars, other]
  have stray : Counted (.invalid c) := by simp [Counted, newlines, chars, other]
  unfold cutSign
  dsimp only
  cases alone : sign? c with
  | none =>
    split
    · split
      · exact doubled _ ‹_›
      · exact stray
    · exact stray
  | some kind =>
    split
    · split
      · exact doubled _ ‹_›
      · exact single kind alone
    · exact single kind alone

theorem cutSlash_counted (rest : List Char) : Counted (cutSlash rest).1 := by
  unfold cutSlash
  split
  · rename_i after
    have none := count_run (· != '\n') rfl after
    simp [Counted, newlines, chars, none]
  · exact cutComment_counted _
  · exact cutSign_counted '/' (by decide) rest

theorem cut_counted (c : Char) (rest : List Char) : Counted (cut c rest).1 := by
  unfold cut
  split
  · rfl
  rename_i notNewline
  have other : c ≠ '\n' := by simpa using notNewline
  split
  · have none := count_run isSpace rfl rest
    simp [Counted, newlines, chars, none, other]
  split
  · exact cutString_counted rest
  split
  · rename_i digit
    exact cutNumber_counted c digit rest
  split
  · rename_i letter
    exact cutWord_counted c letter rest
  split
  · exact cutSlash_counted rest
  · exact cutSign_counted c other rest

theorem pieces_counted (cs : List Char) : ∀ piece ∈ pieces cs, Counted piece := by
  fun_induction pieces cs with
  | case1 => simp
  | case2 c rest ih => exact List.forall_mem_cons.2 ⟨cut_counted c rest, ih⟩

theorem newlinesAll_eq (ps : List Piece) (counted : ∀ piece ∈ ps, Counted piece) :
    newlinesAll ps = (ps.flatMap chars).count '\n' := by
  induction ps with
  | nil => rfl
  | cons piece rest ih =>
    obtain ⟨first, others⟩ := List.forall_mem_cons.1 counted
    rw [List.flatMap_cons, List.count_append, ← ih others, ← first]
    rfl

theorem newlinesAll_pieces (cs : List Char) : newlinesAll (pieces cs) = cs.count '\n' := by
  rw [newlinesAll_eq _ (pieces_counted cs), flatMap_chars_pieces]

theorem foldl_pass_pieces (line : Nat) (cs : List Char) :
    (pieces cs).foldl pass (wrapLine line) = wrapLine (line + cs.count '\n') := by
  rw [foldl_pass, newlinesAll_pieces]

theorem newlinesAll_split (before after : List Piece) (piece : Piece) :
    newlinesAll (before ++ piece :: after) = newlinesAll before + piece.newlines + newlinesAll after := by
  induction before with
  | nil => simp [newlinesAll]
  | cons first before ih => rw [List.cons_append, newlinesAll, newlinesAll, ih, Nat.add_assoc, Nat.add_assoc, Nat.add_assoc]

theorem getElem_collect {α : Type} (view : Nat → Piece → Option α) (line : Nat) (ps : List Piece) (index : Nat)
    (found : α) :
    (collect view line ps)[index]? = some found ↔
      ∃ before piece after, ps = before ++ piece :: after ∧ (collect view line before).length = index ∧
        view (before.foldl pass line) piece = some found := by
  induction ps generalizing line index with
  | nil => simp [collect]
  | cons first rest ih =>
    rw [collect, List.getElem?_append]
    constructor
    · intro seen
      by_cases here : index < (view line first).toList.length
      · cases given : view line first with
        | none => simp [given] at here
        | some x =>
          obtain rfl : index = 0 := by simpa [given] using here
          refine ⟨[], first, rest, rfl, rfl, ?_⟩
          simpa [given] using seen
      · rw [if_neg here] at seen
        obtain ⟨before, piece, after, rfl, count, later⟩ := (ih _ _).1 seen
        refine ⟨first :: before, piece, after, rfl, ?_, later⟩
        rw [collect, List.length_append, count]
        omega
    · rintro ⟨before, piece, after, split, rfl, seen⟩
      cases before with
      | nil =>
        obtain ⟨rfl, rfl⟩ := List.cons.inj split
        rw [show view line first = some found from seen]
        rfl
      | cons other before =>
        obtain ⟨rfl, rfl⟩ := List.cons.inj split
        rw [collect, List.length_append, if_neg (by omega), Nat.add_sub_cancel_left]
        exact (ih _ _).2 ⟨before, piece, after, rfl, rfl, seen⟩

theorem mem_collect {α : Type} (view : Nat → Piece → Option α) (line : Nat) (ps : List Piece) (found : α) :
    found ∈ collect view line ps ↔
      ∃ before piece after, ps = before ++ piece :: after ∧ view (before.foldl pass line) piece = some found := by
  simp only [List.mem_iff_getElem?, getElem_collect]
  constructor
  · rintro ⟨_, before, piece, after, split, _, seen⟩
    exact ⟨before, piece, after, split, seen⟩
  · rintro ⟨before, piece, after, split, seen⟩
    exact ⟨_, before, piece, after, split, rfl, seen⟩

end Piece

-- A line of a text whose first line has the given number: that number and some of the line ends of the text. Where
-- the numbers do not run out, it lies between the first line and the last.
structure Spans (text : String) (startLine line : Nat) : Prop where
  counted : ∃ passed ≤ text.toList.count '\n', line = wrapLine (startLine + passed)
  between : startLine + text.toList.count '\n' < lineLimit → startLine ≤ line ∧ line ≤ startLine + text.toList.count '\n'

theorem spans_passed (text : String) (startLine passed : Nat) (few : passed ≤ text.toList.count '\n') :
    Spans text startLine (wrapLine (startLine + passed)) where
  counted := ⟨passed, few, rfl⟩
  between := fun fits => by
    rw [wrapLine_of_fits _ (by omega)]
    omega

def Near {α : Type} (view : Nat → Piece → Option α) (lineOf : α → Nat) : Prop :=
  ∀ line piece found, view (wrapLine line) piece = some found →
    lineOf found = wrapLine line ∨ lineOf found = wrapLine (line + piece.newlines)

theorem token_near : Near Piece.token? Token.line := by
  intro line piece found seen
  cases piece with
  | token kind lexeme =>
    cases seen
    exact Or.inl rfl
  | _ => cases seen

theorem diagnostic_near : Near Piece.diagnostic? Diagnostic.line := by
  intro line piece found seen
  cases piece with
  | invalid c =>
    cases seen
    exact Or.inl rfl
  | openString text =>
    cases seen
    exact Or.inl rfl
  | openComment text =>
    cases seen
    exact Or.inr (wrapLine_add line _)
  | _ => cases seen

theorem collect_spans {α : Type} (view : Nat → Piece → Option α) (lineOf : α → Nat) (near : Near view lineOf)
    (text : String) (startLine : Nat) (found : α)
    (member : found ∈ Piece.collect view (wrapLine startLine) (pieces text.toList)) :
    Spans text startLine (lineOf found) := by
  obtain ⟨before, piece, after, split, seen⟩ := (Piece.mem_collect view _ _ found).1 member
  have whole := Piece.newlinesAll_pieces text.toList
  rw [split, Piece.newlinesAll_split] at whole
  rw [Piece.foldl_pass] at seen
  rcases near _ piece found seen with same | same
  · rw [same]
    exact spans_passed text startLine _ (by omega)
  · rw [same, Nat.add_assoc]
    exact spans_passed text startLine _ (by omega)

theorem scan_tokens_span (text : String) (startLine : Nat) (t : Token) (member : t ∈ (scan text startLine).tokens) :
    Spans text startLine t.line := by
  rcases List.mem_append.1 member with cut | last
  · exact collect_spans Piece.token? Token.line token_near text startLine t cut
  · rw [List.mem_singleton.1 last, Piece.foldl_pass_pieces]
    exact spans_passed text startLine _ (Nat.le_refl _)

theorem scan_diagnostics_span (text : String) (startLine : Nat) (d : Diagnostic)
    (member : d ∈ (scan text startLine).diagnostics) : Spans text startLine d.line :=
  collect_spans Piece.diagnostic? Diagnostic.line diagnostic_near text startLine d member

end StoryScript

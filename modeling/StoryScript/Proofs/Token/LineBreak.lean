import StoryScript.Proofs.Token.Lines

set_option autoImplicit false

namespace StoryScript

def Diagnostic.isUnterminated (d : Diagnostic) : Bool :=
  d.message == Complaint.unterminatedString.message || d.message == Complaint.unterminatedComment.message

namespace Piece

def isOpen : Piece → Bool
  | .openString _ => true
  | .openComment _ => true
  | _ => false

theorem takeWhile_break (p : Char → Bool) (stops : p '\n' = false) (rest more : List Char) :
    (rest ++ '\n' :: more).takeWhile p = rest.takeWhile p := by
  induction rest with
  | nil => simp [stops]
  | cons c rest ih =>
    rw [List.cons_append, List.takeWhile_cons, List.takeWhile_cons, ih]

theorem dropWhile_break (p : Char → Bool) (stops : p '\n' = false) (rest more : List Char) :
    (rest ++ '\n' :: more).dropWhile p = rest.dropWhile p ++ '\n' :: more := by
  induction rest with
  | nil => simp [stops]
  | cons c rest ih =>
    rw [List.cons_append, List.dropWhile_cons, List.dropWhile_cons, ih]
    split <;> rfl

def Breaks (cutter : List Char → Piece × List Char) (rest more : List Char) : Prop :=
  cutter (rest ++ '\n' :: more) = ((cutter rest).1, (cutter rest).2 ++ '\n' :: more)

theorem cutString_break (rest more : List Char) (closed : (cutString rest).1.isOpen = false) :
    Breaks cutString rest more := by
  unfold Breaks cutString at *
  rw [List.takeWhile_append, List.dropWhile_append]
  cases found : rest.dropWhile (· != '"') with
  | nil =>
    rw [found] at closed
    cases closed
  | cons quote after =>
    have whole := List.takeWhile_append_dropWhile (p := (· != '"')) (l := rest)
    have shorter : (rest.takeWhile (· != '"')).length ≠ rest.length := by
      intro same
      have total := congrArg List.length whole
      rw [List.length_append, found, List.length_cons] at total
      omega
    rw [if_neg shorter]
    rfl

theorem splitComment_break (rest body after more : List Char) (found : splitComment rest = some (body, after)) :
    splitComment (rest ++ more) = some (body, after ++ more) := by
  fun_induction splitComment rest generalizing body with
  | case1 => cases found
  | case2 after' =>
    cases found
    rfl
  | case3 c rest other ih =>
    obtain ⟨⟨inner, left⟩, foundInner, same⟩ := Option.map_eq_some_iff.1 found
    cases same
    rw [List.cons_append, splitComment]
    · rw [ih inner foundInner]
      rfl
    · intro after' isStar same
      cases rest with
      | nil => cases foundInner
      | cons d rest =>
        cases same
        exact other rest isStar rfl

theorem cutComment_break (rest more : List Char) (closed : (cutComment rest).1.isOpen = false) :
    Breaks cutComment rest more := by
  unfold Breaks cutComment at *
  cases found : splitComment rest with
  | none =>
    rw [found] at closed
    cases closed
  | some parts =>
    obtain ⟨body, after⟩ := parts
    rw [splitComment_break rest body after ('\n' :: more) found]

theorem fraction_break (rest more : List Char) : fraction (rest ++ '\n' :: more) = fraction rest := by
  match rest with
  | [] => rfl
  | [c] =>
    by_cases point : c = '.'
    · subst point
      rfl
    · simp [fraction, point]
  | c :: d :: rest =>
    by_cases point : c = '.'
    · subst point
      have digits := takeWhile_break Char.isDigit rfl rest more
      simp only [fraction, List.cons_append, digits]
    · simp [fraction, point]

theorem cutNumber_break (c : Char) (rest more : List Char) : Breaks (cutNumber c) rest more := by
  have part := fraction_append_drop (rest.dropWhile Char.isDigit)
  have fits : (fraction (rest.dropWhile Char.isDigit)).length ≤ (rest.dropWhile Char.isDigit).length := by
    have total := congrArg List.length part
    rw [List.length_append] at total
    omega
  simp only [Breaks, cutNumber, takeWhile_break Char.isDigit rfl, dropWhile_break Char.isDigit rfl, fraction_break]
  rw [List.drop_append_of_le_length fits]

theorem cutWord_break (c : Char) (rest more : List Char) : Breaks (cutWord c) rest more := by
  simp only [Breaks, cutWord, takeWhile_break continuesName rfl, dropWhile_break continuesName rfl]

theorem cutSign_break (c : Char) (rest more : List Char) : Breaks (cutSign c) rest more := by
  unfold Breaks cutSign
  cases rest with
  | nil => cases sign? c <;> rfl
  | cons d rest =>
    by_cases equals : d = '='
    · subst equals
      cases signEqual? c <;> cases sign? c <;> rfl
    · cases sign? c <;> simp [equals]

theorem cutSlash_break (rest more : List Char) (closed : (cutSlash rest).1.isOpen = false) :
    Breaks cutSlash rest more := by
  unfold cutSlash at closed
  unfold Breaks cutSlash
  split at closed
  · simp only [List.cons_append, takeWhile_break (· != '\n') rfl, dropWhile_break (· != '\n') rfl]
  · rename_i after
    exact cutComment_break after more closed
  · rename_i notSlash notStar
    cases rest with
    | nil => exact cutSign_break '/' [] more
    | cons c rest =>
      have different : c ≠ '/' ∧ c ≠ '*' := ⟨fun same => notSlash rest (same ▸ rfl), fun same => notStar rest (same ▸ rfl)⟩
      rw [List.cons_append]
      split
      · rename_i same
        exact (different.1 (List.cons.inj same).1).elim
      · rename_i same
        exact (different.2 (List.cons.inj same).1).elim
      · exact cutSign_break '/' (c :: rest) more

theorem cut_break (c : Char) (rest more : List Char) (closed : (cut c rest).1.isOpen = false) :
    Breaks (cut c) rest more := by
  unfold cut at closed
  unfold Breaks cut
  by_cases newline : (c == '\n') = true
  · simp only [newline, ↓reduceIte]
  by_cases space : isSpace c = true
  · simp only [newline, space, ↓reduceIte, takeWhile_break isSpace rfl, dropWhile_break isSpace rfl]
    rfl
  by_cases quote : (c == '"') = true
  · simp only [newline, space, quote, ↓reduceIte] at closed ⊢
    exact cutString_break rest more closed
  by_cases digit : c.isDigit = true
  · simp only [newline, space, quote, digit, ↓reduceIte] at closed ⊢
    exact cutNumber_break c rest more
  by_cases letter : startsName c = true
  · simp only [newline, space, quote, digit, letter, ↓reduceIte] at closed ⊢
    exact cutWord_break c rest more
  by_cases slash : (c == '/') = true
  · simp only [newline, space, quote, digit, letter, slash, ↓reduceIte] at closed ⊢
    exact cutSlash_break rest more closed
  · simp only [newline, space, quote, digit, letter, slash]
    exact cutSign_break c rest more

def IsEnd (piece : Piece) : Prop := ∃ lexeme, piece = .token .eof lexeme

theorem cutSign_not_end (c : Char) (rest : List Char) : ¬ IsEnd (cutSign c rest).1 := by
  have single : sign? c ≠ some .eof := by
    unfold sign?
    split <;> decide
  have doubled : signEqual? c ≠ some .eof := by
    unfold signEqual?
    split <;> decide
  rintro ⟨lexeme, same⟩
  unfold cutSign at same
  dsimp only at same
  split at same
  · split at same
    · rename_i found
      cases same
      exact doubled found
    · split at same
      · rename_i found
        cases same
        exact single found
      · cases same
  · split at same
    · rename_i found
      cases same
      exact single found
    · cases same

theorem cut_not_end (c : Char) (rest : List Char) : ¬ IsEnd (cut c rest).1 := by
  unfold cut
  split
  · rintro ⟨_, ⟨⟩⟩
  split
  · rintro ⟨_, ⟨⟩⟩
  split
  · unfold cutString
    split <;> rintro ⟨_, ⟨⟩⟩
  split
  · rintro ⟨_, ⟨⟩⟩
  split
  · rintro ⟨_, same⟩
    exact keyword_other .eof _ (by decide) (by decide) (Piece.token.inj same).1
  split
  · unfold cutSlash
    split
    · rintro ⟨_, ⟨⟩⟩
    · unfold cutComment
      split <;> rintro ⟨_, ⟨⟩⟩
    · exact cutSign_not_end '/' rest
  · exact cutSign_not_end c rest

end Piece

theorem pieces_not_end (cs : List Char) : ∀ piece ∈ pieces cs, ¬ piece.IsEnd := by
  fun_induction pieces cs with
  | case1 => simp
  | case2 c rest ih => exact List.forall_mem_cons.2 ⟨Piece.cut_not_end c rest, ih⟩

-- Nothing is cut across a line end unless it is open there.
theorem pieces_break (cs more : List Char) (closed : ∀ piece ∈ pieces cs, piece.isOpen = false) :
    pieces (cs ++ '\n' :: more) = pieces cs ++ .newline :: pieces more := by
  fun_induction pieces cs with
  | case1 =>
    rw [List.nil_append, pieces]
    rfl
  | case2 c rest ih =>
    obtain ⟨first, others⟩ := List.forall_mem_cons.1 closed
    rw [List.cons_append, pieces, Piece.cut_break c rest more first, List.cons_append]
    exact congrArg _ (ih others)

namespace Piece

theorem collect_append {α : Type} (view : Nat → Piece → Option α) (line : Nat) (ps more : List Piece) :
    collect view line (ps ++ more) = collect view line ps ++ collect view (ps.foldl pass line) more := by
  induction ps generalizing line with
  | nil => rfl
  | cons piece rest ih => rw [List.cons_append, collect, ih, collect, List.append_assoc, List.foldl_cons]

theorem collect_break {α : Type} (view : Nat → Piece → Option α) (silent : ∀ line, view line .newline = none)
    (line : Nat) (cs more : List Char) (closed : ∀ piece ∈ pieces cs, piece.isOpen = false) :
    collect view (wrapLine line) (pieces (cs ++ '\n' :: more)) =
      collect view (wrapLine line) (pieces cs) ++
        collect view (wrapLine (line + cs.count '\n' + 1)) (pieces more) := by
  have next : pass (wrapLine (line + cs.count '\n')) .newline = wrapLine (line + cs.count '\n' + 1) :=
    wrapLine_add _ 1
  rw [pieces_break cs more closed, collect_append, foldl_pass_pieces, collect, silent, next]
  rfl

theorem closed_of_terminated (line : Nat) (ps : List Piece)
    (terminated : ∀ d ∈ collect Piece.diagnostic? line ps, d.isUnterminated = false) :
    ∀ piece ∈ ps, piece.isOpen = false := by
  induction ps generalizing line with
  | nil => simp
  | cons piece rest ih =>
    rw [collect, List.forall_mem_append] at terminated
    refine List.forall_mem_cons.2 ⟨?_, ih _ terminated.2⟩
    cases piece with
    | openString text => cases terminated.1 _ List.mem_cons_self
    | openComment text => cases terminated.1 _ List.mem_cons_self
    | _ => rfl

theorem collect_not_end (line : Nat) (ps : List Piece) (noEnd : ∀ piece ∈ ps, ¬ piece.IsEnd) :
    ∀ t ∈ collect Piece.token? line ps, t.kind ≠ .eof := by
  induction ps generalizing line with
  | nil => simp [collect]
  | cons piece rest ih =>
    obtain ⟨first, others⟩ := List.forall_mem_cons.1 noEnd
    intro t member
    rw [collect, List.mem_append] at member
    rcases member with here | later
    · cases piece with
      | token kind lexeme =>
        have same : t = Token.spelled kind (String.ofList lexeme) line := by simpa [Piece.token?] using here
        rw [same]
        rintro rfl
        exact first ⟨lexeme, rfl⟩
      | _ => cases here
    · exact ih _ others t later

end Piece

def tokensOf (text : String) (startLine : Nat) : List Token :=
  Piece.collect Piece.token? (wrapLine startLine) (pieces text.toList)

theorem scan_tokens (text : String) (startLine : Nat) :
    (scan text startLine).tokens =
      tokensOf text startLine ++ [Token.endAt (wrapLine (startLine + text.toList.count '\n'))] := by
  rw [← Piece.foldl_pass_pieces]
  rfl

theorem tokensOf_literal (text : String) (startLine : Nat) (t : Token) (member : t ∈ tokensOf text startLine) :
    t.literal = Token.literalOf t.kind t.lexeme := by
  obtain ⟨before, piece, after, split, seen⟩ := (Piece.mem_collect Piece.token? _ _ t).1 member
  cases piece with
  | token kind lexeme =>
    cases seen
    rfl
  | _ => cases seen

theorem scan_literal (text : String) (startLine : Nat) (t : Token) (member : t ∈ (scan text startLine).tokens) :
    t.literal = Token.literalOf t.kind t.lexeme := by
  rw [scan_tokens] at member
  rcases List.mem_append.1 member with cut | last
  · exact tokensOf_literal text startLine t cut
  · rw [List.mem_singleton.1 last]
    rfl

theorem tokens_before_end (text : String) (startLine : Nat) :
    ((scan text startLine).tokens.takeWhile fun t => t.kind != .eof) = tokensOf text startLine := by
  have noEnd := Piece.collect_not_end (wrapLine startLine) (pieces text.toList) (pieces_not_end text.toList)
  rw [scan_tokens, List.takeWhile_append_of_pos]
  · simp [Token.endAt]
  · intro t member
    simpa using noEnd t member

theorem toList_break (first second : String) : (first ++ "\n" ++ second).toList = first.toList ++ '\n' :: second.toList := by
  simp

theorem scan_break (first second : String) (startLine : Nat)
    (terminated : ∀ d ∈ (scan first startLine).diagnostics, d.isUnterminated = false) :
    tokensOf (first ++ "\n" ++ second) startLine =
        tokensOf first startLine ++ tokensOf second (startLine + first.toList.count '\n' + 1) ∧
      (scan (first ++ "\n" ++ second) startLine).diagnostics =
        (scan first startLine).diagnostics ++ (scan second (startLine + first.toList.count '\n' + 1)).diagnostics := by
  have closed := Piece.closed_of_terminated (wrapLine startLine) (pieces first.toList) terminated
  unfold tokensOf scan
  rw [toList_break]
  constructor
  · exact Piece.collect_break _ (fun _ => rfl) startLine first.toList second.toList closed
  · exact Piece.collect_break _ (fun _ => rfl) startLine first.toList second.toList closed

-- Two texts with a line end between them are scanned one after the other, whatever characters are invalid in them,
-- as long as nothing of the first is open at its end.
theorem scan_distributes_over_line_break (first second : String) (startLine : Nat)
    (terminated : ∀ d ∈ (scan first startLine).diagnostics, d.isUnterminated = false) :
    let whole := scan (first ++ "\n" ++ second) startLine
    let former := scan first startLine
    let latter := scan second (startLine + first.toList.count '\n' + 1)
    former.tokens.getLast? = some (Token.endAt (wrapLine (startLine + first.toList.count '\n'))) ∧
      whole.tokens = former.tokens.dropLast ++ latter.tokens ∧
      whole.diagnostics = former.diagnostics ++ latter.diagnostics := by
  obtain ⟨tokens, diagnostics⟩ := scan_break first second startLine terminated
  have lastLine : startLine + (first.toList ++ '\n' :: second.toList).count '\n' =
      startLine + first.toList.count '\n' + 1 + second.toList.count '\n' := by
    rw [List.count_append, List.count_cons_self]
    omega
  refine ⟨?_, ?_, diagnostics⟩
  · rw [scan_tokens, List.getLast?_concat]
  · rw [scan_tokens, scan_tokens, scan_tokens, tokens, toList_break, lastLine, List.dropLast_concat, List.append_assoc]

-- A point that no digit follows on its line, invalid characters, a quote in a comment, and a string over two lines.
theorem pointed_number_before_digit :
    let former := scan "x = 5.@\n#/* \" */ \"a\nb\" // \"" 7
    let latter := scan "5 \"c" 10
    let whole := scan "x = 5.@\n#/* \" */ \"a\nb\" // \"\n5 \"c" 7
    (∀ d ∈ former.diagnostics, d.isUnterminated = false) ∧
      former.diagnostics.map Diagnostic.line = [7, 8] ∧ whole.diagnostics = former.diagnostics ++ latter.diagnostics ∧
      whole.tokens = former.tokens.dropLast ++ latter.tokens := by
  have terminated : ∀ d ∈ (scan "x = 5.@\n#/* \" */ \"a\nb\" // \"" 7).diagnostics, d.isUnterminated = false := by
    decide +kernel
  obtain ⟨_, tokens, diagnostics⟩ :=
    scan_distributes_over_line_break "x = 5.@\n#/* \" */ \"a\nb\" // \"" "5 \"c" 7 terminated
  exact ⟨terminated, by decide +kernel, diagnostics, tokens⟩

end StoryScript

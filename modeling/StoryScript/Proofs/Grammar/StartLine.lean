import StoryScript.Proofs.Grammar.Renumbering
import StoryScript.Proofs.Token.Lines
import StoryScript.Session

set_option autoImplicit false

namespace StoryScript

open Grammar

-- A line told from so much further down, as far as the numbers reach.
def later (more line : Nat) : Nat := wrapLine (line + more)

theorem pass_later (more line : Nat) (piece : Piece) : piece.pass (later more line) = later more (piece.pass line) := by
  unfold Piece.pass later
  rw [wrapLine_add, wrapLine_add, Nat.add_right_comm]

theorem foldl_later (more line : Nat) (ps : List Piece) :
    ps.foldl Piece.pass (later more line) = later more (ps.foldl Piece.pass line) := by
  induction ps generalizing line with
  | nil => rfl
  | cons piece rest ih => rw [List.foldl_cons, List.foldl_cons, pass_later, ih]

theorem collect_later {α : Type} (view : Nat → Piece → Option α) (image : α → α) (more : Nat)
    (same : ∀ line piece, view (later more line) piece = (view line piece).map image) (line : Nat) (ps : List Piece) :
    Piece.collect view (later more line) ps = (Piece.collect view line ps).map image := by
  induction ps generalizing line with
  | nil => rfl
  | cons piece rest ih =>
    rw [Piece.collect, Piece.collect, same, pass_later, ih, List.map_append]
    cases view line piece <;> rfl

theorem token_later (more line : Nat) (piece : Piece) :
    piece.token? (later more line) = (piece.token? line).map (Token.renumbered (later more)) := by
  cases piece <;> rfl

theorem diagnostic_later (more line : Nat) (piece : Piece) :
    piece.diagnostic? (later more line) = (piece.diagnostic? line).map (Diagnostic.renumbered (later more)) := by
  cases piece with
  | openComment text => exact congrArg (fun line => some (Complaint.unterminatedComment.at line .text)) (pass_later ..)
  | _ => rfl

structure Rescanned (number : Nat → Nat) (text : String) (startLine other : Nat) : Prop where
  tokens : (scan text other).tokens = (scan text startLine).tokens.map (Token.renumbered number)
  diagnostics : (scan text other).diagnostics = (scan text startLine).diagnostics.map (Diagnostic.renumbered number)

theorem scan_later (more : Nat) (text : String) (startLine : Nat) :
    Rescanned (later more) text startLine (startLine + more) := by
  have first : wrapLine (startLine + more) = later more (wrapLine startLine) := (wrapLine_add startLine more).symm
  constructor
  · simp only [scan, first, List.map_append, collect_later Piece.token? _ more (token_later more), foldl_later]
    rfl
  · simp only [scan, first]
    exact collect_later Piece.diagnostic? _ more (diagnostic_later more) _ _

theorem scan_later_exact (more : Nat) (text : String) (startLine : Nat)
    (fits : startLine + text.toList.count '\n' + more < lineLimit) :
    Rescanned (· + more) text startLine (startLine + more) := by
  have exact : ∀ line, Spans text startLine line → later more line = line + more := by
    intro line spans
    obtain ⟨low, high⟩ := spans.between (by omega)
    exact wrapLine_of_fits _ (by omega)
  constructor
  · rw [(scan_later more text startLine).tokens]
    refine List.map_congr_left fun t member => ?_
    rw [Token.renumbered, Token.renumbered, exact _ (scan_tokens_span text startLine t member)]
  · rw [(scan_later more text startLine).diagnostics]
    refine List.map_congr_left fun d member => ?_
    rw [Diagnostic.renumbered, Diagnostic.renumbered, exact _ (scan_diagnostics_span text startLine d member)]

theorem scan_closed (text : String) (startLine : Nat) : ∃ t ∈ (scan text startLine).tokens, t.kind = .eof :=
  ⟨_, List.mem_append_right _ List.mem_cons_self, rfl⟩

theorem findEnd_renumbered (number : Nat → Nat) (startLine other : Nat) (tokens : List Token)
    (closed : ∃ t ∈ tokens, t.kind = .eof) :
    Parser.findEnd other (tokens.map (Token.renumbered number)) = number (Parser.findEnd startLine tokens) := by
  have same : ((fun t => t.kind == .eof) ∘ Token.renumbered number) = fun t : Token => t.kind == .eof := rfl
  rw [Parser.findEnd, Parser.findEnd, List.find?_map, same]
  cases found : tokens.find? fun t => t.kind == .eof with
  | some t => rfl
  | none =>
    obtain ⟨t, member, isEnd⟩ := closed
    exact absurd (beq_iff_eq.2 isEnd) (List.find?_eq_none.1 found t member)

theorem diagnostic_renumbered (number : Nat → Nat) (endLine : Nat) (fault : Fault) :
    (fault.renumbered number).diagnostic (number endLine) = (fault.diagnostic endLine).renumbered number := by
  obtain ⟨complaint, token⟩ := fault
  cases token <;> rfl

def Parsed.renumbered (number : Nat → Nat) (parsed : Parsed) : Parsed :=
  ⟨parsed.program.renumbered number, parsed.diagnostics.map (Diagnostic.renumbered number)⟩

theorem readProgram_renumbered (number : Nat → Nat) (startLine other : Nat) (diagnostics : List Diagnostic)
    (tokens : List Token) (closed : ∃ t ∈ tokens, t.kind = .eof) :
    (Parser.ofTokens other (diagnostics.map (Diagnostic.renumbered number))
        (tokens.map (Token.renumbered number))).readProgram.1 =
      (Parser.ofTokens startLine diagnostics tokens).readProgram.1.renumbered number ∧
    (Parser.ofTokens other (diagnostics.map (Diagnostic.renumbered number))
        (tokens.map (Token.renumbered number))).readProgram.2.diagnostics =
      (Parser.ofTokens startLine diagnostics tokens).readProgram.2.diagnostics.map
        (Diagnostic.renumbered number) := by
  have before : (tokens.map (Token.renumbered number)).takeWhile (fun t => t.kind != .eof) =
      (tokens.takeWhile fun t => t.kind != .eof).map (Token.renumbered number) := List.takeWhile_map
  have listed : Listing.Renumbers number (program (tokens.takeWhile fun t => t.kind != .eof))
      (program ((tokens.map (Token.renumbered number)).takeWhile fun t => t.kind != .eof)) := by
    rw [before]
    exact program_renumbered number _
  refine ⟨listed.body, ?_⟩
  simp only [Parser.readProgram, Parser.ofTokens, Parser.advance, listed.faults, List.map_append, List.map_map,
    findEnd_renumbered number startLine other tokens closed]
  congr 2
  funext fault
  exact diagnostic_renumbered number _ fault

-- A text read from another line gives the same program and the same diagnostics, with their lines numbered anew.
theorem parse_renumbered (number : Nat → Nat) (text : String) (startLine other : Nat)
    (same : Rescanned number text startLine other) : parse text other = (parse text startLine).renumbered number := by
  obtain ⟨program, diagnostics⟩ := readProgram_renumbered number startLine other
    (scan text startLine).diagnostics (scan text startLine).tokens (scan_closed text startLine)
  rw [parse, Parser.ofText, same.tokens, same.diagnostics, Parsed.renumbered, Parsed.mk.injEq]
  exact ⟨program, diagnostics⟩

theorem allDiagnostics_renumbered (number : Nat → Nat) (parsed : Parsed) :
    (parsed.renumbered number).allDiagnostics = parsed.allDiagnostics.map (Diagnostic.renumbered number) := by
  obtain ⟨program, diagnostics⟩ := parsed
  cases diagnostics with
  | nil => exact returnDiagnostics_renumbered number program
  | cons d rest => rfl

end StoryScript

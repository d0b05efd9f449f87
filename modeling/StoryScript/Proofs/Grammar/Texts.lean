import StoryScript.Proofs.Grammar.Acceptance
import StoryScript.Proofs.Token.LineBreak
import StoryScript.Proofs.Tree.StrayReturns
import StoryScript.Session

set_option autoImplicit false

namespace StoryScript.Grammar

theorem derives_append (before after : List Token) (body more : List Stmt) (first : DerivesProgram before body)
    (second : DerivesProgram after more) : DerivesProgram (before ++ after) (body ++ more) := by
  match body, first with
  | _, .nil => exact second
  | _, .cons start rest stmt others begins goesOn =>
    rw [List.append_assoc]
    exact .cons start (rest ++ after) stmt (others ++ more) begins (derives_append rest after others more goesOn second)
termination_by body.length

theorem parse_clean (text : String) (startLine : Nat) :
    (parse text startLine).diagnostics = [] ↔
      (scan text startLine).diagnostics = [] ∧ (program (tokensOf text startLine)).faults = [] := by
  rw [← tokens_before_end]
  simp [parse, Parser.readProgram, Parser.advance, Parser.ofText, Parser.ofTokens]

theorem parse_program (text : String) (startLine : Nat) :
    (parse text startLine).program = (program (tokensOf text startLine)).body := by
  rw [← tokens_before_end]
  rfl

-- A text has nothing wrong with it exactly when its pieces have not and its tokens have a derivation.
theorem parse_iff (text : String) (startLine : Nat) (body : Program) :
    ((parse text startLine).diagnostics = [] ∧ (parse text startLine).program = body) ↔
      (scan text startLine).diagnostics = [] ∧ DerivesProgram (tokensOf text startLine) body := by
  rw [parse_clean, parse_program, and_assoc, clean_iff]

def lineAfter (startLine : Nat) (text : String) : Nat := startLine + text.toList.count '\n' + 1

theorem parse_break (first second : String) (startLine : Nat) (firstClean : (parse first startLine).diagnostics = [])
    (secondClean : (parse second (lineAfter startLine first)).diagnostics = []) :
    (parse (first ++ "\n" ++ second) startLine).diagnostics = [] ∧
      (parse (first ++ "\n" ++ second) startLine).program =
        (parse first startLine).program ++ (parse second (lineAfter startLine first)).program := by
  obtain ⟨scanned, derives⟩ := (parse_iff ..).1 ⟨firstClean, rfl⟩
  obtain ⟨scannedMore, derivesMore⟩ := (parse_iff ..).1 ⟨secondClean, rfl⟩
  obtain ⟨tokens, diagnostics⟩ := scan_break first second startLine (by simp [scanned])
  refine (parse_iff ..).2 ⟨?_, ?_⟩
  · rw [diagnostics, scanned]
    exact scannedMore
  · rw [tokens]
    exact derives_append _ _ _ _ derives derivesMore

theorem strayReturns_append (depth : UInt32) (body more : List Stmt) :
    Stmt.strayReturnsAll depth (body ++ more) = Stmt.strayReturnsAll depth body ++ Stmt.strayReturnsAll depth more := by
  induction body with
  | nil => rfl
  | cons stmt rest ih => rw [List.cons_append, Stmt.strayReturnsAll, ih, Stmt.strayReturnsAll, List.append_assoc]

theorem allDiagnostics_clean (parsed : Parsed) :
    parsed.allDiagnostics = [] ↔ parsed.diagnostics = [] ∧ Stmt.strayReturnsAll 0 parsed.program = [] := by
  unfold Parsed.allDiagnostics
  by_cases clean : parsed.diagnostics = []
  · simp [clean, returnDiagnostics_lines]
  · simp [clean]

theorem allDiagnostics_break (first second : String) (startLine : Nat)
    (firstClean : (parse first startLine).allDiagnostics = [])
    (secondClean : (parse second (lineAfter startLine first)).allDiagnostics = []) :
    (parse (first ++ "\n" ++ second) startLine).allDiagnostics = [] := by
  obtain ⟨read, placed⟩ := (allDiagnostics_clean _).1 firstClean
  obtain ⟨readMore, placedMore⟩ := (allDiagnostics_clean _).1 secondClean
  obtain ⟨clean, program⟩ := parse_break first second startLine read readMore
  refine (allDiagnostics_clean _).2 ⟨clean, ?_⟩
  rw [program, strayReturns_append, placed, placedMore]
  rfl

end StoryScript.Grammar

import StoryScript.Proofs.Grammar.Acceptance

set_option autoImplicit false

namespace StoryScript

namespace Grammar

theorem program_read (t : Token) (tokens : List Token) (stmt : Stmt) (rest : List Token)
    (reads : (declaration (t :: tokens)).Reads stmt rest) :
    (program (t :: tokens)).body = stmt :: (program rest).body ∧
      (program (t :: tokens)).faults = (program rest).faults := by
  rw [program]
  generalize declaration (t :: tokens) = r at reads
  cases r with
  | read found faults left fewer =>
    obtain ⟨rfl, rfl, rfl⟩ := reads
    exact ⟨rfl, rfl⟩
  | failed faults left atMost => exact reads.elim

theorem program_continues (tokens : List Token) (body : List Stmt) (derives : DerivesProgram tokens body)
    (rest : List Token) (noElse : NoElse rest) :
    (program (tokens ++ rest)).body = body ++ (program rest).body ∧
      (program (tokens ++ rest)).faults = (program rest).faults := by
  match body, derives with
  | _, .nil => exact ⟨rfl, rfl⟩
  | _, .cons before after stmt more first others =>
    have reads := declaration_complete before stmt first (after ++ rest) (declarations_noElse after more others rest noElse)
    obtain ⟨bodies, faults⟩ := program_continues after more others rest noElse
    obtain ⟨t, within, rfl, _⟩ := declaration_first before stmt first
    obtain ⟨stmts, later⟩ := program_read t (within ++ (after ++ rest)) stmt (after ++ rest) reads
    rw [List.append_assoc, List.cons_append]
    constructor
    · rw [stmts, bodies, List.cons_append]
    · rw [later, faults]
termination_by body.length

end Grammar

open Grammar

namespace Parser

theorem ofTokens_append (startLine : Nat) (diagnostics : List Diagnostic) (before after : List Token)
    (noEnd : ∀ t ∈ before, t.kind ≠ .eof) :
    (ofTokens startLine diagnostics (before ++ after)).tokens =
      before ++ (ofTokens startLine diagnostics after).tokens := by
  refine List.takeWhile_append_of_pos ?_
  intro t member
  simpa using noEnd t member

theorem ofTokens_whole (startLine : Nat) (diagnostics : List Diagnostic) (tokens : List Token)
    (noEnd : ∀ t ∈ tokens, t.kind ≠ .eof) : (ofTokens startLine diagnostics tokens).tokens = tokens := by
  have whole := ofTokens_append startLine diagnostics tokens [] noEnd
  rw [List.append_nil] at whole
  simpa [ofTokens] using whole

theorem findEnd_append (startLine : Nat) (before after : List Token) (noEnd : ∀ t ∈ before, t.kind ≠ .eof)
    (some : after ≠ []) : findEnd startLine (before ++ after) = findEnd startLine after := by
  have skipped : before.find? (fun t => t.kind == .eof) = none := by
    rw [List.find?_eq_none]
    intro t member
    simpa using noEnd t member
  have last : (before ++ after).getLast? = after.getLast? := by
    rw [List.getLast?_append, List.getLast?_eq_some_getLast some, Option.some_or]
  unfold findEnd
  rw [List.find?_append, skipped, Option.none_or, last]

theorem readProgram_diagnostics (p : Parser) :
    p.readProgram.2.diagnostics = p.diagnostics ++ (program p.tokens).faults.map (Fault.diagnostic p.endLine) := rfl

theorem ofTokens_noElse (startLine : Nat) (diagnostics : List Diagnostic) (tokens : List Token)
    (noElse : tokens.head?.map Token.kind ≠ some .wordElse) : NoElse (ofTokens startLine diagnostics tokens).tokens := by
  intro other more same isElse
  cases tokens with
  | nil => cases same
  | cons t rest =>
    by_cases ends : t.kind = .eof
    · simp [ofTokens, ends] at same
    · obtain ⟨rfl, _⟩ : t = other ∧ _ := by simpa [ofTokens, ends] using same
      exact noElse (congrArg some isElse)

-- Statements without a fault stay as they are before whatever follows them, faulty or not, and what follows is
-- read as it is alone. Only an `else` could be taken by the last of them.
theorem accepted_statements_stay (startLine : Nat) (diagnostics : List Diagnostic) (accepted following : List Token)
    (noEnd : ∀ t ∈ accepted, t.kind ≠ .eof)
    (clean : (ofTokens startLine diagnostics accepted).readProgram.2.diagnostics = diagnostics)
    (noElse : following.head?.map Token.kind ≠ some .wordElse) :
    (ofTokens startLine diagnostics (accepted ++ following)).readProgram.1 =
        (ofTokens startLine diagnostics accepted).readProgram.1 ++
          (ofTokens startLine diagnostics following).readProgram.1 ∧
      (ofTokens startLine diagnostics (accepted ++ following)).readProgram.2.diagnostics =
        (ofTokens startLine diagnostics following).readProgram.2.diagnostics := by
  have derives := (readProgram_iff (ofTokens startLine diagnostics accepted) _).1 ⟨clean, rfl⟩
  rw [ofTokens_whole startLine diagnostics accepted noEnd] at derives
  obtain ⟨bodies, faults⟩ := program_continues accepted _ derives (ofTokens startLine diagnostics following).tokens
    (ofTokens_noElse startLine diagnostics following noElse)
  rw [← ofTokens_append startLine diagnostics accepted following noEnd] at bodies faults
  refine ⟨bodies, ?_⟩
  rw [readProgram_diagnostics, readProgram_diagnostics, faults]
  cases following with
  | nil =>
    simp [ofTokens, program, Listing.empty]
  | cons t rest =>
    have sameEnd := findEnd_append startLine accepted (t :: rest) noEnd (List.cons_ne_nil t rest)
    simp only [ofTokens, sameEnd]

-- An `if` that could still take an `else`, and a sign that begins no statement before one that is in order.
def openIf : List Token :=
  [.spelled .wordIf "if" 1, .spelled .leftParen "(" 1, .spelled .identifier "x" 1, .spelled .rightParen ")" 1, .spelled .wordPrint "print" 1,
    .spelled .identifier "x" 1, .spelled .semicolon ";" 1]

def straySign : List Token :=
  [.spelled .star "*" 2, .spelled .semicolon ";" 2, .spelled .wordPrint "print" 3, .spelled .wordNil "nil" 3, .spelled .semicolon ";" 3]

theorem openIf_stays_before_straySign :
    (ofTokens 1 [] (openIf ++ straySign)).readProgram.1 =
        (ofTokens 1 [] openIf).readProgram.1 ++ (ofTokens 1 [] straySign).readProgram.1 ∧
      (ofTokens 1 [] openIf).readProgram.1 =
        [.ifThen (.reference ⟨"x", 1⟩) (.print (.reference ⟨"x", 1⟩) 1)] ∧
      (ofTokens 1 [] straySign).readProgram.1 = [.print (.literal .nil) 3] ∧
      (ofTokens 1 [] (openIf ++ straySign)).readProgram.2.diagnostics =
        (ofTokens 1 [] straySign).readProgram.2.diagnostics ∧
      (ofTokens 1 [] straySign).readProgram.2.diagnostics = [⟨"Expect expression.", 2, .lexeme "*"⟩] := by
  obtain ⟨bodies, diagnostics⟩ :=
    accepted_statements_stay 1 [] openIf straySign (by decide) (by decide +kernel) (by decide)
  exact ⟨bodies, by with_unfolding_all rfl, by with_unfolding_all rfl, diagnostics, by decide +kernel⟩

end Parser

end StoryScript

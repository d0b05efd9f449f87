import StoryScript.Grammar.Parser
import StoryScript.Proofs.Grammar.Statements

set_option autoImplicit false

namespace StoryScript.Grammar

theorem program_sound (tokens : List Token) (body : List Stmt) (rest : List Token)
    (lists : (program tokens).Lists body rest) : rest = [] ∧ DerivesProgram tokens body := by
  match tokens with
  | [] =>
    obtain ⟨rfl, rfl⟩ := (lists_program_nil body rest).1 lists
    exact ⟨rfl, .nil⟩
  | t :: others =>
    obtain ⟨stmt, middle, more, reads, listsMore, rfl⟩ := (lists_program_cons t others body rest).1 lists
    have shorter := Reading.reads_fewer _ stmt middle reads
    obtain ⟨taken, same, derives⟩ := declaration_sound (t :: others) stmt middle reads
    obtain ⟨ended, derivesMore⟩ := program_sound middle more rest listsMore
    rw [same]
    exact ⟨ended, .cons taken middle stmt more derives derivesMore⟩
termination_by tokens.length
decreasing_by
  subst_vars
  exact shorter

theorem closes_nil : Closes [] := by
  intro t more same
  cases same

theorem program_complete (tokens : List Token) (body : List Stmt) (derives : DerivesProgram tokens body) :
    (program tokens).Lists body [] := by
  match body, derives with
  | _, .nil => exact (lists_program_nil ..).2 ⟨rfl, rfl⟩
  | _, .cons before after stmt more first others =>
    have noElse := declarations_noElse after more others [] (noElse_closes [] closes_nil)
    rw [List.append_nil] at noElse
    have reads := declaration_complete before stmt first after noElse
    obtain ⟨t, within, rfl, _⟩ := declaration_first before stmt first
    exact (lists_program_cons ..).2 ⟨stmt, after, more, reads, program_complete after more others, rfl⟩
termination_by body.length

theorem clean_iff (tokens : List Token) (body : List Stmt) :
    ((program tokens).faults = [] ∧ (program tokens).body = body) ↔ DerivesProgram tokens body := by
  constructor
  · rintro ⟨clean, same⟩
    exact (program_sound tokens body _ ⟨same, clean, rfl⟩).2
  · intro derives
    obtain ⟨same, clean, _⟩ := program_complete tokens body derives
    exact ⟨clean, same⟩

theorem readProgram_clean (parser : Parser) :
    parser.readProgram.2.diagnostics = parser.diagnostics ↔ (program parser.tokens).faults = [] := by
  simp [Parser.readProgram, Parser.advance]

theorem readProgram_iff (parser : Parser) (body : Program) :
    (parser.readProgram.2.diagnostics = parser.diagnostics ∧ parser.readProgram.1 = body) ↔
      DerivesProgram parser.tokens body := by
  rw [readProgram_clean]
  exact clean_iff parser.tokens body

-- Reading reports nothing exactly on the scripts of the grammar, and gives the one tree each has.
theorem readProgram_accepts_grammar (startLine : Nat) (diagnostics : List Diagnostic) (tokens : List Token) :
    ((Parser.ofTokens startLine diagnostics tokens).readProgram.2.diagnostics = diagnostics ↔
        ∃ body, DerivesProgram (tokens.takeWhile fun t => t.kind != .eof) body) ∧
      ∀ body, DerivesProgram (tokens.takeWhile fun t => t.kind != .eof) body ↔
        (Parser.ofTokens startLine diagnostics tokens).readProgram.2.diagnostics = diagnostics ∧
          (Parser.ofTokens startLine diagnostics tokens).readProgram.1 = body := by
  have exactly := readProgram_iff (Parser.ofTokens startLine diagnostics tokens)
  constructor
  · constructor
    · intro clean
      exact ⟨_, (exactly _).1 ⟨clean, rfl⟩⟩
    · rintro ⟨body, derives⟩
      exact ((exactly body).2 derives).1
  · intro body
    exact (exactly body).symm

end StoryScript.Grammar

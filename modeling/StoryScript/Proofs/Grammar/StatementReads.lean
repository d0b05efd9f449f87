import StoryScript.Proofs.Grammar.Failures
import StoryScript.Proofs.Grammar.Reads

set_option autoImplicit false

namespace StoryScript.Grammar

open Reading

variable {n : Nat}

def Listing.Lists (listing : Listing n) (body : List Stmt) (rest : List Token) : Prop :=
  listing.body = body ∧ listing.faults = [] ∧ listing.rest = rest

theorem lists_empty (tokens : List Token) (body : List Stmt) (rest : List Token) :
    (Listing.empty tokens).Lists body rest ↔ [] = body ∧ tokens = rest := by
  simp [Listing.empty, Listing.Lists]

theorem lists_after {m : Nat} (stmts : List Stmt) (faults : List Fault) (listing : Listing m) (fewer : m < n)
    (body : List Stmt) (rest : List Token) :
    (listing.after stmts faults fewer).Lists body rest ↔
      faults = [] ∧ ∃ more, listing.Lists more rest ∧ stmts ++ more = body := by
  simp only [Listing.after, Listing.Lists, List.append_eq_nil_iff]
  constructor
  · rintro ⟨same, ⟨clean, more⟩, left⟩
    exact ⟨clean, listing.body, ⟨rfl, more, left⟩, same⟩
  · rintro ⟨clean, _, ⟨rfl, more, left⟩, same⟩
    exact ⟨same, ⟨clean, more⟩, left⟩

theorem reads_close (listing : Listing n) (body : List Stmt) (rest : List Token) :
    listing.close.Reads body rest ↔
      ∃ closing, listing.Lists body (closing :: rest) ∧ closing.kind = .rightBrace := by
  obtain ⟨stmts, faults, left, atMost⟩ := listing
  simp only [Listing.close, reads_widen, reads_after, reads_expect_map, Listing.Lists]
  constructor
  · rintro ⟨clean, closing, same, isClosing, result⟩
    exact ⟨closing, ⟨result, clean, same⟩, isClosing⟩
  · rintro ⟨closing, ⟨result, clean, same⟩, isClosing⟩
    exact ⟨clean, closing, same, isClosing, result⟩

theorem reads_block (tokens : List Token) (body : List Stmt) (rest : List Token) :
    (block tokens).Reads body rest ↔
      ∃ closing, (declarations tokens).Lists body (closing :: rest) ∧ closing.kind = .rightBrace := by
  rw [block]
  exact reads_close ..

theorem declarations_stop (tokens : List Token)
    (stops : ∀ t more, tokens = t :: more → t.kind = .rightBrace) : declarations tokens = .empty tokens := by
  cases tokens with
  | nil => rw [declarations]
  | cons t more => rw [declarations, if_pos (stops t more rfl)]

-- One declaration and those after it. A declaration that fails leaves a fault behind, so a listing
-- without faults has read it.
theorem lists_after_read (stmt : Stmt) (faults : List Fault) (left : List Token) (fewer : left.length < n)
    (next : (tokens : List Token) → Listing tokens.length) (body : List Stmt) (rest : List Token) :
    ((next left).after [stmt] faults fewer).Lists body rest ↔
      ∃ found middle more, (Reading.read stmt faults left fewer).Reads found middle ∧
        (next middle).Lists more rest ∧ found :: more = body := by
  rw [lists_after]
  constructor
  · rintro ⟨clean, more, lists, result⟩
    exact ⟨stmt, left, more, ⟨rfl, clean, rfl⟩, lists, result⟩
  · rintro ⟨_, _, more, ⟨rfl, clean, rfl⟩, lists, result⟩
    exact ⟨clean, more, lists, result⟩

theorem lists_after_failed {m : Nat} (faults : List Fault) (left : List Token) (atMost : left.length ≤ n)
    (reported : (Reading.failed faults left atMost : Reading Stmt n).Reported) (listing : Listing m) (fewer : m < n)
    (next : (tokens : List Token) → Listing tokens.length) (body : List Stmt) (rest : List Token) :
    (listing.after [] faults fewer).Lists body rest ↔
      ∃ found middle more, (Reading.failed faults left atMost : Reading Stmt n).Reads found middle ∧
        (next middle).Lists more rest ∧ found :: more = body := by
  rw [lists_after]
  constructor
  · rintro ⟨clean, _⟩
    exact (reported clean).elim
  · rintro ⟨_, _, _, reads, _⟩
    exact reads.elim

theorem lists_declarations_cons (t : Token) (tokens : List Token) (other : t.kind ≠ .rightBrace)
    (body : List Stmt) (rest : List Token) :
    (declarations (t :: tokens)).Lists body rest ↔
      ∃ stmt middle more, (declaration (t :: tokens)).Reads stmt middle ∧ (declarations middle).Lists more rest ∧
        stmt :: more = body := by
  have reported := declaration_reported (t :: tokens)
  rw [declarations, if_neg other]
  split
  · rename_i same
    rw [same]
    exact lists_after_read ..
  · rename_i same
    rw [same] at reported ⊢
    exact lists_after_failed _ _ _ reported ..

theorem lists_program_cons (t : Token) (tokens : List Token) (body : List Stmt) (rest : List Token) :
    (program (t :: tokens)).Lists body rest ↔
      ∃ stmt middle more, (declaration (t :: tokens)).Reads stmt middle ∧ (program middle).Lists more rest ∧
        stmt :: more = body := by
  have reported := declaration_reported (t :: tokens)
  rw [program]
  split
  · rename_i same
    rw [same]
    exact lists_after_read ..
  · rename_i same
    rw [same] at reported ⊢
    exact lists_after_failed _ _ _ reported ..

theorem lists_program_nil (body : List Stmt) (rest : List Token) :
    (program []).Lists body rest ↔ [] = body ∧ [] = rest := by
  rw [program]
  exact lists_empty ..

theorem statement_print (t : Token) (tokens : List Token) (isWord : t.kind = .wordPrint) :
    statement (t :: tokens) = (printStatement t tokens).past := by
  rw [statement]
  simp only [isWord]

theorem statement_return (t : Token) (tokens : List Token) (isWord : t.kind = .wordReturn) :
    statement (t :: tokens) = (returnStatement t tokens).past := by
  rw [statement]
  simp only [isWord]

theorem statement_block (t : Token) (tokens : List Token) (isBrace : t.kind = .leftBrace) :
    statement (t :: tokens) = ((block tokens).map Stmt.block).past := by
  rw [statement]
  simp only [isBrace]

theorem statement_expression (t : Token) (tokens : List Token) (noPrint : t.kind ≠ .wordPrint)
    (noReturn : t.kind ≠ .wordReturn) (noBrace : t.kind ≠ .leftBrace) (noIf : t.kind ≠ .wordIf)
    (noWhile : t.kind ≠ .wordWhile) (noFor : t.kind ≠ .wordFor) :
    statement (t :: tokens) = expressionStatement (t :: tokens) := by
  rw [statement]
  split <;> simp_all

def NoElse (tokens : List Token) : Prop := ∀ other more, tokens = other :: more → other.kind ≠ .wordElse

def FinishesIf (condition : Expr) (thenBranch : Stmt) (left : List Token) (stmt : Stmt) (rest : List Token) : Prop :=
  (∃ other more elseBranch, left = other :: more ∧ other.kind = .wordElse ∧
    (statement more).Reads elseBranch rest ∧ .ifElse condition thenBranch elseBranch = stmt) ∨
  (NoElse left ∧ left = rest ∧ .ifThen condition thenBranch = stmt)

theorem finishesIf_else (condition : Expr) (thenBranch : Stmt) (other : Token) (more : List Token) (stmt : Stmt)
    (rest : List Token) (isElse : other.kind = .wordElse) :
    FinishesIf condition thenBranch (other :: more) stmt rest ↔
      ∃ elseBranch, (statement more).Reads elseBranch rest ∧ .ifElse condition thenBranch elseBranch = stmt := by
  constructor
  · rintro (⟨_, _, elseBranch, same, _, reads, result⟩ | ⟨noElse, _⟩)
    · obtain ⟨rfl, rfl⟩ := List.cons.inj same
      exact ⟨elseBranch, reads, result⟩
    · exact (noElse other more rfl isElse).elim
  · rintro ⟨elseBranch, reads, result⟩
    exact Or.inl ⟨other, more, elseBranch, rfl, isElse, reads, result⟩

theorem finishesIf_then (condition : Expr) (thenBranch : Stmt) (left : List Token) (stmt : Stmt)
    (rest : List Token) (noElse : NoElse left) :
    FinishesIf condition thenBranch left stmt rest ↔ .ifThen condition thenBranch = stmt ∧ left = rest := by
  constructor
  · rintro (⟨other, more, _, rfl, isElse, _⟩ | ⟨_, same, result⟩)
    · exact (noElse other more rfl isElse).elim
    · exact ⟨result, same⟩
  · rintro ⟨result, same⟩
    exact Or.inr ⟨noElse, same, result⟩

theorem reads_statement_if (t : Token) (tokens : List Token) (isWord : t.kind = .wordIf) (stmt : Stmt)
    (rest : List Token) :
    (statement (t :: tokens)).Reads stmt rest ↔
      ∃ condition middle thenBranch left,
        (parenthesised .parenAfterIf .parenAfterIfCondition tokens).Reads condition middle ∧
        (statement middle).Reads thenBranch left ∧ FinishesIf condition thenBranch left stmt rest := by
  rw [statement]
  simp only [isWord]
  refine (reads_bind _ _ _ _ (fun condition middle => ∃ thenBranch left, (statement middle).Reads thenBranch left ∧
    FinishesIf condition thenBranch left stmt rest) ?_).trans ?_
  · intro condition middle fewer
    refine (reads_bind _ _ _ _ (fun thenBranch left => FinishesIf condition thenBranch left stmt rest) ?_).trans
      (by simp only [reads_within])
    intro thenBranch left fewer
    cases left with
    | nil =>
      have noElse : NoElse [] := fun _ _ same => by cases same
      rw [finishesIf_then condition thenBranch [] stmt rest noElse]
      simp [Reads]
    | cons word more =>
      by_cases isElse : word.kind = .wordElse
      · rw [finishesIf_else condition thenBranch word more stmt rest isElse]
        simp [isElse, reads_within, reads_map]
      · have noElse : NoElse (word :: more) := by
          intro other later same
          rw [← (List.cons.inj same).1]
          exact isElse
        rw [finishesIf_then condition thenBranch _ stmt rest noElse]
        simp [isElse, Reads]
  · simp only [reads_past]
    constructor
    · rintro ⟨condition, middle, first, thenBranch, left, second, last⟩
      exact ⟨condition, middle, thenBranch, left, first, second, last⟩
    · rintro ⟨condition, middle, thenBranch, left, first, second, last⟩
      exact ⟨condition, middle, first, thenBranch, left, second, last⟩

theorem reads_statement_while (t : Token) (tokens : List Token) (isWord : t.kind = .wordWhile) (stmt : Stmt)
    (rest : List Token) :
    (statement (t :: tokens)).Reads stmt rest ↔
      ∃ condition middle body,
        (parenthesised .parenAfterWhile .parenAfterCondition tokens).Reads condition middle ∧
        (statement middle).Reads body rest ∧ .loop condition body = stmt := by
  rw [statement]
  simp only [isWord]
  refine (reads_then _ statement Stmt.loop stmt rest).trans ?_
  simp only [reads_past]

theorem reads_statement_for (t : Token) (tokens : List Token) (isWord : t.kind = .wordFor) (stmt : Stmt)
    (rest : List Token) :
    (statement (t :: tokens)).Reads stmt rest ↔
      ∃ clauses middle body, (forClauses tokens).Reads clauses middle ∧ (statement middle).Reads body rest ∧
        .forLoop clauses.initializer clauses.condition clauses.increment body = stmt := by
  rw [statement]
  simp only [isWord]
  refine (reads_then _ statement
    (fun clauses : Clauses => Stmt.forLoop clauses.initializer clauses.condition clauses.increment) stmt rest).trans ?_
  simp only [reads_past]

theorem reads_declaration_function (t : Token) (tokens : List Token) (isWord : t.kind = .wordFun) (stmt : Stmt)
    (rest : List Token) :
    (declaration (t :: tokens)).Reads stmt rest ↔
      ∃ head middle body, (functionHead tokens).Reads head middle ∧ (block middle).Reads body rest ∧
        .function head.1 head.2 body = stmt := by
  rw [declaration]
  simp only [isWord]
  refine (reads_then _ block (fun head : Ident × List Ident => Stmt.function head.1 head.2) stmt rest).trans ?_
  simp only [reads_past]

theorem declaration_var (t : Token) (tokens : List Token) (isWord : t.kind = .wordVar) :
    declaration (t :: tokens) = (varDeclaration tokens).past := by
  rw [declaration, if_pos isWord]

theorem declaration_statement (t : Token) (tokens : List Token) (noVar : t.kind ≠ .wordVar)
    (noFun : t.kind ≠ .wordFun) : declaration (t :: tokens) = statement (t :: tokens) := by
  rw [declaration, if_neg noVar, if_neg noFun]

end StoryScript.Grammar

import StoryScript.Proofs.Grammar.StatementReads

set_option autoImplicit false

namespace StoryScript.Grammar

-- A reading and a record of the declarations that were asked for on the way, in the order they were done with:
-- the statement that each gave, or none. The record changes nothing in what is read.
structure Recorded (α : Type) (n : Nat) where
  reading : Reading α n
  outcomes : List (Option Stmt)

structure RecordedListing (n : Nat) where
  listing : Listing n
  outcomes : List (Option Stmt)

def unread (outcomes : List (Option Stmt)) : Nat := outcomes.countP Option.isNone

namespace Recorded

variable {α β : Type} {m n : Nat}

def plain (r : Reading α n) : Recorded α n := ⟨r, []⟩

def map (f : α → β) (r : Recorded α n) : Recorded β n := ⟨r.reading.map f, r.outcomes⟩

def widen (r : Recorded α m) (le : m ≤ n) : Recorded α n := ⟨r.reading.widen le, r.outcomes⟩

def within (r : Recorded α m) (fewer : m < n) : Recorded α n := r.widen (Nat.le_of_lt fewer)

def past (r : Recorded α n) : Recorded α (n + 1) := r.widen (Nat.le_succ n)

def bind (r : Recorded α n) (next : α → (rest : List Token) → rest.length < n → Recorded β n) : Recorded β n :=
  match r with
  | ⟨.read phrase faults rest fewer, outcomes⟩ =>
    ⟨(next phrase rest fewer).reading.after faults, outcomes ++ (next phrase rest fewer).outcomes⟩
  | ⟨.failed faults rest atMost, outcomes⟩ => ⟨.failed faults rest atMost, outcomes⟩

end Recorded

open Recorded (plain)

mutual

def recordStatement (tokens : List Token) : Recorded Stmt tokens.length :=
  match tokens with
  | [] => plain (expressionStatement [])
  | t :: rest =>
    match t.kind with
    | .wordPrint => plain (printStatement t rest).past
    | .wordReturn => plain (returnStatement t rest).past
    | .leftBrace => ((recordBlock rest).map Stmt.block).past
    | .wordIf =>
      (plain (parenthesised .parenAfterIf .parenAfterIfCondition rest).past).bind fun condition rest₁ fewer =>
        ((recordStatement rest₁).within fewer).bind fun thenBranch rest₂ fewer =>
          match rest₂ with
          | [] => plain (.read (.ifThen condition thenBranch) [] [] fewer)
          | word :: rest₃ =>
            if word.kind = .wordElse then
              have shorter := tail_lt_succ fewer
              ((recordStatement rest₃).map fun elseBranch => Stmt.ifElse condition thenBranch elseBranch).within shorter
            else plain (.read (.ifThen condition thenBranch) [] (word :: rest₃) fewer)
    | .wordWhile =>
      (plain (parenthesised .parenAfterWhile .parenAfterCondition rest).past).bind fun condition rest₁ fewer =>
        ((recordStatement rest₁).map fun body => Stmt.loop condition body).within fewer
    | .wordFor =>
      (plain (forClauses rest).past).bind fun clauses rest₁ fewer =>
        ((recordStatement rest₁).map fun body =>
          Stmt.forLoop clauses.initializer clauses.condition clauses.increment body).within fewer
    | _ => plain (expressionStatement (t :: rest))
termination_by 8 * tokens.length + 0
decreasing_by all_goals grind

def recordBlock (tokens : List Token) : Recorded (List Stmt) tokens.length :=
  ⟨(recordDeclarations tokens).listing.close, (recordDeclarations tokens).outcomes⟩
termination_by 8 * tokens.length + 3
decreasing_by all_goals grind

-- Here and in the whole program declarations are asked for: what a declaration came to stands after what those
-- inside it came to.
def recordDeclarations (tokens : List Token) : RecordedListing tokens.length :=
  match tokens with
  | [] => ⟨.empty [], []⟩
  | t :: rest =>
    if t.kind = .rightBrace then ⟨.empty (t :: rest), []⟩
    else
      match recordDeclaration (t :: rest) with
      | ⟨.read stmt faults rest' fewer, outcomes⟩ =>
        ⟨(recordDeclarations rest').listing.after [stmt] faults fewer,
          outcomes ++ some stmt :: (recordDeclarations rest').outcomes⟩
      | ⟨.failed faults rest' atMost, outcomes⟩ =>
        have shorter := synchronize_lt atMost
        ⟨(recordDeclarations (synchronize rest')).listing.after [] faults shorter,
          outcomes ++ none :: (recordDeclarations (synchronize rest')).outcomes⟩
termination_by 8 * tokens.length + 2
decreasing_by all_goals grind

def recordDeclaration (tokens : List Token) : Recorded Stmt tokens.length :=
  match tokens with
  | [] => recordStatement []
  | t :: rest =>
    if t.kind = .wordVar then plain (varDeclaration rest).past
    else if t.kind = .wordFun then
      (plain (functionHead rest).past).bind fun head rest₁ fewer =>
        ((recordBlock rest₁).map fun body => Stmt.function head.1 head.2 body).within fewer
    else recordStatement (t :: rest)
termination_by 8 * tokens.length + 1
decreasing_by all_goals grind

end

def recordProgram (tokens : List Token) : RecordedListing tokens.length :=
  match tokens with
  | [] => ⟨.empty [], []⟩
  | t :: rest =>
    match recordDeclaration (t :: rest) with
    | ⟨.read stmt faults rest' fewer, outcomes⟩ =>
      ⟨(recordProgram rest').listing.after [stmt] faults fewer,
        outcomes ++ some stmt :: (recordProgram rest').outcomes⟩
    | ⟨.failed faults rest' atMost, outcomes⟩ =>
      have shorter := synchronize_lt atMost
      ⟨(recordProgram (synchronize rest')).listing.after [] faults shorter,
        outcomes ++ none :: (recordProgram (synchronize rest')).outcomes⟩
termination_by tokens.length
decreasing_by all_goals grind

section Erasure

variable {α β : Type} {m n : Nat}

theorem reading_map (f : α → β) (r : Recorded α n) (whole : Reading α n) (same : r.reading = whole) :
    (r.map f).reading = whole.map f :=
  congrArg (Reading.map f) same

theorem reading_within (r : Recorded α m) (fewer : m < n) (whole : Reading α m) (same : r.reading = whole) :
    (r.within fewer).reading = whole.within fewer :=
  congrArg (fun reading => reading.within fewer) same

theorem reading_bind (r : Recorded α n) (next : α → (rest : List Token) → rest.length < n → Recorded β n)
    (whole : Reading α n) (more : α → (rest : List Token) → rest.length < n → Reading β n) (first : r.reading = whole)
    (second : ∀ found rest fewer, (next found rest fewer).reading = more found rest fewer) :
    (r.bind next).reading = whole.bind more := by
  subst first
  obtain ⟨reading, outcomes⟩ := r
  cases reading with
  | read found faults rest fewer => exact congrArg (Reading.after faults) (second found rest fewer)
  | failed faults rest atMost => rfl

end Erasure

mutual

theorem reading_statement (tokens : List Token) : (recordStatement tokens).reading = statement tokens := by
  match tokens with
  | [] => rw [recordStatement, statement, plain]
  | t :: rest =>
    rw [recordStatement]
    split
    · rename_i isWord
      rw [statement_print t rest isWord]
      rfl
    · rename_i isWord
      rw [statement_return t rest isWord]
      rfl
    · rename_i isBrace
      rw [statement_block t rest isBrace]
      exact congrArg Reading.past (reading_map Stmt.block _ _ (reading_block rest))
    · rename_i isWord
      rw [statement]
      simp only [isWord]
      refine reading_bind _ _ _ _ rfl ?_
      intro condition rest₁ fewer
      refine reading_bind _ _ _ _ (reading_within _ fewer _ (reading_statement rest₁)) ?_
      intro thenBranch rest₂ fewer
      cases rest₂ with
      | nil => rfl
      | cons word rest₃ =>
        have shorter := tail_lt_succ fewer
        dsimp only
        split
        · exact reading_within _ shorter _ (reading_map _ _ _ (reading_statement rest₃))
        · rfl
    · rename_i isWord
      rw [statement]
      simp only [isWord]
      refine reading_bind _ _ _ _ rfl ?_
      intro condition rest₁ fewer
      exact reading_within _ fewer _ (reading_map _ _ _ (reading_statement rest₁))
    · rename_i isWord
      rw [statement]
      simp only [isWord]
      refine reading_bind _ _ _ _ rfl ?_
      intro clauses rest₁ fewer
      exact reading_within _ fewer _ (reading_map _ _ _ (reading_statement rest₁))
    · rename_i noPrint noReturn noBrace noIf noWhile noFor
      exact (statement_expression t rest noPrint noReturn noBrace noIf noWhile noFor).symm
termination_by 8 * tokens.length + 0
decreasing_by all_goals grind

theorem reading_block (tokens : List Token) : (recordBlock tokens).reading = block tokens := by
  rw [recordBlock, block, listing_declarations tokens]
termination_by 8 * tokens.length + 3
decreasing_by all_goals grind

theorem listing_declarations (tokens : List Token) : (recordDeclarations tokens).listing = declarations tokens := by
  match tokens with
  | [] => rw [recordDeclarations, declarations]
  | t :: rest =>
    have first := reading_declaration (t :: rest)
    rw [recordDeclarations, declarations, ← first]
    split
    · rfl
    · obtain ⟨reading, outcomes⟩ := recordDeclaration (t :: rest)
      cases reading with
      | read stmt faults rest' fewer => exact congrArg (fun l => l.after [stmt] faults fewer) (listing_declarations rest')
      | failed faults rest' atMost =>
        have shorter := synchronize_lt atMost
        exact congrArg (fun l => l.after [] faults shorter) (listing_declarations (synchronize rest'))
termination_by 8 * tokens.length + 2
decreasing_by all_goals grind

theorem reading_declaration (tokens : List Token) : (recordDeclaration tokens).reading = declaration tokens := by
  match tokens with
  | [] => rw [recordDeclaration, declaration, reading_statement]
  | t :: rest =>
    rw [recordDeclaration, declaration]
    split
    · rfl
    · split
      · refine reading_bind _ _ _ _ rfl ?_
        intro head rest₁ fewer
        exact reading_within _ fewer _ (reading_map _ _ _ (reading_block rest₁))
      · exact reading_statement (t :: rest)
termination_by 8 * tokens.length + 1
decreasing_by all_goals grind

end

theorem listing_program (tokens : List Token) : (recordProgram tokens).listing = program tokens := by
  match tokens with
  | [] => rw [recordProgram, program]
  | t :: rest =>
    rw [recordProgram, program, ← reading_declaration]
    obtain ⟨reading, outcomes⟩ := recordDeclaration (t :: rest)
    cases reading with
    | read stmt faults rest' fewer => exact congrArg (fun l => l.after [stmt] faults fewer) (listing_program rest')
    | failed faults rest' atMost =>
      have shorter := synchronize_lt atMost
      exact congrArg (fun l => l.after [] faults shorter) (listing_program (synchronize rest'))
termination_by tokens.length
decreasing_by
  · exact fewer
  · exact shorter

end StoryScript.Grammar

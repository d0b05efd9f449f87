import StoryScript.Proofs.Grammar.Productions

set_option autoImplicit false

namespace StoryScript.Walk

open Grammar (Reading Listing startsWith)

variable {v : Ended}

theorem follows_recover (gone : Token) (left : List Token) (fuel : Nat) (behind : gone :: left <:+ v.before) :
    Follows v (recover fuel) left (Grammar.ended () (Grammar.resume gone left)) (left.length < fuel) := by
  induction fuel generalizing gone left with
  | zero =>
    exact follows_noFuel _ (Grammar.resume_suffix gone left)
  | succ fuel ih =>
    rw [recover]
    refine follows_then (follows_isAtEnd left _) ?_
    cases left with
    | nil => exact follows_pure () [] _ _
    | cons t rest =>
      refine follows_then (follows_look _ (t :: rest) gone _ fun _ _ => v.looks_back gone (t :: rest) behind) ?_
      rw [Grammar.resume]
      by_cases ends : gone.kind = .semicolon
      · rw [if_pos (beq_iff_eq.2 ends), if_pos (by simp [ends])]
        exact follows_pure () (t :: rest) _ _
      · rw [if_neg (mt beq_iff_eq.1 ends)]
        refine follows_then (follows_peek (t :: rest) _) ?_
        rw [show v.ahead (t :: rest) = t from rfl]
        by_cases starts : t.kind.startsStatement = true
        · rw [if_pos starts, if_pos (by simp [starts])]
          exact follows_pure () (t :: rest) _ _
        · rw [if_neg starts, if_neg (by simp [ends, starts])]
          refine follows_then (follows_next t rest _) (follows_less (ih t rest ((List.suffix_cons gone _).trans behind)) ?_)
          rw [List.length_cons]
          omega

theorem follows_synchronize (left : List Token) (fuel : Nat) :
    Follows v (synchronize fuel) left (Grammar.ended () (Grammar.synchronize left)) (left.length < fuel) := by
  intro suffix
  refine follows_then (follows_peek left _) ?_ suffix
  cases left with
  | nil =>
    obtain ⟨t, looked⟩ := follows_next_end (v := v) (([] : List Token).length < fuel)
    refine follows_then looked ?_
    cases fuel with
    | zero => exact follows_noFuel _ (List.suffix_refl _)
    | succ fuel =>
      rw [recover]
      exact follows_then (follows_isAtEnd [] _) (follows_pure () [] _ _)
  | cons t rest =>
    refine follows_then (follows_next t rest _) (follows_less (follows_recover t rest fuel suffix) ?_)
    rw [List.length_cons]
    omega

theorem synchronize_le {n : Nat} {rest : List Token} (atMost : rest.length ≤ n) :
    (Grammar.synchronize rest).length < n + 1 :=
  Nat.lt_succ_of_le (Nat.le_trans (Grammar.synchronize_suffix rest).length_le atMost)

-- A declaration that was read, or nothing and what is left from the next border between statements.
def recovered {n : Nat} (r : Reading Stmt n) : Reading (Option Stmt) (n + 1) :=
  match r with
  | .read stmt faults rest fewer => .read (some stmt) faults rest (lt_wider fewer)
  | .failed faults rest atMost => .read none faults (Grammar.synchronize rest) (synchronize_le atMost)

def listing {n : Nat} (l : Listing n) : Reading (List Stmt) (n + 1) :=
  .read l.body l.faults l.rest (Nat.lt_succ_of_le l.atMost)

theorem follows_settle {n : Nat} {x : Walk Stmt} {tokens : List Token} {r : Reading Stmt n} {enough : Prop} (fuel : Nat)
    (read : Follows v x tokens r enough) (room : enough → n < fuel) :
    Follows v (attempt x >>= settle fuel) tokens (recovered r) enough := by
  intro suffix
  have tried := follows_attempt read suffix
  cases r with
  | read stmt faults rest fewer =>
    have whole := meets_then (f := settle fuel) tried (follows_pure (some stmt) rest (lt_wider fewer) _ tried.within)
    simp only [Reading.after, List.append_nil] at whole
    exact whole
  | failed faults rest atMost =>
    have resumed := follows_then (f := fun _ => pure none)
      (follows_less (follows_synchronize rest fuel) fun given => Nat.lt_of_le_of_lt atMost (room given))
      (follows_pure (v := v) (none : Option Stmt) _ (synchronize_le atMost) enough) tried.within
    have whole := meets_then (f := settle fuel) tried resumed
    simp only [Reading.after, List.append_nil] at whole
    exact whole

theorem follows_goOn {n : Nat} {x : Walk (Option Stmt)} {y : Walk (List Stmt)} {tokens : List Token}
    {r : Reading Stmt n} {l : Listing n} {enough : Prop} (lists : (rest : List Token) → Listing rest.length)
    (first : Follows v x tokens (recovered r) enough)
    (later : ∀ rest, rest.length < n → Follows v y rest (listing (lists rest)) enough)
    (goesOn : ∀ stmt faults rest fewer, r = .read stmt faults rest fewer → l = (lists rest).after [stmt] faults fewer)
    (recovers : ∀ faults rest atMost, r = .failed faults rest atMost →
      ∃ shorter, l = (lists (Grammar.synchronize rest)).after [] faults shorter) :
    Follows v
      (do
        let stmt ← x
        let more ← y
        return stmt.toList ++ more)
      tokens (listing l) enough := by
  intro suffix
  have ran := first suffix
  let further : Option Stmt → Walk (List Stmt) := fun stmt => y >>= fun more => pure (stmt.toList ++ more)
  cases r with
  | read stmt faults rest fewer =>
    have others := follows_map (fun more => [stmt] ++ more) (later rest fewer)
    rw [goesOn stmt faults rest fewer rfl]
    exact follows_widen (Nat.succ_le_succ (Nat.le_of_lt fewer))
      (fun _ => meets_then (f := further) ran (others ran.within)) suffix
  | failed faults rest atMost =>
    obtain ⟨shorter, same⟩ := recovers faults rest atMost rfl
    have others := follows_map (fun more => [] ++ more) (later _ shorter)
    rw [same]
    exact follows_widen (Nat.succ_le_succ (Nat.le_of_lt shorter))
      (fun _ => meets_then (f := further) ran (others ran.within)) suffix

-- With some fuel every walk over a statement follows its reader.
structure Statements (v : Ended) (fuel : Nat) : Prop where
  statement : ∀ tokens,
    Follows v (statement fuel) tokens (Grammar.statement tokens) (8 * tokens.length + 8 < fuel)
  ifStatement : ∀ t rest, t.kind = .wordIf →
    Follows v (ifStatement fuel) (t :: rest) (Grammar.statement (t :: rest)) (8 * rest.length + 12 < fuel)
  whileStatement : ∀ t rest, t.kind = .wordWhile →
    Follows v (whileStatement fuel) (t :: rest) (Grammar.statement (t :: rest)) (8 * rest.length + 12 < fuel)
  forStatement : ∀ t rest, t.kind = .wordFor →
    Follows v (forStatement fuel) (t :: rest) (Grammar.statement (t :: rest)) (8 * rest.length + 12 < fuel)
  block : ∀ tokens, Follows v (block fuel) tokens (Grammar.block tokens) (8 * tokens.length + 11 < fuel)
  blockBody : ∀ tokens,
    Follows v (blockBody fuel) tokens (listing (Grammar.declarations tokens)) (8 * tokens.length + 10 < fuel)
  functionDeclaration : ∀ t rest, t.kind = .wordFun →
    Follows v (functionDeclaration fuel) (t :: rest) (Grammar.declaration (t :: rest)) (8 * rest.length + 12 < fuel)
  declaration : ∀ tokens,
    Follows v (declaration fuel) tokens (recovered (Grammar.declaration tokens)) (8 * tokens.length + 9 < fuel)

section Step

variable {fuel : Nat} (known : Statements v fuel)

include known

theorem follows_statement (tokens : List Token) :
    Follows v (statement (fuel + 1)) tokens (Grammar.statement tokens) (8 * tokens.length + 8 < fuel + 1) := by
  rw [statement]
  refine follows_then (follows_peek tokens _) ?_
  cases tokens with
  | nil =>
    rw [Grammar.statement, show (v.ahead []).kind = .eof from v.isEnd]
    exact follows_less (follows_expressionStatement [] fuel) (by omega)
  | cons t rest =>
    have longer : (t :: rest).length = rest.length + 1 := rfl
    rw [show v.ahead (t :: rest) = t from rfl]
    cases first : t.kind with
    | wordPrint =>
      rw [Grammar.statement, first]
      exact follows_widen _ (follows_less (follows_printStatement t rest fuel first) (by omega))
    | leftBrace =>
      rw [Grammar.statement, first]
      refine follows_then (follows_next t rest _) (follows_widen _ ?_)
      exact follows_map Stmt.block (follows_less (known.block rest) (by omega))
    | wordIf => exact follows_less (known.ifStatement t rest first) (by omega)
    | wordWhile => exact follows_less (known.whileStatement t rest first) (by omega)
    | wordFor => exact follows_less (known.forStatement t rest first) (by omega)
    | wordReturn =>
      rw [Grammar.statement, first]
      exact follows_widen _ (follows_less (follows_returnStatement t rest fuel first) (by omega))
    | _ =>
      rw [Grammar.statement, first]
      exact follows_less (follows_expressionStatement (t :: rest) fuel) (by omega)

theorem follows_ifStatement (t : Token) (rest : List Token) (isIf : t.kind = .wordIf) :
    Follows v (ifStatement (fuel + 1)) (t :: rest) (Grammar.statement (t :: rest)) (8 * rest.length + 12 < fuel + 1) := by
  rw [ifStatement, Grammar.statement, isIf]
  refine follows_expect_taken .wordIf _ isIf ?_
  have longer : (t :: rest).length = rest.length + 1 := rfl
  refine follows_bind (follows_widen _ (follows_less (follows_parenthesised .parenAfterIf .parenAfterIfCondition rest fuel)
    (by omega))) ?_
  intro condition rest₁ fewer
  refine follows_bind (follows_widen _ (follows_less (known.statement rest₁) (by omega))) ?_
  intro thenBranch rest₂ fewer
  refine follows_eat .wordElse ?_ ?_
  · rintro word rest₃ rfl isElse
    have longer : (word :: rest₃).length = rest₃.length + 1 := rfl
    dsimp only
    rw [if_pos rfl, if_pos isElse]
    exact follows_widen _ (follows_map (fun elseBranch => Stmt.ifElse condition thenBranch elseBranch)
      (follows_less (known.statement rest₃) (by omega)))
  · intro other
    rw [if_neg Bool.false_ne_true]
    cases rest₂ with
    | nil => exact follows_pure _ [] fewer _
    | cons word rest₃ =>
      dsimp only
      rw [if_neg (beq_eq_false_iff_ne.1 other)]
      exact follows_pure _ (word :: rest₃) fewer _

theorem follows_whileStatement (t : Token) (rest : List Token) (isWhile : t.kind = .wordWhile) :
    Follows v (whileStatement (fuel + 1)) (t :: rest) (Grammar.statement (t :: rest))
      (8 * rest.length + 12 < fuel + 1) := by
  rw [whileStatement, Grammar.statement, isWhile]
  refine follows_expect_taken .wordWhile _ isWhile ?_
  have longer : (t :: rest).length = rest.length + 1 := rfl
  refine follows_bind (follows_widen _ (follows_less (follows_parenthesised .parenAfterWhile .parenAfterCondition rest
    fuel) (by omega))) ?_
  intro condition rest₁ fewer
  exact follows_widen _ (follows_map (fun body => Stmt.loop condition body)
    (follows_less (known.statement rest₁) (by omega)))

theorem follows_forStatement (t : Token) (rest : List Token) (isFor : t.kind = .wordFor) :
    Follows v (forStatement (fuel + 1)) (t :: rest) (Grammar.statement (t :: rest)) (8 * rest.length + 12 < fuel + 1) := by
  rw [forStatement, Grammar.statement, isFor]
  refine follows_expect_taken .wordFor _ isFor ?_
  have whole := follows_bind (follows_widen (Nat.le_succ _)
      (follows_less (follows_forClauses (v := v) rest fuel) (show 8 * rest.length + 12 < fuel + 1 → _ by omega)))
      fun clauses rest₁ fewer =>
    follows_widen (Nat.le_of_lt fewer) (follows_map
      (fun body => Stmt.forLoop clauses.initializer clauses.condition clauses.increment body)
      (follows_less (known.statement rest₁) (by omega)))
  simp only [bind_assoc, pure_bind] at whole
  exact whole

theorem follows_block (tokens : List Token) :
    Follows v (block (fuel + 1)) tokens (Grammar.block tokens) (8 * tokens.length + 11 < fuel + 1) := by
  rw [block, Grammar.block]
  intro suffix
  have body := follows_less (known.blockBody tokens) (show 8 * tokens.length + 11 < fuel + 1 → _ by omega) suffix
  have closing := follows_map (fun _ => (Grammar.declarations tokens).body)
    (follows_expect (v := v) .rightBrace .braceAfterBlock (Grammar.declarations tokens).rest (by decide)
      (8 * tokens.length + 11 < fuel + 1)) body.within
  exact follows_widen (Grammar.declarations tokens).atMost (fun _ => meets_then body closing) suffix

theorem follows_blockBody (tokens : List Token) :
    Follows v (blockBody (fuel + 1)) tokens (listing (Grammar.declarations tokens))
      (8 * tokens.length + 10 < fuel + 1) := by
  rw [blockBody]
  refine follows_then (follows_check .rightBrace tokens _) ?_
  cases tokens with
  | nil =>
    rw [ahead_kind .rightBrace [] (by decide), Grammar.declarations]
    exact follows_then (follows_isAtEnd [] _) (follows_pure [] [] _ _)
  | cons t rest =>
    rw [ahead_kind .rightBrace (t :: rest) (by decide)]
    by_cases closes : t.kind = .rightBrace
    · rw [show startsWith .rightBrace (t :: rest) = true from beq_iff_eq.2 closes, Grammar.declarations, if_pos closes]
      exact follows_pure [] (t :: rest) _ _
    · rw [show startsWith .rightBrace (t :: rest) = false from beq_eq_false_iff_ne.2 closes, if_neg Bool.false_ne_true]
      refine follows_then (follows_isAtEnd (t :: rest) _) ?_
      refine follows_goOn (r := Grammar.declaration (t :: rest)) Grammar.declarations
        (follows_less (known.declaration (t :: rest)) (by omega))
        (fun rest' fewer => follows_less (known.blockBody rest') (by omega)) ?_ ?_
      · intro stmt faults rest' fewer found
        rw [Grammar.declarations, if_neg closes, found]
      · intro faults rest' atMost found
        rw [Grammar.declarations, if_neg closes, found]
        exact ⟨Grammar.synchronize_lt atMost, rfl⟩

theorem follows_functionDeclaration (t : Token) (rest : List Token) (isFun : t.kind = .wordFun) :
    Follows v (functionDeclaration (fuel + 1)) (t :: rest) (Grammar.declaration (t :: rest))
      (8 * rest.length + 12 < fuel + 1) := by
  have notVar : t.kind ≠ .wordVar := by
    rw [isFun]
    decide
  rw [functionDeclaration, Grammar.declaration, if_neg notVar, if_pos isFun]
  refine follows_expect_taken .wordFun _ isFun ?_
  have whole := follows_bind (follows_widen (Nat.le_succ _)
      (follows_less (follows_functionHead (v := v) rest fuel) (show 8 * rest.length + 12 < fuel + 1 → _ by omega)))
      fun head rest₁ fewer =>
    follows_widen (Nat.le_of_lt fewer) (follows_map (fun body => Stmt.function head.1 head.2 body)
      (follows_less (known.block rest₁) (by omega)))
  simp only [bind_assoc, pure_bind] at whole
  exact whole

theorem follows_declaration (tokens : List Token) :
    Follows v (declaration (fuel + 1)) tokens (recovered (Grammar.declaration tokens))
      (8 * tokens.length + 9 < fuel + 1) := by
  rw [declaration]
  refine follows_settle fuel ?_ (by omega)
  refine follows_then (follows_peek tokens _) ?_
  cases tokens with
  | nil =>
    rw [Grammar.declaration, show (v.ahead []).kind = .eof from v.isEnd]
    exact follows_less (known.statement []) (by omega)
  | cons t rest =>
    have longer : (t :: rest).length = rest.length + 1 := rfl
    rw [show v.ahead (t :: rest) = t from rfl]
    by_cases isVar : t.kind = .wordVar
    · rw [Grammar.declaration, if_pos isVar, isVar]
      exact follows_widen _ (follows_less (follows_varDeclaration t rest fuel isVar) (by omega))
    · by_cases isFun : t.kind = .wordFun
      · rw [isFun]
        exact follows_less (known.functionDeclaration t rest isFun) (by omega)
      · rw [Grammar.declaration, if_neg isVar, if_neg isFun]
        split
        · exact absurd ‹_› isVar
        · exact absurd ‹_› isFun
        · exact follows_less (known.statement (t :: rest)) (by omega)

end Step

theorem recovered_rest (tokens : List Token) : (recovered (Grammar.declaration tokens)).rest <:+ tokens := by
  have suffix := Grammar.forwards.holds_declaration tokens
  change (Grammar.declaration tokens).rest <:+ tokens at suffix
  cases found : Grammar.declaration tokens with
  | read stmt faults rest fewer =>
    rw [found] at suffix
    exact suffix
  | failed faults rest atMost =>
    rw [found] at suffix
    exact (Grammar.synchronize_suffix rest).trans suffix

theorem statements_zero : Statements v 0 where
  statement tokens := follows_noFuel _ (Grammar.forwards.holds_statement tokens)
  ifStatement t rest _ := follows_noFuel _ (Grammar.forwards.holds_statement (t :: rest))
  whileStatement t rest _ := follows_noFuel _ (Grammar.forwards.holds_statement (t :: rest))
  forStatement t rest _ := follows_noFuel _ (Grammar.forwards.holds_statement (t :: rest))
  block tokens := follows_noFuel _ (Grammar.forwards.holds_block tokens)
  blockBody tokens := follows_noFuel _ (Grammar.forwards.lists_declarations tokens)
  functionDeclaration t rest _ := follows_noFuel _ (Grammar.forwards.holds_declaration (t :: rest))
  declaration tokens := follows_noFuel _ (recovered_rest tokens)

theorem statements (v : Ended) (fuel : Nat) : Statements v fuel := by
  induction fuel with
  | zero => exact statements_zero
  | succ fuel known =>
    exact ⟨follows_statement known, follows_ifStatement known, follows_whileStatement known, follows_forStatement known,
      follows_block known, follows_blockBody known, follows_functionDeclaration known, follows_declaration known⟩

theorem follows_program (tokens : List Token) (fuel : Nat) :
    Follows v (program fuel) tokens (listing (Grammar.program tokens)) (8 * tokens.length + 10 < fuel) := by
  induction fuel generalizing tokens with
  | zero =>
    exact follows_noFuel _ (Grammar.forwards.lists_program tokens)
  | succ fuel ih =>
    rw [program]
    refine follows_then (follows_isAtEnd tokens _) ?_
    cases tokens with
    | nil =>
      rw [Grammar.program]
      exact follows_pure [] [] _ _
    | cons t rest =>
      refine follows_goOn (r := Grammar.declaration (t :: rest)) Grammar.program
        (follows_less ((statements v fuel).declaration (t :: rest)) (by omega))
        (fun rest' fewer => follows_less (ih rest') (by omega)) ?_ ?_
      · intro stmt faults rest' fewer found
        rw [Grammar.program, found]
      · intro faults rest' atMost found
        rw [Grammar.program, found]
        exact ⟨Grammar.synchronize_lt atMost, rfl⟩

end StoryScript.Walk

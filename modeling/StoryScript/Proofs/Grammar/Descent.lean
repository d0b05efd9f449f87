import StoryScript.Grammar.Parser
import StoryScript.Proofs.Grammar.Staging

set_option autoImplicit false

namespace StoryScript.Grammar

def Level.join? (level : Level) (sign : Token) : Option (Expr → Expr → Expr) :=
  match level.logicalOp? sign.kind, level.binaryOp? sign.kind with
  | some op, _ => some fun left right => .logical left op right
  | none, some op => some fun left right => .binary left op right sign.line
  | none, none => none

-- Expressions read without powers, by one function for each level of the grammar: it reads an operand with the
-- function of the next level and goes on as long as the signs are its own.
mutual

def descend (level : Level) (tokens : List Token) : Reading Expr tokens.length :=
  match level with
  | .assignment => (descend .or tokens).bind fun target rest fewer => (assigned target rest).widen fewer
  | .or => (descend .and tokens).bind fun left rest fewer => (chained .or left rest).widen fewer
  | .and => (descend .equality tokens).bind fun left rest fewer => (chained .and left rest).widen fewer
  | .equality => (descend .comparison tokens).bind fun left rest fewer => (chained .equality left rest).widen fewer
  | .comparison => (descend .term tokens).bind fun left rest fewer => (chained .comparison left rest).widen fewer
  | .term => (descend .factor tokens).bind fun left rest fewer => (chained .term left rest).widen fewer
  | .factor => (descend .unary tokens).bind fun left rest fewer => (chained .factor left rest).widen fewer
  | .unary =>
    match tokens with
    | [] => descend .call []
    | sign :: rest =>
      match unaryOp? sign.kind with
      | none => descend .call (sign :: rest)
      | some op => ((descend .unary rest).map fun inner => Expr.unary op inner sign.line).past
  | .call => (descend .primary tokens).bind fun callee rest fewer => (called callee rest).widen fewer
  | .primary =>
    match tokens with
    | [] => complain .expectExpression []
    | t :: rest =>
      match t.kind with
      | .number | .string | .wordTrue | .wordFalse => ended (.literal (t.literal.getD .nil)) rest
      | .wordNil => ended (.literal .nil) rest
      | .identifier => ended (.reference (identOf t)) rest
      | .leftParen =>
        (descend .assignment rest).past.bind fun inner rest' fewer =>
          ((expect .rightParen .parenAfterExpression rest').map fun _ => Expr.grouping inner).within fewer
      | _ => complain .expectExpression (t :: rest)
termination_by 16 * tokens.length + (12 - level.rank)
decreasing_by all_goals (simp only [Level.rank, List.length_cons] at *; omega)

-- After what may be the target of an assignment. The value is read in any case; only then is a target that is no
-- bare name complained about, at the sign, and kept alone.
def assigned (target : Expr) (tokens : List Token) : Reading Expr (tokens.length + 1) :=
  match tokens with
  | [] => ended target []
  | sign :: rest =>
    if sign.kind = .equal then
      ((descend .assignment rest).past.bind fun value rest' fewer =>
        match target with
        | .reference ident => .read (.assign ident value) [] rest' fewer
        | _ => .read target [⟨.invalidAssignment, some sign⟩] rest' fewer).past
    else ended target (sign :: rest)
termination_by 16 * tokens.length + 0
decreasing_by all_goals (simp only [Level.rank, List.length_cons] at *; omega)

def chained (level : Level) (left : Expr) (tokens : List Token) : Reading Expr (tokens.length + 1) :=
  match tokens with
  | [] => ended left []
  | sign :: rest =>
    match level.join? sign with
    | none => ended left (sign :: rest)
    | some join =>
      ((descend level.tighter rest).past.bind fun right rest' fewer =>
        (chained level (join left right) rest').widen fewer).past
termination_by 16 * tokens.length + 0
decreasing_by all_goals (simp only [List.length_cons] at *; omega)

def called (callee : Expr) (tokens : List Token) : Reading Expr (tokens.length + 1) :=
  match tokens with
  | [] => ended callee []
  | paren :: rest =>
    if paren.kind = .leftParen then
      ((descendArguments rest).past.bind fun args rest' fewer =>
        (called (.call callee args.1 args.2) rest').widen fewer).past
    else ended callee (paren :: rest)
termination_by 16 * tokens.length + 0
decreasing_by all_goals (simp only [List.length_cons] at *; omega)

def descendArguments (tokens : List Token) : Reading (List Expr × Nat) tokens.length :=
  if startsWith .rightParen tokens then
    (expect .rightParen .parenAfterArguments tokens).map fun paren => ([], paren.line)
  else descendMoreArguments tokens
termination_by 16 * tokens.length + 14
decreasing_by omega

def descendMoreArguments (tokens : List Token) : Reading (List Expr × Nat) tokens.length :=
  (descend .assignment tokens).bind fun arg rest fewer =>
    match rest with
    | [] => (complain .parenAfterArguments []).within fewer
    | sign :: rest' =>
      if sign.kind = .comma then
        have shorter := tail_lt fewer
        ((descendMoreArguments rest').map fun args => (arg :: args.1, args.2)).within shorter
      else
        ((expect .rightParen .parenAfterArguments (sign :: rest')).map
          fun paren => ([arg], paren.line)).within fewer
termination_by 16 * tokens.length + 13
decreasing_by
  · simp only [Level.rank]
    omega
  · omega

end

theorem binding_level (kind : Kind) (b : Binding) (found : binding? kind = some b) :
    b.left = 2 ∧ kind = .equal ∨ ∃ level : Level, 1 ≤ level.rank ∧ b.left = level.power := by
  cases sign_of_binding kind b found with
  | assign same => exact Or.inl ⟨rfl, same⟩
  | logical level op isSign => exact Or.inr ⟨level, (logical_rank level kind op isSign).1, rfl⟩
  | binary level op isSign => exact Or.inr ⟨level, (binary_rank level kind op isSign).1, rfl⟩

theorem expression_any (tokens : List Token) : expression 0 tokens = expression Level.assignment.power tokens := by
  refine expression_between 0 1 (by decide) ?_ tokens
  intro kind b found small
  rcases binding_level kind b found with ⟨two, _⟩ | ⟨level, _, same⟩
  · omega
  · simp only [Level.power] at same
    omega

theorem expression_right (level : Level) (low : 1 ≤ level.rank) (high : level.rank ≤ 6) (tokens : List Token) :
    expression (level.power + 1) tokens = expression level.tighter.power tokens := by
  have next := rank_tighter level (ne_primary level (by omega))
  refine expression_between _ _ ?_ ?_ tokens
  · simp only [Level.power]
    omega
  · intro kind b found small
    simp only [Level.power, next] at *
    rcases binding_level kind b found with ⟨two, _⟩ | ⟨other, _, same⟩
    · omega
    · simp only [Level.power] at same
      omega

theorem join_of_binding (level : Level) (sign : Token) (b : Binding) (found : binding? sign.kind = some b)
    (same : b.left = level.power) :
    level.join? sign = some (b.operator.build sign) ∧ b.right = level.power + 1 ∧
      ∀ left, b.operator.faults sign left = [] := by
  cases sign_of_binding sign.kind b found with
  | assign =>
    simp only [Level.power] at same
    omega
  | logical own op isSign =>
    obtain rfl : own = level := rank_injective own level (by simp only [Level.power] at same; omega)
    refine ⟨?_, rfl, fun left => by cases left <;> rfl⟩
    simp only [Level.join?, isSign]
    rfl
  | binary own op isSign =>
    obtain rfl : own = level := rank_injective own level (by simp only [Level.power] at same; omega)
    refine ⟨?_, rfl, fun left => by cases left <;> rfl⟩
    have noLogical : own.logicalOp? sign.kind = none := by
      cases logical : own.logicalOp? sign.kind with
      | none => rfl
      | some other =>
        have foundToo := binding_logical own sign.kind other logical
        rw [found] at foundToo
        cases foundToo
    simp only [Level.join?, isSign, noLogical]
    rfl

theorem binding_of_join (level : Level) (sign : Token) (join : Expr → Expr → Expr) (joins : level.join? sign = some join) :
    ∃ b, binding? sign.kind = some b ∧ b.left = level.power := by
  unfold Level.join? at joins
  split at joins
  · rename_i op isSign
    exact ⟨_, binding_logical level sign.kind op isSign, rfl⟩
  · rename_i op _ isSign
    exact ⟨_, binding_binary level sign.kind op isSign, rfl⟩
  · cases joins

theorem chained_ended (level : Level) (left : Expr) (tokens : List Token) (weak : Weaker level.power tokens) :
    chained level left tokens = ended left tokens := by
  cases tokens with
  | nil => rw [chained]
  | cons sign rest =>
    rw [chained]
    split
    · rfl
    · rename_i join joins
      obtain ⟨b, found, same⟩ := binding_of_join level sign join joins
      have small := weak sign rest rfl b found
      omega

theorem chained_taken (level : Level) (left : Expr) (sign : Token) (rest : List Token) (join : Expr → Expr → Expr)
    (joins : level.join? sign = some join) :
    chained level left (sign :: rest) =
      ((descend level.tighter rest).onwards fun right rest' => chained level (join left right) rest').past.past := by
  rw [chained]
  simp only [joins]
  rw [← onwards_past]
  rfl

-- Where only signs of a level or looser ones are left, the operators that are taken are the chain of the level.
theorem operations_chained (level : Level) (low : 1 ≤ level.rank) (left : Expr) (tokens : List Token)
    (weak : Weaker (level.power + 2) tokens)
    (below : ∀ rest, rest.length < tokens.length → expression (level.power + 1) rest = descend level.tighter rest) :
    operations level.power left tokens = chained level left tokens := by
  rcases weaker_or_sign level.power tokens with stops | ⟨sign, rest, b, rfl, found, strong⟩
  · rw [operations_ended _ left tokens stops, chained_ended level left tokens stops]
  · have small := weak sign rest rfl b found
    have same : b.left = level.power := by
      rcases binding_level sign.kind b found with ⟨two, _⟩ | ⟨other, _, own⟩
      · simp only [Level.power] at *
        omega
      · simp only [Level.power] at *
        omega
    obtain ⟨joins, right, clean⟩ := join_of_binding level sign b found same
    have leaves := expression_leave (level.power + 1) rest
    rw [below rest (self_lt rest)] at leaves
    rw [operations_taken _ left sign rest b found strong, chained_taken level left sign rest _ joins, right,
      below rest (self_lt rest)]
    congr 2
    refine onwards_congr _ _ _ _ leaves ?_
    intro operand rest' fewer weaker
    rw [clean, after_nil]
    refine operations_chained level low _ rest' (weaker_mono _ _ rest' (by omega) weaker) ?_
    intro later shorter
    exact below later (Nat.lt_trans shorter (Nat.lt_succ_of_lt fewer))
termination_by tokens.length
decreasing_by
  subst_vars
  exact Nat.lt_succ_of_lt fewer

theorem descend_chained (level : Level) (low : 1 ≤ level.rank) (high : level.rank ≤ 6) (tokens : List Token) :
    descend level tokens = (descend level.tighter tokens).onwards (chained level) := by
  cases level with
  | assignment => exact absurd low (by decide)
  | unary => exact absurd high (by decide)
  | call => exact absurd high (by decide)
  | primary => exact absurd high (by decide)
  | _ =>
    rw [descend]
    rfl

theorem expression_chained (level : Level) (low : 1 ≤ level.rank) (high : level.rank ≤ 6) (tokens : List Token)
    (same : expression level.tighter.power tokens = descend level.tighter tokens)
    (below : ∀ rest, rest.length < tokens.length → expression level.tighter.power rest = descend level.tighter rest) :
    expression level.power tokens = descend level tokens := by
  have next := rank_tighter level (ne_primary level (by omega))
  have leaves := expression_leave level.tighter.power tokens
  rw [expression_staged level.power level.tighter.power (by simp only [Level.power]; omega) tokens,
    descend_chained level low high tokens]
  rw [same] at leaves ⊢
  refine onwards_congr _ _ _ _ leaves ?_
  intro left rest fewer weak
  refine operations_chained level low left rest ?_ ?_
  · refine weaker_mono _ _ rest ?_ weak
    simp only [Level.power]
    omega
  · intro later shorter
    rw [expression_right level low high later]
    exact below later (Nat.lt_trans shorter fewer)

theorem assigned_taken (target : Expr) (sign : Token) (rest : List Token) (isSign : sign.kind = .equal) :
    assigned target (sign :: rest) =
      ((descend .assignment rest).onwards fun value rest' =>
        (ended (Operator.assign.build sign target value) rest').after (Operator.assign.faults sign target)).past.past := by
  rw [assigned, if_pos isSign, ← onwards_past]
  congr 1
  cases descend .assignment rest with
  | failed => rfl
  | read value faults rest' fewer => cases target <;> rfl

theorem operations_assigned (target : Expr) (tokens : List Token) (weak : Weaker Level.or.power tokens)
    (below : ∀ rest, rest.length < tokens.length → expression Level.assignment.power rest = descend .assignment rest) :
    operations Level.assignment.power target tokens = assigned target tokens := by
  rcases weaker_or_sign Level.assignment.power tokens with stops | ⟨sign, rest, b, rfl, found, strong⟩
  · rw [operations_ended _ target tokens stops]
    cases tokens with
    | nil => rw [assigned]
    | cons sign rest =>
      have other : sign.kind ≠ .equal := by
        intro isSign
        have small := stops sign rest rfl ⟨.assign, 2, 1⟩ (by rw [isSign]; rfl)
        exact absurd small (by decide)
      rw [assigned, if_neg other]
  · have isSign : sign.kind = .equal := by
      have small := weak sign rest rfl b found
      rcases binding_level sign.kind b found with ⟨_, isSign⟩ | ⟨level, low, own⟩
      · exact isSign
      · simp only [Level.power, Level.rank] at *
        omega
    obtain rfl : b = ⟨.assign, 2, 1⟩ := by
      rw [isSign] at found
      exact (Option.some.inj found).symm
    have leaves := expression_leave Level.assignment.power rest
    rw [below rest (self_lt rest)] at leaves
    rw [operations_taken _ target sign rest _ found strong, assigned_taken target sign rest isSign]
    change ((expression Level.assignment.power rest).onwards _).past.past = _
    rw [below rest (self_lt rest)]
    congr 2
    refine onwards_congr _ _ _ _ leaves ?_
    intro value rest' _ stops
    rw [operations_ended _ _ rest' stops]

theorem descend_assignment (tokens : List Token) :
    descend .assignment tokens = (descend .or tokens).onwards assigned := by
  rw [descend]
  rfl

theorem expression_assignment (tokens : List Token)
    (same : expression Level.or.power tokens = descend .or tokens)
    (below : ∀ rest, rest.length < tokens.length → expression Level.assignment.power rest = descend .assignment rest) :
    expression Level.assignment.power tokens = descend .assignment tokens := by
  have leaves := expression_leave Level.or.power tokens
  rw [expression_staged Level.assignment.power Level.or.power (by decide) tokens, descend_assignment]
  rw [same] at leaves ⊢
  refine onwards_congr _ _ _ _ leaves ?_
  intro target rest fewer weak
  refine operations_assigned target rest weak ?_
  intro later shorter
  exact below later (Nat.lt_trans shorter fewer)

theorem expression_unary (tokens : List Token) : expression unaryPower tokens = operand tokens := by
  rw [expression_onwards]
  have stops : operations unaryPower = ended := by
    funext left rest
    exact operations_ended unaryPower left rest (weaker_unary rest)
  rw [stops, onwards_still]

mutual

theorem expression_descend (level : Level) (small : level.rank ≤ 7) (tokens : List Token) :
    expression level.power tokens = descend level tokens := by
  by_cases least : level.rank = 0
  · obtain rfl := rank_injective level .assignment least
    refine expression_assignment tokens (expression_descend .or (by decide) tokens) ?_
    intro rest fewer
    exact expression_descend .assignment (by decide) rest
  by_cases most : level.rank = 7
  · obtain rfl := rank_injective level .unary most
    exact (expression_unary tokens).trans (operand_descend tokens)
  · have next := rank_tighter level (ne_primary level (by omega))
    refine expression_chained level (by omega) (by omega) tokens (expression_descend level.tighter (by omega) tokens) ?_
    intro rest fewer
    exact expression_descend level.tighter (by omega) rest
termination_by 16 * tokens.length + (12 - level.rank)
decreasing_by
  · have next : Level.or.rank = 1 := rfl
    omega
  all_goals omega

theorem operand_descend (tokens : List Token) : operand tokens = descend .unary tokens := by
  match tokens with
  | [] =>
    rw [operand, descend, descend, descend]
    rfl
  | sign :: rest =>
    rw [operand]
    split
    · rename_i plain
      rw [descend]
      simp only [plain]
      exact callable_descend (sign :: rest)
    · rename_i op found
      rw [descend]
      simp only [found]
      rw [← expression_descend .unary (by decide) rest]
      rfl
termination_by 16 * tokens.length + 4
decreasing_by
  · omega
  · simp only [Level.rank, List.length_cons]
    omega

theorem callable_descend (tokens : List Token) : callable tokens = descend .call tokens := by
  rw [callable, descend, primary_descend tokens]
  refine onwards_congr _ (descend .primary tokens) calls called (leaves_any _) ?_
  intro callee rest fewer _
  exact calls_descend callee rest
termination_by 16 * tokens.length + 3
decreasing_by all_goals omega

theorem calls_descend (callee : Expr) (tokens : List Token) : calls callee tokens = called callee tokens := by
  match tokens with
  | [] => rw [calls, called]
  | paren :: rest =>
    rw [calls, called, arguments_descend rest]
    split
    · congr 1
      refine onwards_congr _ (descendArguments rest).past (fun args => calls (.call callee args.1 args.2))
        (fun args => called (.call callee args.1 args.2)) (leaves_any _) ?_
      intro args rest' fewer _
      exact calls_descend _ rest'
    · rfl
termination_by 16 * tokens.length + 0
decreasing_by all_goals (simp only [List.length_cons] at *; omega)

theorem arguments_descend (tokens : List Token) : arguments tokens = descendArguments tokens := by
  rw [arguments, descendArguments, moreArguments_descend tokens]
termination_by 16 * tokens.length + 14
decreasing_by omega

theorem moreArguments_descend (tokens : List Token) : moreArguments tokens = descendMoreArguments tokens := by
  rw [moreArguments, descendMoreArguments, expression_any, expression_descend .assignment (by decide) tokens]
  congr 1
  funext arg rest fewer
  cases rest with
  | nil => rfl
  | cons sign rest =>
    have shorter := tail_lt fewer
    dsimp only
    rw [moreArguments_descend rest]
termination_by 16 * tokens.length + 13
decreasing_by
  · simp only [Level.rank]
    omega
  · omega

theorem primary_descend (tokens : List Token) : primary tokens = descend .primary tokens := by
  match tokens with
  | [] => rw [primary, descend]
  | t :: rest =>
    rewrite [primary, descend, expression_any, expression_descend .assignment (by decide) rest]
    rfl
termination_by 16 * tokens.length + 2
decreasing_by
  simp only [Level.rank, List.length_cons]
  omega

end

end StoryScript.Grammar

namespace StoryScript.Parser

open Grammar

def readLevels (p : Parser) : Option Expr × Parser :=
  let reading := descend .assignment p.tokens
  (reading.phrase?, p.advance reading.faults reading.rest)

-- Wherever a parser stands, whatever follows: reading by powers and reading level by level give the same tree or
-- none, leave the same tokens and find the same faults in the same order.
theorem powers_read_as_levels (p : Parser) : p.readExpression = p.readLevels := by
  rw [readExpression, readLevels, expression_any, expression_descend .assignment (by decide) p.tokens]

end StoryScript.Parser

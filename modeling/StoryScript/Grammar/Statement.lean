import StoryScript.Grammar.Expression

set_option autoImplicit false

namespace StoryScript.Grammar

def name (complaint : Complaint) (tokens : List Token) : Reading Ident tokens.length :=
  (expect .identifier complaint tokens).map identOf

def terminated (complaint : Complaint) (tokens : List Token) : Reading Expr tokens.length :=
  (expression 0 tokens).bind fun expr rest fewer =>
    ((expect .semicolon complaint rest).map fun _ => expr).within fewer

def parenthesised (opening closing : Complaint) (tokens : List Token) :
    Reading Expr tokens.length :=
  (expect .leftParen opening tokens).bind fun _ rest fewer =>
    ((expression 0 rest).within fewer).bind fun expr rest fewer =>
      ((expect .rightParen closing rest).map fun _ => expr).within fewer

def expressionStatement (tokens : List Token) : Reading Stmt tokens.length :=
  (terminated .semicolonAfterExpression tokens).map Stmt.expression

def printStatement (keyword : Token) (tokens : List Token) : Reading Stmt tokens.length :=
  (terminated .semicolonAfterPrint tokens).map fun expr => .print expr keyword.line

def returnStatement (keyword : Token) (tokens : List Token) : Reading Stmt tokens.length :=
  if startsWith .semicolon tokens then
    (expect .semicolon .semicolonAfterReturn tokens).map fun _ => .ret none keyword.line
  else (terminated .semicolonAfterReturn tokens).map fun expr => .ret (some expr) keyword.line

def varDeclaration (tokens : List Token) : Reading Stmt tokens.length :=
  (name .variableName tokens).bind fun ident rest fewer =>
    match rest with
    | [] => (complain .semicolonAfterVariable []).within fewer
    | sign :: value =>
      if sign.kind = .equal then
        ((terminated .semicolonAfterVariable value).map fun expr =>
          Stmt.var ident (some expr)).within (tail_lt fewer)
      else
        ((expect .semicolon .semicolonAfterVariable (sign :: value)).map fun _ =>
          Stmt.var ident none).within fewer

def moreParameters (tokens : List Token) : Reading (List Ident) tokens.length :=
  (name .parameterName tokens).bind fun param rest fewer =>
    match rest with
    | [] => (complain .parenAfterParameters []).within fewer
    | sign :: rest' =>
      if sign.kind = .comma then
        have shorter := tail_lt fewer
        ((moreParameters rest').map fun params => param :: params).within shorter
      else
        ((expect .rightParen .parenAfterParameters (sign :: rest')).map fun _ =>
          [param]).within fewer
termination_by tokens.length

def parameters (tokens : List Token) : Reading (List Ident) tokens.length :=
  if startsWith .rightParen tokens then
    (expect .rightParen .parenAfterParameters tokens).map fun _ => []
  else moreParameters tokens

def functionHead (tokens : List Token) : Reading (Ident × List Ident) tokens.length :=
  (name .functionName tokens).bind fun ident rest fewer =>
    ((expect .leftParen .parenBeforeParameters rest).within fewer).bind fun _ rest fewer =>
      ((parameters rest).within fewer).bind fun params rest fewer =>
        ((expect .leftBrace .braceBeforeBody rest).map fun _ => (ident, params)).within fewer

def forInitializer (tokens : List Token) : Reading (Option Stmt) tokens.length :=
  match tokens with
  | [] => (expressionStatement []).map some
  | t :: rest =>
    if t.kind = .semicolon then ended none rest
    else if t.kind = .wordVar then ((varDeclaration rest).map some).past
    else (expressionStatement (t :: rest)).map some

def forCondition (tokens : List Token) : Reading (Option Expr) tokens.length :=
  if startsWith .semicolon tokens then
    (expect .semicolon .semicolonAfterCondition tokens).map fun _ => none
  else (terminated .semicolonAfterCondition tokens).map some

def forIncrement (tokens : List Token) : Reading (Option Expr) tokens.length :=
  if startsWith .rightParen tokens then
    (expect .rightParen .parenAfterClauses tokens).map fun _ => none
  else
    (expression 0 tokens).bind fun expr rest fewer =>
      ((expect .rightParen .parenAfterClauses rest).map fun _ => some expr).within fewer

structure Clauses where
  initializer : Option Stmt
  condition : Option Expr
  increment : Option Expr

def forClauses (tokens : List Token) : Reading Clauses tokens.length :=
  (expect .leftParen .parenAfterFor tokens).bind fun _ rest fewer =>
    ((forInitializer rest).within fewer).bind fun initializer rest fewer =>
      ((forCondition rest).within fewer).bind fun condition rest fewer =>
        ((forIncrement rest).map fun increment =>
          Clauses.mk initializer condition increment).within fewer

-- Statements read one after another, and no more than `bound` tokens left.
structure Listing (bound : Nat) where
  body : List Stmt
  faults : List Fault
  rest : List Token
  atMost : rest.length ≤ bound

namespace Listing

variable {m n : Nat}

def empty (tokens : List Token) : Listing tokens.length := ⟨[], [], tokens, self_le tokens⟩

def after (stmts : List Stmt) (faults : List Fault) (l : Listing m) (fewer : m < n) : Listing n :=
  ⟨stmts ++ l.body, faults ++ l.faults, l.rest, Nat.le_trans l.atMost (Nat.le_of_lt fewer)⟩

def close (l : Listing n) : Reading (List Stmt) n :=
  match l with
  | ⟨body, faults, rest, atMost⟩ =>
    (((expect .rightBrace .braceAfterBlock rest).map fun _ => body).after faults).widen atMost

end Listing

mutual

def statement (tokens : List Token) : Reading Stmt tokens.length :=
  match tokens with
  | [] => expressionStatement []
  | t :: rest =>
    match t.kind with
    | .wordPrint => (printStatement t rest).past
    | .wordReturn => (returnStatement t rest).past
    | .leftBrace => ((block rest).map Stmt.block).past
    | .wordIf =>
      (parenthesised .parenAfterIf .parenAfterIfCondition rest).past.bind
        fun condition rest₁ fewer =>
          ((statement rest₁).within fewer).bind fun thenBranch rest₂ fewer =>
            match rest₂ with
            | [] => .read (.ifThen condition thenBranch) [] [] fewer
            | word :: rest₃ =>
              if word.kind = .wordElse then
                have shorter := tail_lt_succ fewer
                ((statement rest₃).map fun elseBranch =>
                  Stmt.ifElse condition thenBranch elseBranch).within shorter
              else .read (.ifThen condition thenBranch) [] (word :: rest₃) fewer
    | .wordWhile =>
      (parenthesised .parenAfterWhile .parenAfterCondition rest).past.bind
        fun condition rest₁ fewer =>
          ((statement rest₁).map fun body => Stmt.loop condition body).within fewer
    | .wordFor =>
      (forClauses rest).past.bind fun clauses rest₁ fewer =>
        ((statement rest₁).map fun body =>
          Stmt.forLoop clauses.initializer clauses.condition clauses.increment body).within fewer
    | _ => expressionStatement (t :: rest)
termination_by 8 * tokens.length + 0
decreasing_by all_goals grind

def block (tokens : List Token) : Reading (List Stmt) tokens.length :=
  (declarations tokens).close
termination_by 8 * tokens.length + 3
decreasing_by all_goals grind

-- The declarations up to a closing brace or the end. One that cannot be read is left out.
def declarations (tokens : List Token) : Listing tokens.length :=
  match tokens with
  | [] => .empty []
  | t :: rest =>
    if t.kind = .rightBrace then .empty (t :: rest)
    else
      match declaration (t :: rest) with
      | .read stmt faults rest' fewer => (declarations rest').after [stmt] faults fewer
      | .failed faults rest' atMost =>
        have shorter := synchronize_lt atMost
        (declarations (synchronize rest')).after [] faults shorter
termination_by 8 * tokens.length + 2
decreasing_by all_goals grind

def declaration (tokens : List Token) : Reading Stmt tokens.length :=
  match tokens with
  | [] => statement []
  | t :: rest =>
    if t.kind = .wordVar then (varDeclaration rest).past
    else if t.kind = .wordFun then
      (functionHead rest).past.bind fun head rest₁ fewer =>
        ((block rest₁).map fun body => Stmt.function head.1 head.2 body).within fewer
    else statement (t :: rest)
termination_by 8 * tokens.length + 1
decreasing_by all_goals grind

end

def program (tokens : List Token) : Listing tokens.length :=
  match tokens with
  | [] => .empty []
  | t :: rest =>
    match declaration (t :: rest) with
    | .read stmt faults rest' fewer => (program rest').after [stmt] faults fewer
    | .failed faults rest' atMost =>
      have shorter := synchronize_lt atMost
      (program (synchronize rest')).after [] faults shorter
termination_by tokens.length
decreasing_by
  · exact fewer
  · exact shorter

end StoryScript.Grammar

import StoryScript.Grammar.Parser
import StoryScript.Run

set_option autoImplicit false

namespace StoryScript

open Grammar (binding? unaryOp? unaryPower identOf Operator)

structure Cursor where
  tokens : List Token
  current : Nat
  diagnostics : List Diagnostic
deriving DecidableEq

-- A violation of the grammar has been reported already. Looking beyond the tokens is nowhere provided for.
inductive Cursor.Stop where
  | violation
  | outOfBounds
deriving DecidableEq

-- A computation on a cursor: the cursors that it passes through, one for each step, and how it ends.
def Walk (α : Type) : Type := Cursor → List Cursor × Finish Cursor Cursor.Stop α

namespace Walk

variable {α β : Type}

protected def pure (result : α) : Walk α := fun c => ([], .done result c)

protected def bind (x : Walk α) (f : α → Walk β) : Walk β := fun c =>
  match x c with
  | (course, .done result c') =>
    match f result c' with
    | (further, finish) => (course ++ further, finish)
  | (course, .fault stop c') => (course, .fault stop c')
  | (course, .outOfFuel) => (course, .outOfFuel)

instance : Monad Walk where
  pure := Walk.pure
  bind := Walk.bind

def noFuel : Walk α := fun _ => ([], .outOfFuel)

def violation : Walk α := fun c => ([], .fault .violation c)

-- Nothing comes of a computation that met a violation, which goes no further.
def attempt (x : Walk α) : Walk (Option α) := fun c =>
  match x c with
  | (course, .done result c') => (course, .done (some result) c')
  | (course, .fault .violation c') => (course, .done none c')
  | (course, .fault .outOfBounds c') => (course, .fault .outOfBounds c')
  | (course, .outOfFuel) => (course, .outOfFuel)

def look (index : Cursor → Nat) : Walk Token := fun c =>
  match c.tokens[index c]? with
  | some t => ([c], .done t c)
  | none => ([], .fault .outOfBounds c)

def step (change : Cursor → Cursor) : Walk Unit := fun c => ([change c], .done () (change c))

def peek : Walk Token := look fun c => c.current

def previous : Walk Token := look fun c => c.current - 1

def isAtEnd : Walk Bool := do return (← peek).kind == .eof

def next : Walk Token := do
  if !(← isAtEnd) then
    step fun c => { c with current := c.current + 1 }
  previous

def check (kind : Kind) : Walk Bool := do return (← peek).kind == kind

def eat (kind : Kind) : Walk Bool := do
  if (← check kind) && kind != .eof then
    let _ ← next
    return true
  else return false

def errorAt (t : Token) (message : String) : Walk Unit :=
  let location := if t.kind = .eof then Location.endOfTokens else .lexeme t.lexeme
  step fun c => { c with diagnostics := c.diagnostics ++ [⟨message, t.line, location⟩] }

def unexpected (message : String) : Walk α := do
  errorAt (← peek) message
  violation

def expect (kind : Kind) (message : String) : Walk Token := do
  if ← check kind then next else unexpected message

def unlessAt {α : Type} (kind : Kind) (nothing : α) (x : Walk α) : Walk α := do
  if ← check kind then return nothing else x

def listed {α : Type} (item : α) (more : Walk (List α)) : Walk (List α) := do
  if ← eat .comma then
    let items ← more
    return item :: items
  else return [item]

def recover : Nat → Walk Unit
  | 0 => noFuel
  | fuel + 1 => do
    if ← isAtEnd then return ()
    else if (← previous).kind == .semicolon then return ()
    else if (← peek).kind.startsStatement then return ()
    else
      let _ ← next
      recover fuel

def synchronize (fuel : Nat) : Walk Unit := do
  let _ ← peek
  let _ ← next
  recover fuel

def settle (fuel : Nat) : Option Stmt → Walk (Option Stmt)
  | some stmt => return some stmt
  | none => do
    synchronize fuel
    return none

def ident (message : String) : Walk Ident := do return identOf (← expect .identifier message)

def finish (operator : Operator) (left : Expr) (sign : Token) (right : Expr) : Walk Expr := do
  match operator with
  | .logical op => return .logical left op right
  | .binary op => return .binary left op right sign.line
  | .assign =>
    match left with
    | .reference ident => return .assign ident right
    | target =>
      errorAt sign "Invalid assignment target."
      return target

mutual

def expression : Nat → Nat → Walk Expr
  | 0, _ => noFuel
  | fuel + 1, power => do
    let left ← operand fuel
    operations fuel power left

def operations : Nat → Nat → Expr → Walk Expr
  | 0, _, _ => noFuel
  | fuel + 1, power, left => do
    match binding? (← peek).kind with
    | none => return left
    | some b =>
      if b.left < power then return left
      else
        let sign ← next
        let right ← expression fuel b.right
        let whole ← finish b.operator left sign right
        operations fuel power whole

def operand : Nat → Walk Expr
  | 0 => noFuel
  | fuel + 1 => do
    match unaryOp? (← peek).kind with
    | none => callable fuel
    | some op =>
      let sign ← next
      let inner ← expression fuel unaryPower
      return .unary op inner sign.line

def callable : Nat → Walk Expr
  | 0 => noFuel
  | fuel + 1 => do
    let callee ← primary fuel
    calls fuel callee

def calls : Nat → Expr → Walk Expr
  | 0, _ => noFuel
  | fuel + 1, callee => do
    if ← eat .leftParen then
      let args ← unlessAt .rightParen [] (arguments fuel)
      let paren ← expect .rightParen "Expect ')' after arguments."
      calls fuel (.call callee args paren.line)
    else return callee

def arguments : Nat → Walk (List Expr)
  | 0 => noFuel
  | fuel + 1 => do
    let arg ← expression fuel 0
    listed arg (arguments fuel)

def primary : Nat → Walk Expr
  | 0 => noFuel
  | fuel + 1 => do
    match (← peek).kind with
    | .number | .string | .wordTrue | .wordFalse =>
      let t ← next
      return .literal (t.literal.getD .nil)
    | .wordNil =>
      let _ ← next
      return .literal .nil
    | .identifier =>
      let t ← next
      return .reference (identOf t)
    | .leftParen =>
      let _ ← next
      let inner ← expression fuel 0
      let _ ← expect .rightParen "Expect ')' after expression."
      return .grouping inner
    | _ => unexpected "Expect expression."

end

def parenthesised (opening closing : String) (fuel : Nat) : Walk Expr := do
  let _ ← expect .leftParen opening
  let expr ← expression fuel 0
  let _ ← expect .rightParen closing
  return expr

def optional (kind : Kind) (fuel : Nat) : Walk (Option Expr) :=
  unlessAt kind none do return some (← expression fuel 0)

def initialValue (fuel : Nat) : Walk (Option Expr) := do
  if ← eat .equal then return some (← expression fuel 0) else return none

def varDeclaration (fuel : Nat) : Walk Stmt := do
  let _ ← expect .wordVar "Expect 'var'."
  let name ← ident "Expect variable name."
  let initializer ← initialValue fuel
  let _ ← expect .semicolon "Expect ';' after variable declaration."
  return .var name initializer

def parameters : Nat → Walk (List Ident)
  | 0 => noFuel
  | fuel + 1 => do
    let param ← ident "Expect parameter name."
    listed param (parameters fuel)

def printStatement (fuel : Nat) : Walk Stmt := do
  let keyword ← expect .wordPrint "Expect 'print'."
  let expr ← expression fuel 0
  let _ ← expect .semicolon "Expect ';' after value."
  return .print expr keyword.line

def expressionStatement (fuel : Nat) : Walk Stmt := do
  let expr ← expression fuel 0
  let _ ← expect .semicolon "Expect ';' after expression."
  return .expression expr

def returnStatement (fuel : Nat) : Walk Stmt := do
  let keyword ← expect .wordReturn "Expect 'return'."
  let value ← optional .semicolon fuel
  let _ ← expect .semicolon "Expect ';' after return value."
  return .ret value keyword.line

def forInitializer (fuel : Nat) : Walk (Option Stmt) := do
  match (← peek).kind with
  | .semicolon =>
    let _ ← next
    return none
  | .wordVar => return some (← varDeclaration fuel)
  | _ => return some (← expressionStatement fuel)

mutual

def statement : Nat → Walk Stmt
  | 0 => noFuel
  | fuel + 1 => do
    match (← peek).kind with
    | .wordPrint => printStatement fuel
    | .leftBrace =>
      let _ ← next
      let body ← block fuel
      return .block body
    | .wordIf => ifStatement fuel
    | .wordWhile => whileStatement fuel
    | .wordFor => forStatement fuel
    | .wordReturn => returnStatement fuel
    | _ => expressionStatement fuel

def ifStatement : Nat → Walk Stmt
  | 0 => noFuel
  | fuel + 1 => do
    let _ ← expect .wordIf "Expect 'if'."
    let condition ← parenthesised "Expect '(' after 'if'." "Expect ')' after if condition." fuel
    let thenBranch ← statement fuel
    if ← eat .wordElse then
      let elseBranch ← statement fuel
      return .ifElse condition thenBranch elseBranch
    else return .ifThen condition thenBranch

def whileStatement : Nat → Walk Stmt
  | 0 => noFuel
  | fuel + 1 => do
    let _ ← expect .wordWhile "Expect 'while'."
    let condition ← parenthesised "Expect '(' after 'while'." "Expect ')' after condition." fuel
    let body ← statement fuel
    return .loop condition body

def forStatement : Nat → Walk Stmt
  | 0 => noFuel
  | fuel + 1 => do
    let _ ← expect .wordFor "Expect 'for'."
    let _ ← expect .leftParen "Expect '(' after 'for'."
    let initializer ← forInitializer fuel
    let condition ← optional .semicolon fuel
    let _ ← expect .semicolon "Expect ';' after loop condition."
    let increment ← optional .rightParen fuel
    let _ ← expect .rightParen "Expect ')' after for clauses."
    let body ← statement fuel
    return .forLoop initializer condition increment body

def block : Nat → Walk (List Stmt)
  | 0 => noFuel
  | fuel + 1 => do
    let body ← blockBody fuel
    let _ ← expect .rightBrace "Expect '\x7d' after block."
    return body

def blockBody : Nat → Walk (List Stmt)
  | 0 => noFuel
  | fuel + 1 => do
    if ← check .rightBrace then return []
    else if ← isAtEnd then return []
    else
      let stmt ← declaration fuel
      let more ← blockBody fuel
      return stmt.toList ++ more

def functionDeclaration : Nat → Walk Stmt
  | 0 => noFuel
  | fuel + 1 => do
    let _ ← expect .wordFun "Expect 'fun'."
    let name ← ident "Expect function name."
    let _ ← expect .leftParen "Expect '(' after function name."
    let params ← unlessAt .rightParen [] (parameters fuel)
    let _ ← expect .rightParen "Expect ')' after parameters."
    let _ ← expect .leftBrace "Expect '\x7b' before function body."
    let body ← block fuel
    return .function name params body

def declaration : Nat → Walk (Option Stmt)
  | 0 => noFuel
  | fuel + 1 => do
    let read : Walk Stmt := do
      match (← peek).kind with
      | .wordVar => varDeclaration fuel
      | .wordFun => functionDeclaration fuel
      | _ => statement fuel
    settle fuel (← attempt read)

end

def program : Nat → Walk Program
  | 0 => noFuel
  | fuel + 1 => do
    if ← isAtEnd then return []
    else
      let stmt ← declaration fuel
      let more ← program fuel
      return stmt.toList ++ more

def serve (fuel : Nat) : Parser.Request → Walk Parser.Answer
  | .program => do return .program (← program fuel)
  | .declaration => do return .statement (← declaration fuel)
  | .statement => do return .statement (← attempt (statement fuel))
  | .expression => do return .expression (← attempt (expression fuel 0))

def serveAll (fuel : Nat) : List Parser.Request → Walk (List Parser.Answer)
  | [] => return []
  | request :: rest => do
    let answer ← serve fuel request
    let answers ← serveAll fuel rest
    return answer :: answers

end Walk

-- An end is added, unless the last token is one.
def Parser.withEnd (startLine : Nat) (tokens : List Token) : List Token :=
  if tokens.getLast?.map Token.kind = some .eof then tokens
  else tokens ++ [Token.endAt ((tokens.getLast?.map Token.line).getD startLine)]

def Cursor.ofTokens (startLine : Nat) (diagnostics : List Diagnostic) (tokens : List Token) : Cursor :=
  ⟨Parser.withEnd startLine tokens, 0, diagnostics⟩

end StoryScript

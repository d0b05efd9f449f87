import StoryScript.Grammar.Statement

set_option autoImplicit false

namespace StoryScript.Grammar

inductive Level where
  | assignment
  | or
  | and
  | equality
  | comparison
  | term
  | factor
  | unary
  | call
  | primary
deriving DecidableEq

def Level.tighter : Level → Level
  | .assignment => .or
  | .or => .and
  | .and => .equality
  | .equality => .comparison
  | .comparison => .term
  | .term => .factor
  | .factor => .unary
  | .unary => .call
  | .call => .primary
  | .primary => .primary

def Level.logicalOp? : Level → Kind → Option LogicalOp
  | .or, .wordOr => some .or
  | .and, .wordAnd => some .and
  | _, _ => none

def Level.binaryOp? : Level → Kind → Option BinaryOp
  | .equality, .equalEqual => some .equal
  | .equality, .bangEqual => some .notEqual
  | .comparison, .greater => some .greater
  | .comparison, .greaterEqual => some .greaterEqual
  | .comparison, .less => some .less
  | .comparison, .lessEqual => some .lessEqual
  | .term, .plus => some .add
  | .term, .minus => some .subtract
  | .factor, .star => some .multiply
  | .factor, .slash => some .divide
  | _, _ => none

-- Tokens that write out a value. A number that cannot be read stands for `nil`.
def Token.IsLiteral (t : Token) : Prop :=
  t.kind = .number ∨ t.kind = .string ∨ t.kind = .wordTrue ∨ t.kind = .wordFalse

-- The left operand of a binary sign is of the sign's own level and the right one of the next, which
-- groups to the left. The value of an assignment is again an assignment, which groups to the right,
-- and its target is one bare name.
mutual

inductive Derives : Level → List Token → Expr → Prop where
  | tighter (level : Level) (tokens : List Token) (expr : Expr) (looser : level ≠ .primary)
      (inner : Derives level.tighter tokens expr) : Derives level tokens expr
  | assign (name sign : Token) (tokens : List Token) (value : Expr) (isName : name.kind = .identifier)
      (isSign : sign.kind = .equal) (inner : Derives .assignment tokens value) :
      Derives .assignment (name :: sign :: tokens) (.assign ⟨name.lexeme, name.line⟩ value)
  | logical (level : Level) (op : LogicalOp) (before after : List Token) (sign : Token) (left right : Expr)
      (isSign : level.logicalOp? sign.kind = some op) (leftInner : Derives level before left)
      (rightInner : Derives level.tighter after right) :
      Derives level (before ++ sign :: after) (.logical left op right)
  | binary (level : Level) (op : BinaryOp) (before after : List Token) (sign : Token) (left right : Expr)
      (isSign : level.binaryOp? sign.kind = some op) (leftInner : Derives level before left)
      (rightInner : Derives level.tighter after right) :
      Derives level (before ++ sign :: after) (.binary left op right sign.line)
  | not (sign : Token) (tokens : List Token) (operand : Expr) (isSign : sign.kind = .bang)
      (inner : Derives .unary tokens operand) : Derives .unary (sign :: tokens) (.unary .not operand sign.line)
  | negate (sign : Token) (tokens : List Token) (operand : Expr) (isSign : sign.kind = .minus)
      (inner : Derives .unary tokens operand) : Derives .unary (sign :: tokens) (.unary .negate operand sign.line)
  | call (before within : List Token) (opening closing : Token) (callee : Expr) (args : List Expr)
      (isOpening : opening.kind = .leftParen) (isClosing : closing.kind = .rightParen)
      (calleeInner : Derives .call before callee) (argsInner : DerivesArguments within args) :
      Derives .call (before ++ opening :: (within ++ [closing])) (.call callee args closing.line)
  | literal (t : Token) (isLiteral : Token.IsLiteral t) : Derives .primary [t] (.literal (t.literal.getD .nil))
  | nil (t : Token) (isNil : t.kind = .wordNil) : Derives .primary [t] (.literal .nil)
  | name (t : Token) (isName : t.kind = .identifier) : Derives .primary [t] (.reference ⟨t.lexeme, t.line⟩)
  | grouping (opening closing : Token) (tokens : List Token) (expr : Expr) (isOpening : opening.kind = .leftParen)
      (isClosing : closing.kind = .rightParen) (inner : Derives .assignment tokens expr) :
      Derives .primary (opening :: (tokens ++ [closing])) (.grouping expr)

inductive DerivesArguments : List Token → List Expr → Prop where
  | none : DerivesArguments [] []
  | last (tokens : List Token) (arg : Expr) (inner : Derives .assignment tokens arg) :
      DerivesArguments tokens [arg]
  | more (before after : List Token) (comma : Token) (arg next : Expr) (args : List Expr)
      (isComma : comma.kind = .comma) (inner : Derives .assignment before arg)
      (rest : DerivesArguments after (next :: args)) :
      DerivesArguments (before ++ comma :: after) (arg :: next :: args)

end

abbrev DerivesExpression (tokens : List Token) (expr : Expr) : Prop := Derives .assignment tokens expr

inductive DerivesOptional : List Token → Option Expr → Prop where
  | absent : DerivesOptional [] none
  | present (tokens : List Token) (expr : Expr) (inner : DerivesExpression tokens expr) :
      DerivesOptional tokens (some expr)

inductive DerivesExpressionStatement : List Token → Stmt → Prop where
  | expression (tokens : List Token) (semicolon : Token) (expr : Expr) (isEnd : semicolon.kind = .semicolon)
      (inner : DerivesExpression tokens expr) :
      DerivesExpressionStatement (tokens ++ [semicolon]) (.expression expr)

inductive DerivesVar : List Token → Stmt → Prop where
  | bare (word name semicolon : Token) (isWord : word.kind = .wordVar) (isName : name.kind = .identifier)
      (isEnd : semicolon.kind = .semicolon) :
      DerivesVar [word, name, semicolon] (.var ⟨name.lexeme, name.line⟩ none)
  | initialised (word name sign semicolon : Token) (tokens : List Token) (value : Expr)
      (isWord : word.kind = .wordVar) (isName : name.kind = .identifier) (isSign : sign.kind = .equal)
      (isEnd : semicolon.kind = .semicolon) (inner : DerivesExpression tokens value) :
      DerivesVar (word :: name :: sign :: (tokens ++ [semicolon])) (.var ⟨name.lexeme, name.line⟩ (some value))

inductive DerivesParameters : List Token → List Ident → Prop where
  | none : DerivesParameters [] []
  | last (name : Token) (isName : name.kind = .identifier) : DerivesParameters [name] [⟨name.lexeme, name.line⟩]
  | more (name comma : Token) (tokens : List Token) (next : Ident) (params : List Ident)
      (isName : name.kind = .identifier) (isComma : comma.kind = .comma)
      (rest : DerivesParameters tokens (next :: params)) :
      DerivesParameters (name :: comma :: tokens) (⟨name.lexeme, name.line⟩ :: next :: params)

inductive DerivesInitializer : List Token → Option Stmt → Prop where
  | absent (semicolon : Token) (isEnd : semicolon.kind = .semicolon) : DerivesInitializer [semicolon] none
  | var (tokens : List Token) (stmt : Stmt) (inner : DerivesVar tokens stmt) : DerivesInitializer tokens (some stmt)
  | expression (tokens : List Token) (stmt : Stmt) (inner : DerivesExpressionStatement tokens stmt) :
      DerivesInitializer tokens (some stmt)

def loopRound (body : Stmt) : Option Expr → Stmt
  | none => body
  | some increment => .block [body, .expression increment]

-- A statement dangles when it ends in an `if` that could still take an `else`. What stands between
-- the condition and the `else` of an `if` does not dangle, so an `else` belongs to the nearest `if`
-- that is open. Bodies are statements, never declarations, unless a block encloses them.
mutual

inductive DerivesStatement : Bool → List Token → Stmt → Prop where
  | expression (tokens : List Token) (stmt : Stmt) (inner : DerivesExpressionStatement tokens stmt) :
      DerivesStatement false tokens stmt
  | print (word semicolon : Token) (tokens : List Token) (expr : Expr) (isWord : word.kind = .wordPrint)
      (isEnd : semicolon.kind = .semicolon) (inner : DerivesExpression tokens expr) :
      DerivesStatement false (word :: (tokens ++ [semicolon])) (.print expr word.line)
  | ret (word semicolon : Token) (tokens : List Token) (value : Option Expr) (isWord : word.kind = .wordReturn)
      (isEnd : semicolon.kind = .semicolon) (inner : DerivesOptional tokens value) :
      DerivesStatement false (word :: (tokens ++ [semicolon])) (.ret value word.line)
  | block (opening closing : Token) (tokens : List Token) (body : List Stmt) (isOpening : opening.kind = .leftBrace)
      (isClosing : closing.kind = .rightBrace) (inner : DerivesDeclarations tokens body) :
      DerivesStatement false (opening :: (tokens ++ [closing])) (.block body)
  | ifThen (dangles : Bool) (word opening closing : Token) (tokens thenTokens : List Token) (condition : Expr)
      (thenBranch : Stmt) (isWord : word.kind = .wordIf) (isOpening : opening.kind = .leftParen)
      (isClosing : closing.kind = .rightParen) (conditionInner : DerivesExpression tokens condition)
      (thenInner : DerivesStatement dangles thenTokens thenBranch) :
      DerivesStatement true (word :: opening :: (tokens ++ closing :: thenTokens)) (.ifThen condition thenBranch)
  | ifElse (dangles : Bool) (word opening closing other : Token) (tokens thenTokens elseTokens : List Token)
      (condition : Expr) (thenBranch elseBranch : Stmt) (isWord : word.kind = .wordIf)
      (isOpening : opening.kind = .leftParen) (isClosing : closing.kind = .rightParen)
      (isOther : other.kind = .wordElse) (conditionInner : DerivesExpression tokens condition)
      (thenInner : DerivesStatement false thenTokens thenBranch)
      (elseInner : DerivesStatement dangles elseTokens elseBranch) :
      DerivesStatement dangles (word :: opening :: (tokens ++ closing :: (thenTokens ++ other :: elseTokens)))
        (.ifElse condition thenBranch elseBranch)
  | loop (dangles : Bool) (word opening closing : Token) (tokens bodyTokens : List Token) (condition : Expr)
      (body : Stmt) (isWord : word.kind = .wordWhile) (isOpening : opening.kind = .leftParen)
      (isClosing : closing.kind = .rightParen) (conditionInner : DerivesExpression tokens condition)
      (bodyInner : DerivesStatement dangles bodyTokens body) :
      DerivesStatement dangles (word :: opening :: (tokens ++ closing :: bodyTokens)) (.loop condition body)
  | forLoop (dangles : Bool) (word opening semicolon closing : Token)
      (first second third bodyTokens : List Token) (initializer : Option Stmt) (condition increment : Option Expr)
      (body : Stmt) (isWord : word.kind = .wordFor) (isOpening : opening.kind = .leftParen)
      (isEnd : semicolon.kind = .semicolon) (isClosing : closing.kind = .rightParen)
      (firstInner : DerivesInitializer first initializer) (secondInner : DerivesOptional second condition)
      (thirdInner : DerivesOptional third increment) (bodyInner : DerivesStatement dangles bodyTokens body) :
      DerivesStatement dangles
        (word :: opening :: (first ++ (second ++ semicolon :: (third ++ closing :: bodyTokens))))
        (.block (initializer.toList ++
          [.loop (condition.getD (.literal (.bool true))) (loopRound body increment)]))

inductive DerivesDeclaration : List Token → Stmt → Prop where
  | var (tokens : List Token) (stmt : Stmt) (inner : DerivesVar tokens stmt) : DerivesDeclaration tokens stmt
  | function (word name opening closing brace ending : Token) (paramTokens bodyTokens : List Token)
      (params : List Ident) (body : List Stmt) (isWord : word.kind = .wordFun) (isName : name.kind = .identifier)
      (isOpening : opening.kind = .leftParen) (isClosing : closing.kind = .rightParen)
      (isBrace : brace.kind = .leftBrace) (isEnding : ending.kind = .rightBrace)
      (paramsInner : DerivesParameters paramTokens params) (bodyInner : DerivesDeclarations bodyTokens body) :
      DerivesDeclaration
        (word :: name :: opening :: (paramTokens ++ closing :: brace :: (bodyTokens ++ [ending])))
        (.function ⟨name.lexeme, name.line⟩ params body)
  | statement (dangles : Bool) (tokens : List Token) (stmt : Stmt) (inner : DerivesStatement dangles tokens stmt) :
      DerivesDeclaration tokens stmt

inductive DerivesDeclarations : List Token → List Stmt → Prop where
  | nil : DerivesDeclarations [] []
  | cons (before after : List Token) (stmt : Stmt) (rest : List Stmt) (first : DerivesDeclaration before stmt)
      (more : DerivesDeclarations after rest) : DerivesDeclarations (before ++ after) (stmt :: rest)

end

abbrev DerivesProgram (tokens : List Token) (program : Program) : Prop := DerivesDeclarations tokens program

end StoryScript.Grammar

import StoryScript.Literal

set_option autoImplicit false

namespace StoryScript

structure Ident where
  name : String
  line : Nat
deriving DecidableEq

inductive UnaryOp where
  | negate
  | not
deriving DecidableEq

inductive BinaryOp where
  | add
  | subtract
  | multiply
  | divide
  | greater
  | greaterEqual
  | less
  | lessEqual
  | equal
  | notEqual
deriving DecidableEq

inductive LogicalOp where
  | and
  | or
deriving DecidableEq

def UnaryOp.sign : UnaryOp → String
  | .negate => "-"
  | .not => "!"

def BinaryOp.sign : BinaryOp → String
  | .add => "+"
  | .subtract => "-"
  | .multiply => "*"
  | .divide => "/"
  | .greater => ">"
  | .greaterEqual => ">="
  | .less => "<"
  | .lessEqual => "<="
  | .equal => "=="
  | .notEqual => "!="

def LogicalOp.sign : LogicalOp → String
  | .and => "and"
  | .or => "or"

-- An expression. The line of an operation is that of its sign, the line of a call that of its closing
-- parenthesis.
inductive Expr where
  | literal (value : Literal)
  | grouping (inner : Expr)
  | unary (op : UnaryOp) (operand : Expr) (line : Nat)
  | binary (left : Expr) (op : BinaryOp) (right : Expr) (line : Nat)
  | logical (left : Expr) (op : LogicalOp) (right : Expr)
  | reference (ident : Ident)
  | assign (ident : Ident) (value : Expr)
  | call (callee : Expr) (args : List Expr) (line : Nat)

inductive Stmt where
  | expression (expr : Expr)
  | print (expr : Expr) (line : Nat)
  | var (ident : Ident) (initializer : Option Expr)
  | block (body : List Stmt)
  | ifThen (condition : Expr) (thenBranch : Stmt)
  | ifElse (condition : Expr) (thenBranch elseBranch : Stmt)
  | loop (condition : Expr) (body : Stmt)
  | function (ident : Ident) (params : List Ident) (body : List Stmt)
  | ret (value : Option Expr) (line : Nat)

abbrev Program := List Stmt

structure FunctionDecl where
  ident : Ident
  params : List Ident
  body : List Stmt

-- A loop with clauses is a block that holds the first clause and a plain loop. Without a condition it goes on
-- for ever, and the last clause runs after the body.
def Stmt.forLoop (initializer : Option Stmt) (condition : Option Expr) (increment : Option Expr)
    (body : Stmt) : Stmt :=
  let round := match increment with
    | none => body
    | some expr => .block [body, .expression expr]
  .block (initializer.toList ++ [.loop (condition.getD (.literal (.bool true))) round])

end StoryScript

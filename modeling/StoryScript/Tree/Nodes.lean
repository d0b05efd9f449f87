import StoryScript.Tree.Basic

set_option autoImplicit false

namespace StoryScript

inductive Node where
  | expr (expr : Expr)
  | stmt (stmt : Stmt)

mutual

def Expr.nodes : Expr → List Node
  | .literal value => [.expr (.literal value)]
  | .grouping inner => .expr (.grouping inner) :: inner.nodes
  | .unary op operand line => .expr (.unary op operand line) :: operand.nodes
  | .binary left op right line =>
    .expr (.binary left op right line) :: (left.nodes ++ right.nodes)
  | .logical left op right => .expr (.logical left op right) :: (left.nodes ++ right.nodes)
  | .reference ident => [.expr (.reference ident)]
  | .assign ident value => .expr (.assign ident value) :: value.nodes
  | .call callee args line =>
    .expr (.call callee args line) :: (callee.nodes ++ Expr.nodesAll args)

def Expr.nodesAll : List Expr → List Node
  | [] => []
  | expr :: rest => expr.nodes ++ Expr.nodesAll rest

end

def Expr.nodesOption : Option Expr → List Node
  | none => []
  | some expr => expr.nodes

mutual

def Stmt.nodes : Stmt → List Node
  | .expression expr => .stmt (.expression expr) :: expr.nodes
  | .print expr line => .stmt (.print expr line) :: expr.nodes
  | .var ident initializer => .stmt (.var ident initializer) :: Expr.nodesOption initializer
  | .block body => .stmt (.block body) :: Stmt.nodesAll body
  | .ifThen condition thenBranch =>
    .stmt (.ifThen condition thenBranch) :: (condition.nodes ++ thenBranch.nodes)
  | .ifElse condition thenBranch elseBranch =>
    .stmt (.ifElse condition thenBranch elseBranch) ::
      (condition.nodes ++ thenBranch.nodes ++ elseBranch.nodes)
  | .loop condition body => .stmt (.loop condition body) :: (condition.nodes ++ body.nodes)
  | .function ident params body => .stmt (.function ident params body) :: Stmt.nodesAll body
  | .ret value line => .stmt (.ret value line) :: Expr.nodesOption value

def Stmt.nodesAll : List Stmt → List Node
  | [] => []
  | stmt :: rest => stmt.nodes ++ Stmt.nodesAll rest

end

-- The name and parameters of a function are not nodes, nor is the name that is assigned to.
def Program.nodes (program : Program) : List Node := Stmt.nodesAll program

namespace Node

def atLine (line : Nat) : String := "@" ++ toString line

def exprLabel : Expr → String
  | .literal value => "Literal " ++ value.render
  | .grouping _ => "Grouping"
  | .unary op _ line => "Unary " ++ op.sign ++ " " ++ atLine line
  | .binary _ op _ line => "Binary " ++ op.sign ++ " " ++ atLine line
  | .logical _ op _ => "Logical " ++ op.sign
  | .reference ident => "Variable " ++ ident.name ++ " " ++ atLine ident.line
  | .assign ident _ => "Assign " ++ ident.name ++ " " ++ atLine ident.line
  | .call _ args line => "Call " ++ toString args.length ++ " " ++ atLine line

def stmtLabel : Stmt → String
  | .expression _ => "ExprStmt"
  | .print _ line => "Print " ++ atLine line
  | .var ident _ => "Var " ++ ident.name ++ " " ++ atLine ident.line
  | .block body => "Block " ++ toString body.length
  | .ifThen .. => "If else=false"
  | .ifElse .. => "If else=true"
  | .loop .. => "While"
  | .function ident params _ =>
    "Fun " ++ ident.name ++ " " ++ atLine ident.line ++
      String.join (params.map fun param => " " ++ param.name ++ atLine param.line)
  | .ret _ line => "Return " ++ atLine line

def label : Node → String
  | .expr e => exprLabel e
  | .stmt s => stmtLabel s

end Node

end StoryScript

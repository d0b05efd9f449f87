import StoryScript.Tree.Basic

set_option autoImplicit false

namespace StoryScript

mutual

def Expr.render : Expr → String
  | .literal value => value.render
  | .grouping inner => "(group " ++ inner.render ++ ")"
  | .unary op operand _ => "(" ++ op.sign ++ " " ++ operand.render ++ ")"
  | .binary left op right _ => "(" ++ op.sign ++ " " ++ left.render ++ " " ++ right.render ++ ")"
  | .logical left op right => "(" ++ op.sign ++ " " ++ left.render ++ " " ++ right.render ++ ")"
  | .reference ident => ident.name
  | .assign ident value => "(= " ++ ident.name ++ " " ++ value.render ++ ")"
  | .call callee args _ => "(call " ++ callee.render ++ Expr.renderAll args ++ ")"

def Expr.renderAll : List Expr → String
  | [] => ""
  | expr :: rest => " " ++ expr.render ++ Expr.renderAll rest

end

def Expr.renderOption : Option Expr → String
  | none => ""
  | some expr => " " ++ expr.render

mutual

def Stmt.render : Stmt → String
  | .expression expr => "(expr " ++ expr.render ++ ")"
  | .print expr _ => "(print " ++ expr.render ++ ")"
  | .var ident initializer => "(var " ++ ident.name ++ Expr.renderOption initializer ++ ")"
  | .block body => "(block" ++ Stmt.renderAll body ++ ")"
  | .ifThen condition thenBranch =>
    "(if " ++ condition.render ++ " " ++ thenBranch.render ++ ")"
  | .ifElse condition thenBranch elseBranch =>
    "(if " ++ condition.render ++ " " ++ thenBranch.render ++ " " ++ elseBranch.render ++ ")"
  | .loop condition body => "(while " ++ condition.render ++ " " ++ body.render ++ ")"
  | .function ident params body =>
    "(fun " ++ ident.name ++ " (" ++ " ".intercalate (params.map Ident.name) ++ ")" ++
      Stmt.renderAll body ++ ")"
  | .ret value _ => "(return" ++ Expr.renderOption value ++ ")"

def Stmt.renderAll : List Stmt → String
  | [] => ""
  | stmt :: rest => " " ++ stmt.render ++ Stmt.renderAll rest

end

end StoryScript

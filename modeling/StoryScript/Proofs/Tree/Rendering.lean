import StoryScript.Proofs.Tree.Form
import StoryScript.Tree.Render

set_option autoImplicit false

namespace StoryScript

-- The forms that trees are written in. Lines are not written.
def Literal.form : Literal → Form
  | .number value => .word value.text
  | .string value => .quoted value
  | .bool true => .word "true"
  | .bool false => .word "false"
  | .nil => .word "nil"

mutual

def Expr.form : Expr → Form
  | .literal value => value.form
  | .grouping inner => .list [.word "group", inner.form]
  | .unary op operand _ => .list [.word op.sign, operand.form]
  | .binary left op right _ => .list [.word op.sign, left.form, right.form]
  | .logical left op right => .list [.word op.sign, left.form, right.form]
  | .reference ident => .word ident.name
  | .assign ident value => .list [.word "=", .word ident.name, value.form]
  | .call callee args _ => .list (.word "call" :: callee.form :: Expr.forms args)

def Expr.forms : List Expr → List Form
  | [] => []
  | expr :: rest => expr.form :: Expr.forms rest

end

def Expr.formOption : Option Expr → List Form
  | none => []
  | some expr => [expr.form]

mutual

def Stmt.form : Stmt → Form
  | .expression expr => .list [.word "expr", expr.form]
  | .print expr _ => .list [.word "print", expr.form]
  | .var ident initializer => .list (.word "var" :: .word ident.name :: Expr.formOption initializer)
  | .block body => .list (.word "block" :: Stmt.forms body)
  | .ifThen condition thenBranch => .list [.word "if", condition.form, thenBranch.form]
  | .ifElse condition thenBranch elseBranch => .list [.word "if", condition.form, thenBranch.form, elseBranch.form]
  | .loop condition body => .list [.word "while", condition.form, body.form]
  | .function ident params body =>
    .list (.word "fun" :: .word ident.name :: .list (params.map fun param => .word param.name) :: Stmt.forms body)
  | .ret value _ => .list (.word "return" :: Expr.formOption value)

def Stmt.forms : List Stmt → List Form
  | [] => []
  | stmt :: rest => stmt.form :: Stmt.forms rest

end

theorem Literal.render_chars (value : Literal) : value.render.toList = value.form.chars := by
  cases value with
  | number value => rw [Literal.render, Literal.form, Form.chars]
  | string value => rw [Literal.render, Literal.form, Form.chars, Text.quoted, String.toList_ofList]
  | bool value => cases value <;> rw [Literal.render, Literal.form, Form.chars]
  | nil => rw [Literal.render, Literal.form, Form.chars]

mutual

theorem Expr.render_chars (expr : Expr) : expr.render.toList = expr.form.chars := by
  cases expr with
  | literal value => exact value.render_chars
  | grouping inner =>
    simp [Expr.render, Expr.form, Form.chars, Form.charsAll, Expr.render_chars inner]
  | unary op operand line =>
    simp [Expr.render, Expr.form, Form.chars, Form.charsAll, Expr.render_chars operand]
  | binary left op right line =>
    simp [Expr.render, Expr.form, Form.chars, Form.charsAll, Expr.render_chars left, Expr.render_chars right]
  | logical left op right =>
    simp [Expr.render, Expr.form, Form.chars, Form.charsAll, Expr.render_chars left, Expr.render_chars right]
  | reference ident => rw [Expr.render, Expr.form, Form.chars]
  | assign ident value =>
    simp [Expr.render, Expr.form, Form.chars, Form.charsAll, Expr.render_chars value]
  | call callee args line =>
    simp [Expr.render, Expr.form, Form.chars, Form.charsAll, Expr.render_chars callee, Expr.renderAll_chars args]

theorem Expr.renderAll_chars (exprs : List Expr) :
    (Expr.renderAll exprs).toList = Form.charsAll (Expr.forms exprs) := by
  cases exprs with
  | nil => simp [Expr.renderAll, Expr.forms, Form.charsAll]
  | cons expr rest =>
    simp [Expr.renderAll, Expr.forms, Form.charsAll, Expr.render_chars expr, Expr.renderAll_chars rest]

end

theorem Expr.renderOption_chars (expr : Option Expr) :
    (Expr.renderOption expr).toList = Form.charsAll (Expr.formOption expr) := by
  cases expr with
  | none => simp [Expr.renderOption, Expr.formOption, Form.charsAll]
  | some expr => simp [Expr.renderOption, Expr.formOption, Form.charsAll, expr.render_chars]

theorem intercalate_words (name : String) (names : List String) :
    [' '].intercalate ((name :: names).map String.toList) = name.toList ++ Form.charsAll (names.map Form.word) := by
  induction names generalizing name with
  | nil => simp [Form.charsAll]
  | cons next names ih =>
    rw [List.map_cons, List.map_cons, List.intercalate_cons_cons, ← List.map_cons, ih next, List.map_cons, Form.charsAll,
      Form.chars, List.append_assoc, List.singleton_append]

theorem words_chars (names : List String) :
    (Form.list (names.map Form.word)).chars = '(' :: ([' '].intercalate (names.map String.toList) ++ [')']) := by
  cases names with
  | nil => rfl
  | cons name names => rw [intercalate_words, List.map_cons, Form.chars, Form.chars, List.append_assoc]

mutual

theorem Stmt.render_chars (stmt : Stmt) : stmt.render.toList = stmt.form.chars := by
  cases stmt with
  | expression expr => simp [Stmt.render, Stmt.form, Form.chars, Form.charsAll, expr.render_chars]
  | print expr line => simp [Stmt.render, Stmt.form, Form.chars, Form.charsAll, expr.render_chars]
  | var ident initializer =>
    simp [Stmt.render, Stmt.form, Form.chars, Form.charsAll, Expr.renderOption_chars initializer]
  | block body => simp [Stmt.render, Stmt.form, Form.chars, Stmt.renderAll_chars body]
  | ifThen condition thenBranch =>
    simp [Stmt.render, Stmt.form, Form.chars, Form.charsAll, condition.render_chars, Stmt.render_chars thenBranch]
  | ifElse condition thenBranch elseBranch =>
    simp [Stmt.render, Stmt.form, Form.chars, Form.charsAll, condition.render_chars, Stmt.render_chars thenBranch,
      Stmt.render_chars elseBranch]
  | loop condition body =>
    simp [Stmt.render, Stmt.form, Form.chars, Form.charsAll, condition.render_chars, Stmt.render_chars body]
  | function ident params body =>
    have names := words_chars (params.map Ident.name)
    simp only [List.map_map, Function.comp_def] at names
    simp [Stmt.render, Stmt.form, Form.chars, Form.charsAll, Stmt.renderAll_chars body, names, Function.comp_def]
  | ret value line => simp [Stmt.render, Stmt.form, Form.chars, Expr.renderOption_chars value]

theorem Stmt.renderAll_chars (stmts : List Stmt) :
    (Stmt.renderAll stmts).toList = Form.charsAll (Stmt.forms stmts) := by
  cases stmts with
  | nil => simp [Stmt.renderAll, Stmt.forms, Form.charsAll]
  | cons stmt rest =>
    simp [Stmt.renderAll, Stmt.forms, Form.charsAll, Stmt.render_chars stmt, Stmt.renderAll_chars rest]

end

end StoryScript

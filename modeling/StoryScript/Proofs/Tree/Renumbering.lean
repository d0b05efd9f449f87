import StoryScript.Proofs.Tree.StrayReturns

set_option autoImplicit false

namespace StoryScript

def Ident.renumbered (number : Nat → Nat) (ident : Ident) : Ident := ⟨ident.name, number ident.line⟩

mutual

def Expr.renumbered (number : Nat → Nat) : Expr → Expr
  | .literal value => .literal value
  | .grouping inner => .grouping (inner.renumbered number)
  | .unary op operand line => .unary op (operand.renumbered number) (number line)
  | .binary left op right line => .binary (left.renumbered number) op (right.renumbered number) (number line)
  | .logical left op right => .logical (left.renumbered number) op (right.renumbered number)
  | .reference ident => .reference (ident.renumbered number)
  | .assign ident value => .assign (ident.renumbered number) (value.renumbered number)
  | .call callee args line => .call (callee.renumbered number) (Expr.renumberedAll number args) (number line)

def Expr.renumberedAll (number : Nat → Nat) : List Expr → List Expr
  | [] => []
  | expr :: rest => expr.renumbered number :: Expr.renumberedAll number rest

end

mutual

def Stmt.renumbered (number : Nat → Nat) : Stmt → Stmt
  | .expression expr => .expression (expr.renumbered number)
  | .print expr line => .print (expr.renumbered number) (number line)
  | .var ident initializer => .var (ident.renumbered number) (initializer.map (Expr.renumbered number))
  | .block body => .block (Stmt.renumberedAll number body)
  | .ifThen condition thenBranch => .ifThen (condition.renumbered number) (thenBranch.renumbered number)
  | .ifElse condition thenBranch elseBranch =>
    .ifElse (condition.renumbered number) (thenBranch.renumbered number) (elseBranch.renumbered number)
  | .loop condition body => .loop (condition.renumbered number) (body.renumbered number)
  | .function ident params body =>
    .function (ident.renumbered number) (params.map (Ident.renumbered number)) (Stmt.renumberedAll number body)
  | .ret value line => .ret (value.map (Expr.renumbered number)) (number line)

def Stmt.renumberedAll (number : Nat → Nat) : List Stmt → List Stmt
  | [] => []
  | stmt :: rest => stmt.renumbered number :: Stmt.renumberedAll number rest

end

def FunctionDecl.renumbered (number : Nat → Nat) (declaration : FunctionDecl) : FunctionDecl :=
  ⟨declaration.ident.renumbered number, declaration.params.map (Ident.renumbered number),
    Stmt.renumberedAll number declaration.body⟩

def Program.renumbered (number : Nat → Nat) (program : Program) : Program := Stmt.renumberedAll number program

theorem renumberedAll_append (number : Nat → Nat) (first second : List Stmt) :
    Stmt.renumberedAll number (first ++ second) =
      Stmt.renumberedAll number first ++ Stmt.renumberedAll number second := by
  induction first with
  | nil => rfl
  | cons stmt rest ih => simp only [List.cons_append, Stmt.renumberedAll, ih]

theorem renumbered_forLoop (number : Nat → Nat) (initializer : Option Stmt) (condition increment : Option Expr)
    (body : Stmt) :
    (Stmt.forLoop initializer condition increment body).renumbered number =
      Stmt.forLoop (initializer.map (Stmt.renumbered number)) (condition.map (Expr.renumbered number))
        (increment.map (Expr.renumbered number)) (body.renumbered number) := by
  cases initializer <;> cases condition <;> cases increment <;> rfl

mutual

theorem Expr.renumbered_id (expr : Expr) : expr.renumbered id = expr := by
  cases expr with
  | literal value => rfl
  | grouping inner => rw [Expr.renumbered, Expr.renumbered_id inner]
  | unary op operand line => rw [Expr.renumbered, Expr.renumbered_id operand, id]
  | binary left op right line => rw [Expr.renumbered, Expr.renumbered_id left, Expr.renumbered_id right, id]
  | logical left op right => rw [Expr.renumbered, Expr.renumbered_id left, Expr.renumbered_id right]
  | reference ident => rfl
  | assign ident value =>
    rw [Expr.renumbered, Expr.renumbered_id value]
    rfl
  | call callee args line => rw [Expr.renumbered, Expr.renumbered_id callee, Expr.renumberedAll_id args, id]

theorem Expr.renumberedAll_id (exprs : List Expr) : Expr.renumberedAll id exprs = exprs := by
  cases exprs with
  | nil => rfl
  | cons expr rest => rw [Expr.renumberedAll, Expr.renumbered_id expr, Expr.renumberedAll_id rest]

end

theorem Ident.map_renumbered_id (idents : List Ident) : idents.map (Ident.renumbered id) = idents := List.map_id idents

theorem Expr.map_renumbered_id (expr : Option Expr) : expr.map (Expr.renumbered id) = expr := by
  cases expr with
  | none => rfl
  | some inner => rw [Option.map_some, Expr.renumbered_id inner]

mutual

theorem Stmt.renumbered_id (stmt : Stmt) : stmt.renumbered id = stmt := by
  cases stmt with
  | expression expr => rw [Stmt.renumbered, Expr.renumbered_id expr]
  | print expr line => rw [Stmt.renumbered, Expr.renumbered_id expr, id]
  | var ident initializer =>
    rw [Stmt.renumbered, Expr.map_renumbered_id initializer]
    rfl
  | block body => rw [Stmt.renumbered, Stmt.renumberedAll_id body]
  | ifThen condition thenBranch =>
    rw [Stmt.renumbered, Expr.renumbered_id condition, Stmt.renumbered_id thenBranch]
  | ifElse condition thenBranch elseBranch =>
    rw [Stmt.renumbered, Expr.renumbered_id condition, Stmt.renumbered_id thenBranch, Stmt.renumbered_id elseBranch]
  | loop condition body => rw [Stmt.renumbered, Expr.renumbered_id condition, Stmt.renumbered_id body]
  | function ident params body =>
    rw [Stmt.renumbered, Ident.map_renumbered_id params, Stmt.renumberedAll_id body]
    rfl
  | ret value line => rw [Stmt.renumbered, Expr.map_renumbered_id value, id]

theorem Stmt.renumberedAll_id (stmts : List Stmt) : Stmt.renumberedAll id stmts = stmts := by
  cases stmts with
  | nil => rfl
  | cons stmt rest => rw [Stmt.renumberedAll, Stmt.renumbered_id stmt, Stmt.renumberedAll_id rest]

end

theorem FunctionDecl.renumbered_id (declaration : FunctionDecl) : declaration.renumbered id = declaration := by
  rw [FunctionDecl.renumbered, Ident.map_renumbered_id, Stmt.renumberedAll_id]
  rfl

mutual

theorem strayReturns_renumbered (number : Nat → Nat) (depth : UInt32) (stmt : Stmt) :
    (stmt.renumbered number).strayReturns depth = (stmt.strayReturns depth).map number := by
  cases stmt with
  | block body => exact strayReturnsAll_renumbered number depth body
  | ifThen condition thenBranch => exact strayReturns_renumbered number depth thenBranch
  | ifElse condition thenBranch elseBranch =>
    simp only [Stmt.renumbered, Stmt.strayReturns, List.map_append, strayReturns_renumbered number depth thenBranch,
      strayReturns_renumbered number depth elseBranch]
  | loop condition body => exact strayReturns_renumbered number depth body
  | function ident params body => exact strayReturnsAll_renumbered number (depth + 1) body
  | ret value line =>
    by_cases outermost : depth = 0
    · simp [Stmt.renumbered, Stmt.strayReturns, outermost]
    · simp [Stmt.renumbered, Stmt.strayReturns, outermost]
  | expression expr => rfl
  | print expr line => rfl
  | var ident initializer => rfl

theorem strayReturnsAll_renumbered (number : Nat → Nat) (depth : UInt32) (stmts : List Stmt) :
    Stmt.strayReturnsAll depth (Stmt.renumberedAll number stmts) = (Stmt.strayReturnsAll depth stmts).map number := by
  cases stmts with
  | nil => rfl
  | cons stmt rest =>
    simp only [Stmt.renumberedAll, Stmt.strayReturnsAll, List.map_append, strayReturns_renumbered number depth stmt,
      strayReturnsAll_renumbered number depth rest]

end

def Diagnostic.renumbered (number : Nat → Nat) (d : Diagnostic) : Diagnostic := { d with line := number d.line }

theorem returnDiagnostics_renumbered (number : Nat → Nat) (program : Program) :
    (program.renumbered number).returnDiagnostics = program.returnDiagnostics.map (Diagnostic.renumbered number) := by
  simp only [returnDiagnostics_lines, Program.renumbered, strayReturnsAll_renumbered, List.map_map]
  rfl

end StoryScript

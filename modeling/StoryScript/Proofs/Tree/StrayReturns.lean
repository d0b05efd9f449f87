import StoryScript.Tree.Nodes
import StoryScript.Tree.StrayReturn

set_option autoImplicit false

namespace StoryScript

-- The lines of the returns that a check reports on its way through a statement, when it begins at a depth. The
-- count of functions goes round after 2^32 of them, here as in the check.
mutual

def Stmt.strayReturns (depth : UInt32) : Stmt → List Nat
  | .block body => Stmt.strayReturnsAll depth body
  | .ifThen _ thenBranch => thenBranch.strayReturns depth
  | .ifElse _ thenBranch elseBranch => thenBranch.strayReturns depth ++ elseBranch.strayReturns depth
  | .loop _ body => body.strayReturns depth
  | .function _ _ body => Stmt.strayReturnsAll (depth + 1) body
  | .ret _ line => if depth = 0 then [line] else []
  | .expression _ => []
  | .print .. => []
  | .var .. => []

def Stmt.strayReturnsAll (depth : UInt32) : List Stmt → List Nat
  | [] => []
  | stmt :: rest => stmt.strayReturns depth ++ Stmt.strayReturnsAll depth rest

end

def strayReport (line : Nat) : Diagnostic := ⟨"Can't return from top-level code.", line, .lexeme "return"⟩

namespace ReturnCheck

def reporting (lines : List Nat) (check : ReturnCheck) : ReturnCheck :=
  { check with reported := check.reported ++ lines.map strayReport }

theorem reporting_nil (check : ReturnCheck) : check.reporting [] = check := by
  simp [reporting]

theorem reporting_append (first second : List Nat) (check : ReturnCheck) :
    (check.reporting first).reporting second = check.reporting (first ++ second) := by
  simp [reporting]

theorem leave_reporting_enter (lines : List Nat) (check : ReturnCheck) :
    (check.enter.reporting lines).leave = check.reporting lines := by
  simp [enter, leave, reporting]

-- Whatever is visited, the check comes out at the depth at which it went in, and has only added reports.
mutual

theorem visit_reporting (stmt : Stmt) (check : ReturnCheck) :
    visit stmt check = check.reporting (stmt.strayReturns check.depth) := by
  cases stmt with
  | block body => exact visitAll_reporting body check
  | ifThen condition thenBranch => exact visit_reporting thenBranch check
  | ifElse condition thenBranch elseBranch =>
    rw [visit, visit_reporting thenBranch, visit_reporting elseBranch, reporting_append]
    rfl
  | loop condition body => exact visit_reporting body check
  | function ident params body =>
    rw [visit, visitAll_reporting body, leave_reporting_enter]
    rfl
  | ret value line =>
    rw [visit, meetReturn, Stmt.strayReturns]
    by_cases outermost : check.depth = 0
    · rw [if_pos outermost, if_pos outermost]
      rfl
    · rw [if_neg outermost, if_neg outermost, reporting_nil]
  | expression expr => exact (reporting_nil check).symm
  | print expr line => exact (reporting_nil check).symm
  | var ident initializer => exact (reporting_nil check).symm

theorem visitAll_reporting (stmts : List Stmt) (check : ReturnCheck) :
    visitAll stmts check = check.reporting (Stmt.strayReturnsAll check.depth stmts) := by
  cases stmts with
  | nil => exact (reporting_nil check).symm
  | cons stmt rest =>
    rw [visitAll, visit_reporting stmt, visitAll_reporting rest, reporting_append]
    rfl

end

end ReturnCheck

theorem returnDiagnostics_lines (program : Program) :
    program.returnDiagnostics = (Stmt.strayReturnsAll 0 program).map strayReport := by
  rw [Program.returnDiagnostics, Program.checkReturns, ReturnCheck.visitAll_reporting]
  rfl

-- A statement of a program at its place: with the statements around it, the innermost first.
structure Site where
  stmt : Stmt
  around : List Stmt

def Stmt.isFunction : Stmt → Bool
  | .function .. => true
  | _ => false

namespace Site

def nesting (site : Site) : Nat := site.around.countP Stmt.isFunction

def strayLine? (site : Site) : Option Nat :=
  match site.stmt with
  | .ret _ line => if site.around.any Stmt.isFunction then none else some line
  | _ => none

end Site

mutual

def Stmt.sites (around : List Stmt) : Stmt → List Site
  | .block body => ⟨.block body, around⟩ :: Stmt.sitesAll (.block body :: around) body
  | .ifThen condition thenBranch =>
    ⟨.ifThen condition thenBranch, around⟩ :: thenBranch.sites (.ifThen condition thenBranch :: around)
  | .ifElse condition thenBranch elseBranch =>
    ⟨.ifElse condition thenBranch elseBranch, around⟩ ::
      (thenBranch.sites (.ifElse condition thenBranch elseBranch :: around) ++
        elseBranch.sites (.ifElse condition thenBranch elseBranch :: around))
  | .loop condition body => ⟨.loop condition body, around⟩ :: body.sites (.loop condition body :: around)
  | .function ident params body =>
    ⟨.function ident params body, around⟩ :: Stmt.sitesAll (.function ident params body :: around) body
  | .ret value line => [⟨.ret value line, around⟩]
  | .expression expr => [⟨.expression expr, around⟩]
  | .print expr line => [⟨.print expr line, around⟩]
  | .var ident initializer => [⟨.var ident initializer, around⟩]

def Stmt.sitesAll (around : List Stmt) : List Stmt → List Site
  | [] => []
  | stmt :: rest => stmt.sites around ++ Stmt.sitesAll around rest

end

def Program.sites (program : Program) : List Site := Stmt.sitesAll [] program

def Node.stmt? : Node → Option Stmt
  | .stmt found => some found
  | .expr _ => none

mutual

theorem Expr.no_statements (expr : Expr) : expr.nodes.filterMap Node.stmt? = [] := by
  cases expr with
  | literal value => rfl
  | grouping inner => exact Expr.no_statements inner
  | unary op operand line => exact Expr.no_statements operand
  | binary left op right line =>
    rw [Expr.nodes, List.filterMap_cons_none rfl, List.filterMap_append, Expr.no_statements left,
      Expr.no_statements right]
    rfl
  | logical left op right =>
    rw [Expr.nodes, List.filterMap_cons_none rfl, List.filterMap_append, Expr.no_statements left,
      Expr.no_statements right]
    rfl
  | reference ident => rfl
  | assign ident value => exact Expr.no_statements value
  | call callee args line =>
    rw [Expr.nodes, List.filterMap_cons_none rfl, List.filterMap_append, Expr.no_statements callee,
      Expr.no_statements_all args]
    rfl

theorem Expr.no_statements_all (exprs : List Expr) : (Expr.nodesAll exprs).filterMap Node.stmt? = [] := by
  cases exprs with
  | nil => rfl
  | cons expr rest =>
    rw [Expr.nodesAll, List.filterMap_append, Expr.no_statements expr, Expr.no_statements_all rest]
    rfl

end

theorem Expr.no_statements_option (expr : Option Expr) : (Expr.nodesOption expr).filterMap Node.stmt? = [] := by
  cases expr with
  | none => rfl
  | some inner => exact Expr.no_statements inner

mutual

theorem sites_nodes (around : List Stmt) (stmt : Stmt) :
    (stmt.sites around).map Site.stmt = stmt.nodes.filterMap Node.stmt? := by
  cases stmt with
  | block body => simp [Stmt.sites, Stmt.nodes, Node.stmt?, sitesAll_nodes _ body]
  | ifThen condition thenBranch =>
    simp [Stmt.sites, Stmt.nodes, Node.stmt?, Expr.no_statements condition, sites_nodes _ thenBranch]
  | ifElse condition thenBranch elseBranch =>
    simp [Stmt.sites, Stmt.nodes, Node.stmt?, Expr.no_statements condition, sites_nodes _ thenBranch,
      sites_nodes _ elseBranch]
  | loop condition body =>
    simp [Stmt.sites, Stmt.nodes, Node.stmt?, Expr.no_statements condition, sites_nodes _ body]
  | function ident params body => simp [Stmt.sites, Stmt.nodes, Node.stmt?, sitesAll_nodes _ body]
  | ret value line => simp [Stmt.sites, Stmt.nodes, Node.stmt?, Expr.no_statements_option value]
  | expression expr => simp [Stmt.sites, Stmt.nodes, Node.stmt?, Expr.no_statements expr]
  | print expr line => simp [Stmt.sites, Stmt.nodes, Node.stmt?, Expr.no_statements expr]
  | var ident initializer => simp [Stmt.sites, Stmt.nodes, Node.stmt?, Expr.no_statements_option initializer]

theorem sitesAll_nodes (around : List Stmt) (stmts : List Stmt) :
    (Stmt.sitesAll around stmts).map Site.stmt = (Stmt.nodesAll stmts).filterMap Node.stmt? := by
  cases stmts with
  | nil => rfl
  | cons stmt rest =>
    simp only [Stmt.sitesAll, Stmt.nodesAll, List.map_append, List.filterMap_append, sites_nodes _ stmt,
      sitesAll_nodes _ rest]

end

-- The depth of a check is the count of functions around it, as long as the count has not gone round.
def AtDepth (around : List Stmt) (depth : UInt32) : Prop := depth = UInt32.ofNat (around.countP Stmt.isFunction)

theorem atDepth_function (around : List Stmt) (depth : UInt32) (ident : Ident) (params : List Ident) (body : List Stmt)
    (deep : AtDepth around depth) : AtDepth (.function ident params body :: around) (depth + 1) := by
  have counted : (Stmt.function ident params body :: around).countP Stmt.isFunction =
      around.countP Stmt.isFunction + 1 := List.countP_cons_of_pos rfl
  rw [AtDepth, counted, UInt32.ofNat_add, deep]
  rfl

theorem atDepth_other (around : List Stmt) (depth : UInt32) (stmt : Stmt) (other : stmt.isFunction = false)
    (deep : AtDepth around depth) : AtDepth (stmt :: around) depth := by
  rw [AtDepth, List.countP_cons_of_neg (by simp [other])]
  exact deep

theorem outermost_iff (around : List Stmt) (depth : UInt32) (deep : AtDepth around depth)
    (shallow : around.countP Stmt.isFunction < UInt32.size) : depth = 0 ↔ around.any Stmt.isFunction = false := by
  have zero : depth = 0 ↔ around.countP Stmt.isFunction = 0 := by
    rw [deep, ← UInt32.toNat_inj, UInt32.toNat_ofNat_of_lt' shallow]
    rfl
  rw [zero, List.countP_eq_zero]
  simp

mutual

theorem strayReturns_sites (around : List Stmt) (depth : UInt32) (stmt : Stmt) (deep : AtDepth around depth)
    (shallow : ∀ site ∈ stmt.sites around, site.nesting < UInt32.size) :
    stmt.strayReturns depth = (stmt.sites around).filterMap Site.strayLine? := by
  cases stmt with
  | block body =>
    rw [Stmt.sites, List.forall_mem_cons] at shallow
    exact strayReturnsAll_sites _ depth body (atDepth_other around depth _ rfl deep) shallow.2
  | ifThen condition thenBranch =>
    rw [Stmt.sites, List.forall_mem_cons] at shallow
    exact strayReturns_sites _ depth thenBranch (atDepth_other around depth _ rfl deep) shallow.2
  | ifElse condition thenBranch elseBranch =>
    rw [Stmt.sites, List.forall_mem_cons, List.forall_mem_append] at shallow
    have inside := atDepth_other around depth (.ifElse condition thenBranch elseBranch) rfl deep
    have first := strayReturns_sites _ depth thenBranch inside shallow.2.1
    have second := strayReturns_sites _ depth elseBranch inside shallow.2.2
    rw [Stmt.strayReturns, first, second, ← List.filterMap_append]
    rfl
  | loop condition body =>
    rw [Stmt.sites, List.forall_mem_cons] at shallow
    exact strayReturns_sites _ depth body (atDepth_other around depth _ rfl deep) shallow.2
  | function ident params body =>
    rw [Stmt.sites, List.forall_mem_cons] at shallow
    exact strayReturnsAll_sites _ (depth + 1) body (atDepth_function around depth ident params body deep) shallow.2
  | ret value line =>
    rw [Stmt.sites, List.forall_mem_cons] at shallow
    have outermost := outermost_iff around depth deep shallow.1
    by_cases enclosed : around.any Stmt.isFunction = true
    · have inside : depth ≠ 0 := by simp [outermost, enclosed]
      simp [Stmt.strayReturns, Stmt.sites, Site.strayLine?, inside, enclosed]
    · have outside : depth = 0 := by simpa [outermost] using enclosed
      simp [Stmt.strayReturns, Stmt.sites, Site.strayLine?, outside, enclosed]
  | expression expr => rfl
  | print expr line => rfl
  | var ident initializer => rfl

theorem strayReturnsAll_sites (around : List Stmt) (depth : UInt32) (stmts : List Stmt) (deep : AtDepth around depth)
    (shallow : ∀ site ∈ Stmt.sitesAll around stmts, site.nesting < UInt32.size) :
    Stmt.strayReturnsAll depth stmts = (Stmt.sitesAll around stmts).filterMap Site.strayLine? := by
  cases stmts with
  | nil => rfl
  | cons stmt rest =>
    rw [Stmt.sitesAll, List.forall_mem_append] at shallow
    rw [Stmt.strayReturnsAll, strayReturns_sites around depth stmt deep shallow.1,
      strayReturnsAll_sites around depth rest deep shallow.2, Stmt.sitesAll, List.filterMap_append]

end

-- A check that begins outside of all functions adds one report for each return that no function encloses, in
-- the order in which a walk over the tree comes to them, and ends outside of all functions.
theorem stray_returns_reported_in_order (program : Program) (check : ReturnCheck) (outermost : check.depth = 0)
    (shallow : ∀ site ∈ program.sites, site.nesting < UInt32.size) :
    (check.visitAll program).reported =
        check.reported ++ (program.sites.filterMap Site.strayLine?).map strayReport ∧
      (check.visitAll program).depth = check.depth ∧
      program.sites.map Site.stmt = program.nodes.filterMap Node.stmt? := by
  have lines : Stmt.strayReturnsAll check.depth program = program.sites.filterMap Site.strayLine? :=
    strayReturnsAll_sites [] check.depth program outermost shallow
  rw [ReturnCheck.visitAll_reporting, lines]
  exact ⟨rfl, rfl, sitesAll_nodes [] program⟩

def scatteredReturns : Program :=
  [.function ⟨"f", 1⟩ [] [.function ⟨"g", 1⟩ [] [.ret none 1], .ret none 1],
    .loop (.literal (.bool true)) (.ret none 2),
    .ifElse (.literal .nil) (.block [.function ⟨"h", 3⟩ [] [.ret none 3], .ret (some (.literal .nil)) 3]) (.ret none 4)]

theorem scatteredReturns_reported :
    (ReturnCheck.visitAll scatteredReturns (.start [strayReport 9])).reported =
        [strayReport 9, strayReport 2, strayReport 3, strayReport 4] ∧
      (ReturnCheck.visitAll scatteredReturns (.start [strayReport 9])).depth = 0 := by
  have shallow : ∀ site ∈ scatteredReturns.sites, site.nesting < UInt32.size := by decide
  have lines : scatteredReturns.sites.filterMap Site.strayLine? = [2, 3, 4] := rfl
  obtain ⟨reported, depth, _⟩ := stray_returns_reported_in_order scatteredReturns (.start [strayReport 9]) rfl shallow
  rw [lines] at reported
  exact ⟨reported, depth⟩

end StoryScript

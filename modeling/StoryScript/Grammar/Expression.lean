import StoryScript.Grammar.Reading
import StoryScript.Tree.Basic

set_option autoImplicit false

namespace StoryScript.Grammar

inductive Operator where
  | assign
  | logical (op : LogicalOp)
  | binary (op : BinaryOp)
deriving DecidableEq

structure Binding where
  operator : Operator
  left : Nat
  right : Nat
deriving DecidableEq

def binding? : Kind → Option Binding
  | .equal => some ⟨.assign, 2, 1⟩
  | .wordOr => some ⟨.logical .or, 3, 4⟩
  | .wordAnd => some ⟨.logical .and, 5, 6⟩
  | .equalEqual => some ⟨.binary .equal, 7, 8⟩
  | .bangEqual => some ⟨.binary .notEqual, 7, 8⟩
  | .greater => some ⟨.binary .greater, 9, 10⟩
  | .greaterEqual => some ⟨.binary .greaterEqual, 9, 10⟩
  | .less => some ⟨.binary .less, 9, 10⟩
  | .lessEqual => some ⟨.binary .lessEqual, 9, 10⟩
  | .plus => some ⟨.binary .add, 11, 12⟩
  | .minus => some ⟨.binary .subtract, 11, 12⟩
  | .star => some ⟨.binary .multiply, 13, 14⟩
  | .slash => some ⟨.binary .divide, 13, 14⟩
  | _ => none

def unaryPower : Nat := 15

def unaryOp? : Kind → Option UnaryOp
  | .bang => some .not
  | .minus => some .negate
  | _ => none

def identOf (t : Token) : Ident := ⟨t.lexeme, t.line⟩

-- The tree of an operation. Only a bare name can be assigned to: with anything else on the left of an
-- assignment, the left side alone is kept.
def Operator.build (operator : Operator) (sign : Token) (left right : Expr) : Expr :=
  match operator with
  | .logical op => .logical left op right
  | .binary op => .binary left op right sign.line
  | .assign =>
    match left with
    | .reference ident => .assign ident right
    | target => target

def Operator.faults (operator : Operator) (sign : Token) (left : Expr) : List Fault :=
  match operator, left with
  | .assign, .reference _ => []
  | .assign, _ => [⟨.invalidAssignment, some sign⟩]
  | _, _ => []

mutual

-- An expression whose operators bind to the left with at least the given power.
def expression (power : Nat) (tokens : List Token) : Reading Expr tokens.length :=
  (operand tokens).bind fun left rest fewer => (operations power left rest).widen fewer
termination_by 8 * tokens.length + 4
decreasing_by all_goals grind

def operations (power : Nat) (left : Expr) (tokens : List Token) :
    Reading Expr (tokens.length + 1) :=
  match tokens with
  | [] => ended left []
  | sign :: rest =>
    match binding? sign.kind with
    | none => ended left (sign :: rest)
    | some b =>
      if b.left < power then ended left (sign :: rest)
      else
        ((expression b.right rest).past.bind fun right rest' fewer =>
          ((operations power (b.operator.build sign left right) rest').after
            (b.operator.faults sign left)).widen fewer).past
termination_by 8 * tokens.length + 0
decreasing_by all_goals grind

def operand (tokens : List Token) : Reading Expr tokens.length :=
  match tokens with
  | [] => complain .expectExpression []
  | sign :: rest =>
    match unaryOp? sign.kind with
    | none => callable (sign :: rest)
    | some op =>
      ((expression unaryPower rest).map fun inner => Expr.unary op inner sign.line).past
termination_by 8 * tokens.length + 3
decreasing_by all_goals grind

def callable (tokens : List Token) : Reading Expr tokens.length :=
  (primary tokens).bind fun callee rest fewer => (calls callee rest).widen fewer
termination_by 8 * tokens.length + 2
decreasing_by all_goals grind

def calls (callee : Expr) (tokens : List Token) : Reading Expr (tokens.length + 1) :=
  match tokens with
  | [] => ended callee []
  | paren :: rest =>
    if paren.kind = .leftParen then
      ((arguments rest).past.bind fun args rest' fewer =>
        (calls (.call callee args.1 args.2) rest').widen fewer).past
    else ended callee (paren :: rest)
termination_by 8 * tokens.length + 0
decreasing_by all_goals grind

def arguments (tokens : List Token) : Reading (List Expr × Nat) tokens.length :=
  if startsWith .rightParen tokens then
    (expect .rightParen .parenAfterArguments tokens).map fun paren => ([], paren.line)
  else moreArguments tokens
termination_by 8 * tokens.length + 6
decreasing_by all_goals grind

def moreArguments (tokens : List Token) : Reading (List Expr × Nat) tokens.length :=
  (expression 0 tokens).bind fun arg rest fewer =>
    match rest with
    | [] => (complain .parenAfterArguments []).within fewer
    | sign :: rest' =>
      if sign.kind = .comma then
        have shorter := tail_lt fewer
        ((moreArguments rest').map fun args => (arg :: args.1, args.2)).within shorter
      else
        ((expect .rightParen .parenAfterArguments (sign :: rest')).map
          fun paren => ([arg], paren.line)).within fewer
termination_by 8 * tokens.length + 5
decreasing_by all_goals grind

def primary (tokens : List Token) : Reading Expr tokens.length :=
  match tokens with
  | [] => complain .expectExpression []
  | t :: rest =>
    match t.kind with
    | .number | .string | .wordTrue | .wordFalse => ended (.literal (t.literal.getD .nil)) rest
    | .wordNil => ended (.literal .nil) rest
    | .identifier => ended (.reference (identOf t)) rest
    | .leftParen =>
      (expression 0 rest).past.bind fun inner rest' fewer =>
        ((expect .rightParen .parenAfterExpression rest').map fun _ =>
          Expr.grouping inner).within fewer
    | _ => complain .expectExpression (t :: rest)
termination_by 8 * tokens.length + 1
decreasing_by all_goals grind

end

end StoryScript.Grammar

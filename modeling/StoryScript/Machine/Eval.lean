import StoryScript.Machine.Basic

set_option autoImplicit false

namespace StoryScript

inductive Flow where
  | normal
  | returned (value : Value)

namespace Machine

mutual

-- Fuel bounds the depth of the recursion; a run that uses it up is neither done nor at fault.
def evaluate : Nat → Expr → MachineRun Value
  | 0, _ => Run.noFuel
  | fuel + 1, expr =>
    match expr with
    | .literal value => return .ofLiteral value
    | .grouping inner => evaluate fuel inner
    | .unary op operand line => do
      let value ← evaluate fuel operand
      settle line (op.apply value)
    | .binary left op right line => do
      let a ← evaluate fuel left
      let b ← evaluate fuel right
      settle line (op.apply a b)
    | .logical left op right => do
      let value ← evaluate fuel left
      if op.settledBy value then return value else evaluate fuel right
    | .reference ident => lookup ident
    | .assign ident expr => do
      let value ← evaluate fuel expr
      assign ident value
      return value
    | .call callee args line => do
      match ← evaluate fuel callee with
      | .callable target => do
        let values ← evaluateAll fuel args
        if values.length = target.arity then call fuel target values line
        else failAt line (.wrongCount target.arity values.length)
      | _ => failAt line .notCallable

def evaluateAll : Nat → List Expr → MachineRun (List Value)
  | 0, _ => Run.noFuel
  | _ + 1, [] => return []
  | fuel + 1, expr :: rest => do
    let value ← evaluate fuel expr
    let values ← evaluateAll fuel rest
    return value :: values

-- Calls with as many arguments as are taken. A function runs in a new scope inside the one it was declared in.
def call : Nat → Callable → List Value → Nat → MachineRun Value
  | 0, _, _, _ => Run.noFuel
  | fuel + 1, callable, args, line =>
    match callable.target with
    | .native native => onHost line (native.call fuel args)
    | .function declaration closure => do
      let flow ← within closure do
        bindAll (declaration.params.zip args)
        executeAll fuel declaration.body
      match flow with
      | .normal => return .nil
      | .returned value => return value

def execute : Nat → Stmt → MachineRun Flow
  | 0, _ => Run.noFuel
  | fuel + 1, stmt =>
    match stmt with
    | .expression expr => do
      let _ ← evaluate fuel expr
      return .normal
    | .print expr line => do
      let value ← evaluate fuel expr
      printLine line value.text
      return .normal
    | .var ident none => do
      define ident.name .nil
      return .normal
    | .var ident (some expr) => do
      let value ← evaluate fuel expr
      define ident.name value
      return .normal
    | .block body => fun m => within m.current (executeAll fuel body) m
    | .ifThen condition thenBranch => do
      let value ← evaluate fuel condition
      if value.isTruthy then execute fuel thenBranch else return .normal
    | .ifElse condition thenBranch elseBranch => do
      let value ← evaluate fuel condition
      if value.isTruthy then execute fuel thenBranch else execute fuel elseBranch
    | .loop condition body => repeatWhile fuel condition body
    | .function ident params body => do
      let m ← Run.get
      Run.modify (declare ident.name (.function ⟨ident, params, body⟩ m.current))
      return .normal
    | .ret none _ => return .returned .nil
    | .ret (some expr) _ => do
      let value ← evaluate fuel expr
      return .returned value

def executeAll : Nat → List Stmt → MachineRun Flow
  | 0, _ => Run.noFuel
  | _ + 1, [] => return .normal
  | fuel + 1, stmt :: rest => do
    match ← execute fuel stmt with
    | .normal => executeAll fuel rest
    | .returned value => return .returned value

def repeatWhile : Nat → Expr → Stmt → MachineRun Flow
  | 0, _, _ => Run.noFuel
  | fuel + 1, condition, body => do
    let value ← evaluate fuel condition
    if value.isTruthy then
      match ← execute fuel body with
      | .normal => repeatWhile fuel condition body
      | .returned value => return .returned value
    else return .normal

end

def executeProgram (fuel : Nat) : Program → MachineRun Unit
  | [] => return ()
  | stmt :: rest => do
    match ← execute fuel stmt with
    | .normal => executeProgram fuel rest
    | .returned _ => return ()

def atGlobals (m : Machine) : Machine := { m with current := globals }

-- Runs a program from the outermost scope and comes back there, whatever happens.
def interpret (fuel : Nat) (program : Program) : MachineRun Unit := fun m =>
  match executeProgram fuel program m with
  | .done result after => .done result after.atGlobals
  | .fault error after => .fault error after.atGlobals
  | .outOfFuel => .outOfFuel

end Machine

end StoryScript

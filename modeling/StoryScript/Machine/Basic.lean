import StoryScript.Scopes
import StoryScript.Native.Call

set_option autoImplicit false

namespace StoryScript

inductive RuntimeFault where
  | undefined (name : String)
  | operandNotNumber
  | operandsNotNumbers
  | operandsNotAddable
  | divisionByZero
  | notCallable
  | wrongCount (expected got : Nat)
  | native (error : NativeError)
deriving DecidableEq

def RuntimeFault.message : RuntimeFault → String
  | .undefined name => undefinedText name
  | .operandNotNumber => "Operand must be a number."
  | .operandsNotNumbers => "Operands must be numbers."
  | .operandsNotAddable => "Operands must be two numbers or two strings."
  | .divisionByZero => "Division by zero."
  | .notCallable => "Can only call functions and classes."
  | .wrongCount expected got =>
    "Expected " ++ toString expected ++ " arguments but got " ++ toString got ++ "."
  | .native error => error.message

structure RuntimeError where
  fault : RuntimeFault
  line : Nat
deriving DecidableEq

def RuntimeError.text (error : RuntimeError) : String :=
  "[line " ++ toString error.line ++ "] Runtime error: " ++ error.fault.message

def UnaryOp.apply (op : UnaryOp) (operand : Value) : Except RuntimeFault Value :=
  match op, operand with
  | .not, value => .ok (.bool !value.isTruthy)
  | .negate, .number value => .ok (.number value.neg)
  | .negate, _ => .error .operandNotNumber

def onNumbers (op : Number → Number → Value) : Value → Value → Except RuntimeFault Value
  | .number a, .number b => .ok (op a b)
  | _, _ => .error .operandsNotNumbers

def BinaryOp.apply (op : BinaryOp) (left right : Value) : Except RuntimeFault Value :=
  match op with
  | .add =>
    match left, right with
    | .number a, .number b => .ok (.number (a.add b))
    | .string a, .string b => .ok (.string (a ++ b))
    | _, _ => .error .operandsNotAddable
  | .subtract => onNumbers (fun a b => .number (a.sub b)) left right
  | .multiply => onNumbers (fun a b => .number (a.mul b)) left right
  | .divide =>
    match left, right with
    | .number a, .number b =>
      if b.equal .zero then .error .divisionByZero else .ok (.number (a.div b))
    | _, _ => .error .operandsNotNumbers
  | .greater => onNumbers (fun a b => .bool (b.less a)) left right
  | .greaterEqual => onNumbers (fun a b => .bool (b.lessEqual a)) left right
  | .less => onNumbers (fun a b => .bool (a.less b)) left right
  | .lessEqual => onNumbers (fun a b => .bool (a.lessEqual b)) left right
  | .equal => .ok (.bool (left.equal right))
  | .notEqual => .ok (.bool !(left.equal right))

-- The value of the left operand that makes the right one needless.
def LogicalOp.settledBy (op : LogicalOp) (left : Value) : Bool :=
  match op with
  | .and => !left.isTruthy
  | .or => left.isTruthy

structure Machine where
  scopes : Scopes
  current : Nat
  host : Host
  -- How many callables have been made; the next one takes this as its identity.
  made : Nat

abbrev MachineRun (α : Type) := Run Machine RuntimeError α

namespace Machine

def globals : Nat := 0

def bare (host : Host) : Machine := ⟨.root, globals, host, 0⟩

def declare (name : String) (target : Target) (m : Machine) : Machine :=
  { m with
    scopes := m.scopes.define m.current name (.callable ⟨m.made, target⟩)
    made := m.made + 1 }

def withNatives (host : Host) : Machine :=
  Native.all.foldl (fun m native => m.declare native.name (.native native)) (bare host)

def failAt {α : Type} (line : Nat) (fault : RuntimeFault) : MachineRun α := Run.fail ⟨fault, line⟩

def settle {α : Type} (line : Nat) (result : Except RuntimeFault α) : MachineRun α :=
  match result with
  | .ok value => return value
  | .error fault => failAt line fault

def onHost {α : Type} (line : Nat) (run : NativeRun α) : MachineRun α := fun m =>
  match m with
  | ⟨scopes, current, host, made⟩ =>
    match run host with
    | .done result host => .done result ⟨scopes, current, host, made⟩
    | .fault error host => .fault ⟨.native error, line⟩ ⟨scopes, current, host, made⟩
    | .outOfFuel => .outOfFuel

def printLine (line : Nat) (text : String) : MachineRun Unit :=
  onHost line (Run.mapFault .stream (Host.writeLine text))

def define (name : String) (value : Value) : MachineRun Unit :=
  Run.modify fun m => { m with scopes := m.scopes.define m.current name value }

def lookup (ident : Ident) : MachineRun Value := fun m =>
  match m.scopes.get m.current ident.name ident.line with
  | .ok value => .done value m
  | .error error => .fault ⟨.undefined error.name, error.line⟩ m

-- Gives a name another value where it is bound. The scope is looked for first, so that the scopes have one
-- owner when they change.
def assign (ident : Ident) (value : Value) : MachineRun Unit := fun m =>
  match m.scopes.resolve m.current ident.name with
  | some found => .done () { m with scopes := m.scopes.define found ident.name value }
  | none => .fault ⟨.undefined ident.name, ident.line⟩ m

-- Runs in a new scope inside the given one, and comes back to the scope it left whether the run is done or
-- stops at a fault.
def within {α : Type} (parent : Nat) (run : MachineRun α) : MachineRun α := fun m =>
  match m with
  | ⟨scopes, outer, host, made⟩ =>
    let (inner, scopes) := scopes.nest parent
    match run ⟨scopes, inner, host, made⟩ with
    | .done result after => .done result { after with current := outer }
    | .fault error after => .fault error { after with current := outer }
    | .outOfFuel => .outOfFuel

def bindAll : List (Ident × Value) → MachineRun Unit
  | [] => return ()
  | (param, value) :: rest => do
    define param.name value
    bindAll rest

end Machine

end StoryScript

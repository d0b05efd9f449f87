import StoryScript.Tree.Basic
import StoryScript.Native.Basic

set_option autoImplicit false

namespace StoryScript

inductive Target where
  | function (declaration : FunctionDecl) (closure : Nat)
  | native (native : Native)

-- Something to call. Each has an identity of its own, given when it is made.
structure Callable where
  identity : Nat
  target : Target

namespace Callable

def name (c : Callable) : String :=
  match c.target with
  | .function declaration _ => declaration.ident.name
  | .native native => native.name

def arity (c : Callable) : Nat :=
  match c.target with
  | .function declaration _ => declaration.params.length
  | .native native => native.arity

def text (c : Callable) : String :=
  match c.target with
  | .function .. => "<fn " ++ c.name ++ ">"
  | .native _ => "<native fn " ++ c.name ++ ">"

end Callable

inductive Value where
  | nil
  | bool (value : Bool)
  | number (value : Number)
  | string (value : String)
  | callable (value : Callable)

namespace Value

def ofLiteral : Literal → Value
  | .number value => .number value
  | .string value => .string value
  | .bool value => .bool value
  | .nil => .nil

def isTruthy : Value → Bool
  | .nil => false
  | .bool value => value
  | _ => true

def number? : Value → Option Number
  | .number value => some value
  | _ => none

def callable? : Value → Option Callable
  | .callable value => some value
  | _ => none

-- Values of different types are never equal, and a callable equals only itself.
def equal : Value → Value → Bool
  | .nil, .nil => true
  | .bool a, .bool b => a == b
  | .number a, .number b => a.equal b
  | .string a, .string b => a == b
  | .callable a, .callable b => a.identity == b.identity
  | _, _ => false

def text : Value → String
  | .nil => "nil"
  | .bool true => "true"
  | .bool false => "false"
  | .number value => value.text
  | .string value => value
  | .callable value => value.text

def quotedText : Value → String
  | .string value => Text.quoted value
  | value => value.text

end Value

end StoryScript

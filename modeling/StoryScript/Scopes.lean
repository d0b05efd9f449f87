import StoryScript.Dictionary
import StoryScript.Value

set_option autoImplicit false

namespace StoryScript

structure Scope where
  bindings : Dictionary Value := {}
  parent : Option Nat := none

structure Scopes where
  all : Array Scope

structure UndefinedVariable where
  name : String
  line : Nat
deriving DecidableEq

def undefinedText (name : String) : String := "Undefined variable '" ++ name ++ "'."

def UndefinedVariable.message (error : UndefinedVariable) : String := undefinedText error.name

namespace Scopes

def root : Scopes := ⟨#[{}]⟩

def nest (s : Scopes) (parent : Nat) : Nat × Scopes :=
  (s.all.size, ⟨s.all.push { parent := some parent }⟩)

def localGet? (s : Scopes) (scope : Nat) (name : String) : Option Value :=
  s.all[scope]?.bind fun found => found.bindings.get? name

def parent? (s : Scopes) (scope : Nat) : Option Nat :=
  s.all[scope]?.bind Scope.parent

-- The nearest scope from the given one outwards that binds a name. The way outwards leads to scopes opened
-- earlier, so it ends.
def resolve (s : Scopes) (scope : Nat) (name : String) : Option Nat :=
  match s.localGet? scope name with
  | some _ => some scope
  | none =>
    match s.parent? scope with
    | none => none
    | some outer => if outer < scope then resolve s outer name else none
termination_by scope

def define (s : Scopes) (scope : Nat) (name : String) (value : Value) : Scopes :=
  ⟨s.all.modify scope fun found =>
    { found with bindings := found.bindings.insert name value }⟩

def get (s : Scopes) (scope : Nat) (name : String) (line : Nat) :
    Except UndefinedVariable Value :=
  match (s.resolve scope name).bind fun found => s.localGet? found name with
  | some value => .ok value
  | none => .error ⟨name, line⟩

-- Gives the binding that a name has in a scope another value. It never makes a binding.
def assign (s : Scopes) (scope : Nat) (name : String) (value : Value) (line : Nat) :
    Except UndefinedVariable Scopes :=
  match s.resolve scope name with
  | some found => .ok (s.define found name value)
  | none => .error ⟨name, line⟩

end Scopes

end StoryScript

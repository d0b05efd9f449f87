import StoryScript.Number.Decimal
import StoryScript.Text.Quoted

set_option autoImplicit false

namespace StoryScript

inductive Literal where
  | number (value : Number)
  | string (value : String)
  | bool (value : Bool)
  | nil
deriving DecidableEq

def Literal.render : Literal → String
  | .number value => value.text
  | .string value => Text.quoted value
  | .bool true => "true"
  | .bool false => "false"
  | .nil => "nil"

end StoryScript

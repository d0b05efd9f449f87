import StoryScript.Machine.Basic

set_option autoImplicit false

namespace StoryScript

-- Callables put in another form that nothing in a script can tell from the first.
structure Callable.Alike (form : Callable → Callable) : Prop where
  identity : ∀ c, (form c).identity = c.identity
  text : ∀ c, (form c).text = c.text

def Value.recast (form : Callable → Callable) : Value → Value
  | .callable target => .callable (form target)
  | value => value

theorem Value.recast_plain (form : Callable → Callable) (value : Value) (plain : value.callable? = none) :
    value.recast form = value := by
  cases value with
  | callable target => cases plain
  | _ => rfl

section Alike

variable (form : Callable → Callable) (alike : Callable.Alike form)

theorem Value.isTruthy_recast (value : Value) : (value.recast form).isTruthy = value.isTruthy := by
  cases value <;> rfl

theorem UnaryOp.apply_recast (op : UnaryOp) (operand : Value) : op.apply (operand.recast form) = op.apply operand := by
  cases op <;> cases operand <;> rfl

theorem onNumbers_recast (op : Number → Number → Value) (left right : Value) :
    onNumbers op (left.recast form) (right.recast form) = onNumbers op left right := by
  cases left <;> cases right <;> rfl

theorem LogicalOp.settledBy_recast (op : LogicalOp) (left : Value) :
    op.settledBy (left.recast form) = op.settledBy left := by
  cases op <;> simp only [LogicalOp.settledBy, Value.isTruthy_recast]

theorem numberArg_recast (native : Native) (value : Value) :
    Native.numberArg native (value.recast form) = Native.numberArg native value := by
  cases value <;> rfl

include alike

theorem Value.text_recast (value : Value) : (value.recast form).text = value.text := by
  cases value with
  | callable target => exact alike.text target
  | _ => rfl

theorem Value.equal_recast (first second : Value) :
    (first.recast form).equal (second.recast form) = first.equal second := by
  cases first with
  | callable a =>
    cases second with
    | callable b => simp only [Value.recast, Value.equal, alike.identity]
    | _ => rfl
  | _ => cases second <;> rfl

theorem BinaryOp.apply_recast (op : BinaryOp) (left right : Value) :
    op.apply (left.recast form) (right.recast form) = op.apply left right := by
  cases op with
  | add => cases left <;> cases right <;> rfl
  | divide => cases left <;> cases right <;> rfl
  | equal => simp only [BinaryOp.apply, Value.equal_recast form alike]
  | notEqual => simp only [BinaryOp.apply, Value.equal_recast form alike]
  | _ => exact onNumbers_recast form _ left right

theorem native_recast (native : Native) (fuel : Nat) (args : List Value) :
    native.call fuel (args.map (Value.recast form)) = native.call fuel args := by
  have arg : ∀ i, (args.map (Value.recast form)).getD i .nil = (args.getD i .nil).recast form := by
    intro i
    rw [List.getD_eq_getElem?_getD, List.getD_eq_getElem?_getD, List.getElem?_map]
    cases args[i]? <;> rfl
  cases native <;>
    simp only [Native.call, arg, Value.text_recast form alike, Native.setStatTo, Native.modStatBy, Native.throwDice,
      numberArg_recast]

end Alike

end StoryScript

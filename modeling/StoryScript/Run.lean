set_option autoImplicit false

namespace StoryScript

-- How a computation ends. A fault keeps the state it was met in.
inductive Finish (σ ε α : Type) where
  | done (result : α) (state : σ)
  | fault (error : ε) (state : σ)
  | outOfFuel

def Run (σ ε α : Type) : Type := σ → Finish σ ε α

namespace Run

variable {σ ε δ α β : Type}

@[inline] protected def pure (result : α) : Run σ ε α := fun state => .done result state

@[inline] protected def bind (x : Run σ ε α) (f : α → Run σ ε β) : Run σ ε β := fun state =>
  match x state with
  | .done result state => f result state
  | .fault error state => .fault error state
  | .outOfFuel => .outOfFuel

instance : Monad (Run σ ε) where
  pure := Run.pure
  bind := Run.bind

theorem bind_pure (x : Run σ ε α) : Run.bind x Run.pure = x := by
  funext state
  unfold Run.bind
  cases x state <;> rfl

theorem bind_assoc {γ : Type} (x : Run σ ε α) (f : α → Run σ ε β) (g : β → Run σ ε γ) :
    Run.bind (Run.bind x f) g = Run.bind x fun a => Run.bind (f a) g := by
  funext state
  unfold Run.bind
  cases x state <;> rfl

instance : LawfulMonad (Run σ ε) :=
  LawfulMonad.mk' (Run σ ε) (fun x => bind_pure x) (fun _ _ => rfl) (fun x f g => bind_assoc x f g)

@[inline] def get : Run σ ε σ := fun state => .done state state

@[inline] def modify (f : σ → σ) : Run σ ε Unit := fun state => .done () (f state)

@[inline] def fail (error : ε) : Run σ ε α := fun state => .fault error state

def noFuel : Run σ ε α := fun _ => .outOfFuel

def ofExcept : Except ε α → Run σ ε α
  | .ok result => Run.pure result
  | .error error => fail error

def mapFault (rename : ε → δ) (x : Run σ ε α) : Run σ δ α := fun state =>
  match x state with
  | .done result state => .done result state
  | .fault error state => .fault (rename error) state
  | .outOfFuel => .outOfFuel

end Run

end StoryScript

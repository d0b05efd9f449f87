import StoryScript.Proofs.Grammar.Laws
import StoryScript.Proofs.Grammar.Levels

set_option autoImplicit false

namespace StoryScript.Grammar

-- Reading goes on with whatever was found, as far as it goes.
def Reading.onwards {α β : Type} {n : Nat} (r : Reading α n)
    (next : α → (rest : List Token) → Reading β (rest.length + 1)) : Reading β n :=
  r.bind fun found rest fewer => (next found rest).widen fewer

section Onwards

variable {α β γ : Type} {m n : Nat}

theorem onwards_after (earlier : List Fault) (r : Reading α n)
    (next : α → (rest : List Token) → Reading β (rest.length + 1)) :
    (r.after earlier).onwards next = (r.onwards next).after earlier := by
  cases r with
  | failed => rfl
  | read found faults rest fewer =>
    change ((next found rest).widen _).after (earlier ++ faults) = (((next found rest).widen _).after faults).after earlier
    rw [after_after]

theorem onwards_widen (r : Reading α m) (le : m ≤ n) (next : α → (rest : List Token) → Reading β (rest.length + 1)) :
    (r.widen le).onwards next = (r.onwards next).widen le := by
  cases r with
  | failed => rfl
  | read found faults rest fewer =>
    change ((next found rest).widen _).after faults = (((next found rest).widen _).after faults).widen le
    cases next found rest <;> rfl

theorem onwards_past (r : Reading α n) (next : α → (rest : List Token) → Reading β (rest.length + 1)) :
    r.past.onwards next = (r.onwards next).past := onwards_widen r _ next

theorem onwards_ended (phrase : α) (rest : List Token)
    (next : α → (left : List Token) → Reading β (left.length + 1)) :
    (ended phrase rest).onwards next = next phrase rest := by
  change ((next phrase rest).widen _).after [] = next phrase rest
  cases next phrase rest <;> rfl

theorem onwards_still (r : Reading α n) : r.onwards ended = r := by
  cases r with
  | failed => rfl
  | read found faults rest fewer => simp [Reading.onwards, Reading.bind, ended, Reading.widen, Reading.after]

theorem onwards_onwards (r : Reading α n) (next : α → (rest : List Token) → Reading β (rest.length + 1))
    (last : β → (rest : List Token) → Reading γ (rest.length + 1)) :
    (r.onwards next).onwards last = r.onwards fun found rest => (next found rest).onwards last := by
  cases r with
  | failed => rfl
  | read found faults rest fewer =>
    change (((next found rest).widen _).after faults).onwards last = (((next found rest).onwards last).widen _).after faults
    rw [onwards_after, onwards_widen]

theorem onwards_congr (form : List Token → Prop) (r : Reading α n)
    (next other : α → (rest : List Token) → Reading β (rest.length + 1)) (leaves : r.Leaves form)
    (same : ∀ found rest, rest.length < n → form rest → next found rest = other found rest) :
    r.onwards next = r.onwards other := by
  cases r with
  | failed => rfl
  | read found faults rest fewer =>
    change ((next found rest).widen _).after faults = ((other found rest).widen _).after faults
    rw [same found rest fewer leaves]

theorem leaves_onwards (form : List Token → Prop) (r : Reading α n)
    (next : α → (rest : List Token) → Reading β (rest.length + 1))
    (leaves : ∀ found rest, rest.length < n → (next found rest).Leaves form) : (r.onwards next).Leaves form := by
  cases r with
  | failed => trivial
  | read found faults rest fewer => exact leaves_after form faults _ (leaves_widen form _ _ (leaves found rest fewer))

end Onwards

theorem weaker_nil (power : Nat) : Weaker power [] := by
  intro sign rest same
  cases same

theorem weaker_or_sign (power : Nat) (tokens : List Token) :
    Weaker power tokens ∨ ∃ sign rest b, tokens = sign :: rest ∧ binding? sign.kind = some b ∧ power ≤ b.left := by
  cases tokens with
  | nil => exact Or.inl (weaker_nil power)
  | cons sign rest =>
    cases found : binding? sign.kind with
    | none => exact Or.inl (weaker_cons power sign rest (by simp [found]))
    | some b =>
      by_cases weak : b.left < power
      · exact Or.inl (weaker_cons power sign rest (by simpa [found] using weak))
      · exact Or.inr ⟨sign, rest, b, rfl, found, Nat.le_of_not_lt weak⟩

theorem expression_onwards (power : Nat) (tokens : List Token) :
    expression power tokens = (operand tokens).onwards (operations power) := by
  rw [expression]
  rfl

theorem operations_ended (power : Nat) (left : Expr) (tokens : List Token) (weak : Weaker power tokens) :
    operations power left tokens = ended left tokens := by
  cases tokens with
  | nil => rw [operations]
  | cons sign rest =>
    rw [operations]
    split
    · rfl
    · rename_i b found
      rw [if_pos (weak sign rest rfl b found)]

theorem operations_taken (power : Nat) (left : Expr) (sign : Token) (rest : List Token) (b : Binding)
    (found : binding? sign.kind = some b) (strong : power ≤ b.left) :
    operations power left (sign :: rest) =
      ((expression b.right rest).onwards fun right rest' =>
        (operations power (b.operator.build sign left right) rest').after (b.operator.faults sign left)).past.past := by
  rw [operations]
  split
  · simp_all
  · rename_i other foundToo
    obtain rfl := Option.some.inj (found.symm.trans foundToo)
    rw [if_neg (Nat.not_lt.2 strong), ← onwards_past]
    rfl

theorem operations_leave (power : Nat) (left : Expr) (tokens : List Token) :
    (operations power left tokens).Leaves (Weaker power) := by
  rcases weaker_or_sign power tokens with weak | ⟨sign, rest, b, rfl, found, strong⟩
  · rw [operations_ended power left tokens weak]
    exact weak
  · rw [operations_taken power left sign rest b found strong]
    refine leaves_widen _ _ _ (leaves_widen _ _ _ (leaves_onwards _ _ _ ?_))
    intro right rest' fewer
    exact leaves_after _ _ _ (operations_leave power _ rest')
termination_by tokens.length
decreasing_by
  subst_vars
  exact Nat.lt_succ_of_lt fewer

theorem expression_leave (power : Nat) (tokens : List Token) : (expression power tokens).Leaves (Weaker power) := by
  rw [expression_onwards]
  exact leaves_onwards _ _ _ fun left rest _ => operations_leave power left rest

-- The signs of the greater powers are taken first, so reading with a small power is reading with a great one and
-- going on from there.
theorem operations_staged (low high : Nat) (le : low ≤ high) (left : Expr) (tokens : List Token) :
    operations low left tokens = (operations high left tokens).onwards (operations low) := by
  rcases weaker_or_sign high tokens with weak | ⟨sign, rest, b, rfl, found, strong⟩
  · rw [operations_ended high left tokens weak, onwards_ended]
  · rw [operations_taken low left sign rest b found (Nat.le_trans le strong),
      operations_taken high left sign rest b found strong, onwards_past, onwards_past, onwards_onwards]
    congr 2
    refine onwards_congr _ _ _ _ (expression_leave b.right rest) ?_
    intro right rest' fewer _
    rw [onwards_after, ← operations_staged low high le _ rest']
termination_by tokens.length
decreasing_by
  subst_vars
  exact Nat.lt_succ_of_lt fewer

theorem expression_staged (low high : Nat) (le : low ≤ high) (tokens : List Token) :
    expression low tokens = (expression high tokens).onwards (operations low) := by
  rw [expression_onwards low, expression_onwards high, onwards_onwards]
  exact congrArg _ (funext fun left => funext fun rest => operations_staged low high le left rest)

theorem expression_between (low high : Nat) (le : low ≤ high)
    (none : ∀ kind b, binding? kind = some b → b.left < high → b.left < low) (tokens : List Token) :
    expression low tokens = expression high tokens := by
  have stops : (expression high tokens).onwards (operations low) = (expression high tokens).onwards ended := by
    refine onwards_congr _ _ _ _ (expression_leave high tokens) ?_
    intro left rest _ weak
    refine operations_ended low left rest ?_
    intro sign more same b found
    exact none sign.kind b found (weak sign more same b found)
  rw [expression_staged low high le tokens, stops, onwards_still]

end StoryScript.Grammar

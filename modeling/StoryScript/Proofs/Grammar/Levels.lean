import StoryScript.Proofs.Grammar.Derivation

set_option autoImplicit false

namespace StoryScript.Grammar

-- The powers of the operators follow the levels: a sign of a level binds to the left with the odd
-- power of the level and to the right with the next even one. Assignment alone groups to the right;
-- both its powers lie below those of the level after it.
def Level.rank : Level → Nat
  | .assignment => 0
  | .or => 1
  | .and => 2
  | .equality => 3
  | .comparison => 4
  | .term => 5
  | .factor => 6
  | .unary => 7
  | .call => 8
  | .primary => 9

def Level.power (level : Level) : Nat := 2 * level.rank + 1

theorem rank_tighter (level : Level) (looser : level ≠ .primary) : level.tighter.rank = level.rank + 1 := by
  cases level with
  | primary => exact (looser rfl).elim
  | _ => rfl

theorem ne_primary (level : Level) (small : level.rank < 9) : level ≠ .primary := by
  rintro rfl
  exact Nat.lt_irrefl 9 small

theorem rank_le (level : Level) : level.rank ≤ 9 := by
  cases level <;> simp [Level.rank]

theorem rank_injective (a b : Level) (same : a.rank = b.rank) : a = b := by
  cases a <;> cases b <;> first | rfl | cases same

theorem derives_loosen (loose tight : Level) (tokens : List Token) (expr : Expr)
    (le : loose.rank ≤ tight.rank) (derives : Derives tight tokens expr) : Derives loose tokens expr := by
  by_cases same : loose.rank = tight.rank
  · rw [rank_injective loose tight same]
    exact derives
  · have bound := rank_le tight
    have looser := ne_primary loose (by omega)
    have next := rank_tighter loose looser
    exact .tighter loose tokens expr looser (derives_loosen loose.tighter tight tokens expr (by omega) derives)
termination_by tight.rank - loose.rank
decreasing_by omega

theorem logical_rank (level : Level) (kind : Kind) (op : LogicalOp) (found : level.logicalOp? kind = some op) :
    1 ≤ level.rank ∧ level.rank ≤ 6 := by
  cases level <;> simp_all [Level.logicalOp?, Level.rank]

theorem binary_rank (level : Level) (kind : Kind) (op : BinaryOp) (found : level.binaryOp? kind = some op) :
    1 ≤ level.rank ∧ level.rank ≤ 6 := by
  cases level <;> simp_all [Level.binaryOp?, Level.rank]

theorem binding_logical (level : Level) (kind : Kind) (op : LogicalOp)
    (found : level.logicalOp? kind = some op) :
    binding? kind = some ⟨.logical op, level.power, level.power + 1⟩ := by
  unfold Level.logicalOp? at found
  split at found <;> cases found <;> rfl

theorem binding_binary (level : Level) (kind : Kind) (op : BinaryOp)
    (found : level.binaryOp? kind = some op) :
    binding? kind = some ⟨.binary op, level.power, level.power + 1⟩ := by
  unfold Level.binaryOp? at found
  split at found <;> cases found <;> rfl

inductive SignOf (kind : Kind) : Binding → Prop where
  | assign (same : kind = .equal) : SignOf kind ⟨.assign, 2, 1⟩
  | logical (level : Level) (op : LogicalOp) (found : level.logicalOp? kind = some op) :
      SignOf kind ⟨.logical op, level.power, level.power + 1⟩
  | binary (level : Level) (op : BinaryOp) (found : level.binaryOp? kind = some op) :
      SignOf kind ⟨.binary op, level.power, level.power + 1⟩

theorem sign_of_binding (kind : Kind) (b : Binding) (found : binding? kind = some b) : SignOf kind b := by
  unfold binding? at found
  split at found <;> try obtain rfl := Option.some.inj found
  · exact .assign rfl
  · exact .logical .or .or rfl
  · exact .logical .and .and rfl
  · exact .binary .equality .equal rfl
  · exact .binary .equality .notEqual rfl
  · exact .binary .comparison .greater rfl
  · exact .binary .comparison .greaterEqual rfl
  · exact .binary .comparison .less rfl
  · exact .binary .comparison .lessEqual rfl
  · exact .binary .term .add rfl
  · exact .binary .term .subtract rfl
  · exact .binary .factor .multiply rfl
  · exact .binary .factor .divide rfl
  · cases found

theorem binding_lt_unary (kind : Kind) (b : Binding) (found : binding? kind = some b) :
    b.left < unaryPower := by
  cases sign_of_binding kind b found with
  | assign => decide
  | logical level op isSign =>
    have bound := (logical_rank level kind op isSign).2
    simp only [Level.power, unaryPower]
    omega
  | binary level op isSign =>
    have bound := (binary_rank level kind op isSign).2
    simp only [Level.power, unaryPower]
    omega

def Weaker (power : Nat) (tokens : List Token) : Prop :=
  ∀ sign rest, tokens = sign :: rest → ∀ b, binding? sign.kind = some b → b.left < power

theorem weaker_mono (low high : Nat) (tokens : List Token) (le : low ≤ high) (weak : Weaker low tokens) :
    Weaker high tokens :=
  fun sign rest same b found => Nat.lt_of_lt_of_le (weak sign rest same b found) le

theorem weaker_cons (power : Nat) (sign : Token) (rest : List Token)
    (weak : ∀ b, binding? sign.kind = some b → b.left < power) : Weaker power (sign :: rest) := by
  intro sign' rest' same
  obtain ⟨rfl, rfl⟩ := List.cons.inj same
  exact weak

theorem weaker_unary (tokens : List Token) : Weaker unaryPower tokens :=
  fun sign _ _ b found => binding_lt_unary sign.kind b found

-- The level that is read when operators of at least some power are taken.
structure Level.Serves (level : Level) (power : Nat) : Prop where
  atMostUnary : level.rank ≤ 7
  reaches : 2 * level.rank ≤ power
  weakest : power ≤ 2 → level.rank = 0

theorem serves_any : Level.Serves .assignment 0 := ⟨by decide, by decide, fun _ => rfl⟩

theorem serves_value : Level.Serves .assignment 1 := ⟨by decide, by decide, fun _ => rfl⟩

theorem serves_unary : Level.Serves .unary unaryPower := ⟨by decide, by decide, fun h => absurd h (by decide)⟩

theorem serves_tighter (level : Level) (low : 1 ≤ level.rank) (high : level.rank ≤ 6) :
    level.tighter.Serves (level.power + 1) := by
  have next := rank_tighter level (ne_primary level (by omega))
  refine ⟨by omega, ?_, ?_⟩
  · simp only [Level.power]
    omega
  · intro small
    simp only [Level.power] at small
    omega

end StoryScript.Grammar

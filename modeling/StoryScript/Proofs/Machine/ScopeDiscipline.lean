import StoryScript.Proofs.Machine.Contract
import StoryScript.Proofs.Machine.ScopeUpdates

set_option autoImplicit false

namespace StoryScript.Machine

-- From one machine to a later one: it stands in the same scope, no scope that was there has moved or
-- lost a name, and only the scope it stands in has new names, all of them among those given.
structure Tidy (names : List String) (m after : Machine) : Prop where
  current : after.current = m.current
  opened : m.scopes.count ≤ after.scopes.count
  links : ∀ scope < m.scopes.count, after.scopes.parent? scope = m.scopes.parent? scope
  kept : ∀ scope name, m.scopes.Binds scope name → after.scopes.Binds scope name
  added : ∀ scope < m.scopes.count, ∀ name, after.scopes.Binds scope name →
    m.scopes.Binds scope name ∨ (scope = m.current ∧ name ∈ names)

def SameNames (m after : Machine) : Prop :=
  ∀ scope < m.scopes.count, ∀ name, after.scopes.Binds scope name ↔ m.scopes.Binds scope name

theorem same_names_of_tidy (m after : Machine) (tidy : Tidy [] m after) : SameNames m after := by
  intro scope older name
  constructor
  · intro bound
    rcases tidy.added scope older name bound with before | ⟨_, listed⟩
    · exact before
    · cases listed
  · exact tidy.kept scope name

theorem tidy_same_scopes (names : List String) (m after : Machine) (scopes : after.scopes = m.scopes)
    (current : after.current = m.current) : Tidy names m after where
  current := current
  opened := Nat.le_of_eq (congrArg Scopes.count scopes.symm)
  links := fun scope _ => by rw [scopes]
  kept := fun scope name bound => by rw [scopes]; exact bound
  added := fun scope _ name bound => Or.inl (by rw [← scopes]; exact bound)

theorem tidy_join (names : List String) (first second third : Machine) (former : Tidy names first second)
    (latter : Tidy names second third) : Tidy names first third where
  current := latter.current.trans former.current
  opened := Nat.le_trans former.opened latter.opened
  links := by
    intro scope older
    rw [latter.links scope (Nat.lt_of_lt_of_le older former.opened), former.links scope older]
  kept := fun scope name bound => latter.kept scope name (former.kept scope name bound)
  added := by
    intro scope older name bound
    rcases latter.added scope (Nat.lt_of_lt_of_le older former.opened) name bound with before | ⟨here, listed⟩
    · exact former.added scope older name before
    · exact Or.inr ⟨here.trans former.current, listed⟩

theorem tidy_allow (few many : List String) (m after : Machine) (subset : few ⊆ many) (tidy : Tidy few m after) :
    Tidy many m after where
  current := tidy.current
  opened := tidy.opened
  links := tidy.links
  kept := tidy.kept
  added := by
    intro scope older name bound
    rcases tidy.added scope older name bound with before | ⟨here, listed⟩
    · exact Or.inl before
    · exact Or.inr ⟨here, subset listed⟩

theorem tidy_define (names : List String) (m after : Machine) (changed : Nat) (name : String) (value : Value)
    (current : after.current = m.current) (scopes : after.scopes = m.scopes.define changed name value)
    (allowed : m.scopes.Binds changed name ∨ (changed = m.current ∧ name ∈ names)) : Tidy names m after where
  current := current
  opened := Nat.le_of_eq (by rw [scopes, Scopes.count_define])
  links := fun scope _ => by rw [scopes, Scopes.parent_define]
  kept := by
    intro scope other bound
    rw [scopes]
    exact (Scopes.binds_define ..).2 (Or.inr bound)
  added := by
    intro scope _ other bound
    rw [scopes] at bound
    rcases (Scopes.binds_define ..).1 bound with ⟨rfl, _, rfl⟩ | before
    · exact allowed
    · exact Or.inl before

theorem tidy_leave (names : List String) (parent : Nat) (m after : Machine)
    (tidy : Tidy names (m.nested parent) after) : Tidy [] m (after.backTo m.current) where
  current := rfl
  opened := by
    have opened := tidy.opened
    change (m.scopes.nest parent).2.count ≤ after.scopes.count at opened
    rw [Scopes.count_nest] at opened
    exact Nat.le_of_succ_le opened
  links := by
    intro scope older
    have inside : scope < (m.scopes.nest parent).2.count := by
      rw [Scopes.count_nest]
      exact Nat.lt_succ_of_lt older
    calc after.scopes.parent? scope = (m.scopes.nest parent).2.parent? scope := tidy.links scope inside
      _ = m.scopes.parent? scope := by rw [Scopes.parent_nest, if_neg (Nat.ne_of_lt older)]
  kept := by
    intro scope name bound
    exact tidy.kept scope name ((Scopes.binds_nest ..).2 bound)
  added := by
    intro scope older name bound
    have inside : scope < (m.scopes.nest parent).2.count := by
      rw [Scopes.count_nest]
      exact Nat.lt_succ_of_lt older
    rcases tidy.added scope inside name bound with before | ⟨here, _⟩
    · exact Or.inl ((Scopes.binds_nest ..).1 before)
    · exact (Nat.ne_of_lt older here).elim

def tidyTerms : Terms where
  holds := fun _ => True
  leads := Tidy
  fits := fun _ _ => True

theorem tidy_onHost {α : Type} (result : Machine → α → Prop) (fits : ∀ m value, result m value) (line : Nat)
    (run : NativeRun α) (m : Machine) : tidyTerms.Keeps [] result (onHost line run) m := by
  refine (onHost_ends line run m _ _).2 ?_
  cases run m.host with
  | done value host => exact ⟨trivial, tidy_same_scopes [] m _ rfl rfl, fits _ value⟩
  | fault error host => exact ⟨trivial, tidy_same_scopes [] m _ rfl rfl⟩
  | outOfFuel => trivial

theorem tidy_encloses (m : Machine) (parent : Nat) : tidyTerms.Encloses m parent where
  enter := trivial
  carry := fun _ _ => trivial
  leave := fun names after _ tidy => ⟨trivial, tidy_leave names parent m after tidy⟩
  bring := fun _ _ _ => trivial

def tidiness : Contract where
  toTerms := tidyTerms
  stay := fun names m => tidy_same_scopes names m m rfl rfl
  join := tidy_join
  allow := tidy_allow
  later := fun _ _ _ _ _ _ => trivial
  plain := fun _ _ _ => trivial
  lookup := by
    intro ident m _
    unfold Terms.Keeps lookup
    cases m.scopes.get m.current ident.name ident.line with
    | ok value => exact ⟨trivial, tidy_same_scopes [] m m rfl rfl, trivial⟩
    | error error => exact ⟨trivial, tidy_same_scopes [] m m rfl rfl⟩
  assign := by
    intro ident value m _ _
    unfold Terms.Keeps assign
    cases resolved : m.scopes.resolve m.current ident.name with
    | some found =>
      have bound := m.scopes.resolve_binds m.current ident.name found resolved
      exact ⟨trivial, tidy_define [] m _ found ident.name value rfl rfl (Or.inl bound), trivial⟩
    | none => exact ⟨trivial, tidy_same_scopes [] m m rfl rfl⟩
  define := by
    intro name value m _ _
    have here : name ∈ [name] := List.mem_singleton_self name
    exact ⟨trivial, tidy_define [name] m _ m.current name value rfl rfl (Or.inr ⟨rfl, here⟩), trivial⟩
  declare := by
    intro name declaration m _
    have here : name ∈ [name] := List.mem_singleton_self name
    exact ⟨trivial, tidy_define [name] m _ m.current name _ rfl rfl (Or.inr ⟨rfl, here⟩), trivial⟩
  print := fun line _ m _ => tidy_onHost _ (fun _ _ => trivial) line _ m
  native := fun _ _ _ line m _ => tidy_onHost _ (fun _ _ => trivial) line _ m
  block := fun m _ => tidy_encloses m m.current
  function := fun _ _ closure m _ _ => tidy_encloses m closure

theorem evaluate_tidy (fuel : Nat) (expr : Expr) (m : Machine) :
    (evaluate fuel expr m).Ends (fun _ after => Tidy [] m after) (fun _ after => Tidy [] m after) :=
  tidiness.leads_of_keeps [] _ _ m ((tidiness.kept fuel).evaluate expr m trivial)

theorem execute_tidy (fuel : Nat) (stmt : Stmt) (m : Machine) :
    (execute fuel stmt m).Ends (fun _ after => Tidy stmt.declared m after)
      (fun _ after => Tidy stmt.declared m after) :=
  tidiness.leads_of_keeps stmt.declared _ _ m ((tidiness.kept fuel).execute stmt m trivial)

-- Every way of finishing, with a value, a flow or a fault, leads back to the scope that the run began
-- in. Expressions and blocks declare nothing outside, and a statement only what it declares itself.
theorem run_keeps_scope_discipline (fuel : Nat) (m : Machine) :
    (∀ expr, (evaluate fuel expr m).Ends (fun _ after => Tidy [] m after ∧ SameNames m after)
      (fun _ after => Tidy [] m after ∧ SameNames m after)) ∧
    (∀ body, (execute fuel (.block body) m).Ends (fun _ after => Tidy [] m after ∧ SameNames m after)
      (fun _ after => Tidy [] m after ∧ SameNames m after)) ∧
    (∀ stmt, (execute fuel stmt m).Ends (fun _ after => Tidy stmt.declared m after)
      (fun _ after => Tidy stmt.declared m after)) := by
  have silent : ∀ after, Tidy [] m after → Tidy [] m after ∧ SameNames m after :=
    fun after tidy => ⟨tidy, same_names_of_tidy m after tidy⟩
  refine ⟨?_, ?_, ?_⟩
  · intro expr
    exact ends_weaken _ _ _ _ _ (evaluate_tidy fuel expr m) (fun _ => silent) (fun _ => silent)
  · intro body
    exact ends_weaken _ _ _ _ _ (execute_tidy fuel (.block body) m) (fun _ => silent) (fun _ => silent)
  · intro stmt
    exact execute_tidy fuel stmt m

end StoryScript.Machine

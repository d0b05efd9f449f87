import StoryScript.Proofs.Machine.Contract
import StoryScript.Proofs.Machine.ScopeUpdates

set_option autoImplicit false

namespace StoryScript

def Value.closure? : Value → Option Nat
  | .callable ⟨_, .function _ closure⟩ => some closure
  | _ => none

theorem closure_plain (value : Value) (plain : value.callable? = none) : value.closure? = none := by
  cases value with
  | callable target => cases plain
  | _ => rfl

-- The scopes that can be reached from some roots: outwards, and into the scopes that functions bound
-- on the way are closed over.
inductive Scopes.Reach (s : Scopes) (roots : Nat → Prop) : Nat → Prop where
  | root (scope : Nat) (isRoot : roots scope) : Reach s roots scope
  | outwards (scope outer : Nat) (reached : Reach s roots scope) (link : s.parent? scope = some outer) :
      Reach s roots outer
  | closure (scope closure : Nat) (name : String) (value : Value) (reached : Reach s roots scope)
      (bound : s.localGet? scope name = some value) (closed : value.closure? = some closure) :
      Reach s roots closure

theorem Scopes.resolve_inside (s : Scopes) (inside : Nat → Prop)
    (outwards : ∀ scope outer, inside scope → s.parent? scope = some outer → inside outer) (scope : Nat)
    (name : String) (found : Nat) (start : inside scope) (resolved : s.resolve scope name = some found) :
    inside found := by
  fun_induction Scopes.resolve s scope name with
  | case1 scope value bound =>
    cases resolved
    exact start
  | case2 scope unbound outermost => cases resolved
  | case3 scope unbound outer link earlier ih => exact ih (outwards scope outer start link) resolved
  | case4 scope unbound outer link later => cases resolved

def Flow.results : Flow → List Value
  | .normal => []
  | .returned value => [value]

def Plain (run : NativeRun Value) : Prop :=
  ∀ host, (run host).Ends (fun value _ => value.callable? = none) fun _ _ => True

theorem plain_pure (value : Value) (plain : value.callable? = none) : Plain (pure value) := fun _ => plain

theorem plain_bind {α : Type} (run : NativeRun α) (next : α → NativeRun Value) (plain : ∀ found, Plain (next found)) :
    Plain (run >>= next) := by
  intro host
  refine (ends_bind run next host _ _).2 ?_
  cases run host with
  | done found after => exact plain found after
  | fault error after => trivial
  | outOfFuel => trivial

theorem plain_narrate (line : String) : Plain (Native.narrate line) :=
  plain_bind _ _ fun _ => plain_pure .nil rfl

theorem plain_throwDice (fuel : Nat) (low high : Value) : Plain (Native.throwDice fuel low high) := by
  refine plain_bind _ _ fun _ => plain_bind _ _ fun _ => plain_bind _ _ ?_
  rintro ⟨first, last⟩
  refine plain_bind _ _ fun world => ?_
  cases world.randomInt fuel first last with
  | none => exact fun _ => trivial
  | some thrown => exact plain_bind _ _ fun _ => plain_pure (.number _) rfl

theorem plain_readClock : Plain Native.readClock := by
  refine plain_bind _ _ fun time => ?_
  cases time.seconds? with
  | some seconds => exact plain_pure (.number seconds) rfl
  | none => exact fun _ => trivial

theorem plain_call (native : Native) (fuel : Nat) (args : List Value) : Plain (native.call fuel args) := by
  cases native with
  | input => exact plain_bind _ _ fun _ => plain_pure _ rfl
  | character => exact plain_bind _ _ fun _ => plain_narrate _
  | choice => exact plain_bind _ _ fun _ => plain_narrate _
  | restart => exact plain_bind _ _ fun _ => plain_bind _ _ fun _ => plain_narrate _
  | add => exact plain_bind _ _ fun _ => plain_bind _ _ fun _ => plain_bind _ _ fun _ => plain_pure _ rfl
  | inventory => exact plain_bind _ _ fun _ => plain_bind _ _ fun _ => plain_pure _ rfl
  | use => exact plain_bind _ _ fun _ => plain_bind _ _ fun _ => plain_bind _ _ fun _ => plain_pure _ rfl
  | item => exact plain_bind _ _ fun _ => plain_pure _ rfl
  | setStat => exact plain_bind _ _ fun _ => plain_bind _ _ fun _ => plain_bind _ _ fun _ => plain_pure _ rfl
  | modStat => exact plain_bind _ _ fun _ => plain_bind _ _ fun _ => plain_bind _ _ fun _ => plain_pure _ rfl
  | getStat =>
    refine plain_bind _ _ fun world => plain_pure _ ?_
    cases world.stat (args.getD 0 .nil).text (args.getD 1 .nil).text <;> rfl
  | checkStats => exact plain_bind _ _ fun _ => plain_narrate _
  | random => exact plain_throwDice fuel _ _
  | clock => exact plain_readClock
  | _ => exact plain_narrate _

namespace Machine

-- The scopes that a run may work in: those that could be reached when it began, and those opened since.
def Owned (reach : Nat → Prop) (base s : Scopes) (scope : Nat) : Prop :=
  reach scope ∨ (base.count ≤ scope ∧ scope < s.count)

def Held (reach : Nat → Prop) (base s : Scopes) (value : Value) : Prop :=
  ∀ closure, value.closure? = some closure → Owned reach base s closure

theorem owned_later (reach : Nat → Prop) (base s later : Scopes) (scope : Nat) (opened : s.count ≤ later.count)
    (owned : Owned reach base s scope) : Owned reach base later scope := by
  rcases owned with reached | ⟨fresh, bound⟩
  · exact Or.inl reached
  · exact Or.inr ⟨fresh, Nat.lt_of_lt_of_le bound opened⟩

theorem held_later (reach : Nat → Prop) (base s later : Scopes) (value : Value) (opened : s.count ≤ later.count)
    (held : Held reach base s value) : Held reach base later value := by
  intro closure closed
  exact owned_later reach base s later closure opened (held closure closed)

theorem held_plain (reach : Nat → Prop) (base s : Scopes) (value : Value) (plain : value.callable? = none) :
    Held reach base s value := by
  intro closure closed
  rw [closure_plain value plain] at closed
  cases closed

-- The invariant of a run: it stands in a scope of its own, nothing leads from such scopes to others,
-- and the others are as they were.
structure Confined (reach : Nat → Prop) (base : Scopes) (m : Machine) : Prop where
  opened : base.count ≤ m.scopes.count
  untouched : ∀ scope < base.count, ¬ reach scope → m.scopes.all[scope]? = base.all[scope]?
  current : Owned reach base m.scopes m.current
  outwards : ∀ scope outer, Owned reach base m.scopes scope → m.scopes.parent? scope = some outer →
    Owned reach base m.scopes outer
  values : ∀ scope name value, Owned reach base m.scopes scope → m.scopes.localGet? scope name = some value →
    Held reach base m.scopes value

theorem confined_same_scopes (reach : Nat → Prop) (base : Scopes) (m after : Machine)
    (scopes : after.scopes = m.scopes) (current : after.current = m.current) (confined : Confined reach base m) :
    Confined reach base after := by
  obtain ⟨opened, untouched, owned, outwards, values⟩ := confined
  constructor
  · rw [scopes]
    exact opened
  · rw [scopes]
    exact untouched
  · rw [scopes, current]
    exact owned
  · rw [scopes]
    exact outwards
  · rw [scopes]
    exact values

theorem confined_define (reach : Nat → Prop) (base : Scopes) (m after : Machine) (changed : Nat) (name : String)
    (value : Value) (scopes : after.scopes = m.scopes.define changed name value) (current : after.current = m.current)
    (owned : Owned reach base m.scopes changed) (held : Held reach base m.scopes value)
    (confined : Confined reach base m) : Confined reach base after := by
  have counts : after.scopes.count = m.scopes.count := by rw [scopes, Scopes.count_define]
  have same : ∀ scope, Owned reach base after.scopes scope ↔ Owned reach base m.scopes scope := by
    intro scope
    unfold Owned
    rw [counts]
  have sameHeld : ∀ other, Held reach base m.scopes other → Held reach base after.scopes other :=
    fun other => held_later reach base m.scopes after.scopes other (Nat.le_of_eq counts.symm)
  constructor
  · rw [counts]
    exact confined.opened
  · intro scope older unreached
    have different : changed ≠ scope := by
      rintro rfl
      rcases owned with reached | ⟨fresh, _⟩
      · exact unreached reached
      · exact Nat.not_lt_of_le fresh older
    rw [scopes, Scopes.scope_define_elsewhere m.scopes changed scope name value different]
    exact confined.untouched scope older unreached
  · rw [current, same]
    exact confined.current
  · intro scope outer inside link
    rw [scopes, Scopes.parent_define] at link
    exact (same outer).2 (confined.outwards scope outer ((same scope).1 inside) link)
  · intro scope other found inside bound
    rw [scopes, Scopes.localGet_define] at bound
    split at bound
    · cases bound
      exact sameHeld value held
    · exact sameHeld found (confined.values scope other found ((same scope).1 inside) bound)

theorem confined_nested (reach : Nat → Prop) (base : Scopes) (m : Machine) (parent : Nat)
    (owned : Owned reach base m.scopes parent) (confined : Confined reach base m) :
    Confined reach base (m.nested parent) := by
  have opened : m.scopes.count ≤ (m.scopes.nest parent).2.count := by
    rw [Scopes.count_nest]
    exact Nat.le_succ _
  have older : ∀ scope, Owned reach base (m.scopes.nest parent).2 scope → scope ≠ m.scopes.count →
      Owned reach base m.scopes scope := by
    rintro scope (reached | ⟨fresh, bound⟩) different
    · exact Or.inl reached
    · rw [Scopes.count_nest] at bound
      exact Or.inr ⟨fresh, Nat.lt_of_le_of_ne (Nat.le_of_lt_succ bound) different⟩
  constructor
  · exact Nat.le_trans confined.opened opened
  · intro scope before unreached
    have inside := Nat.lt_of_lt_of_le before confined.opened
    calc (m.scopes.nest parent).2.all[scope]? = m.scopes.all[scope]? := m.scopes.scope_nest_older parent scope inside
      _ = base.all[scope]? := confined.untouched scope before unreached
  · refine Or.inr ⟨confined.opened, ?_⟩
    change m.scopes.count < (m.scopes.nest parent).2.count
    rw [Scopes.count_nest]
    exact Nat.lt_succ_self _
  · intro scope outer inside link
    change (m.scopes.nest parent).2.parent? scope = some outer at link
    rw [Scopes.parent_nest] at link
    split at link
    · cases link
      exact owned_later reach base _ _ parent opened owned
    · rename_i different
      exact owned_later reach base _ _ outer opened (confined.outwards scope outer (older scope inside different) link)
  · intro scope name value inside bound
    change (m.scopes.nest parent).2.localGet? scope name = some value at bound
    rw [Scopes.localGet_nest] at bound
    have different : scope ≠ m.scopes.count := by
      rintro rfl
      rw [Scopes.localGet?, Scopes.scope_unopened] at bound
      cases bound
    exact held_later reach base _ _ value opened (confined.values scope name value (older scope inside different) bound)

theorem confined_backTo (reach : Nat → Prop) (base : Scopes) (m : Machine) (scope : Nat)
    (owned : Owned reach base m.scopes scope) (confined : Confined reach base m) :
    Confined reach base (m.backTo scope) :=
  { confined with current := owned }

def confinedTerms (reach : Nat → Prop) (base : Scopes) : Terms where
  holds := Confined reach base
  leads := fun _ m after => after.current = m.current ∧ m.scopes.count ≤ after.scopes.count
  fits := fun m => Held reach base m.scopes

theorem confined_encloses (reach : Nat → Prop) (base : Scopes) (m : Machine) (parent : Nat)
    (owned : Owned reach base m.scopes parent) (confined : Confined reach base m) :
    (confinedTerms reach base).Encloses m parent := by
  have opened : m.scopes.count ≤ (m.scopes.nest parent).2.count := by
    rw [Scopes.count_nest]
    exact Nat.le_succ _
  constructor
  · exact confined_nested reach base m parent owned confined
  · intro value held
    exact held_later reach base _ _ value opened held
  · rintro names after inside ⟨_, more⟩
    have later : m.scopes.count ≤ after.scopes.count := Nat.le_trans opened more
    have back := owned_later reach base _ after.scopes m.current later confined.current
    exact ⟨confined_backTo reach base after m.current back inside, rfl, later⟩
  · intro after value held
    exact held

theorem confined_onHost {α : Type} (reach : Nat → Prop) (base : Scopes) (result : Machine → α → Prop) (line : Nat)
    (run : NativeRun α) (m : Machine) (confined : Confined reach base m)
    (fits : (run m.host).Ends (fun value host => result { m with host } value) fun _ _ => True) :
    (confinedTerms reach base).Keeps [] result (onHost line run) m := by
  refine (onHost_ends line run m _ _).2 (ends_weaken _ _ _ _ _ fits ?_ ?_)
  · intro value host fit
    exact ⟨confined_same_scopes reach base m _ rfl rfl confined, ⟨rfl, Nat.le_refl _⟩, fit⟩
  · intro error host _
    exact ⟨confined_same_scopes reach base m _ rfl rfl confined, rfl, Nat.le_refl _⟩

theorem confined_lookup (reach : Nat → Prop) (base : Scopes) (ident : Ident) (m : Machine)
    (confined : Confined reach base m) :
    (confinedTerms reach base).Keeps [] (confinedTerms reach base).fits (lookup ident) m := by
  unfold Terms.Keeps lookup Scopes.get
  cases resolved : m.scopes.resolve m.current ident.name with
  | none => exact ⟨confined, rfl, Nat.le_refl _⟩
  | some found =>
    have owned := m.scopes.resolve_inside _ confined.outwards m.current ident.name found confined.current resolved
    cases bound : m.scopes.localGet? found ident.name with
    | none =>
      simp only [Option.bind_some, bound]
      exact ⟨confined, rfl, Nat.le_refl _⟩
    | some value =>
      simp only [Option.bind_some, bound]
      exact ⟨confined, ⟨rfl, Nat.le_refl _⟩, confined.values found ident.name value owned bound⟩

def confinement (reach : Nat → Prop) (base : Scopes) : Contract where
  toTerms := confinedTerms reach base
  stay := fun _ _ => ⟨rfl, Nat.le_refl _⟩
  join := fun _ _ _ _ former latter => ⟨latter.1.trans former.1, Nat.le_trans former.2 latter.2⟩
  allow := fun _ _ _ _ _ leads => leads
  later := fun _ m after value leads held => held_later reach base m.scopes after.scopes value leads.2 held
  plain := fun m value plain => held_plain reach base m.scopes value plain
  lookup := confined_lookup reach base
  assign := by
    intro ident value m confined held
    unfold Terms.Keeps assign
    cases resolved : m.scopes.resolve m.current ident.name with
    | none => exact ⟨confined, rfl, Nat.le_refl _⟩
    | some found =>
      have owned := m.scopes.resolve_inside _ confined.outwards m.current ident.name found confined.current resolved
      exact ⟨confined_define reach base m _ found ident.name value rfl rfl owned held confined,
        ⟨rfl, Nat.le_of_eq (Scopes.count_define ..).symm⟩, trivial⟩
  define := by
    intro name value m confined held
    exact ⟨confined_define reach base m _ m.current name value rfl rfl confined.current held confined,
      ⟨rfl, Nat.le_of_eq (Scopes.count_define ..).symm⟩, trivial⟩
  declare := by
    intro name declaration m confined
    have held : Held reach base m.scopes (.callable ⟨m.made, .function declaration m.current⟩) := by
      rintro closure ⟨⟩
      exact confined.current
    exact ⟨confined_define reach base m _ m.current name _ rfl rfl confined.current held confined,
      ⟨rfl, Nat.le_of_eq (Scopes.count_define ..).symm⟩, trivial⟩
  print := by
    intro line text m confined
    refine confined_onHost reach base _ line _ m confined ?_
    exact ends_trivial _
  native := by
    intro native fuel args line m confined
    refine confined_onHost reach base _ line _ m confined (ends_weaken _ _ _ _ _ (plain_call native fuel args m.host) ?_ ?_)
    · intro value host plain
      exact held_plain reach base m.scopes value plain
    · intro error host _
      trivial
  block := fun m confined => confined_encloses reach base m m.current confined.current confined
  function := fun _ _ closure m confined held => confined_encloses reach base m closure (held closure rfl) confined

-- What a run may leave behind. Scopes that could not be reached from its roots are as they were, and
-- a function that is stored in one of the others, or is a result, is closed over one of the others.
structure Encapsulated (roots : Nat → Prop) (s after : Scopes) (results : List Value) : Prop where
  opened : s.count ≤ after.count
  untouched : ∀ scope < s.count, ¬ s.Reach roots scope → after.all[scope]? = s.all[scope]?
  stored : ∀ scope name value, Owned (s.Reach roots) s after scope → after.localGet? scope name = some value →
    Held (s.Reach roots) s after value
  returned : ∀ value ∈ results, Held (s.Reach roots) s after value

theorem encapsulated_of_confined (roots : Nat → Prop) (s : Scopes) (after : Machine) (results : List Value)
    (confined : Confined (s.Reach roots) s after)
    (returned : ∀ value ∈ results, Held (s.Reach roots) s after.scopes value) :
    Encapsulated roots s after.scopes results :=
  ⟨confined.opened, confined.untouched, confined.values, returned⟩

theorem owned_start (roots : Nat → Prop) (s : Scopes) (scope : Nat) (owned : Owned (s.Reach roots) s s scope) :
    s.Reach roots scope := by
  rcases owned with reached | ⟨fresh, bound⟩
  · exact reached
  · exact (Nat.not_lt_of_le fresh bound).elim

theorem held_start (roots : Nat → Prop) (s : Scopes) (scope : Nat) (name : String) (value : Value)
    (owned : Owned (s.Reach roots) s s scope) (bound : s.localGet? scope name = some value) :
    Held (s.Reach roots) s s value := by
  intro closure closed
  exact Or.inl (.closure scope closure name value (owned_start roots s scope owned) bound closed)

theorem confined_start (roots : Nat → Prop) (m : Machine) (current : m.scopes.Reach roots m.current) :
    Confined (m.scopes.Reach roots) m.scopes m where
  opened := Nat.le_refl _
  untouched := fun _ _ _ => rfl
  current := Or.inl current
  outwards := fun scope outer owned link => Or.inl (.outwards scope outer (owned_start roots m.scopes scope owned) link)
  values := held_start roots m.scopes

theorem encapsulated_start (roots : Nat → Prop) (s : Scopes) (results : List Value)
    (plain : ∀ value ∈ results, value.callable? = none) : Encapsulated roots s s results where
  opened := Nat.le_refl _
  untouched := fun _ _ _ => rfl
  stored := held_start roots s
  returned := fun value member => held_plain _ s s value (plain value member)

theorem evaluate_encapsulated (fuel : Nat) (expr : Expr) (m : Machine) :
    (evaluate fuel expr m).Ends (fun value after => Encapsulated (· = m.current) m.scopes after.scopes [value])
      (fun _ after => Encapsulated (· = m.current) m.scopes after.scopes []) := by
  have start := confined_start (· = m.current) m (.root m.current rfl)
  refine ends_weaken _ _ _ _ _ (((confinement _ m.scopes).kept fuel).evaluate expr m start) ?_ ?_
  · rintro value after ⟨confined, _, held⟩
    exact encapsulated_of_confined _ _ after [value] confined (List.forall_mem_singleton.2 held)
  · rintro error after ⟨confined, _⟩
    exact encapsulated_of_confined _ _ after [] confined (by simp)

theorem execute_encapsulated (fuel : Nat) (stmt : Stmt) (m : Machine) :
    (execute fuel stmt m).Ends
      (fun flow after => Encapsulated (· = m.current) m.scopes after.scopes flow.results)
      (fun _ after => Encapsulated (· = m.current) m.scopes after.scopes []) := by
  have start := confined_start (· = m.current) m (.root m.current rfl)
  refine ends_weaken _ _ _ _ _ (((confinement _ m.scopes).kept fuel).execute stmt m start) ?_ ?_
  · rintro flow after ⟨confined, _, fits⟩
    refine encapsulated_of_confined _ _ after flow.results confined ?_
    cases flow with
    | normal => simp [Flow.results]
    | returned value => exact List.forall_mem_singleton.2 fits
  · rintro error after ⟨confined, _⟩
    exact encapsulated_of_confined _ _ after [] confined (by simp)

def handed (callable : Callable) (args : List Value) (scope : Nat) : Prop :=
  ∃ value ∈ .callable callable :: args, value.closure? = some scope

theorem call_backTo (fuel : Nat) (callable : Callable) (args : List Value) (line : Nat) (m : Machine) (scope : Nat)
    (done : Value → Machine → Prop) (fault : RuntimeError → Machine → Prop) :
    (call fuel callable args line m).Ends done fault ↔
      (call fuel callable args line (m.backTo scope)).Ends
        (fun value after => done value (after.backTo m.current))
        (fun error after => fault error (after.backTo m.current)) := by
  cases fuel with
  | zero => exact Iff.rfl
  | succ fuel =>
    obtain ⟨identity, target⟩ := callable
    cases target with
    | native native =>
      refine (onHost_ends line _ m done fault).trans (Iff.trans ?_ (onHost_ends line _ (m.backTo scope) _ _).symm)
      exact Iff.rfl
    | function declaration closure =>
      refine (ends_bind _ _ m done fault).trans (Iff.trans ?_ (ends_bind _ _ (m.backTo scope) _ _).symm)
      refine (within_ends closure _ m _ _).trans (Iff.trans ?_ (within_ends closure _ (m.backTo scope) _ _).symm)
      refine ends_congr (_ : Finish Machine RuntimeError Flow) _ _ _ _ ?_ ?_
      · intro flow after
        cases flow <;> exact Iff.rfl
      · intro error after
        exact Iff.rfl

theorem native_encapsulated (fuel : Nat) (native : Native) (args : List Value) (line : Nat) (roots : Nat → Prop)
    (m : Machine) :
    (onHost line (native.call fuel args) m).Ends (fun value after => Encapsulated roots m.scopes after.scopes [value])
      (fun _ after => Encapsulated roots m.scopes after.scopes []) := by
  refine (onHost_ends line _ m _ _).2 (ends_weaken _ _ _ _ _ (plain_call native fuel args m.host) ?_ ?_)
  · intro value host plain
    exact encapsulated_start roots m.scopes [value] (List.forall_mem_singleton.2 plain)
  · intro error host _
    exact encapsulated_start roots m.scopes [] (by simp)

theorem call_encapsulated (fuel : Nat) (callable : Callable) (args : List Value) (line : Nat) (m : Machine) :
    (call fuel callable args line m).Ends
      (fun value after => Encapsulated (handed callable args) m.scopes after.scopes [value])
      (fun _ after => Encapsulated (handed callable args) m.scopes after.scopes []) := by
  obtain ⟨identity, target⟩ := callable
  cases target with
  | native native =>
    cases fuel with
    | zero => trivial
    | succ fuel => exact native_encapsulated fuel native args line _ m
  | function declaration closure =>
    have reached : ∀ value ∈ .callable ⟨identity, .function declaration closure⟩ :: args, ∀ scope,
        value.closure? = some scope → m.scopes.Reach (handed ⟨identity, .function declaration closure⟩ args) scope :=
      fun value member scope closed => .root scope ⟨value, member, closed⟩
    have start := confined_start (handed ⟨identity, .function declaration closure⟩ args) (m.backTo closure)
      (reached _ List.mem_cons_self closure rfl)
    refine (call_backTo fuel _ args line m closure _ _).2 ?_
    refine ends_weaken _ _ _ _ _ (((confinement _ m.scopes).kept fuel).call _ args line (m.backTo closure) start ?_ ?_)
      ?_ ?_
    · intro scope closed
      exact Or.inl (reached _ List.mem_cons_self scope closed)
    · intro value member scope closed
      exact Or.inl (reached value (List.mem_cons_of_mem _ member) scope closed)
    · rintro value after ⟨confined, _, held⟩
      exact encapsulated_of_confined _ _ after [value] confined (List.forall_mem_singleton.2 held)
    · rintro error after ⟨confined, _⟩
      exact encapsulated_of_confined _ _ after [] confined (by simp)

-- A run changes only what it could reach when it began and what it has opened itself, and lets no
-- function out that is closed over anything else. A call is confined to what it is handed, wherever
-- it is made from.
theorem run_stays_encapsulated (fuel : Nat) (m : Machine) :
    (∀ expr, (evaluate fuel expr m).Ends
      (fun value after => Encapsulated (· = m.current) m.scopes after.scopes [value])
      (fun _ after => Encapsulated (· = m.current) m.scopes after.scopes [])) ∧
    (∀ stmt, (execute fuel stmt m).Ends
      (fun flow after => Encapsulated (· = m.current) m.scopes after.scopes flow.results)
      (fun _ after => Encapsulated (· = m.current) m.scopes after.scopes [])) ∧
    (∀ callable args line, (call fuel callable args line m).Ends
      (fun value after => Encapsulated (handed callable args) m.scopes after.scopes [value])
      (fun _ after => Encapsulated (handed callable args) m.scopes after.scopes [])) :=
  ⟨fun expr => evaluate_encapsulated fuel expr m, fun stmt => execute_encapsulated fuel stmt m,
    fun callable args line => call_encapsulated fuel callable args line m⟩

end Machine

end StoryScript

import StoryScript.Proofs.Machine.Encapsulation
import StoryScript.Proofs.Machine.Tandem

set_option autoImplicit false

namespace StoryScript

def Dictionary.mapped {α β : Type} (f : α → β) (d : Dictionary α) : Dictionary β :=
  ⟨d.entries.map fun entry => (entry.1, f entry.2)⟩

theorem get?_mapped {α β : Type} (f : α → β) (d : Dictionary α) (name : String) :
    (d.mapped f).get? name = (d.get? name).map f := by
  obtain ⟨entries⟩ := d
  unfold Dictionary.mapped Dictionary.get?
  induction entries with
  | nil => rfl
  | cons entry rest ih =>
    by_cases same : name = entry.1
    · simp [Dictionary.lookup, same]
    · simpa [Dictionary.lookup, same] using ih

theorem insert_mapped {α β : Type} (f : α → β) (d : Dictionary α) (name : String) (value : α) :
    (d.insert name value).mapped f = (d.mapped f).insert name (f value) := by
  obtain ⟨entries⟩ := d
  unfold Dictionary.mapped Dictionary.insert
  congr 1
  induction entries with
  | nil => rfl
  | cons entry rest ih =>
    by_cases same : name = entry.1
    · simp [Dictionary.put, same]
    · by_cases less : name < entry.1
      · simp [Dictionary.put, same, less]
      · simpa [Dictionary.put, same, less] using ih

def Scope.renumbered (number : Nat → Nat) (scope : Scope) : Scope :=
  { scope with bindings := scope.bindings.mapped (Value.renumbered number) }

namespace Scopes

def renumbered (number : Nat → Nat) (s : Scopes) : Scopes := ⟨s.all.map (Scope.renumbered number)⟩

theorem localGet_renumbered (number : Nat → Nat) (s : Scopes) (scope : Nat) (name : String) :
    (s.renumbered number).localGet? scope name = (s.localGet? scope name).map (Value.renumbered number) := by
  unfold localGet? renumbered
  rw [Array.getElem?_map]
  cases s.all[scope]? with
  | none => rfl
  | some found => exact get?_mapped _ found.bindings name

theorem parent_renumbered (number : Nat → Nat) (s : Scopes) (scope : Nat) :
    (s.renumbered number).parent? scope = s.parent? scope := by
  unfold parent? renumbered
  rw [Array.getElem?_map]
  cases s.all[scope]? <;> rfl

theorem resolve_renumbered (number : Nat → Nat) (s : Scopes) (scope : Nat) (name : String) :
    (s.renumbered number).resolve scope name = s.resolve scope name := by
  fun_induction resolve s scope name with
  | case1 scope value bound =>
    rw [resolve, localGet_renumbered, bound]
    rfl
  | case2 scope unbound outermost =>
    rw [resolve, localGet_renumbered, unbound, parent_renumbered, outermost]
    rfl
  | case3 scope unbound outer link earlier ih =>
    rw [resolve, localGet_renumbered, unbound, parent_renumbered, link]
    simpa [earlier] using ih
  | case4 scope unbound outer link later =>
    rw [resolve, localGet_renumbered, unbound, parent_renumbered, link]
    simp [later]

theorem define_renumbered (number : Nat → Nat) (s : Scopes) (scope : Nat) (name : String) (value : Value) :
    (s.renumbered number).define scope name (value.renumbered number) =
      (s.define scope name value).renumbered number := by
  unfold define renumbered
  congr 1
  apply Array.ext_getElem?
  intro i
  simp only [Array.getElem?_modify, Array.getElem?_map]
  by_cases here : scope = i
  · rw [if_pos here, if_pos here]
    cases s.all[i]? with
    | none => rfl
    | some found => simp [Scope.renumbered, insert_mapped]
  · rw [if_neg here, if_neg here]

theorem nest_renumbered (number : Nat → Nat) (s : Scopes) (parent : Nat) :
    (s.renumbered number).nest parent = ((s.nest parent).1, (s.nest parent).2.renumbered number) := by
  unfold nest renumbered
  rw [Array.size_map, Array.map_push]
  rfl

end Scopes

def RuntimeError.renumbered (number : Nat → Nat) (error : RuntimeError) : RuntimeError :=
  { error with line := number error.line }

namespace Machine

def renumbered (number : Nat → Nat) (m : Machine) : Machine := { m with scopes := m.scopes.renumbered number }

def endRenumbered {α : Type} (number : Nat → Nat) (image : α → α) :
    Finish Machine RuntimeError α → Finish Machine RuntimeError α
  | .done result after => .done (image result) (after.renumbered number)
  | .fault error after => .fault (error.renumbered number) (after.renumbered number)
  | .outOfFuel => .outOfFuel

theorem lookup_renumbered (number : Nat → Nat) (ident : Ident) (m : Machine) :
    lookup (ident.renumbered number) (m.renumbered number) =
      endRenumbered number (Value.renumbered number) (lookup ident m) := by
  have resolved := m.scopes.resolve_renumbered number m.current ident.name
  unfold lookup Scopes.get
  simp only [renumbered, Ident.renumbered, resolved]
  cases m.scopes.resolve m.current ident.name with
  | none => rfl
  | some found =>
    simp only [Option.bind_some, Scopes.localGet_renumbered]
    cases m.scopes.localGet? found ident.name <;> rfl

theorem assign_renumbered (number : Nat → Nat) (ident : Ident) (value : Value) (m : Machine) :
    assign (ident.renumbered number) (value.renumbered number) (m.renumbered number) =
      endRenumbered number id (assign ident value m) := by
  have resolved := m.scopes.resolve_renumbered number m.current ident.name
  unfold assign
  simp only [renumbered, Ident.renumbered, resolved]
  cases m.scopes.resolve m.current ident.name with
  | none => rfl
  | some found =>
    simp only [Scopes.define_renumbered]
    rfl

theorem onHost_renumbered {α : Type} (number : Nat → Nat) (image : α → α) (line : Nat) (run : NativeRun α) (m : Machine)
    (plain : (run m.host).Ends (fun value _ => image value = value) fun _ _ => True) :
    onHost (number line) run (m.renumbered number) = endRenumbered number image (onHost line run m) := by
  obtain ⟨scopes, current, host, made⟩ := m
  unfold onHost renumbered
  dsimp only at plain ⊢
  cases ended : run host with
  | done value after =>
    rw [ended] at plain
    have same : image value = value := plain
    simp only [endRenumbered, same]
    rfl
  | fault error after => rfl
  | outOfFuel => rfl

theorem nested_renumbered (number : Nat → Nat) (parent : Nat) (m : Machine) :
    (m.renumbered number).nested parent = (m.nested parent).renumbered number := by
  unfold nested renumbered
  simp only [Scopes.nest_renumbered]

theorem endedAt_renumbered {α : Type} (number : Nat → Nat) (image : α → α) (scope : Nat)
    (finish : Finish Machine RuntimeError α) :
    endedAt scope (endRenumbered number image finish) = endRenumbered number image (endedAt scope finish) := by
  cases finish <;> rfl

-- A machine that counts lines in another way does the same as the first.
def recounting (number : Nat → Nat) : Tandem where
  number := number
  Pair := fun m n => n = m.renumbered number
  Ends := fun image _ _ x y => y = endRenumbered number image x
  current := by
    rintro m n rfl
    rfl
  pure := by
    rintro α image value m n rfl
    rfl
  fail := by
    rintro α image line fault m n rfl
    rfl
  noFuel := by
    rintro α image m n rfl
    rfl
  bind := by
    rintro α β image imageToo run other next otherNext first second m n rfl
    have start := first m _ rfl
    change Run.bind other otherNext _ = endRenumbered number imageToo (Run.bind run next m)
    unfold Run.bind
    rw [start]
    cases run m with
    | done value after => exact second value after _ rfl
    | fault error after => rfl
    | outOfFuel => rfl
  within := by
    rintro α image parent run other both m n rfl
    have inside := both (m.nested parent) _ rfl
    rw [within_run, within_run, nested_renumbered, inside]
    exact endedAt_renumbered number image m.current _
  back := by
    rintro α image scope run other both m n rfl
    have ends := both m _ rfl
    dsimp only
    rw [ends, endedAt_renumbered]
  lookup := by
    rintro ident m n rfl
    exact lookup_renumbered number ident m
  assign := by
    rintro ident value m n rfl
    exact assign_renumbered number ident value m
  define := by
    rintro name value m n rfl
    have defined := m.scopes.define_renumbered number m.current name value
    exact congrArg (fun scopes => Finish.done () (Machine.mk scopes m.current m.host m.made)) defined
  declare := by
    rintro name declaration m n rfl
    have defined := m.scopes.define_renumbered number m.current name
      (.callable ⟨m.made, .function declaration m.current⟩)
    exact congrArg (fun scopes => Finish.done () (Machine.mk scopes m.current m.host (m.made + 1))) defined
  print := by
    rintro line text m n rfl
    exact onHost_renumbered number id line _ m (ends_weaken _ _ _ _ _ (ends_trivial _) (fun _ _ _ => rfl) fun _ _ h => h)
  native := by
    rintro native fuel args line m n rfl
    refine onHost_renumbered number _ line _ m (ends_weaken _ _ _ _ _ (plain_call native fuel args m.host) ?_ ?_)
    · intro value _ plain
      exact Value.renumbered_plain number value plain
    · intro _ _ _
      trivial

end Machine

end StoryScript

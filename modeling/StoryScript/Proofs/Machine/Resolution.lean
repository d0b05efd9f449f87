import StoryScript.Machine.Basic
import StoryScript.Proofs.Machine.ScopeUpdates

set_option autoImplicit false

namespace StoryScript

namespace Scopes

def beside (s : Scopes) : Nat × Scopes := (s.all.size, ⟨s.all.push {}⟩)

-- The scopes there can be: each opened apart from the others or inside one of them, with names bound in them and
-- given other values in any order.
inductive Built : Scopes → Prop where
  | empty : Built ⟨#[]⟩
  | beside (s : Scopes) (built : Built s) : Built s.beside.2
  | nest (s : Scopes) (parent : Nat) (built : Built s) (opened : parent < s.count) : Built (s.nest parent).2
  | define (s : Scopes) (scope : Nat) (name : String) (value : Value) (built : Built s) :
      Built (s.define scope name value)
  | assign (s after : Scopes) (scope : Nat) (name : String) (value : Value) (line : Nat) (built : Built s)
      (done : s.assign scope name value line = .ok after) : Built after

inductive Reaches (s : Scopes) (name : String) : Nat → Nat → Prop where
  | here (scope : Nat) : Reaches s name scope scope
  | outwards (scope outer target : Nat) (unbound : ¬ s.Binds scope name) (link : s.parent? scope = some outer)
      (further : Reaches s name outer target) : Reaches s name scope target

structure Resolves (s : Scopes) (scope : Nat) (name : String) (found : Nat) : Prop where
  reaches : s.Reaches name scope found
  binds : s.Binds found name

-- Names at some places have come to mean one value, and everywhere else they mean what they meant.
structure Replaces (s after : Scopes) (value : Value) (places : Nat → String → Prop) : Prop where
  there : ∀ scope name line, places scope name → after.get scope name line = .ok value
  elsewhere : ∀ scope name line, ¬ places scope name → after.get scope name line = s.get scope name line

theorem parent_beside (s : Scopes) (scope : Nat) : s.beside.2.parent? scope = s.parent? scope := by
  unfold parent? beside
  rw [Array.getElem?_push]
  split
  · rename_i fresh
    rw [fresh, show s.all[s.all.size]? = none from s.scope_unopened]
    rfl
  · rfl

theorem assign_defines (s after : Scopes) (scope : Nat) (name : String) (value : Value) (line : Nat)
    (done : s.assign scope name value line = .ok after) :
    ∃ found, s.resolve scope name = some found ∧ after = s.define found name value := by
  unfold assign at done
  split at done
  · rename_i found resolved
    cases done
    exact ⟨found, resolved, rfl⟩
  · cases done

theorem built_earlier (s : Scopes) (built : s.Built) (scope outer : Nat) (link : s.parent? scope = some outer) :
    outer < scope := by
  induction built generalizing scope outer with
  | empty => cases link
  | beside s _ ih =>
    rw [parent_beside] at link
    exact ih scope outer link
  | nest s parent _ opened ih => exact s.earlier_nest parent opened ih scope outer link
  | define s changed name value _ ih =>
    rw [parent_define] at link
    exact ih scope outer link
  | assign s after changed name value line _ done ih =>
    obtain ⟨found, _, rfl⟩ := assign_defines s after changed name value line done
    rw [parent_define] at link
    exact ih scope outer link

theorem not_binds (s : Scopes) (scope : Nat) (name : String) : ¬ s.Binds scope name ↔ s.localGet? scope name = none := by
  simp [Binds]

theorem resolve_sound (s : Scopes) (scope : Nat) (name : String) (found : Nat)
    (resolved : s.resolve scope name = some found) : s.Resolves scope name found := by
  refine ⟨?_, s.resolve_binds scope name found resolved⟩
  fun_induction resolve s scope name with
  | case1 scope value bound =>
    cases resolved
    exact .here _
  | case2 scope unbound outermost => cases resolved
  | case3 scope unbound outer link earlier ih =>
    exact .outwards scope outer found ((s.not_binds scope name).2 unbound) link (ih resolved)
  | case4 scope unbound outer link later => cases resolved

theorem resolve_complete (s : Scopes) (earlier : ∀ scope outer, s.parent? scope = some outer → outer < scope)
    (scope : Nat) (name : String) (found : Nat) (resolves : s.Resolves scope name found) :
    s.resolve scope name = some found := by
  obtain ⟨reaches, binds⟩ := resolves
  induction reaches with
  | here scope =>
    obtain ⟨value, bound⟩ := Option.isSome_iff_exists.1 binds
    rw [resolve, bound]
  | outwards scope outer target unbound link further ih =>
    rw [resolve, (s.not_binds scope name).1 unbound, link]
    simp only [earlier scope outer link, if_true]
    exact ih binds

section Lookup

variable (s : Scopes) (built : s.Built)
include built

theorem resolve_iff (scope : Nat) (name : String) (found : Nat) :
    s.resolve scope name = some found ↔ s.Resolves scope name found :=
  ⟨s.resolve_sound scope name found, s.resolve_complete (s.built_earlier built) scope name found⟩

theorem resolve_none_iff (scope : Nat) (name : String) :
    s.resolve scope name = none ↔ ¬ ∃ found, s.Resolves scope name found := by
  simp only [← s.resolve_iff built, ← Option.isSome_iff_exists, Bool.not_eq_true, Option.isSome_eq_false_iff,
    Option.isNone_iff_eq_none]

theorem get_resolved (scope : Nat) (name : String) (line found : Nat)
    (resolves : s.Resolves scope name found) :
    ∃ value, s.localGet? found name = some value ∧ s.get scope name line = .ok value := by
  obtain ⟨value, bound⟩ := Option.isSome_iff_exists.1 resolves.binds
  refine ⟨value, bound, ?_⟩
  rw [get, (s.resolve_iff built scope name found).2 resolves, Option.bind_some, bound]

theorem get_unresolved (scope : Nat) (name : String) (line : Nat)
    (missing : ¬ ∃ found, s.Resolves scope name found) : s.get scope name line = .error ⟨name, line⟩ := by
  rw [get, (s.resolve_none_iff built scope name).2 missing, Option.bind_none]

theorem assign_resolved (scope : Nat) (name : String) (value : Value) (line found : Nat)
    (resolves : s.Resolves scope name found) :
    s.assign scope name value line = .ok (s.define found name value) := by
  rw [assign, (s.resolve_iff built scope name found).2 resolves]

theorem assign_unresolved (scope : Nat) (name : String) (value : Value) (line : Nat)
    (missing : ¬ ∃ found, s.Resolves scope name found) : s.assign scope name value line = .error ⟨name, line⟩ := by
  rw [assign, (s.resolve_none_iff built scope name).2 missing]

theorem get_error_iff (scope : Nat) (name : String) (line : Nat)
    (error : UndefinedVariable) :
    s.get scope name line = .error error ↔ error = ⟨name, line⟩ ∧ ¬ ∃ found, s.Resolves scope name found := by
  by_cases meant : ∃ found, s.Resolves scope name found
  · obtain ⟨found, resolves⟩ := meant
    obtain ⟨value, _, got⟩ := s.get_resolved built scope name line found resolves
    rw [got]
    constructor
    · intro failed
      cases failed
    · rintro ⟨_, missing⟩
      exact (missing ⟨found, resolves⟩).elim
  · rw [s.get_unresolved built scope name line meant]
    constructor
    · intro failed
      cases failed
      exact ⟨rfl, meant⟩
    · rintro ⟨rfl, _⟩
      rfl

theorem assign_follows_get (scope : Nat) (name : String) (value : Value) (line : Nat) :
    ((∃ after, s.assign scope name value line = .ok after) ↔ ∃ current, s.get scope name line = .ok current) ∧
      ∀ error, s.assign scope name value line = .error error ↔ s.get scope name line = .error error := by
  by_cases meant : ∃ found, s.Resolves scope name found
  · obtain ⟨found, resolves⟩ := meant
    obtain ⟨current, _, got⟩ := s.get_resolved built scope name line found resolves
    rw [s.assign_resolved built scope name value line found resolves, got]
    refine ⟨⟨fun _ => ⟨current, rfl⟩, fun _ => ⟨_, rfl⟩⟩, ?_⟩
    intro error
    constructor <;> intro failed <;> cases failed
  · rw [s.assign_unresolved built scope name value line meant, s.get_unresolved built scope name line meant]
    constructor
    · constructor <;> rintro ⟨_, done⟩ <;> cases done
    · intro error
      constructor <;> intro failed <;> cases failed <;> rfl

end Lookup

theorem resolves_define (s : Scopes) (changed : Nat) (name : String) (value : Value) (opened : changed < s.count)
    (scope : Nat) (reaches : s.Reaches name scope changed) :
    (s.define changed name value).Resolves scope name changed := by
  have binds : (s.define changed name value).Binds changed name :=
    (s.binds_define changed changed name name value).2 (Or.inl ⟨rfl, opened, rfl⟩)
  refine ⟨?_, binds⟩
  induction reaches with
  | here scope => exact .here scope
  | outwards scope outer target unbound link further ih =>
    by_cases same : target = scope
    · rw [same]
      exact .here scope
    · refine .outwards scope outer target ?_ ?_ (ih opened binds)
      · rw [binds_define]
        rintro (⟨here, _⟩ | bound)
        · exact same here
        · exact unbound bound
      · rw [parent_define]
        exact link

theorem localGet_define_elsewhere (s : Scopes) (changed scope : Nat) (name other : String) (value : Value)
    (elsewhere : ¬ (other = name ∧ s.Reaches name scope changed)) :
    (s.define changed name value).localGet? scope other = s.localGet? scope other := by
  rw [localGet_define, if_neg]
  rintro ⟨rfl, _, same⟩
  exact elsewhere ⟨same, .here changed⟩

theorem resolve_define_elsewhere (s : Scopes) (changed scope : Nat) (name other : String) (value : Value)
    (elsewhere : ¬ (other = name ∧ s.Reaches name scope changed)) :
    (s.define changed name value).resolve scope other = s.resolve scope other := by
  have same := s.localGet_define_elsewhere changed scope name other value elsewhere
  fun_induction resolve s scope other with
  | case1 scope found bound => rw [resolve, same, bound]
  | case2 scope unbound outermost => rw [resolve, same, unbound, parent_define, outermost]
  | case3 scope unbound outer link earlier ih =>
    -- A scope that does not bind the name would hand on the way from the next one.
    have further : ¬ (other = name ∧ s.Reaches name outer changed) := by
      rintro ⟨rfl, reaches⟩
      exact elsewhere ⟨rfl, .outwards scope outer changed ((s.not_binds scope other).2 unbound) link reaches⟩
    rw [resolve, same, unbound, parent_define, link]
    simp only [earlier, if_true]
    exact ih further (s.localGet_define_elsewhere changed outer name other value further)
  | case4 scope unbound outer link later =>
    rw [resolve, same, unbound, parent_define, link]
    simp only [later, if_false]

theorem get_define_elsewhere (s : Scopes) (changed scope : Nat) (name other : String) (value : Value) (line : Nat)
    (elsewhere : ¬ (other = name ∧ s.Reaches name scope changed)) :
    (s.define changed name value).get scope other line = s.get scope other line := by
  unfold get
  rw [s.resolve_define_elsewhere changed scope name other value elsewhere]
  cases resolved : s.resolve scope other with
  | none => rfl
  | some found =>
    have unchanged : (s.define changed name value).localGet? found other = s.localGet? found other := by
      rw [localGet_define, if_neg]
      rintro ⟨rfl, _, rfl⟩
      exact elsewhere ⟨rfl, (s.resolve_sound scope other changed resolved).reaches⟩
    rw [Option.bind_some, Option.bind_some, unchanged]

theorem define_replaces (s : Scopes) (built : s.Built) (changed : Nat) (name : String) (value : Value)
    (opened : changed < s.count) :
    Replaces s (s.define changed name value) value fun scope other => other = name ∧ s.Reaches name scope changed where
  there := by
    rintro scope _ line ⟨rfl, reaches⟩
    have resolves := s.resolves_define changed _ value opened scope reaches
    obtain ⟨found, bound, got⟩ := get_resolved _ (.define s changed _ value built) scope _ line changed resolves
    rw [localGet_define, if_pos ⟨rfl, opened, rfl⟩] at bound
    cases bound
    exact got
  elsewhere := fun scope other line => s.get_define_elsewhere changed scope name other value line

theorem assign_replaces (s : Scopes) (built : s.Built) (name : String) (value : Value) (found : Nat)
    (binds : s.Binds found name) :
    Replaces s (s.define found name value) value fun scope other => other = name ∧ s.Resolves scope other found := by
  obtain ⟨old, bound⟩ := Option.isSome_iff_exists.1 binds
  obtain ⟨there, elsewhere⟩ := s.define_replaces built found name value (s.localGet_opened found name old bound)
  constructor
  · rintro scope _ line ⟨rfl, resolves⟩
    exact there scope _ line ⟨rfl, resolves.reaches⟩
  · intro scope other line different
    refine elsewhere scope other line ?_
    rintro ⟨rfl, reaches⟩
    exact different ⟨rfl, reaches, binds⟩

theorem binds_define_bound (s : Scopes) (found : Nat) (name : String) (value : Value) (binds : s.Binds found name)
    (scope : Nat) (other : String) : (s.define found name value).Binds scope other ↔ s.Binds scope other := by
  rw [binds_define]
  refine or_iff_right_of_imp ?_
  rintro ⟨rfl, _, rfl⟩
  exact binds

theorem machine_assigns (m : Machine) (ident : Ident) (value : Value) :
    Machine.assign ident value m =
      match m.scopes.assign m.current ident.name value ident.line with
      | .ok after => .done () { m with scopes := after }
      | .error error => .fault ⟨.undefined error.name, error.line⟩ m := by
  unfold Machine.assign Scopes.assign
  cases m.scopes.resolve m.current ident.name <;> rfl

-- A name means its binding in the nearest scope around a place that has one. Giving it another value is seen from
-- just the places where it means that binding, and fails, with nothing changed, where it means none. Binding it in a
-- scope is seen from just the places whose way outwards comes to that scope before any other that binds it.
theorem names_resolve_lexically (s : Scopes) (built : s.Built) :
    (∀ scope name line,
      (∀ found, s.Resolves scope name found →
        ∃ value, s.localGet? found name = some value ∧ s.get scope name line = .ok value) ∧
      ∀ error, s.get scope name line = .error error ↔
        error = ⟨name, line⟩ ∧ ¬ ∃ found, s.Resolves scope name found) ∧
    (∀ scope name value line,
      ((∃ after, s.assign scope name value line = .ok after) ↔ ∃ current, s.get scope name line = .ok current) ∧
      (∀ error, s.assign scope name value line = .error error ↔ s.get scope name line = .error error) ∧
      ∀ after found, s.assign scope name value line = .ok after → s.Resolves scope name found →
        (∀ inner other, after.Binds inner other ↔ s.Binds inner other) ∧
        Replaces s after value fun inner other => other = name ∧ s.Resolves inner other found) ∧
    (∀ m : Machine, m.scopes = s → ∀ ident value error after, Machine.assign ident value m = .fault error after →
      after = m ∧ s.get m.current ident.name ident.line = .error ⟨ident.name, ident.line⟩) ∧
    ∀ scope name value, scope < s.count →
      Replaces s (s.define scope name value) value fun inner other => other = name ∧ s.Reaches name inner scope := by
  refine ⟨?_, ?_, ?_, ?_⟩
  · intro scope name line
    exact ⟨fun found => s.get_resolved built scope name line found, s.get_error_iff built scope name line⟩
  · intro scope name value line
    obtain ⟨succeeds, fails⟩ := s.assign_follows_get built scope name value line
    refine ⟨succeeds, fails, ?_⟩
    intro after found done resolves
    rw [s.assign_resolved built scope name value line found resolves] at done
    cases done
    exact ⟨s.binds_define_bound found name value resolves.binds, s.assign_replaces built name value found resolves.binds⟩
  · rintro m rfl ident value error after failed
    rw [machine_assigns] at failed
    split at failed
    · cases failed
    · rename_i unbound missing
      have got := ((m.scopes.assign_follows_get built m.current ident.name value ident.line).2 unbound).1 missing
      obtain ⟨rfl, _⟩ := (m.scopes.get_error_iff built _ _ _ unbound).1 got
      cases failed
      exact ⟨rfl, got⟩
  · exact fun scope name value opened => s.define_replaces built scope name value opened

def siblings : Scopes := (((root.define 0 "x" (.bool true)).nest 0).2.nest 0).2.define 1 "x" .nil

theorem siblings_built : siblings.Built :=
  .define _ 1 "x" .nil (.nest _ 0 (.nest _ 0 (.define _ 0 "x" (.bool true) (.beside _ .empty)) (by decide)) (by decide))

-- What is assigned from the scope that shadows nothing is seen in the outermost one, but not past the shadow.
theorem assignment_passes_the_shadow :
    siblings.Built ∧ ∃ after, siblings.assign 2 "x" (.bool false) 5 = .ok after ∧
      after.get 0 "x" 6 = .ok (.bool false) ∧ after.get 1 "x" 7 = .ok .nil := by
  have fromInside : siblings.Resolves 2 "x" 0 := ⟨.outwards 2 0 0 (by decide) rfl (.here 0), rfl⟩
  have atRoot : siblings.Resolves 0 "x" 0 := ⟨.here 0, rfl⟩
  have ownBinding : siblings.Resolves 1 "x" 1 := ⟨.here 1, rfl⟩
  have shadowed : ¬ siblings.Resolves 1 "x" 0 := by
    rintro ⟨reaches, _⟩
    cases reaches with
    | outwards _ _ _ unbound _ _ => exact unbound rfl
  obtain ⟨looks, assigns, _⟩ := names_resolve_lexically siblings siblings_built
  obtain ⟨value, bound, got⟩ := (looks 1 "x" 7).1 1 ownBinding
  cases bound
  have done := siblings.assign_resolved siblings_built 2 "x" (.bool false) 5 0 fromInside
  obtain ⟨_, there, elsewhere⟩ := (assigns 2 "x" (.bool false) 5).2.2 _ 0 done fromInside
  exact ⟨siblings_built, _, done, there 0 "x" 6 ⟨rfl, atRoot⟩,
    (elsewhere 1 "x" 7 fun both => shadowed both.2).trans got⟩

end Scopes

end StoryScript

import StoryScript.Proofs.Machine.Course
import StoryScript.Proofs.Machine.Soundness
import StoryScript.Proofs.Machine.TopLevel

set_option autoImplicit false

namespace StoryScript

namespace Scopes

inductive Outwards (s : Scopes) : Nat → List Nat → Prop where
  | outermost (scope : Nat) (opened : scope < s.count) (last : s.parent? scope = none) : Outwards s scope [scope]
  | inside (scope outer : Nat) (path : List Nat) (link : s.parent? scope = some outer) (further : Outwards s outer path) :
      Outwards s scope (scope :: path)

-- Looking for a name along the links and nothing else: the scopes that are looked at, and where the name is found.
inductive Search (s : Scopes) (name : String) : Nat → List Nat → Option Nat → Prop where
  | found (scope : Nat) (value : Value) (bound : s.localGet? scope name = some value) :
      Search s name scope [scope] (some scope)
  | missing (scope : Nat) (unbound : s.localGet? scope name = none) (last : s.parent? scope = none) :
      Search s name scope [scope] none
  | outwards (scope outer : Nat) (seen : List Nat) (place : Option Nat) (unbound : s.localGet? scope name = none)
      (link : s.parent? scope = some outer) (further : Search s name outer seen place) :
      Search s name scope (scope :: seen) place

-- The way outwards ends at the outermost scope and comes through no scope twice. Every search is over after a part
-- of it, and what it finds is what the name means.
def Grounded (s : Scopes) (scope : Nat) : Prop :=
  ∃ path, s.Outwards scope path ∧ path.getLast? = some Machine.globals ∧ path.Nodup ∧
    ∀ name, ∃ seen, s.Search name scope seen (s.resolve scope name) ∧ seen.Nodup ∧ seen <+: path

section Earlier

variable (s : Scopes) (earlier : ∀ scope outer, s.parent? scope = some outer → outer < scope)
include earlier

theorem outwards_exists (scope : Nat) (opened : scope < s.count) : ∃ path, s.Outwards scope path := by
  induction scope using Nat.strongRecOn with
  | ind scope ih =>
    cases link : s.parent? scope with
    | none => exact ⟨[scope], .outermost scope opened link⟩
    | some outer =>
      have before := earlier scope outer link
      obtain ⟨path, further⟩ := ih outer before (Nat.lt_trans before opened)
      exact ⟨scope :: path, .inside scope outer path link further⟩

theorem outwards_falls (scope : Nat) (path : List Nat) (outwards : s.Outwards scope path) :
    path.Nodup ∧ ∀ passed ∈ path, passed ≤ scope := by
  induction outwards with
  | outermost scope opened last => simp
  | inside scope outer path link further ih =>
    have before := earlier scope outer link
    refine ⟨List.nodup_cons.2 ⟨?_, ih.1⟩, ?_⟩
    · intro again
      exact Nat.not_lt_of_le (ih.2 scope again) before
    · intro passed member
      rcases List.mem_cons.1 member with rfl | later
      · exact Nat.le_refl _
      · exact Nat.le_trans (ih.2 passed later) (Nat.le_of_lt before)

theorem search_along (scope : Nat) (path : List Nat) (outwards : s.Outwards scope path) (name : String) :
    ∃ seen, s.Search name scope seen (s.resolve scope name) ∧ seen <+: path := by
  induction outwards with
  | outermost scope opened last =>
    rw [resolve]
    cases bound : s.localGet? scope name with
    | some value => exact ⟨[scope], .found scope value bound, List.prefix_rfl⟩
    | none =>
      rw [last]
      exact ⟨[scope], .missing scope bound last, List.prefix_rfl⟩
  | inside scope outer path link further ih =>
    obtain ⟨seen, search, part⟩ := ih
    rw [resolve]
    cases bound : s.localGet? scope name with
    | some value => exact ⟨[scope], .found scope value bound, ⟨path, rfl⟩⟩
    | none =>
      simp only [link, earlier scope outer link, if_true]
      exact ⟨scope :: seen, .outwards scope outer seen _ bound link search, (List.prefix_cons_inj scope).2 part⟩

end Earlier

theorem outwards_last (s : Scopes) (scope : Nat) (path : List Nat) (outwards : s.Outwards scope path) :
    ∃ last, path.getLast? = some last ∧ last < s.count ∧ s.parent? last = none := by
  induction outwards with
  | outermost scope opened last => exact ⟨scope, rfl, opened, last⟩
  | inside scope outer path link further ih =>
    obtain ⟨last, isLast, opened, noLink⟩ := ih
    exact ⟨last, by simp [List.getLast?_cons, isLast], opened, noLink⟩

end Scopes

namespace Machine

structure Rooted (m : Machine) : Prop extends Sound m where
  outermost : ∀ scope < m.scopes.count, m.scopes.parent? scope = none → scope = globals

theorem rooted_grounded (m : Machine) (rooted : Rooted m) (scope : Nat) (opened : scope < m.scopes.count) :
    m.scopes.Grounded scope := by
  have earlier := rooted.scopes.earlier
  obtain ⟨path, outwards⟩ := m.scopes.outwards_exists earlier scope opened
  have nodup := (m.scopes.outwards_falls earlier scope path outwards).1
  refine ⟨path, outwards, ?_, nodup, ?_⟩
  · obtain ⟨last, isLast, lastOpened, noLink⟩ := m.scopes.outwards_last scope path outwards
    rw [isLast, rooted.outermost last lastOpened noLink]
  · intro name
    obtain ⟨seen, search, part⟩ := m.scopes.search_along earlier scope path outwards name
    exact ⟨seen, search, nodup.sublist part.sublist, part⟩

theorem rooted_same_scopes (m after : Machine) (rooted : Rooted m) (scopes : after.scopes = m.scopes)
    (current : after.current = m.current) : Rooted after := by
  refine ⟨⟨?_, ?_⟩, ?_⟩
  · rw [scopes]
    exact rooted.scopes
  · rw [scopes, current]
    exact rooted.opened
  · rw [scopes]
    exact rooted.outermost

theorem rooted_define (m after : Machine) (changed : Nat) (name : String) (value : Value) (rooted : Rooted m)
    (within : value.Within m.scopes.count) (scopes : after.scopes = m.scopes.define changed name value)
    (current : after.current = m.current) : Rooted after := by
  refine ⟨⟨?_, ?_⟩, ?_⟩
  · rw [scopes]
    exact m.scopes.sound_define changed name value rooted.scopes within
  · rw [scopes, current, Scopes.count_define]
    exact rooted.opened
  · intro scope opened noLink
    rw [scopes, Scopes.count_define] at opened
    rw [scopes, Scopes.parent_define] at noLink
    exact rooted.outermost scope opened noLink

theorem count_nested (m : Machine) (parent : Nat) : (m.nested parent).scopes.count = m.scopes.count + 1 :=
  m.scopes.count_nest parent

theorem rooted_nested (m : Machine) (parent : Nat) (rooted : Rooted m) (opened : parent < m.scopes.count) :
    Rooted (m.nested parent) := by
  refine ⟨⟨m.scopes.sound_nest parent rooted.scopes opened, ?_⟩, ?_⟩
  · rw [count_nested]
    exact Nat.lt_succ_self _
  · intro scope inside noLink
    rw [count_nested] at inside
    change (m.scopes.nest parent).2.parent? scope = none at noLink
    rw [Scopes.parent_nest] at noLink
    split at noLink
    · cases noLink
    · rename_i older
      exact rooted.outermost scope (Nat.lt_of_le_of_ne (Nat.le_of_lt_succ inside) older) noLink

theorem rooted_backTo (m : Machine) (scope : Nat) (rooted : Rooted m) (opened : scope < m.scopes.count) :
    Rooted (m.backTo scope) :=
  ⟨⟨rooted.scopes, opened⟩, rooted.outermost⟩

structure Stays (m after : Machine) : Prop where
  current : after.current = m.current
  opened : m.scopes.count ≤ after.scopes.count

theorem stays_refl (m : Machine) : Stays m m := ⟨rfl, Nat.le_refl _⟩

theorem stays_trans (first second third : Machine) (former : Stays first second) (latter : Stays second third) :
    Stays first third :=
  ⟨latter.current.trans former.current, Nat.le_trans former.opened latter.opened⟩

theorem stays_define (m after : Machine) (changed : Nat) (name : String) (value : Value)
    (scopes : after.scopes = m.scopes.define changed name value) (current : after.current = m.current) : Stays m after :=
  ⟨current, Nat.le_of_eq (by rw [scopes, Scopes.count_define])⟩

def rootedTerms : Terms where
  holds := Rooted
  leads := fun _ => Stays
  fits := fun m value => value.Within m.scopes.count

theorem rooted_encloses (m : Machine) (parent : Nat) (rooted : Rooted m) (opened : parent < m.scopes.count) :
    rootedTerms.Encloses m parent := by
  have more : m.scopes.count ≤ (m.nested parent).scopes.count := by
    rw [count_nested]
    exact Nat.le_succ _
  constructor
  · exact rooted_nested m parent rooted opened
  · intro value within
    exact value.within_later _ _ more within
  · intro names after inside stays
    have later := Nat.le_trans more stays.opened
    exact ⟨rooted_backTo after m.current inside (Nat.lt_of_lt_of_le rooted.opened later), rfl, later⟩
  · intro after value within
    exact within

theorem rooted_onHost {α : Type} (result : Machine → α → Prop) (line : Nat) (run : NativeRun α) (m : Machine)
    (rooted : Rooted m) (fits : (run m.host).Ends (fun value host => result { m with host } value) fun _ _ => True) :
    rootedTerms.Keeps [] result (onHost line run) m := by
  refine (onHost_ends line run m _ _).2 (ends_weaken _ _ _ _ _ fits ?_ ?_)
  · intro value host fit
    exact ⟨rooted_same_scopes m _ rooted rfl rfl, ⟨rfl, Nat.le_refl _⟩, fit⟩
  · intro error host _
    exact ⟨rooted_same_scopes m _ rooted rfl rfl, ⟨rfl, Nat.le_refl _⟩⟩

theorem rooted_lookup (ident : Ident) (m : Machine) (rooted : Rooted m) :
    rootedTerms.Keeps [] rootedTerms.fits (lookup ident) m := by
  unfold Terms.Keeps lookup Scopes.get
  cases found : (m.scopes.resolve m.current ident.name).bind fun place => m.scopes.localGet? place ident.name with
  | none => exact ⟨rooted, stays_refl m⟩
  | some value =>
    obtain ⟨place, -, bound⟩ := Option.bind_eq_some_iff.1 found
    exact ⟨rooted, stays_refl m, rooted.scopes.closures place ident.name value bound⟩

def rooting : Contract where
  toTerms := rootedTerms
  stay := fun _ => stays_refl
  join := fun _ => stays_trans
  allow := fun _ _ _ _ _ stays => stays
  later := fun _ m after value stays within => value.within_later m.scopes.count after.scopes.count stays.opened within
  plain := fun m value plain => value.within_plain m.scopes.count plain
  lookup := rooted_lookup
  assign := by
    intro ident value m rooted within
    unfold Terms.Keeps assign
    cases m.scopes.resolve m.current ident.name with
    | none => exact ⟨rooted, stays_refl m⟩
    | some place =>
      exact ⟨rooted_define m _ place ident.name value rooted within rfl rfl,
        stays_define m _ place ident.name value rfl rfl, trivial⟩
  define := by
    intro name value m rooted within
    exact ⟨rooted_define m _ m.current name value rooted within rfl rfl,
      stays_define m _ m.current name value rfl rfl, trivial⟩
  declare := by
    intro name declaration m rooted
    have within : Value.Within m.scopes.count (.callable ⟨m.made, .function declaration m.current⟩) := by
      rintro closure ⟨⟩
      exact rooted.opened
    exact ⟨rooted_define m _ m.current name _ rooted within rfl rfl,
      stays_define m _ m.current name _ rfl rfl, trivial⟩
  print := by
    intro line text m rooted
    exact rooted_onHost _ line _ m rooted (ends_trivial _)
  native := by
    intro native fuel args line m rooted
    refine rooted_onHost _ line _ m rooted (ends_weaken _ _ _ _ _ (plain_call native fuel args m.host) ?_ ?_)
    · intro value host plain
      exact value.within_plain m.scopes.count plain
    · intro error host _
      trivial
  block := fun m rooted => rooted_encloses m m.current rooted rooted.opened
  function := fun _ _ closure m rooted within => rooted_encloses m closure rooted (within closure rfl)

def startWith (natives : List Native) (host : Host) : Machine :=
  natives.foldl (fun m native => m.declare native.name (.native native)) (bare host)

inductive Between (natives : List Native) (host : Host) : Machine → Prop where
  | start : Between natives host (startWith natives host)
  | idle (m : Machine) (other : Host) (before : Between natives host m) : Between natives host { m with host := other }
  | done (fuel : Nat) (program : Program) (m after : Machine) (before : Between natives host m)
      (ended : interpret fuel program m = .done () after) : Between natives host after
  | fault (fuel : Nat) (program : Program) (m after : Machine) (error : RuntimeError) (before : Between natives host m)
      (ended : interpret fuel program m = .fault error after) : Between natives host after

-- The tasks that are begun while programs run, with the scopes and values that those around them wait with.
inductive Begun (natives : List Native) (host : Host) : Nat → Task → Machine → List Nat → List Value → Prop where
  | statement (fuel : Nat) (earlier : Program) (stmt : Stmt) (m middle : Machine) (before : Between natives host m)
      (passes : Passes fuel earlier m middle) : Begun natives host fuel (.execute stmt) middle [] []
  | inner (fuel : Nat) (task inner : Task) (m after : Machine) (waiting : List Nat) (held kept : List Value)
      (around : Begun natives host (fuel + 1) task m waiting held) (starts : Starts fuel task m inner after kept) :
      Begun natives host fuel inner after (m.current :: waiting) (kept ++ task.values ++ held)

-- The machines that are met while programs run: between them, and when a task begins or ends. With each come the
-- scopes that will be gone back to and the values at hand.
inductive Visited (natives : List Native) (host : Host) : Machine → List Nat → List Value → Prop where
  | between (m : Machine) (before : Between natives host m) : Visited natives host m [] []
  | begun (fuel : Nat) (task : Task) (m : Machine) (waiting : List Nat) (held : List Value)
      (begun : Begun natives host fuel task m waiting held) : Visited natives host m waiting (task.values ++ held)
  | done (fuel : Nat) (task : Task) (m after : Machine) (waiting : List Nat) (held values : List Value)
      (begun : Begun natives host fuel task m waiting held) (ended : task.run fuel m = .done values after) :
      Visited natives host after waiting (values ++ task.values ++ held)
  | fault (fuel : Nat) (task : Task) (m after : Machine) (waiting : List Nat) (held : List Value) (error : RuntimeError)
      (begun : Begun natives host fuel task m waiting held) (ended : task.run fuel m = .fault error after) :
      Visited natives host after waiting (task.values ++ held)

theorem startWith_rooted (natives : List Native) (host : Host) : Rooted (startWith natives host) := by
  have declared : ∀ m, Rooted m →
      Rooted (natives.foldl (fun m native => m.declare native.name (.native native)) m) := by
    induction natives with
    | nil => exact fun m rooted => rooted
    | cons native rest ih =>
      intro m rooted
      refine ih _ (rooted_define m _ m.current native.name _ rooted ?_ rfl rfl)
      rintro closure ⟨⟩
  refine declared (bare host) ⟨bare_sound host, ?_⟩
  intro scope opened _
  exact Nat.lt_one_iff.1 opened

theorem execute_rooted (fuel : Nat) (stmt : Stmt) (m : Machine) (rooted : Rooted m) :
    (execute fuel stmt m).Ends (fun _ after => Rooted after) fun _ after => Rooted after :=
  ends_weaken _ _ _ _ _ ((rooting.kept fuel).execute stmt m rooted) (fun _ _ kept => kept.1) fun _ _ kept => kept.1

theorem executeProgram_rooted (fuel : Nat) (program : Program) (m : Machine) (rooted : Rooted m) :
    (executeProgram fuel program m).Ends (fun _ after => Rooted after) fun _ after => Rooted after := by
  induction program generalizing m with
  | nil => exact rooted
  | cons stmt rest ih =>
    refine (ends_bind (execute fuel stmt) _ m _ _).2 ?_
    refine ends_weaken _ _ _ _ _ (execute_rooted fuel stmt m rooted) ?_ fun _ _ rooted' => rooted'
    intro flow after rooted'
    cases flow with
    | normal => exact ih after rooted'
    | returned value => exact rooted'

theorem passes_rooted (fuel : Nat) (program : Program) (m after : Machine) (passes : Passes fuel program m after)
    (rooted : Rooted m) : Rooted after := by
  induction passes with
  | nil m => exact rooted
  | cons stmt rest m middle after first _ ih =>
    have ends := execute_rooted fuel stmt m rooted
    rw [first] at ends
    exact ih ends

theorem atGlobals_rooted (m : Machine) (rooted : Rooted m) : Rooted m.atGlobals :=
  rooted_backTo m globals rooted (Nat.lt_of_le_of_lt (Nat.zero_le _) rooted.opened)

theorem between_rooted (natives : List Native) (host : Host) (m : Machine) (between : Between natives host m) :
    Rooted m := by
  induction between with
  | start => exact startWith_rooted natives host
  | idle m other _ ih => exact rooted_same_scopes m _ ih rfl rfl
  | done fuel program m after _ ended ih =>
    obtain ⟨last, ran, rfl⟩ := (interpret_done fuel program m after).1 ended
    have ends := executeProgram_rooted fuel program m ih
    rw [ran] at ends
    exact atGlobals_rooted last ends
  | fault fuel program m after error _ ended ih =>
    obtain ⟨last, ran, rfl⟩ := (interpret_fault fuel program m after error).1 ended
    have ends := executeProgram_rooted fuel program m ih
    rw [ran] at ends
    exact atGlobals_rooted last ends

structure AtHand (m : Machine) (waiting : List Nat) (held : List Value) : Prop where
  rooted : Rooted m
  waiting : ∀ scope ∈ waiting, scope < m.scopes.count
  held : ∀ value ∈ held, value.Within m.scopes.count

theorem onwards_more (m after : Machine) (onwards : rooting.Onwards m after) : m.scopes.count ≤ after.scopes.count := by
  obtain ⟨names, leads | ⟨parent, _, leads⟩⟩ := onwards
  · exact leads.opened
  · have opened := leads.opened
    rw [count_nested] at opened
    exact Nat.le_of_succ_le opened

theorem atHand_later (m after : Machine) (waiting : List Nat) (held values : List Value) (atHand : AtHand m waiting held)
    (rooted : Rooted after) (more : m.scopes.count ≤ after.scopes.count)
    (within : ∀ value ∈ values, value.Within after.scopes.count) : AtHand after waiting (values ++ held) := by
  refine ⟨rooted, ?_, ?_⟩
  · intro scope member
    exact Nat.lt_of_lt_of_le (atHand.waiting scope member) more
  · refine List.forall_mem_append.2 ⟨within, ?_⟩
    intro value member
    exact value.within_later _ _ more (atHand.held value member)

theorem begun_atHand (natives : List Native) (host : Host) (fuel : Nat) (task : Task) (m : Machine) (waiting : List Nat)
    (held : List Value) (begun : Begun natives host fuel task m waiting held) :
    AtHand m waiting (task.values ++ held) := by
  induction begun with
  | statement fuel earlier stmt m middle before passes =>
    have rooted := passes_rooted fuel earlier m middle passes (between_rooted natives host m before)
    exact ⟨rooted, List.forall_mem_nil _, List.forall_mem_nil _⟩
  | inner fuel task inner m after waiting held kept around starts ih =>
    have given : rooting.AllFit m task.values := (List.forall_mem_append.1 ih.held).1
    obtain ⟨rooted, onwards, innerFit, keptFit⟩ := rooting.starts_kept fuel task inner m after kept starts ih.rooted given
    have enclosed : AtHand m (m.current :: waiting) (task.values ++ held) :=
      ⟨ih.rooted, List.forall_mem_cons.2 ⟨ih.rooted.opened, ih.waiting⟩, ih.held⟩
    have later := atHand_later m after _ _ (inner.values ++ kept) enclosed rooted (onwards_more m after onwards)
      (List.forall_mem_append.2 ⟨innerFit, keptFit⟩)
    rw [List.append_assoc] at later
    rw [List.append_assoc]
    exact later

theorem visited_atHand (natives : List Native) (host : Host) (m : Machine) (waiting : List Nat) (held : List Value)
    (visited : Visited natives host m waiting held) : AtHand m waiting held := by
  cases visited with
  | between _ before => exact ⟨between_rooted natives host m before, List.forall_mem_nil _, List.forall_mem_nil _⟩
  | begun fuel task _ _ held begun => exact begun_atHand natives host fuel task m waiting held begun
  | done fuel task first _ _ held values begun ended =>
    have atHand := begun_atHand natives host fuel task first waiting held begun
    obtain ⟨names, keeps⟩ := rooting.run_kept fuel task first atHand.rooted (List.forall_mem_append.1 atHand.held).1
    obtain ⟨rooted, leads, within⟩ := rooting.keeps_done names _ _ first m values keeps ended
    rw [List.append_assoc]
    exact atHand_later first m waiting _ values atHand rooted leads.opened within
  | fault fuel task first _ _ held error begun ended =>
    have atHand := begun_atHand natives host fuel task first waiting held begun
    obtain ⟨names, keeps⟩ := rooting.run_kept fuel task first atHand.rooted (List.forall_mem_append.1 atHand.held).1
    unfold Terms.Keeps at keeps
    rw [ended] at keeps
    obtain ⟨rooted, leads⟩ := keeps
    exact atHand_later first m waiting _ [] atHand rooted leads.opened (List.forall_mem_nil _)

def Root (m : Machine) (waiting : List Nat) (held : List Value) (scope : Nat) : Prop :=
  scope = m.current ∨ scope ∈ waiting ∨ ∃ value ∈ held, value.closure? = some scope

theorem reach_opened (m : Machine) (waiting : List Nat) (held : List Value) (atHand : AtHand m waiting held) (scope : Nat)
    (reached : m.scopes.Reach (m.Root waiting held) scope) : scope < m.scopes.count := by
  induction reached with
  | root scope isRoot =>
    rcases isRoot with rfl | waits | ⟨value, member, closed⟩
    · exact atHand.rooted.opened
    · exact atHand.waiting scope waits
    · exact atHand.held value member scope closed
  | outwards scope outer _ link opened => exact Nat.lt_trans (atHand.rooted.scopes.earlier scope outer link) opened
  | closure scope closure name value _ bound closed _ =>
    exact atHand.rooted.scopes.closures scope name value bound closure closed

-- Whatever programs run, and however they end, every scope that can be reached at any time is grounded, although
-- functions bound in a scope may be closed over it.
theorem reachable_scopes_are_grounded (natives : List Native) (host : Host) (m : Machine) (waiting : List Nat)
    (held : List Value) (visited : Visited natives host m waiting held) (scope : Nat)
    (reached : m.scopes.Reach (m.Root waiting held) scope) : m.scopes.Grounded scope := by
  have atHand := visited_atHand natives host m waiting held visited
  exact rooted_grounded m atHand.rooted scope (reach_opened m waiting held atHand scope reached)

def echoing : Stmt := .function ⟨"echo", 1⟩ [] [.expression (.reference ⟨"echo", 1⟩)]

theorem echoing_block_is_grounded :
    ∃ m waiting held, Visited Native.all { world := .ofSeed 0 } m waiting held ∧ m.current = 1 ∧
      (m.scopes.localGet? m.current "echo").bind Value.closure? = some m.current ∧
      m.scopes.Reach (m.Root waiting held) m.current ∧ m.scopes.Grounded m.current := by
  have block : Begun Native.all { world := .ofSeed 0 } 3 (.execute (.block [echoing])) _ [] [] :=
    .statement 3 [] _ _ _ .start (.nil _)
  have body := Begun.inner 2 _ _ _ _ _ _ _ block (.block [echoing] _)
  have declaration := Begun.inner 1 _ _ _ _ _ _ _ body (.next _ (.execute echoing) _ _ [] .nothing rfl)
  have ended : ∀ m, (Task.execute echoing).run 1 m =
      .done [] (m.declare "echo" (.function ⟨⟨"echo", 1⟩, [], [.expression (.reference ⟨"echo", 1⟩)]⟩ m.current)) :=
    fun _ => rfl
  obtain ⟨m, waiting, held, visited, inside, closed⟩ :
      ∃ m waiting held, Visited Native.all { world := .ofSeed 0 } m waiting held ∧ m.current = 1 ∧
        (m.scopes.localGet? m.current "echo").bind Value.closure? = some m.current :=
    ⟨_, _, _, .done 1 _ _ _ _ _ _ declaration (ended _), by decide +kernel, by decide +kernel⟩
  have reached : m.scopes.Reach (m.Root waiting held) m.current := .root m.current (Or.inl rfl)
  exact ⟨m, waiting, held, visited, inside, closed, reached,
    reachable_scopes_are_grounded _ _ m waiting held visited m.current reached⟩

end Machine

end StoryScript

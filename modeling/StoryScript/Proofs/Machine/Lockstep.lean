import StoryScript.Proofs.Machine.Fuel
import StoryScript.Proofs.Machine.Layout

set_option autoImplicit false

namespace StoryScript

theorem UnaryOp.apply_moved (op : UnaryOp) (place : Nat → Nat) (operand : Value) :
    op.apply (operand.moved place) = op.apply operand := by
  rw [Value.moved_eq_recast]
  exact op.apply_recast _ operand

theorem BinaryOp.apply_moved (op : BinaryOp) (place : Nat → Nat) (left right : Value) :
    op.apply (left.moved place) (right.moved place) = op.apply left right := by
  rw [Value.moved_eq_recast]
  exact op.apply_recast _ (Callable.moved_alike place) left right

theorem LogicalOp.settledBy_moved (op : LogicalOp) (place : Nat → Nat) (left : Value) :
    op.settledBy (left.moved place) = op.settledBy left := by
  rw [Value.moved_eq_recast]
  exact op.settledBy_recast _ left

theorem native_moved (native : Native) (fuel : Nat) (place : Nat → Nat) (args : List Value) :
    native.call fuel (args.map (Value.moved place)) = native.call fuel args := by
  rw [Value.moved_eq_recast]
  exact native_recast _ (Callable.moved_alike place) native fuel args

namespace Machine

-- The second machine is the first with empty scopes put in between. It may stand in such a scope.
structure Shows (l : Layout) (m n : Machine) : Prop where
  padded : Padded l m.scopes n.scopes
  opened : n.current < n.scopes.count
  stands : l.origin n.current = m.current
  host : n.host = m.host
  made : n.made = m.made

theorem shows_opened (l : Layout) (m n : Machine) (shows : Shows l m n) : m.current < m.scopes.count := by
  rw [← shows.stands]
  exact shows.padded.origins n.current shows.opened

structure Grown (l : Layout) (m n : Machine) (further : Layout) (m' n' : Machine) : Prop where
  shows : Shows further m' n'
  place : ∀ scope < m.scopes.count, further.place scope = l.place scope
  origin : ∀ scope < n.scopes.count, further.origin scope = l.origin scope
  opened : m.scopes.count ≤ m'.scopes.count
  openedToo : n.scopes.count ≤ n'.scopes.count

structure Advance (l : Layout) (m n : Machine) (further : Layout) (m' n' : Machine) : Prop extends
    Grown l m n further m' n' where
  current : m'.current = m.current
  currentToo : n'.current = n.current

theorem advance_refl (l : Layout) (m n : Machine) (shows : Shows l m n) : Advance l m n l m n where
  shows := shows
  place := fun _ _ => rfl
  origin := fun _ _ => rfl
  opened := Nat.le_refl _
  openedToo := Nat.le_refl _
  current := rfl
  currentToo := rfl

theorem grown_trans (l middle further : Layout) (m n m' n' m'' n'' : Machine) (first : Grown l m n middle m' n')
    (second : Grown middle m' n' further m'' n'') : Grown l m n further m'' n'' where
  shows := second.shows
  place := by
    intro scope older
    rw [second.place scope (Nat.lt_of_lt_of_le older first.opened), first.place scope older]
  origin := by
    intro scope older
    rw [second.origin scope (Nat.lt_of_lt_of_le older first.openedToo), first.origin scope older]
  opened := Nat.le_trans first.opened second.opened
  openedToo := Nat.le_trans first.openedToo second.openedToo

theorem advance_trans (l middle further : Layout) (m n m' n' m'' n'' : Machine) (first : Advance l m n middle m' n')
    (second : Advance middle m' n' further m'' n'') : Advance l m n further m'' n'' where
  toGrown := grown_trans l middle further m n m' n' m'' n'' first.toGrown second.toGrown
  current := second.current.trans first.current
  currentToo := second.currentToo.trans first.currentToo

theorem advance_back (l further : Layout) (m n m' n' : Machine) (shows : Shows l m n) (grown : Grown l m n further m' n') :
    Advance l m n further (m'.backTo m.current) (n'.backTo n.current) where
  shows := by
    refine ⟨grown.shows.padded, Nat.lt_of_lt_of_le shows.opened grown.openedToo, ?_, grown.shows.host, grown.shows.made⟩
    exact (grown.origin n.current shows.opened).trans shows.stands
  place := grown.place
  origin := grown.origin
  opened := grown.opened
  openedToo := grown.openedToo
  current := rfl
  currentToo := rfl

theorem grown_nested (l : Layout) (m n : Machine) (parent : Nat) (shows : Shows l m n) (opened : parent < n.scopes.count) :
    Grown l m n (l.paired m.scopes.count n.scopes.count) (m.nested (l.origin parent)) (n.nested parent) where
  shows := by
    refine ⟨shows.padded.nest l _ _ parent opened, ?_, if_pos rfl, shows.host, shows.made⟩
    change n.scopes.count < (n.scopes.nest parent).2.count
    rw [Scopes.count_nest]
    exact Nat.lt_succ_self _
  place := fun scope older => if_neg (Nat.ne_of_lt older)
  origin := fun scope older => if_neg (Nat.ne_of_lt older)
  opened := by
    change m.scopes.count ≤ (m.scopes.nest _).2.count
    rw [Scopes.count_nest]
    exact Nat.le_succ _
  openedToo := by
    change n.scopes.count ≤ (n.scopes.nest _).2.count
    rw [Scopes.count_nest]
    exact Nat.le_succ _

theorem grown_spaced (l : Layout) (m n : Machine) (shows : Shows l m n) :
    Grown l m n (l.spaced m.current n.scopes.count) m (n.nested n.current) where
  shows := by
    have padded := shows.padded.space l _ _ n.current shows.opened
    rw [shows.stands] at padded
    refine ⟨padded, ?_, if_pos rfl, shows.host, shows.made⟩
    change n.scopes.count < (n.scopes.nest n.current).2.count
    rw [Scopes.count_nest]
    exact Nat.lt_succ_self _
  place := fun _ _ => rfl
  origin := fun scope older => if_neg (Nat.ne_of_lt older)
  opened := Nat.le_refl _
  openedToo := by
    change n.scopes.count ≤ (n.scopes.nest _).2.count
    rw [Scopes.count_nest]
    exact Nat.le_succ _

variable {α β γ δ : Type}

-- How two runs end beside each other: both done with results that agree, both at the same fault, or
-- both out of fuel.
inductive Beside (l : Layout) (m n : Machine) (agree : Layout → Nat → α → β → Prop) :
    Finish Machine RuntimeError α → Finish Machine RuntimeError β → Prop where
  | done (further : Layout) (m' n' : Machine) (a : α) (b : β) (advance : Advance l m n further m' n')
      (agrees : agree further m'.scopes.count a b) : Beside l m n agree (.done a m') (.done b n')
  | fault (further : Layout) (m' n' : Machine) (error : RuntimeError) (advance : Advance l m n further m' n') :
      Beside l m n agree (.fault error m') (.fault error n')
  | starved : Beside l m n agree .outOfFuel .outOfFuel

def Parallel (l : Layout) (m n : Machine) (agree : Layout → Nat → α → β → Prop) (run : MachineRun α)
    (other : MachineRun β) : Prop := Beside l m n agree (run m) (other n)

theorem starved_together (l : Layout) (m n : Machine) (agree : Layout → Nat → α → β → Prop)
    (x : Finish Machine RuntimeError α) (y : Finish Machine RuntimeError β) (beside : Beside l m n agree x y) :
    x = .outOfFuel ↔ y = .outOfFuel := by
  cases beside <;> simp

theorem beside_after (l middle : Layout) (m n m' n' : Machine) (agree : Layout → Nat → α → β → Prop)
    (x : Finish Machine RuntimeError α) (y : Finish Machine RuntimeError β) (advance : Advance l m n middle m' n')
    (beside : Beside middle m' n' agree x y) : Beside l m n agree x y := by
  cases beside with
  | done further m'' n'' a b goesOn agrees =>
    exact .done further m'' n'' a b (advance_trans l middle further m n m' n' m'' n'' advance goesOn) agrees
  | fault further m'' n'' error goesOn =>
    exact .fault further m'' n'' error (advance_trans l middle further m n m' n' m'' n'' advance goesOn)
  | starved => exact .starved

theorem parallel_bind (l : Layout) (m n : Machine) (before : Layout → Nat → α → β → Prop)
    (agree : Layout → Nat → γ → δ → Prop) (run : MachineRun α) (other : MachineRun β) (next : α → MachineRun γ)
    (otherNext : β → MachineRun δ) (start : Parallel l m n before run other)
    (goesOn : ∀ further m' n' a b, Advance l m n further m' n' → before further m'.scopes.count a b →
      Parallel further m' n' agree (next a) (otherNext b)) :
    Parallel l m n agree (run >>= next) (other >>= otherNext) := by
  unfold Parallel at *
  change Beside l m n agree (Run.bind run next m) (Run.bind other otherNext n)
  unfold Run.bind
  generalize run m = x at start
  generalize other n = y at start
  cases start with
  | done further m' n' a b advance agrees =>
    exact beside_after l further m n m' n' agree _ _ advance (goesOn further m' n' a b advance agrees)
  | fault further m' n' error advance => exact .fault further m' n' error advance
  | starved => exact .starved

theorem parallel_pure (l : Layout) (m n : Machine) (agree : Layout → Nat → α → β → Prop) (a : α) (b : β)
    (shows : Shows l m n) (agrees : agree l m.scopes.count a b) : Parallel l m n agree (pure a) (pure b) :=
  .done l m n a b (advance_refl l m n shows) agrees

theorem parallel_fail (l : Layout) (m n : Machine) (agree : Layout → Nat → α → β → Prop) (line : Nat)
    (fault : RuntimeFault) (shows : Shows l m n) : Parallel l m n agree (failAt line fault) (failAt line fault) :=
  .fault l m n ⟨fault, line⟩ (advance_refl l m n shows)

theorem parallel_noFuel (l : Layout) (m n : Machine) (agree : Layout → Nat → α → β → Prop) :
    Parallel l m n agree Run.noFuel Run.noFuel := .starved

theorem beside_back (l middle : Layout) (m n m' n' : Machine) (agree : Layout → Nat → α → β → Prop)
    (x : Finish Machine RuntimeError α) (y : Finish Machine RuntimeError β) (shows : Shows l m n)
    (entered : Grown l m n middle m' n') (beside : Beside middle m' n' agree x y) :
    Beside l m n agree (endedAt m.current x) (endedAt n.current y) := by
  cases beside with
  | done further m'' n'' a b advance agrees =>
    have grown := grown_trans l middle further m n m' n' m'' n'' entered advance.toGrown
    exact .done further _ _ a b (advance_back l further m n m'' n'' shows grown) agrees
  | fault further m'' n'' error advance =>
    have grown := grown_trans l middle further m n m' n' m'' n'' entered advance.toGrown
    exact .fault further _ _ error (advance_back l further m n m'' n'' shows grown)
  | starved => exact .starved

theorem ended_here (l : Layout) (m n : Machine) (agree : Layout → Nat → α → β → Prop) (x : Finish Machine RuntimeError α)
    (y : Finish Machine RuntimeError β) (beside : Beside l m n agree x y) : endedAt m.current x = x := by
  cases beside with
  | done further m' n' a b advance agrees => rw [← advance.current]; rfl
  | fault further m' n' error advance => rw [← advance.current]; rfl
  | starved => rfl

theorem parallel_within (l : Layout) (m n : Machine) (agree : Layout → Nat → α → β → Prop) (parent : Nat)
    (run : MachineRun α) (other : MachineRun β) (shows : Shows l m n) (opened : parent < n.scopes.count)
    (inside : Parallel (l.paired m.scopes.count n.scopes.count) (m.nested (l.origin parent)) (n.nested parent) agree
      run other) : Parallel l m n agree (within (l.origin parent) run) (within parent other) := by
  have back := beside_back l _ m n _ _ agree _ _ shows (grown_nested l m n parent shows opened) inside
  rw [← within_run, ← within_run] at back
  exact back

theorem parallel_gap (l : Layout) (m n : Machine) (agree : Layout → Nat → α → β → Prop) (run : MachineRun α)
    (other : MachineRun β) (shows : Shows l m n)
    (inside : Parallel (l.spaced m.current n.scopes.count) m (n.nested n.current) agree run other) :
    Parallel l m n agree run (fun machine => within machine.current other machine) := by
  have back := beside_back l _ m n _ _ agree _ _ shows (grown_spaced l m n shows) inside
  rw [← within_run, ended_here _ m _ agree _ _ inside] at back
  exact back

def Agreed (l : Layout) (count : Nat) (value other : Value) : Prop := value.Within count ∧ other = value.moved l.place

def AllAgreed (l : Layout) (count : Nat) (values others : List Value) : Prop :=
  (∀ value ∈ values, value.Within count) ∧ others = values.map (Value.moved l.place)

inductive FlowAgreed (l : Layout) (count : Nat) : Flow → Flow → Prop where
  | normal : FlowAgreed l count .normal .normal
  | returned (value other : Value) (agreed : Agreed l count value other) :
      FlowAgreed l count (.returned value) (.returned other)

def Whatever (_ : Layout) (_ : Nat) (_ : α) (_ : β) : Prop := True

theorem agreed_plain (l : Layout) (count : Nat) (value : Value) (plain : value.callable? = none) :
    Agreed l count value value :=
  ⟨Value.within_plain count value plain, (Value.moved_plain l.place value plain).symm⟩

theorem moved_later (l further : Layout) (m n m' n' : Machine) (value : Value) (grown : Grown l m n further m' n')
    (within : value.Within m.scopes.count) : value.moved further.place = value.moved l.place :=
  Value.moved_congr l.place further.place m.scopes.count value within grown.place

theorem agreed_later (l further : Layout) (m n m' n' : Machine) (value other : Value) (grown : Grown l m n further m' n')
    (agreed : Agreed l m.scopes.count value other) : Agreed further m'.scopes.count value other := by
  obtain ⟨within, rfl⟩ := agreed
  exact ⟨Value.within_later _ _ value grown.opened within, (moved_later l further m n m' n' value grown within).symm⟩

theorem all_agreed_later (l further : Layout) (m n m' n' : Machine) (values others : List Value)
    (grown : Grown l m n further m' n') (agreed : AllAgreed l m.scopes.count values others) :
    AllAgreed further m'.scopes.count values others := by
  obtain ⟨within, rfl⟩ := agreed
  refine ⟨fun value member => Value.within_later _ _ value grown.opened (within value member), ?_⟩
  refine List.map_congr_left fun value member => ?_
  exact (moved_later l further m n m' n' value grown (within value member)).symm

theorem parallel_settle (l : Layout) (m n : Machine) (line : Nat) (result : Except RuntimeFault Value) (shows : Shows l m n)
    (plain : ∀ value, result = .ok value → value.callable? = none) :
    Parallel l m n Agreed (settle line result) (settle line result) := by
  cases result with
  | ok value => exact parallel_pure l m n Agreed value value shows (agreed_plain l _ value (plain value rfl))
  | error fault => exact parallel_fail l m n Agreed line fault shows

theorem parallel_onHost (l : Layout) (m n : Machine) (agree : Layout → Nat → α → α → Prop) (line : Nat)
    (run : NativeRun α) (shows : Shows l m n)
    (fits : (run m.host).Ends (fun value _ => agree l m.scopes.count value value) fun _ _ => True) :
    Parallel l m n agree (onHost line run) (onHost line run) := by
  obtain ⟨scopes, current, host, made⟩ := m
  obtain ⟨otherScopes, otherCurrent, otherHost, otherMade⟩ := n
  obtain ⟨padded, opened, stands, sameHost, sameMade⟩ := shows
  cases sameHost
  have advance : ∀ after : Host, Advance l ⟨scopes, current, host, made⟩ ⟨otherScopes, otherCurrent, host, otherMade⟩ l
      ⟨scopes, current, after, made⟩ ⟨otherScopes, otherCurrent, after, otherMade⟩ := fun after =>
    ⟨⟨⟨padded, opened, stands, rfl, sameMade⟩, fun _ _ => rfl, fun _ _ => rfl, Nat.le_refl _, Nat.le_refl _⟩, rfl, rfl⟩
  unfold Parallel onHost
  dsimp only at fits ⊢
  cases ended : run host with
  | done value after =>
    rw [ended] at fits
    exact .done l _ _ value value (advance after) fits
  | fault error after => exact .fault l _ _ _ (advance after)
  | outOfFuel => exact .starved

theorem parallel_lookup (l : Layout) (m n : Machine) (ident : Ident) (shows : Shows l m n) :
    Parallel l m n Agreed (lookup ident) (lookup ident) := by
  have same := shows.padded.get l m.scopes n.scopes n.current shows.opened ident.name ident.line
  rw [shows.stands] at same
  unfold Parallel lookup
  rw [same]
  cases found : m.scopes.get m.current ident.name ident.line with
  | error error => exact .fault l m n _ (advance_refl l m n shows)
  | ok value =>
    refine .done l m n _ _ (advance_refl l m n shows) ⟨?_, rfl⟩
    unfold Scopes.get at found
    split at found
    · rename_i bound
      cases found
      obtain ⟨scope, _, here⟩ := Option.bind_eq_some_iff.1 bound
      exact shows.padded.sound.closures scope ident.name value here
    · cases found

theorem advance_define (l : Layout) (m n : Machine) (scope : Nat) (name : String) (value : Value) (made madeToo : Nat)
    (shows : Shows l m n) (opened : scope < m.scopes.count) (within : value.Within m.scopes.count)
    (sameMade : madeToo = made) :
    Advance l m n l { m with scopes := m.scopes.define scope name value, made }
      { n with scopes := n.scopes.define (l.place scope) name (value.moved l.place), made := madeToo } where
  shows := by
    refine ⟨shows.padded.define l _ _ scope opened name value within, ?_, shows.stands, shows.host, sameMade⟩
    change n.current < (n.scopes.define _ _ _).count
    rw [Scopes.count_define]
    exact shows.opened
  place := fun _ _ => rfl
  origin := fun _ _ => rfl
  opened := Nat.le_of_eq (Scopes.count_define ..).symm
  openedToo := Nat.le_of_eq (Scopes.count_define ..).symm
  current := rfl
  currentToo := rfl

theorem parallel_assign (l : Layout) (m n : Machine) (ident : Ident) (value other : Value) (shows : Shows l m n)
    (agreed : Agreed l m.scopes.count value other) : Parallel l m n Whatever (assign ident value) (assign ident other) := by
  obtain ⟨within, rfl⟩ := agreed
  have same := shows.padded.resolve l m.scopes n.scopes n.current shows.opened ident.name
  rw [shows.stands] at same
  unfold Parallel assign
  rw [same]
  cases resolved : m.scopes.resolve m.current ident.name with
  | none => exact .fault l m n _ (advance_refl l m n shows)
  | some found =>
    obtain ⟨bound, here⟩ := Option.isSome_iff_exists.1 (m.scopes.resolve_binds m.current ident.name found resolved)
    have opened := m.scopes.localGet_opened found ident.name bound here
    exact .done l _ _ () () (advance_define l m n found ident.name value m.made n.made shows opened within shows.made) trivial

-- The second machine stands in the place of the scope that the first stands in.
def Exact (l : Layout) (m n : Machine) : Prop := l.place m.current = n.current

theorem exact_later (l further : Layout) (m n m' n' : Machine) (shows : Shows l m n) (advance : Advance l m n further m' n')
    (exactly : Exact l m n) : Exact further m' n' := by
  unfold Exact at *
  rw [advance.currentToo, advance.current, advance.place m.current (shows_opened l m n shows), exactly]

theorem parallel_define (l : Layout) (m n : Machine) (name : String) (value other : Value) (shows : Shows l m n)
    (exactly : Exact l m n) (agreed : Agreed l m.scopes.count value other) :
    Parallel l m n Whatever (define name value) (define name other) := by
  obtain ⟨within, rfl⟩ := agreed
  have advance := advance_define l m n m.current name value m.made n.made shows (shows_opened l m n shows) within shows.made
  rw [exactly] at advance
  exact .done l _ _ () () advance trivial

theorem parallel_declare (l : Layout) (m n : Machine) (name : String) (declaration : FunctionDecl) (shows : Shows l m n)
    (exactly : Exact l m n) :
    Parallel l m n Whatever (Run.modify (declare name (.function declaration m.current)))
      (Run.modify (declare name (.function declaration n.current))) := by
  have opened := shows_opened l m n shows
  have within : (Value.callable ⟨m.made, .function declaration m.current⟩).Within m.scopes.count := by
    rintro closure ⟨⟩
    exact opened
  have advance := advance_define l m n m.current name _ (m.made + 1) (n.made + 1) shows opened within
    (congrArg Nat.succ shows.made)
  have same : (Value.callable ⟨m.made, .function declaration m.current⟩).moved l.place =
      .callable ⟨n.made, .function declaration n.current⟩ := by
    rw [Value.moved, Callable.moved, exactly, shows.made]
  rw [same, exactly] at advance
  exact .done l _ _ () () advance trivial

theorem parallel_bindAll (l : Layout) (m n : Machine) (params : List Ident) (values others : List Value)
    (shows : Shows l m n) (exactly : Exact l m n) (agreed : AllAgreed l m.scopes.count values others) :
    Parallel l m n Whatever (bindAll (params.zip values)) (bindAll (params.zip others)) := by
  induction params generalizing l m n values others with
  | nil => exact parallel_pure l m n Whatever () () shows trivial
  | cons param params ih =>
    obtain ⟨within, rfl⟩ := agreed
    cases values with
    | nil => exact parallel_pure l m n Whatever () () shows trivial
    | cons value values =>
      refine parallel_bind l m n Whatever Whatever _ _ _ _ ?_ ?_
      · exact parallel_define l m n param.name value _ shows exactly ⟨within value List.mem_cons_self, rfl⟩
      · intro further m' n' _ _ advance _
        refine ih further m' n' values _ advance.shows (exact_later l further m n m' n' shows advance exactly) ?_
        refine all_agreed_later l further m n m' n' values _ advance.toGrown ⟨?_, rfl⟩
        intro other member
        exact within other (List.mem_cons_of_mem value member)

end Machine

end StoryScript

import StoryScript.Proofs.Machine.Lockstep

set_option autoImplicit false

namespace StoryScript.Machine

-- What may declare names: a run that stands in the same scope of both machines. What declares none may
-- stand in an empty scope of the second.
def Allows (l : Layout) (m n : Machine) (names : List String) : Prop := Exact l m n ∨ names = []

theorem allows_fewer (l : Layout) (m n : Machine) (few many : List String) (subset : few ⊆ many)
    (allows : Allows l m n many) : Allows l m n few := by
  rcases allows with exactly | rfl
  · exact Or.inl exactly
  · exact Or.inr (List.subset_nil.1 subset)

theorem allows_later (l further : Layout) (m n m' n' : Machine) (names : List String) (shows : Shows l m n)
    (advance : Advance l m n further m' n') (allows : Allows l m n names) : Allows further m' n' names := by
  rcases allows with exactly | silent
  · exact Or.inl (exact_later l further m n m' n' shows advance exactly)
  · exact Or.inr silent

theorem exact_of_allows (l : Layout) (m n : Machine) (name : String) (allows : Allows l m n [name]) : Exact l m n := by
  rcases allows with exactly | silent
  · exact exactly
  · cases silent

theorem exact_nested (l : Layout) (m n : Machine) (parent parentToo : Nat) :
    Exact (l.paired m.scopes.count n.scopes.count) (m.nested parent) (n.nested parentToo) := if_pos rfl

structure Unnoticed (fuel : Nat) : Prop where
  evaluate : ∀ l m n expr, Shows l m n → Parallel l m n Agreed (evaluate fuel expr) (evaluate fuel expr)
  evaluateAll : ∀ l m n exprs, Shows l m n → Parallel l m n AllAgreed (evaluateAll fuel exprs) (evaluateAll fuel exprs)
  call : ∀ l m n callable values others line, Shows l m n → (Value.callable callable).Within m.scopes.count →
    AllAgreed l m.scopes.count values others →
    Parallel l m n Agreed (call fuel callable values line) (call fuel (callable.moved l.place) others line)
  execute : ∀ l m n stmt, Shows l m n → Allows l m n stmt.declared →
    Parallel l m n FlowAgreed (execute fuel stmt) (execute fuel stmt)
  executeAll : ∀ l m n stmts, Shows l m n → Allows l m n (Stmt.declaredAll stmts) →
    Parallel l m n FlowAgreed (executeAll fuel stmts) (executeAll fuel stmts)
  repeatWhile : ∀ l m n condition body, Shows l m n → Allows l m n body.declared →
    Parallel l m n FlowAgreed (repeatWhile fuel condition body) (repeatWhile fuel condition body)

theorem parallel_branch {α β : Type} (l : Layout) (m n : Machine) (agree : Layout → Nat → α → β → Prop)
    (condition : MachineRun Value) (yes no : MachineRun α) (yesToo noToo : MachineRun β)
    (asked : Parallel l m n Agreed condition condition)
    (whenTrue : ∀ further m' n', Advance l m n further m' n' → Parallel further m' n' agree yes yesToo)
    (whenFalse : ∀ further m' n', Advance l m n further m' n' → Parallel further m' n' agree no noToo) :
    Parallel l m n agree (do if (← condition).isTruthy then yes else no)
      (do if (← condition).isTruthy then yesToo else noToo) := by
  refine parallel_bind l m n Agreed agree _ _ _ _ asked ?_
  rintro further m' n' value _ advance ⟨_, rfl⟩
  rw [Value.isTruthy_moved]
  by_cases truthy : value.isTruthy = true
  · rw [if_pos truthy, if_pos truthy]
    exact whenTrue further m' n' advance
  · rw [if_neg truthy, if_neg truthy]
    exact whenFalse further m' n' advance

theorem evaluate_unnoticed (fuel : Nat) (unnoticed : Unnoticed fuel) (l : Layout) (m n : Machine) (expr : Expr)
    (shows : Shows l m n) : Parallel l m n Agreed (evaluate (fuel + 1) expr) (evaluate (fuel + 1) expr) := by
  cases expr with
  | literal value =>
    refine parallel_pure l m n Agreed _ _ shows (agreed_plain l _ _ ?_)
    cases value <;> rfl
  | grouping inner => exact unnoticed.evaluate l m n inner shows
  | unary op operand line =>
    refine parallel_bind l m n Agreed Agreed _ _ _ _ (unnoticed.evaluate l m n operand shows) ?_
    rintro further m' n' value _ advance ⟨_, rfl⟩
    rw [op.apply_moved]
    exact parallel_settle further m' n' line _ advance.shows (op.apply_plain value)
  | binary left op right line =>
    refine parallel_bind l m n Agreed Agreed _ _ _ _ (unnoticed.evaluate l m n left shows) ?_
    intro middle m' n' a _ advance agreed
    refine parallel_bind middle m' n' Agreed Agreed _ _ _ _ (unnoticed.evaluate middle m' n' right advance.shows) ?_
    rintro further m'' n'' b _ goesOn ⟨_, rfl⟩
    obtain ⟨_, rfl⟩ := agreed_later middle further m' n' m'' n'' a _ goesOn.toGrown agreed
    rw [op.apply_moved]
    exact parallel_settle further m'' n'' line _ goesOn.shows (op.apply_plain a b)
  | logical left op right =>
    refine parallel_bind l m n Agreed Agreed _ _ _ _ (unnoticed.evaluate l m n left shows) ?_
    rintro further m' n' value _ advance ⟨within, rfl⟩
    rw [op.settledBy_moved]
    by_cases settled : op.settledBy value = true
    · rw [if_pos settled, if_pos settled]
      exact parallel_pure further m' n' Agreed _ _ advance.shows ⟨within, rfl⟩
    · rw [if_neg settled, if_neg settled]
      exact unnoticed.evaluate further m' n' right advance.shows
  | reference ident => exact parallel_lookup l m n ident shows
  | assign ident inner =>
    refine parallel_bind l m n Agreed Agreed _ _ _ _ (unnoticed.evaluate l m n inner shows) ?_
    intro middle m' n' value other advance agreed
    refine parallel_bind middle m' n' Whatever Agreed _ _ _ _ ?_ ?_
    · exact parallel_assign middle m' n' ident value other advance.shows agreed
    · intro further m'' n'' _ _ goesOn _
      refine parallel_pure further m'' n'' Agreed value other goesOn.shows ?_
      exact agreed_later middle further m' n' m'' n'' value other goesOn.toGrown agreed
  | call callee args line =>
    refine parallel_bind l m n Agreed Agreed _ _ _ _ (unnoticed.evaluate l m n callee shows) ?_
    rintro middle m' n' value _ advance ⟨within, rfl⟩
    cases value with
    | callable target =>
      refine parallel_bind middle m' n' AllAgreed Agreed _ _ _ _ (unnoticed.evaluateAll middle m' n' args advance.shows) ?_
      intro further m'' n'' values others goesOn allAgreed
      have kept := moved_later middle further m' n' m'' n'' _ goesOn.toGrown within
      rw [Value.moved, Value.moved, Value.callable.injEq] at kept
      have within' := Value.within_later _ _ _ goesOn.opened within
      have lengths : others.length = values.length := by rw [allAgreed.2, List.length_map]
      rw [← kept, lengths, Callable.arity_moved]
      by_cases counted : values.length = target.arity
      · rw [if_pos counted, if_pos counted]
        exact unnoticed.call further m'' n'' target values others line goesOn.shows within' allAgreed
      · rw [if_neg counted, if_neg counted]
        exact parallel_fail further m'' n'' Agreed line _ goesOn.shows
    | _ => exact parallel_fail middle m' n' Agreed line _ advance.shows

theorem evaluateAll_unnoticed (fuel : Nat) (unnoticed : Unnoticed fuel) (l : Layout) (m n : Machine) (exprs : List Expr)
    (shows : Shows l m n) : Parallel l m n AllAgreed (evaluateAll (fuel + 1) exprs) (evaluateAll (fuel + 1) exprs) := by
  cases exprs with
  | nil => exact parallel_pure l m n AllAgreed [] [] shows ⟨by simp, rfl⟩
  | cons expr rest =>
    refine parallel_bind l m n Agreed AllAgreed _ _ _ _ (unnoticed.evaluate l m n expr shows) ?_
    intro middle m' n' value other advance agreed
    refine parallel_bind middle m' n' AllAgreed AllAgreed _ _ _ _ (unnoticed.evaluateAll middle m' n' rest advance.shows) ?_
    rintro further m'' n'' values _ goesOn ⟨within, rfl⟩
    obtain ⟨first, rfl⟩ := agreed_later middle further m' n' m'' n'' value other goesOn.toGrown agreed
    exact parallel_pure further m'' n'' AllAgreed _ _ goesOn.shows ⟨List.forall_mem_cons.2 ⟨first, within⟩, rfl⟩

theorem call_unnoticed (fuel : Nat) (unnoticed : Unnoticed fuel) (l : Layout) (m n : Machine) (callable : Callable)
    (values others : List Value) (line : Nat) (shows : Shows l m n)
    (within : (Value.callable callable).Within m.scopes.count) (agreed : AllAgreed l m.scopes.count values others) :
    Parallel l m n Agreed (call (fuel + 1) callable values line)
      (call (fuel + 1) (callable.moved l.place) others line) := by
  obtain ⟨identity, target⟩ := callable
  cases target with
  | native native =>
    obtain ⟨_, rfl⟩ := agreed
    change Parallel l m n Agreed (onHost line (native.call fuel values)) (onHost line (native.call fuel _))
    rw [native_moved]
    refine parallel_onHost l m n Agreed line _ shows (ends_weaken _ _ _ _ _ (plain_call native fuel values m.host) ?_ ?_)
    · intro value _ plain
      exact agreed_plain l m.scopes.count value plain
    · intro _ _ _
      trivial
  | function declaration closure =>
    obtain ⟨placed, back⟩ := shows.padded.placed closure (within closure rfl)
    refine parallel_bind l m n FlowAgreed Agreed _ _ _ _ ?_ ?_
    · -- The function runs in a new scope of both machines, so it may declare names there.
      have entered := grown_nested l m n (l.place closure) shows placed
      have exactly := exact_nested l m n (l.origin (l.place closure)) (l.place closure)
      have inside := parallel_within l m n FlowAgreed (l.place closure) _ _ shows placed
        (parallel_bind _ _ _ Whatever FlowAgreed _ _ _ _
          (parallel_bindAll _ _ _ declaration.params values others entered.shows exactly
            (all_agreed_later l _ m n _ _ values others entered agreed))
          fun further m' n' _ _ advance _ =>
            unnoticed.executeAll further m' n' declaration.body advance.shows
              (Or.inl (exact_later _ further _ _ m' n' entered.shows advance exactly)))
      rw [back] at inside
      exact inside
    · intro further m' n' flow other advance flowAgreed
      cases flowAgreed with
      | normal => exact parallel_pure further m' n' Agreed .nil .nil advance.shows (agreed_plain further _ .nil rfl)
      | returned value other agreed => exact parallel_pure further m' n' Agreed value other advance.shows agreed

theorem execute_unnoticed (fuel : Nat) (unnoticed : Unnoticed fuel) (l : Layout) (m n : Machine) (stmt : Stmt)
    (shows : Shows l m n) (allows : Allows l m n stmt.declared) :
    Parallel l m n FlowAgreed (execute (fuel + 1) stmt) (execute (fuel + 1) stmt) := by
  have ends : ∀ {further m' n'}, Shows further m' n' → Parallel further m' n' FlowAgreed (pure .normal) (pure .normal) :=
    fun shows => parallel_pure _ _ _ FlowAgreed .normal .normal shows .normal
  cases stmt with
  | expression expr =>
    refine parallel_bind l m n Agreed FlowAgreed _ _ _ _ (unnoticed.evaluate l m n expr shows) ?_
    intro further m' n' _ _ advance _
    exact ends advance.shows
  | print expr line =>
    refine parallel_bind l m n Agreed FlowAgreed _ _ _ _ (unnoticed.evaluate l m n expr shows) ?_
    rintro middle m' n' value _ advance ⟨_, rfl⟩
    rw [Value.text_moved]
    refine parallel_bind middle m' n' Whatever FlowAgreed _ _ _ _ ?_ ?_
    · exact parallel_onHost middle m' n' Whatever line _ advance.shows (ends_trivial _)
    · intro further m'' n'' _ _ goesOn _
      exact ends goesOn.shows
  | var ident initializer =>
    have exactly := exact_of_allows l m n ident.name allows
    cases initializer with
    | none =>
      refine parallel_bind l m n Whatever FlowAgreed _ _ _ _ ?_ ?_
      · exact parallel_define l m n ident.name .nil .nil shows exactly (agreed_plain l _ .nil rfl)
      · intro further m' n' _ _ advance _
        exact ends advance.shows
    | some expr =>
      refine parallel_bind l m n Agreed FlowAgreed _ _ _ _ (unnoticed.evaluate l m n expr shows) ?_
      intro middle m' n' value other advance agreed
      have exactly' := exact_later l middle m n m' n' shows advance exactly
      refine parallel_bind middle m' n' Whatever FlowAgreed _ _ _ _ ?_ ?_
      · exact parallel_define middle m' n' ident.name value other advance.shows exactly' agreed
      · intro further m'' n'' _ _ goesOn _
        exact ends goesOn.shows
  | block body =>
    have entered := grown_nested l m n n.current shows shows.opened
    have exactly := exact_nested l m n (l.origin n.current) n.current
    have inside := parallel_within l m n FlowAgreed n.current _ _ shows shows.opened
      (unnoticed.executeAll _ _ _ body entered.shows (Or.inl exactly))
    rw [shows.stands] at inside
    exact inside
  | ifThen condition thenBranch =>
    refine parallel_branch l m n FlowAgreed _ _ _ _ _ (unnoticed.evaluate l m n condition shows) ?_ ?_
    · intro further m' n' advance
      have allows' := allows_later l further m n m' n' _ shows advance allows
      exact unnoticed.execute further m' n' thenBranch advance.shows allows'
    · intro further m' n' advance
      exact ends advance.shows
  | ifElse condition thenBranch elseBranch =>
    refine parallel_branch l m n FlowAgreed _ _ _ _ _ (unnoticed.evaluate l m n condition shows) ?_ ?_
    · intro further m' n' advance
      have allows' := allows_later l further m n m' n' _ shows advance allows
      exact unnoticed.execute further m' n' thenBranch advance.shows
        (allows_fewer further m' n' _ _ (List.subset_append_left _ _) allows')
    · intro further m' n' advance
      have allows' := allows_later l further m n m' n' _ shows advance allows
      exact unnoticed.execute further m' n' elseBranch advance.shows
        (allows_fewer further m' n' _ _ (List.subset_append_right _ _) allows')
  | loop condition body => exact unnoticed.repeatWhile l m n condition body shows allows
  | function ident params body =>
    -- Each function is closed over the scope that its machine stands in now.
    change Beside l m n FlowAgreed
      ((Run.modify (declare ident.name (.function ⟨ident, params, body⟩ m.current)) >>= fun _ => pure .normal) m)
      ((Run.modify (declare ident.name (.function ⟨ident, params, body⟩ n.current)) >>= fun _ => pure .normal) n)
    refine parallel_bind l m n Whatever FlowAgreed _ _ _ _ ?_ ?_
    · exact parallel_declare l m n ident.name ⟨ident, params, body⟩ shows (exact_of_allows l m n ident.name allows)
    · intro further m' n' _ _ advance _
      exact ends advance.shows
  | ret value line =>
    cases value with
    | none =>
      exact parallel_pure l m n FlowAgreed _ _ shows (.returned .nil .nil (agreed_plain l _ .nil rfl))
    | some expr =>
      refine parallel_bind l m n Agreed FlowAgreed _ _ _ _ (unnoticed.evaluate l m n expr shows) ?_
      intro further m' n' value other advance agreed
      exact parallel_pure further m' n' FlowAgreed _ _ advance.shows (.returned value other agreed)

theorem executeAll_unnoticed (fuel : Nat) (unnoticed : Unnoticed fuel) (l : Layout) (m n : Machine) (stmts : List Stmt)
    (shows : Shows l m n) (allows : Allows l m n (Stmt.declaredAll stmts)) :
    Parallel l m n FlowAgreed (executeAll (fuel + 1) stmts) (executeAll (fuel + 1) stmts) := by
  cases stmts with
  | nil => exact parallel_pure l m n FlowAgreed .normal .normal shows .normal
  | cons stmt rest =>
    refine parallel_bind l m n FlowAgreed FlowAgreed _ _ _ _ ?_ ?_
    · exact unnoticed.execute l m n stmt shows (allows_fewer l m n _ _ (by simp [Stmt.declaredAll]) allows)
    · intro further m' n' flow other advance flowAgreed
      have allows' := allows_later l further m n m' n' _ shows advance allows
      cases flowAgreed with
      | normal =>
        exact unnoticed.executeAll further m' n' rest advance.shows
          (allows_fewer further m' n' _ _ (by simp [Stmt.declaredAll]) allows')
      | returned value other agreed =>
        exact parallel_pure further m' n' FlowAgreed _ _ advance.shows (.returned value other agreed)

theorem repeatWhile_unnoticed (fuel : Nat) (unnoticed : Unnoticed fuel) (l : Layout) (m n : Machine) (condition : Expr)
    (body : Stmt) (shows : Shows l m n) (allows : Allows l m n body.declared) :
    Parallel l m n FlowAgreed (repeatWhile (fuel + 1) condition body) (repeatWhile (fuel + 1) condition body) := by
  refine parallel_branch l m n FlowAgreed _ _ _ _ _ (unnoticed.evaluate l m n condition shows) ?_ ?_
  · intro middle m' n' advance
    have allows' := allows_later l middle m n m' n' _ shows advance allows
    refine parallel_bind middle m' n' FlowAgreed FlowAgreed _ _ _ _ ?_ ?_
    · exact unnoticed.execute middle m' n' body advance.shows allows'
    · intro further m'' n'' flow other goesOn flowAgreed
      cases flowAgreed with
      | normal =>
        exact unnoticed.repeatWhile further m'' n'' condition body goesOn.shows
          (allows_later middle further m' n' m'' n'' _ advance.shows goesOn allows')
      | returned value other agreed =>
        exact parallel_pure further m'' n'' FlowAgreed _ _ goesOn.shows (.returned value other agreed)
  · intro further m' n' advance
    exact parallel_pure further m' n' FlowAgreed .normal .normal advance.shows .normal

-- Every run goes the same way beside empty scopes, by induction on its fuel.
theorem unnoticed (fuel : Nat) : Unnoticed fuel := by
  induction fuel with
  | zero => constructor <;> intros <;> exact .starved
  | succ fuel ih =>
    exact
      { evaluate := evaluate_unnoticed fuel ih
        evaluateAll := evaluateAll_unnoticed fuel ih
        call := call_unnoticed fuel ih
        execute := execute_unnoticed fuel ih
        executeAll := executeAll_unnoticed fuel ih
        repeatWhile := repeatWhile_unnoticed fuel ih }

end StoryScript.Machine

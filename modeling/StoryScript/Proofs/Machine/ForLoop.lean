import StoryScript.Proofs.Grammar.Bodies
import StoryScript.Proofs.Grammar.Statements
import StoryScript.Proofs.Machine.ScopeDiscipline
import StoryScript.Grammar.Parser
import StoryScript.Proofs.Machine.Soundness

set_option autoImplicit false

namespace StoryScript.Machine

open Run

def unlessReturned (run next : MachineRun Flow) : MachineRun Flow := do
  match ← run with
  | .normal => next
  | .returned value => return .returned value

def opening (fuel : Nat) : Option Stmt → MachineRun Flow
  | none => return .normal
  | some stmt => execute fuel stmt

def asked (fuel : Nat) : Option Expr → MachineRun Value
  | none => return .bool true
  | some expr => evaluate fuel expr

def closing (fuel : Nat) : Option Expr → MachineRun Flow
  | none => return .normal
  | some expr => do
    let _ ← evaluate fuel expr
    return .normal

def turns (question : Nat → MachineRun Value) (turn : Nat → MachineRun Flow) : Nat → MachineRun Flow
  | 0 => Run.noFuel
  | fuel + 1 => do
    if (← question fuel).isTruthy then unlessReturned (turn fuel) (turns question turn fuel)
    else return .normal

-- A loop as it is meant: one new scope with the first clause, the condition, the body and the last clause
-- in it, where a body that returned is not followed by the last clause.
def forLoop (fuel : Nat) (initializer : Option Stmt) (condition increment : Option Expr) (body : Stmt) :
    MachineRun Flow := fun m =>
  within m.current
    (unlessReturned (opening fuel initializer)
      (turns (fun fuel => asked fuel condition)
        (fun fuel => unlessReturned (execute fuel body) (closing fuel increment)) fuel)) m

theorem unlessReturned_normal (run : MachineRun Flow) : unlessReturned run (return .normal) = run := by
  funext m
  change Run.bind run _ m = run m
  unfold Run.bind
  cases run m with
  | done flow after => cases flow <;> rfl
  | fault error after => rfl
  | outOfFuel => rfl

theorem extends_unless (longer shorter longerNext shorterNext : MachineRun Flow) (first : Extends longer shorter)
    (second : Extends longerNext shorterNext) :
    Extends (unlessReturned longer longerNext) (unlessReturned shorter shorterNext) := by
  refine extends_bind _ _ _ _ first fun flow => ?_
  cases flow with
  | normal => exact second
  | returned value => exact extends_refl _

theorem extends_here (longer shorter : MachineRun Flow) (goesOn : Extends longer shorter) :
    Extends (fun m => within m.current longer m) (fun m => within m.current shorter m) :=
  fun m => extends_within m.current longer shorter goesOn m

theorem extends_turns (longer shorter : Nat → MachineRun Value) (longerTurn shorterTurn : Nat → MachineRun Flow) (gap : Nat)
    (questions : ∀ fuel, Extends (longer (fuel + gap)) (shorter fuel))
    (each : ∀ fuel, Extends (longerTurn (fuel + gap)) (shorterTurn fuel)) (fuel : Nat) :
    Extends (turns longer longerTurn (fuel + gap)) (turns shorter shorterTurn fuel) := by
  induction fuel with
  | zero => exact extends_noFuel _
  | succ fuel ih =>
    rw [Nat.succ_add]
    refine extends_bind _ _ _ _ (questions fuel) fun value => ?_
    by_cases truthy : value.isTruthy = true
    · rw [if_pos truthy, if_pos truthy]
      exact extends_unless _ _ _ _ (each fuel) ih
    · rw [if_neg truthy, if_neg truthy]
      exact extends_refl _

theorem execute_block (fuel : Nat) (body : List Stmt) :
    execute fuel (.block body) = fun m => within m.current (executeAll (fuel - 1) body) m := by
  cases fuel <;> rfl

theorem execute_loop (fuel : Nat) (condition : Expr) (body : Stmt) :
    execute fuel (.loop condition body) = repeatWhile (fuel - 1) condition body := by
  cases fuel <;> rfl

theorem execute_expression (fuel : Nat) (expr : Expr) : execute fuel (.expression expr) = closing (fuel - 1) (some expr) := by
  cases fuel <;> rfl

theorem executeAll_cons (fuel : Nat) (stmt : Stmt) (rest : List Stmt) :
    executeAll fuel (stmt :: rest) = unlessReturned (execute (fuel - 1) stmt) (executeAll (fuel - 1) rest) := by
  cases fuel <;> rfl

theorem executeAll_single (fuel : Nat) (stmt : Stmt) : executeAll fuel [stmt] = execute (fuel - 1) stmt := by
  match fuel with
  | 0 => rfl
  | 1 => rfl
  | fuel + 2 => exact unlessReturned_normal (execute (fuel + 1) stmt)

theorem executeAll_clauses (fuel : Nat) (initializer : Option Stmt) (stmt : Stmt) :
    executeAll fuel (initializer.toList ++ [stmt]) =
      unlessReturned (opening (fuel - 1) initializer) (execute (fuel - 1 - initializer.toList.length) stmt) := by
  cases initializer with
  | none => exact executeAll_single fuel stmt
  | some first => exact (executeAll_cons fuel first [stmt]).trans (congrArg _ (executeAll_single (fuel - 1) stmt))

def blockTurn (increment : Option Expr) (body : Stmt) (fuel : Nat) : MachineRun Flow :=
  match increment with
  | none => execute fuel body
  | some expr => unlessReturned (execute (fuel - 1 - 1) body) (closing (fuel - 1 - 1 - 1 - 1) (some expr))

def blockLoop (fuel : Nat) (initializer : Option Stmt) (condition increment : Option Expr) (body : Stmt) :
    MachineRun Flow := fun m =>
  within m.current
    (unlessReturned (opening (fuel - 1 - 1) initializer)
      (turns (fun fuel => evaluate fuel (condition.getD (.literal (.bool true)))) (blockTurn increment body)
        (fuel - 1 - 1 - initializer.toList.length - 1))) m

theorem parallel_unless (l : Layout) (m n : Machine) (run other next otherNext : MachineRun Flow)
    (start : Parallel l m n FlowAgreed run other)
    (goesOn : ∀ further m' n', Advance l m n further m' n' → Parallel further m' n' FlowAgreed next otherNext) :
    Parallel l m n FlowAgreed (unlessReturned run next) (unlessReturned other otherNext) := by
  refine parallel_bind l m n FlowAgreed FlowAgreed _ _ _ _ start ?_
  intro further m' n' flow other advance flowAgreed
  cases flowAgreed with
  | normal => exact goesOn further m' n' advance
  | returned value other agreed => exact parallel_pure further m' n' FlowAgreed _ _ advance.shows (.returned value other agreed)

theorem closing_unnoticed (fuel : Nat) (l : Layout) (m n : Machine) (expr : Expr) (shows : Shows l m n) :
    Parallel l m n FlowAgreed (closing fuel (some expr)) (closing fuel (some expr)) := by
  refine parallel_bind l m n Agreed FlowAgreed _ _ _ _ ((unnoticed fuel).evaluate l m n expr shows) ?_
  intro further m' n' _ _ advance _
  exact parallel_pure further m' n' FlowAgreed .normal .normal advance.shows .normal

-- The block around the body and the last clause is one more scope, which stays empty because the body
-- declares nothing in it.
theorem blockTurn_unnoticed (fuel : Nat) (l : Layout) (m n : Machine) (increment : Option Expr) (body : Stmt)
    (silent : body.declared = []) (shows : Shows l m n) :
    Parallel l m n FlowAgreed (blockTurn increment body fuel) (execute fuel (Grammar.loopRound body increment)) := by
  cases increment with
  | none => exact (unnoticed fuel).execute l m n body shows (Or.inr silent)
  | some expr =>
    rw [Grammar.loopRound, execute_block, executeAll_cons, executeAll_single, execute_expression]
    have entered := (grown_spaced l m n shows).shows
    refine parallel_gap l m n FlowAgreed _ _ shows (parallel_unless _ _ _ _ _ _ _ ?_ ?_)
    · exact (unnoticed (fuel - 1 - 1)).execute _ _ _ body entered (Or.inr silent)
    · intro further m' n' advance
      exact closing_unnoticed (fuel - 1 - 1 - 1 - 1) further m' n' expr advance.shows

theorem turns_unnoticed (fuel : Nat) (l : Layout) (m n : Machine) (condition : Expr) (increment : Option Expr) (body : Stmt)
    (silent : body.declared = []) (shows : Shows l m n) :
    Parallel l m n FlowAgreed (turns (fun fuel => evaluate fuel condition) (blockTurn increment body) fuel)
      (repeatWhile fuel condition (Grammar.loopRound body increment)) := by
  induction fuel generalizing l m n with
  | zero => exact parallel_noFuel l m n FlowAgreed
  | succ fuel ih =>
    refine parallel_branch l m n FlowAgreed _ _ _ _ _ ((unnoticed fuel).evaluate l m n condition shows) ?_ ?_
    · intro middle m' n' advance
      refine parallel_unless middle m' n' _ _ _ _ ?_ ?_
      · exact blockTurn_unnoticed fuel middle m' n' increment body silent advance.shows
      · intro further m'' n'' goesOn
        exact ih further m'' n'' goesOn.shows
    · intro further m' n' advance
      exact parallel_pure further m' n' FlowAgreed .normal .normal advance.shows .normal

theorem opening_unnoticed (fuel : Nat) (l : Layout) (m n : Machine) (initializer : Option Stmt) (shows : Shows l m n)
    (exactly : Exact l m n) : Parallel l m n FlowAgreed (opening fuel initializer) (opening fuel initializer) := by
  cases initializer with
  | none => exact parallel_pure l m n FlowAgreed .normal .normal shows .normal
  | some stmt => exact (unnoticed fuel).execute l m n stmt shows (Or.inl exactly)

theorem blockLoop_unnoticed (fuel : Nat) (l : Layout) (m n : Machine) (initializer : Option Stmt)
    (condition increment : Option Expr) (body : Stmt) (silent : body.declared = []) (shows : Shows l m n) :
    Parallel l m n FlowAgreed (blockLoop fuel initializer condition increment body)
      (execute fuel (.forLoop initializer condition increment body)) := by
  rw [Grammar.forLoop_eq, execute_block, executeAll_clauses, execute_loop]
  have entered := (grown_nested l m n n.current shows shows.opened).shows
  have exactly := exact_nested l m n (l.origin n.current) n.current
  have inside := parallel_within l m n FlowAgreed n.current _ _ shows shows.opened
    (parallel_unless _ _ _ _ _ _ _ (opening_unnoticed (fuel - 1 - 1) _ _ _ initializer entered exactly)
      fun further m' n' advance =>
        turns_unnoticed (fuel - 1 - 1 - initializer.toList.length - 1) further m' n'
          (condition.getD (.literal (.bool true))) increment body silent advance.shows)
  rw [shows.stands] at inside
  exact inside

theorem opening_fuel (fuel more : Nat) (initializer : Option Stmt) (enough : fuel ≤ more) :
    Extends (opening more initializer) (opening fuel initializer) := by
  cases initializer with
  | none => exact extends_refl _
  | some stmt => exact execute_fuel fuel more stmt enough

theorem turn_in_block (increment : Option Expr) (body : Stmt) (fuel : Nat) :
    Extends (blockTurn increment body (fuel + 4)) (unlessReturned (execute fuel body) (closing fuel increment)) := by
  have enough : fuel ≤ fuel + 4 := Nat.le_add_right fuel 4
  cases increment with
  | none =>
    rw [closing, unlessReturned_normal]
    exact execute_fuel fuel (fuel + 4) body enough
  | some expr => exact extends_unless _ _ _ _ (execute_fuel fuel (fuel + 2) body (Nat.le_add_right fuel 2)) (extends_refl _)

theorem asked_in_block (condition : Option Expr) (fuel : Nat) :
    Extends (evaluate (fuel + 4) (condition.getD (.literal (.bool true)))) (asked fuel condition) := by
  cases condition with
  | none => exact extends_refl _
  | some expr => exact evaluate_fuel fuel (fuel + 4) expr (Nat.le_add_right fuel 4)

theorem loop_in_block (fuel : Nat) (initializer : Option Stmt) (condition increment : Option Expr) (body : Stmt) :
    Extends (blockLoop (fuel + 7 + initializer.toList.length) initializer condition increment body)
      (forLoop fuel initializer condition increment body) := by
  refine extends_here _ _ (extends_unless _ _ _ _ (opening_fuel fuel _ initializer (by omega)) ?_)
  have left : fuel + 7 + initializer.toList.length - 1 - 1 - initializer.toList.length - 1 = fuel + 4 := by omega
  rw [left]
  exact extends_turns _ _ _ _ 4 (asked_in_block condition) (turn_in_block increment body) fuel

theorem asked_in_loop (condition : Option Expr) (gap fuel : Nat) :
    Extends (asked (fuel + gap) condition) (evaluate fuel (condition.getD (.literal (.bool true)))) := by
  cases condition with
  | none =>
    cases fuel with
    | zero => exact extends_noFuel _
    | succ fuel => exact extends_refl _
  | some expr => exact evaluate_fuel fuel (fuel + gap) expr (Nat.le_add_right fuel gap)

theorem turn_in_loop (increment : Option Expr) (body : Stmt) (gap fuel : Nat) :
    Extends (unlessReturned (execute (fuel + gap) body) (closing (fuel + gap) increment))
      (blockTurn increment body fuel) := by
  cases increment with
  | none =>
    rw [closing, unlessReturned_normal]
    exact execute_fuel fuel (fuel + gap) body (Nat.le_add_right fuel gap)
  | some expr =>
    refine extends_unless _ _ _ _ (execute_fuel _ _ body (by omega)) ?_
    exact extends_bind _ _ _ _ (evaluate_fuel _ _ expr (by omega)) fun _ => extends_refl _

theorem block_in_loop (fuel : Nat) (initializer : Option Stmt) (condition increment : Option Expr) (body : Stmt) :
    Extends (forLoop fuel initializer condition increment body) (blockLoop fuel initializer condition increment body) := by
  refine extends_here _ _ (extends_unless _ _ _ _ (opening_fuel _ fuel initializer (by omega)) ?_)
  have fewer : fuel - 1 - 1 - initializer.toList.length - 1 ≤ fuel := by omega
  generalize fuel - 1 - 1 - initializer.toList.length - 1 = left at fewer
  obtain ⟨gap, rfl⟩ := Nat.exists_eq_add_of_le fewer
  exact extends_turns _ _ _ _ gap (asked_in_loop condition gap) (turn_in_loop increment body gap) left

-- What two machines that went on from one have in common: the host, and what every scope of the second
-- sees, which is what the scope of the first sees that it stands for. The scopes that were there before
-- stand for themselves, and the empty ones in between are all that the second has more.
structure SameView (l : Layout) (m after other : Machine) : Prop where
  host : other.host = after.host
  made : other.made = after.made
  current : after.current = m.current
  currentToo : other.current = m.current
  place : ∀ scope < m.scopes.count, l.place scope = scope
  origin : ∀ scope < m.scopes.count, l.origin scope = scope
  padded : Padded l after.scopes other.scopes
  sees : ∀ scope < other.scopes.count, ∀ name line, other.scopes.get scope name line =
    (after.scopes.get (l.origin scope) name line).map (Value.moved l.place)

inductive EndsAlike (m : Machine) : Finish Machine RuntimeError Flow → Finish Machine RuntimeError Flow → Prop where
  | done (l : Layout) (after other : Machine) (flow flowToo : Flow) (same : SameView l m after other)
      (agreed : FlowAgreed l after.scopes.count flow flowToo) : EndsAlike m (.done flow after) (.done flowToo other)
  | fault (l : Layout) (after other : Machine) (error : RuntimeError) (same : SameView l m after other) :
      EndsAlike m (.fault error after) (.fault error other)

theorem same_view (l : Layout) (m after other : Machine) (advance : Advance Layout.identical m m l after other) :
    SameView l m after other where
  host := advance.shows.host
  made := advance.shows.made
  current := advance.current
  currentToo := advance.currentToo
  place := advance.place
  origin := advance.origin
  padded := advance.shows.padded
  sees := fun scope opened name line => advance.shows.padded.get l _ _ scope opened name line

theorem ends_alike (m : Machine) (x y : Finish Machine RuntimeError Flow)
    (beside : Beside Layout.identical m m FlowAgreed x y) (ended : x ≠ .outOfFuel) : EndsAlike m x y := by
  cases beside with
  | done l after other flow flowToo advance agreed =>
    exact .done l after other flow flowToo (same_view l m after other advance) agreed
  | fault l after other error advance => exact .fault l after other error (same_view l m after other advance)
  | starved => exact (ended rfl).elim

theorem block_follows_loop (fuel : Nat) (initializer : Option Stmt) (condition increment : Option Expr) (body : Stmt)
    (m : Machine) (silent : body.declared = []) (sound : Sound m)
    (ended : forLoop fuel initializer condition increment body m ≠ .outOfFuel) :
    ∃ more, EndsAlike m (forLoop fuel initializer condition increment body m)
      (execute more (.forLoop initializer condition increment body) m) := by
  refine ⟨fuel + 7 + initializer.toList.length, ?_⟩
  have beside := blockLoop_unnoticed (fuel + 7 + initializer.toList.length) Layout.identical m m initializer condition
    increment body silent (shows_itself m sound)
  unfold Parallel at beside
  rcases loop_in_block fuel initializer condition increment body m with out | same
  · exact (ended out).elim
  · rw [same] at beside
    exact ends_alike m _ _ beside ended

theorem loop_follows_block (fuel : Nat) (initializer : Option Stmt) (condition increment : Option Expr) (body : Stmt)
    (m : Machine) (silent : body.declared = []) (sound : Sound m)
    (ended : execute fuel (.forLoop initializer condition increment body) m ≠ .outOfFuel) :
    EndsAlike m (forLoop fuel initializer condition increment body m)
      (execute fuel (.forLoop initializer condition increment body) m) := by
  have beside := blockLoop_unnoticed fuel Layout.identical m m initializer condition increment body silent
    (shows_itself m sound)
  unfold Parallel at beside
  have goesOn : blockLoop fuel initializer condition increment body m ≠ .outOfFuel :=
    fun out => ended ((starved_together _ m m _ _ _ beside).1 out)
  rcases block_in_loop fuel initializer condition increment body m with out | same
  · exact (goesOn out).elim
  · rw [← same] at beside goesOn
    exact ends_alike m _ _ beside goesOn

-- The statement that is read for a loop with clauses does what the loop itself does: when either ends, the
-- other ends alike, and no name that was declared on the way is bound in a scope that was there before.
theorem for_statement_is_loop (word : Token) (tokens : List Token) (stmt : Stmt) (m : Machine)
    (isFor : word.kind = .wordFor) (accepted : (Grammar.statement (word :: tokens)).phrase? = some stmt)
    (sound : Sound m) :
    ∃ clauses body, (Grammar.forClauses tokens).phrase? = some clauses ∧
      (Grammar.statement (Grammar.forClauses tokens).rest).phrase? = some body ∧
      (∀ fuel, forLoop fuel clauses.initializer clauses.condition clauses.increment body m ≠ .outOfFuel →
        ∃ more, EndsAlike m (forLoop fuel clauses.initializer clauses.condition clauses.increment body m)
          (execute more stmt m)) ∧
      (∀ fuel, execute fuel stmt m ≠ .outOfFuel →
        EndsAlike m (forLoop fuel clauses.initializer clauses.condition clauses.increment body m)
          (execute fuel stmt m)) ∧
      (∀ fuel, (execute fuel stmt m).Ends (fun _ after => SameNames m after) fun _ after => SameNames m after) := by
  obtain ⟨clauses, body, first, second, rfl⟩ := Grammar.for_parts word tokens stmt isFor accepted
  have silent := Grammar.statement_silent _ body second
  refine ⟨clauses, body, first, second, ?_, ?_, ?_⟩
  · intro fuel ended
    exact block_follows_loop fuel _ _ _ body m silent sound ended
  · intro fuel ended
    exact loop_follows_block fuel _ _ _ body m silent sound ended
  · intro fuel
    have outside : ∀ after, Tidy [] m after → SameNames m after := fun after tidy => same_names_of_tidy m after tidy
    exact ends_weaken _ _ _ _ _ (execute_tidy fuel _ m) (fun _ => outside) (fun _ => outside)

def countingTokens : List Token :=
  (scan "(var i = 0; i < 2; i = i + 1) \x7b fun now() \x7b return i; \x7d print now(); \x7d" 1).tokens

def countingLoop : Stmt := (Grammar.statement (.spelled .wordFor "for" 1 :: countingTokens)).phrase?.getD (.block [])

def countingMachine : Machine := withNatives { world := .ofSeed 0 }

theorem counting_loop_is_loop :
    (Grammar.statement (.spelled .wordFor "for" 1 :: countingTokens)).phrase? = some countingLoop ∧ Sound countingMachine ∧
    ∃ clauses body, (Grammar.forClauses countingTokens).phrase? = some clauses ∧
      (Grammar.statement (Grammar.forClauses countingTokens).rest).phrase? = some body ∧
      EndsAlike countingMachine
        (forLoop 40 clauses.initializer clauses.condition clauses.increment body countingMachine)
        (execute 40 countingLoop countingMachine) ∧
      ∃ after, execute 40 countingLoop countingMachine = .done .normal after ∧ after.host.takeOutput.1 = "0\n1\n" := by
  have accepted : (Grammar.statement (.spelled .wordFor "for" 1 :: countingTokens)).phrase? = some countingLoop := by
    have read : (Grammar.statement (.spelled .wordFor "for" 1 :: countingTokens)).phrase?.isSome = true := by decide +kernel
    obtain ⟨stmt, found⟩ := Option.isSome_iff_exists.1 read
    rw [countingLoop, found, Option.getD_some]
  have sound : Sound countingMachine := withNatives_sound _
  have printed : (match execute 40 countingLoop countingMachine with
      | .done .normal after => after.host.takeOutput.1 == "0\n1\n"
      | _ => false) = true := by decide +kernel
  obtain ⟨clauses, body, first, second, _, follows, _⟩ :=
    for_statement_is_loop (.spelled .wordFor "for" 1) countingTokens countingLoop countingMachine rfl accepted sound
  refine ⟨accepted, sound, clauses, body, first, second, ?_⟩
  have alike := follows 40
  generalize execute 40 countingLoop countingMachine = finish at printed alike
  cases finish with
  | done flow after =>
    cases flow with
    | normal => exact ⟨alike nofun, after, rfl, eq_of_beq printed⟩
    | returned value => cases printed
  | fault error after => cases printed
  | outOfFuel => cases printed

end StoryScript.Machine

import StoryScript.Proofs.Host.Truncation
import StoryScript.Proofs.Machine.Ends

set_option autoImplicit false

namespace StoryScript

inductive Request where
  | print (text : String)
  | native (target : Native) (args : List Value) (fuel : Nat)

def Request.answer : Request → NativeRun Value
  | .print text => Native.narrate text
  | .native target args fuel => target.call fuel args

structure Event where
  request : Request
  host : Host

def Event.finish (event : Event) : Finish Host NativeError Value := event.request.answer event.host

-- Nothing happens to a host between the events: each finds it as the one before has left it. An event that
-- does not come to an end is the last.
inductive Chain : Host → List Event → Option Host → Prop where
  | stays (host : Host) : Chain host [] (some host)
  | stuck (host : Host) : Chain host [] none
  | answered (request : Request) (host next : Host) (events : List Event) (final : Option Host)
      (ended : (Event.mk request host).finish.state? = some next) (rest : Chain next events final) :
      Chain host (⟨request, host⟩ :: events) final
  | unanswered (request : Request) (host : Host) (out : (Event.mk request host).finish.state? = none) :
      Chain host [⟨request, host⟩] none

theorem chain_append (host middle : Host) (first second : List Event) (final : Option Host)
    (former : Chain host first (some middle)) (latter : Chain middle second final) :
    Chain host (first ++ second) final := by
  generalize ends : some middle = until? at former
  induction former with
  | stays host =>
    cases ends
    exact latter
  | stuck host => cases ends
  | answered request host next events until? ended rest ih => exact .answered request host next _ final ended (ih ends)
  | unanswered request host out => cases ends

namespace Machine

variable {α β : Type}

-- A run, and a record of what it asks of its host up to its end, wherever that is. The record changes nothing in
-- the run.
def Logged (α : Type) : Type := Machine → List Event × Finish Machine RuntimeError α

namespace Logged

protected def pure (result : α) : Logged α := fun m => ([], .done result m)

protected def bind (logged : Logged α) (next : α → Logged β) : Logged β := fun m =>
  match logged m with
  | (events, .done result after) => (events ++ (next result after).1, (next result after).2)
  | (events, .fault error after) => (events, .fault error after)
  | (events, .outOfFuel) => (events, .outOfFuel)

instance : Monad Logged where
  pure := Logged.pure
  bind := Logged.bind

def quiet (run : MachineRun α) : Logged α := fun m => ([], run m)

def ask (line : Nat) (request : Request) : Logged Value := fun m =>
  ([⟨request, m.host⟩], onHost line request.answer m)

def within (parent : Nat) (logged : Logged α) : Logged α := fun m =>
  ((logged (m.nested parent)).1, endedAt m.current (logged (m.nested parent)).2)

end Logged

open Logged (quiet ask)

mutual

def logEvaluate : Nat → Expr → Logged Value
  | 0, _ => quiet Run.noFuel
  | fuel + 1, expr =>
    match expr with
    | .literal value => return .ofLiteral value
    | .grouping inner => logEvaluate fuel inner
    | .unary op operand line => do
      let value ← logEvaluate fuel operand
      quiet (settle line (op.apply value))
    | .binary left op right line => do
      let a ← logEvaluate fuel left
      let b ← logEvaluate fuel right
      quiet (settle line (op.apply a b))
    | .logical left op right => do
      let value ← logEvaluate fuel left
      if op.settledBy value then return value else logEvaluate fuel right
    | .reference ident => quiet (lookup ident)
    | .assign ident expr => do
      let value ← logEvaluate fuel expr
      quiet (assign ident value)
      return value
    | .call callee args line => do
      match ← logEvaluate fuel callee with
      | .callable target => do
        let values ← logEvaluateAll fuel args
        if values.length = target.arity then logCall fuel target values line
        else quiet (failAt line (.wrongCount target.arity values.length))
      | _ => quiet (failAt line .notCallable)

def logEvaluateAll : Nat → List Expr → Logged (List Value)
  | 0, _ => quiet Run.noFuel
  | _ + 1, [] => return []
  | fuel + 1, expr :: rest => do
    let value ← logEvaluate fuel expr
    let values ← logEvaluateAll fuel rest
    return value :: values

def logCall : Nat → Callable → List Value → Nat → Logged Value
  | 0, _, _, _ => quiet Run.noFuel
  | fuel + 1, callable, args, line =>
    match callable.target with
    | .native native => ask line (.native native args fuel)
    | .function declaration closure => do
      let flow ← Logged.within closure do
        quiet (bindAll (declaration.params.zip args))
        logExecuteAll fuel declaration.body
      match flow with
      | .normal => return .nil
      | .returned value => return value

def logExecute : Nat → Stmt → Logged Flow
  | 0, _ => quiet Run.noFuel
  | fuel + 1, stmt =>
    match stmt with
    | .expression expr => do
      let _ ← logEvaluate fuel expr
      return .normal
    | .print expr line => do
      let value ← logEvaluate fuel expr
      let _ ← ask line (.print value.text)
      return .normal
    | .var ident none => do
      quiet (define ident.name .nil)
      return .normal
    | .var ident (some expr) => do
      let value ← logEvaluate fuel expr
      quiet (define ident.name value)
      return .normal
    | .block body => fun m => Logged.within m.current (logExecuteAll fuel body) m
    | .ifThen condition thenBranch => do
      let value ← logEvaluate fuel condition
      if value.isTruthy then logExecute fuel thenBranch else return .normal
    | .ifElse condition thenBranch elseBranch => do
      let value ← logEvaluate fuel condition
      if value.isTruthy then logExecute fuel thenBranch else logExecute fuel elseBranch
    | .loop condition body => logRepeatWhile fuel condition body
    | .function ident params body =>
      quiet do
        let m ← Run.get
        Run.modify (declare ident.name (.function ⟨ident, params, body⟩ m.current))
        return .normal
    | .ret none _ => return .returned .nil
    | .ret (some expr) _ => do
      let value ← logEvaluate fuel expr
      return .returned value

def logExecuteAll : Nat → List Stmt → Logged Flow
  | 0, _ => quiet Run.noFuel
  | _ + 1, [] => return .normal
  | fuel + 1, stmt :: rest => do
    match ← logExecute fuel stmt with
    | .normal => logExecuteAll fuel rest
    | .returned value => return .returned value

def logRepeatWhile : Nat → Expr → Stmt → Logged Flow
  | 0, _, _ => quiet Run.noFuel
  | fuel + 1, condition, body => do
    let value ← logEvaluate fuel condition
    if value.isTruthy then
      match ← logExecute fuel body with
      | .normal => logRepeatWhile fuel condition body
      | .returned value => return .returned value
    else return .normal

end

def logProgram (fuel : Nat) : Program → Logged Unit
  | [] => return ()
  | stmt :: rest => do
    match ← logExecute fuel stmt with
    | .normal => logProgram fuel rest
    | .returned _ => return ()

-- A record that is erased leaves the run, and the events in it are all that happens to the host.
def Logs (logged : Logged α) (run : MachineRun α) : Prop :=
  ∀ m, (logged m).2 = run m ∧ Chain m.host (logged m).1 ((run m).state?.map Machine.host)

def LeavesHost (run : MachineRun α) : Prop := ∀ m after, (run m).state? = some after → after.host = m.host

theorem logs_quiet (run : MachineRun α) (leaves : LeavesHost run) : Logs (quiet run) run := by
  intro m
  refine ⟨rfl, ?_⟩
  cases ended : (run m).state? with
  | none => exact .stuck m.host
  | some after =>
    rw [Option.map_some, leaves m after ended]
    exact .stays m.host

theorem logs_pure (result : α) : Logs (pure result) (pure result) := fun m => ⟨rfl, .stays m.host⟩

theorem logs_noFuel : Logs (quiet (Run.noFuel : MachineRun α)) Run.noFuel := fun m => ⟨rfl, .stuck m.host⟩

theorem logs_bind (logged : Logged α) (run : MachineRun α) (more : α → Logged β) (next : α → MachineRun β)
    (first : Logs logged run) (second : ∀ value, Logs (more value) (next value)) :
    Logs (logged >>= more) (run >>= next) := by
  intro m
  obtain ⟨same, chain⟩ := first m
  change (Logged.bind logged more m).2 = Run.bind run next m ∧
    Chain m.host (Logged.bind logged more m).1 ((Run.bind run next m).state?.map Machine.host)
  unfold Logged.bind Run.bind
  rw [← same] at chain ⊢
  cases told : logged m with
  | mk events finish =>
    rw [told] at chain
    cases finish with
    | done value after =>
      obtain ⟨sameToo, rest⟩ := second value after
      exact ⟨sameToo, chain_append _ _ _ _ _ chain rest⟩
    | fault error after => exact ⟨rfl, chain⟩
    | outOfFuel => exact ⟨rfl, chain⟩

theorem logs_within (parent : Nat) (logged : Logged α) (run : MachineRun α) (logs : Logs logged run) :
    Logs (Logged.within parent logged) (within parent run) := by
  intro m
  obtain ⟨same, chain⟩ := logs (m.nested parent)
  rw [within_run, Logged.within, same]
  refine ⟨rfl, ?_⟩
  cases ended : run (m.nested parent) <;> rw [ended] at chain <;> exact chain

theorem logs_ask (line : Nat) (request : Request) : Logs (ask line request) (onHost line request.answer) := by
  rintro ⟨scopes, current, host, made⟩
  refine ⟨rfl, ?_⟩
  cases ended : request.answer host with
  | done value after =>
    simp only [ask, onHost, ended]
    exact .answered request host after [] _ (congrArg Finish.state? ended) (.stays after)
  | fault error after =>
    simp only [ask, onHost, ended]
    exact .answered request host after [] _ (congrArg Finish.state? ended) (.stays after)
  | outOfFuel =>
    simp only [ask, onHost, ended]
    exact .unanswered request host (congrArg Finish.state? ended)

theorem print_asked (line : Nat) (text : String) (next : MachineRun α) :
    (onHost line (Request.print text).answer >>= fun _ => next) = (printLine line text >>= fun _ => next) := by
  funext ⟨scopes, current, host, made⟩
  simp only [Request.answer, Native.narrate, printLine, onHost, Bind.bind, Run.bind]
  cases Run.mapFault NativeError.stream (Host.writeLine text) host <;> rfl

theorem leavesHost_settle (line : Nat) (settled : Except RuntimeFault α) : LeavesHost (settle line settled) := by
  intro m after ended
  cases settled <;> cases ended <;> rfl

theorem leavesHost_fail (line : Nat) (fault : RuntimeFault) : LeavesHost (failAt line fault : MachineRun α) := by
  intro m after ended
  cases ended
  rfl

theorem leavesHost_lookup (ident : Ident) : LeavesHost (lookup ident) := by
  intro m after ended
  unfold lookup at ended
  split at ended <;> cases ended <;> rfl

theorem leavesHost_assign (ident : Ident) (value : Value) : LeavesHost (assign ident value) := by
  intro m after ended
  unfold assign at ended
  split at ended <;> cases ended <;> rfl

theorem leavesHost_define (name : String) (value : Value) : LeavesHost (define name value) := by
  intro m after ended
  cases ended
  rfl

theorem leavesHost_bindAll (bindings : List (Ident × Value)) : LeavesHost (bindAll bindings) := by
  induction bindings with
  | nil =>
    intro m after ended
    cases ended
    rfl
  | cons binding rest ih =>
    intro m after ended
    exact ih { m with scopes := m.scopes.define m.current binding.1.name binding.2 } after ended

structure AllLog (fuel : Nat) : Prop where
  evaluate : ∀ expr, Logs (logEvaluate fuel expr) (evaluate fuel expr)
  evaluateAll : ∀ exprs, Logs (logEvaluateAll fuel exprs) (evaluateAll fuel exprs)
  call : ∀ callable args line, Logs (logCall fuel callable args line) (call fuel callable args line)
  execute : ∀ stmt, Logs (logExecute fuel stmt) (execute fuel stmt)
  executeAll : ∀ stmts, Logs (logExecuteAll fuel stmts) (executeAll fuel stmts)
  repeatWhile : ∀ condition body, Logs (logRepeatWhile fuel condition body) (repeatWhile fuel condition body)

theorem evaluate_logged (fuel : Nat) (ih : AllLog fuel) (expr : Expr) :
    Logs (logEvaluate (fuel + 1) expr) (evaluate (fuel + 1) expr) := by
  cases expr with
  | literal value => exact logs_pure _
  | grouping inner => exact ih.evaluate inner
  | unary op operand line =>
    exact logs_bind _ _ _ _ (ih.evaluate operand) fun _ => logs_quiet _ (leavesHost_settle line _)
  | binary left op right line =>
    refine logs_bind _ _ _ _ (ih.evaluate left) fun _ => ?_
    exact logs_bind _ _ _ _ (ih.evaluate right) fun _ => logs_quiet _ (leavesHost_settle line _)
  | logical left op right =>
    refine logs_bind _ _ _ _ (ih.evaluate left) fun value => ?_
    by_cases settled : op.settledBy value = true
    · rw [if_pos settled, if_pos settled]
      exact logs_pure value
    · rw [if_neg settled, if_neg settled]
      exact ih.evaluate right
  | reference ident => exact logs_quiet _ (leavesHost_lookup ident)
  | assign ident inner =>
    refine logs_bind _ _ _ _ (ih.evaluate inner) fun value => ?_
    exact logs_bind _ _ _ _ (logs_quiet _ (leavesHost_assign ident value)) fun _ => logs_pure value
  | call callee args line =>
    refine logs_bind _ _ _ _ (ih.evaluate callee) fun value => ?_
    cases value with
    | callable target =>
      refine logs_bind _ _ _ _ (ih.evaluateAll args) fun values => ?_
      by_cases counted : values.length = target.arity
      · rw [if_pos counted, if_pos counted]
        exact ih.call target values line
      · rw [if_neg counted, if_neg counted]
        exact logs_quiet _ (leavesHost_fail line _)
    | _ => exact logs_quiet _ (leavesHost_fail line _)

theorem evaluateAll_logged (fuel : Nat) (ih : AllLog fuel) (exprs : List Expr) :
    Logs (logEvaluateAll (fuel + 1) exprs) (evaluateAll (fuel + 1) exprs) := by
  cases exprs with
  | nil => exact logs_pure []
  | cons expr rest =>
    refine logs_bind _ _ _ _ (ih.evaluate expr) fun value => ?_
    exact logs_bind _ _ _ _ (ih.evaluateAll rest) fun values => logs_pure (value :: values)

theorem call_logged (fuel : Nat) (ih : AllLog fuel) (callable : Callable) (args : List Value) (line : Nat) :
    Logs (logCall (fuel + 1) callable args line) (call (fuel + 1) callable args line) := by
  obtain ⟨identity, target⟩ := callable
  cases target with
  | native native => exact logs_ask line (.native native args fuel)
  | function declaration closure =>
    refine logs_bind _ _ _ _ (logs_within closure _ _ ?_) fun flow => ?_
    · exact logs_bind _ _ _ _ (logs_quiet _ (leavesHost_bindAll _)) fun _ => ih.executeAll declaration.body
    · cases flow <;> exact logs_pure _

theorem execute_logged (fuel : Nat) (ih : AllLog fuel) (stmt : Stmt) :
    Logs (logExecute (fuel + 1) stmt) (execute (fuel + 1) stmt) := by
  cases stmt with
  | expression expr => exact logs_bind _ _ _ _ (ih.evaluate expr) fun _ => logs_pure Flow.normal
  | print expr line =>
    refine logs_bind _ _ _ _ (ih.evaluate expr) fun value => ?_
    rw [← print_asked]
    exact logs_bind _ _ _ _ (logs_ask line (.print value.text)) fun _ => logs_pure Flow.normal
  | var ident initializer =>
    cases initializer with
    | none => exact logs_bind _ _ _ _ (logs_quiet _ (leavesHost_define ident.name .nil)) fun _ => logs_pure Flow.normal
    | some expr =>
      refine logs_bind _ _ _ _ (ih.evaluate expr) fun value => ?_
      exact logs_bind _ _ _ _ (logs_quiet _ (leavesHost_define ident.name value)) fun _ => logs_pure Flow.normal
  | block body => exact fun m => logs_within m.current _ _ (ih.executeAll body) m
  | ifThen condition thenBranch =>
    refine logs_bind _ _ _ _ (ih.evaluate condition) fun value => ?_
    by_cases truthy : value.isTruthy = true
    · rw [if_pos truthy, if_pos truthy]
      exact ih.execute thenBranch
    · rw [if_neg truthy, if_neg truthy]
      exact logs_pure Flow.normal
  | ifElse condition thenBranch elseBranch =>
    refine logs_bind _ _ _ _ (ih.evaluate condition) fun value => ?_
    by_cases truthy : value.isTruthy = true
    · rw [if_pos truthy, if_pos truthy]
      exact ih.execute thenBranch
    · rw [if_neg truthy, if_neg truthy]
      exact ih.execute elseBranch
  | loop condition body => exact ih.repeatWhile condition body
  | function ident params body =>
    refine logs_quiet _ ?_
    intro m after ended
    cases ended
    rfl
  | ret value line =>
    cases value with
    | none => exact logs_pure _
    | some expr => exact logs_bind _ _ _ _ (ih.evaluate expr) fun value => logs_pure (Flow.returned value)

theorem executeAll_logged (fuel : Nat) (ih : AllLog fuel) (stmts : List Stmt) :
    Logs (logExecuteAll (fuel + 1) stmts) (executeAll (fuel + 1) stmts) := by
  cases stmts with
  | nil => exact logs_pure Flow.normal
  | cons stmt rest =>
    refine logs_bind _ _ _ _ (ih.execute stmt) fun flow => ?_
    cases flow with
    | normal => exact ih.executeAll rest
    | returned value => exact logs_pure (Flow.returned value)

theorem repeatWhile_logged (fuel : Nat) (ih : AllLog fuel) (condition : Expr) (body : Stmt) :
    Logs (logRepeatWhile (fuel + 1) condition body) (repeatWhile (fuel + 1) condition body) := by
  refine logs_bind _ _ _ _ (ih.evaluate condition) fun value => ?_
  by_cases truthy : value.isTruthy = true
  · rw [if_pos truthy, if_pos truthy]
    refine logs_bind _ _ _ _ (ih.execute body) fun flow => ?_
    cases flow with
    | normal => exact ih.repeatWhile condition body
    | returned value => exact logs_pure (Flow.returned value)
  · rw [if_neg truthy, if_neg truthy]
    exact logs_pure Flow.normal

theorem allLog (fuel : Nat) : AllLog fuel := by
  induction fuel with
  | zero => constructor <;> intros <;> exact logs_noFuel
  | succ fuel ih =>
    exact
      { evaluate := evaluate_logged fuel ih
        evaluateAll := evaluateAll_logged fuel ih
        call := call_logged fuel ih
        execute := execute_logged fuel ih
        executeAll := executeAll_logged fuel ih
        repeatWhile := repeatWhile_logged fuel ih }

theorem program_logged (fuel : Nat) (program : Program) : Logs (logProgram fuel program) (executeProgram fuel program) := by
  induction program with
  | nil => exact logs_pure ()
  | cons stmt rest ih =>
    refine logs_bind _ _ _ _ ((allLog fuel).execute stmt) fun flow => ?_
    cases flow with
    | normal => exact ih
    | returned value => exact logs_pure ()

end Machine

end StoryScript

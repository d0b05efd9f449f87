import StoryScript.Proofs.Machine.Requests
import StoryScript.Proofs.Native.Input
import StoryScript.Proofs.Session.Chunks
import StoryScript.Proofs.Session.StartLine

set_option autoImplicit false

namespace StoryScript

namespace Event

def isInput (event : Event) : Bool :=
  match event.request with
  | .native .input _ _ => true
  | _ => false

def refused (event : Event) : Bool :=
  match event.finish with
  | .fault error _ => error.refusal
  | _ => false

end Event

def inputs (events : List Event) : Nat := events.countP Event.isInput

-- An event after so many calls of input, when the input was cut into these lines at the start. It finds the
-- lines not taken yet. A call of input gives what the first of them says and leaves the others. Nothing else
-- touches them.
structure Event.Took (cut : List (List UInt8)) (taken : Nat) (event : Event) : Prop where
  found : event.host.input = (cut.drop taken).flatten
  input : event.isInput = true → ∃ result next, event.finish = Run.ofExcept result next ∧
    Native.Gives cut[taken]? result ∧ next.input = (cut.drop (taken + 1)).flatten
  other : event.isInput = false → ∀ next, event.finish.state? = some next → next.input = event.host.input

open Host

theorem state_ends {σ ε α : Type} (finish : Finish σ ε α) (holds : σ → Prop) (meets : ε → Prop) (state : σ)
    (ends : finish.Ends (fun _ after => holds after) fun error after => holds after ∧ meets error)
    (ended : finish.state? = some state) : holds state := by
  cases finish with
  | done result after =>
    cases ended
    exact ends
  | fault error after =>
    cases ended
    exact ends.1
  | outOfFuel => cases ended

theorem input_of_lines (host : Host) (rest : List (List UInt8)) (same : lines host.input = rest) :
    host.input = rest.flatten := by
  rw [← same, flatten_lines]

theorem event_unread (event : Event) (next : Host) (notInput : event.isInput = false)
    (ended : event.finish.state? = some next) : next.input = event.host.input := by
  obtain ⟨request, host⟩ := event
  refine state_ends _ (fun after => after.input = host.input) (fun _ => True) next ?_ ended
  cases request with
  | print text => exact (unread host.input).kept_narrate text host rfl
  | native target args fuel =>
    refine (unread host.input).kept_call fuel target args ?_ host rfl
    rintro rfl
    cases notInput

theorem input_event (event : Event) (isInput : event.isInput = true) (accepted : event.refused = false) :
    ∃ result next, event.finish = Run.ofExcept result next ∧ Native.Gives (lines event.host.input).head? result ∧
      lines next.input = (lines event.host.input).tail := by
  obtain ⟨request, host⟩ := event
  cases request with
  | print text => cases isInput
  | native target args fuel =>
    cases target with
    | input =>
      refine Native.readLine_gives host ?_
      intro error after failed
      have ended : (Event.mk (.native .input args fuel) host).finish = .fault error after := failed
      rw [Event.refused, ended] at accepted
      exact accepted
    | _ => cases isInput

theorem event_took (cut : List (List UInt8)) (taken : Nat) (event : Event) (accepted : event.refused = false)
    (found : lines event.host.input = cut.drop taken) :
    event.Took cut taken ∧
      ∀ next, event.finish.state? = some next → lines next.input = cut.drop (taken + inputs [event]) := by
  have before := input_of_lines event.host _ found
  cases isInput : event.isInput with
  | true =>
    obtain ⟨result, next, ended, gives, rest⟩ := input_event event isInput accepted
    rw [found, List.head?_drop] at gives
    rw [found, List.tail_drop] at rest
    refine ⟨⟨before, fun _ => ⟨result, next, ended, gives, input_of_lines next _ rest⟩, ?_⟩, ?_⟩
    · intro notInput
      rw [isInput] at notInput
      cases notInput
    · intro last left
      have same : last = next := by
        rw [ended] at left
        cases result <;> cases left <;> rfl
      rw [same, inputs, List.countP_singleton, isInput]
      exact rest
  | false =>
    refine ⟨⟨before, ?_, fun _ next ended => event_unread event next isInput ended⟩, ?_⟩
    · intro reads
      rw [isInput] at reads
      cases reads
    · intro next ended
      rw [event_unread event next isInput ended, inputs, List.countP_singleton, isInput]
      exact found

theorem inputs_cons (event : Event) (more : List Event) : inputs (event :: more) = inputs [event] + inputs more := by
  rw [inputs, inputs, inputs, ← List.countP_append]
  rfl

theorem took_cons (cut : List (List UInt8)) (taken : Nat) (first : Event) (rest : List Event) (took : first.Took cut taken)
    (others : ∀ before event after, rest = before ++ event :: after →
      event.Took cut (taken + inputs [first] + inputs before))
    (before : List Event) (event : Event) (after : List Event) (split : first :: rest = before ++ event :: after) :
    event.Took cut (taken + inputs before) := by
  cases before with
  | nil =>
    obtain ⟨rfl, rfl⟩ := List.cons.inj split
    exact took
  | cons earlier before =>
    obtain ⟨rfl, same⟩ := List.cons.inj split
    rw [inputs_cons, ← Nat.add_assoc]
    exact others before event after same

theorem chain_took (cut : List (List UInt8)) (host : Host) (events : List Event) (final : Option Host)
    (chain : Chain host events final) (accepted : ∀ event ∈ events, event.refused = false) (taken : Nat)
    (found : lines host.input = cut.drop taken) :
    (∀ before event after, events = before ++ event :: after → event.Took cut (taken + inputs before)) ∧
      ∀ last, final = some last → lines last.input = cut.drop (taken + inputs events) := by
  have nothing : ∀ (later : Nat) (before : List Event) (event : Event) (after : List Event),
      [] = before ++ event :: after → event.Took cut (later + inputs before) := by
    intro later before event after split
    simp at split
  induction chain generalizing taken with
  | stays host =>
    refine ⟨nothing taken, ?_⟩
    rintro last ⟨⟩
    exact found
  | stuck host =>
    refine ⟨nothing taken, ?_⟩
    rintro last ⟨⟩
  | answered request host next events final ended rest ih =>
    obtain ⟨acceptedFirst, acceptedRest⟩ := List.forall_mem_cons.1 accepted
    obtain ⟨took, left⟩ := event_took cut taken ⟨request, host⟩ acceptedFirst found
    obtain ⟨tookRest, leftRest⟩ := ih acceptedRest _ (left next ended)
    refine ⟨took_cons cut taken _ _ took tookRest, ?_⟩
    rw [inputs_cons, ← Nat.add_assoc]
    exact leftRest
  | unanswered request host out =>
    obtain ⟨took, _⟩ := event_took cut taken ⟨request, host⟩ (accepted _ List.mem_cons_self) found
    refine ⟨took_cons cut taken _ _ took (nothing _), ?_⟩
    rintro last ⟨⟩

theorem chain_unhindered (host : Host) (events : List Event) (final : Option Host) (chain : Chain host events final)
    (free : unhindered.holds host) : ∀ event ∈ events, event.refused = false := by
  have answered : ∀ request host, unhindered.holds host → (Event.mk request host).refused = false ∧
      ∀ next, (Event.mk request host).finish.state? = some next → unhindered.holds next := by
    intro request host free
    have ends : (Event.mk request host).finish.Ends (fun _ after => unhindered.holds after)
        fun error after => unhindered.holds after ∧ unhindered.meets error := by
      cases request with
      | print text => exact unhindered.kept_narrate text host free
      | native target args fuel => exact Native.call_unhindered fuel target args host free
    refine ⟨?_, fun next ended => state_ends _ _ _ next ends ended⟩
    unfold Event.refused
    cases ended : (Event.mk request host).finish with
    | fault error after =>
      rw [ended] at ends
      exact ends.2
    | _ => rfl
  induction chain with
  | stays host => exact List.forall_mem_nil _
  | stuck host => exact List.forall_mem_nil _
  | answered request host next events final ended rest ih =>
    exact List.forall_mem_cons.2 ⟨(answered request host free).1, ih ((answered request host free).2 next ended)⟩
  | unanswered request host out => exact List.forall_mem_singleton.2 (answered request host free).1

namespace Session

def logAt (fuel : Nat) (session : Session) (text : String) (startLine : Nat) : List Event :=
  if (parse text startLine).allDiagnostics.isEmpty then
    (Machine.logProgram fuel (parse text startLine).program session).1
  else []

def logChunks (fuel : Nat) (session : Session) : List (String × Nat) → List Event
  | [] => []
  | (text, startLine) :: rest =>
    match runAt fuel session text startLine with
    | none => logAt fuel session text startLine
    | some (_, after) => logAt fuel session text startLine ++ logChunks fuel after rest

def left (session : Session) (results : List (Outcome × Session)) : Session :=
  (results.getLast?.map Prod.snd).getD session

theorem runAt_logged (fuel : Nat) (session : Session) (text : String) (startLine : Nat) :
    Chain session.host (logAt fuel session text startLine)
      ((runAt fuel session text startLine).map fun result => result.2.host) := by
  unfold logAt runAt
  dsimp only
  by_cases clean : (parse text startLine).allDiagnostics.isEmpty = true
  · rw [if_pos clean, if_pos clean]
    obtain ⟨_, chain⟩ := Machine.program_logged fuel (parse text startLine).program session
    unfold Machine.interpret
    cases ended : Machine.executeProgram fuel (parse text startLine).program session <;> rw [ended] at chain <;> exact chain
  · rw [if_neg clean, if_neg clean]
    exact .stays session.host

theorem left_cons (session after : Session) (outcome : Outcome) (results : List (Outcome × Session)) :
    left session ((outcome, after) :: results) = left after results := by
  unfold left
  cases results with
  | nil => rfl
  | cons result rest => rw [List.getLast?_cons_cons, List.getLast?_cons, Option.map_some]; rfl

theorem chunks_logged (fuel : Nat) (session : Session) (chunks : List (String × Nat)) :
    Chain session.host (logChunks fuel session chunks)
      ((runChunks fuel session chunks).map fun results => (left session results).host) := by
  induction chunks generalizing session with
  | nil => exact .stays session.host
  | cons chunk rest ih =>
    obtain ⟨text, startLine⟩ := chunk
    have chain := runAt_logged fuel session text startLine
    unfold logChunks runChunks
    cases ran : runAt fuel session text startLine with
    | none =>
      rw [ran] at chain
      exact chain
    | some result =>
      obtain ⟨outcome, after⟩ := result
      rw [ran] at chain
      have goesOn := chain_append _ _ _ _ _ chain (ih after)
      dsimp only
      rw [Option.map_map]
      have same : ((fun results => (left session results).host) ∘ fun results => (outcome, after) :: results) =
          fun results => (left after results).host := by
        funext results
        exact congrArg Machine.host (left_cons session after outcome results)
      rw [same]
      exact goesOn

-- Input is read line by line. Whatever chunks a session runs, and however far they come, all that they ask of the
-- host is recorded, and as long as the sink takes what is written each call of input uses up the next line and
-- says what is in it, and nothing else reads.
theorem input_reads_line_by_line (fuel : Nat) (session : Session) (chunks : List (String × Nat))
    (accepted : ∀ event ∈ logChunks fuel session chunks, event.refused = false) :
    Chain session.host (logChunks fuel session chunks)
      ((runChunks fuel session chunks).map fun results => (left session results).host) ∧
    (∀ before event after, logChunks fuel session chunks = before ++ event :: after →
      event.Took (lines session.host.input) (inputs before)) ∧
    ∀ results, runChunks fuel session chunks = some results → (left session results).host.input =
      ((lines session.host.input).drop (inputs (logChunks fuel session chunks))).flatten := by
  have chain := chunks_logged fuel session chunks
  obtain ⟨took, leaves⟩ := chain_took (lines session.host.input) _ _ _ chain accepted 0 rfl
  simp only [Nat.zero_add] at took leaves
  refine ⟨chain, took, ?_⟩
  intro results ran
  exact input_of_lines _ _ (leaves _ (by rw [ran, Option.map_some]))

def spoiledInput : Host := { world := .ofSeed 0, input := [107, 13, 13, 10, 255, 10, 108, 97] }

def questions : List (String × Nat) :=
  [("var ask = input; print ask();", 1), ("input(); print 1;", 2), ("print input(); print input();", 3)]

-- The second call fails, and its line is gone all the same.
theorem spoiled_line_is_used_up :
    (∀ event ∈ logChunks 20 (start spoiledInput) questions, event.refused = false) ∧
    inputs (logChunks 20 (start spoiledInput) questions) = 4 ∧
    (∃ before event after next, logChunks 20 (start spoiledInput) questions = before ++ event :: after ∧
      event.host.input = [255, 10, 108, 97] ∧ event.finish = .fault (.stream .notUtf8) next ∧ next.input = [108, 97]) ∧
    ∃ results, runChunks 20 (start spoiledInput) questions = some results ∧
      (left (start spoiledInput) results).host.input = [] := by
  have cut : lines (start spoiledInput).host.input = [[107, 13, 13, 10], [255, 10], [108, 97]] := by decide +kernel
  have accepted : ∀ event ∈ logChunks 20 (start spoiledInput) questions, event.refused = false :=
    chain_unhindered _ _ _ (chunks_logged 20 (start spoiledInput) questions) ⟨rfl, rfl⟩
  have counted : inputs (logChunks 20 (start spoiledInput) questions) = 4 := by decide +kernel
  have askedToo : (logChunks 20 (start spoiledInput) questions)[2]?.map Event.isInput = some true := by decide +kernel
  obtain ⟨event, place, asked⟩ := Option.map_eq_some_iff.1 askedToo
  obtain ⟨third, isThird⟩ := List.getElem?_eq_some_iff.1 place
  have earlier : inputs ((logChunks 20 (start spoiledInput) questions).take 2) = 1 := by decide +kernel
  have ended : (runChunks 20 (start spoiledInput) questions).isSome = true := by decide +kernel
  obtain ⟨_, took, empty⟩ := input_reads_line_by_line 20 (start spoiledInput) questions accepted
  have split : logChunks 20 (start spoiledInput) questions = (logChunks 20 (start spoiledInput) questions).take 2 ++
      event :: (logChunks 20 (start spoiledInput) questions).drop 3 := by
    rw [← isThird, ← List.drop_eq_getElem_cons third, List.take_append_drop]
  have second := took _ _ _ split
  rw [cut, earlier] at second
  obtain ⟨result, next, failed, gives, left⟩ := second.input asked
  refine ⟨accepted, counted, ⟨_, _, _, next, split, second.found, ?_, left⟩, ?_⟩
  · cases gives with
    | text line text bare valid stripped =>
      have broken : Text.Utf8.decode? [255, 10] = none := by decide +kernel
      rw [broken] at valid
      cases valid
    | invalid line broken => exact failed
  · obtain ⟨results, ran⟩ := Option.isSome_iff_exists.1 ended
    refine ⟨results, ran, ?_⟩
    rw [empty results ran, cut, counted]
    rfl

end Session

end StoryScript

import StoryScript.Proofs.Grammar.Texts
import StoryScript.Proofs.Machine.Fuel
import StoryScript.Proofs.Machine.Returns
import StoryScript.Proofs.Machine.ScopeDiscipline

set_option autoImplicit false

namespace StoryScript

namespace Machine

theorem executeProgram_current (fuel : Nat) (program : Program) (m : Machine) :
    (executeProgram fuel program m).Ends (fun _ after => after.current = m.current)
      (fun _ after => after.current = m.current) := by
  induction program generalizing m with
  | nil => rfl
  | cons stmt rest ih =>
    refine (ends_bind _ _ m _ _).2 (ends_weaken _ _ _ _ _ (execute_tidy fuel stmt m) ?_ ?_)
    · intro flow after tidy
      cases flow with
      | normal =>
        have goesOn := ih after
        rw [tidy.current] at goesOn
        exact goesOn
      | returned value => exact tidy.current
    · intro error after tidy
      exact tidy.current

theorem interpret_idle (fuel : Nat) (program : Program) (m : Machine) (idle : m.current = globals) :
    interpret fuel program m = executeProgram fuel program m := by
  have back : ∀ after : Machine, after.current = m.current → after.atGlobals = after := by
    rintro ⟨scopes, current, host, made⟩ rfl
    unfold atGlobals
    rw [← idle]
  have ends := executeProgram_current fuel program m
  unfold interpret
  cases ended : executeProgram fuel program m with
  | done result after =>
    rw [ended] at ends
    exact congrArg (Finish.done result) (back after ends)
  | fault error after =>
    rw [ended] at ends
    exact congrArg (Finish.fault error) (back after ends)
  | outOfFuel => rfl

def report : Finish Machine RuntimeError Unit → Option (Outcome × Machine)
  | .done _ after => some (.ok, after)
  | .fault error after => some (.failed error, after)
  | .outOfFuel => none

theorem report_ok (finish : Finish Machine RuntimeError Unit) (after : Machine) :
    report finish = some (.ok, after) ↔ finish = .done () after := by
  cases finish <;> simp [report]

theorem report_failed (finish : Finish Machine RuntimeError Unit) (error : RuntimeError) (after : Machine) :
    report finish = some (.failed error, after) ↔ finish = .fault error after := by
  cases finish <;> simp [report]

def Finishes (program : Program) (m : Machine) (outcome : Outcome) (after : Machine) : Prop :=
  ∃ fuel, report (executeProgram fuel program m) = some (outcome, after)

theorem report_fuel (fuel more : Nat) (enough : fuel ≤ more) (program : Program) (m : Machine)
    (result : Outcome × Machine) (ended : report (executeProgram fuel program m) = some result) :
    report (executeProgram more program m) = some result := by
  rcases executeProgram_fuel fuel more program enough m with out | same
  · rw [out] at ended
    cases ended
  · rw [same]
    exact ended

theorem finishes_current (program : Program) (m : Machine) (outcome : Outcome) (after : Machine)
    (finishes : Finishes program m outcome after) : after.current = m.current := by
  obtain ⟨fuel, ended⟩ := finishes
  have ends := executeProgram_current fuel program m
  cases ran : executeProgram fuel program m <;> rw [ran] at ended ends <;> cases ended <;> exact ends

theorem finishes_split (first second : Program) (placed : Stmt.strayReturnsAll 0 first = []) (m : Machine)
    (outcome : Outcome) (after : Machine) (finishes : Finishes (first ++ second) m outcome after) :
    (∃ error, outcome = .failed error ∧ Finishes first m (.failed error) after) ∨
      ∃ middle, Finishes first m .ok middle ∧ Finishes second middle outcome after := by
  obtain ⟨fuel, ended⟩ := finishes
  rw [executeProgram_append fuel first second placed m, Run.bind] at ended
  cases half : executeProgram fuel first m with
  | done result middle =>
    rw [half] at ended
    exact Or.inr ⟨middle, ⟨fuel, (report_ok ..).2 half⟩, ⟨fuel, ended⟩⟩
  | fault error middle =>
    rw [half] at ended
    cases ended
    exact Or.inl ⟨error, rfl, ⟨fuel, (report_failed ..).2 half⟩⟩
  | outOfFuel =>
    rw [half] at ended
    cases ended

theorem finishes_failed (first second : Program) (placed : Stmt.strayReturnsAll 0 first = []) (m : Machine)
    (error : RuntimeError) (after : Machine) (failed : Finishes first m (.failed error) after) :
    Finishes (first ++ second) m (.failed error) after := by
  obtain ⟨fuel, ended⟩ := failed
  have half := (report_failed ..).1 ended
  refine ⟨fuel, ?_⟩
  rw [executeProgram_append fuel first second placed m, Run.bind, half]
  rfl

-- The two halves may have used different fuel; the greater is enough for both.
theorem finishes_join (first second : Program) (placed : Stmt.strayReturnsAll 0 first = []) (m middle : Machine)
    (outcome : Outcome) (after : Machine) (done : Finishes first m .ok middle)
    (goesOn : Finishes second middle outcome after) : Finishes (first ++ second) m outcome after := by
  obtain ⟨fuel, ended⟩ := done
  obtain ⟨more, endedMore⟩ := goesOn
  have half := (report_ok ..).1 (report_fuel fuel (max fuel more) (Nat.le_max_left ..) first m _ ended)
  have whole := report_fuel more (max fuel more) (Nat.le_max_right ..) second middle _ endedMore
  refine ⟨max fuel more, ?_⟩
  rw [executeProgram_append _ first second placed m, Run.bind, half]
  exact whole

theorem finishes_append (first second : Program) (placed : Stmt.strayReturnsAll 0 first = []) (m : Machine)
    (outcome : Outcome) (after : Machine) :
    Finishes (first ++ second) m outcome after ↔
      (∃ error, outcome = .failed error ∧ Finishes first m (.failed error) after) ∨
        ∃ middle, Finishes first m .ok middle ∧ Finishes second middle outcome after := by
  constructor
  · exact finishes_split first second placed m outcome after
  · rintro (⟨error, rfl, failed⟩ | ⟨middle, done, goesOn⟩)
    · exact finishes_failed first second placed m error after failed
    · exact finishes_join first second placed m middle outcome after done goesOn

end Machine

namespace Session

open Grammar

-- The sessions there can be: new ones, those that have run a chunk, and those that have been served
-- by their host since, which may take output away or bring input.
inductive Reached : Session → Prop where
  | start (host : Host) : Reached (start host)
  | ran (fuel : Nat) (session : Session) (text : String) (startLine : Nat) (outcome : Outcome) (after : Session)
      (reached : Reached session) (ended : runAt fuel session text startLine = some (outcome, after)) : Reached after
  | served (session : Session) (host : Host) (reached : Reached session) : Reached { session with host }

theorem runAt_idle (fuel : Nat) (session : Session) (text : String) (startLine : Nat) (outcome : Outcome)
    (after : Session) (idle : session.current = Machine.globals)
    (ended : runAt fuel session text startLine = some (outcome, after)) : after.current = Machine.globals := by
  unfold runAt Machine.interpret at ended
  dsimp only at ended
  split at ended
  · cases ran : Machine.executeProgram fuel (parse text startLine).program session with
    | done result after' =>
      rw [ran] at ended
      cases ended
      rfl
    | fault error after' =>
      rw [ran] at ended
      cases ended
      rfl
    | outOfFuel =>
      rw [ran] at ended
      cases ended
  · cases ended
    exact idle

theorem idle_of_reached (session : Session) (reached : Reached session) : session.current = Machine.globals := by
  induction reached with
  | start host => rfl
  | ran fuel session text startLine outcome after _ ended ih =>
    exact runAt_idle fuel session text startLine outcome after ih ended
  | served session host _ ih => exact ih

theorem runAt_clean (fuel : Nat) (session : Session) (text : String) (startLine : Nat)
    (idle : session.current = Machine.globals) (clean : (parse text startLine).allDiagnostics = []) :
    runAt fuel session text startLine = Machine.report (Machine.executeProgram fuel (parse text startLine).program session) := by
  have interpreted := Machine.interpret_idle fuel (parse text startLine).program session idle
  cases ran : Machine.executeProgram fuel (parse text startLine).program session <;>
    simp [runAt, clean, interpreted, ran, Machine.report]

theorem runAt_iff (session : Session) (text : String) (startLine : Nat) (idle : session.current = Machine.globals)
    (clean : (parse text startLine).allDiagnostics = []) (outcome : Outcome) (after : Session) :
    (∃ fuel, runAt fuel session text startLine = some (outcome, after)) ↔
      Machine.Finishes (parse text startLine).program session outcome after := by
  unfold Machine.Finishes
  simp only [runAt_clean _ session text startLine idle clean]

-- Two chunks with nothing wrong in them may as well be run as one, with a line end between them.
theorem chunks_run_as_one (session : Session) (reached : Reached session) (startLine : Nat) (first second : String)
    (firstClean : (parse first startLine).allDiagnostics = [])
    (secondClean : (parse second (lineAfter startLine first)).allDiagnostics = []) (outcome : Outcome)
    (after : Session) :
    (∃ fuel, runAt fuel session (first ++ "\n" ++ second) startLine = some (outcome, after)) ↔
      (∃ fuel error, outcome = .failed error ∧ runAt fuel session first startLine = some (.failed error, after)) ∨
        ∃ fuel middle, runAt fuel session first startLine = some (.ok, middle) ∧
          ∃ more, runAt more middle second (lineAfter startLine first) = some (outcome, after) := by
  have idle := idle_of_reached session reached
  obtain ⟨read, placed⟩ := (allDiagnostics_clean _).1 firstClean
  obtain ⟨readMore, _⟩ := (allDiagnostics_clean _).1 secondClean
  have program := (parse_break first second startLine read readMore).2
  have clean := allDiagnostics_break first second startLine firstClean secondClean
  rw [runAt_iff session _ startLine idle clean, program, Machine.finishes_append _ _ placed]
  constructor
  · rintro (⟨error, rfl, failed⟩ | ⟨middle, done, goesOn⟩)
    · obtain ⟨fuel, ran⟩ := (runAt_iff session first startLine idle firstClean ..).2 failed
      exact Or.inl ⟨fuel, error, rfl, ran⟩
    · obtain ⟨fuel, ran⟩ := (runAt_iff session first startLine idle firstClean ..).2 done
      have still := (Machine.finishes_current _ session .ok middle done).trans idle
      exact Or.inr ⟨fuel, middle, ran, (runAt_iff middle second _ still secondClean ..).2 goesOn⟩
  · rintro (⟨fuel, error, rfl, ran⟩ | ⟨fuel, middle, ran, goesOn⟩)
    · exact Or.inl ⟨error, rfl, (runAt_iff session first startLine idle firstClean ..).1 ⟨fuel, ran⟩⟩
    · have done := (runAt_iff session first startLine idle firstClean ..).1 ⟨fuel, ran⟩
      have still := (Machine.finishes_current _ session .ok middle done).trans idle
      exact Or.inr ⟨middle, done, (runAt_iff middle second _ still secondClean ..).1 goesOn⟩

def runBoth (fuel : Nat) (first second : String × Nat) : Option (Session × RuntimeError × Session) :=
  match runAt fuel (start { world := .ofSeed 0 }) first.1 first.2 with
  | some (.ok, middle) =>
    match runAt fuel middle second.1 second.2 with
    | some (.failed error, after) => some (middle, error, after)
    | _ => none
  | _ => none

theorem runBoth_some (fuel : Nat) (first second : String × Nat) (middle after : Session) (error : RuntimeError)
    (ran : runBoth fuel first second = some (middle, error, after)) :
    runAt fuel (start { world := .ofSeed 0 }) first.1 first.2 = some (.ok, middle) ∧
      runAt fuel middle second.1 second.2 = some (.failed error, after) := by
  unfold runBoth at ran
  split at ran
  · rename_i middle' ranFirst
    split at ran
    · rename_i error' after' ranSecond
      cases ran
      exact ⟨ranFirst, ranSecond⟩
    · cases ran
  · cases ran

-- A function of the first chunk is called in the second, which fails on its second line: the fourth of both.
theorem doubling_in_two_chunks :
    Reached (start { world := .ofSeed 0 }) ∧
    (parse "var count = 1;\nfun twice(n) \x7b return n + n; \x7d" 1).allDiagnostics = [] ∧
    (parse "print twice(count);\nprint missing;" 3).allDiagnostics = [] ∧
    ∃ fuel error after, runAt fuel (start { world := .ofSeed 0 })
        "var count = 1;\nfun twice(n) \x7b return n + n; \x7d\nprint twice(count);\nprint missing;" 1 =
          some (.failed error, after) ∧
      error.text = "[line 4] Runtime error: Undefined variable 'missing'." ∧ (takeOutput after).1 = "2\n" := by
  have reached := Reached.start { world := .ofSeed 0 }
  have firstClean : (parse "var count = 1;\nfun twice(n) \x7b return n + n; \x7d" 1).allDiagnostics = [] := by
    decide +kernel
  have secondClean : (parse "print twice(count);\nprint missing;" 3).allDiagnostics = [] := by decide +kernel
  have joined : "var count = 1;\nfun twice(n) \x7b return n + n; \x7d\nprint twice(count);\nprint missing;" =
      "var count = 1;\nfun twice(n) \x7b return n + n; \x7d" ++ "\n" ++ "print twice(count);\nprint missing;" := by
    decide +kernel
  have seen : (runBoth 20 ("var count = 1;\nfun twice(n) \x7b return n + n; \x7d", 1)
      ("print twice(count);\nprint missing;", 3)).map (fun ran => (ran.2.1.text, (takeOutput ran.2.2).1)) =
        some ("[line 4] Runtime error: Undefined variable 'missing'.", "2\n") := by decide +kernel
  obtain ⟨⟨middle, error, after⟩, ran, same⟩ := Option.map_eq_some_iff.1 seen
  obtain ⟨told, printed⟩ := Prod.mk.inj same
  obtain ⟨ranFirst, ranSecond⟩ := runBoth_some 20 _ _ middle after error ran
  obtain ⟨fuel, whole⟩ := (chunks_run_as_one _ reached 1 _ _ firstClean secondClean (.failed error) after).2
    (Or.inr ⟨20, middle, ranFirst, 20, ranSecond⟩)
  rw [joined]
  exact ⟨reached, firstClean, secondClean, fuel, error, after, whole, told, printed⟩

end Session

end StoryScript

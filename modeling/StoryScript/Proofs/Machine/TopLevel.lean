import StoryScript.Proofs.Machine.Returns
import StoryScript.Grammar.Parser

set_option autoImplicit false

namespace StoryScript

theorem strayReturnsAll_mem (program : Program) (placed : Stmt.strayReturnsAll 0 program = []) (stmt : Stmt)
    (member : stmt ∈ program) : stmt.strayReturns 0 = [] := by
  induction program with
  | nil => cases member
  | cons first rest ih =>
    rw [Stmt.strayReturnsAll, List.append_eq_nil_iff] at placed
    rcases List.mem_cons.1 member with rfl | later
    · exact placed.1
    · exact ih placed.2 later

theorem returnDiagnostics_clean (program : Program) :
    program.returnDiagnostics = [] ↔ Stmt.strayReturnsAll 0 program = [] := by
  rw [returnDiagnostics_lines]
  exact List.map_eq_nil_iff

namespace Machine

-- The statements are executed one after another, every one of them, and each ends normally.
inductive Passes (fuel : Nat) : Program → Machine → Machine → Prop where
  | nil (m : Machine) : Passes fuel [] m m
  | cons (stmt : Stmt) (rest : Program) (m middle after : Machine)
      (first : execute fuel stmt m = .done .normal middle) (others : Passes fuel rest middle after) :
      Passes fuel (stmt :: rest) m after

theorem executeProgram_normal (fuel : Nat) (stmt : Stmt) (rest : Program) (m middle : Machine)
    (ended : execute fuel stmt m = .done .normal middle) :
    executeProgram fuel (stmt :: rest) m = executeProgram fuel rest middle := by
  change Run.bind (execute fuel stmt) _ m = _
  rw [Run.bind, ended]

theorem executeProgram_fault (fuel : Nat) (stmt : Stmt) (rest : Program) (m after : Machine) (error : RuntimeError)
    (ended : execute fuel stmt m = .fault error after) :
    executeProgram fuel (stmt :: rest) m = .fault error after := by
  change Run.bind (execute fuel stmt) _ m = _
  rw [Run.bind, ended]

theorem executeProgram_starved (fuel : Nat) (stmt : Stmt) (rest : Program) (m : Machine)
    (ended : execute fuel stmt m = .outOfFuel) : executeProgram fuel (stmt :: rest) m = .outOfFuel := by
  change Run.bind (execute fuel stmt) _ m = _
  rw [Run.bind, ended]

theorem executeProgram_passes (fuel : Nat) (program rest : Program) (m after : Machine)
    (passes : Passes fuel program m after) : executeProgram fuel (program ++ rest) m = executeProgram fuel rest after := by
  induction passes with
  | nil m => rfl
  | cons stmt others m middle after first _ ih =>
    rw [List.cons_append, executeProgram_normal fuel stmt _ m middle first, ih]

theorem passes_of_done (fuel : Nat) (program : Program) (placed : Stmt.strayReturnsAll 0 program = []) (m after : Machine)
    (ended : executeProgram fuel program m = .done () after) : Passes fuel program m after := by
  induction program generalizing m with
  | nil =>
    cases ended
    exact .nil after
  | cons stmt rest ih =>
    rw [Stmt.strayReturnsAll, List.append_eq_nil_iff] at placed
    cases first : execute fuel stmt m with
    | done flow middle =>
      have normal := execute_returns_never fuel stmt m middle flow placed.1 first
      subst normal
      rw [executeProgram_normal fuel stmt rest m middle first] at ended
      exact .cons stmt rest m middle after first (ih placed.2 middle ended)
    | fault error middle =>
      rw [executeProgram_fault fuel stmt rest m middle error first] at ended
      cases ended
    | outOfFuel =>
      rw [executeProgram_starved fuel stmt rest m first] at ended
      cases ended

theorem passes_of_fault (fuel : Nat) (program : Program) (placed : Stmt.strayReturnsAll 0 program = []) (m after : Machine)
    (error : RuntimeError) (ended : executeProgram fuel program m = .fault error after) :
    ∃ before stmt rest middle, program = before ++ stmt :: rest ∧ Passes fuel before m middle ∧
      execute fuel stmt middle = .fault error after := by
  induction program generalizing m with
  | nil => cases ended
  | cons stmt rest ih =>
    rw [Stmt.strayReturnsAll, List.append_eq_nil_iff] at placed
    cases first : execute fuel stmt m with
    | done flow middle =>
      have normal := execute_returns_never fuel stmt m middle flow placed.1 first
      subst normal
      rw [executeProgram_normal fuel stmt rest m middle first] at ended
      obtain ⟨before, failing, unread, last, same, passes, failed⟩ := ih placed.2 middle ended
      refine ⟨stmt :: before, failing, unread, last, ?_, ?_, failed⟩
      · rw [same, List.cons_append]
      · exact .cons stmt before m middle last first passes
    | fault error' middle =>
      rw [executeProgram_fault fuel stmt rest m middle error' first] at ended
      cases ended
      exact ⟨[], stmt, rest, m, rfl, .nil m, first⟩
    | outOfFuel =>
      rw [executeProgram_starved fuel stmt rest m first] at ended
      cases ended

theorem interpret_done (fuel : Nat) (program : Program) (m after : Machine) :
    interpret fuel program m = .done () after ↔
      ∃ last, executeProgram fuel program m = .done () last ∧ after = last.atGlobals := by
  unfold interpret
  cases executeProgram fuel program m <;> simp [eq_comm]

theorem interpret_fault (fuel : Nat) (program : Program) (m after : Machine) (error : RuntimeError) :
    interpret fuel program m = .fault error after ↔
      ∃ last, executeProgram fuel program m = .fault error last ∧ after = last.atGlobals := by
  unfold interpret
  cases executeProgram fuel program m <;> simp [and_assoc, eq_comm]

-- A program without stray returns is done exactly when every statement of it has been executed in
-- order, and at fault exactly when one of them is after those before it have been.
theorem checked_program_runs_through (program : Program) (checked : program.returnDiagnostics = []) :
    (∀ stmt ∈ program, ∀ fuel m value after, execute fuel stmt m ≠ .done (.returned value) after) ∧
    (∀ fuel m after, interpret fuel program m = .done () after ↔
      ∃ last, Passes fuel program m last ∧ after = last.atGlobals) ∧
    (∀ fuel m error after, interpret fuel program m = .fault error after ↔
      ∃ before stmt rest middle last, program = before ++ stmt :: rest ∧ Passes fuel before m middle ∧
        execute fuel stmt middle = .fault error last ∧ after = last.atGlobals) := by
  have placed := (returnDiagnostics_clean program).1 checked
  refine ⟨?_, ?_, ?_⟩
  · intro stmt member fuel m value after ended
    have stmtPlaced := strayReturnsAll_mem program placed stmt member
    cases execute_returns_never fuel stmt m after (.returned value) stmtPlaced ended
  · intro fuel m after
    rw [interpret_done]
    constructor
    · rintro ⟨last, ended, same⟩
      exact ⟨last, passes_of_done fuel program placed m last ended, same⟩
    · rintro ⟨last, passes, same⟩
      have through := executeProgram_passes fuel program [] m last passes
      rw [List.append_nil] at through
      exact ⟨last, through, same⟩
  · intro fuel m error after
    rw [interpret_fault]
    constructor
    · rintro ⟨last, ended, same⟩
      obtain ⟨before, stmt, rest, middle, split, passes, failed⟩ := passes_of_fault fuel program placed m last error ended
      exact ⟨before, stmt, rest, middle, last, split, passes, failed, same⟩
    · rintro ⟨before, stmt, rest, middle, last, rfl, passes, failed, same⟩
      refine ⟨last, ?_, same⟩
      rw [executeProgram_passes fuel before (stmt :: rest) m middle passes]
      exact executeProgram_fault fuel stmt rest middle last error failed

def searchingScript : Program :=
  (parse "fun first(n) \x7b while (true) \x7b if (n > 2) return n; n = n + 1; \x7d \x7d\nfor (var i = 0; i < 2; i = i + 1) print first(i);" 1).program

-- The returns of a function end at its call, also when the call stands in a loop of the script.
theorem searchingScript_runs_through :
    searchingScript.returnDiagnostics = [] ∧
    (∀ stmt ∈ searchingScript, ∀ fuel m value after, execute fuel stmt m ≠ .done (.returned value) after) ∧
    (∀ fuel m after, interpret fuel searchingScript m = .done () after ↔
      ∃ last, Passes fuel searchingScript m last ∧ after = last.atGlobals) := by
  have checked : searchingScript.returnDiagnostics = [] := by decide +kernel
  obtain ⟨never, through, _⟩ := checked_program_runs_through searchingScript checked
  exact ⟨checked, never, through⟩

end Machine

end StoryScript

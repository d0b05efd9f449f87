import StoryScript.Proofs.Grammar.StartLine
import StoryScript.Proofs.Machine.Renumbering

set_option autoImplicit false

namespace StoryScript

def Outcome.renumbered (number : Nat → Nat) : Outcome → Outcome
  | .ok => .ok
  | .refused diagnostics => .refused (diagnostics.map (Diagnostic.renumbered number))
  | .failed error => .failed (error.renumbered number)

namespace Machine

theorem declare_renumbered (number : Nat → Nat) (name : String) (native : Native) (m : Machine) :
    (m.declare name (.native native)).renumbered number = (m.renumbered number).declare name (.native native) := by
  have defined := m.scopes.define_renumbered number m.current name (.callable ⟨m.made, .native native⟩)
  exact (congrArg (fun scopes => Machine.mk scopes m.current m.host (m.made + 1)) defined).symm

theorem withNatives_renumbered (number : Nat → Nat) (host : Host) :
    (withNatives host).renumbered number = withNatives host := by
  have declared : ∀ (natives : List Native) (m : Machine), m.renumbered number = m →
      (natives.foldl (fun m native => m.declare native.name (.native native)) m).renumbered number =
        natives.foldl (fun m native => m.declare native.name (.native native)) m := by
    intro natives
    induction natives with
    | nil => exact fun m same => same
    | cons native rest ih =>
      intro m same
      refine ih (m.declare native.name (.native native)) ?_
      rw [declare_renumbered, same]
  refine declared Native.all (bare host) ?_
  simp [bare, renumbered, Scopes.root, Scopes.renumbered, Scope.renumbered, Dictionary.mapped]

end Machine

namespace Session

-- Chunks run one after another, each with the number of its first line, and what came of each: its outcome
-- and the session after it.
def runChunks (fuel : Nat) (session : Session) : List (String × Nat) → Option (List (Outcome × Session))
  | [] => some []
  | (text, startLine) :: rest =>
    match runAt fuel session text startLine with
    | none => none
    | some (outcome, after) => (runChunks fuel after rest).map fun results => (outcome, after) :: results

-- The same result with lines numbered anew: those of what is complained about and those inside of the functions that
-- the session knows, while all else, its host included, is as it was.
def resultRenumbered (number : Nat → Nat) (result : Outcome × Session) : Outcome × Session :=
  (result.1.renumbered number, Machine.renumbered number result.2)

theorem runAt_renumbered (number : Nat → Nat) (fuel : Nat) (session : Session) (text : String) (startLine other : Nat)
    (same : Rescanned number text startLine other) :
    runAt fuel (Machine.renumbered number session) text other =
      (runAt fuel session text startLine).map (resultRenumbered number) := by
  have parsed := parse_renumbered number text startLine other same
  have complaints := allDiagnostics_renumbered number (parse text startLine)
  have ran := (Machine.recounting number).interpret_together fuel (parse text startLine).program session _ rfl
  unfold runAt
  dsimp only
  rw [parsed, complaints, List.isEmpty_map]
  by_cases clean : (parse text startLine).allDiagnostics.isEmpty = true
  · rw [if_pos clean, if_pos clean]
    change Machine.interpret fuel ((parse text startLine).renumbered number).program _ = _ at ran
    rw [ran]
    cases Machine.interpret fuel (parse text startLine).program session <;> rfl
  · rw [if_neg clean, if_neg clean]
    rfl

theorem runChunks_renumbered (number : Nat → Nat) (fuel more : Nat) (session : Session) (chunks : List (String × Nat))
    (same : ∀ chunk ∈ chunks, Rescanned number chunk.1 chunk.2 (chunk.2 + more)) :
    runChunks fuel (Machine.renumbered number session) (chunks.map fun chunk => (chunk.1, chunk.2 + more)) =
      (runChunks fuel session chunks).map (List.map (resultRenumbered number)) := by
  induction chunks generalizing session with
  | nil => rfl
  | cons chunk rest ih =>
    obtain ⟨text, startLine⟩ := chunk
    obtain ⟨first, others⟩ := List.forall_mem_cons.1 same
    rw [List.map_cons, runChunks, runChunks, runAt_renumbered number fuel session text startLine _ first]
    cases runAt fuel session text startLine with
    | none => rfl
    | some result =>
      obtain ⟨outcome, after⟩ := result
      have further := ih after others
      simp only [Option.map_some, resultRenumbered, further]
      cases runChunks fuel after rest <;> rfl

theorem runChunks_moved (number : Nat → Nat) (host : Host) (fuel more : Nat) (chunks : List (String × Nat))
    (same : ∀ chunk ∈ chunks, Rescanned number chunk.1 chunk.2 (chunk.2 + more)) :
    runChunks fuel (start host) (chunks.map fun chunk => (chunk.1, chunk.2 + more)) =
      (runChunks fuel (start host) chunks).map (List.map (resultRenumbered number)) := by
  have fresh : Machine.renumbered number (start host) = start host := Machine.withNatives_renumbered number host
  have moved := runChunks_renumbered number fuel more (start host) chunks same
  rw [fresh] at moved
  exact moved

-- Where the lines of chunks begin matters to nothing but the lines that are reported: they are so many further down,
-- counted around where the numbers run out.
theorem start_lines_move_only_lines (host : Host) (fuel more : Nat) (chunks : List (String × Nat)) :
    runChunks fuel (start host) (chunks.map fun chunk => (chunk.1, chunk.2 + more)) =
      (runChunks fuel (start host) chunks).map (List.map (resultRenumbered (later more))) ∧
    ((∀ chunk ∈ chunks, chunk.2 + chunk.1.toList.count '\n' + more < lineLimit) →
      runChunks fuel (start host) (chunks.map fun chunk => (chunk.1, chunk.2 + more)) =
        (runChunks fuel (start host) chunks).map (List.map (resultRenumbered (· + more)))) := by
  constructor
  · exact runChunks_moved _ host fuel more chunks fun chunk _ => scan_later more chunk.1 chunk.2
  · intro fits
    exact runChunks_moved _ host fuel more chunks fun chunk member =>
      scan_later_exact more chunk.1 chunk.2 (fits chunk member)

end Session

end StoryScript

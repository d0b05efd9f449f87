import StoryScript.Proofs.Session.StartLine
import StoryScript.Proofs.Token.Lines

set_option autoImplicit false

namespace StoryScript

open Grammar

-- Another way of counting lines that gives some of them the numbers they have. What no such count changes has
-- no lines but those. Lines are traced in this sense below: from the text through the trees and into the
-- functions that a session holds, without a list of them being kept anywhere.
def KeepsLines (number : Nat → Nat) (lines : Nat → Prop) : Prop := ∀ line, lines line → number line = line

theorem line_of_kept (lines : Nat → Prop) (line : Nat) (kept : ∀ number, KeepsLines number lines → number line = line) :
    lines line := by
  refine Classical.byContradiction fun unlisted => ?_
  have changed := kept (fun other => if other = line then line + 1 else other) ?_
  · simp at changed
  · intro other listed
    have different : other ≠ line := by
      rintro rfl
      exact unlisted listed
    simp [different]

theorem map_eq_self_iff {α : Type} (f : α → α) (l : List α) : l.map f = l ↔ ∀ a ∈ l, f a = a := by
  have each := List.map_inj_left (l := l) (f := f) (g := id)
  rw [List.map_id] at each
  exact each

theorem token_kept (number : Nat → Nat) (t : Token) : t.renumbered number = t ↔ number t.line = t.line := by
  cases t
  simp [Token.renumbered]

theorem diagnostic_kept (number : Nat → Nat) (d : Diagnostic) : d.renumbered number = d ↔ number d.line = d.line := by
  cases d
  simp [Diagnostic.renumbered]

theorem error_kept (number : Nat → Nat) (error : RuntimeError) :
    error.renumbered number = error ↔ number error.line = error.line := by
  cases error
  simp [RuntimeError.renumbered]

theorem parse_kept (number : Nat → Nat) (text : String) (startLine : Nat)
    (keeps : KeepsLines number (Spans text startLine)) :
    (parse text startLine).renumbered number = parse text startLine := by
  have same : Rescanned number text startLine startLine := by
    constructor
    · exact ((map_eq_self_iff _ _).2 fun t member =>
        (token_kept number t).2 (keeps _ (scan_tokens_span text startLine t member))).symm
    · exact ((map_eq_self_iff _ _).2 fun d member =>
        (diagnostic_kept number d).2 (keeps _ (scan_diagnostics_span text startLine d member))).symm
  exact (parse_renumbered number text startLine startLine same).symm

theorem allDiagnostics_span (text : String) (startLine : Nat) (d : Diagnostic)
    (member : d ∈ (parse text startLine).allDiagnostics) : Spans text startLine d.line := by
  refine line_of_kept _ d.line fun number keeps => (diagnostic_kept number d).1 ?_
  have same := allDiagnostics_renumbered number (parse text startLine)
  rw [parse_kept number text startLine keeps] at same
  exact (map_eq_self_iff _ _).1 same.symm d member

namespace Machine

def LinesWithin (lines : Nat → Prop) (m : Machine) : Prop :=
  ∀ number, KeepsLines number lines → m.renumbered number = m

theorem linesWithin_more (few many : Nat → Prop) (subset : ∀ line, few line → many line) (m : Machine)
    (within : LinesWithin few m) : LinesWithin many m := by
  intro number keeps
  exact within number fun line listed => keeps line (subset line listed)

-- A run is the same run however lines are counted, as long as the lines of its program and of the functions it
-- may call keep their numbers. So it cannot come by any other line.
theorem interpret_lines (lines : Nat → Prop) (fuel : Nat) (program : Program) (m : Machine)
    (programKept : ∀ number, KeepsLines number lines → program.renumbered number = program)
    (within : LinesWithin lines m) :
    (interpret fuel program m).Ends (fun _ after => LinesWithin lines after)
      (fun error after => lines error.line ∧ LinesWithin lines after) := by
  have same : ∀ number, KeepsLines number lines →
      interpret fuel program m = endRenumbered number id (interpret fuel program m) := by
    intro number keeps
    have together : interpret fuel (program.renumbered number) (m.renumbered number) = _ :=
      (recounting number).interpret_together fuel program m _ rfl
    rw [programKept number keeps, within number keeps] at together
    exact together
  cases ended : interpret fuel program m with
  | done result after =>
    rw [ended] at same
    intro number keeps
    exact (Finish.done.inj (same number keeps)).2.symm
  | fault error after =>
    rw [ended] at same
    refine ⟨line_of_kept lines error.line fun number keeps => (error_kept number error).1 ?_, fun number keeps => ?_⟩
    · exact (Finish.fault.inj (same number keeps)).1.symm
    · exact (Finish.fault.inj (same number keeps)).2.symm
  | outOfFuel => trivial

end Machine

namespace Session

def Accepted (chunk : String × Nat) : Prop := (parse chunk.1 chunk.2).allDiagnostics = []

def Covers (chunk : String × Nat) (line : Nat) : Prop := Spans chunk.1 chunk.2 line

def Known (chunks : List (String × Nat)) (line : Nat) : Prop := ∃ chunk ∈ chunks, Accepted chunk ∧ Covers chunk line

def PointsInto (chunk : String × Nat) (ran : List (String × Nat)) : Outcome → Prop
  | .ok => True
  | .refused diagnostics => ∀ d ∈ diagnostics, Covers chunk d.line
  | .failed error => Known ran error.line

theorem known_append (earlier later : List (String × Nat)) (line : Nat) (known : Known earlier line) :
    Known (earlier ++ later) line := by
  obtain ⟨chunk, member, rest⟩ := known
  exact ⟨chunk, List.mem_append_left _ member, rest⟩

theorem runAt_lines (fuel : Nat) (session after : Session) (chunk : String × Nat) (ran : List (String × Nat))
    (outcome : Outcome) (within : Machine.LinesWithin (Known ran) session)
    (ended : runAt fuel session chunk.1 chunk.2 = some (outcome, after)) :
    PointsInto chunk (ran ++ [chunk]) outcome ∧ Machine.LinesWithin (Known (ran ++ [chunk])) after := by
  have still := Machine.linesWithin_more _ _ (known_append ran [chunk]) session within
  unfold runAt at ended
  dsimp only at ended
  by_cases clean : (parse chunk.1 chunk.2).allDiagnostics.isEmpty = true
  · rw [if_pos clean] at ended
    have here : ∀ line, Covers chunk line → Known (ran ++ [chunk]) line :=
      fun line covered => ⟨chunk, by simp, List.isEmpty_iff.1 clean, covered⟩
    have programKept : ∀ number, KeepsLines number (Known (ran ++ [chunk])) →
        (parse chunk.1 chunk.2).program.renumbered number = (parse chunk.1 chunk.2).program := by
      intro number keeps
      exact congrArg Parsed.program (parse_kept number chunk.1 chunk.2 fun line covered => keeps line (here line covered))
    have ends := Machine.interpret_lines _ fuel (parse chunk.1 chunk.2).program session programKept still
    cases finish : Machine.interpret fuel (parse chunk.1 chunk.2).program session with
    | done result last =>
      rw [finish] at ended ends
      cases ended
      exact ⟨trivial, ends⟩
    | fault error last =>
      rw [finish] at ended ends
      cases ended
      exact ends
    | outOfFuel =>
      rw [finish] at ended
      cases ended
  · rw [if_neg clean] at ended
    cases ended
    exact ⟨fun d member => allDiagnostics_span chunk.1 chunk.2 d member, still⟩

-- The induction is on the chunks still to be run; those that have been are only ever added to.
theorem runChunks_lines (fuel : Nat) (session : Session) (ran chunks : List (String × Nat))
    (results : List (Outcome × Session)) (within : Machine.LinesWithin (Known ran) session)
    (ended : runChunks fuel session chunks = some results) :
    results.length = chunks.length ∧
      ∀ i chunk result, chunks[i]? = some chunk → results[i]? = some result →
        PointsInto chunk (ran ++ chunks.take (i + 1)) result.1 := by
  induction chunks generalizing session ran results with
  | nil =>
    cases ended
    exact ⟨rfl, by simp⟩
  | cons first rest ih =>
    rw [runChunks] at ended
    cases one : runAt fuel session first.1 first.2 with
    | none =>
      rw [one] at ended
      cases ended
    | some result =>
      rw [one] at ended
      obtain ⟨others, more, rfl⟩ := Option.map_eq_some_iff.1 ended
      obtain ⟨points, later⟩ := runAt_lines fuel session result.2 first ran result.1 within one
      obtain ⟨length, pointsLater⟩ := ih result.2 (ran ++ [first]) others later more
      refine ⟨by simp [length], ?_⟩
      intro i chunk found isChunk isResult
      cases i with
      | zero =>
        cases isChunk
        cases isResult
        exact points
      | succ i =>
        have inside := pointsLater i chunk found isChunk isResult
        rw [List.append_assoc] at inside
        exact inside

-- Every complaint about a chunk has a line of that chunk, and whatever goes wrong while a chunk runs has a line
-- of a chunk that was run, then or before.
theorem errors_point_into_chunks (host : Host) (fuel : Nat) (chunks : List (String × Nat))
    (results : List (Outcome × Session)) (ended : runChunks fuel (start host) chunks = some results) :
    results.length = chunks.length ∧
      ∀ i chunk result, chunks[i]? = some chunk → results[i]? = some result →
        PointsInto chunk (chunks.take (i + 1)) result.1 := by
  have fresh : Machine.LinesWithin (Known []) (start host) :=
    fun number _ => Machine.withNatives_renumbered number host
  exact runChunks_lines fuel (start host) [] chunks results fresh ended

def halvingChunks : List (String × Nat) :=
  [("fun half(x) \x7b\n  return x / 0;\n\x7d", 10), ("print (;", 40), ("var one = 1;\nhalf(one);", 50)]

def failedLine? : Outcome → Option Nat
  | .failed error => some error.line
  | _ => none

theorem halving_fails_in_its_function :
    ∃ results result, runChunks 20 (start { world := .ofSeed 0 }) halvingChunks = some results ∧
      results[2]? = some result ∧ failedLine? result.1 = some 11 ∧
      PointsInto ("var one = 1;\nhalf(one);", 50) (halvingChunks.take 3) result.1 := by
  have line : ((runChunks 20 (start { world := .ofSeed 0 }) halvingChunks).bind fun results =>
      results[2]?.bind fun result => failedLine? result.1) = some 11 := by decide +kernel
  obtain ⟨results, ended, found⟩ := Option.bind_eq_some_iff.1 line
  obtain ⟨result, isResult, failed⟩ := Option.bind_eq_some_iff.1 found
  have points := (errors_point_into_chunks _ 20 halvingChunks results ended).2 2 _ result rfl isResult
  exact ⟨results, result, ended, isResult, failed, points⟩

def complaints : Outcome → List Diagnostic
  | .refused diagnostics => diagnostics
  | _ => []

-- Without a bound on the numbers a line may lie outside of its chunk: after the last number comes 0.
theorem line_after_last_number :
    ∃ results result, runChunks 20 (start { world := .ofSeed 0 }) [("\n@", 18446744073709551615)] = some results ∧
      results[0]? = some result ∧ complaints result.1 = [⟨"Invalid character '@'.", 0, .text⟩] ∧
      ¬ ∀ d ∈ complaints result.1, 18446744073709551615 ≤ d.line ∧ d.line ≤ 18446744073709551615 + 1 := by
  have found : ((runChunks 20 (start { world := .ofSeed 0 }) [("\n@", 18446744073709551615)]).bind fun results =>
      results[0]?.map fun result => complaints result.1) = some [⟨"Invalid character '@'.", 0, .text⟩] := by
    decide +kernel
  obtain ⟨results, ended, inside⟩ := Option.bind_eq_some_iff.1 found
  obtain ⟨result, isResult, same⟩ := Option.map_eq_some_iff.1 inside
  refine ⟨results, result, ended, isResult, same, ?_⟩
  rw [same]
  simp

end Session

end StoryScript

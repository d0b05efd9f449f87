import StoryScript.Proofs.Machine.LimitedSink
import StoryScript.Proofs.Session.Chunks

set_option autoImplicit false

namespace StoryScript

namespace Session

def written (session : Session) : Array UInt8 := session.host.sink.written

-- What comes of a chunk when there is room for so many bytes only, beside what comes of it when everything
-- it writes is taken.
structure CutShort (room : Nat) (begun : Session) (bytes : Array UInt8) (whole short : Outcome × Session) : Prop where
  all : whole.2.written = begun.written ++ bytes
  first : short.2.written = begun.written ++ bytes.extract 0 (min room bytes.size)
  fits : bytes.size ≤ room → short = (whole.1, Machine.withRoom (some (room - bytes.size)) whole.2)
  full : room < bytes.size → ∃ error, short.1 = .failed error ∧ error.fault.message = "I/O error: sink full"

theorem cutShort_within (room : Nat) (begun : Session) (bytes : Array UInt8) (outcome : Outcome) (after : Session)
    (wrote : after.written = begun.written ++ bytes) (few : bytes.size ≤ room) :
    CutShort room begun bytes (outcome, after) (outcome, Machine.withRoom (some (room - bytes.size)) after) where
  all := wrote
  first := by
    rw [Nat.min_eq_right few, Array.extract_size]
    exact wrote
  fits := fun _ => rfl
  full := fun many => absurd few (Nat.not_le_of_lt many)

theorem cutShort_beyond (room : Nat) (begun : Session) (bytes : Array UInt8) (outcome : Outcome)
    (after stopped : Session) (error : RuntimeError) (wrote : after.written = begun.written ++ bytes)
    (many : room < bytes.size) (full : Machine.outlet.full error)
    (kept : stopped.written = begun.written ++ bytes.extract 0 room) :
    CutShort room begun bytes (outcome, after) (.failed error, stopped) where
  all := wrote
  first := by
    rw [Nat.min_eq_left (Nat.le_of_lt many)]
    exact kept
  fits := fun few => absurd few (Nat.not_le_of_lt many)
  full := by
    intro _
    refine ⟨error, rfl, ?_⟩
    have fault : error.fault = .native (.stream .sinkFull) := full
    rw [fault]
    rfl

theorem runAt_interpreted (fuel : Nat) (session : Session) (text : String) (startLine : Nat)
    (clean : (parse text startLine).allDiagnostics.isEmpty = true) :
    runAt fuel session text startLine = Machine.report (Machine.interpret fuel (parse text startLine).program session) := by
  unfold runAt
  dsimp only
  rw [if_pos clean]
  cases Machine.interpret fuel (parse text startLine).program session <;> rfl

theorem report_cut (room : Nat) (begun : Session) (x y : Finish Machine RuntimeError Unit)
    (whole : Outcome × Session) (cut : Machine.outlet.Cut id room begun x y) (ended : Machine.report x = some whole) :
    ∃ bytes short, Machine.report y = some short ∧ CutShort room begun bytes whole short := by
  cases cut with
  | fits _ after bytes ends free wrote few =>
    cases x with
    | outOfFuel => cases ends
    | _ =>
      cases ends
      cases ended
      exact ⟨bytes, _, rfl, cutShort_within room begun bytes _ after wrote few⟩
  | overflows _ after stopped error bytes ends free wrote many full kept =>
    cases x with
    | outOfFuel => cases ends
    | _ =>
      cases ends
      cases ended
      exact ⟨bytes, _, rfl, cutShort_beyond room begun bytes _ after stopped error wrote many full kept⟩
  | starved => cases ended

-- A sink that takes only so much truncates what a chunk writes, and changes nothing else while all fits.
theorem limited_sink_only_truncates (fuel : Nat) (session : Session) (text : String) (startLine room : Nat)
    (whole : Outcome × Session)
    (ended : runAt fuel (Machine.withRoom none session) text startLine = some whole) :
    ∃ bytes short, runAt fuel (Machine.withRoom (some room) session) text startLine = some short ∧
      CutShort room session bytes whole short := by
  by_cases clean : (parse text startLine).allDiagnostics.isEmpty = true
  · rw [runAt_interpreted fuel _ text startLine clean] at ended ⊢
    have cut := Machine.interpret_truncated fuel (parse text startLine).program (Machine.withRoom none session) room rfl
    obtain ⟨bytes, short, ran, cutShort⟩ := report_cut room _ _ _ whole cut ended
    exact ⟨bytes, short, ran, cutShort.all, cutShort.first, cutShort.fits, cutShort.full⟩
  · -- A chunk that is not run writes nothing.
    unfold runAt at ended ⊢
    dsimp only at ended ⊢
    rw [if_neg clean] at ended ⊢
    cases ended
    exact ⟨#[], _, rfl, cutShort_within room session #[] _ (Machine.withRoom none session) Array.append_empty.symm
      (Nat.zero_le room)⟩

theorem printing_into_four_bytes :
    ∃ whole, runAt 20 (Machine.withRoom none (start { world := .ofSeed 0 })) "print \"ab\"; print 3;" 1 = some whole ∧
      whole.2.written = #[97, 98, 10, 51, 10] ∧
      ∃ bytes short, runAt 20 (Machine.withRoom (some 4) (start { world := .ofSeed 0 })) "print \"ab\"; print 3;" 1 =
          some short ∧
        CutShort 4 (start { world := .ofSeed 0 }) bytes whole short := by
  have bytes : (runAt 20 (Machine.withRoom none (start { world := .ofSeed 0 })) "print \"ab\"; print 3;" 1).map
      (fun whole => whole.2.written) = some #[97, 98, 10, 51, 10] := by decide +kernel
  obtain ⟨whole, ended, wrote⟩ := Option.map_eq_some_iff.1 bytes
  exact ⟨whole, ended, wrote, limited_sink_only_truncates 20 _ _ 1 4 whole ended⟩

end Session

end StoryScript

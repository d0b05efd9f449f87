import StoryScript.Native.Call
import StoryScript.Proofs.Host.Truncation

set_option autoImplicit false

namespace StoryScript

def streamOutlet : Outlet Host StreamError :=
  ⟨fun host => host.sink.written, fun host => host.sink.room, Host.withRoom, fun error => error = .sinkFull⟩

def nativeOutlet : Outlet Host NativeError :=
  ⟨fun host => host.sink.written, fun host => host.sink.room, Host.withRoom, fun error => error = .stream .sinkFull⟩

namespace Host

def afterWriting (text : String) (host : Host) : Host :=
  { host with sink := { host.sink with written := host.sink.written ++ Text.Utf8.encode text } }

theorem write_unlimited (text : String) (host : Host) (unlimited : host.sink.room = none) :
    write text host = .done () (host.afterWriting text) := by
  obtain ⟨world, ⟨written, limit, flushFails⟩, input, clock⟩ := host
  cases unlimited
  rfl

theorem write_fitting (text : String) (host : Host) (room : Nat) (few : (Text.Utf8.encode text).size ≤ room) :
    write text (host.withRoom (some room)) =
      .done () ((host.afterWriting text).withRoom (some (room - (Text.Utf8.encode text).size))) := by
  have fitting : (host.withRoom (some room)).sink.fits (Text.Utf8.encode text) = true := decide_eq_true few
  have whole := Array.extract_eq_self_of_le few
  refine (if_pos fitting).trans ?_
  simp only [Sink.push, withRoom, afterWriting, whole]

theorem write_overflowing (text : String) (host : Host) (room : Nat) (many : room < (Text.Utf8.encode text).size) :
    ∃ stopped, write text (host.withRoom (some room)) = .fault .sinkFull stopped ∧
      stopped.sink.written = host.sink.written ++ (Text.Utf8.encode text).extract 0 room := by
  have misfit : ¬ (host.withRoom (some room)).sink.fits (Text.Utf8.encode text) = true := by
    intro fitting
    exact Nat.not_le_of_lt many (of_decide_eq_true fitting)
  exact ⟨_, if_neg misfit, rfl⟩

theorem write_truncated (text : String) : streamOutlet.Truncated (write text) := by
  intro host room unlimited
  rw [write_unlimited text host unlimited]
  by_cases few : (Text.Utf8.encode text).size ≤ room
  · have cut := write_fitting text host room few
    rw [streamOutlet, cut]
    exact .fits (.done () (host.afterWriting text)) _ (Text.Utf8.encode text) rfl unlimited rfl few
  · obtain ⟨stopped, cut, kept⟩ := write_overflowing text host room (Nat.lt_of_not_le few)
    rw [streamOutlet, cut]
    exact .overflows _ (host.afterWriting text) stopped StreamError.sinkFull (Text.Utf8.encode text) rfl unlimited rfl
      (Nat.lt_of_not_le few) rfl kept

theorem flush_silent : streamOutlet.Silent id flush flush where
  alike := by
    intro host room
    unfold flush
    by_cases fails : host.sink.flushFails = true
    · rw [if_pos fails]
      exact if_pos fails
    · rw [if_neg fails]
      exact if_neg fails
  keeps := by
    intro host after ends
    unfold flush at ends
    by_cases fails : host.sink.flushFails = true
    · rw [if_pos fails] at ends
      cases ends
      exact ⟨rfl, rfl⟩
    · rw [if_neg fails] at ends
      cases ends
      exact ⟨rfl, rfl⟩

theorem takeLine_silent : streamOutlet.Silent id takeLine takeLine where
  alike := by
    intro host room
    obtain ⟨world, sink, input, clock⟩ := host
    cases input with
    | nil => rfl
    | cons byte rest =>
      simp only [takeLine, streamOutlet, withRoom]
      cases Text.Utf8.decode? (splitLine (byte :: rest)).1 <;> rfl
  keeps := by
    intro host after ends
    obtain ⟨world, sink, input, clock⟩ := host
    cases input with
    | nil =>
      cases ends
      exact ⟨rfl, rfl⟩
    | cons byte rest =>
      simp only [takeLine] at ends
      cases decoded : Text.Utf8.decode? (splitLine (byte :: rest)).1 <;>
      · rw [decoded] at ends
        cases ends
        exact ⟨rfl, rfl⟩

theorem prompt_truncated (question : String) : streamOutlet.Truncated (prompt question) := by
  refine Outlet.truncated_bind _ _ _ (write_truncated question) ?_
  intro _
  refine Outlet.truncated_bind _ _ _ (Outlet.truncated_silent _ _ flush_silent) ?_
  intro _
  refine Outlet.truncated_bind _ _ _ (Outlet.truncated_silent _ _ takeLine_silent) ?_
  intro line
  exact Outlet.truncated_pure _ _

end Host

namespace Native

theorem stream_truncated {α : Type} (run : HostRun α) (truncated : streamOutlet.Truncated run) :
    nativeOutlet.Truncated (Run.mapFault .stream run) := by
  have carries : streamOutlet.Carries nativeOutlet id NativeError.stream :=
    ⟨fun _ => rfl, fun _ => rfl, fun _ _ => rfl, fun _ full => congrArg NativeError.stream full⟩
  have renamed : ∀ host, Run.mapFault NativeError.stream run host = (run host).carried id .stream := by
    intro host
    unfold Run.mapFault
    cases run host <;> rfl
  intro host room unlimited
  rw [renamed, renamed]
  exact Outlet.cut_carried _ _ _ _ carries id room host host _ _ rfl (truncated host room unlimited)

theorem narrate_truncated (line : String) : nativeOutlet.Truncated (narrate line) := by
  refine Outlet.truncated_bind _ _ _ (stream_truncated _ (Host.write_truncated _)) ?_
  intro _
  exact Outlet.truncated_pure _ _

theorem announce_truncated (line : String) : nativeOutlet.Truncated (announce line) := by
  refine Outlet.truncated_bind _ _ _ (narrate_truncated "") ?_
  intro _
  exact narrate_truncated line

theorem readLine_truncated : nativeOutlet.Truncated readLine := by
  refine Outlet.truncated_bind _ _ _ (stream_truncated _ (Host.prompt_truncated "> ")) ?_
  intro line
  exact Outlet.truncated_pure _ _

theorem world_truncated : nativeOutlet.Truncated world := by
  refine Outlet.truncated_silent _ _ ⟨fun _ _ => rfl, ?_⟩
  rintro host after ⟨⟩
  exact ⟨rfl, rfl⟩

theorem setWorld_truncated (w : World) : nativeOutlet.Truncated (setWorld w) := by
  refine Outlet.truncated_silent _ _ ⟨fun _ _ => rfl, ?_⟩
  rintro host after ⟨⟩
  exact ⟨rfl, rfl⟩

theorem numberArg_truncated (native : Native) (value : Value) : nativeOutlet.Truncated (numberArg native value) := by
  cases value with
  | number number => exact Outlet.truncated_pure _ number
  | _ => exact Outlet.truncated_silent _ _ (Outlet.silent_fail _ id _)

theorem withWorld_truncated {α : Type} (next : World → NativeRun α)
    (truncated : ∀ found, nativeOutlet.Truncated (next found)) : nativeOutlet.Truncated (world >>= next) :=
  Outlet.truncated_bind _ _ _ world_truncated truncated

theorem changeWorld_truncated {α : Type} (changed : World) (next : NativeRun α)
    (truncated : nativeOutlet.Truncated next) : nativeOutlet.Truncated (setWorld changed >>= fun _ => next) :=
  Outlet.truncated_bind _ _ _ (setWorld_truncated changed) fun _ => truncated

theorem throwDice_truncated (fuel : Nat) (low high : Value) : nativeOutlet.Truncated (throwDice fuel low high) := by
  refine Outlet.truncated_bind _ _ _ (numberArg_truncated .random low) ?_
  intro low
  refine Outlet.truncated_bind _ _ _ (numberArg_truncated .random high) ?_
  intro high
  refine Outlet.truncated_bind _ _ _ ?_ ?_
  · cases rangeOf low high with
    | ok range => exact Outlet.truncated_pure _ range
    | error error => exact Outlet.truncated_silent _ _ (Outlet.silent_fail _ id error)
  · rintro ⟨first, last⟩
    refine withWorld_truncated _ ?_
    intro found
    cases found.randomInt fuel first last with
    | none => exact Outlet.truncated_silent _ _ (Outlet.silent_noFuel _ id)
    | some thrown => exact changeWorld_truncated _ _ (Outlet.truncated_pure _ _)

theorem readClock_truncated : nativeOutlet.Truncated readClock := by
  refine Outlet.truncated_bind _ _ _ (Outlet.truncated_silent _ _ ⟨fun _ _ => rfl, ?_⟩) ?_
  · rintro host after ⟨⟩
    exact ⟨rfl, rfl⟩
  · intro time
    cases time.seconds? with
    | some seconds => exact Outlet.truncated_pure _ _
    | none => exact Outlet.truncated_silent _ _ (Outlet.silent_fail _ id _)

theorem call_truncated (fuel : Nat) (native : Native) (args : List Value) :
    nativeOutlet.Truncated (native.call fuel args) := by
  cases native with
  | input => exact readLine_truncated
  | character => exact announce_truncated _
  | choice => exact announce_truncated _
  | restart =>
    refine withWorld_truncated _ ?_
    intro found
    exact changeWorld_truncated _ _ (narrate_truncated _)
  | add =>
    refine Outlet.truncated_bind _ _ _ (narrate_truncated _) ?_
    intro _
    refine withWorld_truncated _ ?_
    intro found
    exact changeWorld_truncated _ _ (Outlet.truncated_pure _ _)
  | inventory =>
    refine withWorld_truncated _ ?_
    intro found
    refine Outlet.truncated_bind _ _ _ (narrate_truncated _) ?_
    intro _
    exact Outlet.truncated_pure _ _
  | use =>
    refine withWorld_truncated _ ?_
    intro found
    refine changeWorld_truncated _ _ (Outlet.truncated_bind _ _ _ (narrate_truncated _) ?_)
    intro _
    exact Outlet.truncated_pure _ _
  | item =>
    refine withWorld_truncated _ ?_
    intro found
    exact Outlet.truncated_pure _ _
  | setStat =>
    refine Outlet.truncated_bind _ _ _ (numberArg_truncated .setStat _) ?_
    intro value
    refine withWorld_truncated _ ?_
    intro found
    exact changeWorld_truncated _ _ (Outlet.truncated_pure _ _)
  | modStat =>
    refine Outlet.truncated_bind _ _ _ (numberArg_truncated .modStat _) ?_
    intro delta
    refine withWorld_truncated _ ?_
    intro found
    exact changeWorld_truncated _ _ (Outlet.truncated_pure _ _)
  | getStat =>
    refine withWorld_truncated _ ?_
    intro found
    exact Outlet.truncated_pure _ _
  | checkStats =>
    refine withWorld_truncated _ ?_
    intro found
    exact narrate_truncated _
  | random => exact throwDice_truncated fuel _ _
  | clock => exact readClock_truncated
  | _ => exact narrate_truncated _

end Native

end StoryScript

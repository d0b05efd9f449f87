import StoryScript.Proofs.Machine.Ends

set_option autoImplicit false

namespace StoryScript

namespace Host

def LeavesWorld {ε α : Type} (run : Run Host ε α) : Prop :=
  ∀ host, (run host).Ends (fun _ after => after.world = host.world) fun _ after => after.world = host.world

-- The world stays as it is when the run stops at a fault. It may change when the run is done.
def FailsCleanly {ε α : Type} (run : Run Host ε α) : Prop :=
  ∀ host, (run host).Ends (fun _ _ => True) fun _ after => after.world = host.world

theorem failsCleanly_of_leaves {ε α : Type} (run : Run Host ε α) (leaves : LeavesWorld run) : FailsCleanly run := by
  intro host
  exact ends_weaken _ _ _ _ _ (leaves host) (fun _ _ _ => trivial) fun _ _ same => same

theorem leaves_pure {ε α : Type} (value : α) : LeavesWorld (pure value : Run Host ε α) := fun _ => rfl

theorem leaves_fail {ε α : Type} (error : ε) : LeavesWorld (Run.fail error : Run Host ε α) := fun _ => rfl

theorem ends_after_leaving {ε α β : Type} (run : Run Host ε α) (next : α → Run Host ε β) (done : World → Host → Prop)
    (first : LeavesWorld run)
    (second : ∀ value host, (next value host).Ends (fun _ after => done host.world after)
      fun _ after => after.world = host.world) (host : Host) :
    ((run >>= next) host).Ends (fun _ after => done host.world after) fun _ after => after.world = host.world := by
  refine (ends_bind run next host _ _).2 (ends_weaken _ _ _ _ _ (first host) ?_ fun _ _ same => same)
  intro value middle same
  have rest := second value middle
  rw [same] at rest
  exact rest

theorem leaves_bind {ε α β : Type} (run : Run Host ε α) (next : α → Run Host ε β) (first : LeavesWorld run)
    (second : ∀ value, LeavesWorld (next value)) : LeavesWorld (run >>= next) :=
  ends_after_leaving run next (fun world after => after.world = world) first second

theorem failsCleanly_bind {ε α β : Type} (run : Run Host ε α) (next : α → Run Host ε β) (first : LeavesWorld run)
    (second : ∀ value, FailsCleanly (next value)) : FailsCleanly (run >>= next) :=
  ends_after_leaving run next (fun _ _ => True) first second

theorem leaves_mapFault {ε δ α : Type} (rename : ε → δ) (run : Run Host ε α) (leaves : LeavesWorld run) :
    LeavesWorld (Run.mapFault rename run) := by
  intro host
  have ends := leaves host
  unfold Run.mapFault
  cases ended : run host with
  | done result after =>
    rw [ended] at ends
    exact ends
  | fault error after =>
    rw [ended] at ends
    exact ends
  | outOfFuel => trivial

theorem leaves_write (text : String) : LeavesWorld (write text) := by
  intro host
  unfold write
  dsimp only
  by_cases fits : host.sink.fits (Text.Utf8.encode text) = true
  · rw [if_pos fits]
    rfl
  · rw [if_neg fits]
    rfl

theorem leaves_flush : LeavesWorld flush := by
  intro host
  unfold flush
  by_cases fails : host.sink.flushFails = true
  · rw [if_pos fails]
    rfl
  · rw [if_neg fails]
    rfl

theorem leaves_takeLine : LeavesWorld takeLine := by
  intro host
  unfold takeLine
  cases host.input with
  | nil => rfl
  | cons byte rest =>
    dsimp only
    cases Text.Utf8.decode? (splitLine (byte :: rest)).1 <;> rfl

theorem leaves_prompt (question : String) : LeavesWorld (prompt question) := by
  refine leaves_bind _ _ (leaves_write question) ?_
  intro _
  refine leaves_bind _ _ leaves_flush ?_
  intro _
  refine leaves_bind _ _ leaves_takeLine ?_
  intro line
  exact leaves_pure _

end Host

namespace Native

open Host

theorem narrate_ends (line : String) (host : Host) :
    (narrate line host).Ends (fun _ after => after.world = host.world)
      fun error after => error = .stream .sinkFull ∧ after.world = host.world := by
  refine (ends_bind _ _ host _ _).2 ?_
  unfold Run.mapFault Host.writeLine Host.write
  dsimp only
  by_cases fits : host.sink.fits (Text.Utf8.encode (line ++ "\n")) = true
  · rw [if_pos fits]
    rfl
  · rw [if_neg fits]
    exact ⟨rfl, rfl⟩

theorem leaves_narrate (line : String) : LeavesWorld (narrate line) := by
  intro host
  exact ends_weaken _ _ _ _ _ (narrate_ends line host) (fun _ _ same => same) fun _ _ fault => fault.2

theorem leaves_world : LeavesWorld world := fun _ => rfl

theorem leaves_numberArg (native : Native) (value : Value) : LeavesWorld (numberArg native value) := by
  cases value with
  | number number => exact leaves_pure number
  | _ => exact leaves_fail _

theorem failsCleanly_change {α : Type} (changed : World) (value : α) :
    FailsCleanly (setWorld changed >>= fun _ => (pure value : NativeRun α)) := fun _ => trivial

theorem failsCleanly_throwDice (fuel : Nat) (low high : Value) : FailsCleanly (throwDice fuel low high) := by
  refine failsCleanly_bind _ _ (leaves_numberArg .random low) ?_
  intro low
  refine failsCleanly_bind _ _ (leaves_numberArg .random high) ?_
  intro high
  refine failsCleanly_bind _ _ ?_ ?_
  · cases rangeOf low high with
    | ok range => exact leaves_pure range
    | error error => exact leaves_fail error
  · rintro ⟨first, last⟩
    refine failsCleanly_bind _ _ leaves_world ?_
    intro found
    cases found.randomInt fuel first last with
    | none => exact fun _ => trivial
    | some thrown => exact failsCleanly_change _ _

theorem failsCleanly_readClock : FailsCleanly readClock := by
  refine failsCleanly_bind lookAtClock _ (fun _ => rfl) ?_
  intro time
  cases time.seconds? with
  | some seconds => exact fun _ => trivial
  | none => exact failsCleanly_of_leaves _ (leaves_fail _)

theorem failsCleanly_call (fuel : Nat) (native : Native) (args : List Value) (notRestart : native ≠ .restart)
    (notUse : native ≠ .use) : FailsCleanly (native.call fuel args) := by
  have narrates : ∀ line, FailsCleanly (narrate line) := fun line => failsCleanly_of_leaves _ (leaves_narrate line)
  have looks : ∀ (next : World → NativeRun Value), (∀ found, FailsCleanly (next found)) →
      FailsCleanly (world >>= next) := fun next => failsCleanly_bind _ _ leaves_world
  cases native with
  | restart => exact absurd rfl notRestart
  | use => exact absurd rfl notUse
  | input =>
    refine failsCleanly_bind _ _ (leaves_mapFault _ _ (leaves_prompt _)) ?_
    intro line
    exact fun _ => trivial
  | character =>
    refine failsCleanly_bind _ _ (leaves_narrate "") ?_
    intro _
    exact narrates _
  | choice =>
    refine failsCleanly_bind _ _ (leaves_narrate "") ?_
    intro _
    exact narrates _
  | add =>
    refine failsCleanly_bind _ _ (leaves_narrate _) ?_
    intro _
    refine looks _ ?_
    intro found
    exact failsCleanly_change _ _
  | inventory =>
    refine looks _ ?_
    intro found
    refine failsCleanly_bind _ _ (leaves_narrate _) ?_
    intro _
    exact fun _ => trivial
  | item => exact looks _ fun found _ => trivial
  | setStat =>
    refine failsCleanly_bind _ _ (leaves_numberArg .setStat _) ?_
    intro value
    refine looks _ ?_
    intro found
    exact failsCleanly_change _ _
  | modStat =>
    refine failsCleanly_bind _ _ (leaves_numberArg .modStat _) ?_
    intro delta
    refine looks _ ?_
    intro found
    exact failsCleanly_change _ _
  | getStat => exact looks _ fun found _ => trivial
  | checkStats =>
    refine looks _ ?_
    intro found
    exact narrates _
  | random => exact failsCleanly_throwDice fuel _ _
  | clock => exact failsCleanly_readClock
  | _ => exact narrates _

theorem restart_ends (fuel : Nat) (args : List Value) (host : Host) :
    (call fuel .restart args host).Ends (fun _ _ => True)
      fun error after => error = .stream .sinkFull ∧ after.world = host.world.reset := by
  -- The world is cleared before the line is written.
  have ran : call fuel .restart args host = narrate "<<< RESTART >>>" { host with world := host.world.reset } := rfl
  rw [ran]
  exact ends_weaken _ _ _ _ _ (narrate_ends _ _) (fun _ _ _ => trivial) fun _ _ fault => fault

theorem use_ends (fuel : Nat) (args : List Value) (host : Host) :
    (call fuel .use args host).Ends (fun _ _ => True) fun error after =>
      error = .stream .sinkFull ∧ after.world = (host.world.removeItem (args.getD 0 .nil).text).2 := by
  -- The item is taken away before the line is written.
  refine (ends_bind world _ host _ _).2 ((ends_bind (setWorld _) _ host _ _).2 ((ends_bind (narrate _) _ _ _ _).2 ?_))
  exact ends_weaken _ _ _ _ _ (narrate_ends _ _) (fun _ _ _ => trivial) fun _ _ fault => fault

-- A native that fails throws no dice. All but two leave the world as it was, and these two change it only
-- when there is no room to say so.
theorem world_after_failed_native (fuel : Nat) (native : Native) (args : List Value) (host after : Host)
    (error : NativeError) (failed : native.call fuel args host = .fault error after) :
    after.world.generator = host.world.generator ∧
    (native ≠ .restart → native ≠ .use → after.world = host.world) ∧
    (native = .restart → error = .stream .sinkFull ∧ after.world = host.world.reset) ∧
    (native = .use → error = .stream .sinkFull ∧
      after.world = (host.world.removeItem (args.getD 0 .nil).text).2) := by
  by_cases isRestart : native = .restart
  · subst isRestart
    have ends := restart_ends fuel args host
    rw [failed] at ends
    obtain ⟨full, cleared⟩ := ends
    refine ⟨?_, fun other => absurd rfl other, fun _ => ⟨full, cleared⟩, fun other => by cases other⟩
    rw [cleared, World.reset]
  · by_cases isUse : native = .use
    · subst isUse
      have ends := use_ends fuel args host
      rw [failed] at ends
      obtain ⟨full, removed⟩ := ends
      refine ⟨?_, fun _ other => absurd rfl other, fun other => absurd other isRestart, fun _ => ⟨full, removed⟩⟩
      rw [removed, World.removeItem]
    · have same := failsCleanly_call fuel native args isRestart isUse host
      rw [failed] at same
      exact ⟨congrArg World.generator same, fun _ _ => same, fun other => absurd other isRestart,
        fun other => absurd other isUse⟩

theorem sword_used_without_room :
    ∃ error after,
      call 0 .use [.string "sword"] { world := ⟨["key", "sword"], {}, .ofSeed 0⟩, sink := ⟨#[], some 2, false⟩ } =
        .fault error after ∧
      after.world.generator = Random.Generator.ofSeed 0 ∧
      error = .stream .sinkFull ∧ after.world = ⟨["key"], {}, .ofSeed 0⟩ := by
  obtain ⟨error, after, failed⟩ : ∃ error after,
      call 0 .use [.string "sword"] { world := ⟨["key", "sword"], {}, .ofSeed 0⟩, sink := ⟨#[], some 2, false⟩ } =
        .fault error after := ⟨_, _, rfl⟩
  obtain ⟨dice, _, _, used⟩ := world_after_failed_native 0 .use _ _ after error failed
  exact ⟨error, after, failed, dice, used rfl⟩

theorem failed_restart_empties_inventory :
    ¬ ∀ (fuel : Nat) (native : Native) (args : List Value) (host after : Host) (error : NativeError),
      args.length = native.arity → native.call fuel args host = .fault error after → after.world = host.world := by
  intro unchanged
  have same := unchanged 0 .restart [] { world := ⟨["sword"], {}, .ofSeed 0⟩, sink := ⟨#[], some 0, false⟩ } _ _ rfl rfl
  have items : ([] : List String) = ["sword"] := congrArg World.inventory same
  cases items

end Native

end StoryScript

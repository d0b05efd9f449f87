import StoryScript.Proofs.Host.Lines
import StoryScript.Proofs.Native.Truncation

set_option autoImplicit false

namespace StoryScript

open Host

structure Custom where
  holds : Host → Prop
  meets : NativeError → Prop

def Custom.Kept {α : Type} (c : Custom) (run : NativeRun α) : Prop :=
  ∀ host, c.holds host → (run host).Ends (fun _ after => c.holds after) fun error after => c.holds after ∧ c.meets error

-- A custom that every native but input keeps: lines may be written, the world may change, the clock goes on, and
-- natives may find fault with their arguments or the time.
structure Usual extends Custom where
  write : ∀ line, toCustom.Kept (Run.mapFault .stream (writeLine line))
  change : ∀ host world, holds host → holds { host with world }
  goOn : ∀ host clock, holds host → holds { host with clock }
  complain : ∀ error, (∀ stream, error ≠ .stream stream) → meets error

theorem rangeOf_complaint (low high : Number) (error : NativeError) (asked : Native.rangeOf low high = .error error)
    (stream : StreamError) : error ≠ .stream stream := by
  rintro rfl
  unfold Native.rangeOf at asked
  dsimp only at asked
  split at asked
  · cases asked
  · split at asked
    · split at asked <;> cases asked
    · cases asked

namespace Usual

variable {α β : Type}

theorem kept_pure (u : Usual) (value : α) : u.Kept (pure value) := fun _ holds => holds

theorem kept_bind (u : Usual) (run : NativeRun α) (next : α → NativeRun β) (first : u.Kept run)
    (second : ∀ value, u.Kept (next value)) : u.Kept (run >>= next) := by
  intro host holds
  refine (ends_bind run next host _ _).2 (ends_weaken _ _ _ _ _ (first host holds) ?_ fun _ _ met => met)
  intro value after holds'
  exact second value after holds'

theorem kept_narrate (u : Usual) (line : String) : u.Kept (Native.narrate line) :=
  u.kept_bind _ _ (u.write line) fun _ => u.kept_pure Value.nil

theorem kept_announce (u : Usual) (line : String) : u.Kept (Native.announce line) :=
  u.kept_bind _ _ (u.kept_narrate "") fun _ => u.kept_narrate line

theorem kept_look (u : Usual) (next : World → NativeRun β) (rest : ∀ found, u.Kept (next found)) :
    u.Kept (Native.world >>= next) := u.kept_bind _ _ (fun _ holds => holds) rest

theorem kept_change (u : Usual) (changed : World) (next : NativeRun β) (rest : u.Kept next) :
    u.Kept (Native.setWorld changed >>= fun _ => next) :=
  u.kept_bind _ _ (fun host holds => u.change host changed holds) fun _ => rest

theorem kept_numberArg (u : Usual) (native : Native) (value : Value) : u.Kept (Native.numberArg native value) := by
  cases value with
  | number number => exact u.kept_pure number
  | _ => exact fun _ holds => ⟨holds, u.complain _ fun _ same => by cases same⟩

theorem kept_throwDice (u : Usual) (fuel : Nat) (low high : Value) : u.Kept (Native.throwDice fuel low high) := by
  refine u.kept_bind _ _ (u.kept_numberArg .random low) fun low => ?_
  refine u.kept_bind _ _ (u.kept_numberArg .random high) fun high => ?_
  refine u.kept_bind _ _ ?_ ?_
  · cases asked : Native.rangeOf low high with
    | ok range => exact u.kept_pure range
    | error error => exact fun _ holds => ⟨holds, u.complain error (rangeOf_complaint low high error asked)⟩
  · rintro ⟨first, last⟩
    refine u.kept_look _ fun found => ?_
    cases found.randomInt fuel first last with
    | none => exact fun _ _ => trivial
    | some thrown => exact u.kept_change _ _ (u.kept_pure _)

theorem kept_readClock (u : Usual) : u.Kept Native.readClock := by
  refine u.kept_bind _ _ (fun host holds => u.goOn host _ holds) fun time => ?_
  cases time.seconds? with
  | some seconds => exact u.kept_pure (Value.number seconds)
  | none => exact fun _ holds => ⟨holds, u.complain _ fun _ same => by cases same⟩

theorem kept_call (u : Usual) (fuel : Nat) (native : Native) (args : List Value) (notInput : native ≠ .input) :
    u.Kept (native.call fuel args) := by
  cases native with
  | input => exact absurd rfl notInput
  | character => exact u.kept_announce _
  | choice => exact u.kept_announce _
  | restart => exact u.kept_look _ fun _ => u.kept_change _ _ (u.kept_narrate _)
  | add =>
    refine u.kept_bind _ _ (u.kept_narrate _) fun _ => ?_
    exact u.kept_look _ fun _ => u.kept_change _ _ (u.kept_pure _)
  | inventory => exact u.kept_look _ fun _ => u.kept_bind _ _ (u.kept_narrate _) fun _ => u.kept_pure _
  | use =>
    refine u.kept_look _ fun _ => u.kept_change _ _ ?_
    exact u.kept_bind _ _ (u.kept_narrate _) fun _ => u.kept_pure _
  | item => exact u.kept_look _ fun _ => u.kept_pure _
  | setStat =>
    refine u.kept_bind _ _ (u.kept_numberArg .setStat _) fun _ => ?_
    exact u.kept_look _ fun _ => u.kept_change _ _ (u.kept_pure _)
  | modStat =>
    refine u.kept_bind _ _ (u.kept_numberArg .modStat _) fun _ => ?_
    exact u.kept_look _ fun _ => u.kept_change _ _ (u.kept_pure _)
  | getStat => exact u.kept_look _ fun _ => u.kept_pure _
  | checkStats => exact u.kept_look _ fun _ => u.kept_narrate _
  | random => exact u.kept_throwDice fuel _ _
  | clock => exact u.kept_readClock
  | _ => exact u.kept_narrate _

end Usual

def unread (input : List UInt8) : Usual where
  holds := fun host => host.input = input
  meets := fun _ => True
  write := by
    intro line host same
    unfold Run.mapFault writeLine write
    dsimp only
    by_cases fits : host.sink.fits (Text.Utf8.encode (line ++ "\n")) = true
    · rw [if_pos fits]
      exact same
    · rw [if_neg fits]
      exact ⟨same, trivial⟩
  change := fun _ _ same => same
  goOn := fun _ _ same => same
  complain := fun _ _ => trivial

def NativeError.refusal : NativeError → Bool
  | .stream .sinkFull => true
  | .stream .flushFailed => true
  | _ => false

def unhindered : Usual where
  holds := fun host => host.sink.room = none ∧ host.sink.flushFails = false
  meets := fun error => error.refusal = false
  write := by
    intro line host free
    unfold Run.mapFault writeLine
    rw [write_unlimited (line ++ "\n") host free.1]
    exact free
  change := fun _ _ free => free
  goOn := fun _ _ free => free
  complain := by
    intro error other
    cases error with
    | stream stream => exact absurd rfl (other stream)
    | _ => rfl

namespace Native

inductive Gives : Option (List UInt8) → Except NativeError Value → Prop where
  | atEnd : Gives none (.ok (.string ""))
  | text (line : List UInt8) (text bare : String) (valid : Text.Utf8.decode? line = some text) (stripped : Bare text bare) :
      Gives (some line) (.ok (.string bare))
  | invalid (line : List UInt8) (broken : Text.Utf8.decode? line = none) :
      Gives (some line) (.error (.stream .notUtf8))

def lineTaken : NativeRun Value := do
  let line ← Run.mapFault .stream takeLine
  return .string ((line.map stripEnds).getD "")

theorem lineTaken_gives (host : Host) :
    ∃ result input, lineTaken host = Run.ofExcept result { host with input } ∧ Gives (lines host.input).head? result ∧
      lines input = (lines host.input).tail := by
  obtain ⟨said, input, taken, told, rest⟩ := takeLine_lines host
  simp only [lineTaken, Bind.bind, Run.bind, Run.mapFault, taken]
  generalize (lines host.input).head? = line? at told ⊢
  cases told with
  | atEnd => exact ⟨.ok (.string ""), input, rfl, .atEnd, rest⟩
  | text line text valid => exact ⟨.ok (.string (stripEnds text)), input, rfl, .text line text _ valid (stripEnds_bare text), rest⟩
  | invalid line broken => exact ⟨.error (.stream .notUtf8), input, rfl, .invalid line broken, rest⟩

theorem readLine_asked (host after : Host) (wrote : write "> " host = .done () after)
    (flushes : after.sink.flushFails = false) : readLine host = lineTaken after := by
  have flushed : flush after = .done () after := if_neg (by simp [flushes])
  simp only [readLine, prompt, lineTaken, Bind.bind, Run.bind, Run.mapFault, wrote, flushed]
  cases takeLine after <;> rfl

theorem readLine_asks (host : Host) :
    (∃ error after, readLine host = .fault error after ∧ error.refusal = true) ∨
      ∃ sink, readLine host = lineTaken { host with sink } := by
  by_cases fits : host.sink.fits (Text.Utf8.encode "> ") = true
  · have wrote : write "> " host = .done () { host with sink := host.sink.push (Text.Utf8.encode "> ") } := if_pos fits
    cases stuck : (host.sink.push (Text.Utf8.encode "> ")).flushFails with
    | true =>
      refine Or.inl ⟨.stream .flushFailed, { host with sink := host.sink.push (Text.Utf8.encode "> ") }, ?_, rfl⟩
      simp only [readLine, prompt, flush, Bind.bind, Run.bind, Run.mapFault, wrote, if_pos stuck]
    | false => exact Or.inr ⟨_, readLine_asked host _ wrote stuck⟩
  · have full : write "> " host = .fault .sinkFull { host with sink := host.sink.push (Text.Utf8.encode "> ") } :=
      if_neg fits
    refine Or.inl ⟨.stream .sinkFull, { host with sink := host.sink.push (Text.Utf8.encode "> ") }, ?_, rfl⟩
    simp only [readLine, prompt, Bind.bind, Run.bind, Run.mapFault, full]

-- What comes of input when the sink takes the question: the next line is used up, whatever is in it.
theorem readLine_gives (host : Host)
    (asked : ∀ error after, readLine host = .fault error after → error.refusal = false) :
    ∃ result next, readLine host = Run.ofExcept result next ∧ Gives (lines host.input).head? result ∧
      lines next.input = (lines host.input).tail := by
  rcases readLine_asks host with ⟨error, after, failed, refused⟩ | ⟨sink, taken⟩
  · have accepted := asked error after failed
    rw [refused] at accepted
    cases accepted
  · obtain ⟨result, input, ended, gives, rest⟩ := lineTaken_gives { host with sink }
    exact ⟨result, _, taken.trans ended, gives, rest⟩

theorem call_unhindered (fuel : Nat) (native : Native) (args : List Value) :
    unhindered.Kept (native.call fuel args) := by
  by_cases isInput : native = .input
  · subst isInput
    intro host free
    obtain ⟨result, input, ended, gives, _⟩ := lineTaken_gives (host.afterWriting "> ")
    have ran : call fuel .input args host = Run.ofExcept result { host.afterWriting "> " with input } :=
      (readLine_asked host _ (write_unlimited "> " host free.1) free.2).trans ended
    rw [ran]
    generalize (lines (host.afterWriting "> ").input).head? = line? at gives
    cases gives with
    | invalid line broken => exact ⟨free, rfl⟩
    | _ => exact free
  · exact unhindered.kept_call fuel native args isInput

end Native

end StoryScript

import StoryScript.Host

set_option autoImplicit false

namespace StoryScript

namespace Finish

variable {σ ε α : Type}

def state? : Finish σ ε α → Option σ
  | .done _ after => some after
  | .fault _ after => some after
  | .outOfFuel => none

def placed (place : σ → σ) (image : α → α) : Finish σ ε α → Finish σ ε α
  | .done result after => .done (image result) (place after)
  | .fault error after => .fault error (place after)
  | .outOfFuel => .outOfFuel

def carried {τ δ : Type} (place : σ → τ) (rename : ε → δ) : Finish σ ε α → Finish τ δ α
  | .done result after => .done result (place after)
  | .fault error after => .fault (rename error) (place after)
  | .outOfFuel => .outOfFuel

end Finish

def Host.withRoom (room : Option Nat) (host : Host) : Host := { host with sink := { host.sink with room } }

structure Outlet (σ ε : Type) where
  written : σ → Array UInt8
  room : σ → Option Nat
  withRoom : Option Nat → σ → σ
  full : ε → Prop

-- How a run ends when there is room for so many bytes only, beside the same run without a limit. While all
-- fits nothing is different. If it does not, the run stops at a full sink with the bytes that fitted, and the
-- other may have gone on as it likes.
inductive Outlet.Cut {σ ε α : Type} (o : Outlet σ ε) (image : α → α) (room : Nat) (state : σ) :
    Finish σ ε α → Finish σ ε α → Prop where
  | fits (x : Finish σ ε α) (after : σ) (bytes : Array UInt8) (ends : x.state? = some after)
      (free : o.room after = none) (wrote : o.written after = o.written state ++ bytes) (few : bytes.size ≤ room) :
      Cut o image room state x (x.placed (o.withRoom (some (room - bytes.size))) image)
  | overflows (x : Finish σ ε α) (after stopped : σ) (error : ε) (bytes : Array UInt8) (ends : x.state? = some after)
      (free : o.room after = none) (wrote : o.written after = o.written state ++ bytes) (many : room < bytes.size)
      (full : o.full error) (kept : o.written stopped = o.written state ++ bytes.extract 0 room) :
      Cut o image room state x (.fault error stopped)
  | starved (y : Finish σ ε α) : Cut o image room state .outOfFuel y

namespace Outlet

variable {σ ε α β : Type}

def Truncates (o : Outlet σ ε) (image : α → α) (run other : Run σ ε α) : Prop :=
  ∀ state room, o.room state = none → o.Cut image room state (run state) (other (o.withRoom (some room) state))

theorem cut_after (o : Outlet σ ε) (image : α → α) (room : Nat) (state middle : σ) (bytes : Array UInt8)
    (x y : Finish σ ε α) (wrote : o.written middle = o.written state ++ bytes) (few : bytes.size ≤ room)
    (cut : o.Cut image (room - bytes.size) middle x y) : o.Cut image room state x y := by
  cases cut with
  | fits _ after more ends free wroteMore fewMore =>
    have rest : room - bytes.size - more.size = room - (bytes ++ more).size := by
      rw [Array.size_append, Nat.sub_sub]
    rw [rest]
    refine .fits x after (bytes ++ more) ends free ?_ ?_
    · rw [wroteMore, wrote, Array.append_assoc]
    · rw [Array.size_append]
      omega
  | overflows _ after stopped error more ends free wroteMore many full kept =>
    refine .overflows x after stopped error (bytes ++ more) ends free ?_ ?_ full ?_
    · rw [wroteMore, wrote, Array.append_assoc]
    · rw [Array.size_append]
      omega
    · rw [kept, wrote, Array.append_assoc, Array.extract_append, Array.extract_eq_self_of_le few, Nat.zero_sub]
  | starved => exact .starved y

theorem cut_beyond (o : Outlet σ ε) (image : α → α) (room other : Nat) (state middle stopped : σ) (error : ε)
    (bytes : Array UInt8) (x y : Finish σ ε α) (wrote : o.written middle = o.written state ++ bytes)
    (many : room < bytes.size) (full : o.full error) (kept : o.written stopped = o.written state ++ bytes.extract 0 room)
    (cut : o.Cut image other middle x y) : o.Cut image room state x (.fault error stopped) := by
  have further : ∀ (after : σ) (more : Array UInt8), x.state? = some after → o.room after = none →
      o.written after = o.written middle ++ more → o.Cut image room state x (.fault error stopped) := by
    intro after more ends free wroteMore
    have nothing : more.extract (0 - bytes.size) (room - bytes.size) = #[] := by
      apply Array.extract_eq_empty_of_le
      omega
    refine .overflows x after stopped error (bytes ++ more) ends free ?_ ?_ full ?_
    · rw [wroteMore, wrote, Array.append_assoc]
    · rw [Array.size_append]
      omega
    · rw [kept, Array.extract_append, nothing, Array.append_empty]
  cases cut with
  | fits _ after more ends free wroteMore _ => exact further after more ends free wroteMore
  | overflows _ after _ _ more ends free wroteMore _ _ _ => exact further after more ends free wroteMore
  | starved => exact .starved _

theorem truncates_bind (o : Outlet σ ε) (image : α → α) (imageToo : β → β) (run other : Run σ ε α)
    (next otherNext : α → Run σ ε β) (first : o.Truncates image run other)
    (second : ∀ value, o.Truncates imageToo (next value) (otherNext (image value))) :
    o.Truncates imageToo (run >>= next) (other >>= otherNext) := by
  intro state room unlimited
  have start := first state room unlimited
  change o.Cut imageToo room state (Run.bind run next state) (Run.bind other otherNext _)
  unfold Run.bind
  generalize run state = x at start
  generalize other (o.withRoom (some room) state) = y at start
  cases start with
  | fits _ after bytes ends free wrote few =>
    cases x with
    | done result middle =>
      cases ends
      exact o.cut_after imageToo room state after bytes _ _ wrote few (second result after _ free)
    | fault error middle => exact .fits (.fault error middle) after bytes ends free wrote few
    | outOfFuel => cases ends
  | overflows _ after stopped error bytes ends free wrote many full kept =>
    cases x with
    | done result middle =>
      cases ends
      exact o.cut_beyond imageToo room 0 state after stopped error bytes _ _ wrote many full kept
        (second result after 0 free)
    | fault reason middle =>
      exact .overflows (.fault reason middle) after stopped error bytes ends free wrote many full kept
    | outOfFuel => cases ends
  | starved => exact .starved _

-- A run that neither writes nor looks at the room there is.
structure Silent (o : Outlet σ ε) (image : α → α) (run other : Run σ ε α) : Prop where
  alike : ∀ state room, other (o.withRoom room state) = (run state).placed (o.withRoom room) image
  keeps : ∀ state after, (run state).state? = some after →
    o.room after = o.room state ∧ o.written after = o.written state

theorem truncates_silent (o : Outlet σ ε) (image : α → α) (run other : Run σ ε α) (silent : o.Silent image run other) :
    o.Truncates image run other := by
  intro state room unlimited
  rw [silent.alike]
  cases ends : (run state).state? with
  | none =>
    cases ended : run state with
    | outOfFuel => exact .starved _
    | _ => simp [ended, Finish.state?] at ends
  | some after =>
    obtain ⟨free, writes⟩ := silent.keeps state after ends
    exact .fits (run state) after #[] ends (free.trans unlimited) (writes.trans Array.append_empty.symm) (Nat.zero_le room)

structure Carries {τ δ : Type} (o : Outlet σ ε) (p : Outlet τ δ) (place : σ → τ) (rename : ε → δ) : Prop where
  written : ∀ state, p.written (place state) = o.written state
  room : ∀ state, p.room (place state) = o.room state
  withRoom : ∀ room state, place (o.withRoom room state) = p.withRoom room (place state)
  full : ∀ error, o.full error → p.full (rename error)

theorem state_carried {τ δ : Type} (place : σ → τ) (rename : ε → δ) (x : Finish σ ε α) :
    (x.carried place rename).state? = x.state?.map place := by
  cases x <;> rfl

theorem cut_carried {τ δ : Type} (o : Outlet σ ε) (p : Outlet τ δ) (place : σ → τ) (rename : ε → δ)
    (carries : o.Carries p place rename) (image : α → α) (room : Nat) (state : σ) (begun : τ) (x y : Finish σ ε α)
    (written : p.written begun = o.written state) (cut : o.Cut image room state x y) :
    p.Cut image room begun (x.carried place rename) (y.carried place rename) := by
  cases cut with
  | fits _ after bytes ends free wrote few =>
    have same : (x.placed (o.withRoom (some (room - bytes.size))) image).carried place rename =
        (x.carried place rename).placed (p.withRoom (some (room - bytes.size))) image := by
      cases x with
      | done result last => exact congrArg (Finish.done _) (carries.withRoom _ last)
      | fault error last => exact congrArg (Finish.fault _) (carries.withRoom _ last)
      | outOfFuel => rfl
    rw [same]
    refine .fits _ (place after) bytes ?_ ((carries.room after).trans free) ?_ few
    · rw [state_carried, ends, Option.map_some]
    · rw [carries.written, wrote, written]
  | overflows _ after stopped error bytes ends free wrote many full kept =>
    refine .overflows _ (place after) (place stopped) (rename error) bytes ?_ ((carries.room after).trans free) ?_ many
      (carries.full error full) ?_
    · rw [state_carried, ends, Option.map_some]
    · rw [carries.written, wrote, written]
    · rw [carries.written, kept, written]
  | starved => exact .starved _

theorem silent_pure (o : Outlet σ ε) (image : α → α) (value : α) :
    o.Silent image (pure value) (pure (image value)) where
  alike := fun _ _ => rfl
  keeps := by
    rintro state after ⟨⟩
    exact ⟨rfl, rfl⟩

theorem silent_fail (o : Outlet σ ε) (image : α → α) (error : ε) :
    o.Silent image (Run.fail error) (Run.fail error) where
  alike := fun _ _ => rfl
  keeps := by
    rintro state after ⟨⟩
    exact ⟨rfl, rfl⟩

theorem silent_noFuel (o : Outlet σ ε) (image : α → α) : o.Silent image Run.noFuel Run.noFuel where
  alike := fun _ _ => rfl
  keeps := by
    rintro state after ⟨⟩

-- A run that a limit does nothing to but truncate what it writes.
def Truncated (o : Outlet σ ε) (run : Run σ ε α) : Prop := o.Truncates id run run

theorem truncated_silent (o : Outlet σ ε) (run : Run σ ε α) (silent : o.Silent id run run) : o.Truncated run :=
  o.truncates_silent id run run silent

theorem truncated_pure (o : Outlet σ ε) (value : α) : o.Truncated (pure value) :=
  o.truncated_silent _ (o.silent_pure id value)

theorem truncated_bind (o : Outlet σ ε) (run : Run σ ε α) (next : α → Run σ ε β) (first : o.Truncated run)
    (second : ∀ value, o.Truncated (next value)) : o.Truncated (run >>= next) :=
  o.truncates_bind id id run run next next first second

end Outlet

end StoryScript

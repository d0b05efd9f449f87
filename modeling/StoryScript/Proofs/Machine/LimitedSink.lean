import StoryScript.Proofs.Machine.Tandem
import StoryScript.Proofs.Native.Truncation

set_option autoImplicit false

namespace StoryScript

namespace Machine

def withRoom (room : Option Nat) (m : Machine) : Machine := { m with host := m.host.withRoom room }

def outlet : Outlet Machine RuntimeError :=
  ⟨fun m => m.host.sink.written, fun m => m.host.sink.room, withRoom,
    fun error => error.fault = .native (.stream .sinkFull)⟩

theorem endedAt_carried {α : Type} (scope : Nat) (x : Finish Machine RuntimeError α) :
    endedAt scope x = x.carried (backTo scope) id := by
  cases x <;> rfl

theorem backTo_carries (scope : Nat) : outlet.Carries outlet (backTo scope) id :=
  ⟨fun _ => rfl, fun _ => rfl, fun _ _ => rfl, fun _ full => full⟩

theorem onHost_truncated {α : Type} (line : Nat) (run : NativeRun α) (truncated : nativeOutlet.Truncated run) :
    outlet.Truncated (onHost line run) := by
  intro m room unlimited
  have carries : nativeOutlet.Carries outlet (fun host => { m with host }) fun error => ⟨.native error, line⟩ :=
    ⟨fun _ => rfl, fun _ => rfl, fun _ _ => rfl, fun _ full => congrArg RuntimeFault.native full⟩
  have carried : ∀ host, onHost line run { m with host } =
      (run host).carried (fun after => { m with host := after }) fun error => ⟨.native error, line⟩ := by
    intro host
    unfold onHost
    dsimp only
    cases run host <;> rfl
  have cut := Outlet.cut_carried _ _ _ _ carries id room m.host m _ _ rfl (truncated m.host room unlimited)
  rw [← carried, ← carried] at cut
  exact cut

theorem lookup_silent (ident : Ident) : outlet.Silent id (lookup ident) (lookup ident) where
  alike := by
    intro m room
    change lookup ident (m.withRoom room) = _
    unfold lookup withRoom
    cases m.scopes.get m.current ident.name ident.line <;> rfl
  keeps := by
    intro m after ends
    unfold lookup at ends
    cases found : m.scopes.get m.current ident.name ident.line <;>
    · rw [found] at ends
      cases ends
      exact ⟨rfl, rfl⟩

theorem assign_silent (ident : Ident) (value : Value) : outlet.Silent id (assign ident value) (assign ident value) where
  alike := by
    intro m room
    change assign ident value (m.withRoom room) = _
    unfold assign withRoom
    dsimp only
    cases m.scopes.resolve m.current ident.name <;> rfl
  keeps := by
    intro m after ends
    unfold assign at ends
    cases found : m.scopes.resolve m.current ident.name <;>
    · rw [found] at ends
      cases ends
      exact ⟨rfl, rfl⟩

-- A machine whose sink takes only so much does the same as one whose sink takes everything, until it is full.
def truncation : Tandem where
  number := id
  Pair := fun m n => outlet.room m = none ∧ ∃ room, n = m.withRoom (some room)
  Ends := fun image m n x y => ∀ room, n = m.withRoom (some room) → outlet.Cut image room m x y
  current := by
    rintro m n ⟨_, room, rfl⟩
    rfl
  pure := by
    rintro α image value m n ⟨unlimited, _⟩ room rfl
    exact outlet.truncates_silent image _ _ (outlet.silent_pure image value) m room unlimited
  fail := by
    rintro α image line fault m n ⟨unlimited, _⟩ room rfl
    exact outlet.truncates_silent image _ _ (outlet.silent_fail image ⟨fault, line⟩) m room unlimited
  noFuel := by
    rintro α image m n _ room rfl
    exact .starved _
  bind := by
    rintro α β image imageToo run other next otherNext first second m n ⟨unlimited, _⟩ room rfl
    refine outlet.truncates_bind image imageToo run other next otherNext ?_ ?_ m room unlimited
    · intro state room unlimited
      exact first state _ ⟨unlimited, room, rfl⟩ room rfl
    · intro value state room unlimited
      exact second value state _ ⟨unlimited, room, rfl⟩ room rfl
  within := by
    rintro α image parent run other both m n ⟨unlimited, _⟩ room rfl
    have inside := both (m.nested parent) _ ⟨unlimited, room, rfl⟩ room rfl
    rw [within_run, within_run, endedAt_carried, endedAt_carried]
    exact outlet.cut_carried outlet _ _ (backTo_carries m.current) image room (m.nested parent) m _ _ rfl inside
  back := by
    rintro α image scope run other both m n ⟨unlimited, _⟩ room rfl
    have ends := both m _ ⟨unlimited, room, rfl⟩ room rfl
    dsimp only
    rw [endedAt_carried, endedAt_carried]
    exact outlet.cut_carried outlet _ _ (backTo_carries scope) image room m m _ _ rfl ends
  lookup := by
    rintro ident m n ⟨unlimited, _⟩ room rfl
    rw [Value.renumbered_id]
    exact outlet.truncated_silent _ (lookup_silent ident) m room unlimited
  assign := by
    rintro ident value m n ⟨unlimited, _⟩ room rfl
    rw [Value.renumbered_id]
    exact outlet.truncated_silent _ (assign_silent ident value) m room unlimited
  define := by
    rintro name value m n ⟨unlimited, _⟩ room rfl
    rw [Value.renumbered_id]
    refine outlet.truncated_silent (define name value) ⟨fun _ _ => rfl, ?_⟩ m room unlimited
    rintro state after ⟨⟩
    exact ⟨rfl, rfl⟩
  declare := by
    rintro name declaration m n ⟨unlimited, _⟩ room rfl
    rw [FunctionDecl.renumbered_id]
    refine outlet.truncated_silent (declareHere name declaration) ⟨fun _ _ => rfl, ?_⟩ m room unlimited
    rintro state after ⟨⟩
    exact ⟨rfl, rfl⟩
  print := by
    rintro line text m n ⟨unlimited, _⟩ room rfl
    exact onHost_truncated line _ (Native.stream_truncated _ (Host.write_truncated _)) m room unlimited
  native := by
    rintro target fuel args line m n ⟨unlimited, _⟩ room rfl
    rw [Value.renumbered_id]
    exact onHost_truncated line _ (Native.call_truncated fuel target args) m room unlimited

theorem interpret_truncated (fuel : Nat) (program : Program) : outlet.Truncated (interpret fuel program) := by
  intro m room unlimited
  have cut := truncation.interpret_together fuel program m _ ⟨unlimited, room, rfl⟩ room rfl
  rw [Program.renumbered, truncation, Stmt.renumberedAll_id] at cut
  exact cut

end Machine

end StoryScript

import StoryScript.Proofs.Grammar.Laws
import StoryScript.Proofs.Machine.Contract

set_option autoImplicit false

namespace StoryScript.Grammar

-- What may stand as the body of a loop or as a branch is read without declarations: whatever such a reading
-- gives declares no name in the scope it stands in. Faults on the way do not matter for this.
def Reading.Silent {n : Nat} (reading : Reading Stmt n) : Prop :=
  ∀ stmt, reading.phrase? = some stmt → stmt.declared = []

section Combinators

variable {α β : Type} {m n : Nat}

theorem phrase_map (f : α → β) (r : Reading α n) : (r.map f).phrase? = r.phrase?.map f := by
  cases r <;> rfl

theorem phrase_after (earlier : List Fault) (r : Reading α n) : (r.after earlier).phrase? = r.phrase? := by
  cases r <;> rfl

theorem phrase_widen (r : Reading α m) (le : m ≤ n) : (r.widen le).phrase? = r.phrase? := by
  cases r <;> rfl

theorem phrase_within (r : Reading α m) (fewer : m < n) : (r.within fewer).phrase? = r.phrase? := phrase_widen r _

theorem phrase_past (r : Reading α n) : r.past.phrase? = r.phrase? := phrase_widen r _

theorem phrase_bind (r : Reading α n) (next : α → (rest : List Token) → rest.length < n → Reading β n) (phrase : β)
    (read : (r.bind next).phrase? = some phrase) :
    ∃ first fewer, r.phrase? = some first ∧ (next first r.rest fewer).phrase? = some phrase := by
  cases r with
  | failed faults rest atMost => cases read
  | read first faults rest fewer =>
    refine ⟨first, fewer, rfl, ?_⟩
    rw [Reading.bind, phrase_after] at read
    exact read

theorem silent_map (f : α → Stmt) (r : Reading α n) (each : ∀ found, r.phrase? = some found → (f found).declared = []) :
    (r.map f).Silent := by
  intro stmt read
  rw [phrase_map] at read
  obtain ⟨found, first, rfl⟩ := Option.map_eq_some_iff.1 read
  exact each found first

theorem silent_widen (r : Reading Stmt m) (le : m ≤ n) (silent : r.Silent) : (r.widen le).Silent := by
  intro stmt read
  rw [phrase_widen] at read
  exact silent stmt read

theorem silent_bind (r : Reading α n) (next : α → (rest : List Token) → rest.length < n → Reading Stmt n)
    (later : ∀ found rest fewer, r.phrase? = some found → (next found rest fewer).Silent) : (r.bind next).Silent := by
  intro stmt read
  obtain ⟨found, fewer, first, second⟩ := phrase_bind r next stmt read
  exact later found r.rest fewer first stmt second

end Combinators

theorem expressionStatement_silent (tokens : List Token) : (expressionStatement tokens).Silent :=
  silent_map Stmt.expression _ fun _ _ => rfl

theorem returnStatement_silent (word : Token) (tokens : List Token) : (returnStatement word tokens).Silent := by
  unfold returnStatement
  split
  · exact silent_map _ _ fun _ _ => rfl
  · exact silent_map _ _ fun _ _ => rfl

theorem statement_silent (tokens : List Token) : (statement tokens).Silent := by
  suffices all : ∀ count (tokens : List Token), tokens.length = count → (statement tokens).Silent from all _ tokens rfl
  intro count
  induction count using Nat.strongRecOn with
  | ind count ih =>
    intro tokens length
    subst length
    have later : ∀ rest : List Token, rest.length < tokens.length → (statement rest).Silent :=
      fun rest fewer => ih rest.length fewer rest rfl
    cases tokens with
    | nil =>
      rw [statement]
      exact expressionStatement_silent []
    | cons t rest =>
      rw [statement]
      split
      · exact silent_widen _ _ (silent_map _ _ fun _ _ => rfl)
      · exact silent_widen _ _ (returnStatement_silent t rest)
      · exact silent_widen _ _ (silent_map _ _ fun _ _ => rfl)
      · refine silent_bind _ _ ?_
        intro condition rest₁ fewer _
        refine silent_bind _ _ ?_
        intro thenBranch rest₂ fewer' read
        rw [phrase_within] at read
        have thenSilent := later rest₁ fewer thenBranch read
        have onlyThen : (Stmt.ifThen condition thenBranch).declared = [] := thenSilent
        cases rest₂ with
        | nil =>
          rintro stmt ⟨⟩
          exact onlyThen
        | cons word rest₃ =>
          dsimp only
          split
          · refine silent_widen _ _ (silent_map _ _ fun elseBranch readElse => ?_)
            have elseSilent := later rest₃ (tail_lt_succ fewer') elseBranch readElse
            rw [Stmt.declared, thenSilent, elseSilent, List.append_nil]
          · rintro stmt ⟨⟩
            exact onlyThen
      · refine silent_bind _ _ ?_
        intro condition rest₁ fewer _
        exact silent_widen _ _ (silent_map _ _ fun body read => later rest₁ fewer body read)
      · refine silent_bind _ _ ?_
        intro clauses rest₁ fewer _
        exact silent_widen _ _ (silent_map _ _ fun body _ => rfl)
      · exact expressionStatement_silent (t :: rest)

theorem for_parts (word : Token) (tokens : List Token) (stmt : Stmt) (isFor : word.kind = .wordFor)
    (accepted : (statement (word :: tokens)).phrase? = some stmt) :
    ∃ clauses body, (forClauses tokens).phrase? = some clauses ∧
      (statement (forClauses tokens).rest).phrase? = some body ∧
      stmt = .forLoop clauses.initializer clauses.condition clauses.increment body := by
  rw [statement] at accepted
  simp only [isFor] at accepted
  obtain ⟨clauses, fewer, first, second⟩ := phrase_bind _ _ stmt accepted
  rw [phrase_past] at first
  rw [phrase_within, phrase_map] at second
  obtain ⟨body, read, rfl⟩ := Option.map_eq_some_iff.1 second
  rw [Reading.past, rest_widen] at read
  exact ⟨clauses, body, first, read, rfl⟩

end StoryScript.Grammar

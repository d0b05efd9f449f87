import StoryScript.Proofs.Grammar.Position

set_option autoImplicit false

namespace StoryScript

open Grammar

namespace Cursor

-- One step: the tokens stay as they are, and at most one of them is gone past, which is not an end.
inductive Step (c : Cursor) : Cursor → Prop where
  | looked : Step c c
  | passed (t : Token) (ahead : c.tokens[c.current]? = some t) (other : t.kind ≠ .eof) :
      Step c { c with current := c.current + 1 }
  | reported (d : Diagnostic) : Step c { c with diagnostics := c.diagnostics ++ [d] }

inductive Steps : Cursor → List Cursor → Cursor → Prop where
  | none (c : Cursor) : Steps c [] c
  | cons (c next last : Cursor) (course : List Cursor) (step : Step c next) (further : Steps next course last) :
      Steps c (next :: course) last

theorem steps_append (c middle last : Cursor) (first second : List Cursor) (former : Steps c first middle)
    (latter : Steps middle second last) : Steps c (first ++ second) last := by
  induction former with
  | none => exact latter
  | cons c next _ course step _ ih => exact .cons c next last _ step (ih latter)

theorem steps_one (c next : Cursor) (step : Step c next) : Steps c [next] next := .cons c next next [] step (.none next)

end Cursor

-- A vector of tokens with its first end pointed out.
structure Ended where
  before : List Token
  last : Token
  after : List Token
  unended : ∀ t ∈ before, t.kind ≠ .eof
  isEnd : last.kind = .eof

namespace Ended

variable (v : Ended)

def tokens : List Token := v.before ++ v.last :: v.after

def stand (left : List Token) (diagnostics : List Diagnostic) : Cursor :=
  ⟨v.tokens, v.before.length - left.length, diagnostics⟩

def ahead (left : List Token) : Token := left.headD v.last

theorem looks (left : List Token) (suffix : left <:+ v.before) :
    v.tokens[v.before.length - left.length]? = some (v.ahead left) := by
  obtain ⟨gone, same⟩ := suffix
  have place : v.before.length - left.length = gone.length := by
    rw [← same, List.length_append, Nat.add_sub_cancel]
  rw [place, tokens, ← same, List.append_assoc, List.getElem?_append_right (Nat.le_refl _), Nat.sub_self]
  cases left <;> rfl

theorem looks_back (t : Token) (left : List Token) (suffix : t :: left <:+ v.before) :
    v.tokens[v.before.length - left.length - 1]? = some t := by
  have place : v.before.length - left.length - 1 = v.before.length - (t :: left).length := by
    rw [List.length_cons]
    omega
  rw [place, v.looks (t :: left) suffix]
  rfl

theorem diagnostic_ahead (complaint : Complaint) (left : List Token) (suffix : left <:+ v.before) :
    (Fault.mk complaint left.head?).diagnostic v.last.line =
      ⟨complaint.message, (v.ahead left).line,
        if (v.ahead left).kind = .eof then .endOfTokens else .lexeme (v.ahead left).lexeme⟩ := by
  cases left with
  | nil => simp [Fault.diagnostic, ahead, v.isEnd, Complaint.at]
  | cons t rest =>
    have other := v.unended t (suffix.subset List.mem_cons_self)
    simp [Fault.diagnostic, ahead, other, Complaint.at]

end Ended

namespace Walk

open Cursor (Step Steps steps_append steps_one)

variable {α β : Type} {m n : Nat} (v : Ended)

def finishOf (r : Reading α n) (diagnostics : List Diagnostic) : Finish Cursor Cursor.Stop α :=
  match r with
  | .read found faults rest _ =>
    .done found (v.stand rest (diagnostics ++ faults.map (Fault.diagnostic v.last.line)))
  | .failed faults rest _ =>
    .fault .violation (v.stand rest (diagnostics ++ faults.map (Fault.diagnostic v.last.line)))

def EndsAt (finish : Finish Cursor Cursor.Stop α) (last : Cursor) : Prop :=
  match finish with
  | .done _ state => state = last
  | .fault _ state => state = last
  | .outOfFuel => True

-- A walk that steps from where it begins to where it ends, and ends as the reader does or runs out of fuel, which
-- it does not when there is enough.
structure Meets (x : Walk α) (left : List Token) (r : Reading α n) (enough : Prop) : Prop where
  within : r.rest <:+ v.before
  steps : ∀ diagnostics, ∃ last, Steps (v.stand left diagnostics) (x (v.stand left diagnostics)).1 last ∧
    EndsAt (x (v.stand left diagnostics)).2 last
  ends : ∀ diagnostics, (x (v.stand left diagnostics)).2 = finishOf v r diagnostics ∨
    (x (v.stand left diagnostics)).2 = .outOfFuel ∧ ¬ enough

def Follows (x : Walk α) (left : List Token) (r : Reading α n) (enough : Prop) : Prop :=
  left <:+ v.before → Meets v x left r enough

instance : LawfulMonad Walk := by
  refine LawfulMonad.mk' Walk ?_ ?_ ?_
  · intro α x
    funext c
    change Walk.bind x Walk.pure c = x c
    unfold Walk.bind
    obtain ⟨course, finish⟩ := x c
    cases finish <;> simp [Walk.pure]
  · intro α β found f
    funext c
    change Walk.bind (Walk.pure found) f c = f found c
    simp [Walk.bind, Walk.pure]
  · intro α β γ x f g
    funext c
    change Walk.bind (Walk.bind x f) g c = Walk.bind x (fun found => Walk.bind (f found) g) c
    unfold Walk.bind
    obtain ⟨course, finish⟩ := x c
    cases finish with
    | done found c' =>
      dsimp only
      obtain ⟨further, finish⟩ := f found c'
      cases finish <;> simp
    | fault stop c' => rfl
    | outOfFuel => rfl

section Laws

variable {v}

theorem follows_less {x : Walk α} {left : List Token} {r : Reading α n} {enough more : Prop}
    (follows : Follows v x left r enough) (implied : more → enough) : Follows v x left r more := by
  intro suffix
  obtain ⟨within, steps, ends⟩ := follows suffix
  exact ⟨within, steps, fun ds => (ends ds).imp_right fun out => ⟨out.1, fun given => out.2 (implied given)⟩⟩

theorem follows_pure (found : α) (left : List Token) (fewer : left.length < n) (enough : Prop) :
    Follows v (pure found) left (.read found [] left fewer) enough := by
  intro suffix
  refine ⟨suffix, fun ds => ⟨_, .none _, rfl⟩, fun ds => Or.inl ?_⟩
  simp [finishOf, pure, Walk.pure]

theorem follows_noFuel {left : List Token} {r : Reading α n} (needed : Nat) (within : r.rest <:+ left) :
    Follows v noFuel left r (needed < 0) := by
  intro suffix
  exact ⟨within.trans suffix, fun ds => ⟨_, .none _, trivial⟩, fun ds => Or.inr ⟨rfl, Nat.not_lt_zero needed⟩⟩

theorem bind_ended (x : Walk α) (f : α → Walk β) (c : Cursor) (finish : Finish Cursor Cursor.Stop α)
    (ended : (x c).2 = finish) : (x >>= f) c = Walk.bind (fun _ => ((x c).1, finish)) f c := by
  subst ended
  rfl

theorem bind_done (x : Walk α) (f : α → Walk β) (c c' : Cursor) (found : α) (done : (x c).2 = .done found c') :
    (x >>= f) c = ((x c).1 ++ (f found c').1, (f found c').2) := bind_ended x f c _ done

theorem bind_fault (x : Walk α) (f : α → Walk β) (c c' : Cursor) (stop : Cursor.Stop)
    (fault : (x c).2 = .fault stop c') : (x >>= f) c = ((x c).1, .fault stop c') := bind_ended x f c _ fault

theorem bind_outOfFuel (x : Walk α) (f : α → Walk β) (c : Cursor) (out : (x c).2 = .outOfFuel) :
    (x >>= f) c = ((x c).1, .outOfFuel) := bind_ended x f c _ out

theorem finishOf_after (earlier : List Fault) (r : Reading α n) (diagnostics : List Diagnostic) :
    finishOf v (r.after earlier) diagnostics =
      finishOf v r (diagnostics ++ earlier.map (Fault.diagnostic v.last.line)) := by
  cases r <;> simp [Reading.after, finishOf]

theorem meets_then {x : Walk α} {f : α → Walk β} {left rest : List Token} {found : α} {faults : List Fault}
    {fewer : rest.length < m} {r : Reading β n} {enough : Prop}
    (first : Meets v x left (.read found faults rest fewer : Reading α m) enough)
    (second : Meets v (f found) rest r enough) : Meets v (x >>= f) left (r.after faults) enough := by
  refine ⟨by rw [rest_after]; exact second.within, fun ds => ?_, fun ds => ?_⟩
  · obtain ⟨last, stepped, endsAt⟩ := first.steps ds
    rcases first.ends ds with done | ⟨out, -⟩
    · rw [bind_done x f _ _ _ done]
      rw [done] at endsAt
      cases endsAt
      obtain ⟨final, further, endsFinal⟩ := second.steps (ds ++ faults.map (Fault.diagnostic v.last.line))
      exact ⟨final, steps_append _ _ _ _ _ stepped further, endsFinal⟩
    · rw [bind_outOfFuel x f _ out]
      exact ⟨last, stepped, trivial⟩
  · rcases first.ends ds with done | ⟨out, few⟩
    · rw [bind_done x f _ _ _ done, finishOf_after]
      exact second.ends _
    · exact Or.inr ⟨congrArg Prod.snd (bind_outOfFuel x f _ out), few⟩

theorem meets_stop {x : Walk α} {f : α → Walk β} {left rest : List Token} {faults : List Fault}
    {atMost : rest.length ≤ m} {enough : Prop} (atMost' : rest.length ≤ n)
    (first : Meets v x left (.failed faults rest atMost : Reading α m) enough) :
    Meets v (x >>= f) left (.failed faults rest atMost' : Reading β n) enough := by
  refine ⟨first.within, fun ds => ?_, fun ds => ?_⟩
  · obtain ⟨last, stepped, endsAt⟩ := first.steps ds
    rcases first.ends ds with fault | ⟨out, -⟩
    · rw [bind_fault x f _ _ _ fault]
      rw [fault] at endsAt
      exact ⟨last, stepped, endsAt⟩
    · rw [bind_outOfFuel x f _ out]
      exact ⟨last, stepped, trivial⟩
  · rcases first.ends ds with fault | ⟨out, few⟩
    · exact Or.inl (congrArg Prod.snd (bind_fault x f _ _ _ fault))
    · exact Or.inr ⟨congrArg Prod.snd (bind_outOfFuel x f _ out), few⟩

theorem follows_bind {x : Walk α} {f : α → Walk β} {left : List Token} {r : Reading α n}
    {next : α → (rest : List Token) → rest.length < n → Reading β n} {enough : Prop}
    (first : Follows v x left r enough)
    (second : ∀ found rest fewer, Follows v (f found) rest (next found rest fewer) enough) :
    Follows v (x >>= f) left (r.bind next) enough := by
  intro suffix
  have reads := first suffix
  cases r with
  | read found faults rest fewer => exact meets_then reads (second found rest fewer reads.within)
  | failed faults rest atMost => exact meets_stop atMost reads

theorem follows_then {x : Walk α} {f : α → Walk β} {left rest : List Token} {found : α} {r : Reading β n}
    {enough : Prop} (first : Follows v x left (ended found rest) enough) (second : Follows v (f found) rest r enough) :
    Follows v (x >>= f) left r enough := by
  intro suffix
  have reads := first suffix
  have whole := meets_then reads (second reads.within)
  rwa [after_nil] at whole

theorem follows_map {x : Walk α} {left : List Token} {r : Reading α n} {enough : Prop} (f : α → β)
    (follows : Follows v x left r enough) : Follows v (x >>= fun found => pure (f found)) left (r.map f) enough := by
  intro suffix
  have reads := follows suffix
  cases r with
  | read found faults rest fewer =>
    have whole := meets_then (f := fun found => pure (f found)) reads
      (follows_pure (n := n) (f found) rest fewer enough reads.within)
    simpa [Reading.after, Reading.map] using whole
  | failed faults rest atMost => exact meets_stop atMost reads

theorem follows_widen {x : Walk α} {left : List Token} {r : Reading α m} {enough : Prop} (le : m ≤ n)
    (follows : Follows v x left r enough) : Follows v x left (r.widen le) enough := by
  intro suffix
  obtain ⟨within, steps, ends⟩ := follows suffix
  cases r <;> exact ⟨within, steps, ends⟩

theorem look_found (index : Cursor → Nat) (c : Cursor) (t : Token) (found : c.tokens[index c]? = some t) :
    look index c = ([c], .done t c) := by
  rw [look, found]

theorem follows_look (index : Cursor → Nat) (left : List Token) (t : Token) (enough : Prop)
    (found : left <:+ v.before → ∀ diagnostics, v.tokens[index (v.stand left diagnostics)]? = some t) :
    Follows v (look index) left (ended t left) enough := by
  intro suffix
  have looked := fun ds => look_found index (v.stand left ds) t (found suffix ds)
  refine ⟨suffix, fun ds => ?_, fun ds => Or.inl ?_⟩
  · rw [looked ds]
    exact ⟨_, steps_one _ _ .looked, rfl⟩
  · rw [looked ds]
    simp [ended, finishOf]

theorem follows_peek (left : List Token) (enough : Prop) : Follows v peek left (ended (v.ahead left) left) enough :=
  follows_look _ left _ enough fun suffix _ => v.looks left suffix

theorem follows_isAtEnd (left : List Token) (enough : Prop) : Follows v isAtEnd left (ended left.isEmpty left) enough := by
  intro suffix
  have looked := follows_map (n := left.length + 1) (fun t : Token => t.kind == .eof) (follows_peek left enough) suffix
  have told : ((v.ahead left).kind == .eof) = left.isEmpty := by
    cases left with
    | nil => exact beq_iff_eq.2 v.isEnd
    | cons t rest => exact beq_eq_false_iff_ne.2 (v.unended t (suffix.subset List.mem_cons_self))
  rw [← told]
  exact looked

theorem follows_check (kind : Kind) (left : List Token) (enough : Prop) :
    Follows v (check kind) left (ended ((v.ahead left).kind == kind) left) enough :=
  follows_map (n := left.length + 1) (fun t : Token => t.kind == kind) (follows_peek left enough)

theorem follows_forward (t : Token) (rest : List Token) (enough : Prop) :
    Follows v (step fun c => { c with current := c.current + 1 }) (t :: rest) (ended () rest) enough := by
  intro suffix
  have moved : ∀ ds, { v.stand (t :: rest) ds with current := (v.stand (t :: rest) ds).current + 1 } =
      v.stand rest ds := by
    intro ds
    have few := suffix.length_le
    rw [List.length_cons] at few
    simp only [Ended.stand, List.length_cons, Cursor.mk.injEq, true_and, and_true]
    omega
  refine ⟨(List.suffix_cons t rest).trans suffix, fun ds => ?_, fun ds => Or.inl ?_⟩
  · refine ⟨_, steps_one _ _ (.passed t (v.looks _ suffix) ?_), rfl⟩
    exact v.unended t (suffix.subset List.mem_cons_self)
  · simp [step, ended, finishOf, moved]

theorem follows_next (t : Token) (rest : List Token) (enough : Prop) :
    Follows v next (t :: rest) (ended t rest) enough := by
  intro suffix
  refine follows_then (follows_isAtEnd (t :: rest) enough) ?_ suffix
  refine follows_then (follows_forward t rest enough) ?_
  exact follows_look _ rest t enough fun _ _ => v.looks_back t rest suffix

-- At the end nothing is gone past, and the token before it is looked at.
theorem follows_next_end (enough : Prop) : ∃ t, Follows v next [] (ended t []) enough := by
  have place : v.before.length - 1 < v.tokens.length := by
    rw [Ended.tokens, List.length_append, List.length_cons]
    omega
  refine ⟨v.tokens[v.before.length - 1], ?_⟩
  refine follows_then (follows_isAtEnd [] enough) ?_
  refine follows_look _ [] _ enough fun _ _ => ?_
  exact List.getElem?_eq_getElem place

theorem follows_eat_taken (kind : Kind) (t : Token) (rest : List Token) (same : t.kind = kind) (enough : Prop) :
    Follows v (eat kind) (t :: rest) (ended true rest) enough := by
  intro suffix
  have other := v.unended t (suffix.subset List.mem_cons_self)
  refine follows_then (follows_check kind (t :: rest) enough) ?_ suffix
  have taken : (((v.ahead (t :: rest)).kind == kind) && kind != .eof) = true := by
    simp [Ended.ahead, same]
    exact same ▸ other
  rw [if_pos taken]
  exact follows_then (follows_next t rest enough) (follows_pure true rest _ enough)

theorem follows_eat_left (kind : Kind) (left : List Token) (different : startsWith kind left = false) (enough : Prop) :
    Follows v (eat kind) left (ended false left) enough := by
  intro suffix
  refine follows_then (follows_check kind left enough) ?_ suffix
  have kept : ¬ (((v.ahead left).kind == kind) && kind != .eof) = true := by
    cases left with
    | nil =>
      simp only [Ended.ahead, List.headD_nil, v.isEnd, Bool.and_eq_true, beq_iff_eq, bne_iff_ne, ne_eq, not_and,
        Decidable.not_not]
      exact Eq.symm
    | cons t rest =>
      have other : (t.kind == kind) = false := different
      simp [Ended.ahead, other]
  rw [if_neg kept]
  exact follows_pure false left _ enough

theorem follows_eat {f : Bool → Walk β} {left : List Token} {r : Reading β n} {enough : Prop} (kind : Kind)
    (taken : ∀ t rest, left = t :: rest → t.kind = kind → Follows v (f true) rest r enough)
    (kept : startsWith kind left = false → Follows v (f false) left r enough) :
    Follows v (eat kind >>= f) left r enough := by
  cases here : startsWith kind left with
  | false => exact follows_then (follows_eat_left kind left here enough) (kept here)
  | true =>
    cases left with
    | nil => cases here
    | cons t rest =>
      have same : t.kind = kind := beq_iff_eq.1 here
      exact follows_then (follows_eat_taken kind t rest same enough) (taken t rest rfl same)

theorem ahead_kind (kind : Kind) (left : List Token) (notEnd : kind ≠ .eof) :
    ((v.ahead left).kind == kind) = startsWith kind left := by
  cases left with
  | nil => simpa [Ended.ahead, v.isEnd, startsWith] using Ne.symm notEnd
  | cons t rest => rfl

theorem follows_unlessAt {f : α → Walk β} {left : List Token} {r : Reading β n} {enough : Prop} (kind : Kind)
    (nothing : α) (x : Walk α) (notEnd : kind ≠ .eof)
    (there : startsWith kind left = true → Follows v (f nothing) left r enough)
    (other : startsWith kind left = false → Follows v (x >>= f) left r enough) :
    Follows v (unlessAt kind nothing x >>= f) left r enough := by
  rw [unlessAt, bind_assoc]
  refine follows_then (follows_check kind left enough) ?_
  rw [ahead_kind kind left notEnd]
  cases here : startsWith kind left with
  | true =>
    rw [if_pos rfl, pure_bind]
    exact there here
  | false =>
    rw [if_neg Bool.false_ne_true]
    exact other here

theorem follows_errorAt (fault : Fault) (t : Token) (left : List Token) (enough : Prop)
    (told : left <:+ v.before → fault.diagnostic v.last.line =
      ⟨fault.complaint.message, t.line, if t.kind = .eof then .endOfTokens else .lexeme t.lexeme⟩) :
    Follows v (errorAt t fault.complaint.message) left (.read () [fault] left (self_lt left)) enough := by
  intro suffix
  refine ⟨suffix, fun ds => ⟨_, steps_one _ _ (.reported _), rfl⟩, fun ds => Or.inl ?_⟩
  simp [errorAt, step, finishOf, Ended.stand, told suffix]

theorem follows_unexpected (complaint : Complaint) (left : List Token) (enough : Prop) :
    Follows v (unexpected complaint.message) left (complain complaint left : Reading α left.length) enough := by
  intro suffix
  refine follows_then (follows_peek left enough) ?_ suffix
  have told := follows_errorAt (v := v) ⟨complaint, left.head?⟩ (v.ahead left) left enough
    fun suffix => v.diagnostic_ahead complaint left suffix
  intro suffix
  have stopped : Meets v (violation : Walk α) left (.failed [] left (self_le left) : Reading α left.length) enough :=
    ⟨suffix, fun ds => ⟨_, .none _, rfl⟩, fun ds => Or.inl (by simp [violation, finishOf])⟩
  have whole := meets_then (f := fun _ => violation) (told suffix) stopped
  simpa [Reading.after, complain] using whole

theorem follows_expect_taken {f : Token → Walk β} {t : Token} {rest : List Token} {r : Reading β n} {enough : Prop}
    (kind : Kind) (message : String) (same : t.kind = kind) (second : Follows v (f t) rest r enough) :
    Follows v (expect kind message >>= f) (t :: rest) r enough := by
  refine follows_then ?_ second
  refine follows_then (follows_check kind (t :: rest) enough) ?_
  have taken : ((v.ahead (t :: rest)).kind == kind) = true := beq_iff_eq.2 same
  rw [taken]
  exact follows_next t rest enough

theorem follows_expect (kind : Kind) (complaint : Complaint) (left : List Token) (notEnd : kind ≠ .eof)
    (enough : Prop) : Follows v (expect kind complaint.message) left (Grammar.expect kind complaint left) enough := by
  refine follows_then (follows_check kind left enough) ?_
  cases left with
  | nil =>
    intro suffix
    have other : ((v.ahead []).kind == kind) = false := by
      simpa [Ended.ahead, v.isEnd] using Ne.symm notEnd
    rw [other]
    exact follows_unexpected complaint [] enough suffix
  | cons t rest =>
    rw [Grammar.expect]
    by_cases same : t.kind = kind
    · rw [if_pos same]
      have taken : ((v.ahead (t :: rest)).kind == kind) = true := beq_iff_eq.2 same
      rw [taken]
      exact follows_next t rest enough
    · rw [if_neg same]
      have other : ((v.ahead (t :: rest)).kind == kind) = false := beq_eq_false_iff_ne.2 same
      rw [other]
      exact follows_unexpected complaint (t :: rest) enough

theorem lt_wider {rest : List Token} (fewer : rest.length < n) : rest.length < n + 1 := Nat.lt_succ_of_lt fewer

def heard (r : Reading α n) : Reading (Option α) (n + 1) :=
  match r with
  | .read found faults rest fewer => .read (some found) faults rest (lt_wider fewer)
  | .failed faults rest atMost => .read none faults rest (Nat.lt_succ_of_le atMost)

theorem follows_attempt {x : Walk α} {left : List Token} {r : Reading α n} {enough : Prop}
    (follows : Follows v x left r enough) : Follows v (attempt x) left (heard r) enough := by
  intro suffix
  obtain ⟨within, steps, ends⟩ := follows suffix
  have tried : ∀ c, (attempt x c).1 = (x c).1 ∧ (∀ last, EndsAt (x c).2 last → EndsAt (attempt x c).2 last) ∧
      ((x c).2 = .outOfFuel → (attempt x c).2 = .outOfFuel) ∧
      (∀ ds, (x c).2 = finishOf v r ds → (attempt x c).2 = finishOf v (heard r) ds) := by
    intro c
    unfold attempt
    obtain ⟨course, finish⟩ := x c
    cases finish with
    | done found c' => cases r <;> simp [EndsAt, finishOf, heard]
    | fault stop c' => cases stop <;> cases r <;> simp [EndsAt, finishOf, heard]
    | outOfFuel => cases r <;> simp [EndsAt, finishOf]
  refine ⟨by cases r <;> exact within, fun ds => ?_, fun ds => ?_⟩
  · obtain ⟨last, stepped, endsAt⟩ := steps ds
    rw [(tried _).1]
    exact ⟨last, stepped, (tried _).2.1 last endsAt⟩
  · rcases ends ds with same | ⟨out, few⟩
    · exact Or.inl ((tried _).2.2.2 ds same)
    · exact Or.inr ⟨(tried _).2.2.1 out, few⟩

end Laws

end Walk

end StoryScript

import StoryScript.Proofs.Grammar.Laws

set_option autoImplicit false

namespace StoryScript.Grammar

-- No reader fails in silence: a failure always comes with a fault. Hence a script without faults is
-- one in which every declaration was read.
def Reading.Reported {α : Type} {n : Nat} : Reading α n → Prop
  | .read .. => True
  | .failed faults _ _ => faults ≠ []

theorem reported_map {α β : Type} {n : Nat} (f : α → β) (r : Reading α n) (reported : r.Reported) :
    (r.map f).Reported := by
  cases r with
  | read => trivial
  | failed => exact reported

theorem reported_after {α : Type} {n : Nat} (earlier : List Fault) (r : Reading α n) (reported : r.Reported) :
    (r.after earlier).Reported := by
  cases r with
  | read => trivial
  | failed faults rest atMost => exact List.append_ne_nil_of_right_ne_nil earlier reported

theorem reported_widen {α : Type} {m n : Nat} (r : Reading α m) (le : m ≤ n) (reported : r.Reported) :
    (r.widen le).Reported := by
  cases r with
  | read => trivial
  | failed => exact reported

theorem reported_bind {α β : Type} {n : Nat} (r : Reading α n)
    (next : α → (rest : List Token) → rest.length < n → Reading β n) (reported : r.Reported)
    (later : ∀ found rest fewer, (next found rest fewer).Reported) : (r.bind next).Reported := by
  cases r with
  | read found faults rest fewer => exact reported_after faults _ (later found rest fewer)
  | failed => exact reported

theorem reported_expect_map {α : Type} (kind : Kind) (complaint : Complaint) (tokens : List Token) (f : Token → α) :
    ((expect kind complaint tokens).map f).Reported := by
  refine reported_map f _ ?_
  cases tokens with
  | nil => exact List.cons_ne_nil _ _
  | cons t rest =>
    rw [expect]
    split
    · trivial
    · exact List.cons_ne_nil _ _

def reporting : Law where
  Holds := fun _ r => r.Reported
  Lists := fun _ _ => True
  read := fun _ _ _ => trivial
  complain := fun _ _ _ => List.cons_ne_nil _ _
  map := fun _ => reported_map
  widen := fun _ => reported_widen
  bind := fun _ => reported_bind
  operate := fun _ _ _ _ r _ reported later =>
    reported_bind r _ reported fun _ _ fewer => reported_widen _ _ (reported_after _ _ (later _ _ fewer))
  past := fun _ _ _ reported => reported
  empty := fun _ => trivial
  goOn := fun _ _ _ _ _ _ _ _ => trivial
  recover := fun _ _ _ _ _ _ _ _ => trivial
  close := fun _ l _ => reported_widen _ l.atMost (reported_after _ _ (reported_expect_map ..))

theorem declaration_reported (tokens : List Token) : (declaration tokens).Reported := reporting.holds_declaration tokens

end StoryScript.Grammar

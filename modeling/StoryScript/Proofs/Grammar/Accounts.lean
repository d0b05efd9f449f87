import Mathlib.Data.List.Forall2
import StoryScript.Proofs.Grammar.Laws

set_option autoImplicit false

namespace StoryScript.Grammar

-- A bad assignment is the only fault after which reading goes on as if there were none.
def Fault.stops (fault : Fault) : Bool := fault.complaint != .invalidAssignment

-- The places of the faults that were found from some tokens to the rest of them, each given by the tokens from
-- there on, and the end by no tokens. Faults may be found in any order, but all before the limit, which leaves
-- what comes later for the faults that are found later. Where one is at the end, no token is left, and as many as
-- there are failures stop what is read.
structure Chart (tokens rest : List Token) (limit ends failures : Nat) (faults : List Fault)
    (places : List (List Token)) : Prop where
  located : List.Forall₂ (fun fault place => fault.token = List.head? place) faults places
  within : ∀ place ∈ places, place <:+ tokens
  passed : ∀ place ∈ places, place ≠ [] → limit ≤ place.length
  apart : places.Pairwise fun first second => first ≠ [] → first ≠ second
  atEnd : places.count [] ≤ ends
  final : [] ∈ places → rest = []
  suffix : rest <:+ tokens
  stopping : faults.countP Fault.stops = failures

def Account (tokens rest : List Token) (limit ends failures : Nat) (faults : List Fault) : Prop :=
  ∃ places, Chart tokens rest limit ends failures faults places

section Accounts

variable {tokens rest middle left : List Token} {limit ends failures : Nat} {faults : List Fault}

theorem Account.suffix (account : Account tokens rest limit ends failures faults) : rest <:+ tokens := by
  obtain ⟨places, chart⟩ := account
  exact chart.suffix

theorem account_nil (tokens : List Token) (limit ends : Nat) : Account tokens tokens limit ends 0 [] :=
  ⟨[], .nil, by simp, by simp, .nil, by simp, by simp, List.suffix_refl tokens, rfl⟩

theorem account_past (t : Token) (account : Account tokens rest limit ends failures faults) :
    Account (t :: tokens) rest limit ends failures faults := by
  obtain ⟨places, chart⟩ := account
  have tail := List.suffix_cons t tokens
  exact ⟨places, { chart with
    within := fun place member => (chart.within place member).trans tail
    suffix := chart.suffix.trans tail }⟩

theorem account_ends (more : Nat) (le : ends ≤ more) (account : Account tokens rest limit ends failures faults) :
    Account tokens rest limit more failures faults := by
  obtain ⟨places, chart⟩ := account
  exact ⟨places, { chart with atEnd := Nat.le_trans chart.atEnd le }⟩

theorem account_complain (complaint : Complaint) (tokens : List Token) (other : complaint ≠ .invalidAssignment) :
    Account tokens tokens (max tokens.length 1) 1 1 [⟨complaint, tokens.head?⟩] := by
  refine ⟨[tokens], .cons rfl .nil, ?_, ?_, List.pairwise_singleton _ _, List.count_le_length, ?_, List.suffix_refl _, ?_⟩
  · simp
  · intro place member some
    obtain rfl := List.mem_singleton.1 member
    have positive := List.length_pos_iff.2 some
    omega
  · intro member
    exact (List.mem_singleton.1 member).symm
  · simp [Fault.stops, other]

theorem account_append {earlier more moreEnds moreFailures : Nat} {laterFaults : List Fault}
    (first : Account tokens rest earlier ends failures faults)
    (second : Account middle left limit moreEnds moreFailures laterFaults) (onwards : middle <:+ rest)
    (free : middle.length < earlier) (low : limit ≤ earlier) (few : moreEnds ≤ more)
    (both : rest = [] → ends + moreEnds ≤ more) :
    Account tokens left limit more (failures + moreFailures) (faults ++ laterFaults) := by
  obtain ⟨places, chart⟩ := first
  obtain ⟨later, next⟩ := second
  have inside := onwards.trans chart.suffix
  refine ⟨places ++ later, List.rel_append chart.located next.located, ?_, ?_, ?_, ?_, ?_, next.suffix.trans inside, ?_⟩
  · intro place member
    rcases List.mem_append.1 member with before | after
    · exact chart.within place before
    · exact (next.within place after).trans inside
  · intro place member some
    rcases List.mem_append.1 member with before | after
    · exact Nat.le_trans low (chart.passed place before some)
    · exact next.passed place after some
  · refine List.pairwise_append.2 ⟨chart.apart, next.apart, ?_⟩
    rintro place before _ after some rfl
    have high := chart.passed place before some
    have low := (next.within place after).length_le
    omega
  · rw [List.count_append]
    by_cases ended : [] ∈ places
    · have bound := both (chart.final ended)
      exact Nat.le_trans (Nat.add_le_add chart.atEnd next.atEnd) bound
    · rw [List.count_eq_zero_of_not_mem ended, Nat.zero_add]
      exact Nat.le_trans next.atEnd few
  · intro member
    rcases List.mem_append.1 member with before | after
    · have onwards := next.suffix.trans onwards
      rw [chart.final before] at onwards
      exact List.suffix_nil.1 onwards
    · exact next.final after
  · rw [List.countP_append, chart.stopping, next.stopping]

-- An operator is found fault with after its right operand, but stands before all of it.
theorem account_late (sign : Token) (low : limit ≤ tokens.length + 1)
    (account : Account tokens rest limit ends failures faults) :
    Account (sign :: tokens) rest limit ends failures (faults ++ [⟨.invalidAssignment, some sign⟩]) := by
  obtain ⟨places, chart⟩ := account
  have tail := List.suffix_cons sign tokens
  refine ⟨places ++ [sign :: tokens], List.rel_append chart.located (.cons rfl .nil), ?_, ?_, ?_, ?_, ?_,
    chart.suffix.trans tail, ?_⟩
  · intro place member
    rcases List.mem_append.1 member with before | late
    · exact (chart.within place before).trans tail
    · obtain rfl := List.mem_singleton.1 late
      exact List.suffix_refl _
  · intro place member some
    rcases List.mem_append.1 member with before | late
    · exact chart.passed place before some
    · obtain rfl := List.mem_singleton.1 late
      exact low
  · refine List.pairwise_append.2 ⟨chart.apart, List.pairwise_singleton _ _, ?_⟩
    intro place before late atSign _ same
    have shorter := (chart.within place before).length_le
    rw [same, List.mem_singleton.1 atSign, List.length_cons] at shorter
    omega
  · rw [List.count_append, List.count_singleton]
    exact chart.atEnd
  · intro member
    exact chart.final (by simpa using member)
  · rw [List.countP_append, chart.stopping]
    rfl

theorem account_operator (sign : Token) (operator : Operator) (operand : Expr) (low : limit ≤ tokens.length + 1)
    (account : Account tokens rest limit ends failures faults) :
    Account (sign :: tokens) rest limit ends failures (faults ++ operator.faults sign operand) := by
  unfold Operator.faults
  split
  · rw [List.append_nil]
    exact account_past sign account
  · exact account_late sign low account
  · rw [List.append_nil]
    exact account_past sign account

end Accounts

-- A phrase that was read complains nowhere at the end, and one that was not has one more fault that stops it.
def Reading.Accounted {α : Type} {n : Nat} (tokens : List Token) (ends failures : Nat) : Reading α n → Prop
  | .read _ faults rest _ => Account tokens rest (rest.length + 1) 0 failures faults
  | .failed faults rest _ => Account tokens rest (max rest.length 1) ends (failures + 1) faults

section Readings

variable {α β : Type} {m n : Nat} {tokens : List Token} {ends failures : Nat}

theorem accounted_map (f : α → β) (r : Reading α n) (accounted : r.Accounted tokens ends failures) :
    (r.map f).Accounted tokens ends failures := by
  cases r <;> exact accounted

theorem accounted_widen (r : Reading α m) (le : m ≤ n) (accounted : r.Accounted tokens ends failures) :
    (r.widen le).Accounted tokens ends failures := by
  cases r <;> exact accounted

theorem accounted_past (t : Token) (r : Reading α n) (accounted : r.Accounted tokens ends failures) :
    r.Accounted (t :: tokens) ends failures := by
  cases r <;> exact account_past t accounted

theorem accounted_ends (r : Reading α n) (more : Nat) (le : ends ≤ more) (accounted : r.Accounted tokens ends failures) :
    r.Accounted tokens more failures := by
  cases r with
  | read => exact accounted
  | failed => exact account_ends more le accounted

theorem accounted_after {rest : List Token} {earlier : Nat} {faults : List Fault} (r : Reading α n)
    (first : Account tokens rest (rest.length + 1) 0 earlier faults) (second : r.Accounted rest ends failures) :
    (r.after faults).Accounted tokens ends (earlier + failures) := by
  cases r with
  | read phrase later left fewer =>
    have shorter := second.suffix.length_le
    exact account_append first second (List.suffix_refl rest) (self_lt rest) (by omega) (Nat.le_refl 0) (by omega)
  | failed later left atMost =>
    have shorter := second.suffix.length_le
    rw [Reading.after, Reading.Accounted, Nat.add_assoc]
    exact account_append first second (List.suffix_refl rest) (self_lt rest) (by omega) (Nat.le_refl ends) (by omega)

theorem accounted_bind (r : Reading α n) (next : α → (rest : List Token) → rest.length < n → Reading β n)
    (first : r.Accounted tokens ends 0) (second : ∀ found rest fewer, (next found rest fewer).Accounted rest ends 0) :
    (r.bind next).Accounted tokens ends 0 := by
  cases r with
  | read found faults rest fewer => exact accounted_after _ first (second found rest fewer)
  | failed faults rest atMost => exact first

theorem accounted_operate (sign : Token) (operator : Operator) (left : Expr) (r : Reading Expr n)
    (next : Expr → (rest : List Token) → Reading Expr (rest.length + 1)) (first : r.Accounted tokens ends 0)
    (second : ∀ right rest, rest.length < n → (next right rest).Accounted rest ends 0) :
    (r.bind fun right rest fewer => ((next right rest).after (operator.faults sign left)).widen fewer).Accounted
      (sign :: tokens) ends 0 := by
  cases r with
  | read right faults rest fewer =>
    have low : rest.length + 1 ≤ tokens.length + 1 := Nat.succ_le_succ first.suffix.length_le
    have whole := accounted_after _ (account_operator sign operator left low first) (second right rest fewer)
    change ((((next right rest).after _).widen _).after faults).Accounted _ _ _
    rw [after_widen, after_after]
    exact accounted_widen _ _ whole
  | failed faults rest atMost => exact account_past sign first

end Readings

def accounting : PhraseLaw where
  Holds := fun tokens r => r.Accounted tokens 1 0
  read := fun _ rest _ => account_nil rest _ 0
  complain := fun complaint tokens other => account_complain complaint tokens other
  map := fun _ f r => accounted_map f r
  widen := fun _ r le => accounted_widen r le
  bind := fun _ r next => accounted_bind r next
  operate := fun sign _ operator left r next => accounted_operate sign operator left r next
  past := fun t _ r => accounted_past t r

end StoryScript.Grammar

import StoryScript.Token.Basic
import StoryScript.Diagnostic

set_option autoImplicit false

namespace StoryScript.Grammar

structure Fault where
  complaint : Complaint
  token : Option Token
deriving DecidableEq

def Fault.diagnostic (endLine : Nat) (fault : Fault) : Diagnostic :=
  match fault.token with
  | none => fault.complaint.at endLine .endOfTokens
  | some t => fault.complaint.at t.line (.lexeme t.lexeme)

-- What reading a phrase gives: the phrase and fewer than `bound` tokens left, or a failure with the tokens
-- from the one it stopped at.
inductive Reading (α : Type) (bound : Nat) where
  | read (phrase : α) (faults : List Fault) (rest : List Token) (fewer : rest.length < bound)
  | failed (faults : List Fault) (rest : List Token) (atMost : rest.length ≤ bound)

namespace Reading

variable {α β : Type} {m n : Nat}

def phrase? : Reading α n → Option α
  | .read phrase _ _ _ => some phrase
  | .failed .. => none

def faults : Reading α n → List Fault
  | .read _ faults _ _ => faults
  | .failed faults _ _ => faults

def rest : Reading α n → List Token
  | .read _ _ rest _ => rest
  | .failed _ rest _ => rest

def after (earlier : List Fault) : Reading α n → Reading α n
  | .read phrase faults rest fewer => .read phrase (earlier ++ faults) rest fewer
  | .failed faults rest atMost => .failed (earlier ++ faults) rest atMost

def map (f : α → β) : Reading α n → Reading β n
  | .read phrase faults rest fewer => .read (f phrase) faults rest fewer
  | .failed faults rest atMost => .failed faults rest atMost

def bind (r : Reading α n) (next : α → (rest : List Token) → rest.length < n → Reading β n) :
    Reading β n :=
  match r with
  | .read phrase faults rest fewer => (next phrase rest fewer).after faults
  | .failed faults rest atMost => .failed faults rest atMost

def widen (r : Reading α m) (le : m ≤ n) : Reading α n :=
  match r with
  | .read phrase faults rest fewer => .read phrase faults rest (Nat.lt_of_lt_of_le fewer le)
  | .failed faults rest atMost => .failed faults rest (Nat.le_trans atMost le)

def within (r : Reading α m) (fewer : m < n) : Reading α n := r.widen (Nat.le_of_lt fewer)

def past (r : Reading α n) : Reading α (n + 1) := r.widen (Nat.le_succ n)

end Reading

theorem self_le (tokens : List Token) : tokens.length ≤ tokens.length := Nat.le_refl _

theorem self_lt (tokens : List Token) : tokens.length < tokens.length + 1 := Nat.lt_succ_self _

theorem tail_lt {t : Token} {rest tokens : List Token}
    (fewer : (t :: rest).length < tokens.length) : rest.length < tokens.length :=
  Nat.lt_trans (self_lt rest) fewer

theorem tail_lt_succ {t : Token} {rest tokens : List Token}
    (fewer : (t :: rest).length < tokens.length + 1) : rest.length < tokens.length + 1 :=
  Nat.lt_trans (self_lt rest) fewer

def ended {α : Type} (phrase : α) (rest : List Token) : Reading α (rest.length + 1) :=
  .read phrase [] rest (self_lt rest)

def complain {α : Type} (complaint : Complaint) (tokens : List Token) :
    Reading α tokens.length :=
  .failed [⟨complaint, tokens.head?⟩] tokens (self_le tokens)

def expect (kind : Kind) (complaint : Complaint) : (tokens : List Token) →
    Reading Token tokens.length
  | [] => complain complaint []
  | t :: rest => if t.kind = kind then ended t rest else complain complaint (t :: rest)

def startsWith (kind : Kind) (tokens : List Token) : Bool :=
  match tokens with
  | [] => false
  | t :: _ => t.kind == kind

-- The tokens after one that has been dropped, up to the next border between statements.
def resume (previous : Token) : List Token → List Token
  | [] => []
  | t :: rest =>
    if previous.kind = .semicolon || t.kind.startsStatement then t :: rest else resume t rest

def synchronize : List Token → List Token
  | [] => []
  | t :: rest => resume t rest

theorem length_resume_le (previous : Token) (tokens : List Token) :
    (resume previous tokens).length ≤ tokens.length := by
  induction tokens generalizing previous with
  | nil => exact Nat.le_refl _
  | cons t rest ih =>
    unfold resume
    split
    · exact Nat.le_refl _
    · exact Nat.le_succ_of_le (ih t)

theorem length_synchronize_le (tokens : List Token) :
    (synchronize tokens).length ≤ tokens.length - 1 := by
  cases tokens with
  | nil => exact Nat.le_refl _
  | cons t rest => exact length_resume_le t rest

theorem synchronize_lt {t : Token} {rest tokens : List Token}
    (atMost : tokens.length ≤ (t :: rest).length) :
    (synchronize tokens).length < (t :: rest).length := by
  have fewer := length_synchronize_le tokens
  simp only [List.length_cons] at *
  omega

end StoryScript.Grammar

import Mathlib.Data.List.TakeWhile
import StoryScript.Proofs.Grammar.Accounts
import StoryScript.Proofs.Grammar.Position
import StoryScript.Proofs.Grammar.Record

set_option autoImplicit false

namespace StoryScript

namespace Grammar

def braces (tokens : List Token) : Nat := tokens.countP fun t => t.kind == .leftBrace

theorem braces_suffix (rest tokens : List Token) (suffix : rest <:+ tokens) : braces rest ≤ braces tokens :=
  suffix.sublist.countP_le

theorem braces_cons (brace : Token) (tokens : List Token) (isBrace : brace.kind = .leftBrace) :
    braces (brace :: tokens) = braces tokens + 1 := by
  simp [braces, isBrace]

-- How often the declarations among some tokens may complain at the end.
def room : List Token → Nat
  | [] => 0
  | t :: rest => 1 + braces (t :: rest)

theorem room_le (tokens : List Token) : room tokens ≤ 1 + braces tokens := by
  cases tokens with
  | nil => exact Nat.zero_le _
  | cons t rest => exact Nat.le_refl _

def Reading.EndsWith {α : Type} {n : Nat} (kind : Kind) (tokens : List Token) (r : Reading α n) : Prop :=
  r.Leaves fun rest => ∃ t, t.kind = kind ∧ t :: rest <:+ tokens

theorem endsWith_expect (kind : Kind) (complaint : Complaint) (tokens : List Token) :
    (expect kind complaint tokens).EndsWith kind tokens := by
  cases tokens with
  | nil => trivial
  | cons t rest =>
    rw [expect]
    split
    · exact ⟨t, ‹_›, List.suffix_refl _⟩
    · trivial

theorem endsWith_bind {α β : Type} {n : Nat} {kind : Kind} {tokens : List Token} (r : Reading α n)
    (next : α → (rest : List Token) → rest.length < n → Reading β n) (first : r.rest <:+ tokens)
    (second : ∀ found rest fewer, (next found rest fewer).EndsWith kind rest) : (r.bind next).EndsWith kind tokens := by
  cases r with
  | failed => trivial
  | read found faults rest fewer =>
    refine leaves_after _ faults _ ?_
    have ends := second found rest fewer
    generalize next found rest fewer = r at ends
    cases r with
    | failed => trivial
    | read phrase later left _ =>
      obtain ⟨t, isKind, suffix⟩ := ends
      exact ⟨t, isKind, suffix.trans first⟩

theorem functionHead_brace (tokens : List Token) : (functionHead tokens).EndsWith .leftBrace tokens := by
  refine endsWith_bind _ _ (forwards.holds_name _ tokens (by decide)) ?_
  intro ident rest fewer
  refine endsWith_bind _ _ (forwards.widen rest _ _ (forwards.holds_expect _ _ rest (by decide))) ?_
  intro opening rest fewer
  refine endsWith_bind _ _ (forwards.widen rest _ _ (forwards.holds_parameters rest)) ?_
  intro params rest fewer
  exact leaves_widen _ _ _ (leaves_map _ _ _ (endsWith_expect _ _ rest))

-- A reading and its record agree when every declaration that was asked for and not read has one fault that stops
-- it, and the reading itself one more if it failed.
def Recorded.Accounted {α : Type} {n : Nat} (tokens : List Token) (ends : Nat) (r : Recorded α n) : Prop :=
  r.reading.Accounted tokens ends (unread r.outcomes)

def RecordedListing.Accounted {n : Nat} (tokens : List Token) (ends : Nat) (l : RecordedListing n) : Prop :=
  Account tokens l.listing.rest (l.listing.rest.length + 1) ends (unread l.outcomes) l.listing.faults

section Records

variable {α β : Type} {m n : Nat} {tokens : List Token} {ends : Nat}

theorem recorded_plain (r : Reading α n) (holds : accounting.Holds tokens r) (some : 1 ≤ ends) :
    (Recorded.plain r).Accounted tokens ends :=
  accounted_ends r ends some holds

theorem recorded_map (f : α → β) (r : Recorded α n) (accounted : r.Accounted tokens ends) :
    (r.map f).Accounted tokens ends :=
  accounted_map f r.reading accounted

theorem recorded_within (r : Recorded α m) (fewer : m < n) (accounted : r.Accounted tokens ends) :
    (r.within fewer).Accounted tokens ends :=
  accounted_widen r.reading (Nat.le_of_lt fewer) accounted

theorem recorded_past (t : Token) (r : Recorded α n) (accounted : r.Accounted tokens ends) :
    r.past.Accounted (t :: tokens) ends :=
  accounted_past t _ (accounted_widen r.reading (Nat.le_succ n) accounted)

theorem recorded_bind (r : Recorded α n) (next : α → (rest : List Token) → rest.length < n → Recorded β n)
    (first : r.Accounted tokens ends)
    (second : ∀ found faults rest fewer, r.reading = .read found faults rest fewer → rest <:+ tokens →
      (next found rest fewer).Accounted rest ends) :
    (r.bind next).Accounted tokens ends := by
  obtain ⟨reading, outcomes⟩ := r
  cases reading with
  | failed faults rest atMost => exact first
  | read found faults rest fewer =>
    have later := accounted_after _ first (second found faults rest fewer rfl first.suffix)
    have together : unread (outcomes ++ (next found rest fewer).outcomes) =
      unread outcomes + unread (next found rest fewer).outcomes := List.countP_append
    rw [Recorded.Accounted, Recorded.bind, together]
    exact later

theorem recorded_close (l : RecordedListing n) (accounted : l.Accounted tokens ends) :
    (Recorded.mk l.listing.close l.outcomes).Accounted tokens (ends + 1) := by
  obtain ⟨⟨body, faults, rest, atMost⟩, outcomes⟩ := l
  have last := accounting.holds_expect .rightBrace .braceAfterBlock rest (by decide)
  change Account tokens rest (rest.length + 1) ends (unread outcomes) faults at accounted
  refine accounted_widen _ atMost ?_
  generalize expect .rightBrace .braceAfterBlock rest = r at last
  cases r with
  | read t later left fewer =>
    refine account_append accounted last (List.suffix_refl rest) (self_lt rest) (by omega) (Nat.le_refl 0) ?_
    intro ended
    simp [ended] at fewer
  | failed later left atMost =>
    exact account_append accounted last (List.suffix_refl rest) (self_lt rest) (by omega) (by omega) (fun _ => Nat.le_refl _)

theorem recorded_goOn (stmt : Stmt) (faults : List Fault) (rest : List Token) (fewer : rest.length < n)
    (outcomes : List (Option Stmt)) (l : RecordedListing rest.length)
    (first : (Recorded.mk (.read stmt faults rest fewer) outcomes).Accounted tokens (1 + braces tokens))
    (second : l.Accounted rest (room rest)) :
    (RecordedListing.mk (l.listing.after [stmt] faults fewer) (outcomes ++ some stmt :: l.outcomes)).Accounted tokens
      (1 + braces tokens) := by
  have shorter := second.suffix.length_le
  have least := room_le rest
  have within := braces_suffix _ _ first.suffix
  have together : unread (outcomes ++ some stmt :: l.outcomes) = unread outcomes + unread l.outcomes := by
    simp [unread]
  rw [RecordedListing.Accounted, together]
  exact account_append first second (List.suffix_refl rest) (self_lt rest) (Nat.succ_le_succ shorter) (by omega) (by omega)

theorem recorded_recover (faults : List Fault) (rest : List Token) (atMost : rest.length ≤ n)
    (shorter : (synchronize rest).length < n) (outcomes : List (Option Stmt))
    (l : RecordedListing (synchronize rest).length)
    (first : (Recorded.mk (.failed faults rest atMost : Reading Stmt n) outcomes).Accounted tokens (1 + braces tokens))
    (second : l.Accounted (synchronize rest) (room (synchronize rest))) :
    (RecordedListing.mk (l.listing.after [] faults shorter) (outcomes ++ none :: l.outcomes)).Accounted tokens
      (1 + braces tokens) := by
  have dropped := length_synchronize_le rest
  have less := second.suffix.length_le
  have onwards := (synchronize_suffix rest).trans first.suffix
  have together : unread (outcomes ++ none :: l.outcomes) = unread outcomes + 1 + unread l.outcomes := by
    simp [unread]
    omega
  change Account tokens l.listing.rest (l.listing.rest.length + 1) _ _ (faults ++ l.listing.faults)
  rw [together]
  refine account_append first second (synchronize_suffix rest) (by omega) (by omega) ?_ ?_
  · exact Nat.le_trans (room_le _) (Nat.add_le_add_left (braces_suffix _ _ onwards) 1)
  · rintro rfl
    exact Nat.le_refl _

end Records

-- Each theorem recurses as the reader it is about does. Only a block adds a complaint at the end, so every brace that
-- opens one makes room for one more.
mutual

theorem statement_accounted (tokens : List Token) (ends : Nat) (enough : 1 + braces tokens ≤ ends) :
    (recordStatement tokens).Accounted tokens ends := by
  match tokens with
  | [] =>
    rw [recordStatement]
    exact recorded_plain _ (accounting.holds_expressionStatement []) (by omega)
  | t :: rest =>
    have some : 1 ≤ ends := by omega
    have fewer : braces rest ≤ braces (t :: rest) := braces_suffix _ _ (List.suffix_cons t rest)
    rw [recordStatement]
    split
    · exact recorded_plain _ (accounting.holds_past t rest _ (accounting.holds_printStatement t rest)) some
    · exact recorded_plain _ (accounting.holds_past t rest _ (accounting.holds_returnStatement t rest)) some
    · have brace := braces_cons t rest ‹_›
      exact recorded_past t _ (recorded_map _ _ (block_accounted rest ends (by omega)))
    · refine recorded_bind _ _ (recorded_plain _ (accounting.holds_past t rest _
        (accounting.holds_parenthesised _ _ rest (by decide) (by decide))) some) ?_
      intro condition _ rest₁ fewer _ suffix
      have within := braces_suffix _ _ suffix
      refine recorded_bind _ _ (recorded_within _ _ (statement_accounted rest₁ ends (by omega))) ?_
      intro thenBranch _ rest₂ fewer _ suffix
      have within := braces_suffix _ _ suffix
      cases rest₂ with
      | nil => exact recorded_plain _ (accounting.read _ [] fewer) some
      | cons word rest₃ =>
        have shorter := tail_lt_succ fewer
        have further : braces rest₃ ≤ braces (word :: rest₃) := braces_suffix _ _ (List.suffix_cons word rest₃)
        dsimp only
        split
        · exact accounted_past word _
            (recorded_within _ shorter (recorded_map _ _ (statement_accounted rest₃ ends (by omega))))
        · exact recorded_plain _ (accounting.read _ (word :: rest₃) fewer) some
    · refine recorded_bind _ _ (recorded_plain _ (accounting.holds_past t rest _
        (accounting.holds_parenthesised _ _ rest (by decide) (by decide))) some) ?_
      intro condition _ rest₁ fewer _ suffix
      have within := braces_suffix _ _ suffix
      exact recorded_within _ _ (recorded_map _ _ (statement_accounted rest₁ ends (by omega)))
    · refine recorded_bind _ _ (recorded_plain _ (accounting.holds_past t rest _ (accounting.holds_forClauses rest)) some) ?_
      intro clauses _ rest₁ fewer _ suffix
      have within := braces_suffix _ _ suffix
      exact recorded_within _ _ (recorded_map _ _ (statement_accounted rest₁ ends (by omega)))
    · exact recorded_plain _ (accounting.holds_expressionStatement (t :: rest)) some
termination_by 8 * tokens.length + 0
decreasing_by all_goals grind

theorem block_accounted (tokens : List Token) (ends : Nat) (enough : 2 + braces tokens ≤ ends) :
    (recordBlock tokens).Accounted tokens ends := by
  have least := room_le tokens
  rw [recordBlock]
  exact accounted_ends _ ends (by omega) (recorded_close _ (declarations_accounted tokens))
termination_by 8 * tokens.length + 3
decreasing_by all_goals grind

theorem declarations_accounted (tokens : List Token) : (recordDeclarations tokens).Accounted tokens (room tokens) := by
  match tokens with
  | [] =>
    rw [recordDeclarations]
    exact account_nil [] _ _
  | t :: rest =>
    have first := declaration_accounted (t :: rest) (room (t :: rest)) (Nat.le_refl _)
    rw [recordDeclarations]
    split
    · exact account_nil (t :: rest) _ _
    · generalize recordDeclaration (t :: rest) = r at first
      obtain ⟨reading, outcomes⟩ := r
      cases reading with
      | read stmt faults rest' fewer =>
        exact recorded_goOn stmt faults rest' fewer outcomes _ first (declarations_accounted rest')
      | failed faults rest' atMost =>
        have shorter := synchronize_lt atMost
        exact recorded_recover faults rest' atMost shorter outcomes _ first (declarations_accounted (synchronize rest'))
termination_by 8 * tokens.length + 2
decreasing_by all_goals grind

theorem declaration_accounted (tokens : List Token) (ends : Nat) (enough : 1 + braces tokens ≤ ends) :
    (recordDeclaration tokens).Accounted tokens ends := by
  match tokens with
  | [] =>
    rw [recordDeclaration]
    exact statement_accounted [] ends enough
  | t :: rest =>
    have some : 1 ≤ ends := by omega
    have fewer : braces rest ≤ braces (t :: rest) := braces_suffix _ _ (List.suffix_cons t rest)
    rw [recordDeclaration]
    split
    · exact recorded_plain _ (accounting.holds_past t rest _ (accounting.holds_varDeclaration rest)) some
    · split
      · refine recorded_bind _ _
          (recorded_plain _ (accounting.holds_past t rest _ (accounting.holds_functionHead rest)) some) ?_
        intro head faults rest₁ fewer same suffix
        have ended : ((functionHead rest).past).EndsWith .leftBrace rest := leaves_widen _ _ _ (functionHead_brace rest)
        rw [show (functionHead rest).past = _ from same] at ended
        obtain ⟨brace, isBrace, inside⟩ := ended
        have opened := braces_cons brace rest₁ isBrace
        have within := braces_suffix _ _ inside
        exact recorded_within _ fewer (recorded_map _ _ (block_accounted rest₁ ends (by omega)))
      · exact statement_accounted (t :: rest) ends enough
termination_by 8 * tokens.length + 1
decreasing_by all_goals grind

end

theorem program_accounted (tokens : List Token) : (recordProgram tokens).Accounted tokens (room tokens) := by
  match tokens with
  | [] =>
    rw [recordProgram]
    exact account_nil [] _ _
  | t :: rest =>
    have first := declaration_accounted (t :: rest) (room (t :: rest)) (Nat.le_refl _)
    rw [recordProgram]
    generalize recordDeclaration (t :: rest) = r at first
    obtain ⟨reading, outcomes⟩ := r
    cases reading with
    | read stmt faults rest' fewer =>
      exact recorded_goOn stmt faults rest' fewer outcomes _ first (program_accounted rest')
    | failed faults rest' atMost =>
      have shorter := synchronize_lt atMost
      exact recorded_recover faults rest' atMost shorter outcomes _ first (program_accounted (synchronize rest'))
termination_by tokens.length
decreasing_by
  · exact fewer
  · exact shorter

theorem message_invalidAssignment (complaint : Complaint) :
    complaint.message = "Invalid assignment target." ↔ complaint = .invalidAssignment := by
  cases complaint with
  | invalidCharacter c =>
    refine iff_of_false ?_ (by simp)
    change "Invalid character '" ++ String.singleton c ++ "'." ≠ "Invalid assignment target."
    intro same
    have letters := congrArg (fun text => text.toList.take 9) same
    simp at letters
  | _ => decide

theorem diagnostic_message (endLine : Nat) (fault : Fault) :
    (fault.diagnostic endLine).message = fault.complaint.message := by
  unfold Fault.diagnostic
  split <;> rfl

theorem count_stops (endLine : Nat) (faults : List Fault) :
    (faults.map (Fault.diagnostic endLine)).countP (fun d => d.message ≠ "Invalid assignment target.") =
      faults.countP Fault.stops := by
  rw [List.countP_map]
  refine List.countP_congr ?_
  intro fault _
  simp [Fault.stops, diagnostic_message, message_invalidAssignment]

theorem diagnostic_atEnd (endLine : Nat) (fault : Fault) (place : List Token) (same : fault.token = place.head?) :
    (fault.diagnostic endLine).location = .endOfTokens ↔ place = [] := by
  unfold Fault.diagnostic
  rw [same]
  cases place <;> simp [Complaint.at]

theorem count_ends (endLine : Nat) (faults : List Fault) (places : List (List Token))
    (located : List.Forall₂ (fun fault place => fault.token = List.head? place) faults places) :
    (faults.map (Fault.diagnostic endLine)).countP (fun d => d.location = .endOfTokens) = places.count [] := by
  induction located with
  | nil => rfl
  | cons same _ ih =>
    rw [List.map_cons, List.countP_cons, List.count_cons, ih]
    simp only [decide_eq_true_eq, diagnostic_atEnd endLine _ _ same, beq_iff_eq]

end Grammar

open Grammar

namespace Parser

structure PlacedAt (startLine : Nat) (tokens : List Token) (d : Diagnostic) (place : Nat) : Prop where
  bounded : place ≤ endIndex tokens
  told : ∃ t, (withEnd startLine tokens)[place]? = some t ∧ d.line = t.line ∧
    d.location = if t.kind = .eof then .endOfTokens else .lexeme t.lexeme

theorem kind_beforeEnd (tokens : List Token) (t : Token) (member : t ∈ beforeEnd tokens) : t.kind ≠ .eof := by
  simpa using List.mem_takeWhile_imp member

theorem placedAt_suffix (startLine : Nat) (tokens : List Token) (fault : Fault) (left : List Token)
    (suffix : left <:+ beforeEnd tokens) (same : fault.token = left.head?) :
    PlacedAt startLine tokens (fault.diagnostic (findEnd startLine tokens)) (endIndex tokens - left.length) where
  bounded := Nat.sub_le _ _
  told := by
    obtain ⟨t, looked, first | ⟨rfl, isEnd, line⟩⟩ := looked_suffix startLine tokens left suffix
    · have other := kind_beforeEnd tokens t (suffix.subset (List.mem_of_head? first))
      refine ⟨t, looked, ?_⟩
      rw [if_neg other, Fault.diagnostic, same, first]
      exact ⟨rfl, rfl⟩
    · refine ⟨t, looked, ?_⟩
      rw [if_pos isEnd, Fault.diagnostic, same]
      exact ⟨line.symm, rfl⟩

theorem placedAt_all (startLine : Nat) (tokens : List Token) (faults : List Fault) (places : List (List Token))
    (located : List.Forall₂ (fun fault place => fault.token = List.head? place) faults places)
    (within : ∀ place ∈ places, place <:+ beforeEnd tokens) :
    List.Forall₂ (PlacedAt startLine tokens) (faults.map (Fault.diagnostic (findEnd startLine tokens)))
      (places.map fun left => endIndex tokens - left.length) := by
  induction located with
  | nil => exact .nil
  | cons same _ ih =>
    obtain ⟨first, others⟩ := List.forall_mem_cons.1 within
    exact .cons (placedAt_suffix startLine tokens _ _ first same) (ih others)

theorem places_nodup (tokens : List Token) (places : List (List Token))
    (within : ∀ place ∈ places, place <:+ beforeEnd tokens)
    (apart : places.Pairwise fun first second => first ≠ [] → first ≠ second) :
    ((places.map fun left => endIndex tokens - left.length).filter fun place => place < endIndex tokens).Nodup := by
  refine List.pairwise_filter.2 (List.pairwise_map.2 (apart.imp_of_mem ?_))
  intro first second one other different before _ same
  have firstFits := (within first one).length_le
  have secondFits := (within second other).length_le
  have some : first ≠ [] := by
    rintro rfl
    simp at before
  have long : first.length = second.length := by
    have same : endIndex tokens - first.length = endIndex tokens - second.length := same
    have total : endIndex tokens = (beforeEnd tokens).length := rfl
    omega
  have inside := List.suffix_of_suffix_length_le (within first one) (within second other) (Nat.le_of_eq long)
  exact different some (inside.eq_of_length long)

-- One fault never brings on another: no token is complained about twice, only unclosed blocks add to the complaints at
-- the end, and every fault but a bad assignment is the one that made some declaration fail.
theorem errors_do_not_cascade (startLine : Nat) (tokens : List Token) :
    (recordProgram (ofTokens startLine [] tokens).tokens).listing = program (ofTokens startLine [] tokens).tokens ∧
    (∃ places, List.Forall₂ (PlacedAt startLine tokens) (ofTokens startLine [] tokens).readProgram.2.diagnostics places ∧
      (places.filter fun place => place < endIndex tokens).Nodup) ∧
    (ofTokens startLine [] tokens).readProgram.2.diagnostics.countP (fun d => d.location = .endOfTokens) ≤
      1 + braces (beforeEnd tokens) ∧
    (ofTokens startLine [] tokens).readProgram.2.diagnostics.countP (fun d => d.message ≠ "Invalid assignment target.") =
      unread (recordProgram (ofTokens startLine [] tokens).tokens).outcomes := by
  have recorded := listing_program (beforeEnd tokens)
  obtain ⟨places, chart⟩ := program_accounted (beforeEnd tokens)
  rw [recorded] at chart
  refine ⟨recorded, ⟨places.map fun left => endIndex tokens - left.length, ?_, ?_⟩, ?_, ?_⟩
  · exact placedAt_all startLine tokens _ places chart.located chart.within
  · exact places_nodup tokens places chart.within chart.apart
  · exact Nat.le_trans (Nat.le_of_eq (count_ends _ _ _ chart.located)) (Nat.le_trans chart.atEnd (room_le _))
  · exact (count_stops _ _).trans chart.stopping

-- A value is missing and then two braces, all at the end: no fewer complaints there would do.
example :
    (ofTokens 1 []
      [.spelled .leftBrace "\x7b" 1, .spelled .leftBrace "\x7b" 1, .spelled .wordPrint "print" 2]).readProgram.2.diagnostics =
    [⟨"Expect expression.", 2, .endOfTokens⟩, ⟨"Expect '\x7d' after block.", 2, .endOfTokens⟩,
      ⟨"Expect '\x7d' after block.", 2, .endOfTokens⟩] := by
  decide +kernel

end Parser

end StoryScript

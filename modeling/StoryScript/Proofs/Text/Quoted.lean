import StoryScript.Proofs.Token.Lexicon

set_option autoImplicit false

namespace StoryScript.Text

theorem digitChar_inj (m n : Nat) (smallM : m < 16) (smallN : n < 16) (same : m.digitChar = n.digitChar) : m = n := by
  have each : ∀ a b : Fin 16, a.val.digitChar = b.val.digitChar → a = b := by decide
  exact congrArg Fin.val (each ⟨m, smallM⟩ ⟨n, smallN⟩ same)

theorem toDigits_inj (base : Nat) (atLeast : 1 < base) (atMost : base ≤ 16) (m n : Nat)
    (same : Nat.toDigits base m = Nat.toDigits base n) : m = n := by
  induction m using Nat.strongRecOn generalizing n with
  | ind m ih =>
    rw [Nat.toDigits_eq_if atLeast, Nat.toDigits_eq_if (n := n) atLeast] at same
    have someDigits : ∀ k, Nat.toDigits base k ≠ [] := fun k => Nat.toDigits_ne_nil
    by_cases shortM : m < base
    · by_cases shortN : n < base
      · rw [if_pos shortM, if_pos shortN] at same
        exact digitChar_inj m n (by omega) (by omega) (List.singleton_inj.1 same)
      · rw [if_pos shortM, if_neg shortN] at same
        exact absurd (List.append_eq_singleton_iff.1 same.symm) (by simp [someDigits])
    · by_cases shortN : n < base
      · rw [if_neg shortM, if_pos shortN] at same
        exact absurd (List.append_eq_singleton_iff.1 same) (by simp [someDigits])
      · rw [if_neg shortM, if_neg shortN] at same
        obtain ⟨former, last⟩ := List.append_inj' same rfl
        have quotients := ih (m / base) (Nat.div_lt_self (by omega) atLeast) (n / base) former
        have smallM := Nat.mod_lt m (Nat.lt_trans Nat.zero_lt_one atLeast)
        have smallN := Nat.mod_lt n (Nat.lt_trans Nat.zero_lt_one atLeast)
        have remainders := digitChar_inj _ _ (by omega) (by omega) (List.singleton_inj.1 last)
        rw [← Nat.div_add_mod m base, ← Nat.div_add_mod n base, quotients, remainders]

theorem mem_toDigits (base : Nat) (atLeast : 1 < base) (n : Nat) (c : Char) (member : c ∈ Nat.toDigits base n) :
    ∃ k, c = Nat.digitChar k := by
  induction n using Nat.strongRecOn with
  | ind n ih =>
    rw [Nat.toDigits_eq_if atLeast] at member
    by_cases short : n < base
    · rw [if_pos short, List.mem_singleton] at member
      exact ⟨n, member⟩
    · rw [if_neg short, List.mem_append, List.mem_singleton] at member
      rcases member with earlier | last
      · exact ih (n / base) (Nat.div_lt_self (by omega) atLeast) earlier
      · exact ⟨n % base, last⟩

theorem brace_not_digit (n : Nat) : '\x7d' ∉ Nat.toDigits 16 n := by
  intro member
  obtain ⟨k, same⟩ := mem_toDigits 16 (by decide) n _ member
  exact Nat.digitChar_ne '\x7d' (by decide) same.symm

def shorthands : List (Char × Char) :=
  [('"', '"'), ('\\', '\\'), ('\n', 'n'), ('\r', 'r'), ('\t', 't'), ('\x00', '0')]

inductive Escaped (c : Char) : List Char → Prop where
  | plain (noQuote : c ≠ '"') (noBackslash : c ≠ '\\') : Escaped c [c]
  | short (mark : Char) (listed : (c, mark) ∈ shorthands) : Escaped c ['\\', mark]
  | byNumber : Escaped c (numbered c)

theorem escape_escaped (c : Char) : Escaped c (escape c) := by
  unfold escape
  split
  · exact .short '"' (by simp_all [shorthands])
  split
  · exact .short '\\' (by simp_all [shorthands])
  split
  · exact .short 'n' (by simp_all [shorthands])
  split
  · exact .short 'r' (by simp_all [shorthands])
  split
  · exact .short 't' (by simp_all [shorthands])
  split
  · exact .short '0' (by simp_all [shorthands])
  split
  · exact .byNumber
  · exact .plain ‹_› ‹_›

theorem shorthands_marks : ∀ entry ∈ shorthands, entry.2 ≠ 'u' ∧ ∀ other ∈ shorthands, entry.2 = other.2 → entry = other := by
  decide

theorem numbered_unique (c d : Char) (rest other : List Char) (same : numbered c ++ rest = numbered d ++ other) :
    c = d ∧ rest = other := by
  simp only [numbered, List.cons_append, List.append_assoc, List.nil_append, List.cons.injEq, true_and] at same
  have stops : ∀ after, Lexicon.Stops (· != '\x7d') ('\x7d' :: after) := by
    rintro after c more ⟨⟩
    rfl
  have within : ∀ n, ∀ e ∈ Nat.toDigits 16 n, (e != '\x7d') = true := by
    intro n e member
    refine bne_iff_ne.2 ?_
    rintro rfl
    exact brace_not_digit n member
  obtain ⟨digits, braces⟩ :=
    Lexicon.run_unique (· != '\x7d') _ _ _ _ (within c.toNat) (within d.toNat) (stops rest) (stops other) same
  obtain ⟨_, after⟩ := List.cons.inj braces
  exact ⟨Char.toNat_inj.1 (toDigits_inj 16 (by decide) (by decide) _ _ digits), after⟩

-- No escape begins another one, so it is over where it ends.
theorem escape_unique (c d : Char) (rest other : List Char) (same : escape c ++ rest = escape d ++ other) :
    c = d ∧ rest = other := by
  have first := escape_escaped c
  have second := escape_escaped d
  generalize escape c = written at first same
  generalize escape d = writtenToo at second same
  cases first with
  | plain noQuote noBackslash =>
    cases second with
    | plain _ _ =>
      obtain ⟨rfl, rfl⟩ := List.cons.inj same
      exact ⟨rfl, rfl⟩
    | short mark listed => exact absurd (List.cons.inj same).1 noBackslash
    | byNumber => exact absurd (List.cons.inj same).1 noBackslash
  | short mark listed =>
    cases second with
    | plain _ noBackslash => exact absurd (List.cons.inj same).1.symm noBackslash
    | short markToo listedToo =>
      obtain ⟨sameMark, rfl⟩ := List.cons.inj (List.cons.inj same).2
      cases (shorthands_marks _ listed).2 _ listedToo sameMark
      exact ⟨rfl, rfl⟩
    | byNumber =>
      exact absurd (List.cons.inj (List.cons.inj same).2).1 (shorthands_marks _ listed).1
  | byNumber =>
    cases second with
    | plain _ noBackslash => exact absurd (List.cons.inj same).1.symm noBackslash
    | short mark listed =>
      exact absurd (List.cons.inj (List.cons.inj same).2).1.symm (shorthands_marks _ listed).1
    | byNumber => exact numbered_unique c d rest other same

theorem escape_not_quote (c : Char) (rest other : List Char) : escape c ++ rest ≠ '"' :: other := by
  intro same
  have written := escape_escaped c
  generalize escape c = text at written same
  cases written with
  | plain noQuote _ => exact noQuote (List.cons.inj same).1
  | short mark _ => cases (List.cons.inj same).1
  | byNumber => cases (List.cons.inj same).1

theorem escapes_unique (cs ds rest other : List Char)
    (same : cs.flatMap escape ++ '"' :: rest = ds.flatMap escape ++ '"' :: other) : cs = ds ∧ rest = other := by
  induction cs generalizing ds with
  | nil =>
    cases ds with
    | nil => exact ⟨rfl, (List.cons.inj same).2⟩
    | cons d ds =>
      rw [List.flatMap_cons, List.append_assoc] at same
      exact absurd same.symm (escape_not_quote d _ _)
  | cons c cs ih =>
    cases ds with
    | nil =>
      rw [List.flatMap_cons, List.append_assoc] at same
      exact absurd same (escape_not_quote c _ _)
    | cons d ds =>
      rw [List.flatMap_cons, List.append_assoc, List.flatMap_cons, List.append_assoc] at same
      obtain ⟨rfl, others⟩ := escape_unique c d _ _ same
      obtain ⟨rfl, after⟩ := ih ds others
      exact ⟨rfl, after⟩

-- Where a quoted text ends, and which characters it holds, can be told whatever follows it.
theorem quoted_unique (cs ds rest other : List Char) (same : quotedChars cs ++ rest = quotedChars ds ++ other) :
    cs = ds ∧ rest = other := by
  simp only [quotedChars, List.cons_append, List.append_assoc, List.nil_append, List.cons.injEq, true_and] at same
  exact escapes_unique cs ds rest other same

end StoryScript.Text

import StoryScript.Proofs.Text.Quoted

set_option autoImplicit false

namespace StoryScript

-- A tree as it is written, in nothing but words, quoted texts and brackets.
inductive Form where
  | word (text : String)
  | quoted (text : String)
  | list (items : List Form)

mutual

def Form.chars : Form → List Char
  | .word text => text.toList
  | .quoted text => Text.quotedChars text.toList
  | .list [] => ['(', ')']
  | .list (first :: rest) => '(' :: (first.chars ++ (Form.charsAll rest ++ [')']))

def Form.charsAll : List Form → List Char
  | [] => []
  | item :: rest => ' ' :: (item.chars ++ Form.charsAll rest)

end

def wordChar (c : Char) : Bool := c != ' ' && c != '(' && c != ')' && c != '"'

structure PlainWord (text : String) : Prop where
  begun : text.toList ≠ []
  plain : ∀ c ∈ text.toList, wordChar c = true

instance (text : String) : Decidable (PlainWord text) :=
  decidable_of_iff (text.toList ≠ [] ∧ text.toList.all wordChar = true)
    ⟨fun word => ⟨word.1, List.all_eq_true.1 word.2⟩, fun word => ⟨word.begun, List.all_eq_true.2 word.plain⟩⟩

inductive Form.Plain : Form → Prop where
  | word (text : String) (isPlain : PlainWord text) : Plain (.word text)
  | quoted (text : String) : Plain (.quoted text)
  | list (items : List Form) (each : ∀ item ∈ items, item.Plain) : Plain (.list items)

inductive Parting : List Char → Prop where
  | nothing : Parting []
  | space (rest : List Char) : Parting (' ' :: rest)
  | bracket (rest : List Char) : Parting (')' :: rest)

theorem parting_stops (rest : List Char) (parting : Parting rest) : Lexicon.Stops wordChar rest := by
  rintro c more rfl
  cases parting <;> rfl

theorem parting_charsAll (items : List Form) (rest : List Char) : Parting (Form.charsAll items ++ ')' :: rest) := by
  cases items with
  | nil => exact .bracket rest
  | cons item items => exact .space _

theorem first_of_form (form : Form) (plain : form.Plain) :
    ∃ c more, form.chars = c :: more ∧ c ≠ ' ' ∧ c ≠ ')' ∧ (c = '"' ↔ ∃ text, form = .quoted text) ∧
      (c = '(' ↔ ∃ items, form = .list items) := by
  cases form with
  | word text =>
    cases plain with
    | word _ isPlain =>
      obtain ⟨c, more, spelled⟩ := List.exists_cons_of_ne_nil isPlain.begun
      have first := isPlain.plain c (by rw [spelled]; exact List.mem_cons_self)
      simp only [wordChar, Bool.and_eq_true, bne_iff_ne] at first
      refine ⟨c, more, by rw [Form.chars, spelled], ?_⟩
      simp [first]
  | quoted text => exact ⟨'"', _, by rw [Form.chars, Text.quotedChars], by simp⟩
  | list items =>
    cases items with
    | nil => exact ⟨'(', _, by rw [Form.chars], by simp⟩
    | cons first rest => exact ⟨'(', _, by rw [Form.chars], by simp⟩

theorem same_kind (form other : Form) (rest after : List Char) (plain : form.Plain) (plainToo : other.Plain)
    (same : form.chars ++ rest = other.chars ++ after) :
    ((∃ text, form = .quoted text) ↔ ∃ text, other = .quoted text) ∧
      ((∃ items, form = .list items) ↔ ∃ items, other = .list items) := by
  obtain ⟨c, more, spelled, _, _, quotes, opens⟩ := first_of_form form plain
  obtain ⟨d, moreToo, spelledToo, _, _, quotesToo, opensToo⟩ := first_of_form other plainToo
  rw [spelled, spelledToo] at same
  obtain rfl : c = d := (List.cons.inj same).1
  exact ⟨quotes.symm.trans quotesToo, opens.symm.trans opensToo⟩

-- A written form can be read in one way only: where it ends, and what it is, can be told whatever follows it.
mutual

theorem form_unique (form other : Form) (rest after : List Char) (plain : form.Plain) (plainToo : other.Plain)
    (parting : Parting rest) (partingToo : Parting after) (same : form.chars ++ rest = other.chars ++ after) :
    form = other ∧ rest = after := by
  have kinds := same_kind form other rest after plain plainToo same
  cases form with
  | word text =>
    cases other with
    | word textToo =>
      cases plain with
      | word _ isPlain =>
        cases plainToo with
        | word _ isPlainToo =>
          obtain ⟨texts, rests⟩ := Lexicon.run_unique wordChar _ _ _ _ isPlain.plain isPlainToo.plain
            (parting_stops rest parting) (parting_stops after partingToo) same
          exact ⟨congrArg Form.word (String.toList_inj.1 texts), rests⟩
    | quoted textToo => simp at kinds
    | list items => simp at kinds
  | quoted text =>
    cases other with
    | word textToo => simp at kinds
    | quoted textToo =>
      obtain ⟨texts, rests⟩ := Text.quoted_unique _ _ _ _ same
      exact ⟨congrArg Form.quoted (String.toList_inj.1 texts), rests⟩
    | list items => simp at kinds
  | list items =>
    cases other with
    | word textToo => simp at kinds
    | quoted textToo => simp at kinds
    | list others =>
      cases plain with
      | list _ each =>
        cases plainToo with
        | list _ eachToo =>
          obtain ⟨lists, rests⟩ := items_unique items others rest after each eachToo same
          exact ⟨congrArg Form.list lists, rests⟩

theorem items_unique (items others : List Form) (rest after : List Char) (each : ∀ item ∈ items, item.Plain)
    (eachToo : ∀ item ∈ others, item.Plain)
    (same : (Form.list items).chars ++ rest = (Form.list others).chars ++ after) : items = others ∧ rest = after := by
  cases items with
  | nil =>
    cases others with
    | nil => exact ⟨rfl, (List.cons.inj (List.cons.inj same).2).2⟩
    | cons first others =>
      obtain ⟨c, more, spelled, _, noBracket, _⟩ := first_of_form first (eachToo first List.mem_cons_self)
      rw [Form.chars, Form.chars, spelled] at same
      exact absurd (List.cons.inj (List.cons.inj same).2).1.symm noBracket
  | cons first items =>
    cases others with
    | nil =>
      obtain ⟨c, more, spelled, _, noBracket, _⟩ := first_of_form first (each first List.mem_cons_self)
      rw [Form.chars, Form.chars, spelled] at same
      exact absurd (List.cons.inj (List.cons.inj same).2).1 noBracket
    | cons firstToo others =>
      obtain ⟨plain, plains⟩ := List.forall_mem_cons.1 each
      obtain ⟨plainToo, plainsToo⟩ := List.forall_mem_cons.1 eachToo
      simp only [Form.chars, List.cons_append, List.append_assoc, List.cons.injEq, true_and, List.nil_append] at same
      obtain ⟨firsts, others'⟩ := form_unique first firstToo _ _ plain plainToo (parting_charsAll items rest)
        (parting_charsAll others after) same
      obtain ⟨rests, ends⟩ := charsAll_unique items others rest after plains plainsToo others'
      exact ⟨congr (congrArg List.cons firsts) rests, ends⟩

theorem charsAll_unique (items others : List Form) (rest after : List Char) (each : ∀ item ∈ items, item.Plain)
    (eachToo : ∀ item ∈ others, item.Plain)
    (same : Form.charsAll items ++ ')' :: rest = Form.charsAll others ++ ')' :: after) :
    items = others ∧ rest = after := by
  cases items with
  | nil =>
    cases others with
    | nil => exact ⟨rfl, (List.cons.inj same).2⟩
    | cons first others => cases (List.cons.inj same).1
  | cons first items =>
    cases others with
    | nil => cases (List.cons.inj same).1
    | cons firstToo others =>
      obtain ⟨plain, plains⟩ := List.forall_mem_cons.1 each
      obtain ⟨plainToo, plainsToo⟩ := List.forall_mem_cons.1 eachToo
      simp only [Form.charsAll, List.cons_append, List.append_assoc, List.cons.injEq, true_and] at same
      obtain ⟨firsts, others'⟩ := form_unique first firstToo _ _ plain plainToo (parting_charsAll items rest)
        (parting_charsAll others after) same
      obtain ⟨rests, ends⟩ := charsAll_unique items others rest after plains plainsToo others'
      exact ⟨congr (congrArg List.cons firsts) rests, ends⟩

end

end StoryScript

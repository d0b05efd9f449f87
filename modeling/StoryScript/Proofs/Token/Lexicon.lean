import Mathlib.Data.List.TakeWhile
import StoryScript.Token.Piece

set_option autoImplicit false

namespace StoryScript.Lexicon

open Piece (isSpace startsName continuesName keywords)

def signs : List (List Char × Kind) :=
  [(['('], .leftParen), ([')'], .rightParen), (['\x7b'], .leftBrace), (['\x7d'], .rightBrace), ([','], .comma),
    (['.'], .dot), (['-'], .minus), (['+'], .plus), ([';'], .semicolon), (['/'], .slash), (['*'], .star),
    (['!'], .bang), (['!', '='], .bangEqual), (['='], .equal), (['=', '='], .equalEqual), (['>'], .greater),
    (['>', '='], .greaterEqual), (['<'], .less), (['<', '='], .lessEqual)]

-- The texts that may be a token of a kind. Every keyword is spelled like a name too.
inductive Pattern : Kind → List Char → Prop where
  | sign (kind : Kind) (text : List Char) (listed : (text, kind) ∈ signs) : Pattern kind text
  | keyword (kind : Kind) (word : List Char) (listed : (String.ofList word, kind) ∈ keywords) : Pattern kind word
  | name (c : Char) (word : List Char) (starts : startsName c = true) (continues : ∀ d ∈ word, continuesName d = true) :
      Pattern .identifier (c :: word)
  | whole (c : Char) (digits : List Char) (first : c.isDigit = true) (others : ∀ d ∈ digits, d.isDigit = true) :
      Pattern .number (c :: digits)
  | decimal (c d : Char) (digits fraction : List Char) (first : c.isDigit = true)
      (others : ∀ d ∈ digits, d.isDigit = true) (afterPoint : d.isDigit = true)
      (last : ∀ d ∈ fraction, d.isDigit = true) : Pattern .number (c :: (digits ++ '.' :: d :: fraction))
  | string (body : List Char) (within : '"' ∉ body) : Pattern .string ('"' :: (body ++ ['"']))

-- The token that a text begins with: no longer one is possible, and of those as long only a name gives
-- way, which it does to a keyword.
structure Longest (kind : Kind) (lexeme rest : List Char) : Prop where
  pattern : Pattern kind lexeme
  longest : ∀ other longer after, Pattern other longer → longer ++ after = lexeme ++ rest →
    longer.length ≤ lexeme.length
  preferred : ∀ other, Pattern other lexeme → other = kind ∨ other = .identifier

def Stops (p : Char → Bool) (rest : List Char) : Prop := ∀ c more, rest = c :: more → p c = false

inductive OpensComment : List Char → Prop where
  | line (more : List Char) : OpensComment ('/' :: '/' :: more)
  | block (more : List Char) : OpensComment ('/' :: '*' :: more)

-- What the first piece of a text may be, when the given text follows it.
inductive Fits : Piece → List Char → Prop where
  | token (kind : Kind) (lexeme rest : List Char) (longest : Longest kind lexeme rest)
      (noComment : ¬ OpensComment (lexeme ++ rest)) : Fits (.token kind lexeme) rest
  | blank (c : Char) (text rest : List Char) (first : isSpace c = true) (others : ∀ d ∈ text, isSpace d = true)
      (ends : Stops isSpace rest) : Fits (.blank (c :: text)) rest
  | newline (rest : List Char) : Fits .newline rest
  | lineComment (body rest : List Char) (within : '\n' ∉ body) (ends : Stops (· != '\n') rest) :
      Fits (.lineComment ('/' :: '/' :: body)) rest
  | blockComment (body rest : List Char)
      (first : ∀ before after, before ++ '*' :: '/' :: after = body ++ ['*', '/'] → after = []) :
      Fits (.blockComment ('/' :: '*' :: (body ++ ['*', '/']))) rest
  | invalid (c : Char) (rest : List Char) (noNewline : c ≠ '\n') (noSpace : isSpace c = false) (noQuote : c ≠ '"')
      (noToken : ∀ kind lexeme after, Pattern kind lexeme → lexeme ++ after ≠ c :: rest) : Fits (.invalid c) rest
  | openString (body : List Char) (within : '"' ∉ body) : Fits (.openString ('"' :: body)) []
  | openComment (body : List Char) (unclosed : ∀ before after, before ++ '*' :: '/' :: after ≠ body) :
      Fits (.openComment ('/' :: '*' :: body)) []

inductive Lexed : List Char → List Piece → Prop where
  | nil : Lexed [] []
  | cons (piece : Piece) (rest : List Char) (ps : List Piece) (fits : Fits piece rest) (others : Lexed rest ps) :
      Lexed (piece.chars ++ rest) (piece :: ps)

theorem takeWhile_run (p : Char → Bool) (run rest : List Char) (all : ∀ c ∈ run, p c = true) (ends : Stops p rest) :
    (run ++ rest).takeWhile p = run := by
  rw [List.takeWhile_append_of_pos all]
  cases rest with
  | nil => simp
  | cons c more => simp [ends c more rfl]

theorem dropWhile_run (p : Char → Bool) (run rest : List Char) (all : ∀ c ∈ run, p c = true) (ends : Stops p rest) :
    (run ++ rest).dropWhile p = rest := by
  rw [List.dropWhile_append_of_pos all]
  cases rest with
  | nil => rfl
  | cons c more => simp [ends c more rfl]

theorem run_unique (p : Char → Bool) (run other rest after : List Char) (all : ∀ c ∈ run, p c = true)
    (allToo : ∀ c ∈ other, p c = true) (ends : Stops p rest) (endsToo : Stops p after)
    (same : run ++ rest = other ++ after) : run = other ∧ rest = after := by
  have runs := takeWhile_run p run rest all ends
  have rests := dropWhile_run p run rest all ends
  rw [same] at runs rests
  rw [takeWhile_run p other after allToo endsToo] at runs
  rw [dropWhile_run p other after allToo endsToo] at rests
  exact ⟨runs.symm, rests.symm⟩

theorem stops_dropWhile (p : Char → Bool) (cs : List Char) : Stops p (cs.dropWhile p) := by
  intro c more found
  induction cs with
  | nil => cases found
  | cons d cs ih =>
    rw [List.dropWhile_cons] at found
    split at found
    · exact ih found
    · rename_i stopped
      cases found
      simpa using stopped

theorem length_run_le (p : Char → Bool) (run rest cs : List Char) (all : ∀ c ∈ run, p c = true)
    (spelled : run ++ rest = cs) : run.length ≤ (cs.takeWhile p).length := by
  rw [← spelled, List.takeWhile_append_of_pos all, List.length_append]
  exact Nat.le_add_right _ _

theorem startsName_not_digit (c : Char) (starts : startsName c = true) : c.isDigit = false := by
  rw [startsName, Bool.or_eq_true] at starts
  rcases starts with letter | line
  · change (decide (c.val ≥ 'A'.val ∧ c.val ≤ 'Z'.val) || (decide (c.val ≥ 'a'.val) && decide (c.val ≤ 'z'.val))) = true
      at letter
    simp only [Bool.or_eq_true, Bool.and_eq_true, decide_eq_true_eq, ge_iff_le, UInt32.le_iff_toNat_le] at letter
    change (65 ≤ c.val.toNat ∧ c.val.toNat ≤ 90) ∨ (97 ≤ c.val.toNat ∧ c.val.toNat ≤ 122) at letter
    simp only [Char.isDigit, Bool.and_eq_false_iff, decide_eq_false_iff_not, UInt32.le_iff_toNat_le, ge_iff_le]
    change ¬ 48 ≤ c.val.toNat ∨ ¬ c.val.toNat ≤ 57
    omega
  · rw [eq_of_beq line]
    decide

theorem signs_plain : ∀ entry ∈ signs, entry.1 ≠ [] ∧ ∀ c ∈ entry.1,
    startsName c = false ∧ c.isDigit = false ∧ c ≠ '"' ∧ c ≠ '\n' ∧ isSpace c = false := by
  have checked : (signs.all fun entry => entry.1 != [] && entry.1.all fun c =>
      startsName c == false && c.isDigit == false && c != '"' && c != '\n' && isSpace c == false) = true := by decide
  simpa only [List.all_eq_true, Bool.and_eq_true, bne_iff_ne, beq_iff_eq, and_assoc] using checked

theorem keywords_named : ∀ entry ∈ keywords, entry.1.toList ≠ [] ∧ ∀ c ∈ entry.1.toList, startsName c = true := by
  have checked : (keywords.all fun entry => entry.1.toList != [] && entry.1.toList.all startsName) = true := by
    decide +kernel
  simpa only [List.all_eq_true, Bool.and_eq_true, bne_iff_ne] using checked

theorem keyword_named (kind : Kind) (word : List Char) (listed : (String.ofList word, kind) ∈ keywords) :
    word ≠ [] ∧ ∀ c ∈ word, startsName c = true := by
  have named := keywords_named _ listed
  rwa [String.toList_ofList] at named

theorem continues_of_starts (c : Char) (starts : startsName c = true) : continuesName c = true := by
  simp only [startsName, continuesName, Char.isAlphanum, Bool.or_eq_true] at *
  rcases starts with letter | line
  · exact Or.inl (Or.inl letter)
  · exact Or.inr line

theorem pattern_named (kind : Kind) (c : Char) (more : List Char) (pattern : Pattern kind (c :: more))
    (starts : startsName c = true) :
    (∀ d ∈ more, continuesName d = true) ∧ (kind = .identifier ∨ (String.ofList (c :: more), kind) ∈ keywords) := by
  have noDigit := startsName_not_digit c starts
  cases pattern with
  | sign _ _ listed =>
    have plain := ((signs_plain _ listed).2 c List.mem_cons_self).1
    rw [starts] at plain
    cases plain
  | keyword _ _ listed =>
    refine ⟨?_, Or.inr listed⟩
    intro d member
    exact continues_of_starts d ((keyword_named kind _ listed).2 d (List.mem_cons_of_mem c member))
  | name _ _ _ continues => exact ⟨continues, Or.inl rfl⟩
  | whole _ _ first _ =>
    rw [first] at noDigit
    cases noDigit
  | decimal _ _ _ _ first _ _ _ =>
    rw [first] at noDigit
    cases noDigit
  | string body _ => cases starts

theorem pattern_digits (kind : Kind) (c : Char) (more : List Char) (pattern : Pattern kind (c :: more))
    (digit : c.isDigit = true) :
    kind = .number ∧ ((∀ d ∈ more, d.isDigit = true) ∨
      ∃ digits d fraction, more = digits ++ '.' :: d :: fraction ∧ (∀ e ∈ digits, e.isDigit = true) ∧
        d.isDigit = true ∧ ∀ e ∈ fraction, e.isDigit = true) := by
  have noName : startsName c ≠ true := by
    intro starts
    rw [startsName_not_digit c starts] at digit
    cases digit
  cases pattern with
  | sign _ _ listed =>
    have plain := ((signs_plain _ listed).2 c List.mem_cons_self).2.1
    rw [digit] at plain
    cases plain
  | keyword _ _ listed => exact (noName ((keyword_named kind _ listed).2 c List.mem_cons_self)).elim
  | name _ _ starts _ => exact (noName starts).elim
  | whole _ _ _ others => exact ⟨rfl, Or.inl others⟩
  | decimal _ d digits fraction _ others afterPoint last =>
    exact ⟨rfl, Or.inr ⟨digits, d, fraction, rfl, others, afterPoint, last⟩⟩
  | string body _ => cases digit

theorem pattern_quoted (kind : Kind) (more : List Char) (pattern : Pattern kind ('"' :: more)) :
    kind = .string ∧ ∃ body, more = body ++ ['"'] ∧ '"' ∉ body := by
  cases pattern with
  | sign _ _ listed => exact ((((signs_plain _ listed).2 '"' List.mem_cons_self).2.2.1) rfl).elim
  | keyword _ _ listed => cases (keyword_named kind _ listed).2 '"' List.mem_cons_self
  | name _ _ starts _ => cases starts
  | whole _ _ first _ => cases first
  | decimal _ _ _ _ first _ _ _ => cases first
  | string body within => exact ⟨rfl, body, rfl, within⟩

theorem pattern_signed (kind : Kind) (c : Char) (more : List Char) (pattern : Pattern kind (c :: more))
    (noName : startsName c = false) (noDigit : c.isDigit = false) (noQuote : c ≠ '"') : (c :: more, kind) ∈ signs := by
  cases pattern with
  | sign _ _ listed => exact listed
  | keyword _ _ listed =>
    rw [(keyword_named kind _ listed).2 c List.mem_cons_self] at noName
    cases noName
  | name _ _ starts _ =>
    rw [starts] at noName
    cases noName
  | whole _ _ first _ =>
    rw [first] at noDigit
    cases noDigit
  | decimal _ _ _ _ first _ _ _ =>
    rw [first] at noDigit
    cases noDigit
  | string body _ => exact (noQuote rfl).elim

theorem pattern_first (kind : Kind) (lexeme : List Char) (pattern : Pattern kind lexeme) :
    ∃ c more, lexeme = c :: more ∧ c ≠ '\n' ∧ isSpace c = false := by
  have notBlank : ∀ c : Char, startsName c = true ∨ c.isDigit = true → c ≠ '\n' ∧ isSpace c = false := by
    intro c begins
    constructor
    · rintro rfl
      rcases begins with starts | digit
      · cases starts
      · cases digit
    · by_contra space
      simp only [isSpace, Bool.not_eq_false, Bool.or_eq_true, beq_iff_eq] at space
      rcases space with ((rfl | rfl) | rfl) | rfl <;> revert begins <;> decide
  cases pattern with
  | sign _ _ listed =>
    obtain ⟨some, plain⟩ := signs_plain _ listed
    obtain ⟨c, more, rfl⟩ := List.exists_cons_of_ne_nil some
    obtain ⟨_, _, _, noNewline, noSpace⟩ := plain c List.mem_cons_self
    exact ⟨c, more, rfl, noNewline, noSpace⟩
  | keyword _ _ listed =>
    obtain ⟨some, named⟩ := keyword_named kind lexeme listed
    obtain ⟨c, more, rfl⟩ := List.exists_cons_of_ne_nil some
    exact ⟨c, more, rfl, notBlank c (Or.inl (named c List.mem_cons_self))⟩
  | name c word starts _ => exact ⟨c, word, rfl, notBlank c (Or.inl starts)⟩
  | whole c digits first _ => exact ⟨c, digits, rfl, notBlank c (Or.inr first)⟩
  | decimal c d digits fraction first _ _ _ => exact ⟨c, _, rfl, notBlank c (Or.inr first)⟩
  | string body _ => exact ⟨'"', body ++ ['"'], rfl, by decide, by decide⟩

end StoryScript.Lexicon

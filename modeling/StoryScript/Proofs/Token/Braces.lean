import Mathlib.Algebra.Ring.Int.Defs
import Mathlib.Data.List.Infix
import StoryScript.Proofs.Token.LongestMatch

set_option autoImplicit false

namespace StoryScript

open Lexicon

def braceOf (c : Char) : Int := if c = '\x7b' then 1 else if c = '\x7d' then -1 else 0

def Kind.braces (kind : Kind) : Int := if kind = .leftBrace then 1 else if kind = .rightBrace then -1 else 0

def Piece.braces : Piece → Int
  | .token kind _ => kind.braces
  | _ => 0

inductive Mode where
  | code
  | string
  | comment

-- The braces opened less those closed in a text, as counted by such a reader. It knows strings and comments
-- up to the end of the line, and begins each line afresh.
def lineBraces : Mode → List Char → Int
  | _, [] => 0
  | mode, c :: rest =>
    if c = '\n' then lineBraces .code rest
    else
      match mode with
      | .code =>
        if c = '"' then lineBraces .string rest
        else if c = '/' ∧ rest.head? = some '/' then lineBraces .comment rest
        else braceOf c + lineBraces .code rest
      | .string => if c = '"' then lineBraces .code rest else lineBraces .string rest
      | .comment => lineBraces .comment rest

-- A comment that the reader may as well take for code: no quote and no brace is in it, and nothing in it or
-- right after it makes it look like a comment that goes to the end of the line.
def overlooked (text after : List Char) : Bool :=
  '"' ∉ text ∧ '\x7b' ∉ text ∧ '\x7d' ∉ text ∧ ¬ ['/', '/'] <:+: text ++ after.take 1

namespace Piece

-- Pieces that mean the same to a reader that goes line by line. The line end that is the last of a text may
-- belong to a string that is never closed.
def linewise (after : List Char) : Piece → Bool
  | .token _ lexeme => '\n' ∉ lexeme
  | .openString text => '\n' ∉ text.dropLast
  | .blockComment text => overlooked text after
  | .openComment text => overlooked text after
  | _ => true

def allLinewise : List Piece → Bool
  | [] => true
  | piece :: rest => piece.linewise (rest.flatMap chars) && allLinewise rest

end Piece

theorem lineBraces_newline (mode : Mode) (rest : List Char) : lineBraces mode ('\n' :: rest) = lineBraces .code rest := by
  cases mode <;> rfl

theorem lineBraces_comment (body rest : List Char) (within : '\n' ∉ body) :
    lineBraces .comment (body ++ rest) = lineBraces .comment rest := by
  induction body with
  | nil => rfl
  | cons c body ih =>
    have notNewline := List.ne_of_not_mem_cons within
    rw [List.cons_append, lineBraces, if_neg (Ne.symm notNewline)]
    exact ih (List.not_mem_of_not_mem_cons within)

theorem lineBraces_string (body rest : List Char) (noQuote : '"' ∉ body) (within : '\n' ∉ body) :
    lineBraces .string (body ++ rest) = lineBraces .string rest := by
  induction body with
  | nil => rfl
  | cons c body ih =>
    have notNewline := List.ne_of_not_mem_cons within
    have notQuote := List.ne_of_not_mem_cons noQuote
    rw [List.cons_append, lineBraces, if_neg (Ne.symm notNewline), if_neg (Ne.symm notQuote)]
    exact ih (List.not_mem_of_not_mem_cons noQuote) (List.not_mem_of_not_mem_cons within)

theorem lineBraces_run (run rest : List Char) (noQuote : '"' ∉ run)
    (noComment : ¬ ['/', '/'] <:+: run ++ rest.take 1) :
    lineBraces .code (run ++ rest) = (run.map braceOf).sum + lineBraces .code rest := by
  induction run with
  | nil => simp
  | cons c run ih =>
    have notQuote := List.ne_of_not_mem_cons noQuote
    have further := ih (List.not_mem_of_not_mem_cons noQuote)
      fun found => noComment (found.trans (List.suffix_cons c _).isInfix)
    rw [List.cons_append, List.map_cons, List.sum_cons, Int.add_assoc, ← further]
    by_cases newline : c = '\n'
    · subst newline
      rw [lineBraces_newline]
      exact (Int.zero_add _).symm
    · have single : ¬ (c = '/' ∧ (run ++ rest).head? = some '/') := by
        rintro ⟨rfl, next⟩
        refine noComment (List.IsPrefix.isInfix ?_)
        cases run with
        | nil =>
          obtain ⟨more, rfl⟩ := List.head?_eq_some_iff.1 next
          exact List.prefix_refl _
        | cons d run =>
          cases next
          exact ⟨_, rfl⟩
      rw [lineBraces, if_neg newline, if_neg (Ne.symm notQuote), if_neg single]

theorem sum_braceOf (run : List Char) (noOpening : '\x7b' ∉ run) (noClosing : '\x7d' ∉ run) :
    (run.map braceOf).sum = 0 := by
  induction run with
  | nil => rfl
  | cons c run ih =>
    have notOpening := List.ne_of_not_mem_cons noOpening
    have notClosing := List.ne_of_not_mem_cons noClosing
    rw [List.map_cons, List.sum_cons, ih (List.not_mem_of_not_mem_cons noOpening) (List.not_mem_of_not_mem_cons noClosing),
      braceOf, if_neg (Ne.symm notOpening), if_neg (Ne.symm notClosing)]
    rfl

theorem few_slashes (text : List Char) (few : text.count '/' < 2) : ¬ ['/', '/'] <:+: text := by
  intro found
  have slashes := found.sublist.count_le '/'
  exact Nat.not_le_of_lt few slashes

theorem lineBraces_overlooked (text rest : List Char) (plain : overlooked text rest = true) :
    lineBraces .code (text ++ rest) = lineBraces .code rest := by
  obtain ⟨noQuote, noOpening, noClosing, noComment⟩ := of_decide_eq_true plain
  rw [lineBraces_run text rest noQuote noComment, sum_braceOf text noOpening noClosing, Int.zero_add]

theorem lineBraces_plain (p : Char → Bool) (run rest : List Char) (all : ∀ c ∈ run, p c = true)
    (plain : p '"' = false ∧ p '/' = false ∧ p '\x7b' = false ∧ p '\x7d' = false) :
    lineBraces .code (run ++ rest) = lineBraces .code rest := by
  have absent : ∀ c, p c = false → c ∉ run := by
    intro c other member
    rw [all c member] at other
    cases other
  obtain ⟨quote, slash, opening, closing⟩ := plain
  refine lineBraces_overlooked run rest (decide_eq_true ⟨absent _ quote, absent _ opening, absent _ closing, ?_⟩)
  apply few_slashes
  rw [List.count_append, List.count_eq_zero_of_not_mem (absent _ slash), Nat.zero_add]
  exact Nat.lt_succ_of_le (List.count_le_length.trans (List.length_take_le 1 rest))

theorem signs_counted : ∀ entry ∈ signs,
    '"' ∉ entry.1 ∧ (entry.1.map braceOf).sum = entry.2.braces ∧ ('/' ∈ entry.1 → entry.1 = ['/']) := by
  decide

theorem keywords_counted : ∀ entry ∈ Piece.keywords, entry.2.braces = 0 := by
  decide

theorem lineBraces_sign (kind : Kind) (text rest : List Char) (listed : (text, kind) ∈ signs)
    (noComment : ¬ OpensComment (text ++ rest)) :
    lineBraces .code (text ++ rest) = kind.braces + lineBraces .code rest := by
  obtain ⟨noQuote, counted, slash⟩ := signs_counted _ listed
  rw [← counted]
  refine lineBraces_run text rest noQuote (few_slashes _ ?_)
  rw [List.count_append]
  by_cases isSlash : '/' ∈ text
  · have alone : text = ['/'] := slash isSlash
    subst alone
    cases rest with
    | nil => decide
    | cons c more =>
      have single : c ≠ '/' := by
        rintro rfl
        exact noComment (.line more)
      have noSlash : List.count '/' [c] = 0 := List.count_eq_zero_of_not_mem (by simpa using Ne.symm single)
      rw [List.take_succ_cons, List.take_zero, noSlash]
      decide
  · rw [List.count_eq_zero_of_not_mem isSlash, Nat.zero_add]
    exact Nat.lt_succ_of_le (List.count_le_length.trans (List.length_take_le 1 rest))

theorem lineBraces_token (kind : Kind) (lexeme rest : List Char) (pattern : Pattern kind lexeme)
    (noComment : ¬ OpensComment (lexeme ++ rest)) (within : '\n' ∉ lexeme) :
    lineBraces .code (lexeme ++ rest) = kind.braces + lineBraces .code rest := by
  cases pattern with
  | sign _ _ listed => exact lineBraces_sign kind lexeme rest listed noComment
  | keyword _ _ listed =>
    have uncounted : kind.braces = 0 := keywords_counted _ listed
    rw [uncounted, Int.zero_add]
    exact lineBraces_plain Piece.startsName lexeme rest (keyword_named kind lexeme listed).2 (by decide)
  | name c word starts continues =>
    have all : ∀ d ∈ c :: word, Piece.continuesName d = true :=
      List.forall_mem_cons.2 ⟨continues_of_starts c starts, continues⟩
    exact (lineBraces_plain Piece.continuesName _ rest all (by decide)).trans (Int.zero_add _).symm
  | whole c digits first others =>
    have all : ∀ d ∈ c :: digits, d.isDigit = true := List.forall_mem_cons.2 ⟨first, others⟩
    exact (lineBraces_plain Char.isDigit _ rest all (by decide)).trans (Int.zero_add _).symm
  | decimal c d digits fraction first others afterPoint last =>
    have all : ∀ e ∈ c :: (digits ++ '.' :: d :: fraction), (e.isDigit || e == '.') = true := by
      intro e member
      simp only [List.mem_cons, List.mem_append] at member
      rcases member with rfl | inside | rfl | rfl | inside
      · simp [first]
      · simp [others e inside]
      · simp
      · simp [afterPoint]
      · simp [last e inside]
    exact (lineBraces_plain (fun e => e.isDigit || e == '.') _ rest all (by decide)).trans (Int.zero_add _).symm
  | string body noQuote =>
    have inside : '\n' ∉ body := by
      intro member
      exact within (List.mem_cons_of_mem _ (List.mem_append_left _ member))
    have closes : lineBraces .string ('"' :: rest) = lineBraces .code rest := rfl
    rw [List.cons_append, List.append_assoc]
    change lineBraces .string (body ++ '"' :: rest) = 0 + lineBraces .code rest
    rw [lineBraces_string body _ noQuote inside, closes, Int.zero_add]

theorem lineBraces_openString (body : List Char) (noQuote : '"' ∉ body) (within : '\n' ∉ ('"' :: body).dropLast) :
    lineBraces .code ('"' :: body) = 0 := by
  change lineBraces .string body = 0
  cases body using List.reverseRecOn with
  | nil => rfl
  | append_singleton body last =>
    rw [← List.cons_append, List.dropLast_concat] at within
    rw [lineBraces_string body [last] (fun member => noQuote (List.mem_append_left _ member))
      (List.not_mem_of_not_mem_cons within)]
    by_cases newline : last = '\n'
    · rw [newline]
      rfl
    · rw [lineBraces, if_neg newline]
      split <;> rfl

-- One piece at a time, a reader that goes line by line counts what the pieces count.
theorem lineBraces_fits (piece : Piece) (rest : List Char) (fits : Fits piece rest)
    (linewise : piece.linewise rest = true) :
    lineBraces .code (piece.chars ++ rest) = piece.braces + lineBraces .code rest := by
  cases fits with
  | token kind lexeme _ longest noComment =>
    exact lineBraces_token kind lexeme rest longest.pattern noComment (of_decide_eq_true linewise)
  | blank c text _ first others ends =>
    have all : ∀ d ∈ c :: text, Piece.isSpace d = true := List.forall_mem_cons.2 ⟨first, others⟩
    exact (lineBraces_plain Piece.isSpace _ rest all (by decide)).trans (Int.zero_add _).symm
  | newline => exact (lineBraces_newline .code rest).trans (Int.zero_add _).symm
  | lineComment body _ within ends =>
    have home : lineBraces .comment rest = lineBraces .code rest := by
      cases rest with
      | nil => rfl
      | cons c more =>
        have newline : c = '\n' := by simpa using ends c more rfl
        rw [newline, lineBraces_newline, lineBraces_newline]
    change lineBraces .comment (body ++ rest) = 0 + lineBraces .code rest
    rw [lineBraces_comment body rest within, home, Int.zero_add]
  | blockComment body => exact (lineBraces_overlooked _ rest linewise).trans (Int.zero_add _).symm
  | invalid c _ noNewline noSpace noQuote noToken =>
    have unsigned : ∀ kind, ([c], kind) ∉ signs := fun kind listed => noToken kind [c] rest (.sign kind [c] listed) rfl
    have notSlash : c ≠ '/' := fun same => unsigned .slash (same ▸ by decide)
    have notOpening : c ≠ '\x7b' := fun same => unsigned .leftBrace (same ▸ by decide)
    have notClosing : c ≠ '\x7d' := fun same => unsigned .rightBrace (same ▸ by decide)
    refine (lineBraces_plain (· == c) [c] rest (by simp) ?_).trans (Int.zero_add _).symm
    simp [noQuote.symm, notSlash.symm, notOpening.symm, notClosing.symm]
  | openString body noQuote =>
    rw [List.append_nil]
    exact lineBraces_openString body noQuote (of_decide_eq_true linewise)
  | openComment body => exact (lineBraces_overlooked _ [] linewise).trans (Int.zero_add _).symm

theorem lexed_chars (cs : List Char) (ps : List Piece) (lexed : Lexed cs ps) : ps.flatMap Piece.chars = cs := by
  rw [(lexed_iff cs ps).1 lexed]
  exact flatMap_chars_pieces cs

theorem lineBraces_lexed (cs : List Char) (ps : List Piece) (lexed : Lexed cs ps)
    (linewise : Piece.allLinewise ps = true) : lineBraces .code cs = (ps.map Piece.braces).sum := by
  induction lexed with
  | nil => rfl
  | cons piece rest ps fits others ih =>
    rw [Piece.allLinewise, Bool.and_eq_true, lexed_chars rest ps others] at linewise
    rw [lineBraces_fits piece rest fits linewise.1, ih linewise.2, List.map_cons, List.sum_cons]

theorem braces_collect (line : Nat) (ps : List Piece) :
    (ps.map Piece.braces).sum =
      (((Piece.collect Piece.token? line ps).map Token.kind).count .leftBrace : Int) -
        (((Piece.collect Piece.token? line ps).map Token.kind).count .rightBrace : Int) := by
  induction ps generalizing line with
  | nil => rfl
  | cons piece rest ih =>
    rw [List.map_cons, List.sum_cons, ih (piece.pass line), Piece.collect, List.map_append, List.count_append,
      List.count_append]
    cases piece with
    | token kind lexeme =>
      simp only [Piece.braces, Piece.token?, Option.toList, List.map_cons, List.map_nil, Token.kind_spelled, Kind.braces,
        List.count_singleton]
      by_cases opening : kind = .leftBrace
      · simp [opening]
        omega
      · by_cases closing : kind = .rightBrace
        · simp [closing]
          omega
        · simp [opening, closing]
    | _ => simp [Piece.braces, Piece.token?]

theorem braces_scan (text : String) (startLine : Nat) (linewise : Piece.allLinewise (pieces text.toList) = true) :
    lineBraces .code text.toList =
      (((scan text startLine).tokens.map Token.kind).count .leftBrace : Int) -
        (((scan text startLine).tokens.map Token.kind).count .rightBrace : Int) := by
  rw [lineBraces_lexed _ _ (pieces_lexed text.toList) linewise, braces_collect (wrapLine startLine), scan, List.map_append,
    List.count_append, List.count_append]
  simp [Token.endAt]

end StoryScript

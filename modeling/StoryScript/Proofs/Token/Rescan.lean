import StoryScript.Proofs.Token.LongestMatch

set_option autoImplicit false

namespace StoryScript

namespace Lexicon

open Piece

theorem pattern_spaceless (kind : Kind) (lexeme : List Char) (pattern : Pattern kind lexeme) (noString : kind ≠ .string) :
    ' ' ∉ lexeme := by
  intro member
  cases pattern with
  | sign _ _ listed => cases ((signs_plain _ listed).2 ' ' member).2.2.2.2
  | keyword _ _ listed => cases (keyword_named kind lexeme listed).2 ' ' member
  | name c word starts continues =>
    rcases List.mem_cons.1 member with rfl | later
    · cases starts
    · cases continues ' ' later
  | whole c digits first others =>
    rcases List.mem_cons.1 member with rfl | later
    · cases first
    · cases others ' ' later
  | decimal c d digits fraction first others afterPoint last =>
    simp only [List.mem_cons, List.mem_append] at member
    rcases member with rfl | inWhole | point | rfl | inFraction
    · cases first
    · cases others ' ' inWhole
    · cases point
    · cases afterPoint
    · cases last ' ' inFraction
  | string body _ => exact noString rfl

-- No token goes on from another one over a space: only a string could, and a string is over at its second quote.
theorem pattern_ends_at_space (kind other : Kind) (lexeme more : List Char) (pattern : Pattern kind lexeme) :
    ¬ Pattern other (lexeme ++ ' ' :: more) := by
  intro longer
  by_cases isString : other = .string
  · subst isString
    obtain ⟨body, spelled, within⟩ := pattern_string _ longer
    obtain ⟨c, tail, rfl, _⟩ := pattern_first kind lexeme pattern
    obtain ⟨rfl, rest⟩ := List.cons.inj spelled
    obtain ⟨_, inner, rfl, _⟩ := pattern_quoted kind tail pattern
    change inner ++ ['"'] ++ ' ' :: more = body ++ ['"'] at rest
    have shorter := congrArg List.dropLast rest
    rw [List.dropLast_concat, List.append_assoc, List.dropLast_append_of_ne_nil (by simp)] at shorter
    refine within ?_
    rw [← shorter]
    simp
  · exact pattern_spaceless other _ longer isString (by simp)

-- What is the longest token at one place is the longest wherever a space or the end of the text follows it.
theorem longest_before_space (kind : Kind) (lexeme rest before : List Char) (longest : Longest kind lexeme before)
    (ends : Stops (· != ' ') rest) : Longest kind lexeme rest := by
  refine ⟨longest.pattern, ?_, longest.preferred⟩
  intro other longer after pattern spelled
  rcases List.append_eq_append_iff.1 spelled with ⟨more, rfl, _⟩ | ⟨more, rfl, follows⟩
  · simp
  · cases more with
    | nil => simp
    | cons c more =>
      obtain rfl : c = ' ' := by simpa using ends c (more ++ after) follows
      exact (pattern_ends_at_space kind other lexeme more longest.pattern pattern).elim

theorem no_comment_before_space (kind : Kind) (lexeme rest : List Char) (pattern : Pattern kind lexeme)
    (ends : Stops (· != ' ') rest) : ¬ OpensComment (lexeme ++ rest) := by
  obtain ⟨c, more, rfl, _⟩ := pattern_first kind lexeme pattern
  by_cases slash : c = '/'
  · subst slash
    have listed := pattern_signed kind '/' more pattern (by decide) (by decide) (by decide)
    rcases sign_cases '/' more kind listed with ⟨rfl, _⟩ | ⟨_, double⟩
    · -- A slash is a token of one character, and a space stands where the comment would go on.
      intro opens
      change OpensComment ('/' :: rest) at opens
      cases opens with
      | line after => cases ends '/' after rfl
      | block after => cases ends '*' after rfl
    · cases double
  · exact no_comment c _ slash

theorem token_before_space (kind : Kind) (lexeme rest before : List Char) (longest : Longest kind lexeme before)
    (ends : Stops (· != ' ') rest) : Fits (.token kind lexeme) rest :=
  .token kind lexeme rest (longest_before_space kind lexeme rest before longest ends)
    (no_comment_before_space kind lexeme rest longest.pattern ends)

def spaced (tokens : List (Kind × List Char)) : List Piece :=
  (tokens.map fun t => Piece.token t.1 t.2).intersperse (.blank [' '])

theorem blank_ends (t : Kind × List Char) (others : List (Kind × List Char)) (pattern : Pattern t.1 t.2) :
    Stops isSpace ([' '].intercalate ((t :: others).map Prod.snd)) := by
  obtain ⟨c, more, spelled, _, noSpace⟩ := pattern_first t.1 t.2 pattern
  have begins : ∃ after, [' '].intercalate ((t :: others).map Prod.snd) = c :: after := by
    cases others <;> simp [spelled]
  obtain ⟨after, begins⟩ := begins
  rw [begins]
  intro d tail found
  cases found
  exact noSpace

theorem spaced_lexed (tokens : List (Kind × List Char)) (each : ∀ t ∈ tokens, ∃ before, Longest t.1 t.2 before) :
    Lexed ([' '].intercalate (tokens.map Prod.snd)) (spaced tokens) := by
  induction tokens with
  | nil => exact .nil
  | cons t others ih =>
    obtain ⟨⟨before, longest⟩, eachOther⟩ := List.forall_mem_cons.1 each
    cases others with
    | nil =>
      have ends : Stops (· != ' ') [] := by
        rintro _ _ ⟨⟩
      have lexed := Lexed.cons _ _ _ (token_before_space t.1 t.2 [] before longest ends) .nil
      simpa [spaced, Piece.chars] using lexed
    | cons next others =>
      obtain ⟨⟨_, nextLongest⟩, _⟩ := List.forall_mem_cons.1 eachOther
      have ends : Stops (· != ' ') (' ' :: [' '].intercalate ((next :: others).map Prod.snd)) := by
        rintro _ _ ⟨⟩
        rfl
      have blank := Fits.blank ' ' [] _ rfl (by simp) (blank_ends next others nextLongest.pattern)
      have lexed := Lexed.cons _ _ _ (token_before_space t.1 t.2 _ before longest ends)
        (.cons _ _ _ blank (ih eachOther))
      simpa [spaced, Piece.chars] using lexed

theorem lexemes_spaced (tokens : List (Kind × List Char)) : (spaced tokens).filterMap Piece.lexeme? = tokens := by
  induction tokens with
  | nil => rfl
  | cons t others ih =>
    cases others with
    | nil => rfl
    | cons next others => exact congrArg (List.cons t) ih

theorem complaints_spaced (tokens : List (Kind × List Char)) : (spaced tokens).filterMap Piece.complaint? = [] := by
  induction tokens with
  | nil => rfl
  | cons t others ih =>
    cases others with
    | nil => rfl
    | cons next others => exact ih

end Lexicon

def Token.reading (t : Token) : Kind × String × Option Literal := (t.kind, t.lexeme, t.literal)

theorem scan_reading (text : String) (startLine : Nat) :
    (scan text startLine).tokens.map Token.reading =
      ((scan text startLine).tokens.map fun t => (t.kind, t.lexeme.toList)).map fun t =>
        (t.1, String.ofList t.2, Token.literalOf t.1 (String.ofList t.2)) := by
  rw [List.map_map]
  refine List.map_congr_left fun t member => ?_
  have written : t.literal = Token.literalOf t.kind t.lexeme := scan_literal text startLine t member
  simp [Token.reading, written]

def Scanned.rejoined (scanned : Scanned) : String := " ".intercalate (scanned.tokens.dropLast.map Token.lexeme)

theorem rejoined_pieces (text : String) (startLine : Nat) :
    pieces (scan text startLine).rejoined.toList =
      Lexicon.spaced ((pieces text.toList).filterMap Piece.lexeme?) := by
  have lexemes := congrArg List.dropLast (scan_lexemes text startLine)
  rw [List.dropLast_concat, ← List.map_dropLast] at lexemes
  have spelled : (scan text startLine).rejoined.toList =
      [' '].intercalate (((pieces text.toList).filterMap Piece.lexeme?).map Prod.snd) := by
    rw [← lexemes]
    simp [Scanned.rejoined, Function.comp_def]
  rw [spelled]
  refine ((Lexicon.lexed_iff _ _).1 (Lexicon.spaced_lexed _ ?_)).symm
  rintro ⟨kind, lexeme⟩ member
  obtain ⟨piece, among, isToken⟩ := List.mem_filterMap.1 member
  cases piece with
  | token _ _ =>
    cases isToken
    exact Lexicon.lexed_longest _ _ (Lexicon.pieces_lexed text.toList) kind lexeme among
  | _ => cases isToken

-- Whatever stood between the tokens of a text, or was wrong with it, nothing is wrong with the tokens alone, and
-- scanned again they are the same.
theorem rescan_is_identity (text : String) (startLine line : Nat) :
    (scan (scan text startLine).rejoined line).diagnostics = [] ∧
      (scan (scan text startLine).rejoined line).tokens.map Token.reading =
        (scan text startLine).tokens.map Token.reading := by
  constructor
  · have complaints := scan_complaints (scan text startLine).rejoined line
    rw [rejoined_pieces, Lexicon.complaints_spaced] at complaints
    exact List.map_eq_nil_iff.1 complaints
  · rw [scan_reading, scan_reading, scan_lexemes, scan_lexemes, rejoined_pieces, Lexicon.lexemes_spaced]

end StoryScript

import StoryScript.Proofs.Token.Lexicon
import StoryScript.Proofs.Token.LineBreak

set_option autoImplicit false

namespace StoryScript.Lexicon

open Piece

theorem no_comment (c : Char) (more : List Char) (noSlash : c ≠ '/') : ¬ OpensComment (c :: more) := by
  rintro (_ | _) <;> exact noSlash rfl

theorem pattern_front (kind : Kind) (lexeme after : List Char) (c : Char) (rest : List Char)
    (pattern : Pattern kind lexeme) (spelled : lexeme ++ after = c :: rest) :
    ∃ more, lexeme = c :: more ∧ more ++ after = rest ∧ Pattern kind (c :: more) := by
  obtain ⟨d, more, rfl, _⟩ := pattern_first kind lexeme pattern
  obtain ⟨rfl, tail⟩ := List.cons.inj spelled
  exact ⟨more, rfl, tail, pattern⟩

theorem keyword_listed (kind : Kind) (word : List Char) :
    keyword? word = some kind ↔ (String.ofList word, kind) ∈ keywords := by
  have distinct : ∀ entry ∈ keywords, keywords.lookup entry.1 = some entry.2 := by decide +kernel
  constructor
  · intro found
    obtain ⟨before, after, same, _⟩ := List.lookup_eq_some_iff.1 found
    rw [same]
    exact List.mem_append_right _ List.mem_cons_self
  · exact distinct _

theorem cutWord_fits (c : Char) (rest : List Char) (starts : startsName c = true) :
    Fits (cutWord c rest).1 (cutWord c rest).2 := by
  have whole := chars_cutWord c rest
  have noSlash : c ≠ '/' := by
    rintro rfl
    cases starts
  refine .token _ _ _ ⟨?_, ?_, ?_⟩ ?_
  · cases found : keyword? (c :: rest.takeWhile continuesName) with
    | none => exact .name c _ starts fun d member => List.mem_takeWhile_imp member
    | some kind => exact .keyword kind _ ((keyword_listed kind _).1 found)
  · intro other longer after pattern spelled
    obtain ⟨more, rfl, tail, front⟩ := pattern_front other longer after c rest pattern (spelled.trans whole)
    have continues := (pattern_named other c more front starts).1
    exact Nat.succ_le_succ (length_run_le continuesName more after rest continues tail)
  · intro other pattern
    rcases (pattern_named other c _ pattern starts).2 with isName | listed
    · exact Or.inr isName
    · rw [(keyword_listed other _).2 listed]
      exact Or.inl rfl
  · exact fun opens => no_comment c _ noSlash opens

theorem string_longest (body after : List Char) (within : '"' ∉ body) :
    Longest .string ('"' :: (body ++ ['"'])) after := by
  have plain : ∀ text : List Char, '"' ∉ text → ∀ c ∈ text, (c != '"') = true := by
    rintro text absent c member
    exact bne_iff_ne.2 fun same => absent (same ▸ member)
  refine ⟨.string body within, ?_, ?_⟩
  · intro other longer after' pattern spelled
    obtain ⟨more, rfl, tail, quoted⟩ := pattern_front other longer after' '"' _ pattern spelled
    obtain ⟨_, inner, rfl, inside⟩ := pattern_quoted other more quoted
    change inner ++ ['"'] ++ after' = body ++ ['"'] ++ after at tail
    rw [List.append_assoc, List.append_assoc] at tail
    have shorter := length_run_le (· != '"') inner _ _ (plain inner inside) tail
    have ends : Stops (· != '"') (['"'] ++ after) := by
      rintro c more ⟨⟩
      rfl
    rw [takeWhile_run (· != '"') body _ (plain body within) ends] at shorter
    simpa using shorter
  · intro other pattern
    exact Or.inl (pattern_quoted other _ pattern).1

theorem cutString_fits (rest : List Char) : Fits (cutString rest).1 (cutString rest).2 := by
  have within : '"' ∉ rest.takeWhile (· != '"') := by
    intro member
    cases List.mem_takeWhile_imp member
  unfold cutString
  dsimp only
  cases found : rest.dropWhile (· != '"') with
  | nil => exact .openString _ within
  | cons quote after =>
    have isQuote : quote = '"' := by
      simpa using stops_dropWhile (· != '"') rest quote after found
    subst isQuote
    exact .token _ _ after (string_longest _ after within) (no_comment _ _ (by decide))

theorem fraction_pattern (c : Char) (digits rest : List Char) (first : c.isDigit = true)
    (others : ∀ d ∈ digits, d.isDigit = true) : Pattern .number (c :: (digits ++ fraction rest)) := by
  unfold fraction
  split
  · split
    · rename_i d more digit
      exact .decimal c d digits _ first others digit fun e member => List.mem_takeWhile_imp member
    · rw [List.append_nil]
      exact .whole c digits first others
  · rw [List.append_nil]
    exact .whole c digits first others

theorem length_decimal_le (digits : List Char) (d : Char) (part after rest : List Char)
    (others : ∀ e ∈ digits, e.isDigit = true) (digit : d.isDigit = true) (last : ∀ e ∈ part, e.isDigit = true)
    (spelled : digits ++ '.' :: d :: part ++ after = rest) :
    (digits ++ '.' :: d :: part).length ≤
      (rest.takeWhile Char.isDigit ++ fraction (rest.dropWhile Char.isDigit)).length := by
  have ends : Stops Char.isDigit ('.' :: d :: part ++ after) := by
    rintro e more ⟨⟩
    rfl
  rw [List.append_assoc] at spelled
  have taken : rest.takeWhile Char.isDigit = digits := by
    rw [← spelled]
    exact takeWhile_run Char.isDigit digits _ others ends
  have left : rest.dropWhile Char.isDigit = '.' :: d :: part ++ after := by
    rw [← spelled]
    exact dropWhile_run Char.isDigit digits _ others ends
  have further := length_run_le Char.isDigit part after (part ++ after) last rfl
  rw [taken, left]
  simpa [fraction, digit] using further

theorem cutNumber_fits (c : Char) (rest : List Char) (digit : c.isDigit = true) :
    Fits (cutNumber c rest).1 (cutNumber c rest).2 := by
  have whole := chars_cutNumber c rest
  have noSlash : c ≠ '/' := by
    rintro rfl
    cases digit
  refine .token _ _ _ ⟨?_, ?_, ?_⟩ ?_
  · exact fraction_pattern c _ _ digit fun d member => List.mem_takeWhile_imp member
  · intro other longer after pattern spelled
    obtain ⟨more, rfl, tail, front⟩ := pattern_front other longer after c rest pattern (spelled.trans whole)
    refine Nat.succ_le_succ ?_
    rcases (pattern_digits other c more front digit).2 with all | ⟨digits, d, part, rfl, others, afterPoint, last⟩
    · have shorter := length_run_le Char.isDigit more after rest all tail
      rw [List.length_append]
      exact Nat.le_add_right_of_le shorter
    · exact length_decimal_le digits d part after rest others afterPoint last tail
  · intro other pattern
    exact Or.inl (pattern_digits other c _ pattern digit).1
  · exact fun opens => no_comment c _ noSlash opens

theorem signs_spelled : ∀ entry ∈ signs,
    (entry.1.tail = [] ∧ sign? (entry.1.headD ' ') = some entry.2) ∨
      (entry.1.tail = ['='] ∧ signEqual? (entry.1.headD ' ') = some entry.2) := by
  decide

theorem sign_listed (c : Char) (kind : Kind) (found : sign? c = some kind) : ([c], kind) ∈ signs := by
  unfold sign? at found
  split at found <;> cases found <;> decide

theorem signEqual_listed (c : Char) (kind : Kind) (found : signEqual? c = some kind) : ([c, '='], kind) ∈ signs := by
  unfold signEqual? at found
  split at found <;> cases found <;> decide

theorem sign_cases (c : Char) (more : List Char) (kind : Kind) (listed : (c :: more, kind) ∈ signs) :
    (more = [] ∧ sign? c = some kind) ∨ (more = ['='] ∧ signEqual? c = some kind) :=
  signs_spelled _ listed

-- Whether two characters or one, what a sign begins with is neither a name, a number nor a string.
structure Signlike (c : Char) : Prop where
  noNewline : c ≠ '\n'
  noSpace : isSpace c = false
  noQuote : c ≠ '"'
  noDigit : c.isDigit = false
  noName : startsName c = false

theorem signlike_front (c : Char) (rest : List Char) (signlike : Signlike c) (kind : Kind) (lexeme after : List Char)
    (pattern : Pattern kind lexeme) (spelled : lexeme ++ after = c :: rest) :
    (lexeme = [c] ∧ sign? c = some kind) ∨
      (lexeme = [c, '='] ∧ rest = '=' :: after ∧ signEqual? c = some kind) := by
  obtain ⟨more, rfl, tail, front⟩ := pattern_front kind lexeme after c rest pattern spelled
  have listed := pattern_signed kind c more front signlike.noName signlike.noDigit signlike.noQuote
  rcases sign_cases c more kind listed with ⟨rfl, single⟩ | ⟨rfl, double⟩
  · exact Or.inl ⟨rfl, single⟩
  · exact Or.inr ⟨rfl, tail.symm, double⟩

theorem doubled_longest (c : Char) (after : List Char) (kind : Kind) (signlike : Signlike c)
    (found : signEqual? c = some kind) : Longest kind [c, '='] after := by
  refine ⟨.sign kind _ (signEqual_listed c kind found), ?_, ?_⟩
  · intro other longer more pattern spelled
    rcases signlike_front c _ signlike other longer more pattern spelled with ⟨rfl, _⟩ | ⟨rfl, _⟩
    · exact Nat.le_succ 1
    · exact Nat.le_refl 2
  · intro other pattern
    rcases signlike_front c ['='] signlike other _ [] pattern rfl with ⟨same, _⟩ | ⟨_, _, again⟩
    · cases same
    · rw [found] at again
      exact Or.inl (Option.some.inj again).symm

theorem single_longest (c : Char) (rest : List Char) (kind : Kind) (signlike : Signlike c)
    (found : sign? c = some kind) (undoubled : ∀ after, rest = '=' :: after → signEqual? c = none) :
    Longest kind [c] rest := by
  refine ⟨.sign kind _ (sign_listed c kind found), ?_, ?_⟩
  · intro other longer more pattern spelled
    rcases signlike_front c rest signlike other longer more pattern spelled with ⟨rfl, _⟩ | ⟨rfl, follows, double⟩
    · exact Nat.le_refl 1
    · rw [undoubled more follows] at double
      cases double
  · intro other pattern
    rcases signlike_front c [] signlike other _ [] pattern rfl with ⟨_, again⟩ | ⟨same, _⟩
    · rw [found] at again
      exact Or.inl (Option.some.inj again).symm
    · cases same

theorem unsigned_invalid (c : Char) (rest : List Char) (signlike : Signlike c) (unsigned : sign? c = none)
    (undoubled : ∀ after, rest = '=' :: after → signEqual? c = none) : Fits (.invalid c) rest := by
  refine .invalid c rest signlike.noNewline signlike.noSpace signlike.noQuote ?_
  intro kind lexeme after pattern spelled
  rcases signlike_front c rest signlike kind lexeme after pattern spelled with ⟨_, single⟩ | ⟨_, follows, double⟩
  · rw [unsigned] at single
    cases single
  · rw [undoubled after follows] at double
    cases double

theorem single_fits (c : Char) (rest : List Char) (signlike : Signlike c) (noComment : ¬ OpensComment (c :: rest))
    (undoubled : ∀ after, rest = '=' :: after → signEqual? c = none) (piece : Piece × List Char)
    (single : piece = match sign? c with
      | some kind => (.token kind [c], rest)
      | none => (.invalid c, rest)) : Fits piece.1 piece.2 := by
  subst single
  cases found : sign? c with
  | none => exact unsigned_invalid c rest signlike found undoubled
  | some kind => exact .token kind [c] rest (single_longest c rest kind signlike found undoubled) noComment

theorem cutSign_fits (c : Char) (rest : List Char) (signlike : Signlike c) (noComment : ¬ OpensComment (c :: rest)) :
    Fits (cutSign c rest).1 (cutSign c rest).2 := by
  unfold cutSign
  dsimp only
  split
  · rename_i after
    cases found : signEqual? c with
    | some kind => exact .token kind _ after (doubled_longest c after kind signlike found) noComment
    | none => exact single_fits c _ signlike noComment (fun _ _ => found) _ rfl
  · rename_i noEqual
    exact single_fits c rest signlike noComment (fun after follows => (noEqual after follows).elim) _ rfl

theorem splitComment_first (cs body after : List Char) (found : splitComment cs = some (body, after)) :
    ∃ inner, body = inner ++ ['*', '/'] ∧
      ∀ before more, before ++ '*' :: '/' :: more = body → more = [] := by
  fun_induction splitComment cs generalizing body with
  | case1 => cases found
  | case2 =>
    cases found
    refine ⟨[], rfl, ?_⟩
    intro before more spelled
    have lengths := congrArg List.length spelled
    simp only [List.length_append, List.length_cons, List.length_nil] at lengths
    exact List.length_eq_zero_iff.1 (by omega)
  | case3 c rest other ih =>
    obtain ⟨⟨inner, left⟩, foundInner, same⟩ := Option.map_eq_some_iff.1 found
    cases same
    obtain ⟨core, rfl, first⟩ := ih inner foundInner
    refine ⟨c :: core, rfl, ?_⟩
    intro before more spelled
    cases before with
    | nil =>
      obtain ⟨rfl, tail⟩ := List.cons.inj spelled
      have whole := splitComment_append rest _ _ foundInner
      change '/' :: more = core ++ ['*', '/'] at tail
      rw [← tail] at whole
      exact (other (more ++ left) rfl whole.symm).elim
    | cons d before =>
      exact first before more (List.cons.inj spelled).2

theorem splitComment_none (cs : List Char) (missing : splitComment cs = none) (before after : List Char) :
    before ++ '*' :: '/' :: after ≠ cs := by
  fun_induction splitComment cs generalizing before with
  | case1 => simp
  | case2 => cases missing
  | case3 c rest other ih =>
    rintro spelled
    cases before with
    | nil =>
      obtain ⟨rfl, tail⟩ := List.cons.inj spelled
      exact other after rfl tail.symm
    | cons d before => exact ih (Option.map_eq_none_iff.1 missing) before (List.cons.inj spelled).2

theorem cutComment_fits (rest : List Char) : Fits (cutComment rest).1 (cutComment rest).2 := by
  unfold cutComment
  cases found : splitComment rest with
  | none => exact .openComment rest (splitComment_none rest found)
  | some parts =>
    obtain ⟨body, after⟩ := parts
    obtain ⟨inner, rfl, first⟩ := splitComment_first rest body after found
    exact .blockComment inner after first

theorem cutSlash_fits (rest : List Char) : Fits (cutSlash rest).1 (cutSlash rest).2 := by
  unfold cutSlash
  split
  · rename_i after
    refine .lineComment _ _ ?_ (stops_dropWhile _ after)
    intro member
    cases List.mem_takeWhile_imp member
  · exact cutComment_fits _
  · rename_i notLine notBlock
    refine cutSign_fits '/' rest ⟨by decide, by decide, by decide, by decide, by decide⟩ ?_
    rintro (⟨more⟩ | ⟨more⟩)
    · exact notLine more rfl
    · exact notBlock more rfl

theorem cut_fits (c : Char) (rest : List Char) : Fits (cut c rest).1 (cut c rest).2 := by
  unfold cut
  split
  · exact .newline rest
  rename_i noNewline
  split
  · rename_i space
    exact .blank c _ _ space (fun d member => List.mem_takeWhile_imp member) (stops_dropWhile isSpace rest)
  rename_i noSpace
  split
  · exact cutString_fits rest
  rename_i noQuote
  split
  · rename_i digit
    exact cutNumber_fits c rest digit
  rename_i noDigit
  split
  · rename_i starts
    exact cutWord_fits c rest starts
  rename_i noName
  split
  · exact cutSlash_fits rest
  · rename_i noSlash
    have signlike : Signlike c :=
      ⟨by simpa using noNewline, by simpa using noSpace, by simpa using noQuote, by simpa using noDigit,
        by simpa using noName⟩
    exact cutSign_fits c rest signlike (no_comment c rest (by simpa using noSlash))

theorem splitComment_closed (body rest : List Char)
    (first : ∀ before after, before ++ '*' :: '/' :: after = body ++ ['*', '/'] → after = []) :
    splitComment (body ++ ['*', '/'] ++ rest) = some (body ++ ['*', '/'], rest) := by
  induction body with
  | nil => rfl
  | cons c body ih =>
    have inner := ih fun before after spelled => first (c :: before) after (congrArg (List.cons c) spelled)
    rw [List.cons_append, List.cons_append, splitComment, inner]
    · rfl
    · -- A closer before the end would leave something of the body behind it.
      rintro after rfl follows
      cases body with
      | nil => cases follows
      | cons d body =>
        obtain ⟨rfl, _⟩ := List.cons.inj follows
        have nothing := first [] (body ++ ['*', '/']) rfl
        simp at nothing

theorem splitComment_unclosed (body : List Char) (unclosed : ∀ before after, before ++ '*' :: '/' :: after ≠ body) :
    splitComment body = none := by
  cases found : splitComment body with
  | none => rfl
  | some parts =>
    obtain ⟨front, after⟩ := parts
    obtain ⟨inner, rfl, _⟩ := splitComment_first body front after found
    have whole := splitComment_append body _ after found
    exact (unclosed inner after (by simpa using whole)).elim

theorem longest_unique (kind other : Kind) (lexeme rest another after : List Char) (first : Longest kind lexeme rest)
    (second : Longest other another after) (spelled : lexeme ++ rest = another ++ after) :
    lexeme = another ∧ rest = after ∧ kind = other := by
  have notLonger := first.longest other another after second.pattern spelled.symm
  have notShorter := second.longest kind lexeme rest first.pattern spelled
  obtain ⟨rfl, rfl⟩ := List.append_inj spelled (Nat.le_antisymm notShorter notLonger)
  refine ⟨rfl, rfl, ?_⟩
  rcases first.preferred other second.pattern with same | otherName
  · exact same.symm
  · rcases second.preferred kind first.pattern with same | isName
    · exact same
    · rw [isName, otherName]

theorem token_cut (kind : Kind) (lexeme rest : List Char) (longest : Longest kind lexeme rest)
    (noComment : ¬ OpensComment (lexeme ++ rest)) (c : Char) (more : List Char) (spelled : lexeme ++ rest = c :: more) :
    cut c more = (.token kind lexeme, rest) := by
  obtain ⟨d, tail, rfl, noNewline, noSpace⟩ := pattern_first kind lexeme longest.pattern
  have whole := chars_cut c more
  have fits := cut_fits c more
  generalize cut c more = found at whole fits
  obtain ⟨piece, after⟩ := found
  have same : piece.chars ++ after = d :: (tail ++ rest) := whole.trans spelled.symm
  have opensNone : ¬ OpensComment (piece.chars ++ after) := by
    rw [same]
    exact noComment
  cases fits with
  | token other another _ longest' _ =>
    obtain ⟨rfl, rfl, rfl⟩ := longest_unique kind other _ rest another after longest longest' same.symm
    rfl
  | blank e text _ first _ _ =>
    obtain ⟨rfl, _⟩ := List.cons.inj same
    rw [first] at noSpace
    cases noSpace
  | newline => exact (noNewline (List.cons.inj same).1.symm).elim
  | lineComment body _ _ _ => exact (opensNone (.line _)).elim
  | blockComment body _ _ => exact (opensNone (.block _)).elim
  | invalid e _ _ _ _ noToken => exact (noToken kind _ rest longest.pattern same.symm).elim
  | openString body within =>
    obtain ⟨rfl, ends⟩ := List.cons.inj same
    obtain ⟨_, inner, rfl, _⟩ := pattern_quoted kind tail longest.pattern
    change body ++ [] = _ at ends
    rw [List.append_nil] at ends
    refine (within ?_).elim
    rw [ends]
    simp
  | openComment body _ => exact (opensNone (.block _)).elim

theorem invalid_cut (c : Char) (rest : List Char) (fits : Fits (.invalid c) rest) : cut c rest = (.invalid c, rest) := by
  have slash : Pattern .slash ['/'] := .sign .slash ['/'] (by decide)
  have whole := chars_cut c rest
  have found := cut_fits c rest
  generalize cut c rest = result at whole found
  obtain ⟨piece, after⟩ := result
  cases fits with
  | invalid _ _ noNewline noSpace noQuote noToken =>
    cases found with
    | token kind lexeme _ longest _ => exact (noToken kind lexeme after longest.pattern whole).elim
    | blank e text _ first _ _ =>
      obtain ⟨rfl, _⟩ := List.cons.inj whole
      rw [first] at noSpace
      cases noSpace
    | newline => exact (noNewline (List.cons.inj whole).1.symm).elim
    | lineComment body _ _ _ => exact (noToken .slash ['/'] _ slash whole).elim
    | blockComment body _ _ => exact (noToken .slash ['/'] _ slash whole).elim
    | invalid e _ _ _ _ _ =>
      obtain ⟨rfl, rfl⟩ := List.cons.inj whole
      rfl
    | openString body _ => exact (noQuote (List.cons.inj whole).1.symm).elim
    | openComment body _ => exact (noToken .slash ['/'] _ slash whole).elim

-- A piece that is right where it stands is the one that is cut there.
theorem fits_cut (piece : Piece) (rest : List Char) (fits : Fits piece rest) :
    ∃ c more, piece.chars ++ rest = c :: more ∧ cut c more = (piece, rest) := by
  cases fits with
  | token kind lexeme _ longest noComment =>
    obtain ⟨c, tail, rfl, _⟩ := pattern_first kind lexeme longest.pattern
    exact ⟨c, tail ++ rest, rfl, token_cut kind _ rest longest noComment c _ rfl⟩
  | blank c text _ first others ends =>
    have noNewline : (c == '\n') = false := by
      refine beq_eq_false_iff_ne.2 ?_
      rintro rfl
      cases first
    refine ⟨c, text ++ rest, rfl, ?_⟩
    simp only [cut, noNewline, first, takeWhile_run isSpace text rest others ends,
      dropWhile_run isSpace text rest others ends]
    rfl
  | newline => exact ⟨'\n', rest, rfl, rfl⟩
  | lineComment body _ within ends =>
    have plain : ∀ c ∈ body, (c != '\n') = true := fun c member => bne_iff_ne.2 fun same => within (same ▸ member)
    refine ⟨'/', '/' :: body ++ rest, rfl, ?_⟩
    change cutSlash ('/' :: (body ++ rest)) = _
    simp only [cutSlash, takeWhile_run _ body rest plain ends, dropWhile_run _ body rest plain ends]
  | blockComment body _ first =>
    refine ⟨'/', '*' :: (body ++ ['*', '/'] ++ rest), rfl, ?_⟩
    change cutComment (body ++ ['*', '/'] ++ rest) = _
    rw [cutComment, splitComment_closed body rest first]
  | invalid c _ noNewline noSpace noQuote noToken =>
    exact ⟨c, rest, rfl, invalid_cut c rest (.invalid c rest noNewline noSpace noQuote noToken)⟩
  | openString body within =>
    have plain : ∀ c ∈ body, (c != '"') = true := fun c member => bne_iff_ne.2 fun same => within (same ▸ member)
    refine ⟨'"', body, List.append_nil _, ?_⟩
    change cutString body = _
    simp only [cutString, List.dropWhile_eq_nil_iff.2 plain, List.takeWhile_eq_self_iff.2 plain]
  | openComment body unclosed =>
    refine ⟨'/', '*' :: body, List.append_nil _, ?_⟩
    change cutComment body = _
    rw [cutComment, splitComment_unclosed body unclosed]

theorem pieces_lexed (cs : List Char) : Lexed cs (pieces cs) := by
  fun_induction pieces cs with
  | case1 => exact .nil
  | case2 c rest ih =>
    have lexed := Lexed.cons _ _ _ (cut_fits c rest) ih
    rwa [chars_cut] at lexed

theorem lexed_iff (cs : List Char) (ps : List Piece) : Lexed cs ps ↔ ps = pieces cs := by
  constructor
  · intro lexed
    induction lexed with
    | nil => rw [pieces]
    | cons piece rest ps fits _ ih =>
      obtain ⟨c, more, spelled, found⟩ := fits_cut piece rest fits
      rw [spelled, pieces, found, ih]
  · rintro rfl
    exact pieces_lexed cs

theorem open_ends (piece : Piece) (rest : List Char) (fits : Fits piece rest) (opened : piece.isOpen = true) :
    rest = [] := by
  cases fits with
  | openString body _ => rfl
  | openComment body _ => rfl
  | _ => cases opened

theorem open_last (cs : List Char) (ps : List Piece) (lexed : Lexed cs ps) :
    ∀ piece ∈ ps.dropLast, piece.isOpen = false := by
  induction lexed with
  | nil => simp
  | cons piece rest ps fits others ih =>
    cases others with
    | nil => simp
    | cons next after ps nextFits _ =>
      obtain ⟨c, more, spelled, _⟩ := fits_cut next after nextFits
      refine List.forall_mem_cons.2 ⟨?_, ih⟩
      by_contra opened
      have nothing := open_ends piece _ fits (by simpa using opened)
      rw [spelled] at nothing
      cases nothing

theorem lexed_longest (cs : List Char) (ps : List Piece) (lexed : Lexed cs ps) (kind : Kind) (lexeme : List Char)
    (member : .token kind lexeme ∈ ps) : ∃ rest, Longest kind lexeme rest := by
  induction lexed with
  | nil => cases member
  | cons piece rest ps fits _ ih =>
    rcases List.mem_cons.1 member with rfl | later
    · cases fits with
      | token _ _ _ longest _ => exact ⟨rest, longest⟩
    · exact ih later

theorem lexed_pattern (cs : List Char) (ps : List Piece) (lexed : Lexed cs ps) (kind : Kind) (lexeme : List Char)
    (member : .token kind lexeme ∈ ps) : Pattern kind lexeme := by
  obtain ⟨_, longest⟩ := lexed_longest cs ps lexed kind lexeme member
  exact longest.pattern

theorem pattern_string (lexeme : List Char) (pattern : Pattern .string lexeme) :
    ∃ body, lexeme = '"' :: (body ++ ['"']) ∧ '"' ∉ body := by
  have signKinds : ∀ entry ∈ signs, entry.2 ≠ .string := by decide
  have wordKinds : ∀ entry ∈ keywords, entry.2 ≠ .string := by decide
  cases pattern with
  | sign _ _ listed => exact (signKinds _ listed rfl).elim
  | keyword _ _ listed => exact (wordKinds _ listed rfl).elim
  | string body within => exact ⟨body, rfl, within⟩

end StoryScript.Lexicon

namespace StoryScript

def Piece.lexeme? : Piece → Option (Kind × List Char)
  | .token kind lexeme => some (kind, lexeme)
  | _ => none

def Piece.complaint? : Piece → Option Complaint
  | .invalid c => some (.invalidCharacter c)
  | .openString _ => some .unterminatedString
  | .openComment _ => some .unterminatedComment
  | _ => none

theorem Piece.collect_map {α β : Type} (view : Nat → Piece → Option α) (f : α → β) (plain : Piece → Option β)
    (same : ∀ line piece, (view line piece).map f = plain piece) (line : Nat) (ps : List Piece) :
    (Piece.collect view line ps).map f = ps.filterMap plain := by
  induction ps generalizing line with
  | nil => rfl
  | cons piece rest ih =>
    rw [Piece.collect, List.map_append, ih, List.filterMap_cons, ← same line piece]
    cases view line piece <;> rfl

theorem scan_lexemes (text : String) (startLine : Nat) :
    (scan text startLine).tokens.map (fun t => (t.kind, t.lexeme.toList)) =
      (pieces text.toList).filterMap Piece.lexeme? ++ [(.eof, [])] := by
  have lexemes := Piece.collect_map Piece.token? (fun t => (t.kind, t.lexeme.toList)) Piece.lexeme?
    (fun line piece => by cases piece <;> simp [Piece.token?, Piece.lexeme?]) (wrapLine startLine)
    (pieces text.toList)
  rw [scan, List.map_append, lexemes]
  rfl

theorem scan_complaints (text : String) (startLine : Nat) :
    (scan text startLine).diagnostics.map Diagnostic.message =
      ((pieces text.toList).filterMap Piece.complaint?).map Complaint.message := by
  rw [List.map_filterMap]
  exact Piece.collect_map Piece.diagnostic? Diagnostic.message _
    (fun line piece => by cases piece <;> rfl) (wrapLine startLine) (pieces text.toList)

-- A text has one cut into pieces that the grammar allows. The scan gives its tokens and one end after
-- them, and one complaint for each piece that is wrong, in their order.
theorem scan_realises_lexical_grammar (text : String) (startLine : Nat) :
    ∃ ps, (∀ others, Lexicon.Lexed text.toList others ↔ others = ps) ∧
      ps.flatMap Piece.chars = text.toList ∧
      (∀ piece ∈ ps.dropLast, piece.isOpen = false) ∧
      (scan text startLine).tokens.map (fun t => (t.kind, t.lexeme.toList)) =
        ps.filterMap Piece.lexeme? ++ [(.eof, [])] ∧
      (∀ kind lexeme, (kind, lexeme) ∈ ps.filterMap Piece.lexeme? → kind ≠ .eof ∧
        (kind = .string → ∃ body, lexeme = '"' :: (body ++ ['"']) ∧ '"' ∉ body)) ∧
      (scan text startLine).diagnostics.map Diagnostic.message =
        (ps.filterMap Piece.complaint?).map Complaint.message := by
  have lexed := Lexicon.pieces_lexed text.toList
  refine ⟨pieces text.toList, Lexicon.lexed_iff text.toList, flatMap_chars_pieces text.toList,
    Lexicon.open_last _ _ lexed, scan_lexemes text startLine, ?_, scan_complaints text startLine⟩
  intro kind lexeme member
  obtain ⟨piece, among, isToken⟩ := List.mem_filterMap.1 member
  cases piece with
  | token _ _ =>
    cases isToken
    constructor
    · rintro rfl
      exact pieces_not_end text.toList _ among ⟨lexeme, rfl⟩
    · rintro rfl
      exact Lexicon.pattern_string lexeme (Lexicon.lexed_pattern _ _ lexed .string lexeme among)
  | _ => cases isToken

end StoryScript

import StoryScript.Token.Basic

set_option autoImplicit false

namespace StoryScript

inductive Piece where
  | token (kind : Kind) (lexeme : List Char)
  | blank (text : List Char)
  | newline
  | lineComment (text : List Char)
  | blockComment (text : List Char)
  | invalid (c : Char)
  | openString (text : List Char)
  | openComment (text : List Char)
deriving DecidableEq

namespace Piece

def chars : Piece → List Char
  | .token _ lexeme => lexeme
  | .blank text => text
  | .newline => ['\n']
  | .lineComment text => text
  | .blockComment text => text
  | .invalid c => [c]
  | .openString text => text
  | .openComment text => text

-- How many lines the piece ends, where line ends are looked for: pieces of other forms have none.
def newlines : Piece → Nat
  | .newline => 1
  | .token .string lexeme => lexeme.count '\n'
  | .blockComment text => text.count '\n'
  | .openString text => text.count '\n'
  | .openComment text => text.count '\n'
  | _ => 0

def isSpace (c : Char) : Bool := c == ' ' || c == '\t' || c == '\r' || c == '\x0c'

def startsName (c : Char) : Bool := c.isAlpha || c == '_'

def continuesName (c : Char) : Bool := c.isAlphanum || c == '_'

def keywords : List (String × Kind) :=
  [("and", .wordAnd), ("class", .wordClass), ("else", .wordElse), ("false", .wordFalse),
    ("for", .wordFor), ("fun", .wordFun), ("if", .wordIf), ("nil", .wordNil), ("or", .wordOr),
    ("print", .wordPrint), ("return", .wordReturn), ("super", .wordSuper), ("true", .wordTrue),
    ("var", .wordVar), ("while", .wordWhile)]

def keyword? (word : List Char) : Option Kind := keywords.lookup (String.ofList word)

def sign? : Char → Option Kind
  | '(' => some .leftParen
  | ')' => some .rightParen
  | '\x7b' => some .leftBrace
  | '\x7d' => some .rightBrace
  | ',' => some .comma
  | '.' => some .dot
  | '-' => some .minus
  | '+' => some .plus
  | ';' => some .semicolon
  | '/' => some .slash
  | '*' => some .star
  | '!' => some .bang
  | '=' => some .equal
  | '>' => some .greater
  | '<' => some .less
  | _ => none

def signEqual? : Char → Option Kind
  | '!' => some .bangEqual
  | '=' => some .equalEqual
  | '>' => some .greaterEqual
  | '<' => some .lessEqual
  | _ => none

def splitComment : List Char → Option (List Char × List Char)
  | [] => none
  | c :: rest =>
    match c, rest with
    | '*', '/' :: after => some (['*', '/'], after)
    | _, _ => (splitComment rest).map fun parts => (c :: parts.1, parts.2)

def cutString (rest : List Char) : Piece × List Char :=
  let body := rest.takeWhile (· != '"')
  match rest.dropWhile (· != '"') with
  | [] => (.openString ('"' :: body), [])
  | quote :: after => (.token .string ('"' :: (body ++ [quote])), after)

def cutComment (rest : List Char) : Piece × List Char :=
  match splitComment rest with
  | none => (.openComment ('/' :: '*' :: rest), [])
  | some (body, after) => (.blockComment ('/' :: '*' :: body), after)

-- The point and digits that continue a whole number, when a digit follows the point.
def fraction (rest : List Char) : List Char :=
  match rest with
  | '.' :: c :: more => if c.isDigit then '.' :: c :: more.takeWhile Char.isDigit else []
  | _ => []

def cutNumber (c : Char) (rest : List Char) : Piece × List Char :=
  let whole := rest.takeWhile Char.isDigit
  let after := rest.dropWhile Char.isDigit
  let part := fraction after
  (.token .number (c :: (whole ++ part)), after.drop part.length)

def cutWord (c : Char) (rest : List Char) : Piece × List Char :=
  let word := c :: rest.takeWhile continuesName
  (.token ((keyword? word).getD .identifier) word, rest.dropWhile continuesName)

def cutSign (c : Char) (rest : List Char) : Piece × List Char :=
  let single : Piece × List Char :=
    match sign? c with
    | some kind => (.token kind [c], rest)
    | none => (.invalid c, rest)
  match rest with
  | '=' :: after =>
    match signEqual? c with
    | some kind => (.token kind [c, '='], after)
    | none => single
  | _ => single

def cutSlash (rest : List Char) : Piece × List Char :=
  match rest with
  | '/' :: after =>
    (.lineComment ('/' :: '/' :: after.takeWhile (· != '\n')), after.dropWhile (· != '\n'))
  | '*' :: after => cutComment after
  | _ => cutSign '/' rest

def cut (c : Char) (rest : List Char) : Piece × List Char :=
  if c == '\n' then (.newline, rest)
  else if isSpace c then (.blank (c :: rest.takeWhile isSpace), rest.dropWhile isSpace)
  else if c == '"' then cutString rest
  else if c.isDigit then cutNumber c rest
  else if startsName c then cutWord c rest
  else if c == '/' then cutSlash rest
  else cutSign c rest

theorem splitComment_append (cs body after : List Char)
    (found : splitComment cs = some (body, after)) : body ++ after = cs := by
  fun_induction splitComment cs generalizing body with
  | case1 => simp at found
  | case2 =>
    obtain ⟨rfl, rfl⟩ := Prod.mk.inj (Option.some.inj found)
    rfl
  | case3 c rest _ ih =>
    obtain ⟨parts, foundParts, eq⟩ := Option.map_eq_some_iff.1 found
    obtain ⟨h1, h2⟩ := Prod.mk.inj eq
    subst h1
    simp [ih parts.1 (by rw [foundParts, ← h2])]

theorem chars_cutString (rest : List Char) :
    (cutString rest).1.chars ++ (cutString rest).2 = '"' :: rest := by
  have whole := List.takeWhile_append_dropWhile (p := (· != '"')) (l := rest)
  unfold cutString
  split
  · rename_i none
    simp only [none, List.append_nil] at whole
    simp [chars, whole]
  · rename_i quote after found
    simp only [found] at whole
    simp [chars, whole]

theorem chars_cutComment (rest : List Char) :
    (cutComment rest).1.chars ++ (cutComment rest).2 = '/' :: '*' :: rest := by
  unfold cutComment
  split
  · simp [chars]
  · rename_i body after found
    simp [chars, splitComment_append _ _ _ found]

theorem fraction_append_drop (rest : List Char) :
    fraction rest ++ rest.drop (fraction rest).length = rest := by
  unfold fraction
  split
  · split
    · rename_i c more _
      have whole := List.takeWhile_append_dropWhile (p := Char.isDigit) (l := more)
      have len : (more.takeWhile Char.isDigit).length ≤ more.length :=
        (List.takeWhile_prefix _).length_le
      simp only [List.cons_append, List.length_cons, List.drop_succ_cons, List.cons.injEq, true_and]
      exact List.prefix_iff_eq_append.1 (List.takeWhile_prefix _)
    · simp
  · simp

theorem chars_cutNumber (c : Char) (rest : List Char) :
    (cutNumber c rest).1.chars ++ (cutNumber c rest).2 = c :: rest := by
  have part := fraction_append_drop (rest.dropWhile Char.isDigit)
  have whole := List.takeWhile_append_dropWhile (p := Char.isDigit) (l := rest)
  simp only [cutNumber, chars, List.cons_append, List.append_assoc, part, whole]

theorem chars_cutWord (c : Char) (rest : List Char) :
    (cutWord c rest).1.chars ++ (cutWord c rest).2 = c :: rest := by
  simp [cutWord, chars, List.takeWhile_append_dropWhile]

theorem chars_cutSign (c : Char) (rest : List Char) :
    (cutSign c rest).1.chars ++ (cutSign c rest).2 = c :: rest := by
  unfold cutSign
  dsimp only
  split
  · split
    · simp [chars]
    · split <;> simp [chars]
  · split <;> simp [chars]

theorem chars_cutSlash (rest : List Char) :
    (cutSlash rest).1.chars ++ (cutSlash rest).2 = '/' :: rest := by
  unfold cutSlash
  split
  · simp [chars, List.takeWhile_append_dropWhile]
  · exact chars_cutComment _
  · exact chars_cutSign '/' rest

theorem chars_cut (c : Char) (rest : List Char) :
    (cut c rest).1.chars ++ (cut c rest).2 = c :: rest := by
  unfold cut
  split
  · simp_all [chars]
  split
  · simp [chars, List.takeWhile_append_dropWhile]
  split
  · rename_i quote
    rw [beq_iff_eq.1 quote]
    exact chars_cutString rest
  split
  · exact chars_cutNumber c rest
  split
  · exact chars_cutWord c rest
  split
  · rename_i slash
    rw [beq_iff_eq.1 slash]
    exact chars_cutSlash rest
  · exact chars_cutSign c rest

theorem chars_cutString_ne_nil (rest : List Char) : (cutString rest).1.chars ≠ [] := by
  unfold cutString
  split <;> simp [chars]

theorem chars_cutSign_ne_nil (c : Char) (rest : List Char) : (cutSign c rest).1.chars ≠ [] := by
  unfold cutSign
  dsimp only
  split
  · split
    · simp [chars]
    · split <;> simp [chars]
  · split <;> simp [chars]

theorem chars_cutSlash_ne_nil (rest : List Char) : (cutSlash rest).1.chars ≠ [] := by
  unfold cutSlash
  split
  · simp [chars]
  · unfold cutComment
    split <;> simp [chars]
  · exact chars_cutSign_ne_nil '/' rest

theorem chars_cut_ne_nil (c : Char) (rest : List Char) : (cut c rest).1.chars ≠ [] := by
  unfold cut
  split
  · simp [chars]
  split
  · simp [chars]
  split
  · exact chars_cutString_ne_nil rest
  split
  · simp [cutNumber, chars]
  split
  · simp [cutWord, chars]
  split
  · exact chars_cutSlash_ne_nil rest
  · exact chars_cutSign_ne_nil c rest

theorem length_cut_lt (c : Char) (rest : List Char) :
    (cut c rest).2.length < (c :: rest).length := by
  have whole := congrArg List.length (chars_cut c rest)
  have some := List.length_pos_iff.2 (chars_cut_ne_nil c rest)
  rw [List.length_append] at whole
  omega

end Piece

def pieces : List Char → List Piece
  | [] => []
  | c :: rest => (Piece.cut c rest).1 :: pieces (Piece.cut c rest).2
termination_by cs => cs.length
decreasing_by exact Piece.length_cut_lt c rest

theorem flatMap_chars_pieces (cs : List Char) : (pieces cs).flatMap Piece.chars = cs := by
  fun_induction pieces cs with
  | case1 => rfl
  | case2 c rest ih => rw [List.flatMap_cons, ih, Piece.chars_cut]

end StoryScript

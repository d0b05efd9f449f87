set_option autoImplicit false

namespace StoryScript

inductive Location where
  -- Found while cutting the text; there is no token.
  | text
  | lexeme (lexeme : String)
  | endOfTokens
deriving DecidableEq

structure Diagnostic where
  message : String
  line : Nat
  location : Location
deriving DecidableEq

namespace Diagnostic

def placeText : Location → String
  | .text => ""
  | .lexeme lexeme => " at '" ++ lexeme ++ "'"
  | .endOfTokens => " at end"

def text (d : Diagnostic) : String :=
  "[line " ++ toString d.line ++ "] Error" ++ placeText d.location ++ ": " ++ d.message

def report (ds : List Diagnostic) : String := String.join (ds.map fun d => d.text ++ "\n")

end Diagnostic

inductive Complaint where
  | unterminatedString
  | unterminatedComment
  | invalidCharacter (c : Char)
  | expectExpression
  | parenAfterExpression
  | parenAfterArguments
  | invalidAssignment
  | variableName
  | semicolonAfterVariable
  | functionName
  | parenBeforeParameters
  | parameterName
  | parenAfterParameters
  | braceBeforeBody
  | braceAfterBlock
  | semicolonAfterPrint
  | semicolonAfterExpression
  | parenAfterIf
  | parenAfterIfCondition
  | parenAfterWhile
  | parenAfterCondition
  | parenAfterFor
  | semicolonAfterCondition
  | parenAfterClauses
  | semicolonAfterReturn
  | strayReturn
deriving DecidableEq

def Complaint.message : Complaint → String
  | .unterminatedString => "Unterminated string."
  | .unterminatedComment => "Unterminated comment."
  | .invalidCharacter c => "Invalid character '" ++ String.singleton c ++ "'."
  | .expectExpression => "Expect expression."
  | .parenAfterExpression => "Expect ')' after expression."
  | .parenAfterArguments => "Expect ')' after arguments."
  | .invalidAssignment => "Invalid assignment target."
  | .variableName => "Expect variable name."
  | .semicolonAfterVariable => "Expect ';' after variable declaration."
  | .functionName => "Expect function name."
  | .parenBeforeParameters => "Expect '(' after function name."
  | .parameterName => "Expect parameter name."
  | .parenAfterParameters => "Expect ')' after parameters."
  | .braceBeforeBody => "Expect '\x7b' before function body."
  | .braceAfterBlock => "Expect '\x7d' after block."
  | .semicolonAfterPrint => "Expect ';' after value."
  | .semicolonAfterExpression => "Expect ';' after expression."
  | .parenAfterIf => "Expect '(' after 'if'."
  | .parenAfterIfCondition => "Expect ')' after if condition."
  | .parenAfterWhile => "Expect '(' after 'while'."
  | .parenAfterCondition => "Expect ')' after condition."
  | .parenAfterFor => "Expect '(' after 'for'."
  | .semicolonAfterCondition => "Expect ';' after loop condition."
  | .parenAfterClauses => "Expect ')' after for clauses."
  | .semicolonAfterReturn => "Expect ';' after return value."
  | .strayReturn => "Can't return from top-level code."

def Complaint.at (complaint : Complaint) (line : Nat) (location : Location) : Diagnostic :=
  ⟨complaint.message, line, location⟩

end StoryScript

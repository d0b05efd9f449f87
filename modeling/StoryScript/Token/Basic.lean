import StoryScript.Literal

set_option autoImplicit false

namespace StoryScript

inductive Kind where
  | leftParen
  | rightParen
  | leftBrace
  | rightBrace
  | comma
  | dot
  | minus
  | plus
  | semicolon
  | slash
  | star
  | bang
  | bangEqual
  | equal
  | equalEqual
  | greater
  | greaterEqual
  | less
  | lessEqual
  | identifier
  | string
  | number
  | wordAnd
  | wordClass
  | wordElse
  | wordFalse
  | wordFor
  | wordFun
  | wordIf
  | wordNil
  | wordOr
  | wordPrint
  | wordReturn
  | wordSuper
  | wordTrue
  | wordVar
  | wordWhile
  | error
  | eof
deriving DecidableEq

namespace Kind

def name : Kind → String
  | .leftParen => "LeftParen"
  | .rightParen => "RightParen"
  | .leftBrace => "LeftBrace"
  | .rightBrace => "RightBrace"
  | .comma => "Comma"
  | .dot => "Dot"
  | .minus => "Minus"
  | .plus => "Plus"
  | .semicolon => "Semicolon"
  | .slash => "Slash"
  | .star => "Star"
  | .bang => "Bang"
  | .bangEqual => "BangEqual"
  | .equal => "Equal"
  | .equalEqual => "EqualEqual"
  | .greater => "Greater"
  | .greaterEqual => "GreaterEqual"
  | .less => "Less"
  | .lessEqual => "LessEqual"
  | .identifier => "Identifier"
  | .string => "Str"
  | .number => "Number"
  | .wordAnd => "And"
  | .wordClass => "Class"
  | .wordElse => "Else"
  | .wordFalse => "False"
  | .wordFor => "For"
  | .wordFun => "Fun"
  | .wordIf => "If"
  | .wordNil => "Nil"
  | .wordOr => "Or"
  | .wordPrint => "Print"
  | .wordReturn => "Return"
  | .wordSuper => "Super"
  | .wordTrue => "True"
  | .wordVar => "Var"
  | .wordWhile => "While"
  | .error => "Error"
  | .eof => "Eof"

def all : List Kind :=
  [.leftParen, .rightParen, .leftBrace, .rightBrace, .comma, .dot, .minus, .plus, .semicolon,
    .slash, .star, .bang, .bangEqual, .equal, .equalEqual, .greater, .greaterEqual, .less,
    .lessEqual, .identifier, .string, .number, .wordAnd, .wordClass, .wordElse, .wordFalse,
    .wordFor, .wordFun, .wordIf, .wordNil, .wordOr, .wordPrint, .wordReturn, .wordSuper,
    .wordTrue, .wordVar, .wordWhile, .error, .eof]

def ofName? (name : String) : Option Kind := all.find? fun kind => kind.name == name

-- Reading resumes at one of these words after a fault.
def startsStatement : Kind → Bool
  | .wordClass | .wordFun | .wordVar | .wordFor | .wordIf | .wordWhile | .wordPrint
  | .wordReturn => true
  | _ => false

end Kind

structure Token where
  kind : Kind
  lexeme : String
  literal : Option Literal
  line : Nat
deriving DecidableEq

namespace Token

def inner (lexeme : String) : String := String.ofList (lexeme.toList.drop 1).dropLast

def literalOf (kind : Kind) (lexeme : String) : Option Literal :=
  match kind with
  | .number => (Number.ofText? lexeme).map Literal.number
  | .string => some (.string (inner lexeme))
  | .wordTrue => some (.bool true)
  | .wordFalse => some (.bool false)
  | _ => none

def spelled (kind : Kind) (lexeme : String) (line : Nat) : Token := ⟨kind, lexeme, literalOf kind lexeme, line⟩

@[simp] theorem kind_spelled (kind : Kind) (lexeme : String) (line : Nat) : (spelled kind lexeme line).kind = kind := rfl

@[simp] theorem lexeme_spelled (kind : Kind) (lexeme : String) (line : Nat) :
    (spelled kind lexeme line).lexeme = lexeme := rfl

def endAt (line : Nat) : Token := ⟨.eof, "", none, line⟩

def text (t : Token) : String :=
  t.kind.name ++ " " ++ Text.quoted t.lexeme ++ " line " ++ toString t.line

end Token

end StoryScript

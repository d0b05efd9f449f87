import StoryScript.Grammar.Statement
import StoryScript.Token.Scan

set_option autoImplicit false

namespace StoryScript

open Grammar

structure Parser where
  tokens : List Token
  endLine : Nat
  diagnostics : List Diagnostic

namespace Parser

-- Without an end among the tokens, the end is on the line of the last one, or on the first line.
def findEnd (startLine : Nat) (tokens : List Token) : Nat :=
  match tokens.find? fun t => t.kind == .eof with
  | some t => t.line
  | none => (tokens.getLast?.map Token.line).getD startLine

-- Tokens after the first end are never looked at.
def ofTokens (startLine : Nat) (diagnostics : List Diagnostic) (tokens : List Token) : Parser :=
  { tokens := tokens.takeWhile fun t => t.kind != .eof
    endLine := findEnd startLine tokens
    diagnostics }

def ofText (text : String) (startLine : Nat) : Parser :=
  let scanned := scan text startLine
  ofTokens startLine scanned.diagnostics scanned.tokens

def advance (p : Parser) (faults : List Fault) (rest : List Token) : Parser :=
  { p with
    tokens := rest
    diagnostics := p.diagnostics ++ faults.map (Fault.diagnostic p.endLine) }

def readExpression (p : Parser) : Option Expr × Parser :=
  let reading := expression 0 p.tokens
  (reading.phrase?, p.advance reading.faults reading.rest)

def readStatement (p : Parser) : Option Stmt × Parser :=
  let reading := statement p.tokens
  (reading.phrase?, p.advance reading.faults reading.rest)

def readDeclaration (p : Parser) : Option Stmt × Parser :=
  match declaration p.tokens with
  | .read stmt faults rest _ => (some stmt, p.advance faults rest)
  | .failed faults rest _ => (none, p.advance faults (synchronize rest))

def readProgram (p : Parser) : Program × Parser :=
  let listing := program p.tokens
  (listing.body, p.advance listing.faults listing.rest)

inductive Request where
  | program
  | declaration
  | statement
  | expression
deriving DecidableEq

inductive Answer where
  | program (program : Program)
  | statement (stmt : Option Stmt)
  | expression (expr : Option Expr)

def serve (p : Parser) : Request → Answer × Parser
  | .program => (.program p.readProgram.1, p.readProgram.2)
  | .declaration => (.statement p.readDeclaration.1, p.readDeclaration.2)
  | .statement => (.statement p.readStatement.1, p.readStatement.2)
  | .expression => (.expression p.readExpression.1, p.readExpression.2)

def serveAll (p : Parser) : List Request → List Answer × Parser
  | [] => ([], p)
  | request :: rest =>
    let (answer, served) := p.serve request
    let (answers, last) := served.serveAll rest
    (answer :: answers, last)

end Parser

structure Parsed where
  program : Program
  diagnostics : List Diagnostic

def parse (text : String) (startLine : Nat) : Parsed :=
  let (program, parser) := (Parser.ofText text startLine).readProgram
  ⟨program, parser.diagnostics⟩

end StoryScript

import StoryScript.Token.Piece
import StoryScript.Diagnostic

set_option autoImplicit false

namespace StoryScript

-- Lines are numbered in words of 64 bits.
def lineLimit : Nat := Nat.pow 2 64

def wrapLine (line : Nat) : Nat := line % lineLimit

namespace Piece

def pass (line : Nat) (piece : Piece) : Nat := wrapLine (line + piece.newlines)

def token? (line : Nat) : Piece → Option Token
  | .token kind lexeme => some (Token.spelled kind (String.ofList lexeme) line)
  | _ => none

-- A comment that is never closed is noticed on the line where the text ends.
def diagnostic? (line : Nat) : Piece → Option Diagnostic
  | .invalid c => some ((Complaint.invalidCharacter c).at line .text)
  | .openString _ => some (Complaint.unterminatedString.at line .text)
  | .openComment text => some (Complaint.unterminatedComment.at (pass line (.openComment text)) .text)
  | _ => none

-- What the pieces give, each at its line, when the first begins on a given line.
def collect {α : Type} (view : Nat → Piece → Option α) (line : Nat) : List Piece → List α
  | [] => []
  | piece :: rest => (view line piece).toList ++ collect view (pass line piece) rest

end Piece

structure Scanned where
  tokens : List Token
  diagnostics : List Diagnostic

def scan (text : String) (startLine : Nat) : Scanned :=
  let ps := pieces text.toList
  let line := wrapLine startLine
  { tokens := Piece.collect Piece.token? line ps ++ [Token.endAt (ps.foldl Piece.pass line)]
    diagnostics := Piece.collect Piece.diagnostic? line ps }

end StoryScript

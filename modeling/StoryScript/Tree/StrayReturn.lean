import StoryScript.Tree.Basic
import StoryScript.Diagnostic

set_option autoImplicit false

namespace StoryScript

structure ReturnCheck where
  depth : UInt32
  reported : List Diagnostic

namespace ReturnCheck

def start (reported : List Diagnostic) : ReturnCheck := ⟨0, reported⟩

def enter (check : ReturnCheck) : ReturnCheck := { check with depth := check.depth + 1 }

def leave (check : ReturnCheck) : ReturnCheck := { check with depth := check.depth - 1 }

def meetReturn (line : Nat) (check : ReturnCheck) : ReturnCheck :=
  if check.depth = 0 then
    { check with reported := check.reported ++ [Complaint.strayReturn.at line (.lexeme "return")] }
  else check

mutual

def visit : Stmt → ReturnCheck → ReturnCheck
  | .block body, check => visitAll body check
  | .ifThen _ thenBranch, check => visit thenBranch check
  | .ifElse _ thenBranch elseBranch, check => visit elseBranch (visit thenBranch check)
  | .loop _ body, check => visit body check
  | .function _ _ body, check => (visitAll body check.enter).leave
  | .ret _ line, check => check.meetReturn line
  | .expression _, check => check
  | .print .., check => check
  | .var .., check => check

def visitAll : List Stmt → ReturnCheck → ReturnCheck
  | [], check => check
  | stmt :: rest, check => visitAll rest (visit stmt check)

end

end ReturnCheck

def Program.checkReturns (program : Program) (reported : List Diagnostic) : List Diagnostic :=
  (ReturnCheck.visitAll program (.start reported)).reported

-- One diagnostic for each return that stands in no function.
def Program.returnDiagnostics (program : Program) : List Diagnostic := program.checkReturns []

end StoryScript

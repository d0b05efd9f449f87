import StoryScript.Machine.Eval
import StoryScript.Grammar.Parser
import StoryScript.Tree.StrayReturn

set_option autoImplicit false

namespace StoryScript

inductive Outcome where
  | ok
  | refused (diagnostics : List Diagnostic)
  | failed (error : RuntimeError)

abbrev Session := Machine

-- All that is wrong with a chunk. Stray returns are looked for only when the rest is right.
def Parsed.allDiagnostics (parsed : Parsed) : List Diagnostic :=
  if parsed.diagnostics.isEmpty then parsed.program.returnDiagnostics else parsed.diagnostics

namespace Session

def start (host : Host) : Session := Machine.withNatives host

-- Runs a chunk whose first line has the given number. Nothing comes of it when the fuel runs out.
def runAt (fuel : Nat) (session : Session) (text : String) (startLine : Nat) :
    Option (Outcome × Session) :=
  let parsed := parse text startLine
  if parsed.allDiagnostics.isEmpty then
    match Machine.interpret fuel parsed.program session with
    | .done _ after => some (.ok, after)
    | .fault error after => some (.failed error, after)
    | .outOfFuel => none
  else some (.refused parsed.allDiagnostics, session)

def run (fuel : Nat) (session : Session) (text : String) : Option (Outcome × Session) :=
  runAt fuel session text 1

def takeOutput (session : Session) : String × Session :=
  let (text, host) := session.host.takeOutput
  (text, { session with host })

end Session

end StoryScript

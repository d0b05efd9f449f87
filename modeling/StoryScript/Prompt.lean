import StoryScript.Session
import StoryScript.Text.Blank
import StoryScript.Text.Typed

set_option autoImplicit false

namespace StoryScript

structure Prompt where
  pending : List String := []
  depth : Int32 := 0

namespace Prompt

-- Braces opened less braces closed in a line, not counting those in strings and after two slashes.
def braceDelta : Bool → List Char → Int32
  | _, [] => 0
  | inString, c :: rest =>
    if c = '"' then braceDelta (!inString) rest
    else if inString then braceDelta inString rest
    else if c = '/' && rest.head? == some '/' then 0
    else if c = '\x7b' then braceDelta inString rest + 1
    else if c = '\x7d' then braceDelta inString rest - 1
    else braceDelta inString rest

def text (p : Prompt) : String := if p.pending.isEmpty then "> " else "  "

def isExit (line : String) : Bool :=
  (Text.trimChars line.toList).map Char.toLower == "exit".toList

def isBlankLine (line : String) : Bool := (Text.trimChars line.toList).isEmpty

def chunkText (lines : List String) : String := String.join (lines.map fun line => line ++ "\n")

inductive Reaction where
  | ignored
  | quit
  | pending (next : Prompt)
  | complete (lines : List String)

def react (p : Prompt) (line : String) : Reaction :=
  if p.pending.isEmpty && isBlankLine line then .ignored
  else if p.pending.isEmpty && isExit line then .quit
  else
    let lines := p.pending ++ [line]
    let depth := p.depth + braceDelta false line.toList
    if depth ≤ 0 then .complete lines else .pending ⟨lines, depth⟩

inductive Event where
  | line (text : String)
  | interrupt
  | endOfInput
  | failure (message : String)

inductive Entry where
  | asked (prompt : String)
  | remembered (line : String)
  | ran (outcome : Outcome) (output : String)

inductive Ending where
  | finished
  | failed (message : String)

inductive Step where
  | goOn (next : Prompt) (session : Session) (entries : List Entry)
  | stop (ending : Ending)

def step (fuel : Nat) (p : Prompt) (session : Session) : Event → Option Step
  | .endOfInput => some (.stop .finished)
  | .failure message => some (.stop (.failed message))
  | .interrupt => some (.goOn {} session [])
  | .line text =>
    match p.react text with
    | .ignored => some (.goOn p session [])
    | .quit => some (.stop .finished)
    | .pending next => some (.goOn next session [.remembered text])
    | .complete lines =>
      (session.run fuel (chunkText lines)).map fun (outcome, after) =>
        let (output, after) := after.takeOutput
        .goOn {} after [.remembered text, .ran outcome output]

structure Transcript where
  entries : List Entry
  ending : Ending
  unread : List Event
  session : Session

-- The loop on given events. After the last of them the input is at its end.
def runEvents (fuel : Nat) (p : Prompt) (session : Session) : List Event → Option Transcript
  | [] => some ⟨[.asked p.text], .finished, [], session⟩
  | event :: rest =>
    match step fuel p session event with
    | none => none
    | some (.stop ending) => some ⟨[.asked p.text], ending, rest, session⟩
    | some (.goOn next after entries) =>
      (runEvents fuel next after rest).map fun t =>
        { t with entries := .asked p.text :: (entries ++ t.entries) }

def stripLineEnd (line : String) : String :=
  match line.toList.reverse with
  | '\n' :: '\r' :: rest => String.ofList rest.reverse
  | '\n' :: rest => String.ofList rest.reverse
  | _ => line

def typedLine (line : String) : String := Text.takeBack (stripLineEnd line)

def nextEvent (session : Session) : Event × Session :=
  match Host.takeLine session.host with
  | .done (some line) host => (.line (typedLine line), { session with host })
  | .done none host => (.endOfInput, { session with host })
  | .fault error host => (.failure error.message, { session with host })
  | .outOfFuel => (.endOfInput, session)

-- The loop on the input of the session itself. Each round reads at least one byte, so a round more than there
-- are bytes is enough.
def runInput (fuel : Nat) : Nat → Prompt → Session → Option (List Entry × Ending)
  | 0, _, _ => some ([], .finished)
  | rounds + 1, p, session =>
    let (event, session) := nextEvent session
    match step fuel p session event with
    | none => none
    | some (.stop ending) => some ([], ending)
    | some (.goOn next after entries) =>
      (runInput fuel rounds next after).map fun (later, ending) => (entries ++ later, ending)

end Prompt

end StoryScript

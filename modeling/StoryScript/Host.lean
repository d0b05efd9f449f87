import StoryScript.Run
import StoryScript.World
import StoryScript.Value
import StoryScript.Text.Utf8

set_option autoImplicit false

namespace StoryScript

inductive StreamError where
  | sinkFull
  | flushFailed
  | notUtf8
deriving DecidableEq

def StreamError.message : StreamError → String
  | .sinkFull => "sink full"
  | .flushFailed => "flush failed"
  | .notUtf8 => "stream did not contain valid UTF-8"

structure Sink where
  written : Array UInt8 := #[]
  room : Option Nat := none
  flushFails : Bool := false

namespace Sink

def push (s : Sink) (bytes : Array UInt8) : Sink :=
  match s.room with
  | none => { s with written := s.written ++ bytes }
  | some room =>
    { s with written := s.written ++ bytes.extract 0 room, room := some (room - bytes.size) }

def fits (s : Sink) (bytes : Array UInt8) : Bool :=
  match s.room with
  | none => true
  | some room => bytes.size ≤ room

end Sink

-- What the clock of the system shows: the time since the epoch, unless it stands before it.
inductive Time where
  | since (seconds nanoseconds : Nat)
  | beforeEpoch
deriving DecidableEq

-- The seconds as a number, and the part of a second that is added to it.
def Time.seconds? : Time → Option Number
  | .since seconds nanoseconds =>
    some ((Number.ofNat seconds).add ((Number.ofNat nanoseconds).div (.ofNat 1000000000)))
  | .beforeEpoch => none

structure Host where
  world : World
  sink : Sink := {}
  input : List UInt8 := []
  -- What the clock will show, look by look.
  clock : Nat → Time := fun _ => .since 0 0

abbrev HostRun (α : Type) := Run Host StreamError α

namespace Host

def write (text : String) : HostRun Unit := fun host =>
  let bytes := Text.Utf8.encode text
  let sink := host.sink
  if sink.fits bytes then .done () { host with sink := sink.push bytes }
  else .fault .sinkFull { host with sink := sink.push bytes }

def writeLine (line : String) : HostRun Unit := write (line ++ "\n")

def flush : HostRun Unit := fun host =>
  if host.sink.flushFails then .fault .flushFailed host else .done () host

def splitLine : List UInt8 → List UInt8 × List UInt8
  | [] => ([], [])
  | byte :: rest =>
    if byte = 10 then ([byte], rest)
    else
      let (line, after) := splitLine rest
      (byte :: line, after)

-- Takes one line with its end from the input; nothing when the input is at its end.
def takeLine : HostRun (Option String) := fun host =>
  match host.input with
  | [] => .done none host
  | byte :: rest =>
    let (line, after) := splitLine (byte :: rest)
    match Text.Utf8.decode? line with
    | some text => .done (some text) { host with input := after }
    | none => .fault .notUtf8 { host with input := after }

def stripEnds (line : String) : String :=
  String.ofList (line.toList.reverse.dropWhile fun c => c == '\n' || c == '\r').reverse

def prompt (question : String) : HostRun (Option String) := do
  write question
  flush
  let line ← takeLine
  return line.map stripEnds

def lookAtClock {ε : Type} : Run Host ε Time := fun host =>
  .done (host.clock 0) { host with clock := fun later => host.clock (later + 1) }

def takeOutput (host : Host) : String × Host :=
  (Text.Utf8.decodeLossy host.sink.written.toList,
    { host with sink := { host.sink with written := #[] } })

end Host

end StoryScript

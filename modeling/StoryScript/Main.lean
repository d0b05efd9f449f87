import StoryScript.CommandLine
import Std.Time.DateTime.Timestamp

set_option autoImplicit false

namespace StoryScript.CommandLine

def ampleFuel : Nat := Nat.pow 2 62

-- The system's number of an error, which some calls give negated.
def errorNumber (code : UInt32) : Nat := min code.toNat (0 - code).toNat

def refusal (code : Nat) (reason : String) : String := reason ++ " (os error " ++ toString code ++ ")"

def fileError (error : IO.Error) : String :=
  match error with
  | .noFileOrDirectory .. => refusal 2 "No such file or directory"
  | .inappropriateType _ code _ =>
    if errorNumber code = 20 then refusal 20 "Not a directory" else refusal 21 "Is a directory"
  | .invalidArgument _ code _ => if errorNumber code = 36 then refusal 36 "File name too long" else toString error
  | _ => toString error

def readBytes (path : String) : IO (Except String (List UInt8)) := do
  try
    return .ok (← IO.FS.readBinFile path).toList
  catch error =>
    return .error (fileError error)

partial def readAll (stream : IO.FS.Stream) (bytes : ByteArray) : IO ByteArray := do
  let more ← stream.read 4096
  if more.isEmpty then return bytes else readAll stream (bytes ++ more)

def now : IO Time := do
  let nanoseconds := (← Std.Time.Timestamp.now).toNanosecondsSinceUnixEpoch.toInt
  if nanoseconds < 0 then return .beforeEpoch
  else return .since (nanoseconds.toNat / 1000000000) (nanoseconds.toNat % 1000000000)

-- What the process is given. The only file that can be asked for is the script.
def gather (args : List String) : IO Invocation := do
  let file ← match args with
    | [path] => readBytes path
    | _ => pure (.error "")
  -- A script runs at one stroke, and the clock shows the time that it began at.
  let begun ← now
  return {
    args
    seedText := ← IO.getEnv "AEVUM_SEED"
    chance := UInt64.ofNat (← IO.rand 0 (Random.words - 1))
    fileAt := fun _ => file
    input := (← readAll (← IO.getStdin) .empty).toList
    clock := fun _ => begun }

end StoryScript.CommandLine

open StoryScript in
def main (args : List String) : IO UInt32 := do
  match CommandLine.run CommandLine.ampleFuel (← CommandLine.gather args) with
  | none => return 1
  | some report =>
    IO.print report.output
    IO.eprint report.errors
    return UInt32.ofNat report.code

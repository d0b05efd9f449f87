import StoryScript.Prompt

set_option autoImplicit false

namespace StoryScript

namespace CommandLine

def usageCode : Nat := 64

def refusedCode : Nat := 65

def failedCode : Nat := 70

def unreadableCode : Nat := 74

inductive SeedError where
  | empty
  | invalidDigit
  | tooLarge
deriving DecidableEq

def SeedError.message : SeedError → String
  | .empty => "cannot parse integer from empty string"
  | .invalidDigit => "invalid digit found in string"
  | .tooLarge => "number too large to fit in target type"

def seedDigits (total : Nat) : List Char → Except SeedError UInt64
  | [] => .ok (UInt64.ofNat total)
  | c :: rest =>
    if c.isDigit then
      let next := total * 10 + (c.toNat - 48)
      if next < Random.words then seedDigits next rest else .error .tooLarge
    else .error .invalidDigit

def seedOfChars : List Char → Except SeedError UInt64
  | [] => .error .empty
  | ['+'] => .error .invalidDigit
  | '+' :: digits => seedDigits 0 digits
  | digits => seedDigits 0 digits

def seedOfText (text : String) : Except SeedError UInt64 :=
  seedOfChars (Text.trimChars text.toList)

structure Invocation where
  args : List String
  seedText : Option String
  chance : UInt64
  -- The bytes of a file, or what the system says about not reading it.
  fileAt : String → Except String (List UInt8)
  input : List UInt8
  clock : Nat → Time

structure Report where
  code : Nat
  output : String
  errors : String

def hostOf (i : Invocation) (seed : UInt64) : Host :=
  { world := .ofSeed seed, input := i.input, clock := i.clock }

def outcomeReport : Outcome → Nat × String
  | .ok => (0, "")
  | .refused diagnostics => (refusedCode, Diagnostic.report diagnostics)
  | .failed error => (failedCode, error.text ++ "\n")

def unreadable (path message : String) : Report :=
  ⟨unreadableCode, "", "Could not read " ++ path ++ ": " ++ message ++ "\n"⟩

def readScript (i : Invocation) (path : String) : Except String String := do
  match Text.Utf8.decode? (← i.fileAt path) with
  | some text => .ok text
  | none => .error StreamError.notUtf8.message

def runFile (fuel : Nat) (i : Invocation) (seed : UInt64) (path : String) : Option Report :=
  match readScript i path with
  | .error message => some (unreadable path message)
  | .ok text =>
    (Session.run fuel (Session.start (hostOf i seed)) text).map fun (outcome, after) =>
      let (code, errors) := outcomeReport outcome
      ⟨code, after.takeOutput.1, errors⟩

def entryOutput : Prompt.Entry → String
  | .ran _ output => output
  | _ => ""

def entryErrors : Prompt.Entry → String
  | .ran outcome _ => (outcomeReport outcome).2
  | _ => ""

def runPrompt (fuel : Nat) (i : Invocation) (seed : UInt64) : Option Report :=
  (Prompt.runInput fuel (i.input.length + 1) {} (Session.start (hostOf i seed))).map
    fun (entries, ending) =>
      let output := String.join (entries.map entryOutput)
      let errors := String.join (entries.map entryErrors)
      match ending with
      | .finished => ⟨0, output, errors⟩
      | .failed message => ⟨unreadableCode, output, errors ++ message ++ "\n"⟩

def seedOf (i : Invocation) : Except Report UInt64 :=
  match i.seedText with
  | none => .ok i.chance
  | some text =>
    match seedOfText text with
    | .ok seed => .ok seed
    | .error error =>
      .error ⟨usageCode, "",
        "Invalid AEVUM_SEED " ++ Text.quoted text ++ ": " ++ error.message ++ "\n"⟩

-- A seed that cannot be read is noticed first.
def run (fuel : Nat) (i : Invocation) : Option Report :=
  match seedOf i with
  | .error report => some report
  | .ok seed =>
    match i.args with
    | [] => runPrompt fuel i seed
    | [path] => runFile fuel i seed path
    | _ => some ⟨usageCode, "Usage: aevum [script]\n", ""⟩

end CommandLine

end StoryScript

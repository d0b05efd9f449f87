import StoryScript.Host

set_option autoImplicit false

namespace StoryScript

inductive NativeError where
  | stream (error : StreamError)
  | numberExpected (native : Native)
  | outOfBounds (low high : Number)
  | emptyRange (low high : Number)
  | clockBeforeEpoch
deriving DecidableEq

def rangeText (low high : Number) : String :=
  "random range [" ++ low.text ++ ", " ++ high.text ++ "]"

def NativeError.message : NativeError → String
  | .stream error => "I/O error: " ++ error.message
  | .numberExpected native => native.name ++ " expects a number value."
  | .outOfBounds low high => rangeText low high ++ " is out of bounds."
  | .emptyRange low high => rangeText low high ++ " is empty."
  | .clockBeforeEpoch => "system clock is before the epoch: second time provided was later than self"

abbrev NativeRun (α : Type) := Run Host NativeError α

namespace Native

def narrate (line : String) : NativeRun Value := do
  Run.mapFault .stream (Host.writeLine line)
  return .nil

def world : NativeRun World := do return (← Run.get).world

def setWorld (world : World) : NativeRun Unit := Run.modify fun host => { host with world }

def numberArg (native : Native) (value : Value) : NativeRun Number :=
  match value with
  | .number number => return number
  | _ => Run.fail (.numberExpected native)

def readLine : NativeRun Value := do
  let line ← Run.mapFault .stream (Host.prompt "> ")
  return .string (line.getD "")

def announce (line : String) : NativeRun Value := do
  let _ ← narrate ""
  narrate line

def restartStory : NativeRun Value := do
  setWorld (← world).reset
  narrate "<<< RESTART >>>"

def addItem (item : String) : NativeRun Value := do
  let _ ← narrate ("+ " ++ item ++ " added to inventory")
  setWorld ((← world).addItem item)
  return .nil

def showInventory : NativeRun Value := do
  let items := (← world).inventory
  let _ ← narrate ("Inventory: " ++ if items.isEmpty then "(empty)" else ", ".intercalate items)
  return .number (.ofNat items.length)

def useItem (item : String) : NativeRun Value := do
  let (had, world) := (← world).removeItem item
  setWorld world
  let _ ← narrate (if had then "- used " ++ item else "You don't have " ++ item ++ ".")
  return .bool had

def setStatTo (who name : String) (value : Value) : NativeRun Value := do
  let value ← numberArg .setStat value
  let (stored, world) := (← world).setStat who name value
  setWorld world
  return .number stored

def modStatBy (who name : String) (delta : Value) : NativeRun Value := do
  let delta ← numberArg .modStat delta
  let (stored, world) := (← world).modStat who name delta
  setWorld world
  return .number stored

def statText (stat : String × Number) : String := stat.1 ++ "=" ++ stat.2.text

def showStats (who : String) : NativeRun Value := do
  let stats := ((← world).statsOf who).entries
  narrate ("[" ++ who ++ "] " ++
    if stats.isEmpty then "no stats" else ", ".intercalate (stats.map statText))

def lowestInteger : Number := .ofInt (-9223372036854775808)

def integerLimit : Number := .ofInt 9223372036854775808

-- The whole numbers that a range asked for runs over: both ends must be 64-bit, and it must not be empty.
def rangeOf (low high : Number) : Except NativeError (Int × Int) :=
  let first := low.ceil
  let last := high.floor
  if !(lowestInteger.lessEqual first && last.less integerLimit) then
    .error (.outOfBounds low high)
  else
    match first.toInt?, last.toInt? with
    | some first, some last => if first ≤ last then .ok (first, last) else .error (.emptyRange low high)
    | _, _ => .error (.emptyRange low high)

def throwDice (fuel : Nat) (low high : Value) : NativeRun Value := do
  let low ← numberArg .random low
  let high ← numberArg .random high
  let (first, last) ← Run.ofExcept (rangeOf low high)
  match (← world).randomInt fuel first last with
  | none => Run.noFuel
  | some (roll, world) =>
    setWorld world
    return .number (.ofInt roll)

def readClock : NativeRun Value := do
  match (← Host.lookAtClock).seconds? with
  | some seconds => return .number seconds
  | none => Run.fail .clockBeforeEpoch

-- The answer to a call. The count of arguments is checked before; a missing one counts as `nil`.
def call (fuel : Nat) (native : Native) (args : List Value) : NativeRun Value :=
  let a := args.getD 0 .nil
  let b := args.getD 1 .nil
  let c := args.getD 2 .nil
  match native with
  | .speak => narrate a.text
  | .say => narrate (a.text ++ ": \"" ++ b.text ++ "\"")
  | .character => announce ("=== SCENE: " ++ a.text ++ " ===")
  | .choice => announce ("??? CHOICE: " ++ a.text ++ " ???")
  | .option => narrate ("   [" ++ a.text ++ "] " ++ b.text)
  | .spawn => narrate ("+++ SPAWN: " ++ b.text ++ " (" ++ a.text ++ ") appeared! +++")
  | .input => readLine
  | .start => narrate (">>> START: " ++ a.text ++ " <<<")
  | .continue => narrate "..."
  | .restart => restartStory
  | .endgame => narrate ("=== THE END: " ++ a.text ++ " ===")
  | .action => narrate ("* " ++ a.text ++ " *")
  | .trigger => narrate ("!!! EVENT: " ++ a.text ++ " !!!")
  | .win => narrate ("*** VICTORY: " ++ a.text ++ " ***")
  | .lose => narrate ("*** DEFEAT: " ++ a.text ++ " ***")
  | .add => addItem a.text
  | .inventory => showInventory
  | .use => useItem a.text
  | .item => do return .bool ((← world).hasItem a.text)
  | .setStat => setStatTo a.text b.text c
  | .modStat => modStatBy a.text b.text c
  | .getStat => do return (((← world).stat a.text b.text).map Value.number).getD .nil
  | .checkStats => showStats a.text
  | .random => throwDice fuel a b
  | .clock => readClock

end Native

end StoryScript

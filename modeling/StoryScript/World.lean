import StoryScript.Dictionary
import StoryScript.Number.Basic
import StoryScript.Random.Range

set_option autoImplicit false

namespace StoryScript

abbrev Stats := Dictionary Number

structure World where
  inventory : List String := []
  stats : Dictionary Stats := {}
  generator : Random.Generator

namespace World

def ofSeed (seed : UInt64) : World := { generator := .ofSeed seed }

def reset (w : World) : World := { generator := w.generator }

def addItem (w : World) (item : String) : World := { w with inventory := w.inventory ++ [item] }

def hasItem (w : World) (item : String) : Bool := w.inventory.contains item

def removeItem (w : World) (item : String) : Bool × World :=
  (w.hasItem item, { w with inventory := w.inventory.erase item })

def stat (w : World) (who name : String) : Option Number :=
  (w.stats.get? who).bind fun stats => stats.get? name

def capOf (name : String) : String := "MAX_" ++ name

def cappedBy (name : String) : Option String :=
  match name.toList with
  | 'M' :: 'A' :: 'X' :: '_' :: rest => some (String.ofList rest)
  | _ => none

-- The value that is stored when a value is asked for: a cap as it is, another stat no greater than its cap.
def storedValue (stats : Stats) (name : String) (value : Number) : Number :=
  match cappedBy name with
  | some _ => value
  | none =>
    match stats.get? (capOf name) with
    | some cap => value.lesser cap
    | none => value

-- A cap that is set takes the stat it caps down with it.
def lowerCapped (stats : Stats) (name : String) (value : Number) : Stats :=
  match cappedBy name with
  | none => stats
  | some capped =>
    match stats.get? capped with
    | some current => stats.insert capped (current.lesser value)
    | none => stats

def statsOf (w : World) (who : String) : Stats := (w.stats.get? who).getD {}

def setStat (w : World) (who name : String) (value : Number) : Number × World :=
  let stats := w.statsOf who
  let stored := storedValue stats name value
  let stats := (lowerCapped stats name value).insert name stored
  (stored, { w with stats := w.stats.insert who stats })

def modStat (w : World) (who name : String) (delta : Number) : Number × World :=
  w.setStat who name (((w.stat who name).getD .zero).add delta)

def randomInt (w : World) (rounds : Nat) (low high : Int) : Option (Int × World) :=
  (Random.between rounds low high w.generator).map fun drawn =>
    (drawn.1, { w with generator := drawn.2 })

end World

end StoryScript

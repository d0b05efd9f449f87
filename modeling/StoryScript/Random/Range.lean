import StoryScript.Random.Keystream

set_option autoImplicit false

namespace StoryScript.Random

def words : Nat := Nat.pow 2 64

def leadingZeros (size : Nat) : Nat := 63 - size.log2

-- The greatest lower half of a product that is accepted.
def zone (size : Nat) : Nat := size * Nat.pow 2 (leadingZeros size) - 1

def pick? (size word : Nat) : Option Nat :=
  if word * size % words ≤ zone size then some (word * size / words) else none

def draw : Nat → Nat → Generator → Option (Nat × Generator)
  | 0, _, _ => none
  | rounds + 1, size, g =>
    match pick? size g.word.toNat with
    | some offset => some (offset, g.next)
    | none => draw rounds size g.next

-- A number from `low` to `high`, both 64-bit. When that is all of them, a word is one as it stands.
def between (rounds : Nat) (low high : Int) (g : Generator) : Option (Int × Generator) :=
  let size := (high - low + 1).toNat
  if size = words then some (Int.bmod g.word.toNat words, g.next)
  else (draw rounds size g).map fun drawn => (low + drawn.1, drawn.2)

end StoryScript.Random

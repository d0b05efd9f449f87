set_option autoImplicit false

namespace StoryScript.Random

def rotateLeft (x : UInt32) (n : UInt32) : UInt32 := (x <<< n) ||| (x >>> (32 - n))

def rotateRight (x : UInt32) (n : UInt32) : UInt32 := (x >>> n) ||| (x <<< (32 - n))

def spread (state : UInt64) : UInt64 := state * 6364136223846793005 + 11634580027462260723

def keyWord (state : UInt64) : UInt32 :=
  rotateRight (((state >>> 18) ^^^ state) >>> 27).toUInt32 (state >>> 59).toUInt32

-- The key of a seed: the words of the eight states after it.
def keyOf (seed : UInt64) : Vector UInt32 8 :=
  Vector.ofFn fun i => keyWord (Nat.repeat spread (i.val + 1) seed)

abbrev Block := Vector UInt32 16

def quarter (v : Block) (a b c d : Fin 16) : Block :=
  let x := v[a] + v[b]
  let w := rotateLeft (v[d] ^^^ x) 16
  let z := v[c] + w
  let y := rotateLeft (v[b] ^^^ z) 12
  let x := x + y
  let w := rotateLeft (w ^^^ x) 8
  let z := z + w
  let y := rotateLeft (y ^^^ z) 7
  (((v.set a x).set b y).set c z).set d w

def doubleRound (v : Block) : Block :=
  let v := quarter v 0 4 8 12
  let v := quarter v 1 5 9 13
  let v := quarter v 2 6 10 14
  let v := quarter v 3 7 11 15
  let v := quarter v 0 5 10 15
  let v := quarter v 1 6 11 12
  let v := quarter v 2 7 8 13
  quarter v 3 4 9 14

def plainBlock (key : Vector UInt32 8) (number : UInt64) : Block :=
  #v[0x61707865, 0x3320646e, 0x79622d32, 0x6b206574,
    key[0], key[1], key[2], key[3], key[4], key[5], key[6], key[7],
    number.toUInt32, (number >>> 32).toUInt32, 0, 0]

def block (key : Vector UInt32 8) (number : UInt64) : Block :=
  let plain := plainBlock key number
  Vector.zipWith (fun x y => x + y) (Nat.repeat doubleRound 4 plain) plain

-- A place in the stream of a key. Words are taken in pairs.
structure Generator where
  key : Vector UInt32 8
  taken : Nat
deriving DecidableEq

namespace Generator

def ofSeed (seed : UInt64) : Generator := ⟨keyOf seed, 0⟩

-- The next pair, of which the first word is the lower half. A block holds eight pairs.
def word (g : Generator) : UInt64 :=
  let words := block g.key (UInt64.ofNat (g.taken / 8))
  let first := 2 * (g.taken % 8)
  have inside : first + 1 < 16 := by omega
  (words[first]).toUInt64 ||| ((words[first + 1]).toUInt64 <<< 32)

def next (g : Generator) : Generator := { g with taken := g.taken + 1 }

end Generator

end StoryScript.Random

import StoryScript.Text.Cluster

set_option autoImplicit false

namespace StoryScript.Text

def backspace : Char := '\x08'

-- A size is kept in one byte, so it is known up to this many bytes.
def sizeModulus : Nat := 256

def byteCount : List Char → Nat
  | [] => 0
  | c :: rest => c.utf8Size + byteCount rest

structure Typed where
  chars : List Char := []
  -- The sizes of the clusters that a backspace can still take back, the last one first.
  marks : List Nat := []

-- Drops the whole characters among the first `count` bytes.
def dropBytes : Nat → List Char → List Char
  | _, [] => []
  | count, c :: rest =>
    if c.utf8Size ≤ count then dropBytes (count - c.utf8Size) rest else c :: rest

namespace Typed

def add (t : Typed) (cluster : List Char) : Typed :=
  if cluster = [backspace] then
    match t.marks with
    | [] => t
    | mark :: marks => ⟨dropBytes mark t.chars, marks⟩
  else ⟨cluster.reverse ++ t.chars, byteCount cluster % sizeModulus :: t.marks⟩

end Typed

def takeBack (line : String) : String :=
  String.ofList ((clusters line.toList).foldl Typed.add {}).chars.reverse

end StoryScript.Text

set_option autoImplicit false

namespace StoryScript.Text.Utf8

def encode (text : String) : Array UInt8 := text.toUTF8.data

def decode? (bytes : List UInt8) : Option String := String.fromUTF8? ⟨bytes.toArray⟩

def replacement : Char := Char.ofNat 0xfffd

structure Lead where
  following : Nat
  low : Nat
  high : Nat
  bits : Nat

def lead? (byte : Nat) : Option Lead :=
  if byte < 0xc2 then none
  else if byte < 0xe0 then some ⟨1, 0x80, 0xbf, byte - 0xc0⟩
  else if byte = 0xe0 then some ⟨2, 0xa0, 0xbf, 0⟩
  else if byte = 0xed then some ⟨2, 0x80, 0x9f, 0xd⟩
  else if byte < 0xf0 then some ⟨2, 0x80, 0xbf, byte - 0xe0⟩
  else if byte = 0xf0 then some ⟨3, 0x90, 0xbf, 0⟩
  else if byte < 0xf4 then some ⟨3, 0x80, 0xbf, byte - 0xf0⟩
  else if byte = 0xf4 then some ⟨3, 0x80, 0x8f, 4⟩
  else none

-- Takes up to `count` following bytes: how many were taken, and the code point when all were. The first of
-- them lies from `low` to `high`, the others from 0x80 to 0xbf.
def takeFollowing : Nat → Nat → Nat → Nat → List UInt8 → Nat × Option Nat
  | 0, _, _, bits, _ => (0, some bits)
  | _ + 1, _, _, _, [] => (0, none)
  | count + 1, low, high, bits, byte :: rest =>
    if low ≤ byte.toNat ∧ byte.toNat ≤ high then
      let (taken, code) := takeFollowing count 0x80 0xbf (bits * 64 + (byte.toNat - 0x80)) rest
      (taken + 1, code)
    else (0, none)

-- The first character, and how many of the bytes after the first belong to it. An ill-formed sequence is taken
-- as far as it could still have become a character.
def first (byte : UInt8) (rest : List UInt8) : Char × Nat :=
  if byte.toNat < 0x80 then (Char.ofNat byte.toNat, 0)
  else
    match lead? byte.toNat with
    | none => (replacement, 0)
    | some lead =>
      match takeFollowing lead.following lead.low lead.high lead.bits rest with
      | (taken, some code) => (Char.ofNat code, taken)
      | (taken, none) => (replacement, taken)

def decodeLossyChars : List UInt8 → List Char
  | [] => []
  | byte :: rest => (first byte rest).1 :: decodeLossyChars (rest.drop (first byte rest).2)
termination_by bytes => bytes.length
decreasing_by simp only [List.length_cons, List.length_drop]; omega

def decodeLossy (bytes : List UInt8) : String := String.ofList (decodeLossyChars bytes)

end StoryScript.Text.Utf8

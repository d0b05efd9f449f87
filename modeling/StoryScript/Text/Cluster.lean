import StoryScript.Text.Conjunct
import StoryScript.Text.Extending
import StoryScript.Text.Pictograph
import StoryScript.Text.SpacingMark

set_option autoImplicit false

namespace StoryScript.Text

inductive ClusterClass where
  | lineFeed
  | carriageReturn
  | control
  | extending
  | joiner
  | spacingMark
  | prepended
  | regional
  | initialJamo
  | vowelJamo
  | finalJamo
  | openSyllable
  | closedSyllable
  | consonant
  | pictograph
  | other
deriving DecidableEq

def controlRanges : Ranges := [
    (0x0, 0x9), (0xb, 0xc), (0xe, 0x1f), (0x7f, 0x9f), (0xad, 0xad), (0x61c, 0x61c),
    (0x180e, 0x180e), (0x200b, 0x200b), (0x200e, 0x200f), (0x2028, 0x202e), (0x2060, 0x206f),
    (0xfeff, 0xfeff), (0xfff0, 0xfffb), (0x13430, 0x1343f), (0x1bca0, 0x1bca3), (0x1d173, 0x1d17a),
    (0xe0000, 0xe001f), (0xe0080, 0xe00ff), (0xe01f0, 0xe0fff)]

def prependedRanges : Ranges := [
    (0x600, 0x605), (0x6dd, 0x6dd), (0x70f, 0x70f), (0x890, 0x891), (0x8e2, 0x8e2),
    (0xd4e, 0xd4e), (0x110bd, 0x110bd), (0x110cd, 0x110cd), (0x111c2, 0x111c3), (0x113d1, 0x113d1),
    (0x1193f, 0x1193f), (0x11941, 0x11941), (0x11a84, 0x11a89), (0x11d46, 0x11d46),
    (0x11f02, 0x11f02)]

-- The halfwidth sound marks and the skin tones, which extend although they can be shown alone.
def shownExtendingRanges : Ranges := [(0xff9e, 0xff9f), (0x1f3fb, 0x1f3ff)]

def initialJamoRanges : Ranges := [(0x1100, 0x115f), (0xa960, 0xa97c)]

def vowelJamoRanges : Ranges :=
  [(0x1160, 0x11a7), (0xd7b0, 0xd7c6), (0x16d63, 0x16d63), (0x16d67, 0x16d6a)]

def finalJamoRanges : Ranges := [(0x11a8, 0x11ff), (0xd7cb, 0xd7fb)]

-- The syllables, in rows of 28: one without a final, then one for each final.
def syllableRanges : Ranges := [(0xac00, 0xd7a3)]

def regionalRanges : Ranges := [(0x1f1e6, 0x1f1ff)]

def isRegional (c : Char) : Bool := regionalRanges.holds c

def asciiClass (c : Char) : ClusterClass :=
  if c = '\n' then .lineFeed
  else if c = '\r' then .carriageReturn
  else if controlRanges.holds c then .control
  else .other

def clusterClass (c : Char) : ClusterClass :=
  if c.toNat < 0x80 then asciiClass c
  else if controlRanges.holds c then .control
  else if c.toNat = 0x200d then .joiner
  else if isExtending c || shownExtendingRanges.holds c then .extending
  else if isSpacingMark c then .spacingMark
  else if prependedRanges.holds c then .prepended
  else if isRegional c then .regional
  else if initialJamoRanges.holds c then .initialJamo
  else if vowelJamoRanges.holds c then .vowelJamo
  else if finalJamoRanges.holds c then .finalJamo
  else if syllableRanges.holds c then
    if (c.toNat - 0xac00) % 28 = 0 then .openSyllable else .closedSyllable
  else if isConsonant c then .consonant
  else if isPictograph c then .pictograph
  else .other

namespace ClusterClass

def isAlone (k : ClusterClass) : Bool := k = .lineFeed || k = .carriageReturn || k = .control

def sameSyllable : ClusterClass → ClusterClass → Bool
  | .initialJamo, next =>
    next = .initialJamo || next = .vowelJamo || next = .openSyllable || next = .closedSyllable
  | .openSyllable, next => next = .vowelJamo || next = .finalJamo
  | .vowelJamo, next => next = .vowelJamo || next = .finalJamo
  | .closedSyllable, next => next = .finalJamo
  | .finalJamo, next => next = .finalJamo
  | _, _ => false

def attracts (last next : ClusterClass) : Bool :=
  sameSyllable last next || next = .extending || next = .joiner || next = .spacingMark ||
    last = .prepended

end ClusterClass

def endsPictograph (before : List Char) : Bool :=
  ((before.dropWhile fun c => clusterClass c = .extending).head?.map clusterClass) =
    some .pictograph

def endsHalfFlag (before : List Char) : Bool :=
  (before.takeWhile isRegional).length % 2 = 1

def isWithinConjunct (c : Char) : Bool :=
  c.toNat ≠ 0x200c && (clusterClass c = .extending || clusterClass c = .joiner)

def endsLinkedConsonant (before : List Char) : Bool :=
  (before.takeWhile isWithinConjunct).any isLinker &&
    ((before.dropWhile isWithinConjunct).head?.map clusterClass) = some .consonant

-- Whether a character stays with what stands before it, given last character first.
def joins : List Char → Char → Bool
  | [], _ => false
  | last :: earlier, c =>
    let before := clusterClass last
    let next := clusterClass c
    if before = .carriageReturn && next = .lineFeed then true
    else if before.isAlone || next.isAlone then false
    else
      before.attracts next ||
        (next = .consonant && endsLinkedConsonant (last :: earlier)) ||
        (before = .joiner && next = .pictograph && endsPictograph earlier) ||
        (before = .regional && next = .regional && endsHalfFlag (last :: earlier))

def attach (c : Char) (joined : Bool) : List (List Char) → List (List Char)
  | [] => [[c]]
  | cluster :: more => if joined then (c :: cluster) :: more else [c] :: cluster :: more

-- The clusters of a text, given what stands before it, last character first.
def clustersAfter (before : List Char) : List Char → List (List Char)
  | [] => []
  | c :: rest =>
    let joined := rest.head?.any (joins (c :: before))
    attach c joined (clustersAfter (c :: before) rest)

def clusters (cs : List Char) : List (List Char) := clustersAfter [] cs

theorem flatten_attach (c : Char) (joined : Bool) (parts : List (List Char)) :
    (attach c joined parts).flatten = c :: parts.flatten := by
  cases parts with
  | nil => rfl
  | cons cluster more => cases joined <;> rfl

theorem ne_nil_of_mem_attach {c : Char} {joined : Bool} {parts : List (List Char)}
    {cluster : List Char} (filled : ∀ part ∈ parts, part ≠ [])
    (member : cluster ∈ attach c joined parts) : cluster ≠ [] := by
  cases parts with
  | nil => simp_all [attach]
  | cons first more => cases joined <;> simp_all [attach] <;> grind

theorem flatten_clustersAfter (before cs : List Char) :
    (clustersAfter before cs).flatten = cs := by
  induction cs generalizing before with
  | nil => rfl
  | cons c rest ih => rw [clustersAfter, flatten_attach, ih]

theorem ne_nil_of_mem_clustersAfter {before cs cluster : List Char}
    (member : cluster ∈ clustersAfter before cs) : cluster ≠ [] := by
  induction cs generalizing before cluster with
  | nil => simp [clustersAfter] at member
  | cons c rest ih => exact ne_nil_of_mem_attach (fun _ => ih) member

theorem flatten_clusters (cs : List Char) : (clusters cs).flatten = cs :=
  flatten_clustersAfter [] cs

theorem ne_nil_of_mem_clusters {cs cluster : List Char} (member : cluster ∈ clusters cs) :
    cluster ≠ [] :=
  ne_nil_of_mem_clustersAfter member

end StoryScript.Text

import StoryScript.Number.Rounding

set_option autoImplicit false

namespace StoryScript

def Number.one : Nat := Number.twoPow 1074

def Number.limit : Nat := Number.twoPow 2098

-- A number: not a number, infinite, or a signed count of the unit 2^-1074. Zero has a sign.
inductive Number where
  | nan
  | infinite (negative : Bool)
  | finite (negative : Bool) (units : Nat) (short : Number.Short units)
      (small : units < Number.limit)
deriving DecidableEq

namespace Number

def ofRatio (negative : Bool) (num den : Nat) : Number :=
  let units := round num den
  if small : units < limit then .finite negative units (round_short num den) small
  else .infinite negative

def ofInt (n : Int) : Number := ofRatio (n < 0) (n.natAbs * one) 1

def ofNat (n : Nat) : Number := ofInt n

def zero : Number := ofNat 0

def signed (negative : Bool) (count : Nat) : Int := if negative then -count else count

def place : Number → Option Int
  | .nan => none
  | .infinite negative => some (signed negative limit)
  | .finite negative units _ _ => some (signed negative units)

def compareWith (holds : Int → Int → Bool) (a b : Number) : Bool :=
  match a.place, b.place with
  | some x, some y => holds x y
  | _, _ => false

def equal (a b : Number) : Bool := compareWith (fun x y => x == y) a b

def less (a b : Number) : Bool := compareWith (fun x y => x < y) a b

def lessEqual (a b : Number) : Bool := compareWith (fun x y => x ≤ y) a b

-- The lesser of two; what is not a number gives way, and of two equal ones the second is taken.
def lesser : Number → Number → Number
  | .nan, b => b
  | a, .nan => a
  | a, b => if a.less b then a else b

def neg : Number → Number
  | .nan => .nan
  | .infinite negative => .infinite (!negative)
  | .finite negative units short small => .finite (!negative) units short small

-- The exact sum, rounded. A sum of zero is negative only when both terms are.
def add : Number → Number → Number
  | .nan, _ => .nan
  | _, .nan => .nan
  | .infinite s, .infinite t => if s = t then .infinite s else .nan
  | .infinite s, .finite .. => .infinite s
  | .finite .., .infinite t => .infinite t
  | .finite s m _ _, .finite t n _ _ =>
    let sum := signed s m + signed t n
    if sum = 0 then ofRatio (s && t) 0 1
    else ofRatio (sum < 0) sum.natAbs 1

def sub (a b : Number) : Number := add a b.neg

def mul : Number → Number → Number
  | .nan, _ => .nan
  | _, .nan => .nan
  | .infinite s, .infinite t => .infinite (s != t)
  | .infinite s, .finite t n _ _ => if n = 0 then .nan else .infinite (s != t)
  | .finite s m _ _, .infinite t => if m = 0 then .nan else .infinite (s != t)
  | .finite s m _ _, .finite t n _ _ => ofRatio (s != t) (m * n) one

def div : Number → Number → Number
  | .nan, _ => .nan
  | _, .nan => .nan
  | .infinite _, .infinite _ => .nan
  | .infinite s, .finite t _ _ _ => .infinite (s != t)
  | .finite s _ _ _, .infinite t => ofRatio (s != t) 0 1
  | .finite s m _ _, .finite t n _ _ =>
    if n = 0 then (if m = 0 then .nan else .infinite (s != t))
    else ofRatio (s != t) (m * one) n

def floor : Number → Number
  | .finite negative units _ _ =>
    ofRatio negative ((signed negative units).fdiv one * one).natAbs 1
  | a => a

def ceil : Number → Number
  | .finite negative units _ _ =>
    ofRatio negative ((-signed negative units).fdiv one * one).natAbs 1
  | a => a

def toInt? : Number → Option Int
  | .finite negative units _ _ => some (signed negative (units / one))
  | _ => none

end Number

end StoryScript

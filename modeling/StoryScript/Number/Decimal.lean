import StoryScript.Number.Basic

set_option autoImplicit false

namespace StoryScript

structure Decimal where
  digits : Nat
  exponent : Int
deriving DecidableEq

namespace Decimal

def value (digits : List Char) : Nat :=
  digits.foldl (fun total c => total * 10 + (c.toNat - 48)) 0

def wholeNumber? (cs : List Char) : Option Nat :=
  if cs.isEmpty || !cs.all Char.isDigit then none else some (value cs)

def exponent? : List Char → Option Int
  | '+' :: cs => (wholeNumber? cs).map fun n => (n : Int)
  | '-' :: cs => (wholeNumber? cs).map fun n => -(n : Int)
  | cs => (wholeNumber? cs).map fun n => (n : Int)

def fraction : List Char → List Char × List Char
  | '.' :: cs => (cs.takeWhile Char.isDigit, cs.dropWhile Char.isDigit)
  | cs => ([], cs)

def ofChars? (cs : List Char) : Option Decimal :=
  let whole := cs.takeWhile Char.isDigit
  let (part, rest) := fraction (cs.dropWhile Char.isDigit)
  if whole.isEmpty && part.isEmpty then none
  else
    let decimal : Decimal := ⟨value (whole ++ part), -(part.length : Int)⟩
    match rest with
    | [] => some decimal
    | mark :: power =>
      if mark = 'e' || mark = 'E' then
        (exponent? power).map fun e => { decimal with exponent := decimal.exponent + e }
      else none

def zeros (count : Nat) : List Char := List.replicate count '0'

def dropZeros (digits : List Char) : List Char := (digits.reverse.dropWhile (· == '0')).reverse

def chars (d : Decimal) : List Char :=
  let row := Nat.toDigits 10 d.digits
  if 0 ≤ d.exponent then row ++ zeros d.exponent.toNat
  else
    let places := (-d.exponent).toNat
    let padded := zeros (places + 1 - row.length) ++ row
    let part := dropZeros (padded.drop (padded.length - places))
    let whole := padded.take (padded.length - places)
    if part.isEmpty then whole else whole ++ '.' :: part

end Decimal

namespace Number

-- No number lies beyond 10^400 or, but for zero, within 10^-400.
def reach : Nat := 400

def tenPow (k : Nat) : Nat := Nat.pow 10 k

def digitCount (n : Nat) : Nat := (Nat.toDigits 10 n).length

def ofDecimal (negative : Bool) (d : Decimal) : Number :=
  if d.digits = 0 then ofRatio negative 0 1
  else if d.exponent > reach then .infinite negative
  else if d.exponent < -(reach + digitCount d.digits : Int) then ofRatio negative 0 1
  else if 0 ≤ d.exponent then ofRatio negative (d.digits * tenPow d.exponent.toNat * one) 1
  else ofRatio negative (d.digits * one) (tenPow (-d.exponent).toNat)

def unsigned? (negative : Bool) (cs : List Char) : Option Number :=
  let word := cs.map Char.toLower
  if word = "inf".toList || word = "infinity".toList then some (.infinite negative)
  else if word = "nan".toList then some .nan
  else (Decimal.ofChars? cs).map (ofDecimal negative)

def ofChars? : List Char → Option Number
  | '+' :: cs => unsigned? false cs
  | '-' :: cs => unsigned? true cs
  | cs => unsigned? false cs

def ofText? (text : String) : Option Number := ofChars? text.toList

def readsBack (units : Nat) (d : Decimal) : Bool :=
  match ofDecimal false d with
  | .finite _ found _ _ => found == units
  | _ => false

-- Of the two decimals with the given exponent around a count of units, one that reads back as it: the nearer
-- one, and the upper one of two equally near.
def around (units : Nat) (exponent : Int) : Option Decimal :=
  let num := if 0 ≤ exponent then units else units * tenPow (-exponent).toNat
  let den := if 0 ≤ exponent then one * tenPow exponent.toNat else one
  let lower : Decimal := ⟨num / den, exponent⟩
  let upper : Decimal := ⟨num / den + 1, exponent⟩
  match readsBack units lower, readsBack units upper with
  | true, true => some (if 2 * (num % den) < den then lower else upper)
  | true, false => some lower
  | false, true => some upper
  | false, false => none

-- The power of ten just above a positive count of units. Below one, the digits are counted after a shift that
-- brings every number above one.
def magnitude (units : Nat) : Int :=
  if one ≤ units then digitCount (units / one)
  else digitCount (units * tenPow reach / one) - reach

def exactDecimal (units : Nat) : Decimal := ⟨units * Nat.pow 5 1074, -1074⟩

-- The decimal with the fewest digits that reads back. Seventeen always suffice.
def shortest (units : Nat) : Decimal :=
  let top := magnitude units
  ((List.range' 1 17).findSome? fun count => around units (top - (count : Nat))).getD (exactDecimal units)

def chars : Number → List Char
  | .nan => "NaN".toList
  | .infinite negative => if negative then "-inf".toList else "inf".toList
  | .finite negative units _ _ =>
    let row := if units = 0 then ['0'] else (shortest units).chars
    if negative then '-' :: row else row

def text (n : Number) : String := String.ofList n.chars

end Number

end StoryScript

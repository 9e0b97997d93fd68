import StopBot.Lib.Decimal
import StopBot.Lib.PyInt

/-!
# `Decimal` of a text

The constructor takes a sign, digits of any script with a point and an exponent,
or the name of a special value, in white space; underscores are dropped wherever
they stand. A number is taken exactly, up to the largest exponents there are on
a machine of 64 bits.
-/

namespace StopBot.Lib.Decimal

def digits? (cs : List Char) : Option Nat :=
  if cs.isEmpty then none
  else cs.foldlM (fun acc c => (PyText.decimalValue c).map fun d => acc * 10 + d) 0

def isExponentMark (c : Char) : Bool :=
  c == 'e' || c == 'E'

def exponent? : List Char → Option ℤ
  | [] => some 0
  | _ :: '-' :: cs => (digits? cs).map fun n => -(n : ℤ)
  | _ :: '+' :: cs => (digits? cs).map fun n => (n : ℤ)
  | _ :: cs => (digits? cs).map fun n => (n : ℤ)

def maxEmax : ℤ := 999999999999999999

def minEtiny : ℤ := -1999999999999999997

def inRange (coefficient : Nat) (exponent : ℤ) : Bool :=
  decide (minEtiny ≤ exponent ∧ exponent + Nat.log 10 coefficient ≤ maxEmax)

def number? (negative : Bool) (cs : List Char) : Option Decimal := do
  let mantissa := cs.takeWhile (!isExponentMark ·)
  let exponent ← exponent? (cs.dropWhile (!isExponentMark ·))
  let whole := mantissa.takeWhile (· != '.')
  let fraction := (mantissa.dropWhile (· != '.')).drop 1
  let coefficient ← digits? (whole ++ fraction)
  let exponent := exponent - fraction.length
  if inRange coefficient exponent then
    some (.finite ((if negative then -1 else 1) * coefficient * 10 ^ exponent))
  else none

def isPayload (cs : List Char) : Bool :=
  cs.all fun c => (PyText.decimalValue c).isSome

def special? (negative : Bool) (cs : List Char) : Option Decimal :=
  let word := cs.map Char.toLower
  if word = "inf".toList ∨ word = "infinity".toList then some (.infinite negative)
  else if word.take 3 = "nan".toList ∧ isPayload (word.drop 3) then some (.nan false)
  else if word.take 4 = "snan".toList ∧ isPayload (word.drop 4) then some (.nan true)
  else none

/-- `Decimal(text)`; none when it raises. -/
def ofText (text : String) : Option Decimal :=
  match (PyText.stripChars text.toList).filter (· != '_') with
  | '-' :: cs => (number? true cs).or (special? true cs)
  | '+' :: cs => (number? false cs).or (special? false cs)
  | cs => (number? false cs).or (special? false cs)

end StopBot.Lib.Decimal

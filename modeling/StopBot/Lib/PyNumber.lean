import StopBot.Lib.Decimal
import StopBot.Lib.Jsonb
import StopBot.Lib.PyInt

/-!
# Numbers of a JSON document in Python

A number written without fraction and exponent is read as an integer, any
other as a binary64 number. What is modelled is what a program can see of it:
its truth, its sign, its equality with an integer, and `int` of it.
-/

namespace StopBot.Lib

inductive PyNumber
  | int (n : ℤ)
  | float (value : ℚ)
  | infinite (negative : Bool)
  deriving DecidableEq, Repr

/-- The nearest binary64 number, ties to even: 53 significant bits, none below `2 ^ -1074`. -/
def binary64 (q : ℚ) : PyNumber :=
  if q = 0 then .float 0
  else
    let place : ℤ := max (Int.log 2 |q| - 52) (-1074)
    let rounded : ℚ := halfEven (q / 2 ^ place) * 2 ^ place
    if 2 ^ 1024 ≤ |rounded| then .infinite (decide (q < 0)) else .float rounded

namespace PyNumber

def eqInt : PyNumber → ℤ → Bool
  | .int n, m => n == m
  | .float q, m => q == m
  | .infinite _, _ => false

def isNegative : PyNumber → Bool
  | .int n => decide (n < 0)
  | .float q => decide (q < 0)
  | .infinite negative => negative

/-- `int(number)`, towards zero; an infinite number overflows. -/
def toInt? : PyNumber → Option ℤ
  | .int n => some n
  | .float q => some (if q < 0 then ⌈q⌉ else ⌊q⌋)
  | .infinite _ => none

end PyNumber

namespace Json

def number? : Json → Option PyNumber
  | .bool b => some (.int (if b then 1 else 0))
  | .num m e => some (if e = 0 then .int m else binary64 (m * 10 ^ e))
  | _ => none

def isTruthy (value : Json) : Bool :=
  match value.number? with
  | some n => !n.eqInt 0
  | none => value.truthy

/-- `a or b`. -/
def orElse (a b : Json) : Json :=
  if a.isTruthy then a else b

def maxStrDigits : Nat := 4300

/-- `int(value)`; none when it raises. -/
def pyInt? (value : Json) : Option ℤ :=
  match value with
  | .str s =>
    if maxStrDigits < s.toList.countP fun c => (PyText.decimalValue c).isSome then none
    else PyText.int? s
  | value => value.number?.bind PyNumber.toInt?

end Json

end StopBot.Lib

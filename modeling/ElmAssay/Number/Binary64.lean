/-!
# Binary floating point numbers

The numbers of the 64-bit binary format as data (`Binary64`): a finite one is a sign, a natural number of at most
53 bits and a power of two. A quotient of natural numbers is rounded to the nearest of them, a tie to the even one
(`ofRatio`), and a decimal fraction likewise (`ofDecimal`). The powers of natural and of whole numbers are those that these
numbers bring with them, also where a general theory of powers is at hand, so that a power means the same in every module.
-/

attribute [instance (2000), default_instance 20000] instPowNat

/-! ## The format -/

namespace ElmAssay

/-- A number of the 64-bit binary format. In `finite negative m q` the absolute value is `m * 2 ^ q`. -/
inductive Binary64
  | notANumber
  | infinite (negative : Bool)
  | finite (negative : Bool) (m : Nat) (q : Int)
  deriving DecidableEq, Repr

namespace Binary64

/-- The least exponent of the format. -/
def minExponent : Int := -1074

/-- The greatest exponent of the format. -/
def maxExponent : Int := 971

/-- The quotient of two natural numbers rounded to the nearest natural number, a tie to the even one. -/
def roundDiv (num den : Nat) : Nat :=
  let quotient := num / den
  let twice := 2 * (num % den)
  if twice < den ∨ (twice = den ∧ quotient % 2 = 0) then quotient else quotient + 1

/-- The quotient `num / (den * 2 ^ q)` rounded to the nearest natural number. -/
def scaledDiv (num den : Nat) (q : Int) : Nat :=
  if 0 ≤ q then roundDiv num (den * 2 ^ q.toNat) else roundDiv (num * 2 ^ (-q).toNat) den

/-- The exponent for a positive quotient: the one that leaves a number of 53 bits, unless it is too small. -/
def exponentFor (num den : Nat) : Int :=
  let guess : Int := (num.log2 : Int) - den.log2 - 52
  let below := if 0 ≤ guess then num < den * 2 ^ (guess.toNat + 52)
    else num * 2 ^ (-guess).toNat < den * 2 ^ 52
  max minExponent (if below then guess - 1 else guess)

/-- The number nearest to `num / den`, with a sign. -/
def ofRatio (negative : Bool) (num den : Nat) : Binary64 :=
  if num = 0 then .finite negative 0 minExponent
  else
    let q := exponentFor num den
    let m := scaledDiv num den q
    let (m, q) := if m = 2 ^ 53 then (2 ^ 52, q + 1) else (m, q)
    if maxExponent < q then .infinite negative else .finite negative m q

/-- The number nearest to `digits * 10 ^ exponent`, with a sign. Exponents far outside the format are settled by the
count of the digits. -/
def ofDecimal (negative : Bool) (digits : Nat) (exponent : Int) : Binary64 :=
  if digits = 0 then .finite negative 0 minExponent
  else
    let magnitude := exponent + (Nat.toDigits 10 digits).length
    if 400 < magnitude then .infinite negative
    else if magnitude < -400 then .finite negative 0 minExponent
    else if 0 ≤ exponent then ofRatio negative (digits * 10 ^ exponent.toNat) 1
    else ofRatio negative digits (10 ^ (-exponent).toNat)

/-- Whether a number is below zero. -/
def isBelowZero : Binary64 → Bool
  | .notANumber => false
  | .infinite negative => negative
  | .finite negative m _ => negative && m != 0

/-- Whether a number is zero, of either sign. -/
def isZero : Binary64 → Bool
  | .finite _ m _ => m == 0
  | _ => false

/-- Whether a number is neither infinite nor absent. -/
def isFinite : Binary64 → Bool
  | .finite .. => true
  | _ => false

end Binary64
end ElmAssay

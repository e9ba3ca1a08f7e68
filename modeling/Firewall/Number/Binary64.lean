/-!
# Binary floating-point numbers

A number of the 64-bit format as an exact value: a sign and a significand times a power of two.
`Binary64.ofDecimal` rounds a decimal to the nearest such number, a half to the even neighbour.
-/

namespace Firewall

/-- A 64-bit floating-point number; the finite one is `significand * 2 ^ exponent`. -/
inductive Binary64 where
  | notANumber
  | infinite (negative : Bool)
  | finite (negative : Bool) (significand : Nat) (exponent : Int)
  deriving DecidableEq, Repr, Inhabited

namespace Binary64

/-- The exponent of the smallest subnormal number. -/
def leastExponent : Int := -1074

/-- The greatest exponent of a finite number. -/
def greatestExponent : Int := 971

/-- Significands are below two to this power. -/
def precision : Nat := 53

/-- The quotient rounded to the nearest integer, a half to the even one. -/
def roundQuotient (numerator denominator : Nat) : Nat :=
  let quotient := numerator / denominator
  let twice := 2 * (numerator % denominator)
  if twice < denominator ∨ (twice = denominator ∧ quotient % 2 = 0) then quotient
  else quotient + 1

/-- The quotient divided by a power of two and rounded. -/
def scaledQuotient (numerator denominator : Nat) (exponent : Int) : Nat :=
  if exponent < 0 then roundQuotient (numerator * Nat.pow 2 exponent.natAbs) denominator
  else roundQuotient numerator (denominator * Nat.pow 2 exponent.natAbs)

/-- The number nearest to a quotient of positive numbers. -/
def ofQuotient (negative : Bool) (numerator denominator : Nat) : Binary64 :=
  let magnitude : Int := (Nat.log2 numerator : Int) - (Nat.log2 denominator : Int)
  -- the leading bit of the quotient has weight `magnitude` or one less
  let below : Bool :=
    if magnitude < 0 then numerator * Nat.pow 2 magnitude.natAbs < denominator
    else numerator < denominator * Nat.pow 2 magnitude.natAbs
  let leading := if below then magnitude - 1 else magnitude
  let exponent := max (leading - (precision - 1)) leastExponent
  let significand := scaledQuotient numerator denominator exponent
  let (significand, exponent) :=
    if significand = Nat.pow 2 precision then (Nat.pow 2 (precision - 1), exponent + 1)
    else (significand, exponent)
  if greatestExponent < exponent then .infinite negative
  else .finite negative significand exponent

/-- The number nearest to `digits * 10 ^ exponent`.  Decimals that are far outside the range are
decided by their size alone. -/
def ofDecimal (negative : Bool) (digits : Nat) (exponent : Int) : Binary64 :=
  let size : Int := (Nat.toDigits 10 digits).length + exponent
  if digits = 0 ∨ size < -330 then .finite negative 0 leastExponent
  else if 310 < size then .infinite negative
  else if exponent < 0 then ofQuotient negative digits (Nat.pow 10 exponent.natAbs)
  else ofQuotient negative (digits * Nat.pow 10 exponent.natAbs) 1

/-- The integer that a number without a fraction is. -/
def toInt? : Binary64 → Option Int
  | .finite negative significand exponent =>
      let magnitude? : Option Nat :=
        if 0 ≤ exponent then some (significand * Nat.pow 2 exponent.natAbs)
        else if significand % Nat.pow 2 exponent.natAbs = 0 then
          some (significand / Nat.pow 2 exponent.natAbs)
        else none
      magnitude?.map fun magnitude => if negative then -(magnitude : Int) else magnitude
  | _ => none

def isFinite : Binary64 → Bool
  | .finite .. => true
  | _ => false

def isZero : Binary64 → Bool
  | .finite _ significand _ => significand == 0
  | _ => false

end Binary64

end Firewall

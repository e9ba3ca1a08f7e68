import Firewall.Number.Binary64

/-!
# Shortest decimal text of a number

Among the decimals that round to a number, `Binary64.shortest` finds one with the fewest digits
and, of those, the nearest.  It works on grids of decimals: on the grid with one digit, then two,
it tests the two neighbours of the number.  `Binary64.text` writes the digits out.
-/

namespace Firewall.Binary64

/-- A positive fraction. -/
structure Fraction where
  numerator : Nat
  denominator : Nat

/-- The fraction times a power of a base. -/
def Fraction.scale (fraction : Fraction) (base : Nat) (exponent : Int) : Fraction :=
  if exponent < 0 then ⟨fraction.numerator, fraction.denominator * Nat.pow base exponent.natAbs⟩
  else ⟨fraction.numerator * Nat.pow base exponent.natAbs, fraction.denominator⟩

/-- Whether the first fraction is below the second. -/
def Fraction.lt (left right : Fraction) : Bool :=
  left.numerator * right.denominator < right.numerator * left.denominator

/-- The fractions that round to a number: an interval, with its ends or without. -/
structure Interval where
  low : Fraction
  high : Fraction
  closed : Bool

/-- The interval of a positive finite number.  It ends halfway to the neighbours; the lower
neighbour of a power of two is nearer.  The ends belong to an even significand. -/
def interval (significand : Nat) (exponent : Int) : Interval :=
  let quarter (count : Nat) : Fraction := (Fraction.mk count 4).scale 2 exponent
  let nearer := significand = Nat.pow 2 (precision - 1) ∧ leastExponent < exponent
  { low := quarter (4 * significand - if nearer then 1 else 2)
    high := quarter (4 * significand + 2)
    closed := significand % 2 = 0 }

/-- Whether a fraction lies in an interval; the ends count if it is closed. -/
def Interval.contains (interval : Interval) (fraction : Fraction) : Bool :=
  if interval.closed then !fraction.lt interval.low && !interval.high.lt fraction
  else interval.low.lt fraction && fraction.lt interval.high

/-- The neighbour of a number on the grid of multiples of `10 ^ exponent` that rounds to it, the
nearer one if both do, and the even one if they are equally near. -/
def onGrid? (significand : Nat) (binaryExponent : Int) (exponent : Int) : Option Nat :=
  let value := (Fraction.mk significand 1).scale 2 binaryExponent
  let scaled := value.scale 10 (-exponent)
  let floor := scaled.numerator / scaled.denominator
  let nearest := roundQuotient scaled.numerator scaled.denominator
  let other := if nearest = floor then floor + 1 else floor
  [nearest, other].find? fun count =>
    (interval significand binaryExponent).contains ((Fraction.mk count 1).scale 10 exponent)

/-- The first of the given powers of ten, from a coarse one to finer ones, whose grid holds a
decimal that rounds to the number. -/
def search (significand : Nat) (binaryExponent : Int) (coarsest : Int) :
    (finer : Nat) → Nat × Int
  | 0 => (significand, binaryExponent)
  | finer + 1 =>
      match onGrid? significand binaryExponent coarsest with
      | some count => (count, coarsest)
      | none => search significand binaryExponent (coarsest - 1) finer

/-- The digits of a positive finite number, without zeros at the end, and the power of ten of the
first of them. -/
def shortest (significand : Nat) (binaryExponent : Int) : List Char × Int :=
  let value := (Fraction.mk significand 1).scale 2 binaryExponent
  -- a power of ten above the number
  let size : Int :=
    (Nat.toDigits 10 value.numerator).length - (Nat.toDigits 10 value.denominator).length + 1
  let (count, exponent) := search significand binaryExponent size 20
  let digits := Nat.toDigits 10 count
  ((digits.reverse.dropWhile (· == '0')).reverse, exponent + digits.length - 1)

/-- Powers of ten of the first digit from here on are written out ... -/
def leastPositional : Int := -4

/-- ... up to here; others are written with an exponent. -/
def greatestPositional : Int := 15

/-- Digits in positional notation, with at least one digit on each side of the point. -/
def positional (digits : List Char) (leading : Int) : List Char :=
  if leading < 0 then
    '0' :: '.' :: List.replicate (leading.natAbs - 1) '0' ++ digits
  else
    let whole := leading.natAbs + 1
    let fraction := digits.drop whole
    digits.take whole ++ List.replicate (whole - digits.length) '0'
      ++ '.' :: (if fraction.isEmpty then ['0'] else fraction)

/-- Digits in exponent notation; the exponent has a sign and at least two digits. -/
def scientific (digits : List Char) (leading : Int) : List Char :=
  let power := Nat.toDigits 10 leading.natAbs
  digits.take 1 ++ (if digits.length ≤ 1 then [] else '.' :: digits.drop 1)
    ++ 'e' :: (if leading < 0 then '-' else '+')
    :: List.replicate (2 - power.length) '0' ++ power

/-- The text of a number. -/
def text : Binary64 → String
  | .notANumber => "nan"
  | .infinite negative => if negative then "-inf" else "inf"
  | .finite negative significand exponent =>
      let magnitude :=
        if significand = 0 then ['0', '.', '0']
        else
          let (digits, leading) := shortest significand exponent
          if leastPositional ≤ leading ∧ leading ≤ greatestPositional then
            positional digits leading
          else scientific digits leading
      String.ofList (if negative then '-' :: magnitude else magnitude)

end Firewall.Binary64

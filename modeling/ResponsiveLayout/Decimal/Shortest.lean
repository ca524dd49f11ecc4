/-!
The shortest decimal that reads back as a given single-precision number, written positionally.

A finite number is `mantissa * 2 ^ exponent`. All reals of an interval around it round to it, the
ends included when the mantissa is even. For one digit, two digits, and so on, the two decimals of
that length next to the number are tried; the first length with a decimal in the interval wins,
then the nearer decimal, then the one away from zero.
-/

namespace ResponsiveLayout.Decimal

/-- A positive single-precision number as an integer times a power of two, with whether the
neighbour below is only half as far away as the one above. -/
structure Binary where
  mantissa : Nat
  exponent : Int
  closeBelow : Bool
deriving DecidableEq

def Binary.ofBits (bits : Nat) : Binary :=
  let fraction : Nat := bits % Nat.pow 2 23
  let field : Nat := bits / Nat.pow 2 23 % Nat.pow 2 8
  if field = 0 then ⟨fraction, -149, false⟩
  else ⟨Nat.pow 2 23 + fraction, (field : Int) - 150, fraction = 0 && 1 < field⟩

/-- Four times the number and the two ends of its rounding interval, each as a numerator over
the common denominator that comes last. -/
def Binary.interval (b : Binary) : Nat × Nat × Nat × Nat :=
  let scale := Nat.pow 2 b.exponent.toNat
  let below := if b.closeBelow then 1 else 2
  (4 * b.mantissa * scale, (4 * b.mantissa - below) * scale, (4 * b.mantissa + 2) * scale,
    4 * Nat.pow 2 (-b.exponent).toNat)

/-- Decimal digits as a whole number, and the power of ten that it is multiplied by. -/
structure Digits where
  significand : Nat
  exponent : Int
deriving DecidableEq

/-- The least number below 64 with a property; the powers of ten of single precision stay below
that. -/
def least (p : Nat → Bool) : Nat := ((List.range 64).find? p).getD 64

/-- The power of ten of the last digit when the positive number `num / den` is written with
`count` digits. -/
def lastPlace (num den count : Nat) : Int :=
  if den ≤ num then (least fun k => num < den * Nat.pow 10 k : Nat) - (count : Int)
  else 1 - (least fun k => den ≤ num * Nat.pow 10 k : Nat) - (count : Int)

def ofLength? (b : Binary) (count : Nat) : Option Digits :=
  let (num, low, high, den) := b.interval
  let place := lastPlace num den count
  let up := Nat.pow 10 place.toNat
  let down := Nat.pow 10 (-place).toNat
  let n := num * down
  let d := den * up
  let inside (c : Nat) : Bool :=
    let v := c * d
    if b.mantissa % 2 = 0 then decide (low * down ≤ v) && decide (v ≤ high * down)
    else decide (low * down < v) && decide (v < high * down)
  let floor := n / d
  let nearer := if 2 * (n - floor * d) < d then floor else floor + 1
  let other := if nearer = floor then floor + 1 else floor
  if inside nearer then some ⟨nearer, place⟩
  else if inside other then some ⟨other, place⟩
  else none

/-- The shortest decimal that rounds to a positive number; nine digits always suffice. -/
def shortest (b : Binary) : Digits :=
  ((List.range 9).findSome? fun i => ofLength? b (i + 1)).getD ⟨0, 0⟩

/-- Digits written without an exponent: zeros fill the places up to the point, and a fraction
has no zeros at its end. -/
def Digits.positional (d : Digits) : String :=
  if 0 ≤ d.exponent then toString d.significand ++ String.ofList (List.replicate d.exponent.toNat '0')
  else
    let places := (-d.exponent).toNat
    let whole := d.significand / Nat.pow 10 places
    let fraction := toString (d.significand % Nat.pow 10 places)
    let padded := List.replicate (places - fraction.length) '0' ++ fraction.toList
    let trimmed := (padded.reverse.dropWhile (· == '0')).reverse
    if trimmed.isEmpty then toString whole
    else toString whole ++ "." ++ String.ofList trimmed

def text (x : Float32) : String :=
  let bits := x.toBits.toNat
  let sign := if Nat.pow 2 31 ≤ bits then "-" else ""
  if x.isNaN then "NaN"
  else if !x.isFinite then sign ++ "inf"
  else if bits % Nat.pow 2 31 = 0 then sign ++ "0"
  else sign ++ (shortest (Binary.ofBits (bits % Nat.pow 2 31))).positional

end ResponsiveLayout.Decimal

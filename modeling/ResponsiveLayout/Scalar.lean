/-!
Numbers that lengths are measured in. Every layout rule of the library is written once over
`Scalar`, so that it runs in single precision and can be studied with exact rationals.
-/

namespace ResponsiveLayout

/-- A number type for lengths: arithmetic, the comparisons of a layout rule, which values are
finite, and how much unabsorbed overflow counts as none. -/
class Scalar (α : Type) extends Zero α, NatCast α, Add α, Sub α, Mul α, Div α, Neg α,
    BEq α, LT α, LE α where
  decLt : DecidableLT α
  decLe : DecidableLE α
  isFinite : α → Bool
  tolerance : α

attribute [reducible, instance] Scalar.decLt Scalar.decLe

/-- The tolerance, one ten-thousandth, is rounded to single precision. -/
instance : Scalar Float32 where
  zero := Float32.ofBits 0
  natCast := Float32.ofNat
  decLt := Float32.decLt
  decLe := Float32.decLe
  isFinite := Float32.isFinite
  tolerance := Float32.ofBits 0x38d1b717

/-- Exact arithmetic, with the tolerance that single precision uses. -/
instance : Scalar Rat where
  zero := 0
  decLt := inferInstance
  decLe := inferInstance
  isFinite _ := true
  tolerance := mkRat 13743895 (Nat.pow 2 37)

namespace Scalar

variable {α : Type} [Scalar α]

/-- The sum of a list, added up from left to right. It starts at minus zero, which leaves every number as
it is, so a sum of nothing but minus zeros is minus zero. -/
def total (xs : List α) : α := xs.foldl (· + ·) (-0)

/-- A positive value stays; anything else, what is not a number included, becomes zero. -/
def positive (x : α) : α := if 0 < x then x else 0

/-- Lengths that an item or a container is given: finite ones lose their negative part, the
others become zero. -/
def sanitize (x : α) : α := if isFinite x then positive x else 0

end Scalar

end ResponsiveLayout

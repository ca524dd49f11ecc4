/-!
Numbers as JSON text writes them, and the value that a configuration takes from one. Whole numbers
of machine size are rounded to single precision directly. Any other number is rounded to double
precision first: as many leading digits as 64 bits hold, times or divided by a power of ten.
-/

namespace ResponsiveLayout.Json

/-- The written parts of a number. Digits stand most significant first. -/
structure Numeral where
  negative : Bool
  whole : List Nat
  fraction : Option (List Nat)
  exponent : Option (Bool × List Nat)
deriving DecidableEq

def ofDigits (ds : List Nat) : Nat := ds.foldl (fun n d => 10 * n + d) 0

/-- Append digits to a significand while it fits into 64 bits. Returns the significand and the
digits that no longer fit. -/
def gather (significand : Nat) : List Nat → Nat × List Nat
  | [] => (significand, [])
  | d :: ds =>
    if 10 * significand + d < Nat.pow 2 64 then gather (10 * significand + d) ds
    else (significand, d :: ds)

def narrow (x : Float) : Float32 :=
  .ofModel <| .pack <|
    match x.toModel.unpack with
    | .finite s m e _ => .round .binary32 s m e
    | u => u

/-- A significand of 64 bits times a power of ten in double precision, unless that is too large
for it. No power of ten below the smallest one of double precision leaves anything that single
precision could hold. -/
def scale? (significand : Nat) (exponent : Int) : Option Float :=
  let f := (UInt64.ofNat significand).toFloat
  if significand = 0 ∨ exponent < -308 then some (Float.ofBits 0)
  else if exponent < 0 then some (f / Float.ofScientific 1 false (-exponent).toNat)
  else if 308 < exponent then none
  else
    let x := f * Float.ofScientific 1 false exponent.toNat
    if x.isInf then none else some x

namespace Numeral

def isWhole (n : Numeral) : Bool := n.fraction.isNone && n.exponent.isNone

/-- The digits as a significand and a power of ten. Digits that do not fit before the point count
as places, behind it they are left out. -/
def parts (n : Numeral) : Nat × Int :=
  let fraction := n.fraction.getD []
  let (high, dropped) := gather 0 n.whole
  let (significand, unused) := gather high fraction
  let written : Int :=
    match n.exponent with
    | none => 0
    | some (true, ds) => -(ofDigits ds : Int)
    | some (false, ds) => ofDigits ds
  (significand, (dropped.length : Int) - (fraction.length - unused.length : Nat) + written)

def magnitude? (n : Numeral) : Option Float32 :=
  let value := ofDigits n.whole
  if n.isWhole && decide (value < if n.negative then Nat.pow 2 63 + 1 else Nat.pow 2 64) then
    some (Float32.ofNat value)
  else (scale? n.parts.1 n.parts.2).map narrow

def toFloat32? (n : Numeral) : Option Float32 :=
  n.magnitude?.map fun x => if n.negative then -x else x

/-- The number as a whole number of 16 bits, if it is written as one. -/
def toUInt16? (n : Numeral) : Option UInt16 :=
  let value := ofDigits n.whole
  if n.isWhole && !n.negative && decide (value < Nat.pow 2 16) then some value.toUInt16 else none

end Numeral

end ResponsiveLayout.Json

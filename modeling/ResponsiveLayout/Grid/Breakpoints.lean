import ResponsiveLayout.Error
import ResponsiveLayout.Scalar
import ResponsiveLayout.Table

/-!
Breakpoints: named tiers with the least width of each, narrowest first. A width belongs to the
last tier whose least width it reaches, and to the first tier if it reaches none.
-/

namespace ResponsiveLayout

/-- A table of tiers. The constructors of the library make it non-empty, with finite least widths
that strictly increase. -/
structure Breakpoints (α : Type) where
  tiers : Table α
deriving DecidableEq

variable {α : Type}

/-- The first entry of a tier list that cannot follow the one before it. -/
def firstFault? [Scalar α] : Option (String × α) → List (String × α) → Option (LayoutError α)
  | _, [] => none
  | previous?, e :: es =>
    if !Scalar.isFinite e.2 then some (.nonFiniteBreakpoint e.1)
    else match previous? with
      | none => firstFault? (some e) es
      | some p =>
        if e.2 ≤ p.2 then some (.breakpointsNotIncreasing e.1 e.2 p.1 p.2)
        else firstFault? (some e) es

def lastIndex? {β : Type} (p : β → Bool) : List β → Option Nat
  | [] => none
  | x :: xs =>
    match lastIndex? p xs with
    | some i => some (i + 1)
    | none => if p x then some 0 else none

namespace Breakpoints

def names (b : Breakpoints α) : List String := b.tiers.names

def nameAt (b : Breakpoints α) (i : Nat) : String := b.names[i]?.getD ""

variable [Scalar α]

def ofTable (t : Table α) : Except (LayoutError α) (Breakpoints α) :=
  if t.isEmpty then .error .noBreakpoints
  else match firstFault? none t.entries with
    | some e => .error e
    | none => .ok ⟨t⟩

/-- Accept a list of tiers; a repeated name keeps its first place and takes its last width. -/
def ofList (es : List (String × α)) : Except (LayoutError α) (Breakpoints α) :=
  ofTable (Table.ofList es)

def standard : Breakpoints α where
  tiers := Table.ofList [("xs", 0), ("sm", ((576 : Nat) : α)), ("md", ((768 : Nat) : α)),
    ("lg", ((992 : Nat) : α)), ("xl", ((1200 : Nat) : α)), ("xxl", ((1400 : Nat) : α))]

/-- The place of the tier that a width belongs to. Only a table without tiers has none. -/
def resolveIndex (b : Breakpoints α) (width : α) : Option Nat :=
  if b.tiers.isEmpty then none
  else some ((lastIndex? (fun least => decide (least ≤ width)) b.tiers.values).getD 0)

def resolve (b : Breakpoints α) (width : α) : String :=
  ((b.resolveIndex width).map b.nameAt).getD ""

end Breakpoints

end ResponsiveLayout

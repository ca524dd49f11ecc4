import ResponsiveLayout.Geometry

/-!
The main axis of a row or column, alignment across it, and justification along it, each with the
name that configuration text uses for it.
-/

namespace ResponsiveLayout

inductive Direction where
  | row
  | column
deriving DecidableEq

inductive Align where
  | start
  | center
  | «end»
  | stretch
deriving DecidableEq

/-- How the free space of the main axis is spread around the items. -/
inductive Justify where
  | start
  | center
  | «end»
  | spaceBetween
  | spaceAround
  | spaceEvenly
deriving DecidableEq

namespace Direction

def all : List Direction := [row, column]

def name : Direction → String
  | row => "row"
  | column => "column"

variable {α : Type}

def main (d : Direction) (s : Size α) : α :=
  match d with
  | row => s.width
  | column => s.height

def cross (d : Direction) (s : Size α) : α :=
  match d with
  | row => s.height
  | column => s.width

def frame (d : Direction) (mainPos mainLen crossPos crossLen : α) : Rect α :=
  match d with
  | row => ⟨mainPos, crossPos, mainLen, crossLen⟩
  | column => ⟨crossPos, mainPos, crossLen, mainLen⟩

end Direction

namespace Align

def all : List Align := [start, center, «end», stretch]

def name : Align → String
  | start => "start"
  | center => "center"
  | «end» => "end"
  | stretch => "stretch"

/-- Position and length of something of length `natural` in `available` room. Only `stretch`
changes the length; what does not fit is cut nowhere and may start below zero. -/
def resolve {α : Type} [Scalar α] (a : Align) (natural available : α) : α × α :=
  match a with
  | start => (0, natural)
  | center => ((available - natural) / ((2 : Nat) : α), natural)
  | «end» => (available - natural, natural)
  | stretch => (0, available)

end Align

namespace Justify

def all : List Justify := [start, center, «end», spaceBetween, spaceAround, spaceEvenly]

def name : Justify → String
  | start => "start"
  | center => "center"
  | «end» => "end"
  | spaceBetween => "space-between"
  | spaceAround => "space-around"
  | spaceEvenly => "space-evenly"

end Justify

end ResponsiveLayout

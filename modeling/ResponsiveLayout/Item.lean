import ResponsiveLayout.Alignment
import ResponsiveLayout.Grid.Spans
import ResponsiveLayout.Widget

/-!
Items of a row, column or grid: the widget that an item shows and its layout properties. Lengths
and weights that make no sense are brought to zero when they are set.
-/

namespace ResponsiveLayout

/-- A widget with its layout properties. Items are placed by ascending `order`. Without a `basis`
the preferred length is the basis; without an `align` that of the container holds. -/
structure Item (α : Type) where
  widget : Widget
  order : Int32
  grow : α
  shrink : α
  basis : Option α
  align : Option Align
  spans : Spans
deriving DecidableEq

inductive ItemChange (α : Type) where
  | grow (weight : α)
  | shrink (weight : α)
  | basis (length : α)
  | align (a : Align)
  | order (n : Int32)
  | span (tier : String) (n : UInt16)
  | spans (s : Spans)

namespace Item

variable {α : Type} [Scalar α]

/-- An item with nothing set: it shrinks when it must and does not grow. -/
def ofWidget (w : Widget) : Item α where
  widget := w
  order := 0
  grow := 0
  shrink := ((1 : Nat) : α)
  basis := none
  align := none
  spans := .empty

def change (i : Item α) : ItemChange α → Item α
  | .grow weight => { i with grow := Scalar.sanitize weight }
  | .shrink weight => { i with shrink := Scalar.sanitize weight }
  | .basis length => { i with basis := some (Scalar.sanitize length) }
  | .align a => { i with align := some a }
  | .order n => { i with order := n }
  | .span tier n => { i with spans := i.spans.set tier n }
  | .spans s => { i with spans := s }

def changeAll (i : Item α) (cs : List (ItemChange α)) : Item α := cs.foldl change i

/-- Whether two items agree in every property; the order of the spans does not count. -/
def same (i j : Item α) : Bool :=
  i.widget == j.widget && i.order == j.order && i.grow == j.grow && i.shrink == j.shrink
    && i.basis == j.basis && i.align == j.align && i.spans.same j.spans

end Item

end ResponsiveLayout

import ResponsiveLayout.Scalar

/-!
Points, sizes and rectangles. A size is *empty* unless both of its lengths are positive, so a size
with a length that is not a number is empty too.
-/

namespace ResponsiveLayout

structure Point (α : Type) where
  x : α
  y : α
deriving DecidableEq

structure Size (α : Type) where
  width : α
  height : α
deriving DecidableEq

structure Rect (α : Type) where
  x : α
  y : α
  width : α
  height : α
deriving DecidableEq

variable {α : Type} [Scalar α]

def Point.origin : Point α := ⟨0, 0⟩

namespace Size

def zero : Size α := ⟨0, 0⟩

def isEmpty (s : Size α) : Bool := !(decide (0 < s.width) && decide (0 < s.height))

/-- Whether both lengths compare equal; a length that is not a number equals nothing. -/
def same (s t : Size α) : Bool := s.width == t.width && s.height == t.height

end Size

namespace Rect

def zero : Rect α := ⟨0, 0, 0, 0⟩

def ofOriginSize (p : Point α) (s : Size α) : Rect α := ⟨p.x, p.y, s.width, s.height⟩

def origin (r : Rect α) : Point α := ⟨r.x, r.y⟩

def size (r : Rect α) : Size α := ⟨r.width, r.height⟩

def right (r : Rect α) : α := r.x + r.width

def bottom (r : Rect α) : α := r.y + r.height

end Rect

end ResponsiveLayout

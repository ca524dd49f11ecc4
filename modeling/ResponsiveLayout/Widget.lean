/-!
The two kinds of identity: widgets, which the host names, and items, which a container names.
-/

namespace ResponsiveLayout

structure Widget where
  handle : UInt64
deriving DecidableEq

structure ItemId where
  index : Nat
deriving DecidableEq

inductive Target where
  | widget (w : Widget)
  | item (id : ItemId)
deriving DecidableEq

def Target.hits (t : Target) (id : ItemId) (w : Widget) : Bool :=
  match t with
  | .widget w' => w' = w
  | .item id' => id' = id

def Widget.text (w : Widget) : String := "#" ++ toString w.handle.toNat

end ResponsiveLayout

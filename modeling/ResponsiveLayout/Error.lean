import ResponsiveLayout.Decimal.Shortest
import ResponsiveLayout.Widget

/-!
Why a host refuses a call and why a configuration is refused, with the text of each.
-/

namespace ResponsiveLayout

inductive HostError where
  | destroyed (w : Widget)
  | unavailable (w : Widget) (reason : String)
deriving DecidableEq

def HostError.widget : HostError → Widget
  | destroyed w => w
  | unavailable w _ => w

def HostError.message : HostError → String
  | destroyed w => "widget " ++ w.text ++ " has been destroyed"
  | unavailable w reason => "widget " ++ w.text ++ " is unavailable: " ++ reason

inductive LayoutError (α : Type) where
  | noBreakpoints
  | nonFiniteBreakpoint (name : String)
  | breakpointsNotIncreasing (name : String) (minWidth : α) (previous : String)
      (previousMinWidth : α)
  | zeroColumns
deriving DecidableEq

def LayoutError.message : LayoutError Float32 → String
  | noBreakpoints => "breakpoint table is empty"
  | nonFiniteBreakpoint name => "breakpoint `" ++ name ++ "` has a non-finite minimum width"
  | breakpointsNotIncreasing name minWidth previous previousMinWidth =>
    "breakpoint `" ++ name ++ "` (" ++ Decimal.text minWidth ++ ") must be wider than `"
      ++ previous ++ "` (" ++ Decimal.text previousMinWidth ++ ")"
  | zeroColumns => "grid needs at least one column"

end ResponsiveLayout

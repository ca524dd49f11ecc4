import ResponsiveLayout.Grid.Breakpoints

/-!
Column spans by tier. A tier without a span of its own takes the span of the nearest narrower
tier that has one.
-/

namespace ResponsiveLayout

abbrev Spans := Table UInt16

variable {α : Type}

/-- The tiers up to a place are more than 64 bits can count. -/
structure TierOverflow where
  tier : Nat
deriving DecidableEq

namespace Spans

/-- The span of the last of the first `count` tiers that has one of its own. -/
def lastOf (s : Spans) (b : Breakpoints α) (count : Nat) : Option UInt16 :=
  ((b.names.take count).filterMap s.get?).getLast?

/-- The span that holds at the tier at place `tier`; places past the end mean the last tier. -/
def inherited (s : Spans) (b : Breakpoints α) (tier : Nat) : Except TierOverflow (Option UInt16) :=
  if tier + 1 < UInt64.size then .ok (s.lastOf b (tier + 1)) else .error ⟨tier⟩

def unknownTiers (s : Spans) (b : Breakpoints α) : List String :=
  s.names.filter (!b.tiers.contains ·)

end Spans

def clampSpan (span columns : UInt16) : UInt16 := max 1 (min span (max columns 1))

end ResponsiveLayout

import ResponsiveLayout.Flex.Config
import ResponsiveLayout.Grid.Config
import ResponsiveLayout.Grid.Spans

/-!
Configurations as documents to be written. A document of a configuration has all of its fields in
a fixed order; a length that is not finite has no written form but null.
-/

namespace ResponsiveLayout

inductive Document where
  | null
  | length (x : Float32)
  | count (n : UInt16)
  | name (s : String)
  | object (members : List (String × Document))

namespace Document

def ofLength (x : Float32) : Document := if x.isFinite then .length x else .null

def ofTable {β : Type} (f : β → Document) (t : Table β) : Document :=
  .object (t.entries.map fun e => (e.1, f e.2))

def ofFlexConfig (c : FlexConfig Float32) : Document :=
  .object [("direction", .name c.direction.name), ("align", .name c.align.name),
    ("justify", .name c.justify.name), ("gap", ofLength c.gap)]

def ofBreakpoints (b : Breakpoints Float32) : Document := ofTable ofLength b.tiers

def ofGridConfig (c : GridConfig Float32) : Document :=
  .object [("columns", .count c.columns), ("gap", ofLength c.gap),
    ("breakpoints", ofBreakpoints c.breakpoints)]

def ofSpans (s : Spans) : Document := ofTable .count s

end Document

end ResponsiveLayout

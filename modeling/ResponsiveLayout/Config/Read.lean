import ResponsiveLayout.Flex.Config
import ResponsiveLayout.Grid.Config
import ResponsiveLayout.Grid.Spans
import ResponsiveLayout.Json.Reader

/-!
Configurations read from JSON text. Every field may be left out and then has its standard value,
fields of other names are passed over, and a field must not come twice. A configuration may also
be an array of the values of its leading fields, without their names. Tiers and spans are objects
whose members keep the order of the text.
-/

namespace ResponsiveLayout

open Json

abbrev ConfigError := ReadError (LayoutError Float32)

/-- Read a field that has not come before, and note that it has come. -/
def readOnce {C β : Type} (name : String) (r : Reader (LayoutError Float32) β) (put : C → β → C)
    (state : List String × C) : Reader (LayoutError Float32) (List String × C) :=
  if state.1.contains name then fun _ => .error .malformed
  else r.map fun b => (name :: state.1, put state.2 b)

def readTable {β : Type} (r : Reader (LayoutError Float32) β) :
    Reader (LayoutError Float32) (Table β) :=
  readObject (fun t name => r.map (t.set name)) .empty

def FlexConfig.readMember (state : List String × FlexConfig Float32) (name : String) :
    Reader (LayoutError Float32) (List String × FlexConfig Float32) :=
  if name = "direction" then
    readOnce name (readName Direction.all Direction.name) (fun c d => { c with direction := d }) state
  else if name = "align" then
    readOnce name (readName Align.all Align.name) (fun c a => { c with align := a }) state
  else if name = "justify" then
    readOnce name (readName Justify.all Justify.name) (fun c j => { c with justify := j }) state
  else if name = "gap" then readOnce name readFloat32 (fun c gap => { c with gap }) state
  else skipValue state

def FlexConfig.fields : List String := ["direction", "align", "justify", "gap"]

def FlexConfig.ofText (text : String) : Except ConfigError (FlexConfig Float32) :=
  ((readRecord FlexConfig.fields FlexConfig.readMember ([], .row)).map Prod.snd).run text

/-- Tiers with their least widths; they are checked as soon as their object ends. -/
def Breakpoints.read : Reader (LayoutError Float32) (Breakpoints Float32) :=
  (readTable readFloat32).check Breakpoints.ofTable

def Breakpoints.ofText (text : String) : Except ConfigError (Breakpoints Float32) :=
  Breakpoints.read.run text

def GridConfig.readMember (state : List String × GridConfig Float32) (name : String) :
    Reader (LayoutError Float32) (List String × GridConfig Float32) :=
  if name = "columns" then
    readOnce name readUInt16 (fun c columns => { c with columns }) state
  else if name = "gap" then readOnce name readFloat32 (fun c gap => { c with gap }) state
  else if name = "breakpoints" then
    readOnce name Breakpoints.read (fun c breakpoints => { c with breakpoints }) state
  else skipValue state

def GridConfig.fields : List String := ["columns", "gap", "breakpoints"]

def GridConfig.ofText (text : String) : Except ConfigError (GridConfig Float32) :=
  ((readRecord GridConfig.fields GridConfig.readMember ([], .standard)).map Prod.snd).run text

def Spans.ofText (text : String) : Except ConfigError Spans := (readTable readUInt16).run text

end ResponsiveLayout

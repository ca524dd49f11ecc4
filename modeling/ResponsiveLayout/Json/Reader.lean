import ResponsiveLayout.Json.Scan

/-!
Reading values off a list of tokens. A reader stops at the first fault in the order of the text;
faults that a value of the domain has show up where the text of that value ends.
-/

namespace ResponsiveLayout.Json

/-- Why a text is refused: it is not what the reader looks for, or it says something that the
domain refuses for a reason of its own. -/
inductive ReadError (ε : Type) where
  | malformed
  | refused (e : ε)
deriving DecidableEq

abbrev Reader (ε β : Type) := List Token → Except (ReadError ε) (β × List Token)

variable {ε β σ : Type}

def Reader.run (r : Reader ε β) (text : String) : Except (ReadError ε) β :=
  match r (scan text.toList) with
  | .error e => .error e
  | .ok (b, []) => .ok b
  | .ok (_, _ :: _) => .error .malformed

def Reader.map {γ : Type} (f : β → γ) (r : Reader ε β) : Reader ε γ := fun ts =>
  match r ts with
  | .error e => .error e
  | .ok (b, rest) => .ok (f b, rest)

def Reader.check {γ : Type} (f : β → Except ε γ) (r : Reader ε β) : Reader ε γ := fun ts =>
  match r ts with
  | .error e => .error e
  | .ok (b, rest) =>
    match f b with
    | .error e => .error (.refused e)
    | .ok c => .ok (c, rest)

def readFloat32 : Reader ε Float32
  | .number n :: ts =>
    match n.toFloat32? with
    | some x => .ok (x, ts)
    | none => .error .malformed
  | _ => .error .malformed

def readUInt16 : Reader ε UInt16
  | .number n :: ts =>
    match n.toUInt16? with
    | some k => .ok (k, ts)
    | none => .error .malformed
  | _ => .error .malformed

/-- One of some values by its written name: the name as a string, or an object with the name as
its only key and the value null. -/
def readName (values : List β) (name : β → String) : Reader ε β
  | .text pieces :: ts => pick pieces ts
  | .openBrace :: .text pieces :: .colon :: .null :: .closeBrace :: ts => pick pieces ts
  | _ => .error .malformed
where
  pick (pieces : List Piece) (ts : List Token) : Except (ReadError ε) (β × List Token) :=
    match (decode? pieces).bind fun s => values.find? fun b => name b == s with
    | some b => .ok (b, ts)
    | none => .error .malformed

/-- Read the members of an object up to its closing brace, each into the state so far. -/
def readMembers (member : σ → String → Reader ε σ) (acc : σ) : Reader ε σ
  | .text pieces :: .colon :: ts =>
    match decode? pieces with
    | none => .error .malformed
    | some key =>
      match member acc key ts with
      | .error e => .error e
      | .ok (acc, .closeBrace :: rest) => .ok (acc, rest)
      | .ok (acc, .comma :: rest) =>
        -- a reader takes tokens and never gives any back
        if rest.length ≤ ts.length then readMembers member acc rest else .error .malformed
      | .ok _ => .error .malformed
  | _ => .error .malformed
termination_by ts => ts.length

def readObject (member : σ → String → Reader ε σ) (acc : σ) : Reader ε σ
  | .openBrace :: .closeBrace :: ts => .ok (acc, ts)
  | .openBrace :: ts => readMembers member acc ts
  | _ => .error .malformed

/-- Read what stands behind a value of an array up to its closing bracket: the values of the fields
to come, in their order, each into the state so far. The array may end before the last field and
holds nothing behind it. -/
def readFields (member : σ → String → Reader ε σ) (acc : σ) : List String → Reader ε σ
  | _, .closeBracket :: ts => .ok (acc, ts)
  | field :: fields, .comma :: ts =>
    match member acc field ts with
    | .error e => .error e
    | .ok (acc, rest) => readFields member acc fields rest
  | _, _ => .error .malformed

/-- Read a record: an object, each member into the state so far, or an array of the values of its
leading fields. -/
def readRecord (fields : List String) (member : σ → String → Reader ε σ) (acc : σ) : Reader ε σ
  | .openBracket :: .closeBracket :: ts => .ok (acc, ts)
  -- the first value is read like one behind a comma
  | .openBracket :: ts => readFields member acc fields (.comma :: ts)
  | ts => readObject member acc ts

inductive Enclosure where
  | array
  | object
deriving DecidableEq

/-- What has to come next in a value that is passed over: a value, the first element or the end
of an array, the first member or the end of an object, a member, the colon behind its name, or
what stands behind a value. -/
inductive Awaited where
  | value
  | firstElement
  | firstMember
  | member
  | colon
  | separator
deriving DecidableEq

/-- The enclosures, the innermost first, and what is awaited in them after one more token. -/
def advance (stack : List Enclosure) : Awaited → Token → Option (List Enclosure × Awaited)
  | .value, t | .firstElement, t =>
    match t with
    | .openBracket => some (.array :: stack, .firstElement)
    | .openBrace => some (.object :: stack, .firstMember)
    | .text _ | .number _ | .truth _ | .null => some (stack, .separator)
    | _ => none
  | .firstMember, .text _ | .member, .text _ => some (stack, .colon)
  | .colon, .colon => some (stack, .value)
  | .separator, .comma =>
    match stack with
    | .array :: _ => some (stack, .value)
    | .object :: _ => some (stack, .member)
    | [] => none
  | _, _ => none

/-- The enclosures without the innermost one, if a token closes that here. -/
def close? : List Enclosure → Awaited → Token → Option (List Enclosure)
  | .array :: stack, .firstElement, .closeBracket => some stack
  | .array :: stack, .separator, .closeBracket => some stack
  | .object :: stack, .firstMember, .closeBrace => some stack
  | .object :: stack, .separator, .closeBrace => some stack
  | _, _, _ => none

def passOver (stack : List Enclosure) (a : Awaited) : List Token → Except (ReadError ε) (List Token)
  | [] => if stack = [] ∧ a = .separator then .ok [] else .error .malformed
  | t :: ts =>
    if stack = [] ∧ a = .separator then .ok (t :: ts)
    else match close? stack a t with
      | some stack => passOver stack .separator ts
      | none =>
        match advance stack a t with
        | some (stack, a) => passOver stack a ts
        | none => .error .malformed

def skipValue (b : β) : Reader ε β := fun ts =>
  match passOver [] .value ts with
  | .error e => .error e
  | .ok rest => .ok (b, rest)

end ResponsiveLayout.Json

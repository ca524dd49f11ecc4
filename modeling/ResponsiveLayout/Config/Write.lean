import ResponsiveLayout.Config.Document

/-!
Documents written as JSON text, without blanks. How a length is written is left open: it is the
business of whoever prints the numbers.
-/

namespace ResponsiveLayout

namespace Json

def hexChar (n : Nat) : Char :=
  if n < 10 then Char.ofNat ('0'.toNat + n) else Char.ofNat ('a'.toNat + (n - 10))

/-- A character as it stands in a string. Quotes, backslashes and control characters are escaped,
those that have no letter of their own by their number. -/
def escaped (c : Char) : List Char :=
  if c = '"' then ['\\', '"']
  else if c = '\\' then ['\\', '\\']
  else if c = '\x08' then ['\\', 'b']
  else if c = '\t' then ['\\', 't']
  else if c = '\n' then ['\\', 'n']
  else if c = '\x0c' then ['\\', 'f']
  else if c = '\r' then ['\\', 'r']
  else if c.toNat < 0x20 then
    ['\\', 'u', '0', '0', hexChar (c.toNat / 16), hexChar (c.toNat % 16)]
  else [c]

def quoted (s : String) : List Char := '"' :: (s.toList.flatMap escaped ++ ['"'])

end Json

namespace Document

open Json

variable (number : Float32 → String)

mutual

def chars : Document → List Char
  | null => ['n', 'u', 'l', 'l']
  | length x => (number x).toList
  | count n => Nat.toDigits 10 n.toNat
  | name s => quoted s
  | object members => '{' :: memberChars members

def memberChars : List (String × Document) → List Char
  | [] => ['}']
  | [(key, d)] => quoted key ++ ':' :: (chars d ++ ['}'])
  | (key, d) :: members => quoted key ++ ':' :: (chars d ++ ',' :: memberChars members)

end

def text (d : Document) : String := String.ofList (d.chars number)

end Document

end ResponsiveLayout

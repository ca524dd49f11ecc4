import ResponsiveLayout.Json.Numeral

/-!
The tokens of JSON text, and the text that a string token stands for.
-/

namespace ResponsiveLayout.Json

/-- What stands in a string: a character, or a UTF-16 unit written by its number. -/
inductive Piece where
  | char (c : Char)
  | unit (n : Nat)
deriving DecidableEq

/-- A token. The token `bad` stands where a text has none. -/
inductive Token where
  | openBrace
  | closeBrace
  | openBracket
  | closeBracket
  | colon
  | comma
  | text (pieces : List Piece)
  | number (n : Numeral)
  | truth (b : Bool)
  | null
  | bad
deriving DecidableEq

/-- The characters of a string, two UTF-16 units that belong together made one. None if a unit
stands alone that has to have a partner. -/
def characters? : List Piece → Option (List Char)
  | [] => some []
  | .char c :: ps => (characters? ps).map (c :: ·)
  | .unit n :: ps =>
    if n < 0xd800 ∨ 0xe000 ≤ n then (characters? ps).map (Char.ofNat n :: ·)
    else if 0xdc00 ≤ n then none
    else match ps with
      | .unit m :: ps =>
        if 0xdc00 ≤ m ∧ m < 0xe000 then
          (characters? ps).map (Char.ofNat (0x10000 + (n - 0xd800) * 0x400 + (m - 0xdc00)) :: ·)
        else none
      | _ => none

def decode? (pieces : List Piece) : Option String := (characters? pieces).map String.ofList

end ResponsiveLayout.Json

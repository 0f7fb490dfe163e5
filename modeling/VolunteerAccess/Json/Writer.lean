import VolunteerAccess.Decimal.Layout
import VolunteerAccess.Json.Basic

/-!
# Writing JSON

- `Json.compact`: the text of a value without blanks.
- `Json.pretty`: the text with one member or item a line, indented by two
  spaces a level; empty arrays and objects stay closed.
-/

namespace VolunteerAccess.Json

/-- Numbers are written positionally from `10 ^ -5` up to sixteen digits before the
point, and a whole one keeps the fraction `.0`. Of two equally near decimals the one with an
even last digit is written. -/
def numberStyle : DecimalStyle :=
  { positional := some (-5, 16), wholeFraction := true, tie := .even }

/-- The text of a number; what is not finite has no text of its own. -/
def Number.write : Number → String
  | .integer n => toString n
  | .real x => if x.isNaN || x.isInfinite then "null" else x.write numberStyle

/-- The lower-case hexadecimal digit of a number below sixteen. -/
private def hexDigit (n : Nat) : Char := Char.ofNat (if n < 10 then 48 + n else 87 + n)

/-- A character inside quotes: quote, backslash and control characters are escaped. -/
def escape (c : Char) : List Char :=
  match c with
  | '"' => ['\\', '"']
  | '\\' => ['\\', '\\']
  | '\n' => ['\\', 'n']
  | '\r' => ['\\', 'r']
  | '\t' => ['\\', 't']
  | '\x08' => ['\\', 'b']
  | '\x0c' => ['\\', 'f']
  | c =>
    if c.toNat < 0x20 then
      ['\\', 'u', '0', '0', hexDigit (c.toNat / 16), hexDigit (c.toNat % 16)]
    else [c]

/-- A text in quotes. -/
def quote (s : String) : String := String.ofList ('"' :: s.toList.flatMap escape ++ ['"'])

mutual

/-- The text of a value without blanks. -/
def compact : Json → String
  | .null => "null"
  | .bool b => if b then "true" else "false"
  | .number n => n.write
  | .text s => quote s
  | .array items => "[" ++ ",".intercalate (compactItems items) ++ "]"
  | .object members => "\x7b" ++ ",".intercalate (compactMembers members) ++ "\x7d"

def compactItems : List Json → List String
  | [] => []
  | v :: vs => compact v :: compactItems vs

def compactMembers : List (String × Json) → List String
  | [] => []
  | (k, v) :: ms => (quote k ++ ":" ++ compact v) :: compactMembers ms

end

/-- Lines between brackets, each one level deeper than the brackets. -/
private def block (opening closing : String) (level : Nat) (lines : List String) : String :=
  if lines.isEmpty then opening ++ closing
  else
    let margin := "\n" ++ String.ofList (List.replicate (2 * level) ' ')
    opening ++ ",".intercalate (lines.map (margin ++ "  " ++ ·)) ++ margin ++ closing

mutual

/-- The text of a value that starts `level` levels deep. -/
def prettyAt (level : Nat) : Json → String
  | .array items => block "[" "]" level (prettyItems (level + 1) items)
  | .object members => block "\x7b" "\x7d" level (prettyMembers (level + 1) members)
  | .null => "null"
  | .bool b => if b then "true" else "false"
  | .number n => n.write
  | .text s => quote s

def prettyItems (level : Nat) : List Json → List String
  | [] => []
  | v :: vs => prettyAt level v :: prettyItems level vs

def prettyMembers (level : Nat) : List (String × Json) → List String
  | [] => []
  | (k, v) :: ms => (quote k ++ ": " ++ prettyAt level v) :: prettyMembers level ms

end

/-- The indented text of a value. -/
def pretty (v : Json) : String := prettyAt 0 v

end VolunteerAccess.Json

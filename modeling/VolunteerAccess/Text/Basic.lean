/-!
# Plain text

What several readers need to know of the characters of a text.

- `Text.dropByteOrderMark`: the text without its mark U+FEFF, which tells how it
  was encoded and is no part of what it says. A second one stays.
- `Text.isWhite`: membership in the Unicode property `White_Space`, twenty-five
  code points.
- `Text.isBlank`: text of white space only, the empty text included. A message
  body, a log level or a path of this kind counts as missing.
- `Text.lowerAscii`: the text with the upper-case letters of ASCII made lower case.
- `Text.digitValue?`: the value of a digit in a base.
- `Text.digits`, `Text.digitsValue`: the decimal digits at the front of a text
  and the number that they write.
-/

namespace VolunteerAccess.Text

/-- A text without the mark of the byte order at its start. -/
def dropByteOrderMark (s : String) : String :=
  match s.toList with
  | '\ufeff' :: cs => String.ofList cs
  | _ => s

/-! ## Blank text -/

/-- The property `White_Space`. -/
def isWhite (c : Char) : Bool :=
  let n := c.toNat
  (9 ≤ n && n ≤ 13) || n == 0x20 || n == 0x85 || n == 0xA0 || n == 0x1680 ||
    (0x2000 ≤ n && n ≤ 0x200A) || n == 0x2028 || n == 0x2029 || n == 0x202F ||
    n == 0x205F || n == 0x3000

/-- Whether nothing is left of the text once white space is trimmed. -/
def isBlank (s : String) : Bool := s.toList.all isWhite

/-- Blankness is decided character by character. -/
theorem isBlank_eq_true_iff {s : String} :
    isBlank s = true ↔ ∀ c ∈ s.toList, isWhite c = true := by
  simp [isBlank]

/-- The upper-case ASCII letters made lower case, all else kept. -/
def lowerAscii (s : String) : String := s.map Char.toLower

/-! ## Digits -/

/-- The value of a digit in the given base, at most sixteen. -/
def digitValue? (base : Nat) (c : Char) : Option Nat :=
  let n := c.toNat
  let d :=
    if 48 ≤ n && n ≤ 57 then n - 48
    else if 97 ≤ n && n ≤ 102 then n - 87
    else if 65 ≤ n && n ≤ 70 then n - 55
    else 16
  if d < base then some d else none

/-- The decimal digits at the front, and the rest. -/
def digits (cs : List Char) : List Nat × List Char :=
  (cs.takeWhile Char.isDigit |>.map (fun c => c.toNat - 48), cs.dropWhile Char.isDigit)

/-- The number that a list of decimal digits writes. -/
def digitsValue (ds : List Nat) : Nat := ds.foldl (fun n d => n * 10 + d) 0

end VolunteerAccess.Text

import VolunteerAccess.Json.Basic
import VolunteerAccess.Text.Basic

/-!
# Reading JSON

A text is read in two steps, because a typed document may skip members that it
does not know, and what is skipped is checked for form alone.

- `Json.Tree`: the tree of a text, with numbers as they are written, members in
  the order of the text and a mark where an escape names no character.
- `Json.Tree.ofText?`: reads a text; `none` when it has not the form of JSON.
- `Json.Tree.toJson?`: the value of a tree; `none` when it nests too deeply, or
  holds a number too large or an escape that names no character.
- `Json.Literal.value?`: the number of a literal. As many leading digits as fit
  64 bits are kept, the rest move the power of ten, and one multiplication or
  division by that power gives the number.
-/

namespace VolunteerAccess.Json

open Text (digitValue? digits digitsValue)

/-! ## Numbers -/

/-- A number as it is written. -/
structure Literal where
  negative : Bool
  /-- The digits before the point. -/
  whole : List Nat
  /-- The digits after the point. -/
  fraction : List Nat
  /-- The power of ten after an `e`. -/
  exponent : Option Int
deriving Repr

/-- The digits taken so far: a 64-bit significand and the power of ten it is scaled by. -/
structure Scaled where
  significand : Nat
  shift : Int
  /-- Whether a digit has been left out. -/
  full : Bool

namespace Scaled

/-- Take a digit if the significand stays within 64 bits. -/
def take? (s : Scaled) (d : Nat) : Option Nat :=
  if !s.full && s.significand * 10 + d < Nat.pow 2 64 then some (s.significand * 10 + d) else none

/-- The next digit before the point; one that is left out raises the power of ten. -/
def pushWhole (s : Scaled) (d : Nat) : Scaled :=
  match s.take? d with
  | some n => { s with significand := n }
  | none => { s with shift := s.shift + 1, full := true }

/-- The next digit after the point; one that is left out is forgotten. -/
def pushFraction (s : Scaled) (d : Nat) : Scaled :=
  match s.take? d with
  | some n => { s with significand := n, shift := s.shift - 1 }
  | none => { s with full := true }

/-- The floating-point number `significand · 10 ^ e`, unless it is too large. -/
def toReal? (significand : Nat) (e : Int) : Option Binary64 :=
  let x := Binary64.ofNat significand
  if significand = 0 then some x
  else if 308 < e then none
  else if 0 ≤ e then
    let y := x.mul (Binary64.powerOfTen e.toNat)
    if y.isInfinite then none else some y
  else if -308 ≤ e then some (x.div (Binary64.powerOfTen (-e).toNat))
  else if -616 ≤ e then
    some ((x.div (Binary64.powerOfTen 308)).div (Binary64.powerOfTen (-e - 308).toNat))
  else some (Binary64.ofNat 0)

end Scaled

/-- The number of a literal: whole when it has neither fraction nor exponent and fits
64 bits. A negative zero is not whole. -/
def Literal.value? (l : Literal) : Option Number :=
  let w := l.whole.foldl Scaled.pushWhole ⟨0, 0, false⟩
  let real (s : Scaled) (e : Int) : Option Number :=
    (Scaled.toReal? s.significand (s.shift + e)).map
      (fun x => .real (if l.negative then x.neg else x))
  if l.fraction.isEmpty && l.exponent.isNone && !w.full then
    if !l.negative then some (.integer w.significand)
    else if 0 < w.significand && w.significand ≤ Nat.pow 2 63 then some (.integer (-w.significand))
    else real w 0
  else
    let f := l.fraction.foldl Scaled.pushFraction { w with full := false }
    real f (l.exponent.getD 0)

/-! ## Trees -/

/-- The tree of a JSON text. -/
inductive Tree where
  | null
  | bool (value : Bool)
  | number (literal : Literal)
  /-- A text; `none` when an escape in it names no character. -/
  | text (value : Option String)
  | array (items : List Tree)
  | object (members : List (Option String × Tree))
deriving Inhabited

/-- The blanks between tokens: space, tab, line feed and carriage return. -/
def isBlank (c : Char) : Bool := c == ' ' || c == '\t' || c == '\n' || c == '\r'

def skipBlank (cs : List Char) : List Char := cs.dropWhile isBlank

/-- The digits before the point; a leading zero stands alone. -/
def readWhole? (cs : List Char) : Option (List Nat × List Char) :=
  match digits cs with
  | ([], _) => none
  | (0 :: _ :: _, _) => none
  | r => some r

/-- A point and digits, if a point follows. -/
def readFraction? : List Char → Option (List Nat × List Char)
  | '.' :: cs =>
    match digits cs with
    | ([], _) => none
    | r => some r
  | cs => some ([], cs)

/-- The digits of an exponent after its sign. -/
def readPower? (negative : Bool) (cs : List Char) : Option (Option Int × List Char) :=
  match digits cs with
  | ([], _) => none
  | (ds, rest) =>
    let n : Int := digitsValue ds
    some (some (if negative then -n else n), rest)

/-- An exponent, if an `e` follows. -/
def readExponent? : List Char → Option (Option Int × List Char)
  | c :: cs =>
    if c == 'e' || c == 'E' then
      match cs with
      | '+' :: cs => readPower? false cs
      | '-' :: cs => readPower? true cs
      | cs => readPower? false cs
    else some (none, c :: cs)
  | [] => some (none, [])

/-- A number. -/
def readLiteral? (cs : List Char) : Option (Literal × List Char) := do
  let (negative, cs) := match cs with
    | '-' :: r => (true, r)
    | r => (false, r)
  let (whole, cs) ← readWhole? cs
  let (fraction, cs) ← readFraction? cs
  let (exponent, cs) ← readExponent? cs
  return ({ negative, whole, fraction, exponent }, cs)

/-- The number of four hexadecimal digits. -/
def hexWord? (a b c d : Char) : Option Nat := do
  let a ← digitValue? 16 a
  let b ← digitValue? 16 b
  let c ← digitValue? 16 c
  let d ← digitValue? 16 d
  return ((a * 16 + b) * 16 + c) * 16 + d

/-- The character of a one-letter escape. -/
def escaped? : Char → Option Char
  | '"' => some '"'
  | '\\' => some '\\'
  | '/' => some '/'
  | 'b' => some '\x08'
  | 'f' => some '\x0c'
  | 'n' => some '\n'
  | 'r' => some '\r'
  | 't' => some '\t'
  | _ => none

/-- A step of a quoted text: a character, or a 16-bit word given by its number. -/
inductive Unit16 where
  | char (value : Char)
  | word (value : Nat)

/-- The steps up to the closing quote, and the rest after it. -/
def readUnits? : List Char → Option (List Unit16 × List Char)
  | [] => none
  | '"' :: rest => some ([], rest)
  | '\\' :: 'u' :: a :: b :: c :: d :: rest => do
    let n ← hexWord? a b c d
    let (us, rest) ← readUnits? rest
    return (.word n :: us, rest)
  | '\\' :: c :: rest => do
    let e ← escaped? c
    let (us, rest) ← readUnits? rest
    return (.char e :: us, rest)
  | c :: rest =>
    if c.toNat < 0x20 then none
    else (readUnits? rest).map (fun r => (.char c :: r.1, r.2))

/-- Whether a word is the first half of a surrogate pair. -/
def isHighSurrogate (n : Nat) : Bool := 0xD800 ≤ n && n < 0xDC00

/-- Whether a word is the second half of a surrogate pair. -/
def isLowSurrogate (n : Nat) : Bool := 0xDC00 ≤ n && n < 0xE000

/-- The characters of the steps: two words that form a surrogate pair name one
character, and a surrogate outside a pair names none. -/
def charsOfUnits? : List Unit16 → Option (List Char)
  | [] => some []
  | .char c :: us => (charsOfUnits? us).map (c :: ·)
  | .word n :: us =>
    if isLowSurrogate n then none
    else if isHighSurrogate n then
      match us with
      | .word m :: us =>
        if isLowSurrogate m then
          (charsOfUnits? us).map
            (Char.ofNat (0x10000 + (n - 0xD800) * 0x400 + (m - 0xDC00)) :: ·)
        else none
      | _ => none
    else (charsOfUnits? us).map (Char.ofNat n :: ·)

/-- The text up to the closing quote, and the rest after it. -/
def readText? (cs : List Char) : Option (Option String × List Char) := do
  let (us, rest) ← readUnits? cs
  return ((charsOfUnits? us).map String.ofList, rest)

mutual

/-- A value at the front of a text without leading blanks, and the rest. -/
def readValue? : Nat → List Char → Option (Tree × List Char)
  | 0, _ => none
  | _ + 1, 'n' :: 'u' :: 'l' :: 'l' :: rest => some (.null, rest)
  | _ + 1, 't' :: 'r' :: 'u' :: 'e' :: rest => some (.bool true, rest)
  | _ + 1, 'f' :: 'a' :: 'l' :: 's' :: 'e' :: rest => some (.bool false, rest)
  | _ + 1, '"' :: rest => (readText? rest).map (fun r => (.text r.1, r.2))
  | fuel + 1, '[' :: rest =>
    match skipBlank rest with
    | ']' :: rest => some (.array [], rest)
    | rest => (readItems? fuel rest).map (fun r => (.array r.1, r.2))
  | fuel + 1, '{' :: rest =>
    match skipBlank rest with
    | '}' :: rest => some (.object [], rest)
    | rest => (readMembers? fuel rest).map (fun r => (.object r.1, r.2))
  | _ + 1, cs => (readLiteral? cs).map (fun r => (.number r.1, r.2))

/-- One or more values up to the closing bracket. -/
def readItems? : Nat → List Char → Option (List Tree × List Char)
  | 0, _ => none
  | fuel + 1, cs => do
    let (item, rest) ← readValue? fuel cs
    match skipBlank rest with
    | ',' :: rest =>
      let (items, rest) ← readItems? fuel (skipBlank rest)
      return (item :: items, rest)
    | ']' :: rest => return ([item], rest)
    | _ => none

/-- One or more members up to the closing brace. -/
def readMembers? : Nat → List Char → Option (List (Option String × Tree) × List Char)
  | 0, _ => none
  | fuel + 1, '"' :: cs => do
    let (name, rest) ← readText? cs
    match skipBlank rest with
    | ':' :: rest =>
      let (value, rest) ← readValue? fuel (skipBlank rest)
      match skipBlank rest with
      | ',' :: rest =>
        let (members, rest) ← readMembers? fuel (skipBlank rest)
        return ((name, value) :: members, rest)
      | '}' :: rest => return ([(name, value)], rest)
      | _ => none
    | _ => none
  | _ + 1, _ => none

end

/-- The tree of a text that holds one value and blanks. Between two steps of the reader
at least one of every two consumes a character. -/
def Tree.ofText? (s : String) : Option Tree := do
  let cs := s.toList
  let (tree, rest) ← readValue? (2 * cs.length + 2) (skipBlank cs)
  if (skipBlank rest).isEmpty then some tree else none

/-! ## Values of trees -/

mutual

/-- The value of a tree that nests at most `depth` deep. -/
def Tree.toJson? (depth : Nat) : Tree → Option Json
  | .null => some .null
  | .bool b => some (.bool b)
  | .number l => l.value?.map .number
  | .text s => s.map .text
  | .array items =>
    match depth with
    | 0 => none
    | depth + 1 => (Tree.toItems? depth items).map .array
  | .object members =>
    match depth with
    | 0 => none
    | depth + 1 => (Tree.toMembers? depth members).map mkObject

def Tree.toItems? (depth : Nat) : List Tree → Option (List Json)
  | [] => some []
  | t :: ts => do
    let v ← Tree.toJson? depth t
    let vs ← Tree.toItems? depth ts
    return v :: vs

def Tree.toMembers? (depth : Nat) : List (Option String × Tree) → Option (List (String × Json))
  | [] => some []
  | (name, t) :: ts => do
    let k ← name
    let v ← Tree.toJson? depth t
    let vs ← Tree.toMembers? depth ts
    return (k, v) :: vs

end

/-- How deep arrays and objects may nest in a value. -/
def maxDepth : Nat := 127

/-- The value of a JSON text; of two members of one name the later counts. -/
def parse? (s : String) : Option Json := do
  let t ← Tree.ofText? s
  t.toJson? maxDepth

end VolunteerAccess.Json

import VolunteerAccess.Toml.Basic

/-!
# The small parts of a TOML document

Each reader takes the characters that are left and returns what it has read with
the rest, or nothing when the form is wrong.

- `Toml.skipTrivia?`, `Toml.endOfLine?`: blanks, line ends and comments.
- `Toml.readQuoted?`: the four kinds of quoted text.
- `Toml.readPath?`: a key of one or more dotted parts.
- `Toml.scalar?`: truth values, numbers and moments.
-/

namespace VolunteerAccess.Toml

/-! ## Blanks and comments -/

def isBlank (c : Char) : Bool := c == ' ' || c == '\t'

def skipBlank (cs : List Char) : List Char := cs.dropWhile isBlank

/-- Control characters other than the tab may stand nowhere but at line ends. -/
def isControl (c : Char) : Bool := (c.toNat < 0x20 && c != '\t') || c.toNat == 0x7F

/-- Skip blanks, line ends and comments; `comment` tells whether one is open. -/
def skipTrivia? (comment : Bool) : List Char → Option (List Char)
  | [] => some []
  | '\n' :: rest => skipTrivia? false rest
  | '\r' :: '\n' :: rest => skipTrivia? false rest
  | c :: rest =>
    if comment then (if isControl c then none else skipTrivia? true rest)
    else if c == '#' then skipTrivia? true rest
    else if isBlank c then skipTrivia? false rest
    else some (c :: rest)

/-- Skip blanks and a comment up to the end of the line, and the line end. -/
def endOfLine? (comment : Bool) : List Char → Option (List Char)
  | [] => some []
  | '\n' :: rest => some rest
  | '\r' :: '\n' :: rest => some rest
  | c :: rest =>
    if comment then (if isControl c then none else endOfLine? true rest)
    else if c == '#' then endOfLine? true rest
    else if isBlank c then endOfLine? false rest
    else none

/-! ## Quoted text -/

/-- How a text is quoted. -/
structure Quotation where
  quote : Char
  /-- Whether a backslash starts an escape. -/
  escapes : Bool
  /-- Whether the text may run over several lines. -/
  multiline : Bool

/-- The character of a one-letter escape. -/
def escaped? : Char → Option Char
  | '"' => some '"'
  | '\\' => some '\\'
  | 'b' => some '\x08'
  | 't' => some '\t'
  | 'n' => some '\n'
  | 'f' => some '\x0c'
  | 'r' => some '\r'
  | 'e' => some '\x1b'
  | _ => none

/-- How many hexadecimal digits follow the letter of an escape by number. -/
def escapeWidth? : Char → Option Nat
  | 'x' => some 2
  | 'u' => some 4
  | 'U' => some 8
  | _ => none

/-- The number of hexadecimal digits. -/
def hexValue? (ds : List Char) : Option Nat :=
  ds.foldlM (fun n c => (Text.digitValue? 16 c).map (n * 16 + ·)) 0

/-- The character of a number; surrogates and numbers beyond the last one have none. -/
def charOfNat? (n : Nat) : Option Char :=
  if n < 0xD800 ∨ (0xE000 ≤ n ∧ n < 0x110000) then some (Char.ofNat n) else none

/-- Skip blanks and line ends. -/
def skipLines : List Char → List Char
  | '\r' :: '\n' :: rest => skipLines rest
  | c :: rest => if c == '\n' || isBlank c then skipLines rest else c :: rest
  | [] => []

/-- The characters after a backslash: an escape, or the end of a line, which is skipped
with all blanks and line ends that follow. -/
def readEscape? (q : Quotation) : List Char → Option (List Char × List Char)
  | c :: rest =>
    match escaped? c, escapeWidth? c with
    | some e, _ => some ([e], rest)
    | none, some width =>
      if rest.length < width then none
      else do
        let e ← charOfNat? (← hexValue? (rest.take width))
        return ([e], rest.drop width)
    | none, none =>
      if !q.multiline then none
      else
        match skipBlank (c :: rest) with
        | '\n' :: rest => some ([], skipLines rest)
        | '\r' :: '\n' :: rest => some ([], skipLines rest)
        | _ => none
  | [] => none

/-- The end of a text of several lines: three quotes, before which up to two more belong
to the text. -/
def closing? (quote : Char) (cs : List Char) : Option (List Char × List Char) :=
  let n := (cs.takeWhile (· == quote)).length
  if n < 3 then none
  else
    let kept := min (n - 3) 2
    some (List.replicate kept quote, cs.drop (kept + 3))

/-- The characters of a text up to its closing quote, taking at most `fuel` steps. -/
def readChars? (q : Quotation) : Nat → List Char → List Char → Option (String × List Char)
  | 0, _, _ => none
  | _ + 1, _, [] => none
  | fuel + 1, acc, c :: rest =>
    let ended : Option (List Char × List Char) :=
      if c != q.quote then none
      else if q.multiline then closing? q.quote (c :: rest)
      else some ([], rest)
    match ended with
    | some (last, rest) => some (String.ofList (acc.reverse ++ last), rest)
    | none =>
      if q.escapes && c == '\\' then do
        let (es, rest) ← readEscape? q rest
        readChars? q fuel (es ++ acc) rest
      else if q.multiline && c == '\n' then readChars? q fuel (c :: acc) rest
      else if q.multiline && c == '\r' && rest.head? == some '\n' then
        readChars? q fuel (c :: acc) rest
      else if isControl c then none
      else readChars? q fuel (c :: acc) rest

/-- A line end at the very start of a text of several lines does not count. -/
def dropFirstLineEnd : List Char → List Char
  | '\n' :: rest => rest
  | '\r' :: '\n' :: rest => rest
  | cs => cs

/-- A text in the given quotes on one line. -/
def readLine? (quote : Char) (cs : List Char) : Option (String × List Char) :=
  readChars? { quote, escapes := quote == '"', multiline := false } (cs.length + 1) [] cs

/-- A text that starts with the given quote, which has been taken already. -/
def readQuoted? (quote : Char) (cs : List Char) : Option (String × List Char) :=
  if [quote, quote].isPrefixOf cs then
    let body := dropFirstLineEnd (cs.drop 2)
    readChars? { quote, escapes := quote == '"', multiline := true } (body.length + 1) [] body
  else readLine? quote cs

/-! ## Keys -/

def isKeyChar (c : Char) : Bool := c.isAlphanum || c == '_' || c == '-'

/-- One part of a key. -/
def readKey? : List Char → Option (String × List Char)
  | '"' :: rest => readLine? '"' rest
  | '\'' :: rest => readLine? '\'' rest
  | cs =>
    let name := cs.takeWhile isKeyChar
    if name.isEmpty then none else some (String.ofList name, cs.dropWhile isKeyChar)

/-- A key of parts joined by points, at most so many as the number says, without the blanks
after it. -/
def readPath? : Nat → List Char → Option (List String × List Char)
  | 0, _ => none
  | more + 1, cs => do
    let (key, rest) ← readKey? (skipBlank cs)
    match skipBlank rest with
    | '.' :: rest =>
      let (keys, rest) ← readPath? more rest
      return (key :: keys, rest)
    | rest => return ([key], rest)

/-! ## Numbers -/

/-- Digits of a base, single underscores between which are dropped. -/
def digitsOf? (base : Nat) : List Char → Option (List Nat)
  | [] => none
  | [c] => (Text.digitValue? base c).map ([·])
  | c :: '_' :: rest => do
    let d ← Text.digitValue? base c
    return d :: (← digitsOf? base rest)
  | c :: rest => do
    let d ← Text.digitValue? base c
    return d :: (← digitsOf? base rest)

/-- The number of digits of a base. -/
def valueOf (base : Nat) (ds : List Nat) : Nat := ds.foldl (fun n d => n * base + d) 0

/-- A sign, which may be left out, and the rest. -/
def signed : List Char → Bool × List Char
  | '-' :: rest => (true, rest)
  | '+' :: rest => (false, rest)
  | cs => (false, cs)

/-- Decimal digits of which the first is not a zero unless it stands alone. -/
def wholeDigits? (cs : List Char) : Option (List Nat) := do
  match ← digitsOf? 10 cs with
  | 0 :: _ :: _ => none
  | ds => some ds

/-- A whole number with a base of its own, or a decimal one that may have a sign. Numbers
that need more than 128 bits are refused. -/
def integer? (cs : List Char) : Option Int := do
  let n : Int ← match cs with
    | '0' :: 'x' :: ds => (digitsOf? 16 ds).map (fun ds => (valueOf 16 ds : Int))
    | '0' :: 'o' :: ds => (digitsOf? 8 ds).map (fun ds => (valueOf 8 ds : Int))
    | '0' :: 'b' :: ds => (digitsOf? 2 ds).map (fun ds => (valueOf 2 ds : Int))
    | cs =>
      let (negative, cs) := signed cs
      (wholeDigits? cs).map fun ds =>
        let n : Int := valueOf 10 ds
        if negative then -n else n
  if Decimal.isWide n then some n else none

/-- The exponent of a number: a sign and digits. -/
def exponent? (cs : List Char) : Option Int := do
  let (negative, cs) := signed cs
  let n : Int := valueOf 10 (← digitsOf? 10 cs)
  return if negative then -n else n

/-- A number with a fraction, an exponent or both, or an infinity or a NaN. One that is too
large is refused. -/
def real? (cs : List Char) : Option Binary64 := do
  let (negative, cs) := signed cs
  if cs == ['i', 'n', 'f'] then return Binary64.infinity negative
  if cs == ['n', 'a', 'n'] then return if negative then Binary64.nan.neg else Binary64.nan
  let isE (c : Char) : Bool := c == 'e' || c == 'E'
  let mantissa := cs.takeWhile (fun c => !isE c)
  let whole ← wholeDigits? (mantissa.takeWhile (· != '.'))
  let fraction ← match mantissa.dropWhile (· != '.') with
    | [] => some []
    | _ :: ds => digitsOf? 10 ds
  let power ← match cs.dropWhile (fun c => !isE c) with
    | [] => if mantissa.contains '.' then some 0 else none
    | _ :: ds => exponent? ds
  let x := Binary64.ofDecimal negative (valueOf 10 (whole ++ fraction)) (power - fraction.length)
  if x.isInfinite then none else some x

/-! ## Moments -/

/-- A number of exactly `width` digits, and the rest. -/
def fixed? (width : Nat) (cs : List Char) : Option (Nat × List Char) :=
  let ds := cs.take width
  if ds.length = width ∧ ds.all Char.isDigit then
    some (valueOf 10 (ds.map (fun c => c.toNat - 48)), cs.drop width)
  else none

/-- A given character, and the rest. -/
def mark? (c : Char) : List Char → Option (List Char)
  | d :: rest => if c == d then some rest else none
  | [] => none

def date? (cs : List Char) : Option (Date × List Char) := do
  let (year, cs) ← fixed? 4 cs
  let (month, cs) ← fixed? 2 (← mark? '-' cs)
  let (day, cs) ← fixed? 2 (← mark? '-' cs)
  let d : Date := { year, month, day }
  if d.isValid then some (d, cs) else none

/-- The fraction of a second in nanoseconds; further digits are dropped. -/
def nanoseconds (ds : List Char) : Nat :=
  valueOf 10 (((ds ++ List.replicate 9 '0').take 9).map (fun c => c.toNat - 48))

/-- A time of day; seconds may be left out. -/
def time? (cs : List Char) : Option (Time × List Char) := do
  let (hour, cs) ← fixed? 2 cs
  let (minute, cs) ← fixed? 2 (← mark? ':' cs)
  let (second, cs) ← match cs with
    | ':' :: cs => (fixed? 2 cs).map (fun r => (some r.1, r.2))
    | cs => some (none, cs)
  let (nanosecond, cs) ← match second, cs with
    | some _, '.' :: cs =>
      let ds := cs.takeWhile Char.isDigit
      if ds.isEmpty then none else some (some (nanoseconds ds), cs.dropWhile Char.isDigit)
    | _, cs => some (none, cs)
  let t : Time := { hour, minute, second, nanosecond }
  if t.isValid then some (t, cs) else none

/-- An offset, if there is one. -/
def offset? : List Char → Option (Option Offset × List Char)
  | [] => some (none, [])
  | c :: cs =>
    if c == 'Z' || c == 'z' then some (some .universal, cs)
    else if c == '+' || c == '-' then do
      let (hours, cs) ← fixed? 2 cs
      let (minutes, cs) ← fixed? 2 (← mark? ':' cs)
      let m : Int := hours * 60 + minutes
      if hours ≤ 23 ∧ minutes ≤ 59 then some (some (.minutes (if c == '-' then -m else m)), cs)
      else none
    else none

/-- A moment: a date, a time, or a date and a time with or without an offset. -/
def moment? (cs : List Char) : Option Moment :=
  match date? cs with
  | some (d, []) => some { date := some d, time := none, offset := none }
  | some (d, c :: cs) =>
    if c == 'T' || c == 't' || c == ' ' then do
      let (t, cs) ← time? cs
      let (o, cs) ← offset? cs
      if cs.isEmpty then some { date := some d, time := some t, offset := o } else none
    else none
  | none => do
    let (t, cs) ← time? cs
    if cs.isEmpty then some { date := none, time := some t, offset := none } else none

/-! ## Scalars -/

def isScalarChar (c : Char) : Bool :=
  c.isAlphanum || c == '_' || c == '-' || c == '+' || c == '.' || c == ':'

/-- The characters of a scalar, and the rest. A blank between a date and a time belongs
to it. -/
def scalarChars (cs : List Char) : List Char × List Char :=
  let front := cs.takeWhile isScalarChar
  let rest := cs.dropWhile isScalarChar
  match (date? front), rest with
  | some (_, []), ' ' :: after =>
    if (after.head?.any Char.isDigit) then
      (front ++ ' ' :: after.takeWhile isScalarChar, after.dropWhile isScalarChar)
    else (front, rest)
  | _, _ => (front, rest)

/-- The value of a scalar. -/
def scalar? (cs : List Char) : Option Value :=
  if cs == "true".toList then some (.bool true)
  else if cs == "false".toList then some (.bool false)
  else
    match integer? cs with
    | some n => some (.integer n)
    | none =>
      match real? cs with
      | some x => some (.real x)
      | none => (moment? cs).map .moment

end VolunteerAccess.Toml

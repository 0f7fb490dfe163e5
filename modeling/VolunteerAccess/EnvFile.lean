import VolunteerAccess.Environment
import VolunteerAccess.Text.Alphanumeric
import VolunteerAccess.Text.Basic

/-!
# Files of variables

A file named `.env` gives variables to the program that starts beside it, one
assignment `NAME=value` a line. A quoted value may run over several lines, a
comment starts with `#`, and `$NAME` or `${NAME}` stands for a variable.

- `EnvFile.lines`: the lines of a text, quoted line ends not counting.
- `EnvFile.readAssignment?`: the name and the value that a line assigns.
- `EnvFile.load?`: the variables of an environment with those of a text added.
  A variable that is set already keeps its value, and the first line that is
  no assignment ends the reading. A value that no variable can have has no
  environment.
-/

namespace VolunteerAccess.EnvFile

/-! ## Lines -/

/-- What has been read of a line. -/
inductive LineState where
  /-- A line that may end here. -/
  | complete
  /-- A blank, after which a comment may start. -/
  | blank
  | escape
  | strong
  | strongEscape
  | weak
  | weakEscape
deriving DecidableEq, Repr, Inhabited

namespace LineState

/-- A character outside quotes. -/
def start : Char → LineState
  | '\\' => .escape
  | '"' => .weak
  | '\'' => .strong
  | _ => .complete

/-- The state after one more character; a comment has no state. -/
def next? (c : Char) : LineState → Option LineState
  | .blank => if c == '#' then none else some (start c)
  | .complete =>
    some (if Text.isWhite c && c != '\n' && c != '\r' then .blank else start c)
  | .escape => some .complete
  | .weak => some (if c == '\\' then .weakEscape else if c == '"' then .complete else .weak)
  | .weakEscape => some .weak
  | .strong => some (if c == '\\' then .strongEscape else if c == '\'' then .complete else .strong)
  | .strongEscape => some .strong

end LineState

/-- The characters before a comment, if one starts, or else the state at the end. -/
def scan (state : LineState) : List Char → List Char ⊕ LineState
  | [] => .inr state
  | c :: cs =>
    match state.next? c with
    | none => .inl []
    | some state => (scan state cs).map (c :: ·) id

/-- The lines of a text with their line ends. -/
def rawLines : List Char → List (List Char)
  | [] => []
  | '\n' :: cs => ['\n'] :: rawLines cs
  | c :: cs =>
    match rawLines cs with
    | [] => [[c]]
    | l :: ls => (c :: l) :: ls

/-- A line without its line end. -/
def dropLineEnd (cs : List Char) : List Char :=
  match cs.reverse with
  | '\n' :: '\r' :: rest => rest.reverse
  | '\n' :: rest => rest.reverse
  | _ => cs

/-- Join raw lines until a line is complete; `taken` is what has been taken of it. A text that
ends within a line gives `none` at the end, and so does one that ends in a blank. -/
def joinLines (state : LineState) (taken : List Char) :
    List (List Char) → List (Option (List Char))
  | [] => if state = .complete then [] else [none]
  | raw :: raws =>
    if ((taken ++ raw).dropWhile Text.isWhite).head? == some '#' then
      some [] :: joinLines .complete [] raws
    else
      match scan state raw with
      | .inl front => some (taken ++ front) :: joinLines .complete [] raws
      | .inr .complete => some (dropLineEnd (taken ++ raw)) :: joinLines .complete [] raws
      | .inr state => joinLines state (taken ++ raw) raws

/-- The lines of a text, `none` for one that does not end. -/
def lines (s : String) : List (Option (List Char)) := joinLines .complete [] (rawLines s.toList)

/-! ## Values -/

/-- Where in a value the reading stands. -/
inductive ValueState where
  | plain
  /-- After a backslash. -/
  | escaped
  /-- Within single quotes. -/
  | strong
  /-- Within the name of a variable, read backwards, which ends before the first character that
  is no letter or digit. -/
  | name (taken : List Char)
  /-- Within the name of a variable in braces, read backwards. -/
  | braced (taken : List Char)
  /-- After the value. -/
  | ended
deriving DecidableEq, Repr, Inhabited

/-- The value of a variable, read backwards; one that is not set is empty. -/
def valueOf (environment : Environment) (taken : List Char) : List Char :=
  ((environment.get? (String.ofList taken.reverse)).getD "").toList

/-- The value that the rest of a line writes; `weak` tells whether double quotes are open, and
`out` is what has been read, backwards. -/
def readValue? (environment : Environment) :
    ValueState → Bool → List Char → List Char → Option String
  | state, weak, out, [] =>
    match state with
    | .strong | .braced _ => none
    | .name taken =>
      if weak then none
      else some (String.ofList (out.reverse ++ valueOf environment taken))
    | .plain | .escaped | .ended => if weak then none else some (String.ofList out.reverse)
  | .ended, weak, out, c :: cs =>
    if c == ' ' || c == '\t' then readValue? environment .ended weak out cs
    else if c == '#' then some (String.ofList out.reverse)
    else none
  | .escaped, weak, out, c :: cs =>
    if ['\\', '\'', '"', '$', ' '].contains c then readValue? environment .plain weak (c :: out) cs
    else if c == 'n' then readValue? environment .plain weak ('\n' :: out) cs
    else none
  | .strong, weak, out, c :: cs =>
    if c == '\'' then readValue? environment .plain weak out cs
    else readValue? environment .strong weak (c :: out) cs
  | .name taken, weak, out, c :: cs =>
    if Text.isAlphanumeric c then readValue? environment (.name (c :: taken)) weak out cs
    else if c == '\x7b' && taken.isEmpty then readValue? environment (.braced []) weak out cs
    else
      let out := (valueOf environment taken).reverse ++ out
      if c == '$' then readValue? environment (.name []) weak out cs
      else readValue? environment .plain weak (c :: out) cs
  | .braced taken, weak, out, c :: cs =>
    if c == '\x7d' then
      readValue? environment .plain weak ((valueOf environment taken).reverse ++ out) cs
    else readValue? environment (.braced (c :: taken)) weak out cs
  | .plain, weak, out, c :: cs =>
    if c == '$' then readValue? environment (.name []) weak out cs
    else if c == '\\' then readValue? environment .escaped weak out cs
    else if weak then
      if c == '"' then readValue? environment .plain false out cs
      else readValue? environment .plain true (c :: out) cs
    else if c == '\'' then readValue? environment .strong weak out cs
    else if c == '"' then readValue? environment .plain true out cs
    else if c == ' ' || c == '\t' then readValue? environment .ended weak out cs
    else readValue? environment .plain weak (c :: out) cs

/-! ## Assignments -/

def isNameStart (c : Char) : Bool := c.isAlpha || c == '_'

def isNameChar (c : Char) : Bool := c.isAlphanum || c == '_' || c == '.'

def skipWhite (cs : List Char) : List Char := cs.dropWhile Text.isWhite

/-- A name, and the rest after white space. -/
def readName? (cs : List Char) : Option (String × List Char) :=
  if cs.head?.any isNameStart then
    some (String.ofList (cs.takeWhile isNameChar), skipWhite (cs.dropWhile isNameChar))
  else none

/-- The name that a line assigns to, and the rest after the sign of equality. The name may
follow the word `export`. -/
def readTarget? (cs : List Char) : Option (String × List Char) := do
  match ← readName? cs with
  | (name, '=' :: cs) => return (name, cs)
  | (word, cs) =>
    if word == "export" then
      match ← readName? cs with
      | (name, '=' :: cs) => return (name, cs)
      | _ => none
    else none

/-- Whether nothing but a comment is left. -/
def isOver (cs : List Char) : Bool := cs.isEmpty || cs.head? == some '#'

/-- The name and the value that a line assigns. The outer option is empty if the line is no
assignment, the inner one if it is empty or a comment. -/
def readAssignment? (environment : Environment) (line : List Char) :
    Option (Option (String × String)) := do
  let cs := skipWhite (line.reverse.dropWhile Text.isWhite).reverse
  if isOver cs then return none
  else
    let (name, cs) ← readTarget? cs
    let cs := skipWhite cs
    if isOver cs then return some (name, "")
    else return some (name, ← readValue? environment .plain false [] cs)

/-! ## Loading -/

/-- Add the assignments of some lines to the variables. -/
def loadLines? : List (Option (List Char)) → Environment → Option Environment
  | some line :: rest, environment =>
    match readAssignment? environment line with
    | none => some environment
    | some none => loadLines? rest environment
    | some (some (name, value)) =>
      if environment.contains name then loadLines? rest environment
      else if Environment.isStorable value then loadLines? rest (environment.set name value)
      else none
  | _, environment => some environment

/-- The variables with those of a text added. A mark of the byte order at its start does not
count. -/
def load? (s : String) (environment : Environment) : Option Environment :=
  loadLines? (lines (Text.dropByteOrderMark s)) environment

end VolunteerAccess.EnvFile

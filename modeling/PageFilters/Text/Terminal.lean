namespace PageFilters.Text

/-- Where a text is with respect to the control sequences of terminals. -/
inductive Control where
  /-- Outside of any. -/
  | outside
  /-- Behind the escape character. -/
  | escape
  /-- In an escape that a mark has made longer. -/
  | intermediate
  /-- In a sequence of parameters that ends at a letter or a similar mark. -/
  | sequence
  /-- In a command for the terminal, which ends at a bell or with the next escape. -/
  | command
  /-- In the parameters in front of a string for a device. -/
  | device
  /-- In a string that ends with the next escape. -/
  | string
deriving DecidableEq, Repr

/-- White space that a terminal carries out wherever it comes in an escape or a sequence. -/
def isMovement (c : Char) : Bool := c == '\t' || c == '\n' || c == '\x0c' || c == '\r'

/-- Whether a character shows where there are no control sequences. -/
def isShown (c : Char) : Bool := isMovement c || (0x20 ≤ c.toNat && c != '\x7f')

/-- Whether a byte of the character's encoding ends strings. -/
def endsString (c : Char) : Bool := (String.utf8EncodeChar c).contains 0x9c

namespace Control

/-- What the escape character and the given one start. -/
def afterEscape (c : Char) : Control :=
  if c < ' ' || '~' < c then .escape
  else if c ≤ '/' then .intermediate
  else if c = '[' then .sequence
  else if c = ']' then .command
  else if c = 'P' then .device
  else if c = 'X' || c = '^' || c = '_' then .string
  else .outside

/-- Where the text is behind a character that does not show. -/
def after (c : Char) : Control → Control
  | .outside => .outside
  | .escape => afterEscape c
  | .intermediate => if '0' ≤ c && c ≤ '~' then .outside else .intermediate
  | .sequence => if '@' ≤ c && c ≤ '~' then .outside else .sequence
  | .command => if c = '\x07' then .outside else .command
  | .device => if '@' ≤ c && c ≤ '~' then .string else .device
  | .string => if endsString c then .outside else .string

/-- Whether white space that moves the cursor is carried out here. -/
def moves : Control → Bool
  | .escape => true
  | .intermediate => true
  | .sequence => true
  | _ => false

end Control

/-- The characters of a text that show, without control sequences and control characters. Behind
white space inside of a sequence all characters show up to the next control character, which the
sequence goes on with unless one beyond ASCII has shown. -/
def shown (showing : Bool) (control : Control) : List Char → List Char
  | [] => []
  | c :: cs =>
    if c = '\x1b' then shown false .escape cs
    else if c = '\x18' || c = '\x1a' then shown false .outside cs
    else if showing || control = .outside then
      if isShown c then c :: shown true (if c.toNat < 0x80 then control else .outside) cs
      else shown false control cs
    else if control.moves && isMovement c then c :: shown true control cs
    else shown false (control.after c) cs

/-- A text as it is written where there is no terminal. -/
def withoutControls (s : String) : String := String.ofList (shown false .outside s.toList)

end PageFilters.Text

/-!
# What a terminal shows

A text may hold controls that a terminal obeys and does not show. A control is a single
character or a sequence that an escape begins; `after` says how a sequence goes on and
`isShown` what is shown in the middle of it. `shown` keeps of a text what is shown.

A blank may stand inside a sequence and is shown there. The text after it is shown too, up
to the next control, and with that control the sequence goes on.
-/
set_option autoImplicit false

namespace IndexExport.Text.Terminal

/-- What a terminal is in the middle of: plain text, an escape with or without marks after
it, a control sequence, the head of a device control string, the body of a string, or a
command to the system. -/
inductive Phase where
  | text
  | escape
  | markedEscape
  | sequence
  | deviceStart
  | deviceNumbers
  | deviceMarks
  | string
  | command
  deriving DecidableEq, Repr

def between (low high : Nat) (c : Char) : Bool :=
  low ≤ c.toNat && c.toNat ≤ high

def isCancel (c : Char) : Bool :=
  c = '\x18' || c = '\x1a'

/-- A character with the byte 9C in its encoding. It ends a string. -/
def endsString (c : Char) : Bool :=
  (String.utf8EncodeChar c).elem 0x9C

def begun (c : Char) : Phase :=
  if c = '[' then .sequence
  else if c = ']' then .command
  else if c = 'P' then .deviceStart
  else if c = 'X' || c = '^' || c = '_' then .string
  else if between 0x20 0x2F c then .markedEscape
  else if between 0x30 0x7E c then .text
  else .escape

def after (phase : Phase) (c : Char) : Phase :=
  if c = '\x1b' then .escape
  else if isCancel c then .text
  else
    match phase with
    | .text => .text
    | .escape => begun c
    | .markedEscape => if between 0x30 0x7E c then .text else .markedEscape
    | .sequence => if between 0x40 0x7E c then .text else .sequence
    | .deviceStart =>
      if between 0x20 0x2F c then .deviceMarks
      else if between 0x30 0x3F c then .deviceNumbers
      else if between 0x40 0x7E c then .string
      else .deviceStart
    | .deviceNumbers =>
      if between 0x20 0x2F c then .deviceMarks
      else if between 0x3C 0x7E c then .string
      else .deviceNumbers
    | .deviceMarks => if between 0x30 0x7E c then .string else .deviceMarks
    | .string => if endsString c then .text else .string
    | .command => if c = '\x07' then .text else .command

/-- A control that moves the place of writing and so counts as shown. -/
def isMove (c : Char) : Bool :=
  c = '\t' || c = '\n' || c = '\x0c' || c = '\r'

def isShown (phase : Phase) (c : Char) : Bool :=
  match phase with
  | .text => isMove c || between 0x20 0x7E c || 0x80 ≤ c.toNat
  | .escape | .markedEscape | .sequence => isMove c
  | _ => false

/-- What is shown from some character on. `showing` says that the character before was
shown; then the rest is plain text up to the next control. -/
def shownFrom (showing : Bool) (phase : Phase) : List Char → List Char
  | [] => []
  | c :: rest =>
    if isShown (if showing then .text else phase) c then
      c :: shownFrom true (if c.toNat < 0x80 then phase else .text) rest
    else shownFrom false (after phase c) rest

def shown (cs : List Char) : List Char :=
  shownFrom false .text cs

end IndexExport.Text.Terminal

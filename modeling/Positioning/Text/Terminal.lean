/-!
# Text without terminal control

What is written does not go to a terminal, and so no control sequence may reach what reads it.
`strip` leaves out control characters other than white space, and the sequences that an escape
character begins.

A sequence is short, or a control sequence that ends with a letter, or a string. A device control
string begins with parameters; it and a privacy message end with the terminator byte `9c`, which in
encoded text is found only within a character. A system command ends with a bell. Outside of
strings white space is kept, also in the middle of a sequence.

White space within a sequence begins a run of text that is shown as if there were no sequence, up to
the next control character. There the sequence goes on, unless a character beyond ASCII has been
shown; or else, as `strip` is told, it is forgotten.
-/

namespace Positioning.Terminal

/-- Where in a sequence a text is. -/
inductive Phase where
  | ground
  | escape
  | escapeIntermediate
  | control
  | deviceEntry
  | deviceParameter
  | deviceIntermediate
  | data
  | command
deriving DecidableEq

/-- The code point of a character lies between two others. -/
def within (low high : Nat) (c : Char) : Bool :=
  low ≤ c.toNat && c.toNat ≤ high

/-- White space that is a control character. -/
def isSpaceControl (c : Char) : Bool :=
  c = '\t' || c = '\n' || c = '\x0c' || c = '\r'

/-- The encoding of a character holds the terminator byte. -/
def holdsTerminator (c : Char) : Bool :=
  (String.singleton c).toUTF8.toList.contains 0x9c

namespace Phase

/-- The phase behind the character that follows an escape character. -/
def afterEscape (c : Char) : Phase :=
  if within 0x20 0x2f c then escapeIntermediate
  else if c = '[' then control
  else if c = ']' then command
  else if c = 'P' then deviceEntry
  else if c = 'X' || c = '^' || c = '_' then data
  else if within 0x30 0x7e c then ground
  else escape

/-- The phase behind a character at the head of a device control string. Parameters that are out of
place make the rest of it data. -/
def afterDevice (p : Phase) (c : Char) : Phase :=
  if within 0x40 0x7e c then data
  else if within 0x20 0x2f c then deviceIntermediate
  else if within 0x30 0x3b c then if p = deviceIntermediate then data else deviceParameter
  else if within 0x3c 0x3f c then if p = deviceEntry then deviceParameter else data
  else p

/-- The phase behind a character that is not shown. -/
def next (p : Phase) (c : Char) : Phase :=
  if c = '\x1b' then escape
  else if c = '\x18' || c = '\x1a' then ground
  else
    match p with
    | ground => ground
    | escape => afterEscape c
    | escapeIntermediate => if within 0x30 0x7e c then ground else escapeIntermediate
    | control => if within 0x40 0x7e c then ground else control
    | deviceEntry | deviceParameter | deviceIntermediate => afterDevice p c
    | data => if holdsTerminator c then ground else data
    | command => if c = '\x07' then ground else command

/-- Control characters act as such in a phase, and are no part of a string. -/
def obeysControls : Phase → Bool
  | ground | escape | escapeIntermediate | control => true
  | _ => false

/-- A character is shown in a phase. -/
def shows (p : Phase) (c : Char) : Bool :=
  if isSpaceControl c then p.obeysControls
  else p = ground && 32 ≤ c.toNat && c.toNat ≠ 127

/-- The phase behind a character that is shown. -/
def afterShown (resumes : Bool) (p : Phase) (c : Char) : Phase :=
  if resumes && c.toNat < 128 then p else ground

end Phase

/-- What is left of a text from a phase on. The second flag tells whether the character before was
shown. -/
def stripFrom (resumes : Bool) : Bool → Phase → List Char → List Char
  | _, _, [] => []
  | shown, p, c :: rest =>
    if (if shown then Phase.ground else p).shows c then
      c :: stripFrom resumes true (p.afterShown resumes c) rest
    else stripFrom resumes false (p.next c) rest

/-- A text without control characters and control sequences. The flag tells whether a sequence goes
on behind text that is shown in its middle. -/
def strip (resumes : Bool) (text : String) : String :=
  String.ofList (stripFrom resumes false .ground text.toList)

end Positioning.Terminal

import Positioning.Pattern.Modes

/-!
# Escapes

A backslash takes the meaning from a character that has one, and gives one to a letter: a control
character, a code point in hexadecimal digits, a class of characters or an assertion. A letter or
digit without a meaning may not be escaped.
-/

namespace Positioning.Pattern

/-- What an escape stands for. -/
inductive Escape where
  | char (c : Char)
  /-- A byte that is no character of its own. -/
  | byte
  /-- A class of ASCII characters, or what is not in one. -/
  | kind (negated : Bool) (s : CharSet)
  | assert (a : Assertion)
  | word (a : Assertion)

namespace Escape

/-- The value of a hexadecimal digit. -/
def digit? (c : Char) : Option Nat :=
  if c.isDigit then some (c.toNat - 48)
  else if 'a' ≤ c && c ≤ 'f' then some (c.toNat - 87)
  else if 'A' ≤ c && c ≤ 'F' then some (c.toNat - 55)
  else none

/-- The character with a code point. -/
def ofCode? (n : Nat) : Option Char :=
  if n.isValidChar then some (Char.ofNat n) else none

/-- Reads so many hexadecimal digits. -/
def readDigits (m : Modes) : Nat → Nat → List Char → Option (Nat × List Char)
  | 0, n, cs => some (n, cs)
  | _ + 1, _, [] => none
  | count + 1, n, c :: rest =>
    match digit? c with
    | some d => readDigits m count (16 * n + d) (if count = 0 then rest else m.skip rest)
    | none => none

/-- Reads hexadecimal digits up to a brace; the flag tells whether there were any. The fuel is the
length of the text. -/
def readBraced (m : Modes) : Nat → Bool → Nat → List Char → Option (Nat × List Char)
  | 0, _, _, _ => none
  | _, _, _, [] => none
  | fuel + 1, begun, n, c :: rest =>
    if c = '\x7d' then if begun then some (n, rest) else none
    else
      match digit? c with
      | some d => readBraced m fuel true (16 * n + d) (m.skip rest)
      | none => none

/-- Reads a code point: so many digits, or any number of them in braces. Two digits stand for a byte
where classes are about ASCII only. -/
def readCode (m : Modes) (count : Nat) (cs : List Char) : Option (Escape × List Char) :=
  match m.skip cs with
  | [] => none
  | '\x7b' :: rest =>
    match readBraced m (rest.length + 1) false 0 (m.skip rest) with
    | some (n, rest) => (ofCode? n).map fun c => (char c, rest)
    | none => none
  | digits =>
    match readDigits m count 0 digits with
    | some (n, rest) =>
      if count = 2 && 128 ≤ n && !m.allScripts then some (byte, rest)
      else (ofCode? n).map fun c => (char c, rest)
    | none => none

/-- The ASCII digits. -/
def digits : CharSet :=
  .range '0' '9'

/-- The ASCII white space. -/
def blanks : CharSet :=
  .ofRanges [(9, 13), (32, 32)]

/-- The characters of words. -/
def words : CharSet :=
  .ofRanges [(48, 57), (65, 90), (95, 95), (97, 122)]

/-- The class that a letter stands for; a capital stands for what is not in it. -/
def kind? : Char → Option Escape
  | 'd' => some (kind false digits)
  | 's' => some (kind false blanks)
  | 'w' => some (kind false words)
  | 'D' => some (kind true digits)
  | 'S' => some (kind true blanks)
  | 'W' => some (kind true words)
  | _ => none

/-- The character or the assertion that a letter stands for. -/
def letter? : Char → Option Escape
  | 'a' => some (char '\x07')
  | 'f' => some (char '\x0c')
  | 't' => some (char '\t')
  | 'n' => some (char '\n')
  | 'r' => some (char '\r')
  | 'v' => some (char '\x0b')
  | 'A' => some (assert .textStart)
  | 'z' => some (assert .textEnd)
  | 'B' => some (word .noWordEdge)
  | '<' => some (word .wordStart)
  | '>' => some (word .wordEnd)
  | _ => none

/-- The characters of a name in braces behind a word edge. -/
def isEdgeNameChar (c : Char) : Bool :=
  c.isAlpha || c = '-'

/-- The assertion that a name in braces makes of a word edge. -/
def edge? (name : List Char) : Option Escape :=
  match String.ofList name with
  | "start" => some (word .wordStart)
  | "end" => some (word .wordEnd)
  | "start-half" => some (word .wordStartHalf)
  | "end-half" => some (word .wordEndHalf)
  | _ => none

/-- Reads the name in braces behind a word edge, up to the closing brace. The fuel is the length of
the text. -/
def readEdgeName (m : Modes) : Nat → List Char → List Char → Option (Escape × List Char)
  | 0, _, _ => none
  | _, _, [] => none
  | fuel + 1, name, c :: rest =>
    if isEdgeNameChar c then readEdgeName m fuel (name ++ [c]) (m.skip rest)
    else if c = '\x7d' then (edge? name).map fun e => (e, rest)
    else none

/-- Reads what may follow the letter of a word edge. Braces around something else are not a part of
it. -/
def readEdge (m : Modes) (cs : List Char) : Option (Escape × List Char) :=
  match cs with
  | '\x7b' :: rest =>
    match m.skip rest with
    | [] => none
    | c :: name =>
      if isEdgeNameChar c then readEdgeName m (rest.length + 1) [] (c :: name)
      else some (word .wordEdge, cs)
  | _ => some (word .wordEdge, cs)

/-- Reads an escape behind its backslash. -/
def read (m : Modes) : List Char → Option (Escape × List Char)
  | [] => none
  | 'x' :: rest => readCode m 2 rest
  | 'u' :: rest => readCode m 4 rest
  | 'U' :: rest => readCode m 8 rest
  | 'b' :: rest => readEdge m rest
  | c :: rest =>
    match kind? c, letter? c with
    | some e, _ => some (e, rest)
    | none, some e => some (e, rest)
    | none, none => if c.toNat < 128 && !c.isAlphanum then some (char c, rest) else none

/-- The set of a class, where classes are about ASCII only. What is not in one goes beyond
ASCII. -/
def set? (m : Modes) (negated : Bool) (s : CharSet) : Option CharSet :=
  if m.allScripts || negated then none else some s

/-- The pattern of an escape. -/
def pattern? (m : Modes) : Escape → Option Pattern
  | char c => m.literal? c
  | byte => none
  | kind negated s => (set? m negated s).map .set
  | assert a => some (.assert a)
  | word a => some (.assert (m.word a))

end Escape

end Positioning.Pattern

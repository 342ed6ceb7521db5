/-!
# Types on the wire

A type is written as a short text: a letter for each basic type, `a` before the type of the elements
of an array, parentheses around the types of the members of a structure. `text` writes a type and
`ofText?` reads it.
-/

namespace Positioning.Wire

/-- A type of the wire. -/
inductive Signature where
  | byte | bool | int16 | uint16 | int32 | uint32 | int64 | uint64 | double
  | string | objectPath | variant
  | array (element : Signature)
  | struct (members : List Signature)
deriving Inhabited

namespace Signature

mutual

/-- The text of a type. -/
def text : Signature → String
  | byte => "y"
  | bool => "b"
  | int16 => "n"
  | uint16 => "q"
  | int32 => "i"
  | uint32 => "u"
  | int64 => "x"
  | uint64 => "t"
  | double => "d"
  | string => "s"
  | objectPath => "o"
  | variant => "v"
  | array element => "a" ++ element.text
  | struct members => "(" ++ textAll members ++ ")"

/-- The texts of types one after another. -/
def textAll : List Signature → String
  | [] => ""
  | s :: rest => s.text ++ textAll rest

end

/-- The type of one satellite: identifier, in use, elevation, azimuth, signal to noise. -/
def satellite : Signature :=
  .struct [.uint32, .bool, .uint32, .uint32, .uint32]

/-- The basic type of a letter. -/
def ofLetter? : Char → Option Signature
  | 'y' => some byte
  | 'b' => some bool
  | 'n' => some int16
  | 'q' => some uint16
  | 'i' => some int32
  | 'u' => some uint32
  | 'x' => some int64
  | 't' => some uint64
  | 'd' => some double
  | 's' => some string
  | 'o' => some objectPath
  | 'v' => some variant
  | _ => none

mutual

/-- Reads one type and gives what follows it. -/
def readOne : Nat → List Char → Option (Signature × List Char)
  | 0, _ => none
  | _, [] => none
  | fuel + 1, 'a' :: rest => (readOne fuel rest).map fun (element, rest) => (array element, rest)
  | fuel + 1, '(' :: rest => (readMembers fuel rest).map fun (ms, rest) => (struct ms, rest)
  | _ + 1, c :: rest => (ofLetter? c).map fun basic => (basic, rest)

/-- Reads the types of members up to the closing parenthesis and gives what follows it. -/
def readMembers : Nat → List Char → Option (List Signature × List Char)
  | 0, _ => none
  | _, [] => none
  | _ + 1, ')' :: rest => some ([], rest)
  | fuel + 1, text => do
    let (first, rest) ← readOne fuel text
    let (others, rest) ← readMembers fuel rest
    return (first :: others, rest)

end

/-- The type that a text spells, if it spells one. Each step takes a character or stops at one, so
twice the length of the text is fuel enough. -/
def ofText? (text : String) : Option Signature :=
  match readOne (2 * text.length + 2) text.toList with
  | some (s, []) => some s
  | _ => none

end Signature

end Positioning.Wire

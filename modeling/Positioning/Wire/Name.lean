import Positioning.Text.Pieces
import Positioning.Wire.Carried

/-!
# Names of interfaces and members

A member is named by an element: ASCII letters, digits and underscores, with no digit in front. An
interface is named by two such elements or more, with periods between them. Neither is longer than
255 bytes. Only what the wire carries of a name counts.
-/

namespace Positioning.Wire

/-- The longest name, in bytes. -/
def maxNameSize : Nat :=
  255

/-- The characters at the front of an element. -/
def isNameStart (c : Char) : Bool :=
  c.isAlpha || c = '_'

/-- An element of a name. -/
def isNameElement : List Char → Bool
  | [] => false
  | c :: rest => isNameStart c && rest.all fun c => isNameStart c || c.isDigit

/-- The texts that name interfaces. -/
def isInterfaceName (text : String) : Bool :=
  let elements := Text.pieces '.' (carriedChars text.toList)
  2 ≤ elements.length && elements.all isNameElement && (carried text).utf8ByteSize ≤ maxNameSize

/-- The texts that name members. -/
def isMemberName (text : String) : Bool :=
  isNameElement (carriedChars text.toList) && (carried text).utf8ByteSize ≤ maxNameSize

/-- A text that stands where a name has to be, and is none. -/
inductive BadName where
  | interface (text : String)
  | member (text : String)
deriving DecidableEq

namespace BadName

/-- The text of the error. -/
def message : BadName → String
  | interface text => "Interface name was not valid: '" ++ carried text ++ "'"
  | member text => "Member name was not valid: '" ++ carried text ++ "'"

/-- What is wrong with the names of an interface and a member. -/
def of? (interface member : String) : Option BadName :=
  if !isInterfaceName interface then some (.interface interface)
  else if !isMemberName member then some (.member member)
  else none

end BadName

end Positioning.Wire

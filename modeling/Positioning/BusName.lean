import Positioning.Text.Pieces
import Positioning.Wire.Carried

/-!
# Bus names

A service on the bus is addressed by a name of at most 255 bytes. A well-known name has at least
two elements between periods; its elements are not empty, hold ASCII letters, digits, underscores
and hyphens, and begin with no digit. A unique name, which the bus gives to a connection, is a
colon followed by such characters and periods, where each period has a character behind it.
-/

namespace Positioning.BusName

/-- The characters of an element of a bus name. -/
def isElementChar (c : Char) : Bool :=
  c.isAlphanum || c = '_' || c = '-'

/-- What may follow the colon of a unique name. -/
def isUniqueRest : List Char → Bool
  | [] => true
  | ['.'] => false
  | '.' :: c :: rest => isElementChar c && isUniqueRest rest
  | c :: rest => isElementChar c && isUniqueRest rest

/-- An element is not empty, holds element characters only and begins with no digit. -/
def isElement : List Char → Bool
  | [] => false
  | c :: rest => (c :: rest).all isElementChar && !c.isDigit

/-- At least two elements, all of them good ones. -/
def isWellKnown (cs : List Char) : Bool :=
  2 ≤ (Text.pieces '.' cs).length && (Text.pieces '.' cs).all isElement

/-- The texts that are bus names. Only what the wire carries of a text counts. -/
def isValid (name : String) : Bool :=
  (Wire.carried name).utf8ByteSize ≤ 255 &&
    match Wire.carriedChars name.toList with
    | ':' :: rest => isUniqueRest rest
    | cs => isWellKnown cs

end Positioning.BusName

import Positioning.Binary64
import Positioning.ObjectPath
import Positioning.Wire.Signature

/-!
# Values on the wire

Messages carry typed values. `Value` is a value with its type, and `Kind` names the outermost type
in error texts.
-/

namespace Positioning.Wire

/-- A value of the wire. An array knows the type of its elements also when it is empty. -/
inductive Value where
  | byte (n : UInt8)
  | bool (b : Bool)
  | int16 (n : Int16)
  | uint16 (n : UInt16)
  | int32 (n : Int32)
  | uint32 (n : UInt32)
  | int64 (n : Int64)
  | uint64 (n : UInt64)
  | double (x : Binary64)
  | string (s : String)
  | objectPath (p : ObjectPath)
  | variant (inner : Value)
  | array (element : Signature) (items : List Value)
  | struct (members : List Value)

/-- The outermost type of a value. -/
inductive Kind where
  | byte | bool | int16 | uint16 | int32 | uint32 | int64 | uint64 | double
  | string | objectPath | variant | array | struct
deriving DecidableEq

namespace Kind

/-- The name of a type in the text of a mismatch. -/
def name : Kind → String
  | byte => "u8"
  | bool => "bool"
  | int16 => "i16"
  | uint16 => "u16"
  | int32 => "i32"
  | uint32 => "u32"
  | int64 => "i64"
  | uint64 => "u64"
  | double => "f64"
  | string => "String"
  | objectPath => "Path"
  | variant => "Variant"
  | array => "Array/Dict"
  | struct => "Struct"

end Kind

namespace Value

mutual

/-- The type of a value. -/
def signature : Value → Signature
  | byte _ => .byte
  | bool _ => .bool
  | int16 _ => .int16
  | uint16 _ => .uint16
  | int32 _ => .int32
  | uint32 _ => .uint32
  | int64 _ => .int64
  | uint64 _ => .uint64
  | double _ => .double
  | string _ => .string
  | objectPath _ => .objectPath
  | variant _ => .variant
  | array element _ => .array element
  | struct members => .struct (signatures members)

/-- The types of values, in order. -/
def signatures : List Value → List Signature
  | [] => []
  | v :: rest => v.signature :: signatures rest

end

/-- The outermost type of a value. -/
def kind : Value → Kind
  | byte _ => .byte
  | bool _ => .bool
  | int16 _ => .int16
  | uint16 _ => .uint16
  | int32 _ => .int32
  | uint32 _ => .uint32
  | int64 _ => .int64
  | uint64 _ => .uint64
  | double _ => .double
  | string _ => .string
  | objectPath _ => .objectPath
  | variant _ => .variant
  | array _ _ => .array
  | struct _ => .struct

/-- A text as the wire carries it. -/
def ofText (s : String) : Value :=
  .string (carried s)

/-- A path as the wire carries it. -/
def ofPath (p : ObjectPath) : Value :=
  .objectPath p.carried

end Value

end Positioning.Wire

import Positioning.Decimal
import Positioning.Fix
import Positioning.Wire.Value

/-!
# Reading arguments

The arguments of a message are read one at a time, each as the type that is expected at its
position. The first one that is missing or of another type is a `Mismatch`; arguments behind those
that are read do not matter.

An array always reads as an array: its items are read up to the first one that does not fit.
-/

namespace Positioning.Wire

/-- An argument that is not of the type expected at its position; nothing is found where the
arguments end too soon. -/
structure Mismatch where
  position : Nat
  expected : Kind
  found : Option Kind
deriving DecidableEq

namespace Mismatch

/-- The text of a mismatch. -/
def message (m : Mismatch) : String :=
  "D-Bus argument type mismatch at position " ++ Decimal.ofNat m.position ++ ": expected " ++
    m.expected.name ++ ", found " ++ (m.found.map Kind.name).getD "nothing"

end Mismatch

/-- A type whose values travel as one argument. -/
class Argument (α : Type) where
  kind : Kind
  toValue : α → Value
  ofValue? : Value → Option α

instance : Argument Int32 where
  kind := .int32
  toValue := .int32
  ofValue?
    | .int32 n => some n
    | _ => none

instance : Argument UInt32 where
  kind := .uint32
  toValue := .uint32
  ofValue?
    | .uint32 n => some n
    | _ => none

instance : Argument Bool where
  kind := .bool
  toValue := .bool
  ofValue?
    | .bool b => some b
    | _ => none

instance : Argument Binary64 where
  kind := .double
  toValue := .double
  ofValue?
    | .double x => some x
    | _ => none

instance : Argument String where
  kind := .string
  toValue := Value.ofText
  ofValue?
    | .string s => some s
    | _ => none

instance : Argument ObjectPath where
  kind := .objectPath
  toValue := .objectPath
  ofValue?
    | .objectPath p => some p
    | _ => none

/-- Items are read up to the first one that does not fit. -/
def readItems {α : Type} [Argument α] : List Value → List α
  | [] => []
  | v :: rest =>
    match Argument.ofValue? v with
    | some a => a :: readItems rest
    | none => []

/-- The members of a satellite that are known; members behind them do not matter. -/
def satelliteOfMembers? : List Value → Option Satellite
  | .uint32 id :: .bool inUse :: .uint32 elevation :: .uint32 azimuth :: .uint32 snr :: _ =>
    some ⟨id, inUse, elevation, azimuth, snr⟩
  | _ => none

instance : Argument Satellite where
  kind := .struct
  toValue s := .struct [.uint32 s.id, .bool s.inUse, .uint32 s.elevation, .uint32 s.azimuth,
    .uint32 s.snr]
  ofValue?
    | .struct members => satelliteOfMembers? members
    | _ => none

instance : Argument (List String) where
  kind := .array
  toValue names := .array .string (names.map Value.ofText)
  ofValue?
    | .array _ items => some (readItems items)
    | _ => none

instance : Argument (List Satellite) where
  kind := .array
  toValue satellites := .array Signature.satellite (satellites.map Argument.toValue)
  ofValue?
    | .array _ items => some (readItems items)
    | _ => none

/-- The argument at a position, read as the type expected there. -/
def argument {α : Type} [Argument α] (arguments : List Value) (position : Nat) :
    Except Mismatch α :=
  match arguments[position]? with
  | none => .error ⟨position, Argument.kind α, none⟩
  | some v =>
    match Argument.ofValue? v with
    | some a => .ok a
    | none => .error ⟨position, Argument.kind α, some v.kind⟩

end Positioning.Wire

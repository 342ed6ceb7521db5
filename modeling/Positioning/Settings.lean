import Positioning.Toml.Reader

/-!
# Settings

What a configuration file may set: the bus to connect to, the service that is called there, and how
long calls and rounds of processing may take. Every setting has a default, and no other key may
stand in the file.

The bus is named by a text, or by the one key of a table whose value is empty.
-/

namespace Positioning

open Toml

/-- The bus of the machine, or that of the login session. -/
inductive BusKind where
  | system
  | session
deriving DecidableEq

namespace BusKind

/-- The name of a bus in records. -/
def name : BusKind → String
  | system => "System"
  | session => "Session"

/-- The bus that a text in a configuration file names. -/
def ofText? (text : String) : Option BusKind :=
  if text = "system" then some system
  else if text = "session" then some session
  else none

end BusKind

/-- A length of time in whole milliseconds. -/
structure Milliseconds where
  count : Nat
deriving DecidableEq

namespace Milliseconds

/-- The whole seconds of a length of time. -/
def seconds (t : Milliseconds) : Nat :=
  t.count / 1000

/-- The nanoseconds beyond the whole seconds. -/
def nanoseconds (t : Milliseconds) : Nat :=
  t.count % 1000 * 1000000

/-- A length of time as the bus takes it, in 32 bits. -/
def onWire (t : Milliseconds) : Int32 :=
  Int32.ofInt t.count

/-- The bus does not take a length of time: it is negative there, and not the one negative number
that stands for no limit. -/
def isRefused (t : Milliseconds) : Bool :=
  t.onWire < 0 && t.onWire ≠ -1

end Milliseconds

/-- The settings. -/
structure Settings where
  bus : BusKind
  service : String
  callTimeout : Milliseconds
  processTimeout : Milliseconds
deriving DecidableEq

namespace Settings

/-- The settings of an empty configuration file. -/
def default : Settings where
  bus := .system
  service := "org.freedesktop.Gypsy"
  callTimeout := ⟨25000⟩
  processTimeout := ⟨1000⟩

/-- The keys that may be set. -/
def keys : List String :=
  ["bus", "service", "call_timeout_ms", "process_timeout_ms"]

/-- Every key at the root may be set. -/
def allKnown (d : Document) : Bool :=
  (d.children []).all fun path => path.all (· ∈ keys)

/-- The entry at a path is empty. -/
def isEmptyAt (d : Document) (path : Path) : Bool :=
  match d.get? path with
  | some (.value .emptyArray) => true
  | some (.value (.table [])) => true
  | some (.table _) => (d.children path).isEmpty
  | _ => false

/-- The bus that a table names by its one key, whose value is empty. -/
def busOfEntries? : List (Path × Value) → Option BusKind
  | [([key], .emptyArray)] => BusKind.ofText? key
  | [([key], .table [])] => BusKind.ofText? key
  | _ => none

/-- The bus that a document sets. -/
def bus? (d : Document) : Option BusKind :=
  match d.get? ["bus"] with
  | none => some default.bus
  | some (.value (.string s)) => BusKind.ofText? s
  | some (.value (.table entries)) => busOfEntries? entries
  | some (.value _) => none
  | some (.table _) =>
    match d.children ["bus"] with
    | [path] => if isEmptyAt d path then path.getLast?.bind BusKind.ofText? else none
    | _ => none

/-- The service that a document sets. -/
def service? (d : Document) : Option String :=
  match d.get? ["service"] with
  | none => some default.service
  | some (.value (.string s)) => some s
  | some _ => none

/-- The length of time that a document sets under a key. -/
def timeout? (d : Document) (key : String) (unset : Milliseconds) : Option Milliseconds :=
  match d.get? [key] with
  | none => some unset
  | some (.value (.integer n)) => if 0 ≤ n then some ⟨n.toNat⟩ else none
  | some _ => none

/-- The settings that a document makes. -/
def ofDocument? (d : Document) : Option Settings := do
  if allKnown d then
    return {
      bus := ← bus? d
      service := ← service? d
      callTimeout := ← timeout? d "call_timeout_ms" default.callTimeout
      processTimeout := ← timeout? d "process_timeout_ms" default.processTimeout }
  else none

/-- The settings that a text makes, if it is a configuration. -/
def ofText? (text : String) : Option Settings :=
  match document? text with
  | some d => ofDocument? d
  | none => none

end Settings

end Positioning

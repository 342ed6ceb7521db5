import Positioning.Daemon.Basic

/-!
# Introspection

Every object describes itself in XML: its interfaces with their methods and signals, then the
objects right below it. Interfaces, methods, signals and objects stand in the order of their names.
-/

namespace Positioning.Introspection

/-- Lines one below the other. -/
def lines (ls : List String) : String :=
  "\n".intercalate ls

/-- Puts things in the order of their names. -/
def sortByName {α : Type} (name : α → String) (xs : List α) : List α :=
  xs.mergeSort fun a b => decide (name a ≤ name b)

/-- The line of an argument of a call or of a reply. -/
def directed (direction : String) (p : Parameter) : String :=
  "      <arg name=\"" ++ p.name ++ "\" type=\"" ++ p.type.text ++ "\" direction=\"" ++ direction ++
    "\"/>"

/-- The line of an argument of a signal. -/
def plain (p : Parameter) : String :=
  "      <arg name=\"" ++ p.name ++ "\" type=\"" ++ p.type.text ++ "\"/>"

/-- The lines of a method. -/
def method (m : Method) : List String :=
  ["    <method name=\"" ++ m.name ++ "\">"] ++ m.parameters.map (directed "in") ++
    m.results.map (directed "out") ++ ["    </method>"]

/-- The lines of a signal. -/
def signal (s : SignalKind) : List String :=
  ["    <signal name=\"" ++ s.member ++ "\">"] ++ s.parameters.map plain ++ ["    </signal>"]

/-- The lines of an interface. -/
def interface (i : Interface) : List String :=
  ["  <interface name=\"" ++ i.name ++ "\">"] ++
    (sortByName Method.name i.methods).flatMap method ++
    (sortByName SignalKind.member i.signals).flatMap signal ++ ["  </interface>"]

/-- What the path of an object adds to the path of an object above it. -/
def below? (above path : ObjectPath) : Option (List Char) :=
  let stem := if above.text = "/" then ['/'] else above.text.toList ++ ['/']
  if stem.isPrefixOf path.text.toList && path.text.toList.length != stem.length then
    some (path.text.toList.drop stem.length)
  else none

/-- The objects right below an object, named by what they add to its path. -/
def children (paths : List ObjectPath) (path : ObjectPath) : List String :=
  let names := paths.filterMap (below? path)
  let nearest := names.filter fun name => !names.any fun other => (other ++ ['/']).isPrefixOf name
  sortByName id (nearest.map String.ofList)

/-- The line of an object right below. -/
def node (name : String) : String :=
  "  <node name=\"" ++ name ++ "\"/>"

/-- The description of the object at a path, given the paths of all objects. -/
def text (paths : List ObjectPath) (path : ObjectPath) (object : Object) : String :=
  lines <|
    ["<!DOCTYPE node PUBLIC \"-//freedesktop//DTD D-BUS Object Introspection 1.0//EN\"",
      " \"http://www.freedesktop.org/standards/dbus/1.0/introspect.dtd\">",
      "<node name=\"" ++ path.text ++ "\">"] ++
    (sortByName Interface.name object.interfaces).flatMap interface ++
    (children paths path).map node ++ ["</node>"]

end Positioning.Introspection

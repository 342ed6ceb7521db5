/-!
# Interfaces of the daemon

The names under which the daemon offers its methods and emits its signals.
-/

namespace Positioning

/-- A group of methods and signals that an object of the daemon may offer. -/
inductive Interface where
  | introspectable
  | server
  | discovery
  | device
  | position
  | course
  | accuracy
  | satellite
  | time
deriving DecidableEq

namespace Interface

/-- The name of an interface on the bus. -/
def name : Interface → String
  | introspectable => "org.freedesktop.DBus.Introspectable"
  | server => "org.freedesktop.Gypsy.Server"
  | discovery => "org.freedesktop.Gypsy.Discovery"
  | device => "org.freedesktop.Gypsy.Device"
  | position => "org.freedesktop.Gypsy.Position"
  | course => "org.freedesktop.Gypsy.Course"
  | accuracy => "org.freedesktop.Gypsy.Accuracy"
  | satellite => "org.freedesktop.Gypsy.Satellite"
  | time => "org.freedesktop.Gypsy.Time"

/-- The interface that every connection answers by itself, on every path. -/
def peer : String :=
  "org.freedesktop.DBus.Peer"

end Interface

end Positioning

import Positioning.Bus.Connection
import Positioning.Settings.File
import Positioning.Tool.Form
import Positioning.Tool.Work

/-!
# Running a tool

A tool reads its command line, loads the settings, connects to the bus and does its work. What it
prints, what it logs and how it ends make up a `Tool.Run`.
-/

namespace Positioning

/-- The causes for which a tool fails. -/
inductive ToolError where
  | load (f : LoadFault)
  | client (e : ClientError)

namespace Tool

/-- How a tool ends. One that crashes is killed. -/
inductive Exit where
  | success
  | failure
  | killed
deriving DecidableEq

/-- The exit status of a tool that ends by itself. -/
def Exit.status? : Exit → Option UInt32
  | success => some 0
  | failure => some 1
  | killed => none

/-- How a run of a tool went. -/
structure Run where
  exit : Exit
  output : String
  failure? : Option ToolError
  records : List Log.Record

namespace Run

/-- A run that prints a notice and ends. It succeeds if it prints what it was asked for. -/
def ofNotice (notice : CommandLine.Notice) : Run :=
  ⟨if notice.isRequested then .success else .failure, notice.text, none, []⟩

/-- The run that an outcome stands for: each output is a line or a block of lines. -/
def ofOutcome {β : Type} (o : Outcome β ToolError String Unit) : Run :=
  let output := String.join ((Effect.outputs o.effects).map (· ++ "\n"))
  let records := Effect.records o.effects
  match o.result with
  | .ok _ => ⟨.success, output, none, records⟩
  | .error e => ⟨.failure, output, some e, records⟩
  | .crash _ => ⟨.killed, output, none, records⟩

end Run

/-- What the other end waits for before it sends signals to a tool: the last thing that the tool
does before it dispatches. -/
def cue : Tool → Cue
  | monitor => .subscription ⟨2⟩
  | _ => .replyTo "Start"

/-- The rounds of dispatching up to the failure of a bus that hangs up: one for each signal of the
other end, one for the signal that a device is connected, and the one that fails. -/
def rounds (signals : List Message) : Nat :=
  signals.length + 2

/-- Loads the settings, connects and works. -/
def program (tool : Tool) (given : CommandLine.Arguments) (files : FileReader) (host? : Option Host)
    (signals : List Message) : Action Unit ToolError String Unit := do
  let settings ← (Settings.load files given.config?).mapError .load
  let connection ←
    (Connection.connect settings host? ⟨tool.cue, signals, true⟩).mapError .client
  let work := tool.work Connection.bus (rounds signals) settings.service (given.device?.getD "")
  (work.on connection).mapError .client

/-- Runs a tool with its arguments, on the files that it can read and the bus that it can reach. The
other end sends signals, and hangs up when they are handled. -/
def run (tool : Tool) (arguments : List String) (files : FileReader) (host? : Option Host)
    (signals : List Message) : Run :=
  match CommandLine.parseOrNotice tool.form tool.usage arguments with
  | .ok given => .ofOutcome ((tool.program given files host? signals).run ())
  | .error notice => .ofNotice notice

end Tool

end Positioning

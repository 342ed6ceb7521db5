import Positioning.Log.Style
import Positioning.Tool.Run

/-!
# The program

The first argument names the tool, the others are its command line. Output goes to standard output
and records go to standard error. No message bus can be reached from here, so that a tool fails
where it would connect.
-/

namespace Positioning.Program

/-- What is said where no tool is named. -/
def usage : String :=
  "Usage: <tool> [<argument>...], with one of the tools " ++
    ", ".intercalate (Tool.all.map Tool.name)

/-- The cause for which a file could not be read. -/
def readFault : IO.Error → ReadFault
  | .noFileOrDirectory .. => .notFound
  | .inappropriateType .. => .isADirectory
  | .invalidArgument .. => .invalidFilename
  | .permissionDenied .. => .other "PermissionDenied" (by decide)
  | _ => .other "Other" (by decide)

/-- Reads one file ahead. -/
def readAhead (path : String) : IO FileReader := do
  try
    let content ← IO.FS.readBinFile path
    return fun _ => .ok content
  catch e => return fun _ => .error (readFault e)

/-- The file that a tool would read its settings from. -/
def settingsPath (tool : Tool) (arguments : List String) : String :=
  match CommandLine.parse tool.form arguments with
  | .ok given => given.config?.getD Settings.defaultPath
  | .error _ => Settings.defaultPath

/-- The exit status that stands for a tool that is killed. -/
def killedStatus : UInt32 :=
  134

/-- Runs a tool and shows what comes of it. -/
def runTool (tool : Tool) (arguments : List String) : IO UInt32 := do
  let files ← readAhead (settingsPath tool arguments)
  let filter := Log.Filter.ofSetting (← IO.getEnv "RUST_LOG")
  let run := tool.run arguments files none []
  IO.print run.output
  (Log.Style.plain.lines filter run.records).forM fun line => IO.eprintln line
  return run.exit.status?.getD killedStatus

end Positioning.Program

/-- Runs the tool that the first argument names. -/
def main (arguments : List String) : IO UInt32 :=
  match arguments with
  | [] => do
    IO.eprintln Positioning.Program.usage
    return 1
  | name :: rest =>
    match Positioning.Tool.ofName? name with
    | some tool => Positioning.Program.runTool tool rest
    | none => do
      IO.eprintln Positioning.Program.usage
      return 1

import Positioning.Log.Filter
import Positioning.Log.Json
import Positioning.Text.Terminal

/-!
# How records are shown

Records are written as plain lines or as JSON, with terminal control left out. A plain record may
have more lines than one, and every line but the first is indented; its first line, which has the
level in front, stands for it.
-/

namespace Positioning.Log

/-- The two ways to show a record. JSON records are stamped with a time and a process. -/
inductive Style where
  | plain
  | json (time process : String)

namespace Style

/-- The first line of a text. A carriage return at its end is a part of the line end. -/
def firstLine (text : String) : String :=
  let line := text.toList.takeWhile (· ≠ '\n')
  String.ofList (if line.getLast? = some '\r' then line.dropLast else line)

/-- The lines of a text, each but the first one set in by four blanks. -/
def indent (text : String) : String :=
  String.ofList (text.toList.flatMap fun c => if c = '\n' then ['\n', ' ', ' ', ' ', ' '] else [c])

/-- How a record is shown. A control sequence does not end at text that is shown in its middle. -/
def line (s : Style) (r : Record) : String :=
  match s with
  | plain => r.level.name ++ " " ++ firstLine (Terminal.strip true (indent r.text))
  | json time process => Terminal.strip true (Json.line time process r)

/-- How those records are shown that a filter accepts. -/
def lines (s : Style) (f : Filter) (records : List Record) : List String :=
  (records.filter f.accepts).map s.line

end Style

end Positioning.Log

import Positioning.Log.Record

/-!
# Records as JSON

A record is one line: an object with the keys `ts`, `level`, `target`, `msg` and `pid`, in this
order. The message is quoted, so that it can neither end its string nor the line.
-/

namespace Positioning.Log.Json

/-- A hexadecimal digit, in lower case. -/
def hexDigit (n : Nat) : Char :=
  if n < 10 then Char.ofNat (48 + n) else Char.ofNat (87 + n)

/-- A character as it stands in a quoted text. Control characters have an escape each, short where
there is a short one. -/
def escape (c : Char) : List Char :=
  if c = '"' then ['\\', '"']
  else if c = '\\' then ['\\', '\\']
  else if c = '\x08' then ['\\', 'b']
  else if c = '\x0c' then ['\\', 'f']
  else if c = '\n' then ['\\', 'n']
  else if c = '\r' then ['\\', 'r']
  else if c = '\t' then ['\\', 't']
  else if c.toNat < 32 then
    ['\\', 'u', '0', '0', hexDigit (c.toNat / 16), hexDigit (c.toNat % 16)]
  else [c]

/-- A text in quotes. -/
def quote (text : String) : String :=
  "\"" ++ String.ofList (text.toList.flatMap escape) ++ "\""

/-- A line with the time, the level, the target, the message and the process that are given. The
message alone is escaped. -/
def object (time process : String) (level : Level) (target text : String) : String :=
  "\x7b\"ts\":\"" ++ time ++ "\", \"level\":\"" ++ level.name ++ "\", \"target\":\"" ++
    target ++ "\", \"msg\":" ++ quote text ++ ", \"pid\":" ++ process ++ "\x7d"

/-- The line of a record, with the time and the process that it is stamped with. -/
def line (time process : String) (r : Record) : String :=
  object time process r.level r.source.target r.text

end Positioning.Log.Json

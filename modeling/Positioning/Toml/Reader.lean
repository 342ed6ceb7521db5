import Positioning.Toml.Document
import Positioning.Toml.Integer

/-!
# Reading documents

A document is read line by line: a header opens a table, and a key with a value is written into the
table that was opened last. Blank lines and comments may stand anywhere.

Booleans, dates, other numbers than integers, arrays with elements and arrays of tables are refused
as they are met.

## Design notes

Every step takes at least one character off the text, so the length of the text bounds the number of
steps.
-/

namespace Positioning.Toml

/-- A key without dots: bare, or a string on one line. -/
def simpleKey? (cs : List Char) : Option (String × List Char) :=
  match cs with
  | '"' :: rest => afterQuote? '"' true rest
  | '\'' :: rest => afterQuote? '\'' false rest
  | _ =>
    let bare := cs.takeWhile isBare
    if bare.isEmpty then none else some (String.ofList bare, cs.dropWhile isBare)

/-- A key of one or more parts with dots between them, blanks around the parts left out. -/
def key? : Nat → List Char → Option (List String × List Char)
  | 0, _ => none
  | fuel + 1, cs =>
    match simpleKey? (dropBlank cs) with
    | none => none
    | some (first, rest) =>
      match dropBlank rest with
      | '.' :: rest => (key? fuel rest).map fun (others, rest) => (first :: others, rest)
      | rest => some ([first], rest)

mutual

/-- A value, where the text begins with one, and what follows it. -/
def value? : Nat → List Char → Option (Value × List Char)
  | 0, _ => none
  | fuel + 1, cs =>
    match cs with
    | [] => none
    | c :: rest =>
      if c = '"' || c = '\'' then (quoted? cs).map fun (s, rest) => (.string s, rest)
      else if c = '[' then
        match dropGap false rest with
        | ']' :: rest => some (.emptyArray, rest)
        | _ => none
      else if c = '\x7b' then
        match dropBlank rest with
        | '\x7d' :: rest => some (.table [], rest)
        | rest => (entries? fuel rest).map fun (entries, rest) => (.table entries, rest)
      else
        (integer? (cs.takeWhile isNumberChar)).map fun n =>
          (.integer n, cs.dropWhile isNumberChar)

/-- The entries of a table in braces, up to the closing brace, and what follows it. -/
def entries? : Nat → List Char → Option (List (Path × Value) × List Char)
  | 0, _ => none
  | fuel + 1, cs =>
    match key? fuel cs with
    | some (key, '=' :: rest) =>
      match value? fuel (dropBlank rest) with
      | some (v, rest) =>
        match dropBlank rest with
        | '\x7d' :: rest => some ([(key, v)], rest)
        | ',' :: rest =>
          (entries? fuel rest).map fun (others, rest) => ((key, v) :: others, rest)
        | _ => none
      | none => none
    | _ => none

end

/-- A header behind its opening bracket, and what follows its line. -/
def header? (fuel : Nat) (cs : List Char) : Option (Path × List Char) :=
  match key? fuel cs with
  | some (path, ']' :: rest) => (afterLine? rest).map fun rest => (path, rest)
  | _ => none

/-- A key with its value, and what follows their line. -/
def setting? (fuel : Nat) (cs : List Char) : Option (Path × Value × List Char) :=
  match key? fuel cs with
  | some (key, '=' :: rest) =>
    match value? fuel (dropBlank rest) with
    | some (v, rest) => (afterLine? rest).map fun rest => (key, v, rest)
    | none => none
  | _ => none

/-- Reads the lines of a text into a document, where a table is open. -/
def readLines : Nat → Document → Path → List Char → Option Document
  | 0, _, _, _ => none
  | fuel + 1, d, table, cs =>
    match dropBlank cs with
    | [] => some d
    | c :: rest =>
      if c = '\n' then readLines fuel d table rest
      else if c = '#' then
        match afterLine? (c :: rest) with
        | some rest => readLines fuel d table rest
        | none => none
      else if c = '[' then
        match header? fuel rest with
        | some (path, rest) =>
          match d.openTable path with
          | some d => readLines fuel d path rest
          | none => none
        | none => none
      else
        match setting? fuel (c :: rest) with
        | some (key, v, rest) =>
          match d.define table key v with
          | some d => readLines fuel d table rest
          | none => none
        | none => none

/-- The text without a leading byte order mark. -/
def dropMark : List Char → List Char
  | '\ufeff' :: rest => rest
  | cs => cs

/-- The document that a text spells, if it spells one. -/
def document? (text : String) : Option Document :=
  let cs := unifyLineEnds (dropMark text.toList)
  readLines (cs.length + 2) .empty [] cs

end Positioning.Toml

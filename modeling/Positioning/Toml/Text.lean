/-!
# The text of a document

Which characters may stand where, where lines end, and how strings are quoted.

A string is quoted once, and then stays on one line, or three times. Between double quotes a
backslash begins an escape; between apostrophes nothing does. Reading a string splits off what
stands between the quotes and then resolves the escapes in it.

## Main definitions

- `unifyLineEnds` leaves the line feed as the only line end.
- `afterLine?` passes over what may follow at the end of a line.
- `quoted?` reads a string of any of the four forms.
-/

namespace Positioning.Toml

/-- Blanks separate the parts of a line. -/
def isBlank (c : Char) : Bool :=
  c = ' ' || c = '\t'

/-- The characters that may stand in comments and, as they are, in strings: no control character but
the tab. -/
def isPlain (c : Char) : Bool :=
  c = '\t' || (32 ≤ c.toNat && c.toNat ≠ 127)

/-- The characters of a key without quotes. -/
def isBare (c : Char) : Bool :=
  c.isAlphanum || c = '_' || c = '-'

/-- The text without leading blanks. -/
def dropBlank (cs : List Char) : List Char :=
  cs.dropWhile isBlank

/-- A line ends with a line feed, and a carriage return before it belongs to the line end. -/
def unifyLineEnds : List Char → List Char
  | [] => []
  | '\r' :: '\n' :: rest => '\n' :: unifyLineEnds rest
  | c :: rest => c :: unifyLineEnds rest

/-- What follows a line end; the end of the text is one too. -/
def lineEnd? : List Char → Option (List Char)
  | [] => some []
  | c :: rest => if c = '\n' then some rest else none

/-- What follows the line, where nothing is left of it but blanks and a comment. -/
def afterLine? (cs : List Char) : Option (List Char) :=
  match dropBlank cs with
  | [] => some []
  | c :: rest => if c = '#' then lineEnd? (rest.dropWhile isPlain) else lineEnd? (c :: rest)

/-- Passes over blanks, line ends and comments. The flag tells whether a comment has begun. -/
def dropGap : Bool → List Char → List Char
  | _, [] => []
  | true, c :: rest =>
    if c = '\n' then dropGap false rest
    else if isPlain c then dropGap true rest
    else c :: rest
  | false, c :: rest =>
    if isBlank c || c = '\n' then dropGap false rest
    else if c = '#' then dropGap true rest
    else c :: rest

/-! ## Escapes -/

/-- The character behind a backslash and a letter. -/
def shortEscape? : Char → Option Char
  | 'b' => some '\x08'
  | 't' => some '\t'
  | 'n' => some '\n'
  | 'f' => some '\x0c'
  | 'r' => some '\r'
  | '"' => some '"'
  | '\\' => some '\\'
  | _ => none

/-- The value of a hexadecimal digit. -/
def hexDigit? (c : Char) : Option Nat :=
  if c.isDigit then some (c.toNat - 48)
  else if 'a' ≤ c && c ≤ 'f' then some (c.toNat - 87)
  else if 'A' ≤ c && c ≤ 'F' then some (c.toNat - 55)
  else none

/-- The number that hexadecimal digits denote. -/
def hexValue? (digits : List Char) : Option Nat :=
  (digits.mapM hexDigit?).map fun ds => ds.foldl (fun n d => 16 * n + d) 0

/-- The character with a code point, where there is one. -/
def scalar? (digits : List Char) : Option Char :=
  match hexValue? digits with
  | some n => if n.isValidChar then some (Char.ofNat n) else none
  | none => none

/-- A character before a text that may be missing. -/
def push (c : Char) (text : Option (List Char)) : Option (List Char) :=
  text.map (c :: ·)

/-- A backslash at the end of a line continues the line: blanks and line ends up to the next other
character are left out. -/
def continues (cs : List Char) : Bool :=
  (dropBlank cs).head? = some '\n'

/-- Resolves the escapes of what stands between double quotes. The first flag tells whether the
string may hold line ends, the second whether a continued line is being passed over. -/
def unescape (multiline : Bool) : Bool → List Char → Option (List Char)
  | _, [] => some []
  | skipping, c :: rest =>
    if skipping && (isBlank c || c = '\n') then unescape multiline true rest
    else if c = '\\' then
      if multiline && continues rest then unescape multiline true rest
      else
        match rest with
        | 'u' :: a :: b :: c :: d :: rest =>
          match scalar? [a, b, c, d] with
          | some u => push u (unescape multiline false rest)
          | none => none
        | 'U' :: a :: b :: c :: d :: e :: f :: g :: h :: rest =>
          match scalar? [a, b, c, d, e, f, g, h] with
          | some u => push u (unescape multiline false rest)
          | none => none
        | e :: rest =>
          match shortEscape? e with
          | some u => push u (unescape multiline false rest)
          | none => none
        | [] => none
    else if isPlain c || (multiline && c = '\n') then push c (unescape multiline false rest)
    else none

/-- What stands between apostrophes is taken as it is. -/
def verbatim? (multiline : Bool) (cs : List Char) : Option (List Char) :=
  if cs.all fun c => isPlain c || (multiline && c = '\n') then some cs else none

/-! ## Quotes -/

/-- A character before the first of two texts. -/
def pushFirst (c : Char) : Option (List Char × List Char) → Option (List Char × List Char) :=
  Option.map fun (first, second) => (c :: first, second)

/-- Splits at the closing quote of a string on one line. A character behind a backslash does not
close a string that has escapes. -/
def splitLine (quote : Char) (escapes : Bool) : List Char → Option (List Char × List Char)
  | [] => none
  | c :: rest =>
    if c = quote then some ([], rest)
    else if escapes && c = '\\' then
      match rest with
      | [] => none
      | e :: rest => pushFirst c (pushFirst e (splitLine quote escapes rest))
    else pushFirst c (splitLine quote escapes rest)

/-- Splits at the three closing quotes of a string on several lines. Up to two more quotes before
them belong to the string. -/
def splitLines (quote : Char) (escapes : Bool) : List Char → Option (List Char × List Char)
  | [] => none
  | c :: rest =>
    if c = quote then
      let run := (rest.takeWhile (· = quote)).length + 1
      if 5 < run then none
      else if 3 ≤ run then some (List.replicate (run - 3) quote, rest.dropWhile (· = quote))
      else pushFirst c (splitLines quote escapes rest)
    else if escapes && c = '\\' then
      match rest with
      | [] => none
      | e :: rest => pushFirst c (pushFirst e (splitLines quote escapes rest))
    else pushFirst c (splitLines quote escapes rest)

/-- A line end right after three opening quotes is left out. -/
def dropFirstLineEnd : List Char → List Char
  | [] => []
  | c :: rest => if c = '\n' then rest else c :: rest

/-- The content of a string from what stands between its quotes. -/
def content? (escapes multiline : Bool) (body : List Char) : Option String :=
  (if escapes then unescape multiline false body else verbatim? multiline body).map String.ofList

/-- A string from the text behind its opening quote, and what follows the string. -/
def afterQuote? (quote : Char) (escapes : Bool) (cs : List Char) :
    Option (String × List Char) := do
  let (body, rest) ← splitLine quote escapes cs
  return (← content? escapes false body, rest)

/-- A string from the text behind its three opening quotes, and what follows the string. -/
def afterQuotes? (quote : Char) (escapes : Bool) (cs : List Char) :
    Option (String × List Char) := do
  let (body, rest) ← splitLines quote escapes (dropFirstLineEnd cs)
  return (← content? escapes true body, rest)

/-- A string of any form, where the text begins with one, and what follows it. -/
def quoted? : List Char → Option (String × List Char)
  | '"' :: '"' :: '"' :: rest => afterQuotes? '"' true rest
  | '\'' :: '\'' :: '\'' :: rest => afterQuotes? '\'' false rest
  | '"' :: rest => afterQuote? '"' true rest
  | '\'' :: rest => afterQuote? '\'' false rest
  | _ => none

end Positioning.Toml

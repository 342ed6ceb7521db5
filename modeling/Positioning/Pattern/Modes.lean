import Positioning.Pattern.Basic
import Positioning.Text.Space

/-!
# Modes of a pattern text

How a piece of a pattern is read depends on modes, which directives such as `(?i-u)` switch on and
off. A letter stands for each mode; a hyphen in a directive comes before those that are switched
off.
-/

namespace Positioning.Pattern

/-- The modes under which a pattern is read. -/
structure Modes where
  /-- Letters of either case stand for both. -/
  foldsCase : Bool
  /-- Line anchors hold at every line of the text. -/
  byLine : Bool
  /-- A period stands for line ends too. -/
  dotAll : Bool
  /-- Classes and words are about all scripts, and not only about ASCII. -/
  allScripts : Bool
  /-- A carriage return ends a line too. -/
  returnEnds : Bool
  /-- Blanks and comments between the parts of the pattern do not count. -/
  spaced : Bool

namespace Modes

/-- The modes at the start of a pattern. -/
def initial : Modes where
  foldsCase := false
  byLine := false
  dotAll := false
  allScripts := true
  returnEnds := false
  spaced := false

/-- Switches the mode of a letter on or off. Which of the parts that a pattern describes is found
first does not matter here, so that the mode of `U` changes nothing. -/
def switch? (m : Modes) (letter : Char) (on : Bool) : Option Modes :=
  match letter with
  | 'i' => some { m with foldsCase := on }
  | 'm' => some { m with byLine := on }
  | 's' => some { m with dotAll := on }
  | 'U' => some m
  | 'u' => some { m with allScripts := on }
  | 'R' => some { m with returnEnds := on }
  | 'x' => some { m with spaced := on }
  | _ => none

/-- A text without the blanks and comments at its front, where they do not count. The flag tells
whether a comment is being skipped. -/
def skipFrom : Bool → List Char → List Char
  | _, [] => []
  | true, c :: rest => skipFrom (c ≠ '\n') rest
  | false, c :: rest =>
    if Text.isSpace c then skipFrom false rest
    else if c = '#' then skipFrom true rest
    else c :: rest

/-- A text without what does not count at its front. -/
def skip (m : Modes) (cs : List Char) : List Char :=
  if m.spaced then skipFrom false cs else cs

/-- The characters of a set in both cases, if cases do not matter. The cases of letters are known
for ASCII only. -/
def fold? (m : Modes) (s : CharSet) : Option CharSet :=
  if m.foldsCase then
    if m.allScripts then if s = .empty then some s else none
    else some s.foldCase
  else some s

/-- The set that a class stands for, negated or not. Where classes are about ASCII only, none is
negated, because it would have characters beyond ASCII. -/
def class? (m : Modes) (negated : Bool) (s : CharSet) : Option CharSet :=
  match m.fold? s with
  | none => none
  | some s => if negated then if m.allScripts then some s.complement else none else some s

/-- The pattern of a character that stands for itself, in both cases if cases do not matter. -/
def literal? (m : Modes) (c : Char) : Option Pattern :=
  if m.foldsCase then
    if m.allScripts then none
    else if c.isAlpha then some (.set (CharSet.single c).foldCase)
    else some (.char c)
  else some (.char c)

/-- The pattern of a period. -/
def dot? (m : Modes) : Option Pattern :=
  if m.allScripts then
    if m.dotAll then some (.set .all)
    else if m.returnEnds then some (.set (CharSet.ofRanges [(10, 10), (13, 13)]).complement)
    else some (.set (CharSet.single '\n').complement)
  else none

/-- What a line anchor at the start asserts. -/
def startAnchor (m : Modes) : Assertion :=
  if m.byLine then if m.returnEnds then .lineStartReturn else .lineStart else .textStart

/-- What a line anchor at the end asserts. -/
def endAnchor (m : Modes) : Assertion :=
  if m.byLine then if m.returnEnds then .lineEndReturn else .lineEnd else .textEnd

/-- What an assertion about words asserts. -/
def word (m : Modes) (a : Assertion) : Assertion :=
  if m.allScripts then .anyScriptWord else a

end Modes

/-! ## Directives -/

/-- A directive while it is read: the modes so far, the letters that were there, whether a hyphen
was there, and whether it is the last thing that was. -/
structure Directive where
  modes : Modes
  letters : List Char
  negated : Bool
  dangling : Bool

namespace Directive

/-- A directive of which nothing has been read. -/
def start (m : Modes) : Directive :=
  ⟨m, [], false, false⟩

/-- A directive with one letter more, which may not be there twice. -/
def addLetter? (d : Directive) (c : Char) : Option Directive :=
  if c ∈ d.letters then none
  else (d.modes.switch? c !d.negated).map fun m => ⟨m, c :: d.letters, d.negated, false⟩

/-- A directive with a hyphen, of which there may be one. -/
def addHyphen? (d : Directive) : Option Directive :=
  if d.negated then none else some { d with negated := true, dangling := true }

/-- Reads a directive up to the character that ends it: a parenthesis, or the colon of a group,
for which the flag stands. Only the directive of a group may be empty. -/
def read? : Directive → List Char → Option (Modes × Bool × List Char)
  | _, [] => none
  | d, c :: rest =>
    if c = ':' then if d.dangling then none else some (d.modes, true, rest)
    else if c = ')' then
      if d.dangling || d.letters.isEmpty then none else some (d.modes, false, rest)
    else if c = '-' then
      match d.addHyphen? with
      | some d => d.read? rest
      | none => none
    else
      match d.addLetter? c with
      | some d => d.read? rest
      | none => none

end Directive

end Positioning.Pattern

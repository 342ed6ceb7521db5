import Positioning.Pattern.Brackets
import Positioning.Pattern.Limit

/-!
# Reading patterns

A pattern is written as a regular expression: characters that stand for themselves, a period, line
anchors, escapes, classes in brackets, groups, repetitions, and bars between alternatives. Groups
may have names, each of its own, and a directive may change the modes up to the end of the group
that it stands in.

The text is read once. The groups that are open are kept on a stack, the innermost one first; the
outermost one is the whole pattern.
-/

namespace Positioning.Pattern

/-- A part of a pattern: what it describes, the depth to which its text is nested, and whether it
may be repeated, which a directive may not. -/
structure Part where
  pattern : Pattern
  depth : Nat
  repeats : Bool

namespace Part

/-- A part that is no group of parts. -/
def simple (p : Pattern) : Part :=
  ⟨p, 0, true⟩

/-- A directive in its place. -/
def directive : Part :=
  ⟨.empty, 0, false⟩

/-- The depth of parts taken together. More than one are a level of their own. -/
def depthOf (parts : List Part) : Nat :=
  let deepest := (parts.map Part.depth).foldl max 0
  if 2 ≤ parts.length then deepest + 1 else deepest

/-- Parts one after another. -/
def sequence (parts : List Part) : Part :=
  ⟨.sequence (parts.map Part.pattern), depthOf parts, true⟩

/-- Any of some parts. -/
def anyOf (parts : List Part) : Part :=
  ⟨.anyOf (parts.map Part.pattern), depthOf parts, true⟩

/-- A part that is repeated. -/
def times (p : Part) (least : Nat) (most? : Option Nat) : Part :=
  ⟨p.pattern.times least most?, p.depth + 1, true⟩

end Part

/-- A group that is open: the modes to go back to behind it, the alternatives read so far and the
parts of the one at hand, the last one first. -/
structure OpenGroup where
  outerModes : Modes
  branches : List Part
  parts : List Part

namespace OpenGroup

/-- A group of which nothing has been read. -/
def fresh (m : Modes) : OpenGroup :=
  ⟨m, [], []⟩

/-- The alternatives with the one at hand. -/
def allBranches (g : OpenGroup) : List Part :=
  g.branches ++ [Part.sequence g.parts.reverse]

/-- What a group describes. -/
def toPart (g : OpenGroup) : Part :=
  Part.anyOf g.allBranches

end OpenGroup

/-- What has been read: the modes, the names of groups, and the groups that are open. -/
structure Progress where
  modes : Modes
  names : List (List Char)
  group : OpenGroup
  outer : List OpenGroup

namespace Progress

/-- Nothing has been read. -/
def initial : Progress :=
  ⟨.initial, [], .fresh .initial, []⟩

/-- Adds a part to the innermost group. -/
def add (p : Progress) (part : Part) : Progress :=
  { p with group := { p.group with parts := part :: p.group.parts } }

/-- Opens a group that is read under given modes. -/
def openGroup (p : Progress) (m : Modes) : Progress :=
  { p with modes := m, group := .fresh p.modes, outer := p.group :: p.outer }

/-- Closes the innermost group. -/
def closeGroup? (p : Progress) : Option Progress :=
  match p.outer with
  | [] => none
  | group :: outer =>
    let part := p.group.toPart
    let closed : Progress := ⟨p.group.outerModes, p.names, group, outer⟩
    some (closed.add ⟨part.pattern, part.depth + 1, true⟩)

/-- Ends an alternative. -/
def endBranch (p : Progress) : Progress :=
  { p with group := { p.group with branches := p.group.allBranches, parts := [] } }

/-- Repeats the last part, if there is one that may be repeated. -/
def repeatLast? (p : Progress) (least : Nat) (most? : Option Nat) : Option Progress :=
  match p.group.parts with
  | [] => none
  | last :: before =>
    if last.repeats then
      some { p with group := { p.group with parts := last.times least most? :: before } }
    else none

/-! ## Groups -/

/-- The characters of a name; the first one is no digit. Letters beyond ASCII are not told from
other characters. -/
def isNameChar (first : Bool) (c : Char) : Bool :=
  c = '_' || c.isAlpha || 128 ≤ c.toNat ||
    (!first && (c.isDigit || c = '.' || c = '[' || c = ']'))

/-- Every character of a name may stand where it does. -/
def isName : List Char → Bool
  | [] => false
  | c :: rest => isNameChar true c && rest.all (isNameChar false)

/-- Reads the name of a group, up to the bracket that closes it. -/
def readNamed (p : Progress) (cs : List Char) : Option (Progress × List Char) :=
  let name := cs.takeWhile (· ≠ '>')
  match cs.dropWhile (· ≠ '>') with
  | [] => none
  | _ :: rest =>
    if isName name && name ∉ p.names then
      some ({ p with names := name :: p.names }.openGroup p.modes, rest)
    else none

/-- Reads what a parenthesis begins: a group, or a directive. What looks ahead or back is not
read. -/
def readGroup (p : Progress) (cs : List Char) : Option (Progress × List Char) :=
  match p.modes.skip cs with
  | '?' :: '=' :: _ => none
  | '?' :: '!' :: _ => none
  | '?' :: '<' :: '=' :: _ => none
  | '?' :: '<' :: '!' :: _ => none
  | '?' :: 'P' :: '<' :: rest => p.readNamed rest
  | '?' :: '<' :: rest => p.readNamed rest
  | '?' :: rest =>
    match (Directive.start p.modes).read? rest with
    | none => none
    | some (m, true, rest) => some (p.openGroup m, rest)
    | some (m, false, rest) => some ({ p with modes := m }.add .directive, rest)
  | rest => some (p.openGroup p.modes, rest)

/-! ## Repetitions -/

/-- The largest count of a repetition. -/
def maxCount : Nat :=
  4294967295

/-- Reads digits. The fuel is the length of the text. -/
def readDigits (m : Modes) : Nat → List Char → List Char → List Char × List Char
  | 0, digits, cs => (digits, cs)
  | _, digits, [] => (digits, [])
  | fuel + 1, digits, c :: rest =>
    if c.isDigit then readDigits m fuel (digits ++ [c]) (m.skip rest) else (digits, c :: rest)

/-- Reads a count with white space around it. -/
def readCount (m : Modes) (cs : List Char) : Option (Nat × List Char) :=
  let (digits, rest) := readDigits m cs.length [] (cs.dropWhile Text.isSpace)
  let n := digits.foldl (fun n c => 10 * n + (c.toNat - 48)) 0
  if digits.isEmpty || maxCount < n then none else some (n, m.skip (rest.dropWhile Text.isSpace))

/-- Reads the counts of a repetition behind its brace, up to the closing brace. -/
def readCounts (m : Modes) (cs : List Char) : Option ((Nat × Option Nat) × List Char) :=
  match readCount m (m.skip cs) with
  | none => none
  | some (least, ',' :: rest) =>
    match m.skip rest with
    | '\x7d' :: rest => some ((least, none), rest)
    | rest =>
      match readCount m rest with
      | some (most, '\x7d' :: rest) =>
        if least ≤ most then some ((least, some most), rest) else none
      | _ => none
  | some (least, '\x7d' :: rest) => some ((least, some least), rest)
  | _ => none

/-- A text without the question mark that tells which part is to be found first. -/
def skipLazy : List Char → List Char
  | '?' :: rest => rest
  | cs => cs

/-- Reads what follows the last part if that is repeated. -/
def readRepetition (p : Progress) (c : Char) (rest : List Char) :
    Option (Progress × List Char) :=
  match c with
  | '?' => (p.repeatLast? 0 (some 1)).map fun p => (p, skipLazy rest)
  | '*' => (p.repeatLast? 0 none).map fun p => (p, skipLazy rest)
  | '+' => (p.repeatLast? 1 none).map fun p => (p, skipLazy rest)
  | _ =>
    match readCounts p.modes rest with
    | none => none
    | some ((least, most?), rest) =>
      (p.repeatLast? least most?).map fun p => (p, skipLazy (p.modes.skip rest))

/-! ## Parts -/

/-- Reads a class in brackets. -/
def readClass (p : Progress) (cs : List Char) : Option (Progress × List Char) :=
  (Brackets.read p.modes cs).map fun (s, rest) => (p.add ⟨.set s.set, s.depth, true⟩, rest)

/-- Reads an escape. -/
def readEscape (p : Progress) (cs : List Char) : Option (Progress × List Char) :=
  match Escape.read p.modes cs with
  | none => none
  | some (e, rest) => (e.pattern? p.modes).map fun pattern => (p.add (.simple pattern), rest)

/-- Reads one part, or what belongs to the structure of the pattern. -/
def step (p : Progress) (c : Char) (rest : List Char) : Option (Progress × List Char) :=
  if c = '(' then p.readGroup rest
  else if c = ')' then p.closeGroup?.map fun p => (p, rest)
  else if c = '|' then some (p.endBranch, rest)
  else if c = '[' then p.readClass rest
  else if c = '?' || c = '*' || c = '+' || c = '\x7b' then p.readRepetition c rest
  else if c = '\\' then p.readEscape rest
  else
    let pattern? :=
      if c = '.' then p.modes.dot?
      else if c = '^' then some (.assert p.modes.startAnchor)
      else if c = '$' then some (.assert p.modes.endAnchor)
      else p.modes.literal? c
    pattern?.map fun pattern => (p.add (.simple pattern), rest)

/-- Reads up to the end. Every step takes a character, so the length of the text is fuel enough. -/
def readAll : Nat → Progress → List Char → Option Progress
  | 0, _, _ => none
  | fuel + 1, p, cs =>
    match p.modes.skip cs with
    | [] => some p
    | c :: rest =>
      match p.step c rest with
      | none => none
      | some (p, rest) => readAll fuel p rest

end Progress

/-- The depth to which the text of a pattern may be nested. -/
def depthLimit : Nat :=
  250

/-- The pattern that a text spells, if it spells one that is used. -/
def ofText? (cs : List Char) : Option Pattern :=
  match Progress.readAll (cs.length + 1) .initial cs with
  | none => none
  | some p =>
    let part := p.group.toPart
    if p.outer.isEmpty && part.depth ≤ depthLimit && part.pattern.isUsable then some part.pattern
    else none

end Positioning.Pattern

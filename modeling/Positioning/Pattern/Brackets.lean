import Positioning.Pattern.Escape

/-!
# Classes in brackets

A class in brackets holds characters, ranges of them, named classes such as `[:alpha:]` and classes
in brackets of its own; between these may stand operations on sets, `&&`, `--` and `~~`, which are
done from left to right.

The text is read once. The classes that are open are kept on a stack, the innermost one first.
-/

namespace Positioning.Pattern

/-- An operation on sets. -/
inductive SetOperation where
  | inter
  | difference
  | symmetricDifference
deriving DecidableEq

namespace SetOperation

/-- What an operation gives. -/
def apply : SetOperation → CharSet → CharSet → CharSet
  | inter, s, t => s.inter t
  | difference, s, t => s.difference t
  | symmetricDifference, s, t => s.symmetricDifference t

/-- The operation of a character that is written twice. -/
def ofChar? (c : Char) : Option SetOperation :=
  if c = '&' then some inter
  else if c = '-' then some difference
  else if c = '~' then some symmetricDifference
  else none

end SetOperation

/-- A set with the depth to which its text is nested. -/
structure NestedSet where
  set : CharSet
  depth : Nat

/-- The items of a class so far: their union, the depth of the deepest one and their number. -/
structure Items where
  set : CharSet
  depth : Nat
  count : Nat

namespace Items

/-- No items. -/
def nothing : Items :=
  ⟨.empty, 0, 0⟩

/-- Items with one more. -/
def add (i : Items) (s : NestedSet) : Items :=
  ⟨i.set.union s.set, max i.depth s.depth, i.count + 1⟩

/-- Items with one more that has no depth. -/
def addSet (i : Items) (s : CharSet) : Items :=
  i.add ⟨s, 0⟩

/-- The set of some items. More than one are a level of their own. -/
def toSet (i : Items) : NestedSet :=
  ⟨i.set, if 2 ≤ i.count then i.depth + 1 else i.depth⟩

end Items

/-- A class that is open: whether it is negated, the left side of an operation whose right side is
being read, and the items so far. -/
structure OpenClass where
  negated : Bool
  left? : Option (SetOperation × NestedSet)
  items : Items

namespace OpenClass

/-- The set read so far, with the operation that waits for it. -/
def toSet? (m : Modes) (o : OpenClass) : Option NestedSet :=
  match o.left? with
  | none => some o.items.toSet
  | some (operation, left) =>
    match m.fold? left.set, m.fold? o.items.set with
    | some s, some t => some ⟨operation.apply s t, max left.depth o.items.toSet.depth + 1⟩
    | _, _ => none

/-- A class behind an operation. -/
def operate? (m : Modes) (operation : SetOperation) (o : OpenClass) : Option OpenClass :=
  (o.toSet? m).map fun left => ⟨o.negated, some (operation, left), .nothing⟩

/-- The set of a class that is closed. -/
def close? (m : Modes) (o : OpenClass) : Option NestedSet :=
  match o.toSet? m with
  | none => none
  | some s => (m.class? o.negated s.set).map fun closed => ⟨closed, s.depth + 1⟩

/-- Reads the hyphens at the front of a class, which stand for themselves. -/
def openHyphens (m : Modes) (o : OpenClass) : Nat → List Char → Option (OpenClass × List Char)
  | 0, _ => none
  | _, [] => none
  | fuel + 1, c :: rest =>
    if c = '-' then
      { o with items := o.items.addSet (.single '-') }.openHyphens m fuel (m.skip rest)
    else if c = ']' && o.items.count = 0 then
      match m.skip rest with
      | [] => none
      | rest => some ({ o with items := o.items.addSet (.single ']') }, rest)
    else some (o, c :: rest)

/-- Reads the front of a class behind its bracket: a caret that negates it, and hyphens or a closing
bracket that stand for themselves. -/
def open? (m : Modes) (cs : List Char) : Option (OpenClass × List Char) :=
  match m.skip cs with
  | '^' :: rest =>
    OpenClass.openHyphens m ⟨true, none, .nothing⟩ (rest.length + 1) (m.skip rest)
  | rest => OpenClass.openHyphens m ⟨false, none, .nothing⟩ (rest.length + 1) rest

end OpenClass

namespace Brackets

/-! ## Named classes -/

/-- The ASCII class with a name. -/
def named? (name : List Char) : Option CharSet :=
  match String.ofList name with
  | "alnum" => some (.ofRanges [(48, 57), (65, 90), (97, 122)])
  | "alpha" => some (.ofRanges [(65, 90), (97, 122)])
  | "ascii" => some (.ofRanges [(0, 127)])
  | "blank" => some (.ofRanges [(9, 9), (32, 32)])
  | "cntrl" => some (.ofRanges [(0, 31), (127, 127)])
  | "digit" => some (.ofRanges [(48, 57)])
  | "graph" => some (.ofRanges [(33, 126)])
  | "lower" => some (.ofRanges [(97, 122)])
  | "print" => some (.ofRanges [(32, 126)])
  | "punct" => some (.ofRanges [(33, 47), (58, 64), (91, 96), (123, 126)])
  | "space" => some (.ofRanges [(9, 13), (32, 32)])
  | "upper" => some (.ofRanges [(65, 90)])
  | "word" => some (.ofRanges [(48, 57), (65, 90), (95, 95), (97, 122)])
  | "xdigit" => some (.ofRanges [(48, 57), (65, 70), (97, 102)])
  | _ => none

/-- Reads the name of a class up to the colon and the bracket that close it. -/
def readName (negated : Bool) (cs : List Char) : Option (Bool × CharSet × List Char) :=
  match cs.dropWhile (· ≠ ':') with
  | ':' :: ']' :: rest =>
    (named? (cs.takeWhile (· ≠ ':'))).map fun s => (negated, s, rest)
  | _ => none

/-- Reads a named class behind its first bracket, if one stands there. -/
def readNamed : List Char → Option (Bool × CharSet × List Char)
  | ':' :: '^' :: rest => readName true rest
  | ':' :: rest => readName false rest
  | _ => none

/-! ## Items -/

/-- Reads one character or escape. -/
def readOne (m : Modes) : List Char → Option (Escape × List Char)
  | [] => none
  | '\\' :: rest => Escape.read m rest
  | c :: rest => some (.char c, rest)

/-- The character that an escape stands for, where a class may have it. -/
def char? (m : Modes) : Escape → Option Char
  | .char c => if m.allScripts || c.toNat < 128 then some c else none
  | _ => none

/-- The set that an escape stands for. An assertion stands for none. -/
def item? (m : Modes) : Escape → Option CharSet
  | .kind negated s => Escape.set? m negated s
  | e => (char? m e).map .single

/-- The character behind the first one that is looked at to tell a range from a hyphen. A comment
counts up to its first blank only. -/
def peek (m : Modes) (rest : List Char) : Option Char :=
  if m.spaced then
    match rest.dropWhile Text.isSpace with
    | [] => rest.head?
    | '#' :: comment => (comment.dropWhile Text.isSpace).head?.or rest.head?
    | c :: _ => some c
  else rest.head?

/-- The range from one character to another, in this order. -/
def range? (low high : Char) : Option CharSet :=
  if low ≤ high then some (.range low high) else none

/-- Reads a character, a range or an escape. A hyphen before a bracket or another hyphen makes no
range. -/
def readItem (m : Modes) (cs : List Char) : Option (CharSet × List Char) :=
  match readOne m cs with
  | none => none
  | some (first, rest) =>
    match m.skip rest with
    | [] => none
    | c :: rest =>
      if c = '-' && peek m rest ≠ some ']' && peek m rest ≠ some '-' then
        match m.skip rest with
        | [] => none
        | rest =>
          match readOne m rest with
          | none => none
          | some (second, rest) =>
            match char? m first, char? m second with
            | some low, some high => (range? low high).map fun s => (s, rest)
            | _, _ => none
      else (item? m first).map fun s => (s, c :: rest)

/-! ## Classes -/

/-- What a step of reading leaves: open classes, or the set of the outermost one. -/
inductive Step where
  | more (open? : List OpenClass) (rest : List Char)
  | done (s : NestedSet) (rest : List Char)

/-- Adds a set to the innermost class. -/
def addTo (s : NestedSet) : List OpenClass → List OpenClass
  | [] => []
  | o :: outer => { o with items := o.items.add s } :: outer

/-- Closes the innermost class. -/
def close? (m : Modes) (rest : List Char) : List OpenClass → Option Step
  | [] => none
  | o :: outer =>
    match o.close? m with
    | none => none
    | some s => some (if outer.isEmpty then .done s rest else .more (addTo s outer) rest)

/-- Puts an operation behind what has been read of the innermost class. -/
def operate? (m : Modes) (operation : SetOperation) (rest : List Char) :
    List OpenClass → Option Step
  | [] => none
  | o :: outer => (o.operate? m operation).map fun o => .more (o :: outer) rest

/-- Reads what a bracket begins: a named class, or another class in brackets. -/
def openStep (m : Modes) (classes : List OpenClass) (rest : List Char) : Option Step :=
  match readNamed rest with
  | some (negated, s, rest) =>
    (m.class? negated s).map fun s => .more (addTo ⟨s, 0⟩ classes) rest
  | none => (OpenClass.open? m rest).map fun (o, rest) => .more (o :: classes) rest

/-- Reads one part of the innermost class. -/
def step (m : Modes) (classes : List OpenClass) (cs : List Char) : Option Step :=
  match m.skip cs with
  | [] => none
  | c :: rest =>
    if c = '[' then openStep m classes rest
    else if c = ']' then close? m rest classes
    else
      match (if rest.head? = some c then SetOperation.ofChar? c else none) with
      | some operation => operate? m operation (rest.drop 1) classes
      | none => (readItem m (c :: rest)).map fun (s, rest) => .more (addTo ⟨s, 0⟩ classes) rest

/-- Reads up to the end of the outermost class. Every step takes a character, so the length of the
text is fuel enough. -/
def readRest (m : Modes) : Nat → List OpenClass → List Char → Option (NestedSet × List Char)
  | 0, _, _ => none
  | fuel + 1, classes, cs =>
    match step m classes cs with
    | none => none
    | some (.done s rest) => some (s, rest)
    | some (.more classes rest) => readRest m fuel classes rest

/-- Reads a class in brackets behind its first bracket. -/
def read (m : Modes) (cs : List Char) : Option (NestedSet × List Char) :=
  match OpenClass.open? m cs with
  | none => none
  | some (o, rest) => readRest m (rest.length + 1) [o] rest

end Brackets

end Positioning.Pattern

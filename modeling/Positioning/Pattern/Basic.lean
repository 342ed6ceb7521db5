import Positioning.Pattern.CharSet

/-!
# Patterns

A pattern describes texts: it is made of sets of characters, and of assertions about the place in
the text between two characters. `Pattern.isIn` says that a text contains a part that a pattern
describes.

A text is read once from its front. What may still follow is a list of patterns, the remainders
of the pattern after each beginning of a part that was read; each character takes every remainder to
those after it.

## Main definitions

- `Gap` is a place between two characters, `Assertion.holds` what is asserted of it.
- `Pattern.acceptsEmpty` says that a pattern describes the empty part at a place.
- `Pattern.step` gives the remainders of a pattern after a character.
- `Pattern.isIn` looks for a part in a text.
-/

namespace Positioning

/-- A place in a text: the characters before and after it. -/
structure Gap where
  before? : Option Char
  after? : Option Char

/-- What may be asserted of a place. -/
inductive Assertion where
  | textStart
  | textEnd
  | lineStart
  | lineEnd
  | lineStartReturn
  | lineEndReturn
  | wordEdge
  | noWordEdge
  | wordStart
  | wordEnd
  | wordStartHalf
  | wordEndHalf
  /-- An assertion about words of all scripts, which is not decided here. -/
  | anyScriptWord
deriving DecidableEq

/-- The characters of words: ASCII letters, digits and the underscore. -/
def isWordChar (c : Char) : Bool :=
  c.isAlphanum || c = '_'

namespace Gap

/-- The character before a place belongs to a word. -/
def wordBefore (p : Gap) : Bool :=
  p.before?.any isWordChar

/-- The character after a place belongs to a word. -/
def wordAfter (p : Gap) : Bool :=
  p.after?.any isWordChar

/-- The character before a place is a given one. -/
def isBehind (p : Gap) (c : Char) : Bool :=
  p.before? = some c

/-- The character after a place is a given one. -/
def isBefore (p : Gap) (c : Char) : Bool :=
  p.after? = some c

end Gap

namespace Assertion

/-- An assertion is true of a place. Where a carriage return ends lines too, the two characters of
a line end belong together. -/
def holds (p : Gap) : Assertion → Bool
  | textStart => p.before?.isNone
  | textEnd => p.after?.isNone
  | lineStart => p.before?.isNone || p.isBehind '\n'
  | lineEnd => p.after?.isNone || p.isBefore '\n'
  | lineStartReturn =>
    p.before?.isNone || p.isBehind '\n' || (p.isBehind '\r' && !p.isBefore '\n')
  | lineEndReturn =>
    p.after?.isNone || p.isBefore '\r' || (p.isBefore '\n' && !p.isBehind '\r')
  | wordEdge => p.wordBefore != p.wordAfter
  | noWordEdge => p.wordBefore == p.wordAfter
  | wordStart => !p.wordBefore && p.wordAfter
  | wordEnd => p.wordBefore && !p.wordAfter
  | wordStartHalf => !p.wordBefore
  | wordEndHalf => !p.wordAfter
  | anyScriptWord => false

end Assertion

/-- A description of texts. -/
inductive Pattern where
  | empty
  | set (s : CharSet)
  | assert (a : Assertion)
  | append (first second : Pattern)
  | either (first second : Pattern)
  | repeated (p : Pattern) (least : Nat) (most? : Option Nat)
deriving DecidableEq

namespace Pattern

/-- A pattern describes the empty part at a place. -/
def acceptsEmpty (place : Gap) : Pattern → Bool
  | empty => true
  | set _ => false
  | assert a => a.holds place
  | append first second => first.acceptsEmpty place && second.acceptsEmpty place
  | either first second => first.acceptsEmpty place || second.acceptsEmpty place
  | repeated p least _ => least = 0 || p.acceptsEmpty place

/-- A pattern behind another one. -/
def join (first second : Pattern) : Pattern :=
  match first with
  | empty => second
  | _ => append first second

/-- The remainders of a pattern after a character that follows a place. Rounds of a repetition
that describe the empty part there need not be made any more. -/
def step (place : Gap) (c : Char) : Pattern → List Pattern
  | empty => []
  | set s => if s.contains c then [empty] else []
  | assert _ => []
  | append first second =>
    (first.step place c).map (fun p => p.join second) ++
      if first.acceptsEmpty place then second.step place c else []
  | either first second => first.step place c ++ second.step place c
  | repeated p least most? =>
    if most? = some 0 then []
    else
      let least := if p.acceptsEmpty place then 0 else least - 1
      (p.step place c).map fun q => q.join (repeated p least (most?.map (· - 1)))

/-- A part that one of the remainders describes, or that begins later and that the pattern
describes, is found in a text. -/
def isFound (pattern : Pattern) : Option Char → List Pattern → List Char → Bool
  | before?, remainders, [] => (pattern :: remainders).any (·.acceptsEmpty ⟨before?, none⟩)
  | before?, remainders, c :: rest =>
    let place : Gap := ⟨before?, some c⟩
    let current := pattern :: remainders
    current.any (·.acceptsEmpty place) ||
      isFound pattern (some c) (current.flatMap (·.step place c)).eraseDups rest

/-- A text contains a part that a pattern describes. -/
def isIn (pattern : Pattern) (text : List Char) : Bool :=
  isFound pattern none [] text

/-! ## Making patterns -/

/-- A text of its own. -/
def char (c : Char) : Pattern :=
  set (.single c)

/-- Patterns one after another. -/
def sequence (ps : List Pattern) : Pattern :=
  ps.foldr join empty

/-- Any of some patterns. -/
def anyOf : List Pattern → Pattern
  | [] => set .empty
  | [p] => p
  | p :: rest => either p (anyOf rest)

/-- A pattern describes more than empty parts. -/
def takesChars : Pattern → Bool
  | empty => false
  | set _ => true
  | assert _ => false
  | append first second => first.takesChars || second.takesChars
  | either first second => first.takesChars || second.takesChars
  | repeated p _ _ => p.takesChars

/-- A pattern repeated at least and at most so many times. Of empty parts one is enough. -/
def times (p : Pattern) (least : Nat) (most? : Option Nat) : Pattern :=
  let least := if p.takesChars then least else min least 1
  let most? := if p.takesChars then most? else some (min (most?.getD 1) 1)
  if least = 0 && most? = some 0 then empty
  else if least = 1 && most? = some 1 then p
  else repeated p least most?

end Pattern

end Positioning

import Positioning.Log.Record
import Positioning.Pattern.Reader
import Positioning.Text.Pieces
import Positioning.Text.Space

/-!
# Which records are written

A filter is told by a text: directives between commas, each a level, the name of a source, or both
with an equals sign between them. A directive with a name is about the sources whose target begins
with it, and of those that are about a source the one with the longest name decides. Behind a slash
there may stand a pattern that every record must contain.

Directives and patterns that mean nothing are passed over. A text without a directive lets errors
through.
-/

namespace Positioning.Log

open Text (pieces trim)

/-- Up to which level a directive lets records through; without a level it lets none through. -/
structure Directive where
  name? : Option String
  level? : Option Level
deriving DecidableEq

/-- The directives of a filter, and the pattern that every record must contain. -/
structure Filter where
  directives : List Directive
  content? : Option Pattern

namespace Directive

/-- The length of the name, for the choice of a directive. -/
def weight (d : Directive) : Nat :=
  match d.name? with
  | some name => name.utf8ByteSize
  | none => 0

/-- A directive is about the sources whose target begins with its name. -/
def covers (d : Directive) (target : String) : Bool :=
  match d.name? with
  | some name => name.toList.isPrefixOf target.toList
  | none => true

/-- A directive lets a level through that is not less grave than its own. -/
def admits (d : Directive) (level : Level) : Bool :=
  match d.level? with
  | some limit => level.rank ≤ limit.rank
  | none => false

/-- Adds a directive in the place of one with the same name, or else behind the others. -/
def insert (d : Directive) : List Directive → List Directive
  | [] => [d]
  | first :: rest => if first.name? = d.name? then d :: rest else first :: insert d rest

/-- The heavier of two directives, the second one if they weigh the same. -/
def heavier (best? : Option Directive) (d : Directive) : Option Directive :=
  match best? with
  | some best => if best.weight ≤ d.weight then some d else some best
  | none => some d

end Directive

namespace Filter

/-! ## Deciding -/

/-- The directive that decides about a target. -/
def directive? (f : Filter) (target : String) : Option Directive :=
  (f.directives.filter (·.covers target)).foldl Directive.heavier none

/-- A record is written. -/
def accepts (f : Filter) (r : Record) : Bool :=
  (match f.directive? r.source.target with
    | some d => d.admits r.level
    | none => false) &&
  match f.content? with
  | some pattern => pattern.isIn r.text.toList
  | none => true

/-! ## Reading -/

/-- The level that a text names, in letters of either case. Off is a level too, which lets nothing
through. -/
def level? (cs : List Char) : Option (Option Level) :=
  match String.ofList (cs.map Char.toUpper) with
  | "OFF" => some none
  | "ERROR" => some (some .error)
  | "WARN" => some (some .warn)
  | "INFO" => some (some .info)
  | "DEBUG" => some (some .debug)
  | "TRACE" => some (some .trace)
  | _ => none

/-- The directive that a text spells, if it spells one. -/
def readDirective? (cs : List Char) : Option Directive :=
  match pieces '=' cs with
  | [one] =>
    match level? one with
    | some level => some ⟨none, level⟩
    | none => some ⟨some (String.ofList one), some .trace⟩
  | [name, level] =>
    if (trim level).isEmpty then some ⟨some (String.ofList name), some .trace⟩
    else (level? (trim level)).map fun level => ⟨some (String.ofList name), level⟩
  | _ => none

/-- The directives that a text spells, in the order in which their names first came. -/
def readDirectives (cs : List Char) : List Directive :=
  let texts := ((pieces ',' cs).map trim).filter fun t => !t.isEmpty
  (texts.filterMap readDirective?).foldl (fun ds d => d.insert ds) []

/-- The directives, where errors come through if there are none. -/
def orErrors : List Directive → List Directive
  | [] => [⟨none, some .error⟩]
  | ds => ds

/-- The filter that a text tells. A text with two slashes tells nothing. -/
def ofText (text : String) : Filter :=
  match pieces '/' text.toList with
  | [directives] => ⟨orErrors (readDirectives directives), none⟩
  | [directives, content] =>
    ⟨orErrors (readDirectives directives), Pattern.ofText? content⟩
  | _ => ⟨orErrors [], none⟩

/-- The filter where none is told. -/
def unset : String :=
  "info"

/-- The filter of a setting that may be missing. -/
def ofSetting (text? : Option String) : Filter :=
  ofText (text?.getD unset)

end Filter

end Positioning.Log

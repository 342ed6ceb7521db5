import Positioning.Text.Pieces
import Positioning.Text.Terminal

/-!
# Command lines

The tools take a configuration file by option and, some of them, a device by position. Arguments are
read from left to right, and the first problem decides; that a device is missing is noticed last.

An option that waits for its value, or whose value is not taken in yet, is looked at when the next
option or device is accepted, or at the end. An unknown option or a surplus device is reported at
once and wins over what is wrong with such an option.

## Main definitions

- `CommandLine.Form` is what a tool may be given; `helpText` and `versionText` describe it.
- `CommandLine.parse` reads the arguments, or tells why reading stopped.
- `CommandLine.parseOrNotice` gives what is printed where reading stopped.
-/

namespace Positioning.CommandLine

/-- What a tool may be given. -/
structure Form where
  name : String
  about? : Option String
  takesConfig : Bool
  takesDevice : Bool

/-- What a tool was given. -/
structure Arguments where
  config? : Option String
  device? : Option String
deriving DecidableEq

/-- Why reading stopped. -/
inductive Stop where
  | missingDevice
  | unknownArgument
  | missingValue
  | surplusValue
  | repeatedOption
  | help
  | version
deriving DecidableEq

/-! ## Help -/

/-- The version of the tools. -/
def version : String :=
  "0.1.0"

/-- The answer to a request for the version. -/
def versionText (form : Form) : String :=
  Terminal.strip false (form.name ++ " " ++ version ++ "\n")

/-- The options of a form, each with what it is for. -/
def options (form : Form) : List (String × String) :=
  (if form.takesConfig then [("-c, --config <CONFIG_PATH>", "Path of the configuration file")]
    else []) ++ [("-h, --help", "Print help"), ("-V, --version", "Print version")]

/-- Lines of two columns, the first one as wide as its widest cell. -/
def columns (rows : List (String × String)) : String :=
  let width := (rows.map fun row => row.1.length).foldl max 0
  let pad := fun (cell : String) => String.ofList (List.replicate (width - cell.length) ' ')
  String.join (rows.map fun row => "  " ++ row.1 ++ pad row.1 ++ "  " ++ row.2 ++ "\n")

/-- The name of the file that a program is run from: the last component of its path that says where
it is. Where there is none, or where it is the directory above, the path stands for itself. -/
def fileName (path : String) : String :=
  match ((Text.pieces '/' path.toList).filter fun c => c ≠ [] && c ≠ ['.']).getLast? with
  | none | some ['.', '.'] => path
  | some name => String.ofList name

/-- What a tool is called with: its name, and then its arguments. A tool without a name leaves no
blank in front of them. -/
def usageText (form : Form) : String :=
  let name := fileName form.name
  let parts := (if name = "" then [] else [Terminal.strip false name]) ++
    (if form.takesConfig then ["[OPTIONS]"] else []) ++
    (if form.takesDevice then ["<DEVICE>"] else [])
  "Usage: " ++ " ".intercalate parts

/-- The answer to a request for help. -/
def helpText (form : Form) : String :=
  (match form.about? with
    | some about => about ++ "\n\n"
    | none => "") ++
  usageText form ++ "\n\n" ++
  (if form.takesDevice then
    "Arguments:\n" ++
      columns [("<DEVICE>", "GPS device to open (device node or Bluetooth address)")] ++ "\n"
  else "") ++
  "Options:\n" ++ columns (options form)

/-! ## Reading -/

/-- What an argument before the end of the options looks like. -/
inductive Shape where
  /-- A long option, with the value that is attached to it. -/
  | long (name : String) (value? : Option String)
  /-- A short option with the characters behind its letter. -/
  | short (letter : Char) (rest : List Char)
  /-- Neither: a value or a device. -/
  | plain
deriving DecidableEq

/-- The value that follows an equals sign in the text of an option, and what stands before it. -/
def splitValue (cs : List Char) : String × Option String :=
  (String.ofList (cs.takeWhile (· ≠ '=')),
    match cs.dropWhile (· ≠ '=') with
    | [] => none
    | _ :: value => some (String.ofList value))

/-- The shape of an argument. A hyphen alone is a plain one. -/
def shape (argument : String) : Shape :=
  match argument.toList with
  | '-' :: '-' :: rest => .long (splitValue rest).1 (splitValue rest).2
  | '-' :: letter :: rest => .short letter rest
  | _ => .plain

/-- The configuration option while it is not settled. -/
inductive Pending where
  | nothing
  | awaiting
  | given (value : String)
deriving DecidableEq

/-- What has been read so far. -/
structure Progress where
  taken : Arguments
  pending : Pending
deriving DecidableEq

namespace Progress

/-- Nothing has been read. -/
def initial : Progress :=
  ⟨⟨none, none⟩, .nothing⟩

/-- Takes in a value of the configuration option, which may be given once. -/
def takeConfig (p : Progress) (value : String) : Except Stop Progress :=
  match p.taken.config? with
  | none => .ok ⟨{ p.taken with config? := some value }, .nothing⟩
  | some _ => .error .repeatedOption

/-- Settles the configuration option. -/
def settle (p : Progress) : Except Stop Progress :=
  match p.pending with
  | .nothing => .ok p
  | .awaiting => .error .missingValue
  | .given value => p.takeConfig value

/-- Accepts the configuration option, with the value that is attached to it or to wait for one. -/
def acceptOption (p : Progress) (value? : Option String) : Except Stop Progress :=
  match p.settle with
  | .error stop => .error stop
  | .ok p =>
    match value? with
    | some value => p.takeConfig value
    | none => .ok { p with pending := .awaiting }

/-- Accepts a request that ends the reading. -/
def acceptRequest (p : Progress) (request : Stop) : Except Stop Progress :=
  match p.settle with
  | .error stop => .error stop
  | .ok _ => .error request

/-- Accepts a device, of which there may be one. -/
def acceptDevice (form : Form) (p : Progress) (device : String) : Except Stop Progress :=
  if form.takesDevice && p.taken.device?.isNone then
    match p.settle with
    | .error stop => .error stop
    | .ok p => .ok { p with taken := { p.taken with device? := some device } }
  else .error .unknownArgument

/-- Accepts an argument that is no option: the value that is awaited, or a device. -/
def acceptPlain (form : Form) (p : Progress) (argument : String) : Except Stop Progress :=
  match p.pending with
  | .awaiting => .ok { p with pending := .given argument }
  | _ => p.acceptDevice form argument

/-- Accepts a long option. A request takes no value. -/
def acceptLong (form : Form) (p : Progress) (name : String) (value? : Option String) :
    Except Stop Progress :=
  if form.takesConfig && name = "config" then p.acceptOption value?
  else if name = "help" then
    if value?.isSome then .error .surplusValue else p.acceptRequest .help
  else if name = "version" then
    if value?.isSome then .error .surplusValue else p.acceptRequest .version
  else .error .unknownArgument

/-- The value attached to a short option, with or without an equals sign. -/
def attached? : List Char → Option String
  | [] => none
  | '=' :: value => some (String.ofList value)
  | value => some (String.ofList value)

/-- Accepts a short option. -/
def acceptShort (form : Form) (p : Progress) (letter : Char) (rest : List Char) :
    Except Stop Progress :=
  if form.takesConfig && letter = 'c' then p.acceptOption (attached? rest)
  else if letter = 'h' then p.acceptRequest .help
  else if letter = 'V' then p.acceptRequest .version
  else .error .unknownArgument

/-- Accepts an argument before the end of the options. -/
def accept (form : Form) (p : Progress) (argument : String) : Except Stop Progress :=
  match shape argument with
  | .long name value? => p.acceptLong form name value?
  | .short letter rest => p.acceptShort form letter rest
  | .plain => p.acceptPlain form argument

/-- Settles the configuration option at the end; then a device must have been given to a tool that
takes one. -/
def finish (form : Form) (p : Progress) : Except Stop Arguments :=
  match p.settle with
  | .error stop => .error stop
  | .ok p =>
    if form.takesDevice && p.taken.device?.isNone then .error .missingDevice else .ok p.taken

end Progress

/-- Reads the arguments behind the end of the options, where each is a device. -/
def readDevices (form : Form) : Progress → List String → Except Stop Arguments
  | p, [] => p.finish form
  | p, argument :: rest =>
    match p.acceptDevice form argument with
    | .error stop => .error stop
    | .ok p => readDevices form p rest

/-- The argument that ends the options. -/
def optionsEnd : String :=
  "--"

/-- Reads the arguments. -/
def readAll (form : Form) : Progress → List String → Except Stop Arguments
  | p, [] => p.finish form
  | p, argument :: rest =>
    if argument = optionsEnd then readDevices form p rest
    else
      match p.accept form argument with
      | .error stop => .error stop
      | .ok p => readAll form p rest

/-- What a command line gives a tool, or why reading it stopped. -/
def parse (form : Form) (arguments : List String) : Except Stop Arguments :=
  readAll form .initial arguments

/-! ## Notices -/

/-- What a tool prints when it ends at its command line: what it was asked for, or how it is
called. -/
structure Notice where
  isRequested : Bool
  text : String
deriving DecidableEq

/-- The notice of a tool that stops reading, where a text tells how it is called. -/
def Stop.notice (form : Form) (usage : String) : Stop → Notice
  | .help => ⟨true, helpText form⟩
  | .version => ⟨true, versionText form⟩
  | _ => ⟨false, usage ++ "\n"⟩

/-- What a command line gives a tool, or the notice with which the tool ends. -/
def parseOrNotice (form : Form) (usage : String) (arguments : List String) :
    Except Notice Arguments :=
  match parse form arguments with
  | .ok given => .ok given
  | .error stop => .error (stop.notice form usage)

end Positioning.CommandLine

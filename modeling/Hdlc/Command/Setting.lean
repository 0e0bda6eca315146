import Hdlc.Command.Format
import Hdlc.Log
import Hdlc.Text.Numeral

/-!
# Settings

What the options of each command set, how they are spelled, and how their values are read. A command
line that leads to no command is a request for help or for the version, or has a fault (`Usage`).
-/

namespace Hdlc.Command

/-! ## Usage -/

/-- Why there is no command to run. -/
inductive Usage
  | help
  | version
  | nothingGiven
  | missingCommand
  | unknownCommand
  | unknownArgument
  | missingArgument
  /-- An option is given twice, or together with one that excludes it. -/
  | conflict
  /-- An option lacks its value, or the value is not one of its choices. -/
  | invalidValue
  /-- A switch is given a value. -/
  | unexpectedValue
  /-- The text of a value cannot be read. -/
  | unreadableValue (fault : Text.ValueFault)
  deriving DecidableEq, Repr

/-- The number given to the caller: only an answered request counts as success. -/
def Usage.code : Usage → Nat
  | help => 0
  | version => 0
  | _ => 2

/-- A short account of what is wrong with a command line. -/
def Usage.message : Usage → String
  | help => "help requested"
  | version => "version requested"
  | nothingGiven => "no command given"
  | missingCommand => "a command is required"
  | unknownCommand => "unrecognized command"
  | unknownArgument => "unexpected argument"
  | missingArgument => "a required option is missing"
  | conflict => "options cannot be used together"
  | invalidValue => "missing or invalid value"
  | unexpectedValue => "unexpected value"
  | unreadableValue fault => fault.message

/-! ## Keys -/

/-- What a command line can set. `path` is given by position, all others by name. -/
inductive Key
  | help
  | version
  | format
  | logFormat
  | logLevel
  | address
  | control
  | data
  | hex
  | file
  | output
  | maxFrameSize
  | path
  | count
  | showErrors
  | failOnError
  | extended
  deriving DecidableEq, Repr

namespace Key

/-- The name that follows two hyphens. -/
def long? : Key → Option String
  | help => some "help"
  | version => some "version"
  | format => some "format"
  | logFormat => some "log-format"
  | logLevel => some "log-level"
  | address => some "address"
  | control => some "control"
  | data => some "data"
  | hex => some "hex"
  | file => some "file"
  | output => some "output"
  | maxFrameSize => some "max-frame-size"
  | path => none
  | count => some "count"
  | showErrors => some "show-errors"
  | failOnError => some "fail-on-error"
  | extended => some "extended"

/-- The letter that follows one hyphen. -/
def short? : Key → Option Char
  | help => some 'h'
  | version => some 'V'
  | address => some 'a'
  | control => some 'c'
  | output => some 'o'
  | _ => none

/-- Whether the option is a switch, which takes no value. -/
def isSwitch : Key → Bool
  | help | version | showErrors | failOnError | extended => true
  | _ => false

end Key

inductive LogFormat
  | text
  | json
  deriving DecidableEq, Repr

/-- What one occurrence of an option sets. -/
inductive Setting
  | format (format : Format)
  | logFormat (format : LogFormat)
  | logLevel (level : Log.Level)
  | address (address : UInt64)
  | control (control : Control)
  | data (text : String)
  | hex (text : String)
  | file (path : String)
  | output (path : String)
  | maxFrameSize (limit : Nat)
  | path (path : String)
  | count (count : Nat)
  | switch
  deriving DecidableEq, Repr

namespace Setting

def formats : List (String × Format) :=
  [("json", .json), ("table", .table), ("pretty", .pretty), ("raw", .raw)]

def logFormats : List (String × LogFormat) :=
  [("text", .text), ("json", .json)]

def logLevels : List (String × Log.Level) :=
  [("error", .error), ("warn", .warn), ("info", .info), ("debug", .debug), ("trace", .trace)]

/-- One of the choices that an option offers. -/
def choose {α : Type} (choices : List (String × α)) (text : String) : Except Usage α :=
  match choices.lookup text with
  | some choice => .ok choice
  | none => .error .invalidValue

/-- A path, which is not empty. -/
def readPath (text : String) : Except Usage String :=
  if text = "" then .error .invalidValue else .ok text

/-- A value that is read by rules of its own. -/
def readValue {α : Type} (value : Except Text.ValueFault α) : Except Usage α :=
  value.mapError .unreadableValue

def read (key : Key) (text : String) : Except Usage Setting :=
  match key with
  | .format => (choose formats text).map format
  | .logFormat => (choose logFormats text).map logFormat
  | .logLevel => (choose logLevels text).map logLevel
  | .address => (readValue (Text.readNumber text)).map (address ∘ UInt64.ofNat)
  | .control => (readValue (Text.readOctet text)).map (control ∘ .mk)
  | .data => .ok (data text)
  | .hex => .ok (hex text)
  | .file => (readPath text).map file
  | .output => (readPath text).map output
  | .maxFrameSize => (readValue (Text.readNumber text)).map maxFrameSize
  | .path => (readPath text).map path
  | .count => (readValue (Text.readCount text)).map count
  | .help | .version | .showErrors | .failOnError | .extended => .ok switch

end Setting

/-- Where on the command line an option stands: before the command or behind one of the three. -/
inductive Scope
  | top
  | encode
  | decode
  | version
  deriving DecidableEq, Repr

/-- The options that may stand anywhere. -/
def Scope.common : List Key :=
  [.format, .logFormat, .logLevel, .help]

/-- The named options that a scope knows. -/
def Scope.keys : Scope → List Key
  | top => .version :: common
  | encode => [.address, .control, .data, .hex, .file, .output, .maxFrameSize] ++ common
  | decode => [.address, .count, .maxFrameSize, .showErrors, .failOnError] ++ common
  | version => .extended :: common

/-- The scope behind the name of a command. -/
def Scope.ofName? (name : String) : Option Scope :=
  if name = "encode" then some encode
  else if name = "decode" then some decode
  else if name = "version" then some version
  else none

end Hdlc.Command

import Hdlc.Command.Scan

/-!
# Invocations

A command line that leads to a command. The top scope ends where a command is named; what follows
belongs to that command, and a common option set there prevails over the same option before it.
-/

namespace Hdlc.Command

/-- Where the payload of a frame to encode comes from. -/
inductive PayloadSource
  | hex (text : String)
  | data (text : String)
  | file (path : String)
  | nothing
  deriving DecidableEq, Repr

/-- A frame to encode and what becomes of it. -/
structure EncodeOptions where
  address : UInt64
  control : Control := .unnumberedInformation
  payload : PayloadSource := .nothing
  output : Option String := none
  limit : Nat := Frame.defaultLimit
  deriving DecidableEq, Repr

/-- A stream to decode and what of it is put out. The path `-` stands for standard input. -/
structure DecodeOptions where
  path : String := "-"
  address : Option UInt64 := none
  count : Option Nat := none
  limit : Nat := Frame.defaultLimit
  showErrors : Bool := false
  failOnError : Bool := false
  deriving DecidableEq, Repr

/-- What is to be done. -/
inductive Action
  | encode (options : EncodeOptions)
  | decode (options : DecodeOptions)
  | version (extended : Bool)
  deriving DecidableEq, Repr

/-- A command with the presentation asked for. -/
structure Invocation where
  action : Action
  format : Format := .json
  logFormat : LogFormat := .text
  logLevel : Log.Level := .info
  deriving DecidableEq, Repr

namespace Scan

/-- The first setting that has a value of the wanted sort. -/
def get {α : Type} (scan : Scan) (wanted : Setting → Option α) : Option α :=
  scan.settings.findSome? fun (_, setting) => wanted setting

def payloads (scan : Scan) : List PayloadSource :=
  scan.settings.filterMap fun
    | (_, .hex text) => some (.hex text)
    | (_, .data text) => some (.data text)
    | (_, .file path) => some (.file path)
    | _ => none

def limit (scan : Scan) : Nat :=
  (scan.get fun | .maxFrameSize limit => some limit | _ => none).getD Frame.defaultLimit

def address? (scan : Scan) : Option UInt64 :=
  scan.get fun | .address address => some address | _ => none

/-- The frame to encode. At most one payload may be given, and the address must be. -/
def encodeOptions (scan : Scan) : Except Usage EncodeOptions :=
  match scan.payloads, scan.address? with
  | _ :: _ :: _, _ => .error .conflict
  | _, none => .error .missingArgument
  | payloads, some address =>
      .ok {
        address := address
        control := (scan.get fun | .control control => some control | _ => none).getD
          .unnumberedInformation
        payload := payloads.headD .nothing
        output := scan.get fun | .output path => some path | _ => none
        limit := scan.limit }

def decodeOptions (scan : Scan) : DecodeOptions :=
  { path := (scan.get fun | .path path => some path | _ => none).getD "-"
    address := scan.address?
    count := scan.get fun | .count count => some count | _ => none
    limit := scan.limit
    showErrors := scan.sets .showErrors
    failOnError := scan.sets .failOnError }

/-- Take the arguments before the command, with its name and the arguments behind it. -/
def takeTop (scan : Scan) : List String → Except Usage (Scan × Option (String × List String))
  | [] => .ok (scan, none)
  | argument :: rest =>
      if !scan.literal && !scan.wantsValue &&
          (argument = "help" || (Scope.ofName? argument).isSome) then
        .ok (scan, some (argument, rest))
      else do
        let scan ← scan.take .top argument
        scan.takeTop rest

end Scan

namespace Invocation

/-- The answer to a request for help on the named command. -/
def helpOn : List String → Usage
  | [] => .help
  | name :: rest =>
      if (name = "help" ∨ (Scope.ofName? name).isSome) ∧ rest = [] then .help else .unknownCommand

/-- What a command's own arguments ask for. -/
def actionOf (scope : Scope) (scan : Scan) : Except Usage Action :=
  match scope with
  | .encode => scan.encodeOptions.map .encode
  | .decode => .ok (.decode scan.decodeOptions)
  | .version => .ok (.version (scan.sets .extended))
  | .top => .error .missingCommand

/-- The presentation that the settings of both scopes ask for. -/
def present (action : Action) (scan : Scan) : Invocation :=
  { action := action
    format := (scan.get fun | .format format => some format | _ => none).getD .json
    logFormat := (scan.get fun | .logFormat format => some format | _ => none).getD .text
    logLevel := (scan.get fun | .logLevel level => some level | _ => none).getD .info }

/-- Read a command line, given the log level that the environment asks for. -/
def parse (environment : Option String) (arguments : List String) : Except Usage Invocation := do
  let (top, command) ← Scan.takeTop {} arguments
  match command with
  | none =>
      let top ← (← top.settle).consult environment
      if top.settings = [] then .error .nothingGiven else .error .missingCommand
  | some (name, rest) =>
      match Scope.ofName? name with
      | none => .error (helpOn rest)
      | some scope =>
          let inner ← (← Scan.takeAll scope {} rest).settle
          let action ← actionOf scope (← inner.consult environment)
          let top ← (← top.settle).consult environment
          .ok (present action { settings := inner.settings ++ top.settings })

end Invocation

end Hdlc.Command

import Hdlc.Command.Setting

/-!
# Scanning arguments

One scope of a command line is scanned argument by argument from left to right. An option with a
separate value waits for the argument behind it, and that value is read when the next option or the
end settles it. Behind two bare hyphens every argument stands for itself. The first fault ends the
scan.
-/

namespace Hdlc.Command

/-- The shapes of an argument. A single hyphen is a plain word. -/
inductive Token
  /-- Two bare hyphens. -/
  | separator
  /-- A name behind two hyphens, with the value behind an equals sign. -/
  | long (name : String) (value : Option String)
  /-- Letters behind one hyphen. -/
  | letters (letters : List Char)
  | word
  deriving DecidableEq, Repr

/-- The name and value in an argument that starts with two hyphens. -/
def Token.ofLong (text : List Char) : Token :=
  let name := String.ofList (text.takeWhile (· ≠ '='))
  match text.dropWhile (· ≠ '=') with
  | [] => .long name none
  | _ :: value => .long name (some (String.ofList value))

def Token.ofArgument (argument : String) : Token :=
  match argument.toList with
  | ['-', '-'] => .separator
  | '-' :: '-' :: rest => .ofLong rest
  | '-' :: letter :: rest => .letters (letter :: rest)
  | _ => .word

/-- What has been scanned of one scope. -/
structure Scan where
  /-- What has been set, in order. -/
  settings : List (Key × Setting) := []
  /-- The option not yet settled, with its separate value once that has come. -/
  waiting : Option (Key × Option String) := none
  /-- Whether every further argument stands for itself. -/
  literal : Bool := false
  deriving DecidableEq, Repr

namespace Scan

def sets (scan : Scan) (key : Key) : Bool :=
  scan.settings.any (·.1 = key)

/-- Read a value and set it. No option may be set twice. -/
def record (scan : Scan) (key : Key) (text : String) : Except Usage Scan :=
  if scan.sets key then .error .conflict
  else do
    let setting ← Setting.read key text
    .ok { scan with settings := scan.settings ++ [(key, setting)] }

def settle (scan : Scan) : Except Usage Scan :=
  match scan.waiting with
  | none => .ok scan
  | some (_, none) => .error .invalidValue
  | some (key, some text) => { scan with waiting := none }.record key text

/-- Set a value that is written in the same argument as its option. -/
def attach (scan : Scan) (key : Key) (text : String) : Except Usage Scan := do
  let scan ← scan.settle
  scan.record key text

/-- Let an option wait for its value. -/
def await (scan : Scan) (key : Key) (text : Option String) : Except Usage Scan := do
  let scan ← scan.settle
  .ok { scan with waiting := some (key, text) }

/-- Turn on a switch. Requests for help and for the version are answered at once. -/
def turnOn (scan : Scan) (key : Key) : Except Usage Scan := do
  let scan ← scan.settle
  match key with
  | .help => .error .help
  | .version => .error .version
  | key => scan.record key ""

/-- Take letters behind one hyphen: switches, and at last an option with a value. -/
def takeLetters (scope : Scope) (scan : Scan) : List Char → Except Usage Scan
  | [] => .ok scan
  | letter :: rest =>
      match scope.keys.find? (·.short? = some letter) with
      | none => .error .unknownArgument
      | some key =>
          if key.isSwitch then do
            let scan ← scan.turnOn key
            takeLetters scope scan rest
          else
            match rest with
            | [] => scan.await key none
            | '=' :: value => scan.attach key (String.ofList value)
            | value => scan.attach key (String.ofList value)

/-- Take a name behind two hyphens. -/
def takeLong (scope : Scope) (scan : Scan) (name : String) (value : Option String) :
    Except Usage Scan :=
  match scope.keys.find? (·.long? = some name), value with
  | none, _ => .error .unknownArgument
  | some key, none => if key.isSwitch then scan.turnOn key else scan.await key none
  | some key, some text =>
      if key.isSwitch then .error .unexpectedValue else scan.attach key text

/-- Whether the next argument may be the value of a waiting option. -/
def wantsValue (scan : Scan) : Bool :=
  match scan.waiting with
  | some (_, none) => !scan.literal
  | _ => false

/-- Whether the path of a decoding has been given already. -/
def hasPath (scan : Scan) : Bool :=
  scan.sets .path || scan.waiting.any (·.1 = .path)

/-- Why a scope has no place for a word. -/
def surplus (scope : Scope) (scan : Scan) (text : String) : Usage :=
  if scope ≠ .top then .unknownArgument
  else if scan.literal ∧ (text = "help" ∨ (Scope.ofName? text).isSome) then .unknownArgument
  else .unknownCommand

/-- Take an argument that stands for itself: a waiting option's value or the path to decode. -/
def takeWord (scope : Scope) (scan : Scan) (text : String) : Except Usage Scan :=
  match scan.waiting, scan.wantsValue with
  | some (key, _), true => .ok { scan with waiting := some (key, some text) }
  | _, _ =>
      if scope = .decode ∧ ¬scan.hasPath then scan.await .path (some text)
      else .error (scan.surplus scope text)

def take (scope : Scope) (scan : Scan) (argument : String) : Except Usage Scan :=
  if scan.literal then scan.takeWord scope argument
  else
    match Token.ofArgument argument with
    | .separator => .ok { scan with literal := true }
    | .long name value => scan.takeLong scope name value
    | .letters letters => scan.takeLetters scope letters
    | .word => scan.takeWord scope argument

/-- Take all arguments of a scope that has no further command. -/
def takeAll (scope : Scope) (scan : Scan) : List String → Except Usage Scan
  | [] => .ok scan
  | argument :: rest => do
      let scan ← scan.take scope argument
      scan.takeAll scope rest

/-- Let the environment stand in for a log level that is not set. -/
def consult (environment : Option String) (scan : Scan) : Except Usage Scan :=
  match environment with
  | some level => if scan.sets .logLevel then .ok scan else scan.record .logLevel level
  | none => .ok scan

end Scan

end Hdlc.Command

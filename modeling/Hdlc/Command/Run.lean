import Hdlc.Command.Decoding

/-!
# Running a command

A command is a function of its invocation, of standard input, of the files it can see and of the
time that its output shows. Besides encoding and decoding there is one that tells what the program
says about itself.
-/

namespace Hdlc.Command

/-! ## Version -/

namespace Version

/-- The name under which the program is called. -/
def program : String := "hdlcprims"

def number : String := "0.1.0"

/-- The program and its version on one line. -/
def short : String :=
  program ++ " " ++ number ++ "\n"

/-- What the program was built for and with, and its defaults, one fact to a line. -/
def facts : List (String × String) :=
  [("name", program),
    ("version", number),
    ("target", "x86_64-unknown-linux-gnu"),
    ("target_os", "linux"),
    ("target_arch", "x86_64"),
    ("rustc", "unknown"),
    ("git_hash", "unknown"),
    ("features", "async=true, cli=true"),
    ("max_frame_size_default", toString Frame.defaultLimit)]

def extended : String :=
  String.join (facts.map fun (name, value) => name ++ ": " ++ value ++ "\n")

def text (isExtended : Bool) : Octets :=
  Text.utf8 (if isExtended then extended else short)

end Version

/-! ## Commands -/

/-- What a command is given by its surroundings. -/
structure Surroundings where
  stdin : Octets
  files : Files
  timestamp : String
  deriving DecidableEq, Repr

namespace Invocation

def run (invocation : Invocation) (surroundings : Surroundings) : Result :=
  match invocation.action with
  | .encode options => options.run invocation.format surroundings.files
  | .decode options =>
      options.run invocation.format surroundings.timestamp surroundings.stdin surroundings.files
  | .version extended => ⟨.success, Version.text extended, none, [], surroundings.files⟩

def log (invocation : Invocation) (result : Result) : List Log.Entry :=
  (result.notices.map Notice.entry).filter (·.level.isShownAt invocation.logLevel)

end Invocation

end Hdlc.Command

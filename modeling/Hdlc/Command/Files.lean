import Hdlc.Stream.Source

/-!
# Files

The files and directories that a command can see, and how a path leads to one of them. A path is
walked part by part from the working directory, or from the root if it starts with a slash; every
part but the last must name a directory. Names and paths have a greatest length. Writing creates or
replaces one file and nothing else.
-/

namespace Hdlc.Command

/-- What a path can lead to. -/
inductive Node
  | file (content : Octets)
  | directory
  deriving DecidableEq, Repr

/-- The names that lead from the root to a node. -/
abbrev Location := List String

/-- A tree of files, with the place from which paths start. -/
structure Files where
  nodes : List (Location × Node)
  workingDirectory : Location
  deriving DecidableEq, Repr

/-- What a path asks for, once all of it but the name at its end has been walked. -/
inductive Target
  /-- A directory that the path reaches without naming it at its end. -/
  | directory
  /-- The named entry of a directory; `asDirectory` if a slash follows the name. -/
  | entry (location : Location) (asDirectory : Bool)
  deriving DecidableEq, Repr

namespace Files

/-- A path that leads nowhere. -/
def missing : Failure := ⟨.notFound, "No such file or directory (os error 2)"⟩

/-- A path that treats a file as a directory. -/
def notDirectory : Failure := ⟨.notADirectory, "Not a directory (os error 20)"⟩

/-- An attempt to treat a directory as a file. -/
def directoryGiven : Failure := ⟨.isADirectory, "Is a directory (os error 21)"⟩

/-- A path or a name in it that is longer than any can be. -/
def tooLong : Failure := ⟨.invalidName, "File name too long (os error 36)"⟩

/-- A path with a null character, which ends every path. -/
def nullInside : Failure := ⟨.invalidInput, "file name contained an unexpected NUL byte"⟩

def maxNameSize : Nat := 255

def maxPathSize : Nat := 4095

def checkName (name : String) : Except Failure Unit :=
  if maxNameSize < name.utf8ByteSize then .error tooLong else .ok ()

/-- Refuse a path that leads nowhere by its form alone. -/
def checkPath (path : String) : Except Failure Unit :=
  if '\x00' ∈ path.toList then .error nullInside
  else if maxPathSize < path.utf8ByteSize then .error tooLong
  else .ok ()

/-- The node at a location. The root is always a directory. -/
def node? (files : Files) (location : Location) : Option Node :=
  if location = [] then some .directory
  else (files.nodes.find? (·.1 = location)).map (·.2)

/-- Walk from a directory through parts that must all lead to directories. -/
def walk (files : Files) (here : Location) : List String → Except Failure Location
  | [] => .ok here
  | part :: rest =>
      if part = "" ∨ part = "." then files.walk here rest
      else if part = ".." then files.walk here.dropLast rest
      else do
        checkName part
        match files.node? (here ++ [part]) with
        | none => .error missing
        | some (.file _) => .error notDirectory
        | some .directory => files.walk (here ++ [part]) rest

/-- Walk a path up to the name at its end. -/
def target (files : Files) (path : String) : Except Failure Target := do
  checkPath path
  let parts := path.splitOn "/"
  let start := if parts.head? = some "" then [] else files.workingDirectory
  let named := (parts.reverse.dropWhile (· = "")).reverse
  match named.getLast? with
  | none => .ok .directory
  | some name =>
      if name = "." ∨ name = ".." then (files.walk start named).map fun _ => .directory
      else
        (files.walk start named.dropLast).map fun parent =>
          .entry (parent ++ [name]) (named.length < parts.length)

def find (files : Files) (path : String) : Except Failure Node := do
  match ← files.target path with
  | .directory => .ok .directory
  | .entry location asDirectory =>
      checkName (location.getLastD "")
      match files.node? location with
      | none => .error missing
      | some .directory => .ok .directory
      | some (.file content) => if asDirectory then .error notDirectory else .ok (.file content)

def read (files : Files) (path : String) : Except Failure Octets := do
  match ← files.find path with
  | .file content => .ok content
  | .directory => .error directoryGiven

/-- A source of the octets that a path leads to. A directory can be opened but not read. -/
def openSource (files : Files) (path : String) : Except Failure Source := do
  match ← files.find path with
  | .file content => .ok (.ofOctets content)
  | .directory => .ok { deliveries := [.failure directoryGiven] }

/-- Put a file at a location, in place of the one that was there. -/
def put (files : Files) (location : Location) (content : Octets) : Files :=
  { files with
    nodes := files.nodes.filter (·.1 ≠ location) ++ [(location, .file content)] }

/-- Create the file that a path leads to, or replace its content. -/
def write (files : Files) (path : String) (content : Octets) : Except Failure Files := do
  match ← files.target path with
  | .directory => .error directoryGiven
  | .entry location asDirectory =>
      if asDirectory then .error directoryGiven
      else
        checkName (location.getLastD "")
        if files.node? location = some .directory then .error directoryGiven
        else .ok (files.put location content)

/-- The files in the working directory itself, by name. -/
def here (files : Files) : List (String × Octets) :=
  files.nodes.filterMap fun
    | (location, .file content) =>
        if location.dropLast = files.workingDirectory then
          location.getLast?.map fun name => (name, content)
        else none
    | (_, .directory) => none

theorem node?_put_self (files : Files) {location : Location} (content : Octets)
    (hlocation : location ≠ []) :
    (files.put location content).node? location = some (.file content) := by
  have hold : (files.nodes.filter (·.1 ≠ location)).find? (·.1 = location) = none := by
    simp
  simp only [node?, if_neg hlocation, put, List.find?_append, hold, Option.none_or]
  simp

/-- Putting a file at one location leaves every other one as it was. -/
theorem node?_put_of_ne (files : Files) {location other : Location} (content : Octets)
    (hother : other ≠ location) :
    (files.put location content).node? other = files.node? other := by
  have hkept : (files.nodes.filter (·.1 ≠ location)).find? (·.1 = other) =
      files.nodes.find? (·.1 = other) := by
    rw [List.find?_filter]
    congr 1
    ext node
    grind
  simp only [node?, put, List.find?_append, hkept]
  simp [hother.symm]

end Files

end Hdlc.Command

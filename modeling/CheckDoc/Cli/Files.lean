import CheckDoc.Text.Quoted

/-!
# Files

The program sees its files through a view, which says what stands at a path. A path is normalised
first: repeated slashes and steps to itself go away, steps upwards stay. `Files` is a collection of
files and directories below a working directory, and `Files.view` looks into it.
-/

namespace CheckDoc.Cli

/-- Why a file cannot be read. -/
inductive FileFault where
  /-- Nothing stands at the path. -/
  | missing
  /-- The file may not be read. -/
  | denied
  /-- The path leads through a file. -/
  | notDirectory
  /-- A directory stands at the path. -/
  | isDirectory
  /-- The path or a step of it is too long. -/
  | tooLong
  /-- Some other fault of the system, by its number. -/
  | other (number : Nat) (text : String)
  deriving DecidableEq

/-- The number of a fault. -/
def FileFault.number : FileFault → Nat
  | .missing => 2
  | .denied => 13
  | .notDirectory => 20
  | .isDirectory => 21
  | .tooLong => 36
  | .other n _ => n

/-- What a fault is called. -/
def FileFault.text : FileFault → String
  | .missing => "No such file or directory"
  | .denied => "Permission denied"
  | .notDirectory => "Not a directory"
  | .isDirectory => "Is a directory"
  | .tooLong => "File name too long"
  | .other _ text => text

/-- The report of a fault at a path. -/
def FileFault.message (f : FileFault) (path : String) : String :=
  "[Errno " ++ toString f.number ++ "] " ++ f.text ++ ": " ++ Text.quoted path

/-- Whether a fault of a look at a path says no more than that nothing stands there: that a step is
missing or leads through a file, that links go in circles, or that the path is no file at all. Other
faults are raised. -/
def FileFault.isAbsence (f : FileFault) : Bool := [2, 9, 20, 40].contains f.number

/-- What stands at a path. -/
inductive Entry where
  /-- A file with its octets. -/
  | file (octets : List UInt8)
  /-- A file that cannot be read. -/
  | locked (fault : FileFault)
  /-- A directory with the names in it, in the order in which they are listed. -/
  | directory (names : List String)
  /-- A directory that cannot be listed. -/
  | closed (fault : FileFault)
  /-- Something else, such as a pipe, with what comes of reading it. -/
  | other (octets : Except FileFault (List UInt8))

/-- What stands at each path. -/
abbrev View := String → Except FileFault Entry

/-- What can be read at a path. -/
def View.read (v : View) (path : String) : Except FileFault (List UInt8) :=
  match v path with
  | .ok (.file octets) => .ok octets
  | .ok (.locked fault) | .ok (.closed fault) => .error fault
  | .ok (.directory _) => .error .isDirectory
  | .ok (.other octets) => octets
  | .error fault => .error fault

/-- Whether a file stands at a path, if the path can be looked at. -/
def View.isFile (v : View) (path : String) : Except FileFault Bool :=
  match v path with
  | .ok (.file _) | .ok (.locked _) => .ok true
  | .ok _ => .ok false
  | .error fault => if fault.isAbsence then .ok false else .error fault

/-- The steps of a path, without those to itself. -/
def pathSteps (path : List Char) : List (List Char) :=
  (path.splitOnP (· = '/')).filter fun s => !s.isEmpty && s ≠ ['.']

/-- The root of a path: two slashes differ from one and from more. -/
def pathRoot (path : List Char) : List Char :=
  match path.takeWhile (· = '/') with
  | [] => []
  | ['/', '/'] => ['/', '/']
  | _ => ['/']

/-- A path in its normal form. -/
def normalPath (path : String) : String :=
  let text := pathRoot path.toList ++ ['/'].intercalate (pathSteps path.toList)
  if text.isEmpty then "." else String.ofList text

/-- The path of a name in a directory. -/
def childPath (directory name : String) : String :=
  if directory = "." then name
  else if directory.toList.getLast? = some '/' then directory ++ name
  else directory ++ "/" ++ name

/-- The suffix of a name from its last point on, which is neither its first nor its last
character. -/
def suffixOf (name : String) : String :=
  let s := name.toList
  let after := (s.reverse.takeWhile (· ≠ '.')).reverse
  if after.isEmpty || s.length ≤ after.length + 1 then "" else "." ++ String.ofList after

/-- Files and directories by their steps from the working directory. -/
structure Files where
  /-- The entries; the directories among them hold no names here. -/
  entries : List (List String × Entry)

namespace Files

/-- No files. -/
def empty : Files := ⟨[]⟩

/-- The steps of a relative path. -/
def stepsOf (path : String) : List String := (pathSteps path.toList).map String.ofList

/-- The entry at some steps. -/
def entry? (fs : Files) (steps : List String) : Option Entry :=
  (fs.entries.find? fun e => e.1 = steps).map (·.2)

/-- Adds a directory with those that it stands in. -/
def addDirectory (fs : Files) (path : String) : Files :=
  let steps := stepsOf path
  (List.range steps.length).foldl (fun fs n =>
    let above := steps.take (n + 1)
    if (fs.entry? above).isSome then fs else ⟨fs.entries ++ [(above, .directory [])]⟩) fs

/-- Adds a file with the directories that it stands in. -/
def addFile (fs : Files) (path : String) (octets : List UInt8) : Files :=
  let steps := stepsOf path
  let fs := fs.addDirectory ("/".intercalate steps.dropLast)
  ⟨fs.entries.filter (fun e => e.1 ≠ steps) ++ [(steps, .file octets)]⟩

/-- The names in a directory. -/
def namesIn (fs : Files) (steps : List String) : List String :=
  fs.entries.filterMap fun (path, _) =>
    if path.length = steps.length + 1 && path.take steps.length = steps then path.getLast? else none

/-- The most octets of a step. -/
def maxStep : Nat := 255

/-- The most octets of a path. -/
def maxPath : Nat := 4095

/-- What stands at some steps from a directory. -/
def look (fs : Files) (directory : List String) : List String → Except FileFault Entry
  | [] => .ok (.directory (fs.namesIn directory))
  | ".." :: rest =>
    if directory.isEmpty then .error .missing else fs.look directory.dropLast rest
  | name :: rest =>
    if maxStep < name.utf8ByteSize then .error .tooLong
    else
      match fs.entry? (directory ++ [name]), rest with
      | none, _ => .error .missing
      | some (.directory _), rest => fs.look (directory ++ [name]) rest
      | some e, [] => .ok e
      | some _, _ :: _ => .error .notDirectory

/-- The view of files from their working directory, which also has an absolute path. -/
def view (fs : Files) (cwd : String) : View := fun path =>
  let start := cwd.toList ++ ['/']
  let inside := if start.isPrefixOf path.toList then path.toList.drop start.length else path.toList
  if maxPath < path.utf8ByteSize then .error .tooLong
  else if inside.head? = some '/' then .error .missing
  else fs.look [] (stepsOf (String.ofList inside))

end Files

end CheckDoc.Cli

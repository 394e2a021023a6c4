import CheckDoc.Cli.Run

/-!
# The command line

The entry point: looks at the files that the arguments name, runs the program on what it has seen,
and writes the lines of the run. Links are not tried here, as there is no network.
-/

namespace CheckDoc.Cli

/-- The fault of a number, and what it is called. -/
def FileFault.ofNumber (number : Nat) (text : String) : FileFault :=
  (([.missing, .denied, .notDirectory, .isDirectory, .tooLong] : List FileFault).find?
    fun f => f.number = number).getD (.other number text)

/-- The fault of a failed look at a file. -/
def faultOf (e : IO.Error) : FileFault :=
  match e with
  | .noFileOrDirectory _ code text | .inappropriateType _ code text
  | .permissionDenied _ code text | .invalidArgument _ code text
  | .resourceExhausted _ code text | .otherError code text => .ofNumber code.toNat text
  | e => .other 5 (toString e)

/-- The octets of a file, or why it cannot be read. -/
def readOctets (path : String) : IO (Except FileFault (List UInt8)) := do
  try
    pure (.ok (← IO.FS.readBinFile path).data.toList)
  catch e => pure (.error (faultOf e))

/-- Looks at a path, and reads what stands there if it is of a kind to be read. -/
def look (path : String) (reads : IO.FS.FileType → Bool) : IO (Except FileFault Entry) := do
  let p := System.mkFilePath [path]
  try
    match (← p.metadata).type with
    | .dir =>
      try
        pure (.ok (.directory ((← p.readDir).toList.map (·.fileName))))
      catch e => pure (.ok (.closed (faultOf e)))
    | type =>
      let octets ← if reads type then readOctets path else pure (.ok [])
      pure (.ok (match type, octets with
        | .file, .ok octets => .file octets
        | .file, .error fault => .locked fault
        | _, octets => .other octets))
  catch e => pure (.error (faultOf e))

/-- The paths that a run looks at first. -/
def pathsOf (cwd : String) (args : List String) : List String :=
  match Request.ofArguments args with
  | .ok (.run c o) =>
    [(o.config.map normalPath).getD (childPath cwd configName)] ++
      if c.takesPath then (o.path.map normalPath).toList else []
  | _ => []

/-- Whether a run reads the standard input. -/
def readsInput (args : List String) : Bool :=
  match Request.ofArguments args with
  | .ok (.run c o) => c.takesPath && o.path.isNone
  | _ => false

/-- Looks at some paths, and at the entries of those that are directories. Of these only documents
are read. -/
def lookAll (paths : List String) : IO (List (String × Except FileFault Entry)) := do
  let found ← paths.mapM fun p => do pure (p, ← look p fun _ => true)
  let inner ← found.flatMapM fun (p, e) =>
    match e with
    | .ok (.directory names) =>
      names.mapM fun n => do
        let isDocument := documentSuffixes.contains (suffixOf n)
        let q := childPath p n
        pure (q, ← look q fun type => type == .file && isDocument)
    | _ => pure []
  pure (found ++ inner)

/-- Reads a stream to its end. -/
partial def readAll (s : IO.FS.Stream) (read : ByteArray) : IO ByteArray := do
  let more ← s.read 65536
  if more.isEmpty then pure read else readAll s (read ++ more)

/-- The report of an error that escapes. -/
def Escaped.message : Escaped → String
  | .settings e => e.message
  | .encoding f => f.message
  | .load source e =>
    match e with
    | .defect d => d.message
    | .build b => b.message ((source.decode.toOption).getD "").toList
    | .number f => f.message
  | .integerLength => Numeric.lengthMessage none
  | .file fault path => fault.message path
  | .output f => f.message
  | .trial (.raised e) => e.message
  | .trial .endless => "The links are never answered"

/-- A text for the channel of what goes wrong, where halves of pairs are shown by their codes. -/
def backslashed (text : String) : String :=
  String.ofList (text.toList.flatMap fun c =>
    if Text.Encoding.utf8.covers c then [c] else '\\' :: Text.codeDigits (Text.codeOf c))

end CheckDoc.Cli

open CheckDoc Cli in
/-- Runs the program with the arguments of the command line. -/
def main (args : List String) : IO UInt32 := do
  let cwd := (← IO.currentDir).toString
  let table ← lookAll (pathsOf cwd args)
  let input ← if readsInput args then readAll (← IO.getStdin) .empty else pure .empty
  let view : View := fun p => (table.lookup p).getD (.error .missing)
  let r := CheckDoc.Cli.run ⟨cwd, view, input.data.toList, .utf8, .offline⟩ args
  IO.eprint (Cli.backslashed (Cli.textOf r.output.err))
  IO.print (Cli.textOf r.output.out)
  match r.ending with
  | .code n => pure n.toUInt32
  | .escaped e =>
    IO.eprintln (Cli.backslashed ("Error: " ++ e.message))
    pure 1

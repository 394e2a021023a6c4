import CheckDoc.Cli.Files
import CheckDoc.Cli.Help
import CheckDoc.Config.Reader
import CheckDoc.Document.Summary
import CheckDoc.Lint.Run
import CheckDoc.Text.Encoding

/-!
# The program

A run of the program reads its arguments and the configuration, and then lints documents, shows one,
or lists the rules. What it sees of the outside is a world: a view of files, the standard input, and
the encoding that was chosen for the standard output. What it leaves behind are lines on two
channels and an exit code, unless an error escapes. The exit code is 0 where all is well, 1 where a
document fails, and 2 where the program cannot do what it is asked for.

A line for the reader is written as a whole or not at all: where the encoding has no octets for a
character of it, the run ends with what was printed before. The channel for what goes wrong takes
every line.

A directory stands for the documents in it, in the order of their names. Each entry is looked at
before any document is read, and a look that fails for another reason than that nothing stands there
ends the run. Then each document is linted, whatever comes out for those before it.
-/

namespace CheckDoc.Cli

/-- What a run sees of the outside. -/
structure World where
  /-- The working directory. -/
  cwd : String
  /-- The files. -/
  view : View
  /-- The standard input. -/
  stdin : List UInt8
  /-- The encoding of the standard output. -/
  stdout : Text.Encoding
  /-- How links are tried. -/
  host : LinkHost

/-- The lines of a run. -/
structure Output where
  /-- The lines for the reader. -/
  out : List String
  /-- The lines about what goes wrong. -/
  err : List String
  deriving DecidableEq

/-- One output after another. -/
def Output.append (a b : Output) : Output := ⟨a.out ++ b.out, a.err ++ b.err⟩

instance : Append Output := ⟨Output.append⟩

/-- No lines. -/
def Output.empty : Output := ⟨[], []⟩

/-- Lines for the reader. -/
def Output.told (lines : List String) : Output := ⟨lines, []⟩

/-- Lines about what goes wrong. -/
def Output.warned (lines : List String) : Output := ⟨[], lines⟩

/-- The errors that no exit code stands for. -/
inductive Escaped where
  /-- The configuration cannot be built. -/
  | settings (e : SettingsError)
  /-- The configuration is no UTF-8 text. -/
  | encoding (f : Text.Utf8Fault)
  /-- A document cannot be built. -/
  | load (source : Source) (e : LoadError)
  /-- A document has an integer that is too long to be written. -/
  | integerLength
  /-- A path cannot be looked at, or a directory cannot be listed. -/
  | file (fault : FileFault) (path : String)
  /-- A line cannot be written. -/
  | output (f : Text.EncodingFault)
  /-- The trial of links broke down. -/
  | trial (e : TrialFailure)

/-- How a run ends. -/
inductive Ending where
  /-- With an exit code. -/
  | code (n : Nat)
  /-- With an error that escapes. -/
  | escaped (e : Escaped)

/-- A run that is over. -/
structure Run where
  /-- Its lines. -/
  output : Output
  /-- Its end. -/
  ending : Ending

/-- A run that says something and ends with an exit code. -/
def Run.exit (output : Output) (n : Nat) : Run := ⟨output, .code n⟩

/-- A run that cannot do what it is asked for. -/
def Run.refused (line : String) : Run := .exit (.warned ["Error: " ++ line]) 2

/-! ## Configuration -/

/-- The name of the configuration in the working directory. -/
def configName : String := ".checklint.yaml"

/-- A text with all line ends brought to one form. -/
def plainLineEnds : List Char → List Char
  | [] => []
  | '\r' :: '\n' :: rest => '\n' :: plainLineEnds rest
  | c :: rest => (if c = '\r' then '\n' else c) :: plainLineEnds rest

/-- Reads the configuration at a path. -/
def readConfig (w : World) (path : String) : Except Run Settings :=
  match w.view.read path with
  | .error .missing => .error (.refused ("Configuration file not found: " ++ path))
  | .error fault => .error (.refused ("Cannot read configuration file: " ++ fault.message path))
  | .ok octets =>
    match Text.decodeUtf8 octets with
    | .error fault => .error ⟨.empty, .escaped (.encoding fault)⟩
    | .ok text =>
      match Settings.parse path (String.ofList (plainLineEnds text.toList)) with
      | .ok s => .ok s
      | .error (.config label cause) => .error (.refused (cause.message label))
      | .error e => .error ⟨.empty, .escaped (.settings e)⟩

/-- The path of the configuration that is used when no other is asked for. -/
def World.configPath (w : World) : String := childPath w.cwd configName

/-- The settings of a run: of the configuration that is asked for, of the one in the working
directory where there is one, or else the default. -/
def readSettings (w : World) (o : Options) : Except Run Settings :=
  match o.config with
  | some path => readConfig w (normalPath path)
  | none =>
    match w.view w.configPath with
    | .ok _ => readConfig w w.configPath
    | .error fault =>
      if fault.isAbsence then .ok .standard
      else .error ⟨.empty, .escaped (.file fault w.configPath)⟩

/-! ## Printing -/

/-- How a document comes out. -/
inductive DocumentEnd where
  /-- It passes. -/
  | passed
  /-- It fails, is no Check or cannot be read. -/
  | failed
  /-- An error escapes. -/
  | escaped (e : Escaped)

/-- How a document comes out that passes, or does not. -/
def DocumentEnd.of (passed : Bool) : DocumentEnd := if passed then .passed else .failed

/-- The lines of a document and how it comes out. -/
structure DocumentRun where
  /-- The lines. -/
  output : Output
  /-- How the document comes out. -/
  ending : DocumentEnd

/-- A run that ends as its documents come out. -/
def DocumentRun.run (d : DocumentRun) : Run :=
  ⟨d.output,
    match d.ending with
    | .passed => .code 0
    | .failed => .code 1
    | .escaped e => .escaped e⟩

/-- The lines before the first one that cannot be written, and why that one cannot. -/
def World.print (w : World) : List String → List String × Option Text.EncodingFault
  | [] => ([], none)
  | line :: rest =>
    match w.stdout.fault? line.toList with
    | some fault => ([], some fault)
    | none =>
      let (printed, fault) := w.print rest
      (line :: printed, fault)

/-- Prints the lines on a document and comes out in some way, unless a line cannot be written. -/
def World.tell (w : World) (lines : List String) (ending : DocumentEnd) : DocumentRun :=
  match w.print lines with
  | (printed, none) => ⟨.told printed, ending⟩
  | (printed, some fault) => ⟨.told printed, .escaped (.output fault)⟩

/-! ## Linting -/

/-- The front of a line of the log. -/
def logPrefix : String := "DEBUG checklint.validation.engine: "

/-- The lines of the log on the rules that run over a Check. -/
def ruleLog (s : Settings) (f : RuleFilter) (c : Check) : List String :=
  (s.registry.names.filter f.selects).map fun name =>
    logPrefix ++ "Running rule " ++ name ++ " on check " ++ c.id

/-- The line of the log on the outcome for a Check. -/
def resultLog (r : LintResult) : String :=
  logPrefix ++ "Check " ++ r.check ++ ": " ++ toString r.diagnostics.length ++
    " diagnostic(s), verdict " ++ r.verdict.name

/-- Lints a Check. -/
def lintCheck (w : World) (s : Settings) (f : RuleFilter) (verbose : Bool) (c : Check) :
    DocumentRun :=
  let log (lines : List String) : Output := if verbose then .warned lines else .empty
  match s.run f w.host c with
  | .ok r =>
    let told := w.tell (report r.diagnostics) (.of r.passed)
    ⟨log (ruleLog s f c ++ [resultLog r]) ++ told.output, told.ending⟩
  | .error (.trial e) => ⟨log (ruleLog s f c), .escaped (.trial e)⟩
  | .error (.rules e) => ⟨.warned ["Error: " ++ e.message], .failed⟩
  | .error (.load e) => ⟨.empty, .escaped (.load (.text "") e)⟩

/-- Lints what was read of a document, which is named by a label. -/
def lintDocument (w : World) (s : Settings) (f : RuleFilter) (verbose : Bool) (label : String)
    (octets : Except FileFault (List UInt8)) : DocumentRun :=
  match octets with
  | .error fault =>
    ⟨.warned ["Error: cannot read '" ++ label ++ "': " ++ fault.message label], .failed⟩
  | .ok octets =>
    match Check.load s.strict (.octets octets) with
    | .error (.defect d) => w.tell ["Parse error - " ++ label ++ ": " ++ d.message] .failed
    | .error e => ⟨.empty, .escaped (.load (.octets octets) e)⟩
    | .ok c => lintCheck w s f verbose c

/-- Lints documents in order, until an error escapes. -/
def lintDocuments (w : World) (s : Settings) (f : RuleFilter) (verbose : Bool) :
    List (String × Except FileFault (List UInt8)) → DocumentRun
  | [] => ⟨.empty, .passed⟩
  | (label, octets) :: rest =>
    let first := lintDocument w s f verbose label octets
    match first.ending with
    | .escaped _ => first
    | ending =>
      let others := lintDocuments w s f verbose rest
      ⟨first.output ++ others.output,
        match ending, others.ending with
        | .failed, .passed => .failed
        | _, e => e⟩

/-- The suffixes of documents. -/
def documentSuffixes : List String := [".yml", ".yaml"]

/-- The names of the documents among the entries of a directory, all of which are looked at. -/
def documentNames (v : View) (directory : String) : List String → Except Escaped (List String)
  | [] => .ok []
  | name :: rest => do
    let path := childPath directory name
    let isFile ← (v.isFile path).mapError fun fault => .file fault path
    let found ← documentNames v directory rest
    pure (if isFile && documentSuffixes.contains (suffixOf name) then name :: found else found)

/-- The paths of the documents in a directory, in the order of their names. -/
def documentsIn (v : View) (directory : String) (names : List String) :
    Except Escaped (List String) :=
  (documentNames v directory names).map fun found => (nameSet found).map (childPath directory)

/-- The filter of a run: the rules that are asked for go before those of the settings, and the
skipped ones add up. -/
def Options.filter (o : Options) (s : Settings) : RuleFilter :=
  ⟨if o.rules.isEmpty then s.rules.selected else some (nameSet o.rules),
    nameSet (s.rules.skipped ++ o.skipped)⟩

/-- Runs the command that lints. -/
def runLint (w : World) (s : Settings) (o : Options) : Run :=
  let f := o.filter s
  match f.unknown? s.registry with
  | some e => .refused e.message
  | none =>
    let lintAll (documents : List (String × Except FileFault (List UInt8))) : Run :=
      (lintDocuments w s f o.verbose documents).run
    match o.path with
    | none => lintAll [("<stdin>", .ok w.stdin)]
    | some path =>
      let path := normalPath path
      match w.view path with
      | .error fault =>
        if fault.isAbsence then .refused ("'" ++ path ++ "' does not exist.")
        else ⟨.empty, .escaped (.file fault path)⟩
      | .ok (.closed fault) => ⟨.empty, .escaped (.file fault path)⟩
      | .ok (.directory names) =>
        match documentsIn w.view path names with
        | .error e => ⟨.empty, .escaped e⟩
        | .ok [] => (w.tell ["No Check files found in '" ++ path ++ "'."] .passed).run
        | .ok paths => lintAll (paths.map fun p => (p, w.view.read p))
      | .ok _ => lintAll [(path, w.view.read path)]

/-! ## The other commands -/

/-- Runs the command that shows a document. -/
def runDisplay (w : World) (s : Settings) (o : Options) : Run :=
  let show_ (octets : List UInt8) : Run :=
    match Check.load s.strict (.octets octets) with
    | .ok c =>
      match c.summary? .plain with
      | some summary => (w.tell [summary] .passed).run
      | none => ⟨.empty, .escaped .integerLength⟩
    | .error (.defect d) => (w.tell [parseErrorLine d] .failed).run
    | .error e => ⟨.empty, .escaped (.load (.octets octets) e)⟩
  match o.path with
  | none => show_ w.stdin
  | some path =>
    match w.view.read (normalPath path) with
    | .ok octets => show_ octets
    | .error fault =>
      .refused ("cannot read '" ++ path ++ "': " ++ fault.message (normalPath path))

/-- The lines on the rules: their names in one column, and what they ask for. -/
def ruleLines (g : Registry) : List String :=
  let width := (g.names.map String.length).foldl max 0
  g.rules.map fun r =>
    String.ofList (r.name.toList.rightpad width ' ') ++ "  " ++ r.description

/-- Runs a command. -/
def runCommand (w : World) (c : Command) (o : Options) : Run :=
  match readSettings w o with
  | .error r => r
  | .ok s =>
    match c with
    | .lint => runLint w s o
    | .display => runDisplay w s o
    | .rules => (w.tell (ruleLines s.registry) .passed).run

/-- Runs the program. -/
def run (w : World) (args : List String) : Run :=
  match Request.ofArguments args with
  | .error e => .exit (.warned e.lines) 2
  | .ok (.help p) => (w.tell ["\n".intercalate p.help] .passed).run
  | .ok (.run c o) => runCommand w c o

/-- Lines as text. -/
def textOf (lines : List String) : String := String.join (lines.map fun l => l ++ "\n")

end CheckDoc.Cli

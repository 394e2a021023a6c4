import CheckDoc.Text.Letter
import CheckDoc.Text.Quoted

/-!
# Arguments

The arguments of the program are options, a command, and words of the command. An option may be cut
short where only one is meant, its value may follow an equals sign or stand in the next word, and
options of one letter may share a word. After `--` every word stands for itself. A word that looks
like an option and is none is collected with the words that are too many, and they are refused
together at the end; so the faults of the command come first.
-/

namespace CheckDoc.Cli

/-- The commands. -/
inductive Command where
  /-- Lints documents. -/
  | lint
  /-- Shows a document. -/
  | display
  /-- Lists the rules. -/
  | rules
  deriving DecidableEq

/-- The word for a command. -/
def Command.word : Command → String
  | .lint => "lint"
  | .display => "show"
  | .rules => "rules"

/-- The commands in order. -/
def Command.all : List Command := [.lint, .display, .rules]

/-- What has arguments and a help page: the program and each command. -/
inductive Page where
  /-- The program. -/
  | main
  /-- A command. -/
  | command (c : Command)
  deriving DecidableEq

/-- The options. -/
inductive Flag where
  /-- Shows a help page. -/
  | help
  /-- Selects a rule. -/
  | rule
  /-- Skips a rule. -/
  | excludeRule
  /-- Names the configuration. -/
  | config
  /-- Logs. -/
  | verbose
  deriving DecidableEq

/-- The spellings of an option. -/
def Flag.spellings : Flag → List String
  | .help => ["-h", "--help"]
  | .rule => ["--rule"]
  | .excludeRule => ["--exclude-rule"]
  | .config => ["--config"]
  | .verbose => ["-v", "--verbose"]

/-- Whether an option has a value. -/
def Flag.takesValue : Flag → Bool
  | .rule | .excludeRule | .config => true
  | .help | .verbose => false

/-- The options of a page in order. -/
def Page.flags : Page → List Flag
  | .main => [.help]
  | .command .lint => [.help, .rule, .excludeRule, .config, .verbose]
  | .command _ => [.help, .config, .verbose]

/-- The spellings of the options of a page, each with its option. -/
def Page.spellings (p : Page) : List (String × Flag) :=
  p.flags.flatMap fun f => f.spellings.map fun s => (s, f)

/-- Whether a command has a path. -/
def Command.takesPath : Command → Bool
  | .lint | .display => true
  | .rules => false

/-- What is wrong with arguments. -/
inductive UsageFault where
  /-- A word may stand for several options. -/
  | ambiguous (word : String) (spellings : List String)
  /-- An option without a value has one. -/
  | surplusValue (f : Flag) (value : String)
  /-- An option has no value. -/
  | missingValue (f : Flag)
  /-- A word is no command. -/
  | badCommand (word : String)
  /-- There are words too many. -/
  | surplus (words : List String)
  deriving DecidableEq

/-- The wording of a fault. -/
def UsageFault.message : UsageFault → String
  | .ambiguous word spellings =>
    "ambiguous option: " ++ word ++ " could match " ++ ", ".intercalate spellings
  | .surplusValue f value =>
    "argument " ++ "/".intercalate f.spellings ++ ": ignored explicit argument " ++
      Text.quoted value
  | .missingValue f => "argument " ++ "/".intercalate f.spellings ++ ": expected one argument"
  | .badCommand word =>
    "argument COMMAND: invalid choice: " ++ Text.quoted word ++ " (choose from " ++
      ", ".intercalate (Command.all.map fun c => Text.quoted c.word) ++ ")"
  | .surplus words => "unrecognized arguments: " ++ " ".intercalate words

/-- The value in the word of an option. -/
structure Attached where
  /-- Whether it follows an equals sign. -/
  equals : Bool
  /-- The value. -/
  text : List Char

/-- What a word stands for. -/
inductive Word where
  /-- For itself. -/
  | plain (text : String)
  /-- For an option, maybe with a value. The spelling has one hyphen or two. -/
  | option (f : Flag) (short : Bool) (attached : Option Attached)
  /-- For an option that the page does not have. -/
  | unknown (text : String)

/-- Whether a spelling has one hyphen. -/
def isShort (spelling : List Char) : Bool := (spelling.drop 1).head? ≠ some '-'

/-- The part of a word before an equals sign, and the value after it. -/
def cutEquals (w : List Char) : List Char × Option Attached :=
  match w.dropWhile (· ≠ '=') with
  | [] => (w, none)
  | _ :: value => (w.takeWhile (· ≠ '='), some ⟨true, value⟩)

/-- The options that a word may stand for, with their spellings. -/
def Page.meanings (p : Page) (w : List Char) : List (String × Word) :=
  p.spellings.filterMap fun (spelling, f) =>
    let s := spelling.toList
    if isShort w then
      if s = w.take 2 then some (spelling, .option f true (some ⟨false, w.drop 2⟩))
      else if w.isPrefixOf s then some (spelling, .option f (isShort s) none)
      else none
    else
      let (name, value) := cutEquals w
      if name.isPrefixOf s then some (spelling, .option f (isShort s) value) else none

/-- Whether a character is a decimal digit of any script. -/
def isAnyDigit (c : Char) : Bool := (Text.decimalValue? c).isSome

/-- Whether a word is a number with a minus sign, maybe before a line end. -/
def isNegativeNumber (w : List Char) : Bool :=
  match w with
  | '-' :: s =>
    let s := if s.getLast? = some '\n' then s.dropLast else s
    let whole := s.takeWhile isAnyDigit
    match s.dropWhile isAnyDigit with
    | [] => !whole.isEmpty
    | '.' :: decimals => !decimals.isEmpty && decimals.all isAnyDigit
    | _ => false
  | _ => false

/-- What a word stands for on a page. -/
def Page.classify (p : Page) (word : String) : Except UsageFault Word :=
  let w := word.toList
  let (name, value) := cutEquals w
  let spelled (s : List Char) := p.spellings.find? fun (spelling, _) => spelling.toList = s
  if w.head? ≠ some '-' then .ok (.plain word)
  else
    match spelled w, value.bind fun v => (spelled name).map fun e => (e, v) with
    | some (_, f), _ => .ok (.option f (isShort w) none)
    | none, some ((_, f), v) => .ok (.option f (isShort name) (some v))
    | none, none =>
      if w.length = 1 then .ok (.plain word)
      else
        match p.meanings w with
        | [(_, meaning)] => .ok meaning
        | [] =>
          .ok (if isNegativeNumber w || w.contains ' ' then .plain word else .unknown word)
        | several => .error (.ambiguous word (several.map (·.1)))

/-- The words before `--`, and those after it. -/
def Page.words (p : Page) : List String → Except UsageFault (List Word × Option (List String))
  | [] => .ok ([], none)
  | w :: rest => do
    if w = "--" then pure ([], some rest)
    else
      let meaning ← p.classify w
      let (words, after) ← p.words rest
      pure (meaning :: words, after)

/-- The options of one letter that share a word, the first of which is given, and the rest of the
word where a letter is no option. -/
def Page.cluster (p : Page) (f : Flag) :
    Bool → List Char → Except UsageFault (List Flag × Option String)
  | _, [] => .error (.surplusValue f "")
  | equals, c :: rest =>
    if equals || c = '-' then .error (.surplusValue f (String.ofList (c :: rest)))
    else
      match p.spellings.find? fun (spelling, _) => spelling.toList = ['-', c], rest with
      | none, _ => .ok ([f], some (String.ofList ('-' :: c :: rest)))
      | some (_, g), [] => .ok ([f, g], none)
      | some (_, g), '=' :: value => (p.cluster g true value).map fun (gs, s) => (f :: gs, s)
      | some (_, g), rest => (p.cluster g false rest).map fun (gs, s) => (f :: gs, s)

/-- What a command is asked for. -/
structure Options where
  /-- The rules to run; none of them stands for those of the settings. -/
  rules : List String
  /-- The rules to skip. -/
  skipped : List String
  /-- The configuration. -/
  config : Option String
  /-- Whether to log. -/
  verbose : Bool
  /-- The document or directory. -/
  path : Option String
  deriving DecidableEq

/-- The options when nothing is asked for. -/
def Options.none : Options := ⟨[], [], .none, false, .none⟩

/-- The options with one more. -/
def Options.set (o : Options) (f : Flag) (value : String) : Options :=
  match f with
  | .help => o
  | .rule => { o with rules := o.rules ++ [value] }
  | .excludeRule => { o with skipped := o.skipped ++ [value] }
  | .config => { o with config := some value }
  | .verbose => { o with verbose := true }

/-- Why no command runs. -/
inductive Stop where
  /-- Help is asked for. -/
  | help
  /-- The arguments have a fault. -/
  | fault (f : UsageFault)

/-- What is read of the words of a command. -/
structure Reading where
  /-- The options. -/
  options : Options
  /-- Whether a path may come. -/
  pathFree : Bool
  /-- Whether the last word was the path. -/
  atPath : Bool
  /-- The words that are too many. -/
  surplus : List String

/-- Takes an option of one letter, or several of them. -/
def Reading.takeFlags (r : Reading) (fs : List Flag) (more : Option String) :
    Except Stop Reading :=
  if fs.contains .help then .error .help
  else
    .ok { r with
      options := fs.foldl (fun o f => o.set f "") r.options
      atPath := false
      surplus := r.surplus ++ more.toList }

/-- Reads the words of a page. -/
def Page.read (p : Page) (r : Reading) : List Word → Except Stop Reading
  | [] => .ok r
  | .plain w :: rest =>
    if r.pathFree then
      p.read { r with
        options := { r.options with path := some w }, pathFree := false, atPath := true } rest
    else p.read { r with surplus := r.surplus ++ [w], atPath := false } rest
  | .unknown w :: rest => p.read { r with surplus := r.surplus ++ [w], atPath := false } rest
  | .option f short attached :: rest =>
    if f.takesValue then
      match attached, rest with
      | some a, rest =>
        p.read { r with options := r.options.set f (String.ofList a.text), atPath := false } rest
      | none, .plain value :: rest =>
        p.read { r with options := r.options.set f value, atPath := false } rest
      | none, _ => .error (.fault (.missingValue f))
    else do
      let (fs, more) ← match attached with
        | none => pure ([f], none)
        | some a =>
          (if short then p.cluster f a.equals a.text
            else .error (.surplusValue f (String.ofList a.text))).mapError Stop.fault
      let r ← r.takeFlags fs more
      p.read r rest

/-- Takes the words after `--`: the first is the path where none was read, and `--` itself is too
many where it does not stand next to the path. -/
def Reading.finish (r : Reading) : Option (List String) → Reading
  | none => r
  | some rest =>
    if r.atPath then { r with surplus := r.surplus ++ rest }
    else if r.pathFree then
      match rest with
      | [] => r
      | w :: rest =>
        { r with options := { r.options with path := some w }, surplus := r.surplus ++ rest }
    else { r with surplus := r.surplus ++ "--" :: rest }

/-- Reads the words of a command. -/
def Command.read (c : Command) (args : List String) : Except Stop Reading := do
  let p := Page.command c
  let (words, after) ← (p.words args).mapError Stop.fault
  let r ← p.read ⟨.none, c.takesPath, false, []⟩ words
  pure (r.finish after)

/-- What the program is asked for. -/
inductive Request where
  /-- To show a help page. -/
  | help (p : Page)
  /-- To run a command. -/
  | run (c : Command) (o : Options)
  deriving DecidableEq

/-- A fault of the arguments of a page. -/
structure UsageError where
  /-- The page. -/
  page : Page
  /-- The fault. -/
  fault : UsageFault
  deriving DecidableEq

/-- What a page that stops is asked for. -/
def Stop.request (p : Page) : Stop → Except UsageError Request
  | .help => .ok (.help p)
  | .fault f => .error ⟨p, f⟩

/-- The request, unless there are words too many. -/
def withoutSurplus (surplus : List String) (r : Request) : Except UsageError Request :=
  if surplus.isEmpty then .ok r else .error ⟨.main, .surplus surplus⟩

/-- Reads a command and its words, after the words that are too many. -/
def readCommand (surplus : List String) (word : String) (args : List String) :
    Except UsageError Request :=
  match Command.all.find? fun c => c.word = word with
  | none => .error ⟨.main, .badCommand word⟩
  | some c =>
    match c.read args with
    | .error stop => stop.request (.command c)
    | .ok r => withoutSurplus (surplus ++ r.surplus) (.run c r.options)

/-- Reads the arguments, after the words that are too many. Without a command the program shows its
help page. -/
def readFrom (surplus : List String) : List String → Except UsageError Request
  | [] => withoutSurplus surplus (.help .main)
  | w :: rest =>
    if w = "--" then
      if rest.isEmpty then withoutSurplus (surplus ++ [w]) (.help .main)
      else .error ⟨.main, .badCommand w⟩
    else
      match Page.main.classify w with
      | .error f => .error ⟨.main, f⟩
      | .ok (.plain word) => readCommand surplus word rest
      | .ok (.unknown word) => readFrom (surplus ++ [word]) rest
      | .ok (.option f short attached) =>
        match Page.main.read ⟨.none, false, false, []⟩ [.option f short attached] with
        | .error stop => stop.request .main
        | .ok r => readFrom (surplus ++ r.surplus) rest

/-- Reads the arguments. -/
def Request.ofArguments (args : List String) : Except UsageError Request := readFrom [] args

end CheckDoc.Cli

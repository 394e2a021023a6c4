import CheckDoc.Cli.Arguments

/-!
# Help pages

The program and each command have a page: how they are called, what they do, and what each argument
is for. How they are called is also shown with a fault of the arguments.
-/

namespace CheckDoc.Cli

/-- How the program is called. -/
def mainUsage : List String :=
  ["usage: checklint [-h] COMMAND ..."]

/-- What the program is for. -/
def mainDetails : List String :=
  ["",
    "checklint - validator for Check documents",
    "",
    "positional arguments:",
    "  COMMAND",
    "    lint      Validate one or more Checks",
    "    show      Print a readable summary of a Check",
    "    rules     List the available rules",
    "",
    "options:",
    "  -h, --help  show this help message and exit"]

/-- How `lint` is called. -/
def lintUsage : List String :=
  ["usage: checklint lint [-h] [--rule NAME] [--exclude-rule NAME]",
    "                      [--config CONFIG] [-v]",
    "                      [path]"]

/-- What `lint` is for. -/
def lintDetails : List String :=
  ["",
    "Validate a Check file, every .yml/.yaml file in a directory, or a Check read",
    "from standard input.",
    "",
    "positional arguments:",
    "  path                 Check file or directory (default: read from standard",
    "                       input)",
    "",
    "options:",
    "  -h, --help           show this help message and exit",
    "  --rule NAME          Run only this rule (repeatable; default: all rules)",
    "  --exclude-rule NAME  Skip this rule (repeatable), e.g. link-validity when",
    "                       offline",
    "  --config CONFIG      Configuration file (default: .checklint.yaml in the",
    "                       current directory, if present)",
    "  -v, --verbose        Log rule execution and link attempts"]

/-- How `show` is called. -/
def displayUsage : List String :=
  ["usage: checklint show [-h] [--config CONFIG] [-v] [path]"]

/-- What `show` is for. -/
def displayDetails : List String :=
  ["",
    "Load a Check and print its sections.",
    "",
    "positional arguments:",
    "  path             Check file (default: read from standard input)",
    "",
    "options:",
    "  -h, --help       show this help message and exit",
    "  --config CONFIG  Configuration file (default: .checklint.yaml in the current",
    "                   directory, if present)",
    "  -v, --verbose    Log rule execution and link attempts"]

/-- How `rules` is called. -/
def rulesUsage : List String :=
  ["usage: checklint rules [-h] [--config CONFIG] [-v]"]

/-- What `rules` is for. -/
def rulesDetails : List String :=
  ["",
    "List every registered rule with its description.",
    "",
    "options:",
    "  -h, --help       show this help message and exit",
    "  --config CONFIG  Configuration file (default: .checklint.yaml in the current",
    "                   directory, if present)",
    "  -v, --verbose    Log rule execution and link attempts"]

/-- How a page is called. -/
def Page.usage : Page → List String
  | .main => mainUsage
  | .command .lint => lintUsage
  | .command .display => displayUsage
  | .command .rules => rulesUsage

/-- What a page says besides. -/
def Page.details : Page → List String
  | .main => mainDetails
  | .command .lint => lintDetails
  | .command .display => displayDetails
  | .command .rules => rulesDetails

/-- The lines of a help page. -/
def Page.help (p : Page) : List String := p.usage ++ p.details

/-- The name that the program is called by. -/
def programName : String := "checklint"

/-- The name of a page. -/
def Page.name : Page → String
  | .main => programName
  | .command c => programName ++ " " ++ c.word

/-- The lines for a fault of the arguments. -/
def UsageError.lines (e : UsageError) : List String :=
  e.page.usage ++ [e.page.name ++ ": error: " ++ e.fault.message]

end CheckDoc.Cli

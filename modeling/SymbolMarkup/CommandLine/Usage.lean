import SymbolMarkup.CommandLine.Terminal
import SymbolMarkup.Text.Spacing

/-! The arguments that the command line knows, the ways they can be wrong, and the texts that say
so. -/
namespace SymbolMarkup.CommandLine

inductive Slot where
  | input
  | output
  | siblingIndent
  | intervalMs
  deriving DecidableEq, Repr

inductive Flag where
  | strict
  | watch
  | help
  | version
  deriving DecidableEq, Repr

inductive Argument where
  | slot (s : Slot)
  | flag (f : Flag)
  deriving DecidableEq, Repr

def Slot.shown : Slot → String
  | input => "[INPUT]"
  | output => "--output <OUTPUT>"
  | siblingIndent => "--sibling-indent <SIBLING_INDENT>"
  | intervalMs => "--interval-ms <INTERVAL_MS>"

def Flag.shown : Flag → String
  | strict => "--strict"
  | watch => "--watch"
  | help => "--help"
  | version => "--version"

def Argument.shown : Argument → String
  | slot s => s.shown
  | flag f => f.shown

def Argument.ofLongName? : String → Option Argument
  | "output" => some (.slot .output)
  | "sibling-indent" => some (.slot .siblingIndent)
  | "interval-ms" => some (.slot .intervalMs)
  | "strict" => some (.flag .strict)
  | "watch" => some (.flag .watch)
  | "help" => some (.flag .help)
  | "version" => some (.flag .version)
  | _ => none

def Argument.ofShortName? : Char → Option Argument
  | 'o' => some (.slot .output)
  | 'h' => some (.flag .help)
  | 'V' => some (.flag .version)
  | _ => none

inductive NumberFault where
  | empty
  | invalidDigit
  | tooLarge
  deriving DecidableEq, Repr

def NumberFault.message : NumberFault → String
  | empty => "cannot parse integer from empty string"
  | invalidDigit => "invalid digit found in string"
  | tooLarge => "number too large to fit in target type"

inductive UsageError where
  /-- Nothing goes by this name, or there is no place for this value. -/
  | unexpected (shown : String)
  | missingValue (slot : Slot)
  | repeated (argument : Argument)
  | invalidSiblingIndent (value : String)
  | invalidInterval (value : String) (fault : NumberFault)
  | unneededValue (flag : Flag) (value : String)
  deriving DecidableEq, Repr

/-- What is wrong. Texts from the command line are shown without what steers a terminal. -/
def UsageError.message : UsageError → String
  | unexpected shown => s!"unexpected argument '{Terminal.plain shown}' found"
  | missingValue slot => s!"a value is required for '{slot.shown}' but none was supplied"
  | repeated argument => s!"the argument '{argument.shown}' cannot be used multiple times"
  | invalidSiblingIndent value =>
    s!"invalid value '{Terminal.plain value}' for '{Slot.siblingIndent.shown}'"
  | invalidInterval value fault =>
    s!"invalid value '{Terminal.plain value}' for '{Slot.intervalMs.shown}': {fault.message}"
  | unneededValue flag value =>
    s!"unexpected value '{Terminal.plain value}' for '{flag.shown}' found; " ++
      "no more were expected"

def UsageError.firstLine (e : UsageError) : String :=
  ((Text.lines ("error: " ++ e.message)).head?).getD ""

def versionText : String := "symbol-dsl 0.1.0\n"

def blankUnderOption : String := "          "

def longHelp : List String :=
  ["Command line tool to convert HTML to the symbol DSL",
    "",
    "Usage: symbol-dsl [OPTIONS] [INPUT]",
    "",
    "Arguments:",
    "  [INPUT]",
    "          Input HTML file (`-` or omitted: stdin)",
    "",
    "Options:",
    "  -o, --output <OUTPUT>",
    "          Output file (default: stdout)",
    "",
    "      --sibling-indent <SIBLING_INDENT>",
    "          Indentation of the separator line between sibling children",
    "",
    "          Possible values:",
    "          - parent: Separator line at the parent's indentation",
    "          - child:  Separator line aligned with the children",
    blankUnderOption,
    "          [default: parent]",
    "",
    "      --strict",
    "          Fail on node kinds other than element, text and comment",
    "",
    "      --watch",
    "          Re-run the conversion whenever the input file changes",
    "",
    "      --interval-ms <INTERVAL_MS>",
    "          Polling interval for --watch, in milliseconds",
    blankUnderOption,
    "          [default: 500]",
    "",
    "  -h, --help",
    "          Print help (see a summary with '-h')",
    "",
    "  -V, --version",
    "          Print version"]

def shortHelp : List String :=
  ["Command line tool to convert HTML to the symbol DSL",
    "",
    "Usage: symbol-dsl [OPTIONS] [INPUT]",
    "",
    "Arguments:",
    "  [INPUT]  Input HTML file (`-` or omitted: stdin)",
    "",
    "Options:",
    "  -o, --output <OUTPUT>",
    "          Output file (default: stdout)",
    "      --sibling-indent <SIBLING_INDENT>",
    "          Indentation of the separator line between sibling children" ++
      " [default: parent] [possible values: parent, child]",
    "      --strict",
    "          Fail on node kinds other than element, text and comment",
    "      --watch",
    "          Re-run the conversion whenever the input file changes",
    "      --interval-ms <INTERVAL_MS>",
    "          Polling interval for --watch, in milliseconds [default: 500]",
    "  -h, --help",
    "          Print help (see more with '--help')",
    "  -V, --version",
    "          Print version"]

def helpText (long : Bool) : String :=
  String.join ((if long then longHelp else shortHelp).map (· ++ "\n"))

end SymbolMarkup.CommandLine

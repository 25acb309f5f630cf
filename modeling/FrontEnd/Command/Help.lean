import FrontEnd.Command.Arguments

/-!
# The help of the command

The usage of the command, shown before every refusal, and its help.
-/

namespace FrontEnd.Command

/-- Lines of text, each with its end. -/
def textOfLines (lines : List String) : String := String.join (lines.map (· ++ "\n"))

/-- The usage of the command. -/
def usage : String := textOfLines
  ["usage: simpledsl [-h] [-o OUTPUT] [--config FILE]",
    "                 [--skip-whitespace | --no-skip-whitespace]",
    "                 [--strict | --no-strict]",
    "                 input"]

/-- The help of the command. -/
def helpText : String := usage ++ textOfLines
  ["",
    "Scan a SimpleDSL source file and print its tokens",
    "",
    "positional arguments:",
    "  input                 Input source file",
    "",
    "options:",
    "  -h, --help            show this help message and exit",
    "  -o OUTPUT, --output OUTPUT",
    "                        Output file (default: stdout)",
    "  --config FILE         Config file (default: auto-discover simpledsl.toml)",
    "  --skip-whitespace, --no-skip-whitespace",
    "                        Leave whitespace tokens out of the listing",
    "  --strict, --no-strict",
    "                        Fail on the first unknown character"]

/-- What is shown when a command line is refused. -/
def refusal (f : UsageFault) : String := usage ++ "simpledsl: error: " ++ f.message ++ "\n"

end FrontEnd.Command

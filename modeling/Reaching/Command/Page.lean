/-!
What the program tells about its own use. A page has a usage part, which also stands before the
message of a refused command line, and a body.
-/
set_option autoImplicit false

namespace Reaching.Command

structure Page where
  program : String
  usage : List String
  body : List String
  deriving Repr

namespace Page

def joined (lines : List String) : String :=
  String.join (lines.map (· ++ "\n"))

def usageText (page : Page) : String := joined page.usage

/-- Gives the whole page, with a blank line between its parts. -/
def text (page : Page) : String :=
  page.usageText ++ "\n" ++ joined page.body

/-- Tells why a command line is refused. -/
def refusal (page : Page) (message : String) : String :=
  page.usageText ++ page.program ++ ": error: " ++ message ++ "\n"

def overview : Page where
  program := "dfeq-dsl"
  usage := [
    "usage: dfeq-dsl [-h] [-v] \x7btokens,parse,solve,version\x7d ..."]
  body := [
    "Dataflow equation DSL - reaching definitions solver",
    "",
    "positional arguments:",
    "  \x7btokens,parse,solve,version\x7d",
    "                        Command to execute",
    "    tokens              Print the token stream of an equation file",
    "    parse               Parse an equation file and print its syntax tree",
    "    solve               Solve the equation system by fixed-point iteration",
    "    version             Show version information",
    "",
    "options:",
    "  -h, --help            show this help message and exit",
    "  -v, --verbose         Enable verbose (DEBUG) logging",
    "",
    "Examples:",
    "  # Show the tokens of an equation file",
    "  python -m dfeq_dsl tokens examples/textbook.dfeq",
    "",
    "  # Print the simplified syntax tree",
    "  python -m dfeq_dsl parse examples/textbook.dfeq",
    "",
    "  # Solve, printing the solution after every pass",
    "  python -m dfeq_dsl solve examples/textbook.dfeq --trace",
    "",
    "  # Solve with Jacobi iteration and JSON output",
    "  python -m dfeq_dsl solve examples/textbook.dfeq --scheme jacobi -f json",
    "        "]

def tokens : Page where
  program := "dfeq-dsl tokens"
  usage := [
    "usage: dfeq-dsl tokens [-h] [-c CONFIG] [--strict] input_file"]
  body := [
    "positional arguments:",
    "  input_file            Equation file to lex",
    "",
    "options:",
    "  -h, --help            show this help message and exit",
    "  -c CONFIG, --config CONFIG",
    "                        YAML configuration file (lexer settings)",
    "  --strict              Fail on unrecognised characters"]

def parse : Page where
  program := "dfeq-dsl parse"
  usage := [
    "usage: dfeq-dsl parse [-h] [-c CONFIG] [--raw] [--strict] input_file"]
  body := [
    "positional arguments:",
    "  input_file            Equation file to parse",
    "",
    "options:",
    "  -h, --help            show this help message and exit",
    "  -c CONFIG, --config CONFIG",
    "                        YAML configuration file (lexer settings)",
    "  --raw                 Print the tree before simplification",
    "  --strict              Fail on unrecognised characters"]

def solve : Page where
  program := "dfeq-dsl solve"
  usage := [
    "usage: dfeq-dsl solve [-h] [-c CONFIG] [--scheme \x7bin_place,jacobi\x7d] [--trace]",
    "                      [--tree] [-f \x7btext,json\x7d] [--strict] [-o OUTPUT]",
    "                      input_file"]
  body := [
    "positional arguments:",
    "  input_file            Equation file to solve",
    "",
    "options:",
    "  -h, --help            show this help message and exit",
    "  -c CONFIG, --config CONFIG",
    "                        YAML configuration file",
    "  --scheme \x7bin_place,jacobi\x7d",
    "                        Iteration scheme (default: in_place)",
    "  --trace               Print the solution after every pass",
    "  --tree                Print the simplified syntax tree before solving",
    "  -f \x7btext,json\x7d, --format \x7btext,json\x7d",
    "                        Output format (default: text)",
    "  --strict              Fail on unrecognised characters",
    "  -o OUTPUT, --output OUTPUT",
    "                        Output file (default: stdout)"]

def version : Page where
  program := "dfeq-dsl version"
  usage := [
    "usage: dfeq-dsl version [-h]"]
  body := [
    "options:",
    "  -h, --help  show this help message and exit"]

end Page

end Reaching.Command

import RobotCell.Command.Arguments

/-!
# RobotCell.Command.Help

What is printed when a command line asks for help or for the version.
-/

namespace RobotCell.Command

def versionText : String := "rust_toro 0.1.0\n"

def helpText : String :=
  "Compiles robot motion into controller program modules.\n\n" ++
  "Usage: rust_toro [OPTIONS] <COMMAND>\n\n" ++
  "Commands:\n" ++
  "  compile <JOB>  Compile a job file into a program module\n" ++
  "  config         Print the effective configuration\n" ++
  "  help           Print this message\n\n" ++
  "Options of compile:\n" ++
  "  -o, --output <OUTPUT>      Module file to write\n" ++
  "      --pgf <PGF>            Also write a program descriptor\n" ++
  "      --manifest <MANIFEST>  Write the compiled sets as JSON\n\n" ++
  "Options:\n" ++
  "      --config <CONFIG>  Configuration file [default: " ++ Settings.defaultPath ++ "]\n" ++
  "  -v, --verbose...       Log more (-v debug, -vv trace)\n" ++
  "  -h, --help             Print help\n" ++
  "  -V, --version          Print version\n"

/-- The standard output for a line that asks for no work. -/
def Stop.output : Stop → String
  | .help => helpText
  | .version => versionText
  | .misuse => ""

def misuseText : String := "error: the command line is not understood; try --help\n"

end RobotCell.Command

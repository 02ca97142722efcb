/-!
# Help

What the program says about itself.
-/

namespace RubricScore.CommandLine

/-- What the program does. -/
def about : String :=
  "Score a kernel/OS source tree against a rubric of kernel primitives and OS platform services"

/-- Name and version of the program. -/
def versionText : String :=
  "kernel-eval 0.1.0"

/-- The commands and options of the program. -/
def helpText : String :=
  "\n".intercalate
    [about,
     "",
     "Usage: kernel-eval [OPTIONS] <COMMAND>",
     "",
     "Commands:",
     "  evaluate <SOURCE> [RUBRIC]             Scan a source tree and score it against the rubric",
     "  tasks <RESULTS> [RUBRIC] [THRESHOLD]   Generate an implementation backlog from a report",
     "  init                                   Write a starter kernel-eval.toml",
     "  help                                   Print this message",
     "",
     "Options:",
     "      --log-level <LOG_LEVEL>   error, warn, info, debug or trace [default: warn]",
     "      --workers <WORKERS>       Number of parallel workers (1-64, default: all cores)",
     "  -f, --format <FORMAT>         Output format of evaluate and tasks: text or json",
     "  -o, --output <OUTPUT>         File that evaluate and tasks write",
     "      --ext <EXTENSIONS>        File extension that evaluate scans (repeatable)",
     "      --max-files <MAX_FILES>   Maximum files that evaluate loads (0 = unlimited)",
     "  -h, --help                    Print help",
     "  -V, --version                 Print version"]

end RubricScore.CommandLine

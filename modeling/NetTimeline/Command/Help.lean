/-!
# The help of the command

The texts that the library click makes of the declarations of `main`. The usage stands above the
help and above most messages about a command line that cannot be used.
-/

set_option autoImplicit false

namespace NetTimeline.Command

/-- The name that the command is called by. -/
def programName : String := "netmonitor-timeline"

/-- How the command is used, on one line. -/
def usageLine : String := "Usage: " ++ programName ++ " [OPTIONS] [INPUT_PATH]\n"

/-- The usage, with a hint at the help. -/
def usageHint : String := usageLine ++ "Try '" ++ programName ++ " --help' for help.\n\n"

/-- The help below the usage. -/
def helpLines : List String :=
  ["",
    "  Compute timeline axis divisions for recorded network requests.",
    "",
    "  INPUT_PATH: Path to a JSONL request log or a directory of them. Use --duration",
    "  instead to divide a raw span in milliseconds.",
    "",
    "Options:",
    "  -d, --duration FLOAT            Divide a raw duration in milliseconds instead",
    "                                  of a request log",
    "  -n, --ticks INTEGER RANGE       Target number of intervals on the axis",
    "                                  [default: 5; 1<=x<=20]",
    "  --from-date TEXT                Only count requests from this date/time (e.g.,",
    "                                  \"2 hours ago\", \"yesterday\", \"2025-06-08\")",
    "  --to-date TEXT                  Only count requests up to this date/time",
    "                                  (e.g., \"1 hour ago\", \"today\", \"2025-06-08",
    "                                  15:00\")",
    "  --scale [millisecond|second|minute]",
    "                                  Only print divisions labelled in this time",
    "                                  scale",
    "  --json                          Print the axis as JSON",
    "  -v, --verbose                   Show debug logging",
    "  --help                          Show this message and exit."]

/-- The lines of a text, each with its line break. -/
def unlines (lines : List String) : String := String.join (lines.map fun line => line ++ "\n")

/-- The help of the command. -/
def helpText : String := usageLine ++ unlines helpLines

end NetTimeline.Command

import StatusBoard.CommandLine.Outcome

/-!
What a command line that is not carried out is answered with.
-/

namespace StatusBoard.CommandLine

def usage : String :=
  "\n".intercalate
    ["Console status dashboard for headless OS daemons", "",
      "Usage: osd-console [OPTIONS] <COMMAND>", "",
      "Commands:",
      "  run        Attach to the consoles and run the dashboard until stopped",
      "  preview    Render one frame as plain text to stdout",
      "  addresses  Print the addresses the footer would show",
      "  config     Print the effective configuration",
      "  help       Print this message", "",
      "Options:",
      "      --config <PATH>  Override config file path",
      "      --json           Force JSON output mode",
      "      --no-color       Disable colored output",
      "  -h, --help           Print help",
      "  -V, --version        Print version", ""]

def versionLine : String := "osd-console 0.1.0\n"

def Refusal.message : Refusal → String
  | help | version | nothingGiven => ""
  | noCommand => "a command is required"
  | unknownCommand => "unrecognized command"
  | unknownWord => "unexpected argument"
  | missingValue => "a value is required"
  | malformedValue => "invalid value"
  | needlessValue => "unexpected value"
  | repeated => "an option cannot be used twice"

/-- The answer to a command line that is not carried out. -/
def Refusal.outcome (r : Refusal) : Outcome :=
  match r with
  | help => .success usage
  | version => .success versionLine
  | nothingGiven => ⟨r.status, "", usage⟩
  | r => ⟨r.status, "", "error: " ++ r.message ++ "\n\n" ++ usage⟩

end StatusBoard.CommandLine

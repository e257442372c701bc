import VoiceEdit.CommandLine.Arguments

/-!
# Help

The texts that explain the command line.
-/
namespace VoiceEdit.CommandLine

open Text

/-- The name of the program. -/
def programName : Text := "handsfree"

/-- The name and version of the program. -/
def versionLine : Text := programName ++ " 0.1.0\n"

/-- What a level does. -/
def Level.about : Level → Text
  | main => "Voice commands for hands-free code editing"
  | listen => "Interpret utterances from stdin, one per line (default)"
  | replay => "Interpret a recorded script of utterances"
  | explain => "Show how a transcript would be dispatched, without running it"

/-- How a level is called. -/
def Level.usage : Level → Text
  | main => "[OPTIONS] [COMMAND]"
  | listen => "listen [OPTIONS]"
  | replay => "replay [OPTIONS] <SCRIPT>"
  | explain => "explain [OPTIONS] <TRANSCRIPT>..."

/-- The values or subcommands that a level takes. -/
def Level.parts : Level → List Text
  | main => [
    "Commands:",
    "  listen   Interpret utterances from stdin, one per line (default)",
    "  replay   Interpret a recorded script of utterances",
    "  explain  Show how a transcript would be dispatched, without running it",
    "  help     Print this message or the help of the given subcommand(s)",
    ""]
  | listen => []
  | replay => ["Arguments:", "  <SCRIPT>  ", ""]
  | explain => ["Arguments:", "  <TRANSCRIPT>...  ", ""]

/-- The options of a level. -/
def Level.options (l : Level) : List Text :=
  let editing : List Text :=
    if l.edits then [
      "      --open <OPEN>      Edit this file instead of an empty buffer",
      "      --save             Write the buffer back to the opened file on exit"]
    else []
  let version : List Text :=
    if l = .main then ["  -V, --version          Print version"] else []
  let first : List Text := [
    "Options:",
    "      --config <CONFIG>  Configuration file [default: handsfree.toml]"]
  let last : List Text := [
    "  -v, --verbose          Debug logging (RUST_LOG overrides)",
    "      --stats            Print session stats on exit",
    "  -h, --help             Print help"]
  first ++ editing ++ last ++ version

/-- Help about a topic, line by line. -/
def Topic.lines : Topic → List Text
  | level l =>
    [l.about, [], "Usage: " ++ programName ++ " " ++ l.usage, []] ++ l.parts ++ l.options
  | help => [
    "Print this message or the help of the given subcommand(s)", [],
    "Usage: " ++ programName ++ " help [COMMAND]...", [],
    "Arguments:", "  [COMMAND]...  Print help for the subcommand(s)"]

/-- Help about a topic. -/
def Topic.shown (t : Topic) : Text := joinLines t.lines ++ ['\n']

end VoiceEdit.CommandLine

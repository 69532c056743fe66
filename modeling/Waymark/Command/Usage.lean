/-! What is printed on how to call the program. -/

set_option autoImplicit false

namespace Waymark.Usage

def lines : List String :=
  ["Documentation coverage scanner and agent handoff",
   "",
   "Usage: arkival [OPTIONS] <COMMAND>",
   "",
   "Commands:",
   "  scan               Scan the project and update the summary",
   "    --force            Keep a copy of the summary before, even of the same version",
   "    --verbosity <V>    Output size: minimal or standard",
   "  handoff incoming   Print what the session before left",
   "  handoff outgoing   Close the session and write every document of the handoff",
   "    --summary <S>      Summary of the session",
   "    --outcome <O>      completed or unresolved [default: unresolved]",
   "    --task <T>         Task worked on, may be given again",
   "  status             Show the resolved deployment and its paths",
   "",
   "Options:",
   "      --tool-root <DIR>  Directory of the tool",
   "      --cwd <DIR>        Working directory to resolve from",
   "  -v, --verbose          Say which directory of the tool is used",
   "  -h, --help             Print help"]

def text : String := String.join (lines.map (· ++ "\n"))

end Waymark.Usage

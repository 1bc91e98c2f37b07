import BrowserGrid.CommandLine.Grammar
/-!
# Explanations of the command line

`Level.usage` lists what may follow a command, `versionText` names the program and its version, and
`CompletionShell.script` makes a shell complete the names of the commands.
-/

namespace BrowserGrid

namespace CommandLine

/-- The version of the program. -/
def version : String := "0.1.0"

/-- The version of a command. -/
def versionText (level : Level) : String := level.fullName ++ " " ++ version

/-- What may follow a command. -/
def Level.usage (level : Level) : String :=
  let commands := level.children.map fun (name, _) => "  " ++ name
  let flags := level.flags.map fun (name, _) => "  --" ++ name
  let keys := level.keys.map fun (name, _) => "  --" ++ name ++ " <VALUE>"
  let part (title : String) (lines : List String) : List String :=
    if lines.isEmpty then [] else ["", title] ++ lines
  "\n".intercalate
    (["Usage: " ++ level.fullName] ++ part "Commands:" commands ++ part "Options:" (keys ++ flags))

end CommandLine

open CommandLine in
/-- A script that completes the names of the commands. -/
def CompletionShell.script (shell : CompletionShell) : String :=
  let program := Level.root.fullName
  let words := " ".intercalate (Level.root.children.map (·.1))
  match shell with
  | .bash => "complete -W \"" ++ words ++ "\" " ++ program
  | .elvish =>
    "set edit:completion:arg-completer[" ++ program ++ "] = \x7b|@arguments| put " ++ words ++
      " \x7d"
  | .fish => "complete -c " ++ program ++ " -f -a \"" ++ words ++ "\""
  | .powershell =>
    "Register-ArgumentCompleter -Native -CommandName " ++ program ++
      " -ScriptBlock \x7b \"" ++ words ++ "\" -split \" \" \x7d"
  | .zsh => "compctl -k \"(" ++ words ++ ")\" " ++ program

end BrowserGrid

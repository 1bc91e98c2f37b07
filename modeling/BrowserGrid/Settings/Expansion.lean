import BrowserGrid.Settings.Environment
import BrowserGrid.Text.Ascii
/-!
# Paths as a user writes them

`expand?` replaces variables, `$NAME`, `${NAME}` or `${NAME:-default}`, and then a tilde at the
start.  Two dollar signs stand for one.  A variable that is not set and has no default is an error;
a tilde that only comes out of a variable is left alone.
-/

namespace BrowserGrid.Settings

/-- The characters of the name of a variable. -/
def isNameChar (c : Char) : Bool := c.isAlphanum || c = '_'

/-- Cut what stands between the braces into a name and a default. -/
def splitDefault (inner : List Char) : List Char × Option (List Char) :=
  match Text.cutList [':', '-'] inner with
  | some ([], _) | none => (inner, none)
  | some (name, default) => (name, some default)

/-- The value of a variable, or its default. -/
def variableOr (env : Environment) (name : List Char) (default : Option (List Char)) :
    Option (List Char) :=
  ((env.get? (String.ofList name)).map String.toList).or default

/-- Replace the variables; nothing if one of them is not set. -/
def expandVariables? (env : Environment) : (fuel : Nat) → List Char → Option (List Char)
  | 0, cs => some cs
  | fuel + 1, cs => do
    match cs with
    | [] => return []
    | '$' :: '\x7b' :: rest =>
      match Text.cutAtList (· = '\x7d') rest with
      | none => return '$' :: '\x7b' :: (← expandVariables? env fuel rest)
      | some (inner, rest) =>
        let (name, default) := splitDefault inner
        return (← variableOr env name default) ++ (← expandVariables? env fuel rest)
    | '$' :: '$' :: rest => return '$' :: (← expandVariables? env fuel rest)
    | '$' :: rest =>
      let name := rest.takeWhile isNameChar
      if name.isEmpty then return '$' :: (← expandVariables? env fuel rest)
      else
        return (← variableOr env name none) ++
          (← expandVariables? env fuel (rest.dropWhile isNameChar))
    | c :: rest => return c :: (← expandVariables? env fuel rest)

/-- Replace a tilde that stands for the home folder. -/
def expandHome (env : Environment) (cs : List Char) : List Char :=
  match cs with
  | '~' :: rest =>
    if rest.isEmpty ∨ rest.head? = some '/' then
      match env.home? with
      | some home => home.toList ++ rest
      | none => cs
    else cs
  | _ => cs

/-- The path that a user means; nothing if it names a variable that is not set. -/
def expand? (env : Environment) (text : String) : Option String := do
  let cs := text.toList
  let expanded ← expandVariables? env (cs.length + 1) cs
  return String.ofList (if cs.head? = some '~' then expandHome env expanded else expanded)

end BrowserGrid.Settings

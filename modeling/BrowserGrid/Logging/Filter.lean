import BrowserGrid.Logging.Verbosity
import BrowserGrid.Text.Integer
/-!
# Which log lines are kept

A `LogFilter` has a level for every topic it knows; of the rules whose topic a line's topic begins
with, the longest counts (`LogFilter.allows`).  `LogFilter.parse?` reads rules with commas between
them, each a level for all topics, a topic with a level, or a topic alone, which keeps all its
lines.
-/

namespace BrowserGrid

/-- A line for the log. -/
structure LogLine where
  /-- How much it matters. -/
  level : LogLevel
  /-- What it is about. -/
  topic : String
  /-- The message. -/
  message : String
  deriving DecidableEq, Inhabited

/-- The text of a line. -/
def LogLine.text (line : LogLine) : String := line.level.name ++ ": " ++ line.message

/-- The level of the lines of a topic. -/
structure LogRule where
  /-- What the topics begin with. -/
  topic : String := ""
  /-- The level. -/
  level : LogLevel
  deriving DecidableEq, Inhabited

/-- Which lines are kept. -/
structure LogFilter where
  /-- The rules. -/
  rules : List LogRule := []
  deriving DecidableEq, Inhabited

namespace LogFilter

/-- The level of a name or of a digit. -/
def level? (s : String) : Option LogLevel :=
  (LogLevel.ofName? s).or <| (Text.natural? Text.maxLong s).bind fun n =>
    [LogLevel.off, .error, .warn, .info, .debug, .trace][n]?

/-- Whether a rule may begin with a character. -/
def startsRule (c : Char) : Bool := c.isAlphanum || c = '-' || c = ':' || c = '_' || c = '['

/-- Read a rule; one for marked sections of the program says nothing about a line. -/
def rule? (s : String) : Option (Option LogRule) := do
  if !(s.toList.head?.any startsRule) then none
  else if s.contains '[' then return none
  else
    match Text.cut? "=" s with
    | none =>
      match level? s with
      | some level => return some { level }
      | none => return some { topic := s, level := .trace }
    | some (topic, "") => return some { topic, level := .trace }
    | some (topic, name) => return some { topic, level := ← level? name }

/-- Read rules; of two with one topic the later counts, and no rule at all keeps the errors. -/
def parse? (s : String) : Option LogFilter := do
  let rules ← ((Text.pieces (· = ',') s).filter (!·.isEmpty)).mapM rule?
  if rules.isEmpty then return { rules := [{ level := .error }] }
  else return { rules := (rules.filterMap id).reverse }

/-- The lines of the hub down to a level. -/
def standard (level : LogLevel) : LogFilter := { rules := [{ topic := "gridhub", level }] }

/-- The rule with the longest topic, the first of several. -/
def longest : List LogRule → Option LogRule
  | [] => none
  | r :: rest =>
    match longest rest with
    | some q => if q.topic.length > r.topic.length then some q else some r
    | none => some r

/-- Whether a line is kept. -/
def allows (f : LogFilter) (line : LogLine) : Bool :=
  match longest (f.rules.filter fun r => line.topic.startsWith r.topic) with
  | some r => line.level.rank ≤ r.level.rank
  | none => false

end LogFilter

end BrowserGrid

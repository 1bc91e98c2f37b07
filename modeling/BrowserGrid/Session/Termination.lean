import BrowserGrid.Json.Record
/-!
# Why sessions end

A `Termination` is the reason that a session ended.  Its JSON form is a record of the reason's name
and, for a reason in somebody's own words, those words.
-/

namespace BrowserGrid

/-- The reason that a session ended. -/
inductive Termination where
  /-- It was idle for too long. -/
  | timeout
  /-- Its client disappeared. -/
  | clientGone
  /-- Its client ended it. -/
  | clientStopped
  /-- It was found without an owner. -/
  | orphan
  /-- Its proxy registered again. -/
  | reregistration
  /-- Its proxy was unregistered. -/
  | proxyRemoved
  /-- The registry was stopped. -/
  | registryStopped
  /-- Somebody released it. -/
  | forced (detail : String)
  deriving DecidableEq, Inhabited

namespace Termination

/-- The text of a reason. -/
def text : Termination → String
  | timeout => "timeout"
  | clientGone => "client gone"
  | clientStopped => "client stopped session"
  | orphan => "orphan session"
  | reregistration => "proxy re-registered"
  | proxyRemoved => "proxy removed"
  | registryStopped => "registry stopped"
  | forced detail => "forced: " ++ detail

/-- The reasons that need no words, with their names. -/
def named : List (String × Termination) :=
  [("timeout", timeout), ("client_gone", clientGone), ("client_stopped_session", clientStopped),
   ("orphan_session", orphan), ("proxy_reregistration", reregistration),
   ("proxy_removed", proxyRemoved), ("registry_stopped", registryStopped)]

/-- The name of a reason. -/
def name : Termination → String
  | timeout => "timeout"
  | clientGone => "client_gone"
  | clientStopped => "client_stopped_session"
  | orphan => "orphan_session"
  | reregistration => "proxy_reregistration"
  | proxyRemoved => "proxy_removed"
  | registryStopped => "registry_stopped"
  | forced _ => "forced"

/-- The words of a reason. -/
def detail? : Termination → Option String
  | forced detail => some detail
  | _ => none

/-- The JSON form. -/
def toJson (t : Termination) : Json :=
  Json.Record.write [("reason", some (.str t.name)), ("detail", t.detail?.map .str)]

/-- The reason of a name and of what stands as its detail: words for a forced end, else nothing. -/
def ofParts? (name : String) (detail : Json) : Option Termination :=
  if name = "forced" then detail.text?.map forced
  else if detail = .null then KeyMap.lookup name named
  else none

open Json.Record in
/-- Read the JSON form; a list must have both parts. -/
def ofJson? : Json → Option Termination
  | .arr items => do
    let (name, detail) ← read? (do
      return (← required "reason" Json.text?, ← required "detail" some)) (.arr items)
    ofParts? name detail
  | j => do
    let (name, detail) ← read? (do
      return (← required "reason" Json.text?, ← defaulted "detail" .null some)) j
    ofParts? name detail

end Termination

end BrowserGrid

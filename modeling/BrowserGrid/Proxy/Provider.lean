import BrowserGrid.Endpoint
import BrowserGrid.Json.Record
import BrowserGrid.Proxy
/-!
# Cloud providers as proxies

A cloud provider is a proxy with as many slots as its subscription allows (`Proxy.provider`).  Its
slots name no browser and take what the local fleet cannot serve.  A provider with a status page is
registered only after that page has answered.
-/

namespace BrowserGrid

/-- A cloud provider. -/
structure Provider where
  /-- The name. -/
  name : String
  /-- The endpoint that sessions are sent to. -/
  url : String
  /-- The number of sessions that may run at once. -/
  maxSessions : Nat := 1
  /-- The user. -/
  user : Option String := none
  /-- The user's secret. -/
  accessKey : Option String := none
  /-- The page that says whether the provider is available. -/
  statusUrl : Option String := none
  deriving DecidableEq, Inhabited

namespace Provider

open Json.Record in
/-- Read the JSON form. -/
def ofJson? : Json → Option Provider :=
  read? do
    return {
      name := ← required "name" Json.text?
      url := ← required "url" Json.text?
      maxSessions := ← defaulted "max_sessions" 1 (Json.nat? Text.maxLong)
      user := ← optional "user" Json.text?
      accessKey := ← optional "access_key" Json.text?
      statusUrl := ← optional "status_url" Json.text? }

/-- The identity: that of the endpoint, or the name if the endpoint has none. -/
def id (p : Provider) : ProxyId := (Endpoint.authority? p.url).getD p.name

/-- What every slot offers. -/
def slot (p : Provider) : Capabilities := Capabilities.empty.insert "cloudProvider" (.str p.name)

/-- What is said of a provider whose status page does not answer. -/
def unavailable (p : Provider) : String := "cloud provider " ++ p.name ++ " unavailable"

end Provider

/-- The proxy of a cloud provider. -/
def Proxy.provider (serial : Nat) (p : Provider) : Proxy Versions where
  serial
  id := p.id
  kind := .cloud
  slots := List.replicate p.maxSessions p.slot
  judge := judgeBy .cloud

end BrowserGrid

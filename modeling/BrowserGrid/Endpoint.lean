import BrowserGrid.Endpoint.Url
import BrowserGrid.Text.Blank
/-!
# Addresses of endpoints

Nodes and providers state their address as a URL, as `host:port` or as a host alone; what is not a
URL is read as one of the scheme http.  What a URL is and says comes from a `UrlReader`, which is
`Url.reader` in the hub.  `Endpoint.authority?` is the identity of an endpoint and `Endpoint.host?`
its host.
-/

namespace BrowserGrid

/-- A reader of URLs: which texts are URLs, and what a URL says about where to connect. -/
structure UrlReader (υ : Type) where
  /-- The URL that a text is. -/
  parse? : String → Option υ
  /-- The host as it is written, an IPv6 address between brackets. -/
  host? : υ → Option String
  /-- The port that is stated or that the scheme has. -/
  port? : υ → Option Nat

namespace UrlReader

variable {υ : Type} (reader : UrlReader υ)

/-- The URL of an address with a host. -/
def endpoint? (remote : String) : Option υ := do
  let remote := Text.trim remote
  let url ← match Text.cut? "://" remote with
    | some (_, rest) =>
      if rest.isEmpty ∨ rest.startsWith '/' then none else reader.parse? remote
    | none => reader.parse? ("http://" ++ remote)
  let host ← reader.host? url
  if host.isEmpty then none else some url

/-- The host of an address in lower case, and the port that is stated or that the scheme has. -/
def endpointAuthority? (remote : String) : Option String := do
  let url ← reader.endpoint? remote
  let host := Text.lower (← reader.host? url)
  match reader.port? url with
  | some port => return host ++ ":" ++ toString port
  | none => return host

/-- The host of an address in lower case, an IPv6 address without its brackets. -/
def endpointHost? (remote : String) : Option String := do
  let host ← reader.host? (← reader.endpoint? remote)
  let inner := (Text.dropPrefix? "[" host).bind (Text.dropSuffix? "]")
  return Text.lower (inner.getD host)

end UrlReader

/-- The reader of URLs that the hub uses. -/
def Url.reader : UrlReader Url where
  parse? := Url.parse?
  host? url := url.host.map Host.text
  port? := Url.portOrDefault?

namespace Endpoint

/-- The URL of an address with a host. -/
def parse? : String → Option Url := Url.reader.endpoint?

/-- The identity of an endpoint: its host and its port. -/
def authority? : String → Option String := Url.reader.endpointAuthority?

/-- The host of an endpoint. -/
def host? : String → Option String := Url.reader.endpointHost?

end Endpoint

end BrowserGrid

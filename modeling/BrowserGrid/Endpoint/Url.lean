import BrowserGrid.Endpoint.Ipv6
import BrowserGrid.Endpoint.Domain
import BrowserGrid.Text.Integer
/-!
# The authority of a URL

`Url.parse?` reads the scheme, the host and the port of a URL and leaves the rest alone.  It follows
the URL standard where the host is an address or a name in ASCII; of other names it knows only a
part (`Domain.toAscii?`).  The schemes of the web (`SchemeKind.special`) accept any number of
slashes in front of the host, backslashes among them, and need a host.
-/

namespace BrowserGrid

/-- How the authority of a URL is read. -/
inductive SchemeKind where
  /-- A scheme of the web with a default port. -/
  | special
  /-- The scheme of files. -/
  | file
  /-- Any other scheme. -/
  | other
  deriving DecidableEq

/-- A host. -/
inductive Host where
  /-- A name. -/
  | name (text : List Char)
  /-- An IPv4 address. -/
  | ipv4 (bits : Nat)
  /-- An IPv6 address by its eight pieces. -/
  | ipv6 (pieces : List Nat)
  deriving DecidableEq

/-- What a URL says about where to connect. -/
structure Url where
  /-- The scheme in lower case. -/
  scheme : String
  /-- The host, if there is one. -/
  host : Option Host
  /-- The port, if it is stated and is not that of the scheme. -/
  port : Option Nat
  deriving DecidableEq

namespace Host

/-- The text of a host, an IPv6 address between brackets. -/
def text : Host → String
  | .name cs => String.ofList cs
  | .ipv4 bits => Ipv4.text bits
  | .ipv6 pieces => "[" ++ Ipv6.text pieces ++ "]"

/-- Whether a host is the empty name. -/
def isEmpty : Host → Bool
  | .name [] => true
  | _ => false

/-- The address that stands before a closing bracket. -/
def bracketed? (rest : List Char) : Option Host :=
  if rest.getLast? = some ']' then (Ipv6.parse? rest.dropLast).map .ipv6 else none

/-- A host of a scheme of the web or of files. -/
def parse? (cs : List Char) : Option Host :=
  match cs with
  | '[' :: rest => bracketed? rest
  | _ => do
    let decoded := Utf8.decodeList (Domain.percentDecode (Utf8.encode (String.ofList cs)))
    let name ← Domain.toAscii? decoded
    if name.isEmpty then none
    else if Ipv4.endsInNumber name then (Ipv4.parse? name).map .ipv4
    else some (.name name)

/-- A host of any other scheme. -/
def parseOpaque? (cs : List Char) : Option Host :=
  match cs with
  | '[' :: rest => bracketed? rest
  | _ =>
    if cs.any Domain.isForbiddenOpaque then none else some (.name (Domain.percentEncode cs))

end Host

namespace Url

/-- The port of a scheme. -/
def defaultPort? (scheme : String) : Option Nat :=
  match scheme with
  | "http" => some 80
  | "https" => some 443
  | "ws" => some 80
  | "wss" => some 443
  | "ftp" => some 21
  | _ => none

/-- How URLs of a scheme are read. -/
def kind (scheme : String) : SchemeKind :=
  if scheme = "file" then .file
  else if (defaultPort? scheme).isSome then .special
  else .other

/-- Drop what stands around a URL: control characters and blanks at its ends, and tabs and line ends
anywhere. -/
def strip (cs : List Char) : List Char :=
  let low (c : Char) : Bool := c.toNat ≤ 0x20
  let trimmed := ((cs.dropWhile low).reverse.dropWhile low).reverse
  trimmed.filter (fun c => c ≠ '\t' ∧ c ≠ '\n' ∧ c ≠ '\r')

/-- Whether a character may stand in a scheme. -/
def isSchemeChar (c : Char) : Bool := c.isAlphanum || c = '+' || c = '-' || c = '.'

/-- The scheme of a URL and what follows its colon. -/
def scheme? (cs : List Char) : Option (String × List Char) :=
  match cs with
  | c :: _ =>
    if !c.isAlpha then none
    else
      match cs.dropWhile isSchemeChar with
      | ':' :: rest => some (Text.lower (String.ofList (cs.takeWhile isSchemeChar)), rest)
      | _ => none
  | [] => none

/-- Whether a character ends the authority. -/
def endsAuthority (kind : SchemeKind) (c : Char) : Bool :=
  c = '/' || c = '?' || c = '#' || (c = '\\' && kind != .other)

/-- The host part of an authority, up to a colon outside of brackets. -/
def hostPart (inBrackets : Bool) : List Char → List Char × List Char
  | [] => ([], [])
  | c :: rest =>
    if c = ':' ∧ !inBrackets then ([], c :: rest)
    else
      let (host, after) :=
        hostPart (if c = '[' then true else if c = ']' then false else inBrackets) rest
      (c :: host, after)

/-- The port that follows a colon; `some none` where no digit stands. -/
def portPart? (cs : List Char) : Option (Option Nat) :=
  let ds := cs.takeWhile Char.isDigit
  match cs.dropWhile Char.isDigit with
  | [] => if ds.isEmpty then some none else (Text.digits? ds).filter (· ≤ Text.maxPort) |>.map some
  | c :: _ =>
    if c ≠ '\\' then none
    else if ds.isEmpty then some none
    else (Text.digits? ds).filter (· ≤ Text.maxPort) |>.map some

/-- The part of an authority after its last `@`, and whether there is one; the credentials must
not be empty where nothing follows them but more of the URL. -/
def afterCredentials? (authority : List Char) (more : Bool) : Option (Bool × List Char) :=
  if authority.contains '@' then
    let host := (authority.reverse.takeWhile (· ≠ '@')).reverse
    let credentials := authority.take (authority.length - host.length - 1)
    if credentials.isEmpty ∧ host.isEmpty ∧ more then none
    else some (!credentials.isEmpty, host)
  else some (false, authority)

/-- Read the authority of a URL, which starts after the slashes. -/
def ofAuthority? (scheme : String) (cs : List Char) : Option Url := do
  let kind := kind scheme
  let authority := cs.takeWhile (!endsAuthority kind ·)
  let more := authority.length < cs.length
  let (credentials, rest) ← afterCredentials? authority more
  let (hostText, after) := hostPart false rest
  let host ← if kind = .other then Host.parseOpaque? hostText else Host.parse? hostText
  if host.isEmpty ∧ (!after.isEmpty ∨ credentials) then none
  match after with
  | [] => return ⟨scheme, if host.isEmpty then none else some host, none⟩
  | _ :: digits =>
    let port ← portPart? digits
    return ⟨scheme, some host, if port = defaultPort? scheme then none else port⟩

/-- Whether a path starts with the letter of a drive. -/
def startsWithDrive (path : List Char) : Bool :=
  match path with
  | _ :: letter :: colon :: rest =>
    letter.isAlpha && (colon = ':' || colon = '|') &&
      (match rest with
        | [] => true
        | c :: _ => c = '/' || c = '\\' || c = '?' || c = '#')
  | _ => false

/-- Read the host of a file URL, which starts after two slashes. -/
def ofFile? (cs : List Char) : Option Url := do
  let ends (c : Char) : Bool := endsAuthority .file c
  let hostText := cs.takeWhile (!ends ·)
  let path := cs.dropWhile (!ends ·)
  let isDrive : Bool := match hostText with
    | [letter, colon] => letter.isAlpha && (colon = ':' || colon = '|')
    | _ => false
  if hostText.isEmpty ∨ isDrive then return ⟨"file", none, none⟩
  let host ← Host.parse? hostText
  if host = .name "localhost".toList ∨ startsWithDrive path then return ⟨"file", none, none⟩
  else return ⟨"file", some host, none⟩

/-- Whether a character is a slash of either direction. -/
def isSlash (c : Char) : Bool := c = '/' || c = '\\'

/-- Read the scheme, the host and the port of a URL. -/
def parse? (s : String) : Option Url := do
  let (scheme, rest) ← scheme? (strip s.toList)
  match kind scheme with
  | .special => ofAuthority? scheme (rest.dropWhile isSlash)
  | .file =>
    match rest with
    | a :: b :: after =>
      if isSlash a ∧ isSlash b then ofFile? after else return ⟨scheme, none, none⟩
    | _ => return ⟨scheme, none, none⟩
  | .other =>
    match rest with
    | '/' :: '/' :: after => ofAuthority? scheme after
    | _ => return ⟨scheme, none, none⟩

/-- The port of a URL, or that of its scheme. -/
def portOrDefault? (u : Url) : Option Nat := u.port.or (defaultPort? u.scheme)

end Url

end BrowserGrid

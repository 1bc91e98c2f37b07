import BrowserGrid.Api.Body
import BrowserGrid.Api.Error
import BrowserGrid.Text.Ascii
import BrowserGrid.Text.Utf8
/-!
# Requests to the hub

A `Request` is a method, a path and perhaps a body.  `Request.command` finds out what it asks for:
first by its path (`Route.ofPath?`) and its method, then by the parts of the path, the type of the
body and the body itself.  What cannot be understood is answered at once.
-/

namespace BrowserGrid.Api

/-- The methods that routes tell apart. -/
inductive Method where
  /-- Look at something. -/
  | get
  /-- Look at something, but answer without a body. -/
  | head
  /-- Ask for something to be done. -/
  | post
  /-- Remove something. -/
  | delete
  /-- Any other method. -/
  | other
  deriving DecidableEq, Inhabited

/-- The method of a name. -/
def Method.ofName (name : String) : Method :=
  match name with
  | "GET" => get
  | "HEAD" => head
  | "POST" => post
  | "DELETE" => delete
  | _ => other

/-- A request. -/
structure Request where
  /-- The method. -/
  method : Method
  /-- The path, with what follows a question mark. -/
  path : String
  /-- The type of the body. -/
  contentType : Option String := none
  /-- The body. -/
  body : String := ""
  deriving DecidableEq, Inhabited

/-- What a response carries. -/
inductive Payload where
  /-- Nothing. -/
  | none
  /-- A value. -/
  | json (value : Json)
  /-- A plain text. -/
  | text (text : String)
  deriving DecidableEq, Inhabited

/-- A response. -/
structure Response where
  /-- The status. -/
  status : Nat
  /-- What it carries. -/
  payload : Payload := .none
  deriving DecidableEq, Inhabited

/-- The response to a failure. -/
def Error.response (e : Error) : Response := ⟨e.fault.status, .json e.body⟩

/-! ### Routes -/

/-- The places that the hub knows. -/
inductive Route where
  /-- Whether the hub is up. -/
  | health
  /-- Where nodes announce themselves. -/
  | register
  /-- How the hub is. -/
  | status
  /-- Where sessions are asked for. -/
  | sessions
  /-- A session, its key as it stands in the path. -/
  | session (key : String)
  /-- Where a session is given the key of the client's protocol. -/
  | activation (key : String)
  deriving DecidableEq, Inhabited

/-- The route of a path. -/
def Route.ofPath? (path : String) : Option Route :=
  match Text.pieces (· = '/') path with
  | ["", "health"] => some health
  | ["", "grid", "register"] => some register
  | ["", "grid", "status"] => some status
  | ["", "session"] => some sessions
  | ["", "session", key] => if key.isEmpty then none else some (session key)
  | ["", "session", key, "activate"] => if key.isEmpty then none else some (activation key)
  | _ => none

/-- The path of a request without the query. -/
def Request.route? (r : Request) : Option Route :=
  Route.ofPath? (String.ofList (r.path.toList.takeWhile fun c => c ≠ '?' && c ≠ '#'))

/-! ### The parts of a request -/

/-- Replace every percent sign with two hexadecimal digits after it by the byte that they write. -/
def percentDecode : List UInt8 → List UInt8
  | 0x25 :: high :: low :: rest =>
    match Utf8.hexValue? (Char.ofNat high.toNat), Utf8.hexValue? (Char.ofNat low.toNat) with
    | some h, some l => UInt8.ofNat (h * 16 + l) :: percentDecode rest
    | _, _ => 0x25 :: percentDecode (high :: low :: rest)
  | b :: rest => b :: percentDecode rest
  | [] => []

/-- The text that a part of a path writes. -/
def pathText? (part : String) : Option String :=
  String.fromUTF8? ⟨(percentDecode (Utf8.encode part)).toArray⟩

/-- The characters of the names in the type of a body. -/
def isTypeChar (c : Char) : Bool := c.isAlphanum || "!#$%&'*+-.^_|~\x60".toList.contains c

/-- Whether a text is a name in the type of a body. -/
def isTypeName (cs : List Char) : Bool := !cs.isEmpty && cs.all isTypeChar

/-- Whether a parameter in the type of a body is a name and a value. -/
def isTypeParameter (part : List Char) : Bool :=
  let part := part.dropWhile (· = ' ')
  match part.span (· ≠ '=') with
  | (name, '=' :: '"' :: value) =>
    isTypeName name && value.getLast? = some '"' && !value.dropLast.contains '"'
  | (name, '=' :: value) => isTypeName name && isTypeName value
  | _ => false

/-- Whether a type says that the body is JSON. -/
def isJsonType (type : String) : Bool :=
  match Text.piecesList (· = ';') type.toList with
  | [] => false
  | essence :: parameters =>
    let parameters := if parameters.getLast? = some [] then parameters.dropLast else parameters
    match Text.piecesList (· = '/') (essence.map Char.toLower) with
    | [top, sub] =>
      isTypeName top && isTypeName sub && parameters.all isTypeParameter &&
        top = "application".toList &&
        (sub = "json".toList ||
          (sub.contains '+' && (Text.piecesList (· = '+') sub).getLast? = some "json".toList))
    | _ => false

/-- Read the body of a request. -/
def Request.read (r : Request) (fields : List Field) : Except Response Json :=
  if r.contentType.any isJsonType then
    match Body.read fields r.body with
    | .ok j => .ok j
    | .error .malformed =>
      .error ⟨400, .text "Failed to parse the request body as JSON"⟩
    | .error .unexpected =>
      .error ⟨422, .text "Failed to deserialize the JSON body into the target type"⟩
  else .error ⟨415, .text "Expected request with \x60Content-Type: application/json\x60"⟩

/-- A part of the path as a text. -/
def pathText (part : String) : Except Response String :=
  match pathText? part with
  | some text => .ok text
  | none => .error ⟨400, .text "Invalid URL: Invalid UTF-8 in \x60key\x60"⟩

/-- The key of a session that a client names. -/
def sessionKey (text : String) : Except Response SessionKey :=
  match SessionKey.parse? text with
  | some key => .ok key
  | none => .error (Error.response ⟨.badRequest, "invalid session key: " ++ text⟩)

/-! ### Commands -/

/-- What a client asks for. -/
inductive Command where
  /-- Whether the hub is up. -/
  | health
  /-- How the hub is. -/
  | status
  /-- A node announces itself: where it is reached, its name, and what its slots offer. -/
  | register (remoteHost : String) (name : Option String) (slots : List Capabilities)
  /-- A session, and how many seconds the client waits for it. -/
  | newSession (requested : Capabilities) (timeoutSecs : Option Nat)
  /-- A look at a session. -/
  | session (key : SessionKey)
  /-- The key that the client's protocol has given a session. -/
  | activate (key : SessionKey) (externalKey : String)
  /-- The end of a session. -/
  | delete (key : SessionKey)
  deriving DecidableEq, Inhabited

/-- The fields of a node's announcement. -/
def announcementFields : List Field :=
  [⟨"remoteHost", .text, .never⟩, ⟨"containerName", .textOrNull, .fromObject⟩,
   ⟨"capabilities", .objects, .always⟩]

/-- The fields of a request for a session. -/
def newSessionFields : List Field :=
  [⟨"capabilities", .object, .never⟩, ⟨"timeoutSecs", .countOrNull, .fromObject⟩]

/-- The fields of an activation. -/
def activationFields : List Field := [⟨"externalKey", .text, .never⟩]

/-- The text at a name. -/
def textAt? (j : Json) (name : String) : Option String := (j.member? name).bind Json.text?

/-- The announcement of a body. -/
def Command.ofAnnouncement (j : Json) : Command :=
  .register ((textAt? j "remoteHost").getD "") (textAt? j "containerName")
    ((((j.member? "capabilities").bind Json.items?).getD []).filterMap Capabilities.ofJson?)

/-- The request for a session of a body. -/
def Command.ofNewSession (j : Json) : Command :=
  .newSession (((j.member? "capabilities").bind Capabilities.ofJson?).getD .empty)
    ((j.member? "timeoutSecs").bind (Json.nat? Text.maxLong))

/-- The response to a path that the hub does not know. -/
def unknownPath : Response := ⟨404, .none⟩

/-- The response to a method that a route does not have. -/
def wrongMethod : Response := ⟨405, .none⟩

/-- What a request asks for at a route. -/
def Request.commandAt (r : Request) : Route → Except Response Command
  | .health => if r.method = .get ∨ r.method = .head then .ok .health else .error wrongMethod
  | .status => if r.method = .get ∨ r.method = .head then .ok .status else .error wrongMethod
  | .register =>
    if r.method = .post then (r.read announcementFields).map Command.ofAnnouncement
    else .error wrongMethod
  | .sessions =>
    if r.method = .post then (r.read newSessionFields).map Command.ofNewSession
    else .error wrongMethod
  | .session part =>
    if r.method = .get ∨ r.method = .head then do
      return .session (← sessionKey (← pathText part))
    else if r.method = .delete then do
      return .delete (← sessionKey (← pathText part))
    else .error wrongMethod
  | .activation part =>
    if r.method = .post then do
      let text ← pathText part
      let body ← r.read activationFields
      return .activate (← sessionKey text) ((textAt? body "externalKey").getD "")
    else .error wrongMethod

/-- What a request asks for. -/
def Request.command (r : Request) : Except Response Command :=
  match r.route? with
  | some route => r.commandAt route
  | none => .error unknownPath

/-- The response as it goes to the client. -/
def Request.finish (r : Request) (response : Response) : Response :=
  if r.method = .head then { response with payload := .none } else response

end BrowserGrid.Api

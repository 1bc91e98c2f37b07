import BrowserGrid.Capability.Matcher
import BrowserGrid.Cluster.Client
import BrowserGrid.Duration
import BrowserGrid.Provisioner
import BrowserGrid.Proxy.Provider
import BrowserGrid.Settings.Coercion
import BrowserGrid.Settings.Environment
/-!
# Settings

`Settings` is everything that a hub is configured with, and `Settings.ofJson?` reads it from an
object in which anything may be missing.  The parts of the hub take from it what they need:
`HubSettings.pollInterval`, `HubSettings.waitTimeout`, `HubSettings.defaults`,
`ContainerSettings.client` and `ContainerSettings.provisioner`.
-/

namespace BrowserGrid

open Settings Json.Record

/-- Where and how much is logged. -/
structure LoggingSettings where
  /-- The level. -/
  level : String := "info"
  /-- The file that log lines are appended to. -/
  file : Option String := none
  deriving DecidableEq, Inhabited

/-- Where the hub listens. -/
structure ServerSettings where
  /-- The address. -/
  host : String := "0.0.0.0"
  /-- The port. -/
  port : Nat := 4444
  deriving DecidableEq, Inhabited

/-- A browser of the local fleet. -/
structure BrowserSettings where
  /-- The name. -/
  name : String
  /-- The version; empty if it is not known. -/
  version : String := ""
  deriving DecidableEq, Inhabited

/-- How the hub serves requests. -/
structure HubSettings where
  /-- How many milliseconds the matching waits for a reason to run again. -/
  pollMillis : Nat := 5000
  /-- How many seconds a request waits for a session. -/
  waitSeconds : Nat := 300
  /-- The screen of requests that name none. -/
  screenResolution : String := "1920x1080"
  /-- The time zone of requests that name none. -/
  timeZone : String := "UTC"
  /-- The most pods that the hub may own. -/
  maxContainers : Nat := 10
  /-- Where nodes find the hub. -/
  hubUrl : String := "http://gridhub:4444"
  /-- The browsers of the local fleet. -/
  browsers : List BrowserSettings := [{ name := "chrome" }, { name := "firefox" }]
  deriving DecidableEq, Inhabited

/-- How pods are made and marked. -/
structure ContainerSettings where
  /-- The command that reaches the platform. -/
  binary : String := "kubectl"
  /-- The namespace. -/
  scope : String := "default"
  /-- The context of the user's configuration. -/
  context : Option String := none
  /-- The image of nodes. -/
  image : String := "selenium/standalone-chrome:latest"
  /-- What the names of pods start with. -/
  namePrefix : String := "gridhub-node"
  /-- The key of the label on everything that the hub owns. -/
  ownershipLabel : String := "createdBy"
  /-- The value of that label. -/
  ownershipValue : String := "gridhub"
  /-- The value of the `app` label of nodes. -/
  appLabel : String := "gridhub-node"
  /-- The folder of the memory-backed volume. -/
  memoryPath : String := "/dev/shm"
  /-- The folder that is passed through to nodes. -/
  sharedFolderPath : String := "/tmp/mounted"
  /-- The variable that holds the port of a node's screen. -/
  screenVar : String := "NOVNC_PORT"
  /-- The port of a node's screen. -/
  screenPort : Nat := 7900
  /-- The port at which a node takes commands. -/
  nodePort : Option Nat := some 4444
  /-- The amounts of resources of a node. -/
  resources : ResourceRequirements := {}
  deriving DecidableEq, Inhabited

/-- The settings of a hub. -/
structure Settings where
  /-- Logging. -/
  logging : LoggingSettings := {}
  /-- The server. -/
  server : ServerSettings := {}
  /-- The hub. -/
  hub : HubSettings := {}
  /-- Pods. -/
  container : ContainerSettings := {}
  /-- Cloud providers. -/
  cloud : List Provider := []
  deriving DecidableEq, Inhabited

/-! ### Reading -/

namespace Settings

/-- Read the settings of logging. -/
def logging? : Json → Option LoggingSettings :=
  record? do
    return {
      level := ← defaulted "level" "info" text?
      file := ← optional "file" text? }

/-- Read the settings of the server. -/
def server? : Json → Option ServerSettings :=
  record? do
    return {
      host := ← defaulted "host" "0.0.0.0" text?
      port := ← defaulted "port" 4444 (natural? Text.maxPort) }

/-- Read a browser. -/
def browser? : Json → Option BrowserSettings :=
  record? do
    return {
      name := ← required "name" text?
      version := ← defaulted "version" "" text? }

/-- Read the settings of the hub. -/
def hub? : Json → Option HubSettings :=
  let usual : HubSettings := {}
  record? do
    return {
      pollMillis :=
        ← defaulted "matcher_poll_interval_ms" usual.pollMillis (natural? Text.maxLong)
      waitSeconds :=
        ← defaulted "new_session_wait_timeout_secs" usual.waitSeconds (natural? Text.maxLong)
      screenResolution := ← defaulted "default_screen_resolution" usual.screenResolution text?
      timeZone := ← defaulted "default_time_zone" usual.timeZone text?
      maxContainers := ← defaulted "max_containers" usual.maxContainers (natural? Text.maxLong)
      hubUrl := ← defaulted "hub_url" usual.hubUrl text?
      browsers := ← defaulted "browsers" usual.browsers (Json.list? browser?) }

/-- Read the settings of pods. -/
def container? : Json → Option ContainerSettings :=
  let usual : ContainerSettings := {}
  record? do
    let text (name standard : String) : Reader String := defaulted name standard text?
    let binary ← text "binary" usual.binary
    let scope ← text "namespace" usual.scope
    let context ← optional "context" text?
    let image ← text "image" usual.image
    let namePrefix ← text "name_prefix" usual.namePrefix
    let ownershipLabel ← text "ownership_label" usual.ownershipLabel
    let ownershipValue ← text "ownership_value" usual.ownershipValue
    let appLabel ← text "app_label" usual.appLabel
    let memoryPath ← text "shm_path" usual.memoryPath
    let sharedFolderPath ← text "shared_folder_path" usual.sharedFolderPath
    let screenVar ← text "novnc_env" usual.screenVar
    let screenPort ← defaulted "novnc_port" usual.screenPort (natural? Text.maxPort)
    let nodePort ←
      defaulted "node_port" usual.nodePort (Json.optional? (natural? Text.maxPort))
    let cpuRequest ← optional "cpu_request" text?
    let cpuLimit ← optional "cpu_limit" text?
    let memoryRequest ← optional "memory_request" text?
    let memoryLimit ← optional "memory_limit" text?
    return {
      binary, scope, context, image, namePrefix, ownershipLabel, ownershipValue, appLabel,
      memoryPath, sharedFolderPath, screenVar, screenPort, nodePort
      resources := { cpuRequest, cpuLimit, memoryRequest, memoryLimit } }

/-- Read a cloud provider. -/
def provider? : Json → Option Provider :=
  record? do
    return {
      name := ← required "name" text?
      url := ← required "url" text?
      maxSessions := ← defaulted "max_sessions" 1 (natural? Text.maxLong)
      user := ← optional "user" text?
      accessKey := ← optional "access_key" text?
      statusUrl := ← optional "status_url" text? }

/-- Read the settings. -/
def ofJson? : Json → Option Settings :=
  record? do
    return {
      logging := ← defaulted "logging" {} logging?
      server := ← defaulted "server" {} server?
      hub := ← defaulted "hub" {} hub?
      container := ← defaulted "container" {} container?
      cloud := ← defaulted "cloud" [] (Json.list? provider?) }

end Settings

/-! ### Writing -/

/-- The JSON form. -/
def LoggingSettings.toJson (s : LoggingSettings) : Json :=
  .obj [("level", .str s.level), ("file", .ofText? s.file)]

/-- The JSON form. -/
def ServerSettings.toJson (s : ServerSettings) : Json :=
  .obj [("host", .str s.host), ("port", .nat s.port)]

/-- The JSON form. -/
def BrowserSettings.toJson (s : BrowserSettings) : Json :=
  .obj [("name", .str s.name), ("version", .str s.version)]

/-- The JSON form. -/
def HubSettings.toJson (s : HubSettings) : Json :=
  .obj [("matcher_poll_interval_ms", .nat s.pollMillis),
    ("new_session_wait_timeout_secs", .nat s.waitSeconds),
    ("default_screen_resolution", .str s.screenResolution),
    ("default_time_zone", .str s.timeZone), ("max_containers", .nat s.maxContainers),
    ("hub_url", .str s.hubUrl), ("browsers", .arr (s.browsers.map BrowserSettings.toJson))]

/-- The JSON form. -/
def ContainerSettings.toJson (s : ContainerSettings) : Json :=
  .obj [("binary", .str s.binary), ("namespace", .str s.scope), ("context", .ofText? s.context),
    ("image", .str s.image), ("name_prefix", .str s.namePrefix),
    ("ownership_label", .str s.ownershipLabel), ("ownership_value", .str s.ownershipValue),
    ("app_label", .str s.appLabel), ("shm_path", .str s.memoryPath),
    ("shared_folder_path", .str s.sharedFolderPath), ("novnc_env", .str s.screenVar),
    ("novnc_port", .nat s.screenPort), ("node_port", .ofOption Json.nat s.nodePort),
    ("cpu_request", .ofText? s.resources.cpuRequest),
    ("cpu_limit", .ofText? s.resources.cpuLimit),
    ("memory_request", .ofText? s.resources.memoryRequest),
    ("memory_limit", .ofText? s.resources.memoryLimit)]

/-- The JSON form of a cloud provider. -/
def Provider.toJson (p : Provider) : Json :=
  .obj [("name", .str p.name), ("url", .str p.url), ("max_sessions", .nat p.maxSessions),
    ("user", .ofText? p.user), ("access_key", .ofText? p.accessKey),
    ("status_url", .ofText? p.statusUrl)]

/-- The JSON form. -/
def Settings.toJson (s : Settings) : Json :=
  .obj [("logging", s.logging.toJson), ("server", s.server.toJson), ("hub", s.hub.toJson),
    ("container", s.container.toJson), ("cloud", .arr (s.cloud.map Provider.toJson))]

/-! ### What the parts of the hub take -/

/-- How long the matching waits for a reason to run again. -/
def HubSettings.pollInterval (s : HubSettings) : Duration := .ofMillis (max s.pollMillis 1)

/-- How long a request waits for a session. -/
def HubSettings.waitTimeout (s : HubSettings) : Duration := .ofSecs s.waitSeconds

/-- The defaults of the fleet. -/
def HubSettings.defaults (s : HubSettings) : FleetDefaults where
  screenResolution := s.screenResolution
  timeZone := s.timeZone

/-- How the pods and services of the hub are marked; the hub's own pod has the name of its host. -/
def ContainerSettings.client (s : ContainerSettings) (env : Environment) : Cluster.Client where
  ownershipLabel := s.ownershipLabel
  ownershipValue := s.ownershipValue
  appLabel := s.appLabel
  memoryPath := s.memoryPath
  sharedFolderPath := s.sharedFolderPath
  screenVar := s.screenVar
  hubPodName := env.filled? "HOSTNAME"
  resources := s.resources

/-- How nodes are started. -/
def ContainerSettings.provisioner (s : ContainerSettings) (hub : HubSettings) : Provisioner where
  image := s.image
  namePrefix := s.namePrefix
  maxContainers := hub.maxContainers
  hubUrl := hub.hubUrl
  screenPort := s.screenPort
  nodePort := s.nodePort

end BrowserGrid

import BrowserGrid.Json.Printer
import BrowserGrid.Settings
/-!
# The settings file to start with

`Settings.starterFile` is the file that a hub writes when it finds none: the standard settings, with
a heading that names the file.  Settings without a value are left out.
-/

namespace BrowserGrid.Settings

/-- The line of a text. -/
def textLine (name value : String) : String := name ++ " = " ++ Json.quote value ++ "\n"

/-- The line of a number. -/
def numberLine (name : String) (value : Nat) : String := name ++ " = " ++ toString value ++ "\n"

/-- What comes of a value, if there is one. -/
def lineOf {α : Type} (line : α → String) (value : Option α) : String := (value.map line).getD ""

/-- A section under a heading. -/
def headed (heading : String) (lines : List String) : String :=
  "\n" ++ heading ++ "\n" ++ String.join lines

/-- The section of logging. -/
def loggingSection (s : LoggingSettings) : String :=
  headed "[logging]" [textLine "level" s.level, lineOf (textLine "file") s.file]

/-- The section of the server. -/
def serverSection (s : ServerSettings) : String :=
  headed "[server]" [textLine "host" s.host, numberLine "port" s.port]

/-- The section of a browser. -/
def browserSection (s : BrowserSettings) : String :=
  headed "[[hub.browsers]]" [textLine "name" s.name, textLine "version" s.version]

/-- The sections of the hub. -/
def hubSections (s : HubSettings) : String :=
  headed "[hub]"
    [numberLine "matcher_poll_interval_ms" s.pollMillis,
      numberLine "new_session_wait_timeout_secs" s.waitSeconds,
      textLine "default_screen_resolution" s.screenResolution,
      textLine "default_time_zone" s.timeZone, numberLine "max_containers" s.maxContainers,
      textLine "hub_url" s.hubUrl] ++
    String.join (s.browsers.map browserSection)

/-- The section of pods. -/
def containerSection (s : ContainerSettings) : String :=
  headed "[container]"
    [textLine "binary" s.binary, textLine "namespace" s.scope,
      lineOf (textLine "context") s.context, textLine "image" s.image,
      textLine "name_prefix" s.namePrefix, textLine "ownership_label" s.ownershipLabel,
      textLine "ownership_value" s.ownershipValue, textLine "app_label" s.appLabel,
      textLine "shm_path" s.memoryPath, textLine "shared_folder_path" s.sharedFolderPath,
      textLine "novnc_env" s.screenVar, numberLine "novnc_port" s.screenPort,
      lineOf (numberLine "node_port") s.nodePort,
      lineOf (textLine "cpu_request") s.resources.cpuRequest,
      lineOf (textLine "cpu_limit") s.resources.cpuLimit,
      lineOf (textLine "memory_request") s.resources.memoryRequest,
      lineOf (textLine "memory_limit") s.resources.memoryLimit]

/-- The sections of the standard settings, which name no cloud provider. -/
def standardSections : String :=
  let s : Settings := {}
  "cloud = []\n" ++ loggingSection s.logging ++ serverSection s.server ++ hubSections s.hub ++
    containerSection s.container

/-- The text of the file at a path. -/
def starterFile (path : String) : String :=
  "# Configuration for gridhub\n# File: " ++ path ++ "\n\n" ++ standardSections

end BrowserGrid.Settings

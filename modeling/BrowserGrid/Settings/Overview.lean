import BrowserGrid.Outline
import BrowserGrid.Settings
/-!
# The settings for a reader

`Settings.overview` is the outline that shows all settings in effect.
-/

namespace BrowserGrid

/-- The outline of the settings of logging. -/
def LoggingSettings.overview (s : LoggingSettings) : Outline :=
  .record "LoggingConfig" [("level", .str s.level), ("file", .ofOption .str s.file)]

/-- The outline of the settings of the server. -/
def ServerSettings.overview (s : ServerSettings) : Outline :=
  .record "ServerConfig" [("host", .str s.host), ("port", .nat s.port)]

/-- The outline of a browser. -/
def BrowserSettings.overview (s : BrowserSettings) : Outline :=
  .record "BrowserConfig" [("name", .str s.name), ("version", .str s.version)]

/-- The outline of the settings of the hub. -/
def HubSettings.overview (s : HubSettings) : Outline :=
  .record "HubConfig"
    [("matcher_poll_interval_ms", .nat s.pollMillis),
      ("new_session_wait_timeout_secs", .nat s.waitSeconds),
      ("default_screen_resolution", .str s.screenResolution),
      ("default_time_zone", .str s.timeZone), ("max_containers", .nat s.maxContainers),
      ("hub_url", .str s.hubUrl), ("browsers", .list (s.browsers.map BrowserSettings.overview))]

/-- The outline of the settings of pods. -/
def ContainerSettings.overview (s : ContainerSettings) : Outline :=
  .record "ContainerConfig"
    [("binary", .str s.binary), ("namespace", .str s.scope), ("context", .ofOption .str s.context),
      ("image", .str s.image), ("name_prefix", .str s.namePrefix),
      ("ownership_label", .str s.ownershipLabel), ("ownership_value", .str s.ownershipValue),
      ("app_label", .str s.appLabel), ("shm_path", .str s.memoryPath),
      ("shared_folder_path", .str s.sharedFolderPath), ("novnc_env", .str s.screenVar),
      ("novnc_port", .nat s.screenPort), ("node_port", .ofOption .nat s.nodePort),
      ("cpu_request", .ofOption .str s.resources.cpuRequest),
      ("cpu_limit", .ofOption .str s.resources.cpuLimit),
      ("memory_request", .ofOption .str s.resources.memoryRequest),
      ("memory_limit", .ofOption .str s.resources.memoryLimit)]

/-- The outline of a cloud provider. -/
def Provider.overview (p : Provider) : Outline :=
  .record "CloudProviderConfig"
    [("name", .str p.name), ("url", .str p.url), ("max_sessions", .nat p.maxSessions),
      ("user", .ofOption .str p.user), ("access_key", .ofOption .str p.accessKey),
      ("status_url", .ofOption .str p.statusUrl)]

/-- The outline of all settings. -/
def Settings.overview (s : Settings) : Outline :=
  .record "AppConfig"
    [("logging", s.logging.overview), ("server", s.server.overview), ("hub", s.hub.overview),
      ("container", s.container.overview), ("cloud", .list (s.cloud.map Provider.overview))]

end BrowserGrid

import Mathlib.Data.List.AList
import Mathlib.Data.Option.Basic

/-!
# Config/GameConfig — what a loaded configuration holds

`GameConfig` of `game_config.h` once it is loaded: a map from section names to values whose type has
been erased, read back by casts that check nothing.
-/

namespace MultiplayerServer

/-- `AsioServerConfig` -/
structure AsioServerConfig where
  ip : String := ""
  port : ℤ := 0
  concurrency : ℤ := 0
  deriving DecidableEq

/-- `LoginEntityConfig` -/
structure LoginEntityConfig where
  entityClassName : String := ""
  entityType : String := ""
  entityComponents : List String := []
  deriving DecidableEq

/-- `GameServiceConfig` -/
structure GameServiceConfig where
  serviceName : String := ""
  serviceComponents : List String := []
  deriving DecidableEq

/-- The variant in `LoggerImp::config_map_type`. -/
inductive LoggerValue
  | int (n : ℤ)
  | bool (b : Bool)
  | size (n : ℕ)
  | string (s : String)
  deriving DecidableEq

/-- `LoggerImp::config_map_type` -/
abbrev LoggerConfig := Std.ExtTreeMap String LoggerValue

/-- A `shared_ptr<void>` in `config_`, with the type it was made as. -/
inductive ConfigValue
  | server (config : AsioServerConfig)
  | logger (config : LoggerConfig)
  | login (config : LoginEntityConfig)
  | services (configs : List GameServiceConfig)
  deriving DecidableEq

namespace ConfigValue

/-- `static_pointer_cast<AsioServerConfig>`, of a value that is one. -/
def asServer : ConfigValue → Option AsioServerConfig
  | .server config => some config
  | _ => none

/-- `static_pointer_cast<LoginEntityConfig>`, of a value that is one. -/
def asLogin : ConfigValue → Option LoginEntityConfig
  | .login config => some config
  | _ => none

/-- `static_pointer_cast<std::vector<GameServiceConfig>>`, of a value that is one. -/
def asServices : ConfigValue → Option (List GameServiceConfig)
  | .services configs => some configs
  | _ => none

end ConfigValue

/-- `GameConfig` -/
structure GameConfig where
  config : Std.ExtTreeMap String ConfigValue := ∅
  deriving DecidableEq

namespace GameConfig

/-- `SERVER_CONFIG_STR` -/
def serverConfigStr : String := "server"

/-- `LOG_CONFIG_STR` -/
def logConfigStr : String := "logger"

/-- `LOGIN_CONFIG_STR` -/
def loginConfigStr : String := "login"

/-- `SERVICES_CONFIG_STR` -/
def servicesConfigStr : String := "services"

variable (g : GameConfig)

/-- `get`, with the cast it makes. -/
def get {α : Type} (key : String) (cast : ConfigValue → Option α) : Option α :=
  g.config[key]?.bind cast

/-- `get_server_ip_port` -/
def getServerIpPort : Option AsioServerConfig :=
  g.get serverConfigStr ConfigValue.asServer

/-- `get<LoginEntityConfig>(LOGIN_CONFIG_STR)` -/
def loginEntityConfig : Option LoginEntityConfig :=
  g.get loginConfigStr ConfigValue.asLogin

/-- `get<std::vector<GameServiceConfig>>(SERVICES_CONFIG_STR)` -/
def gameServiceConfigs : Option (List GameServiceConfig) :=
  g.get servicesConfigStr ConfigValue.asServices

end GameConfig

end MultiplayerServer

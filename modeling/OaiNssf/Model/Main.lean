import OaiNssf.Model.Config
import OaiNssf.Model.Options

/-!
# Model of `main`

`oai_nssf/main.cpp` up to the point where a server is started. What the base class `config` makes
of the configuration file, `YAML::LoadFile` and the lock of the PID file are fields of an
`Environment`. The logger, the signal handlers and `display` are left out, and so are the sockets:
a started server binds and listens inside the calls of its library.
-/

namespace OaiNssf

/-- What `main` uses of the NF's own configuration: `get_slice_config_path()` and
    `get_http_version()`. -/
structure LocalConfig where
  sliceConfigPath : String := "/openair-nssf/etc/nssf_slice_config.yaml"
  httpVersion : ℕ
  deriving DecidableEq, Repr

/-- What the process finds outside of the repository's code. -/
structure Environment (Node : Type) where
  /-- `config::init()` for the file of a command line: the `bool` it returns, and what it
      leaves. -/
  init : String → Bool × LocalConfig
  /-- `YAML::LoadFile`. -/
  loadFile : String → Except LoadException Node
  /-- `is_pid_file_lock_success`, for the one name that `main` uses. -/
  isPidFileLockSuccess : Bool

variable {Node : Type} (Y : Yaml Node) (E : Environment Node)

/-- `nssf_config::init` (`nssf_config.cpp` lines 238–240), for the file of a command line. -/
def Config.init (configPath : String) (cfg : NssfConfig) :
    Except StdException (Bool × NssfConfig) :=
  let (result, localConfig) := E.init configPath
  if result then parseConfig Y (E.loadFile localConfig.sliceConfigPath) cfg else .ok (false, cfg)

namespace Main

/-- `EDEADLK` of the C library. -/
def edeadlk : ℤ := 35

/-- What becomes of the process: `main` returns, `exit` is called, an exception ends it, one
    of the servers is started on the loaded lists, or it pauses with no server. -/
inductive Fate where
  | returned (code : ℤ)
  | exited (code : ℤ)
  | terminated (e : StdException)
  | http1 (cfg : NssfConfig)
  | http2 (cfg : NssfConfig)
  | paused
  deriving DecidableEq, Repr

/-- `main` after the options (lines 85–139), for the file they name. The lists are empty when
    it starts. -/
def start (configPath : String) : Fate :=
  match Config.init Y E configPath {} with
  | .error e => .terminated e
  | .ok (false, _) => .returned 1
  | .ok (true, cfg) =>
    if !E.isPidFileLockSuccess then .exited (-edeadlk)
    else
      let localConfig := (E.init configPath).2
      if localConfig.httpVersion = 1 then .http1 cfg
      else if localConfig.httpVersion = 2 then .http2 cfg
      else .paused

/-- `main` (lines 78–141), with what it prints. -/
def main (args : List String) : Fate × List String :=
  match Options.parse {} args with
  | .exited stdout => (.exited 0, stdout)
  | .returned false _ stdout => (.returned 1, stdout ++ ["Options::parse() failed"])
  | .returned true options stdout => (start Y E options.libconfigcfg, stdout)

end Main

end OaiNssf

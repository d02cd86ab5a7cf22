import Kagome.Application.ProgramOptions

/-!
# `AppConfigurationImpl` (`application/impl/app_configuration_impl.cpp`)

The object starts from its constructor's defaults. `initialize_from_args` reads the
configuration file named by `-c`, whose segment handlers overwrite the members they find,
then overwrites members from the command line, builds the two RPC endpoints and validates
the result. Each block of its body is a stage below, from an object to an object; a
`return false` stops the run with `Stop.returnFalse`, while a failed assertion, an escaping
exception or `exit(EXIT_FAILURE)` stops it without a return.

`log::Level` is an enumeration over `uint8_t` from `OFF` = 0 to `TRACE` = 7. The bounds
`kAbsolutMinBlocksInResponse` and `kAbsolutMaxBlocksInResponse` are declared in
`application/app_configuration.hpp` and are parameters here.
-/

namespace Kagome.Application

/-- `log::Level`. -/
structure Level where
  val : UInt8
  deriving DecidableEq

def Level.OFF : Level := ⟨0⟩

def Level.INFO : Level := ⟨4⟩

def Level.TRACE : Level := ⟨7⟩

def defVerbosity : Int := Level.INFO.val.toNat

/-- `static_cast<log::Level>(v + def_verbosity)`: the sum converted to the `uint8_t`. -/
def levelOf (v : Int) : Level := ⟨UInt8.ofNat ((v + defVerbosity) % 256).toNat⟩

/-- `level >= log::Level::OFF && level <= log::Level::TRACE`. -/
def Level.inRange (level : Level) : Bool :=
  Level.OFF.val ≤ level.val && level.val ≤ Level.TRACE.val

/-- `boost::asio::ip::tcp::endpoint`, its address kept as the text it was parsed from. -/
structure Endpoint where
  address : String
  port : UInt16
  deriving DecidableEq

/-- What the object asks of the world outside it. -/
structure Environment where
  /-- `open_file` and `ParseStream`: `none` when the file does not open or does not parse. -/
  configFile : String → Option Value
  /-- `fs::exists`, with `fs` `kagome::filesystem` over `boost::filesystem`: `none` when it
  throws `filesystem_error`, on a `stat` error other than a missing file (`EACCES`,
  `ENAMETOOLONG`). -/
  fsExists : String → Option Bool
  /-- `fs::createDirectoryRecursive`: `none` when it throws `filesystem_error`. -/
  createDirectoryRecursive : String → Option Bool
  /-- `libp2p::multi::Multiaddress::create` succeeds. -/
  isMultiaddress : String → Bool
  /-- `Multiaddress::getPeerId` finds a peer id. -/
  hasPeerId : String → Bool
  /-- `crypto::Ed25519PrivateKey::fromHex` succeeds. -/
  isPrivateKeyHex : String → Bool
  /-- `boost::asio::ip::address::from_string` succeeds. -/
  isIpAddress : String → Bool

/-- `kAbsolutMinBlocksInResponse` and `kAbsolutMaxBlocksInResponse`, in the order
`std::clamp` needs them. -/
structure BlocksInResponse where
  kAbsolutMin : UInt32
  kAbsolutMax : UInt32
  min_le_max : kAbsolutMin ≤ kAbsolutMax

/-- The members read and written by `initialize_from_args`; multiaddresses and the node key
are kept as their text. -/
structure AppConfigurationImpl where
  nodeKey : Option String
  listenAddresses : List String
  bootNodes : List String
  p2pPort : UInt16
  rpcHttpEndpoint : Endpoint
  rpcWsEndpoint : Endpoint
  verbosity : Level
  isAlreadySynchronized : Bool
  isOnlyFinalizing : Bool
  maxBlocksInResponse : UInt32
  isUnixSlotsStrategy : Bool
  rpcHttpHost : String
  rpcWsHost : String
  genesisPath : String
  basePath : String
  rpcHttpPort : UInt16
  rpcWsPort : UInt16
  deriving DecidableEq

def defRpcHttpHost : String := "0.0.0.0"

def defRpcWsHost : String := "0.0.0.0"

def defRpcHttpPort : UInt16 := 40363

def defRpcWsPort : UInt16 := 40364

def defP2pPort : UInt16 := 30363

/-- The constructor. -/
def AppConfigurationImpl.create (k : BlocksInResponse) : AppConfigurationImpl where
  nodeKey := none
  listenAddresses := []
  bootNodes := []
  p2pPort := defP2pPort
  rpcHttpEndpoint := ⟨"0.0.0.0", 0⟩
  rpcWsEndpoint := ⟨"0.0.0.0", 0⟩
  verbosity := ⟨UInt8.ofNat defVerbosity.toNat⟩
  isAlreadySynchronized := false
  isOnlyFinalizing := false
  maxBlocksInResponse := k.kAbsolutMax
  isUnixSlotsStrategy := false
  rpcHttpHost := defRpcHttpHost
  rpcWsHost := defRpcWsHost
  genesisPath := ""
  basePath := ""
  rpcHttpPort := defRpcHttpPort
  rpcWsPort := defRpcWsPort

/-! ## The configuration file -/

/-- `load_ma`: the member, a string, is appended when it is a multiaddress. -/
def loadMa (env : Environment) (val : Value) (name : String) (target : List String) :
    Except Failure (Bool × List String) := do
  match ← val.findMember name with
  | none => pure (!target.isEmpty, target)
  | some (.string s) =>
    pure (if env.isMultiaddress s then (true, target ++ [s]) else (false, target))
  | some _ => throw .assertFailed

def parseGeneralSegment (val : Value) (c : AppConfigurationImpl) :
    Except Failure AppConfigurationImpl := do
  match ← loadU16 val "verbosity" with
  | none => pure c
  | some v =>
    let level := levelOf v.toNat
    pure (if level.inRange then { c with verbosity := level } else c)

def parseBlockchainSegment (val : Value) (c : AppConfigurationImpl) :
    Except Failure AppConfigurationImpl := do
  let genesisPathStr := (← loadStr val "genesis").getD ""
  pure { c with genesisPath := genesisPathStr }

def parseStorageSegment (val : Value) (c : AppConfigurationImpl) :
    Except Failure AppConfigurationImpl := do
  let basePathStr := (← loadStr val "base_path").getD ""
  pure { c with basePath := basePathStr }

def parseNetworkSegment (env : Environment) (val : Value) (c : AppConfigurationImpl) :
    Except Failure AppConfigurationImpl := do
  let (_, listenAddresses) ← loadMa env val "listen-addr" c.listenAddresses
  let (_, bootNodes) ← loadMa env val "bootnodes" c.bootNodes
  let p2pPort := (← loadU16 val "p2p_port").getD c.p2pPort
  let rpcHttpHost := (← loadStr val "rpc_http_host").getD c.rpcHttpHost
  let rpcHttpPort := (← loadU16 val "rpc_http_port").getD c.rpcHttpPort
  let rpcWsHost := (← loadStr val "rpc_ws_host").getD c.rpcWsHost
  let rpcWsPort := (← loadU16 val "rpc_ws_port").getD c.rpcWsPort
  pure { c with
    listenAddresses := listenAddresses, bootNodes := bootNodes, p2pPort := p2pPort
    rpcHttpHost := rpcHttpHost, rpcHttpPort := rpcHttpPort
    rpcWsHost := rpcWsHost, rpcWsPort := rpcWsPort }

def parseAdditionalSegment (val : Value) (c : AppConfigurationImpl) :
    Except Failure AppConfigurationImpl := do
  let isOnlyFinalizing := (← loadBool val "single_finalizing_node").getD c.isOnlyFinalizing
  let isAlreadySynchronized :=
    (← loadBool val "already_synchronized").getD c.isAlreadySynchronized
  let maxBlocksInResponse :=
    (← loadU32 val "max_blocks_in_response").getD c.maxBlocksInResponse
  let isUnixSlotsStrategy := (← loadBool val "is_unix_slots_strategy").getD c.isUnixSlotsStrategy
  pure { c with
    isOnlyFinalizing := isOnlyFinalizing, isAlreadySynchronized := isAlreadySynchronized
    maxBlocksInResponse := maxBlocksInResponse, isUnixSlotsStrategy := isUnixSlotsStrategy }

/-- A segment name and the parser of that segment. -/
abbrev Handler := String × (Value → AppConfigurationImpl → Except Failure AppConfigurationImpl)

/-- `handlers_`. -/
def handlers (env : Environment) : List Handler :=
  [("general", parseGeneralSegment), ("blockchain", parseBlockchainSegment),
   ("storage", parseStorageSegment), ("network", parseNetworkSegment env),
   ("additional", parseAdditionalSegment)]

/-- One pass of the loop over `handlers_`. -/
def runHandler (document : Value) (c : AppConfigurationImpl) (handler : Handler) :
    Except Failure AppConfigurationImpl := do
  match ← document.findMember handler.1 with
  | some val => handler.2 val c
  | none => pure c

/-- A file that does not open or does not parse is logged and leaves the object as it is. -/
def readConfigFromFile (env : Environment) (filepath : String) (c : AppConfigurationImpl) :
    Except Failure AppConfigurationImpl :=
  if filepath = "" then throw .assertFailed
  else
    match env.configFile filepath with
    | none => pure c
    | some document => (handlers env).foldlM (runHandler document) c

/-! ## Validation and endpoints -/

/-- `std::clamp`. -/
def clamp (v lo hi : UInt32) : UInt32 := if v < lo then lo else if hi < v then hi else v

/-- A call of the file system: `filesystem_error` escapes when it fails. -/
def fsCall (result : Option Bool) : Except Failure Bool :=
  match result with
  | some b => pure b
  | none => throw (.threw "boost::filesystem::filesystem_error")

theorem fsCall_eq_ok {result : Option Bool} {b : Bool} : fsCall result = .ok b ↔ result = some b := by
  cases result <;> simp [fsCall]

theorem fsCall_eq_error {result : Option Bool} {f : Failure} :
    fsCall result = .error f ↔ result = none ∧ f = .threw "boost::filesystem::filesystem_error" := by
  cases result <;> simp [fsCall, eq_comm]

/-- `validate_config`. Nothing around its call catches what the file system throws; the base
path is created only when it is not empty. -/
def validateConfig (env : Environment) (k : BlocksInResponse) (c : AppConfigurationImpl) :
    Except Failure (Bool × AppConfigurationImpl) :=
  fsCall (env.fsExists c.genesisPath) >>= fun genesisExists =>
  if !genesisExists then pure (false, c)
  else if c.basePath.isEmpty then pure (false, c)
  else fsCall (env.createDirectoryRecursive c.basePath) >>= fun baseCreated =>
    if !baseCreated then pure (false, c)
    else if c.p2pPort = 0 then pure (false, c)
    else if c.rpcWsPort = 0 then pure (false, c)
    else if c.rpcHttpPort = 0 then pure (false, c)
    else pure (true, { c with
      maxBlocksInResponse := clamp c.maxBlocksInResponse k.kAbsolutMin k.kAbsolutMax })

/-- An address that does not parse is logged and the process exits. -/
def getEndpointFrom (env : Environment) (host : String) (port : UInt16) :
    Except Failure Endpoint :=
  if env.isIpAddress host then pure ⟨host, port⟩ else throw .exited

/-! ## `initialize_from_args` -/

/-- Why a run of `initialize_from_args` stops early. -/
inductive Stop where
  | returnFalse (c : AppConfigurationImpl)
  | failed (f : Failure)

def Stop.lift {α : Type} (x : Except Failure α) : Except Stop α := x.mapError .failed

/-- `--help` prints the options and returns false. -/
def checkHelp (vm : VariablesMap) (c : AppConfigurationImpl) : Except Stop AppConfigurationImpl :=
  if (vm.find "help").isSome then throw (.returnFalse c) else pure c

def loadConfigFile (env : Environment) (vm : VariablesMap) (c : AppConfigurationImpl) :
    Except Stop AppConfigurationImpl :=
  Stop.lift (findArgument .string vm "config_file" (readConfigFromFile env) c)

/-- The switches set their flags. -/
def aggregateFlags (vm : VariablesMap) (c : AppConfigurationImpl) : AppConfigurationImpl :=
  { c with
    isOnlyFinalizing := c.isOnlyFinalizing || (vm.find "single_finalizing_node").isSome
    isAlreadySynchronized := c.isAlreadySynchronized || (vm.find "already_synchronized").isSome
    isUnixSlotsStrategy := c.isUnixSlotsStrategy || (vm.find "unix_slots").isSome }

def setPaths (vm : VariablesMap) (c : AppConfigurationImpl) : Except Stop AppConfigurationImpl :=
  Stop.lift do
    let c ← findArgument .string vm "genesis" (fun val c => pure { c with genesisPath := val }) c
    findArgument .string vm "base_path" (fun val c => pure { c with basePath := val }) c

/-- The loop over the boot nodes of the command line. -/
def addBootNodes (env : Environment) :
    List String → AppConfigurationImpl → Except Stop AppConfigurationImpl
  | [], c => pure c
  | addr :: addrs, c =>
    if !env.isMultiaddress addr then throw (.returnFalse c)
    else if !env.hasPeerId addr then throw (.returnFalse c)
    else addBootNodes env addrs { c with bootNodes := c.bootNodes ++ [addr] }

def setBootNodes (env : Environment) (vm : VariablesMap) (c : AppConfigurationImpl) :
    Except Stop AppConfigurationImpl := do
  let bootNodes ← Stop.lift (findArgument .strings vm "bootnodes" (fun val _ => pure val) [])
  addBootNodes env bootNodes c

def setNodeKey (env : Environment) (vm : VariablesMap) (c : AppConfigurationImpl) :
    Except Stop AppConfigurationImpl := do
  match ← Stop.lift (findArgument .string vm "node-key" (fun val _ => pure (some val)) none) with
  | none => pure c
  | some key =>
    if env.isPrivateKeyHex key then pure { c with nodeKey := some key }
    else throw (.returnFalse c)

def setP2pPort (vm : VariablesMap) (c : AppConfigurationImpl) : Except Stop AppConfigurationImpl :=
  Stop.lift (findArgument .uint16 vm "p2p_port" (fun val c => pure { c with p2pPort := val }) c)

/-- The loop over the listening addresses of the command line. -/
def addListenAddresses (env : Environment) :
    List String → AppConfigurationImpl → Except Stop AppConfigurationImpl
  | [], c => pure c
  | s :: ss, c =>
    if !env.isMultiaddress s then throw (.returnFalse c)
    else addListenAddresses env ss { c with listenAddresses := c.listenAddresses ++ [s] }

def setListenAddresses (env : Environment) (vm : VariablesMap) (c : AppConfigurationImpl) :
    Except Stop AppConfigurationImpl := do
  let listenAddr ← Stop.lift (findArgument .strings vm "listen-addr" (fun val _ => pure val) [])
  addListenAddresses env listenAddr c

/-- Read as a `uint32_t`, while the option is declared an `int`. -/
def setMaxBlocksInResponse (vm : VariablesMap) (c : AppConfigurationImpl) :
    Except Stop AppConfigurationImpl :=
  Stop.lift (findArgument .uint32 vm "max_blocks_in_response"
    (fun val c => pure { c with maxBlocksInResponse := val }) c)

def setVerbosity (vm : VariablesMap) (c : AppConfigurationImpl) :
    Except Stop AppConfigurationImpl :=
  Stop.lift (findArgument .int vm "verbosity" (fun val c =>
    let level := levelOf val.val
    pure (if level.inRange then { c with verbosity := level } else c)) c)

def setRpcAddresses (vm : VariablesMap) (c : AppConfigurationImpl) :
    Except Stop AppConfigurationImpl :=
  Stop.lift do
    let c ← findArgument .string vm "rpc_http_host" (fun val c => pure { c with rpcHttpHost := val }) c
    let c ← findArgument .string vm "rpc_ws_host" (fun val c => pure { c with rpcWsHost := val }) c
    let c ← findArgument .uint16 vm "rpc_http_port" (fun val c => pure { c with rpcHttpPort := val }) c
    findArgument .uint16 vm "rpc_ws_port" (fun val c => pure { c with rpcWsPort := val }) c

def setEndpoints (env : Environment) (c : AppConfigurationImpl) :
    Except Stop AppConfigurationImpl := Stop.lift do
  let rpcHttpEndpoint ← getEndpointFrom env c.rpcHttpHost c.rpcHttpPort
  let rpcWsEndpoint ← getEndpointFrom env c.rpcWsHost c.rpcWsPort
  pure { c with rpcHttpEndpoint := rpcHttpEndpoint, rpcWsEndpoint := rpcWsEndpoint }

/-- A configuration that does not validate prints the options and returns false. -/
def checkConfig (env : Environment) (k : BlocksInResponse) (c : AppConfigurationImpl) :
    Except Stop AppConfigurationImpl := do
  match ← Stop.lift (validateConfig env k c) with
  | (true, c) => pure c
  | (false, c) => throw (.returnFalse c)

/-- The statements of `initialize_from_args` up to the endpoints. -/
def readArguments (env : Environment) (vm : VariablesMap) (c : AppConfigurationImpl) :
    Except Stop AppConfigurationImpl := do
  let c ← checkHelp vm c
  let c ← loadConfigFile env vm c
  let c ← setPaths vm (aggregateFlags vm c)
  let c ← setBootNodes env vm c
  let c ← setNodeKey env vm c
  let c ← setP2pPort vm c
  let c ← setListenAddresses env vm c
  let c ← setMaxBlocksInResponse vm c
  let c ← setVerbosity vm c
  setRpcAddresses vm c

def initializeFromArgs (env : Environment) (k : BlocksInResponse) (vm : VariablesMap) :
    Except Failure (Bool × AppConfigurationImpl) :=
  match readArguments env vm (.create k) >>= setEndpoints env >>= checkConfig env k with
  | .ok c => .ok (true, c)
  | .error (.returnFalse c) => .ok (false, c)
  | .error (.failed f) => .error f

end Kagome.Application

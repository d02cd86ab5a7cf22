import Kagome.Application.Stages

/-!
# Command line over configuration file over defaults

`app_configuration_impl.hpp` documents the priority of the sources: command line, then
configuration file, then defaults. `expectedScalars` states it for each setting: the command
line's value when the option was given; else the file's, when its segment holds the key with
a value the segment's reader takes (`load_u16` an `int` in `[0, 2^16)`, `load_u32` one in
`[0, 2^31)`, `load_str` a string); else the constructor's default. A verbosity `v` names the
level `v + INFO`, taken when it is at most `TRACE`; the file's reader takes no negative `v`,
the command line any `int`. `max_blocks_in_response` is clamped, and its command-line value
never reaches a run that returns true: the option is declared an `int` and read as a
`uint32_t`.

A run that returns true ends with these settings. A run stops without returning only by a
failed assertion, an escaping exception or an exit; with a configuration file path that is
not empty, a document its handlers read and no `max_blocks_in_response` on the command line,
two ways are left (`Escapes`): the exit on an RPC host that is not an IP address, and a
`filesystem_error` that `fs::exists` on the genesis path or `fs::createDirectoryRecursive` on
the base path throws in `validate_config`, which runs after the `try` block.
-/

namespace Kagome.Application

/-- The documented priority: the command line's value, else the file's, else the default. -/
def priority {α : Type} (cli file : Option α) (default : α) : α := cli.getD (file.getD default)

/-- Member `key` of segment `segment` of the configuration file, as `read` takes it. -/
def fileValue {α : Type} (env : Environment) (vm : VariablesMap) (segment key : String)
    (read : List (String × Value) → String → Option α) : Option α :=
  (segmentMembers (fileSegments env vm) segment).bind (read · key)

def expectedScalars (env : Environment) (k : BlocksInResponse) (vm : VariablesMap) : Scalars where
  p2pPort := priority (vm.get .uint16 "p2p_port")
    (fileValue env vm "network" "p2p_port" u16Member) defP2pPort
  rpcHttpHost := priority (vm.get .string "rpc_http_host")
    (fileValue env vm "network" "rpc_http_host" strMember) defRpcHttpHost
  rpcHttpPort := priority (vm.get .uint16 "rpc_http_port")
    (fileValue env vm "network" "rpc_http_port" u16Member) defRpcHttpPort
  rpcWsHost := priority (vm.get .string "rpc_ws_host")
    (fileValue env vm "network" "rpc_ws_host" strMember) defRpcWsHost
  rpcWsPort := priority (vm.get .uint16 "rpc_ws_port")
    (fileValue env vm "network" "rpc_ws_port" u16Member) defRpcWsPort
  maxBlocksInResponse := clamp
    ((fileValue env vm "additional" "max_blocks_in_response" u32Member).getD k.kAbsolutMax)
    k.kAbsolutMin k.kAbsolutMax
  verbosity := priority (cliLevel vm)
    ((fileValue env vm "general" "verbosity" u16Member).bind fun v => acceptLevel (levelOf v.toNat))
    Level.INFO
  genesisPath := priority (vm.get .string "genesis")
    (fileValue env vm "blockchain" "genesis" strMember) ""
  basePath := priority (vm.get .string "base_path")
    (fileValue env vm "storage" "base_path" strMember) ""

/-- The handlers on the constructor's settings. A path segment without its key gives the
empty path, which is the default. -/
theorem fileScalars_create (segments : List (String × Value)) (k : BlocksInResponse) :
    fileScalars segments (AppConfigurationImpl.create k).scalars =
      { p2pPort := ((segmentMembers segments "network").bind (u16Member · "p2p_port")).getD
          defP2pPort
        rpcHttpHost := ((segmentMembers segments "network").bind
          (strMember · "rpc_http_host")).getD defRpcHttpHost
        rpcHttpPort := ((segmentMembers segments "network").bind
          (u16Member · "rpc_http_port")).getD defRpcHttpPort
        rpcWsHost := ((segmentMembers segments "network").bind
          (strMember · "rpc_ws_host")).getD defRpcWsHost
        rpcWsPort := ((segmentMembers segments "network").bind
          (u16Member · "rpc_ws_port")).getD defRpcWsPort
        maxBlocksInResponse := ((segmentMembers segments "additional").bind
          (u32Member · "max_blocks_in_response")).getD k.kAbsolutMax
        verbosity := (((segmentMembers segments "general").bind (u16Member · "verbosity")).bind
          fun v => acceptLevel (levelOf v.toNat)).getD Level.INFO
        genesisPath := ((segmentMembers segments "blockchain").bind (strMember · "genesis")).getD ""
        basePath := ((segmentMembers segments "storage").bind (strMember · "base_path")).getD "" } := by
  simp only [fileScalars, segmentNames, List.foldl]
  generalize segmentMembers segments "blockchain" = blockchain
  generalize segmentMembers segments "storage" = storage
  cases blockchain <;> cases storage <;> rfl

theorem expectedScalars_eq (env : Environment) (k : BlocksInResponse) (vm : VariablesMap) :
    clampScalars k (argumentScalars env vm (AppConfigurationImpl.create k).scalars) =
      expectedScalars env k vm := by
  simp only [argumentScalars, fileScalars_create]
  rfl

theorem initializeFromArgs_true_scalars {env : Environment} {k : BlocksInResponse}
    {vm : VariablesMap} {c : AppConfigurationImpl}
    (h : initializeFromArgs env k vm = .ok (true, c)) : c.scalars = expectedScalars env k vm := by
  obtain ⟨c₁, c₂, h₁, h₂, h₃⟩ := initializeFromArgs_eq_true h
  calc c.scalars = clampScalars k c₂.scalars := checkConfig_acts env k _ _ h₃
    _ = clampScalars k c₁.scalars := by rw [setEndpoints_acts env _ _ h₂]; rfl
    _ = clampScalars k (argumentScalars env vm (AppConfigurationImpl.create k).scalars) := by
      rw [readArguments_acts env vm _ _ h₁]
    _ = expectedScalars env k vm := expectedScalars_eq env k vm

/-- Why a run ends without returning: `exit` on an RPC host that is not an IP address, or a
`filesystem_error` out of `validate_config` on the genesis path or the base path. -/
def Escapes (env : Environment) (s : Scalars) (f : Failure) : Prop :=
  (f = .exited ∧ (env.isIpAddress s.rpcHttpHost = false ∨ env.isIpAddress s.rpcWsHost = false)) ∨
    (f = .threw "boost::filesystem::filesystem_error" ∧
      (env.fsExists s.genesisPath = none ∨ env.createDirectoryRecursive s.basePath = none))

theorem initializeFromArgs_failure {env : Environment} {k : BlocksInResponse} {vm : VariablesMap}
    {f : Failure} (hpath : vm.get .string "config_file" ≠ some "")
    (hdoc : ∀ document, configDocument env vm = some document → documentReadable document)
    (hmax : vm.find "max_blocks_in_response" = none) (h : initializeFromArgs env k vm = .error f) :
    Escapes env (expectedScalars env k vm) f := by
  unfold initializeFromArgs at h
  split at h
  · cases h
  · cases h
  · rename_i hrun
    cases h
    rcases bind_eq_error.mp hrun with h₂ | ⟨c₂, h₁₂, h₃⟩
    · rcases bind_eq_error.mp h₂ with h₁ | ⟨c₁, h₁, h₂⟩
      · exact absurd h₁ (readArguments_noFailure env vm hpath hdoc hmax _ _)
      · rw [setEndpoints_eq] at h₂
        split_ifs at h₂ with hip
        cases h₂
        have hargs := readArguments_acts env vm _ _ h₁
        have hhttp : (expectedScalars env k vm).rpcHttpHost = c₁.rpcHttpHost := by
          rw [← expectedScalars_eq, ← hargs]
          rfl
        have hws : (expectedScalars env k vm).rpcWsHost = c₁.rpcWsHost := by
          rw [← expectedScalars_eq, ← hargs]
          rfl
        refine .inl ⟨rfl, ?_⟩
        rw [hhttp, hws]
        revert hip
        cases env.isIpAddress c₁.rpcHttpHost <;> simp
    · obtain ⟨c₁, h₁, h₂⟩ := bind_eq_ok.mp h₁₂
      have hargs : c₂.scalars = argumentScalars env vm (AppConfigurationImpl.create k).scalars :=
        (setEndpoints_acts env _ _ h₂).trans (readArguments_acts env vm _ _ h₁)
      have hpaths : (expectedScalars env k vm).genesisPath = c₂.genesisPath ∧
          (expectedScalars env k vm).basePath = c₂.basePath := by
        rw [← expectedScalars_eq, ← hargs]
        exact ⟨rfl, rfl⟩
      obtain ⟨rfl, hfs⟩ := checkConfig_failure env h₃
      exact .inr ⟨rfl, hpaths.1 ▸ hpaths.2 ▸ hfs⟩

/-- With a configuration file path that is not empty, a document the handlers read and no
`max_blocks_in_response` on the command line, a run ends without returning only by the exit on
an RPC host that is not an IP address or by what the file system throws in `validate_config`;
a run that returns true ends with every setting as the documented priority gives it. -/
theorem initializeFromArgs_priority (env : Environment) (k : BlocksInResponse)
    (vm : VariablesMap) :
    (vm.get .string "config_file" ≠ some "" →
      (∀ document, configDocument env vm = some document → documentReadable document) →
      vm.find "max_blocks_in_response" = none →
      ∀ f, initializeFromArgs env k vm = .error f → Escapes env (expectedScalars env k vm) f) ∧
    ∀ c, initializeFromArgs env k vm = .ok (true, c) → c.scalars = expectedScalars env k vm :=
  ⟨fun hpath hdoc hmax _ h => initializeFromArgs_failure hpath hdoc hmax h,
    fun _ h => initializeFromArgs_true_scalars h⟩

theorem initializeFromArgs_priority_with_file :
    let env : Environment :=
      ⟨fun _ => some (.object [("network", .object [("p2p_port", .int 30333)])]),
        fun _ => some true, fun _ => some true, fun _ => true, fun _ => true, fun _ => true,
        fun _ => true⟩
    let k : BlocksInResponse := ⟨1, 128, by decide⟩
    let vm : VariablesMap :=
      ⟨[("config_file", ⟨.string, "kagome.json"⟩), ("base_path", ⟨.string, "db"⟩)], by decide⟩
    (vm.get .string "config_file" ≠ some "" ∧
      (∀ document, configDocument env vm = some document → documentReadable document) ∧
      vm.find "max_blocks_in_response" = none) ∧
    ∀ f, initializeFromArgs env k vm = .error f → Escapes env (expectedScalars env k vm) f := by
  intro env k vm
  have hpath : vm.get .string "config_file" ≠ some "" := by decide
  have hdoc : ∀ document, configDocument env vm = some document → documentReadable document :=
    fun _ hd => by
      cases hd
      rfl
  exact ⟨⟨hpath, hdoc, rfl⟩, (initializeFromArgs_priority env k vm).1 hpath hdoc rfl⟩

/-- `max_blocks_in_response` on the command line makes the call throw; a verbosity `-1`, which
the command line takes, is not taken from the configuration file. -/
theorem initializeFromArgs_throws_and_drops_file_verbosity :
    let env : Environment :=
      ⟨fun _ => some (.object [("general", .object [("verbosity", .int (-1))])]),
        fun _ => some true, fun _ => some true, fun _ => true, fun _ => true, fun _ => true,
        fun _ => true⟩
    let k : BlocksInResponse := ⟨1, 128, by decide⟩
    let withMax : VariablesMap :=
      ⟨[("max_blocks_in_response", ⟨.int, ⟨64, by decide, by decide⟩⟩)], by decide⟩
    let fromFile : VariablesMap :=
      ⟨[("config_file", ⟨.string, "kagome.json"⟩), ("base_path", ⟨.string, "db"⟩)], by decide⟩
    let fromCommandLine : VariablesMap :=
      ⟨[("verbosity", ⟨.int, ⟨-1, by decide, by decide⟩⟩), ("base_path", ⟨.string, "db"⟩)],
        by decide⟩
    initializeFromArgs env k withMax = .error (.threw "boost::bad_any_cast") ∧
    (∃ c, initializeFromArgs env k fromFile = .ok (true, c) ∧ c.verbosity = Level.INFO) ∧
    (∃ c, initializeFromArgs env k fromCommandLine = .ok (true, c) ∧ c.verbosity = ⟨3⟩) := by
  intro env k withMax fromFile fromCommandLine
  exact ⟨rfl, ⟨_, rfl, rfl⟩, ⟨_, rfl, rfl⟩⟩

end Kagome.Application

import Mathlib.Data.String.Basic
import Kagome.Application.Members
import Kagome.Application.Validation

/-!
# When `initialize_from_args` returns true

A run returns true exactly when `Accepted` holds, and then it returns `expectedConfig`. The
conditions are these. `--help` was not given. The configuration file path is not empty, and a
document that opens and parses is one the segment handlers read. Every boot node, listening
address and node key of the command line was checked (`ArgumentsChecked`), and
`max_blocks_in_response` was not given. Finally the settings the priority gives pass
`get_endpoint_from` and `validate_config` (`ScalarsChecked`).

The `if` direction runs the statements one after another (`Total`). The `only if` direction
reads each condition off the statement that checks it; for the configuration file this is
the converse of `readConfigFromFile_ok`: a read that ends normally was given a document of
the shape its handlers need.
-/

namespace Kagome.Application

/-- A stage that always ends normally. -/
def Total (stage : Stage) : Prop := ∀ c, ∃ c', stage c = .ok c'

theorem Total.bind {s₁ s₂ : Stage} (h₁ : Total s₁) (h₂ : Total s₂) :
    Total (fun c => s₁ c >>= s₂) := by
  intro c
  obtain ⟨c₁, h₁⟩ := h₁ c
  obtain ⟨c₂, h₂⟩ := h₂ c₁
  exact ⟨c₂, show s₁ c >>= s₂ = _ by rw [h₁, ok_bind, h₂]⟩

/-! ## Documents a read that ends normally was given -/

/-- A handler that ends normally was given an object of the shape it needs. -/
def HandlerShaped (name : String)
    (parse : Value → AppConfigurationImpl → Except Failure AppConfigurationImpl) : Prop :=
  ∀ val c c', parse val c = .ok c' → ∃ members, val = .object members ∧ segmentShape name members

/-- A handler that only needs an object. -/
theorem HandlerShaped.of_members {name : String}
    {parse : Value → AppConfigurationImpl → Except Failure AppConfigurationImpl}
    {effect : Option (List (String × Value)) → Members → Members}
    (h : HandlerActsOnMembers effect parse) (hshape : ∀ members, segmentShape name members) :
    HandlerShaped name parse := fun val c c' hp =>
  let ⟨members, hv, _⟩ := h val c c' hp
  ⟨members, hv, hshape members⟩

theorem loadMa_memberIsString {env : Environment} {members : List (String × Value)}
    {name : String} {target : List String} {r : Bool × List String}
    (h : loadMa env (.object members) name target = .ok r) : memberIsString members name := by
  simp only [loadMa, Value.findMember, ok_bind] at h
  simp only [memberIsString]
  revert h
  rcases members.lookup name with _ | (_ | _ | _ | _ | _ | _ | _) <;> simp [Value.isString]

theorem parseNetworkSegment_shaped (env : Environment) :
    HandlerShaped "network" (parseNetworkSegment env) := by
  intro val c c' h
  rcases val with _ | _ | _ | _ | _ | _ | members <;> try cases h
  obtain ⟨_, hl, h⟩ := bind_eq_ok.mp h
  obtain ⟨_, hb, -⟩ := bind_eq_ok.mp h
  exact ⟨members, rfl, by
    simp [segmentShape, loadMa_memberIsString hl, loadMa_memberIsString hb]⟩

theorem runHandler_object {document : Value} {c c' : AppConfigurationImpl} {h : Handler}
    (hrun : runHandler document c h = .ok c') : ∃ segments, document = .object segments := by
  obtain ⟨r, hr, -⟩ := bind_eq_ok.mp hrun
  obtain ⟨segments, rfl, -⟩ := Value.findMember_eq_ok hr
  exact ⟨segments, rfl⟩

theorem runHandler_readable {segments : List (String × Value)} {c c' : AppConfigurationImpl}
    {name : String} {parse : Value → AppConfigurationImpl → Except Failure AppConfigurationImpl}
    (hh : HandlerShaped name parse) (hrun : runHandler (.object segments) c (name, parse) = .ok c') :
    segmentReadable segments name := by
  simp only [runHandler, Value.findMember, ok_bind] at hrun
  simp only [segmentReadable]
  revert hrun
  cases segments.lookup name with
  | none => simp
  | some val =>
    intro hrun
    obtain ⟨members, rfl, hs⟩ := hh val c c' hrun
    exact hs

/-- A read of the configuration file that ends normally had a path that is not empty, and
a document, if the file opens and parses, that its handlers read. -/
theorem readConfigFromFile_readable {env : Environment} {filepath : String}
    {c c' : AppConfigurationImpl} (h : readConfigFromFile env filepath c = .ok c') :
    filepath ≠ "" ∧
      ∀ document, env.configFile filepath = some document → documentReadable document := by
  unfold readConfigFromFile at h
  split_ifs at h with hp
  refine ⟨hp, fun document hf => ?_⟩
  simp only [hf, handlers, List.foldlM_cons, List.foldlM_nil, bind_pure] at h
  obtain ⟨c₁, h₁, h⟩ := bind_eq_ok.mp h
  obtain ⟨c₂, h₂, h⟩ := bind_eq_ok.mp h
  obtain ⟨c₃, h₃, h⟩ := bind_eq_ok.mp h
  obtain ⟨c₄, h₄, h₅⟩ := bind_eq_ok.mp h
  obtain ⟨segments, rfl⟩ := runHandler_object h₁
  have always : ∀ name members, name ≠ "network" → segmentShape name members := by
    intro name members hn
    unfold segmentShape
    split
    · contradiction
    · rfl
  simp [documentReadable, segmentNames,
    runHandler_readable (.of_members parseGeneralSegment_members (always _ · (by decide))) h₁,
    runHandler_readable (.of_members parseBlockchainSegment_members (always _ · (by decide))) h₂,
    runHandler_readable (.of_members parseStorageSegment_members (always _ · (by decide))) h₃,
    runHandler_readable (parseNetworkSegment_shaped env) h₄,
    runHandler_readable (.of_members parseAdditionalSegment_members (always _ · (by decide))) h₅]

/-! ## The conditions -/

/-- What `get_endpoint_from` and `validate_config` need of the settings. -/
structure ScalarsChecked (env : Environment) (s : Scalars) : Prop where
  rpcHttpHostIsIp : env.isIpAddress s.rpcHttpHost
  rpcWsHostIsIp : env.isIpAddress s.rpcWsHost
  genesisExists : env.fsExists s.genesisPath = some true
  basePathNonEmpty : s.basePath ≠ ""
  basePathCreated : env.createDirectoryRecursive s.basePath = some true
  p2pPortNonZero : s.p2pPort ≠ 0
  rpcWsPortNonZero : s.rpcWsPort ≠ 0
  rpcHttpPortNonZero : s.rpcHttpPort ≠ 0

/-- What a run that returns true has found to hold. -/
structure Accepted (env : Environment) (k : BlocksInResponse) (vm : VariablesMap) : Prop where
  noHelp : vm.find "help" = none
  configPath : vm.get .string "config_file" ≠ some ""
  documentReadable : ∀ document, configDocument env vm = some document → documentReadable document
  arguments : ArgumentsChecked env vm
  scalars : ScalarsChecked env (expectedScalars env k vm)

section Stages

variable (env : Environment) (vm : VariablesMap)

theorem checkHelp_requires : Requires (vm.find "help" = none) (checkHelp vm) := by
  intro c c' h
  unfold checkHelp at h
  split at h
  · cases h
  · rename_i hn
    simpa using hn

theorem loadConfigFile_requires : Requires (vm.get .string "config_file" ≠ some "" ∧
    ∀ document, configDocument env vm = some document → documentReadable document)
    (loadConfigFile env vm) := by
  intro c c' h
  rw [loadConfigFile, findArgument_of_declared "config_file" rfl, Stop.lift_eq_ok] at h
  cases hp : vm.get .string "config_file" with
  | none => simp [configDocument, hp]
  | some p =>
    rw [hp] at h
    obtain ⟨hpath, hdoc⟩ := readConfigFromFile_readable h
    exact ⟨fun he => hpath (Option.some.inj he), fun d hd => hdoc d (by simpa [configDocument, hp] using hd)⟩

theorem addBootNodes_total :
    ∀ {addrs : List String}, (∀ a ∈ addrs, env.isMultiaddress a ∧ env.hasPeerId a) →
      Total (addBootNodes env addrs)
  | [], _, c => ⟨c, rfl⟩
  | _ :: _, h, _ => by
    obtain ⟨⟨hm, hp⟩, h⟩ := List.forall_mem_cons.mp h
    rw [addBootNodes, if_neg (by simp [hm]), if_neg (by simp [hp])]
    exact addBootNodes_total h _

theorem addListenAddresses_total :
    ∀ {addrs : List String}, (∀ a ∈ addrs, env.isMultiaddress a) →
      Total (addListenAddresses env addrs)
  | [], _, c => ⟨c, rfl⟩
  | _ :: _, h, _ => by
    obtain ⟨hm, h⟩ := List.forall_mem_cons.mp h
    rw [addListenAddresses, if_neg (by simp [hm])]
    exact addListenAddresses_total h _

/-- The statements up to the endpoints end normally when the conditions of `Accepted` on
the command line and the file hold. -/
theorem readArguments_total (hhelp : vm.find "help" = none)
    (hpath : vm.get .string "config_file" ≠ some "")
    (hdoc : ∀ document, configDocument env vm = some document → documentReadable document)
    (hargs : ArgumentsChecked env vm) : Total (readArguments env vm) := by
  have hFile : Total (loadConfigFile env vm) := by
    intro c
    rw [loadConfigFile, findArgument_of_declared "config_file" rfl]
    cases hp : vm.get .string "config_file" with
    | none => exact ⟨c, rfl⟩
    | some p =>
      obtain ⟨c', h⟩ : ∃ c', readConfigFromFile env p c = .ok c' :=
        readConfigFromFile_ok c (fun h => hpath (h ▸ hp))
        (fun d hd => hdoc d (by simp [configDocument, hp, hd]))
      exact ⟨c', by simp [h]⟩
  have hKey : Total (setNodeKey env vm) := by
    intro c
    rw [setNodeKey_eq]
    cases hk : vm.get .string "node-key" with
    | none => exact ⟨c, rfl⟩
    | some key => exact ⟨_, if_pos (hargs.nodeKey key hk)⟩
  have hMax : Total (setMaxBlocksInResponse vm) := fun c =>
    ⟨c, by rw [setMaxBlocksInResponse_eq, hargs.maxBlocksNotGiven]⟩
  exact Total.bind (fun c => ⟨c, by simp [checkHelp, hhelp]⟩) <| hFile.bind <|
    Total.bind (fun c => ⟨_, setPaths_eq vm (aggregateFlags vm c)⟩) <|
    Total.bind (fun c => (setBootNodes_eq env vm c).symm ▸ addBootNodes_total env hargs.bootNodes c) <|
    hKey.bind <| Total.bind (fun c => ⟨_, setP2pPort_eq vm c⟩) <|
    Total.bind (fun c => (setListenAddresses_eq env vm c).symm ▸
      addListenAddresses_total env hargs.listenAddresses c) <|
    hMax.bind <| Total.bind (fun c => ⟨_, setVerbosity_eq vm c⟩) fun c => ⟨_, setRpcAddresses_eq vm c⟩

end Stages

/-! ## The characterization -/

theorem initializeFromArgs_true_accepted {env : Environment} {k : BlocksInResponse}
    {vm : VariablesMap} {c : AppConfigurationImpl}
    (h : initializeFromArgs env k vm = .ok (true, c)) : Accepted env k vm := by
  have hs : c.scalars = expectedScalars env k vm := initializeFromArgs_true_scalars h
  obtain ⟨c₁, c₂, h₁, h₂, h₃⟩ := initializeFromArgs_eq_true h
  obtain ⟨hg, hb, hcr, hp, hw, hh, rfl⟩ := checkConfig_ok env h₃
  rw [setEndpoints_eq] at h₂
  split_ifs at h₂ with hip
  cases h₂
  simp only [Bool.and_eq_true] at hip
  have hhelp : Requires _ (readArguments env vm) := .bind_left (checkHelp_requires vm)
  have hfile : Requires _ (readArguments env vm) :=
    .bind_right <| .bind_left <| loadConfigFile_requires env vm
  obtain ⟨hpath, hdoc⟩ := hfile _ _ h₁
  exact ⟨hhelp _ _ h₁, hpath, hdoc, readArguments_requires env vm _ _ h₁,
    hs ▸ ⟨hip.1, hip.2, hg, hb, hcr, hp, hw, hh⟩⟩

theorem initializeFromArgs_of_accepted {env : Environment} {k : BlocksInResponse}
    {vm : VariablesMap} (h : Accepted env k vm) : ∃ c, initializeFromArgs env k vm = .ok (true, c) := by
  obtain ⟨c₁, h₁⟩ := readArguments_total env vm h.noHelp h.configPath h.documentReadable
    h.arguments (.create k)
  have hs : clampScalars k c₁.scalars = expectedScalars env k vm := by
    rw [readArguments_acts env vm _ _ h₁, expectedScalars_eq]
  obtain ⟨hhttp, hws, hg, hb, hcr, hp, hw, hh⟩ := hs ▸ h.scalars
  simp only [clampScalars, AppConfigurationImpl.scalars] at hhttp hws hg hb hcr hp hw hh
  apply Exists.intro
  unfold initializeFromArgs
  rw [h₁, ok_bind, setEndpoints_eq, if_pos (by simp [hhttp, hws]), ok_bind]
  simp [checkConfig, validateConfig, fsCall, hg, String.isEmpty_iff, hb, hcr, hp, hw, hh]
  rfl

/-- `initialize_from_args` returns true exactly when `Accepted` holds, and it then returns
`expectedConfig`: the settings as the documented priority gives them, both endpoints built
from the RPC hosts and ports, the command line's node key, the file's address before the
command line's in each list, and each flag the file's value or'ed with its switch. -/
theorem initializeFromArgs_true_iff (env : Environment) (k : BlocksInResponse)
    (vm : VariablesMap) (c : AppConfigurationImpl) :
    initializeFromArgs env k vm = .ok (true, c) ↔
      Accepted env k vm ∧ c = expectedConfig env k vm := by
  constructor
  · intro h
    exact ⟨initializeFromArgs_true_accepted h, initializeFromArgs_true_eq h⟩
  · rintro ⟨h, rfl⟩
    obtain ⟨c', hc'⟩ := initializeFromArgs_of_accepted h
    rwa [← initializeFromArgs_true_eq hc']

end Kagome.Application

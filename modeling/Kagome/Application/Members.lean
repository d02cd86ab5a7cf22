import Kagome.Application.Priority

/-!
# The members besides the settings, and the whole object a run returns

`Scalars` holds the settings for which one source overrides another. The other members that
`initialize_from_args` writes are gathered in `Members`. The configuration file and the
command line both append to the listening addresses and the boot nodes: the file through
`load_ma`, which takes one string member, and the command line through its two loops. Only
the command line sets the node key. Each of the three flags is the file's value or'ed with a
command-line switch; the file names the last one `is_unix_slots_strategy` and the command
line `unix_slots`. Together with the endpoints, which `get_endpoint_from` builds from the
RPC hosts and ports, they make up the object. A run that returns true returns
`expectedConfig`.
-/

namespace Kagome.Application

/-- The members `initialize_from_args` writes besides `Scalars` and the endpoints. -/
structure Members where
  nodeKey : Option String
  listenAddresses : List String
  bootNodes : List String
  isAlreadySynchronized : Bool
  isOnlyFinalizing : Bool
  isUnixSlotsStrategy : Bool
  deriving DecidableEq

def AppConfigurationImpl.members (c : AppConfigurationImpl) : Members :=
  ⟨c.nodeKey, c.listenAddresses, c.bootNodes, c.isAlreadySynchronized, c.isOnlyFinalizing,
    c.isUnixSlotsStrategy⟩

/-- The object is its settings, its members and its two endpoints. -/
theorem AppConfigurationImpl.ext_views {c d : AppConfigurationImpl} (hs : c.scalars = d.scalars)
    (hm : c.members = d.members) (hh : c.rpcHttpEndpoint = d.rpcHttpEndpoint)
    (hw : c.rpcWsEndpoint = d.rpcWsEndpoint) : c = d := by
  cases c
  cases d
  simp only [scalars, members, Scalars.mk.injEq, Members.mk.injEq] at hs hm hh hw
  obtain ⟨rfl, rfl, rfl, rfl, rfl, rfl, rfl, rfl, rfl⟩ := hs
  obtain ⟨rfl, rfl, rfl, rfl, rfl, rfl⟩ := hm
  subst hh hw
  rfl

/-- A stage that ends normally has changed the members by `g`. -/
def ActsOnMembers (g : Members → Members) (stage : Stage) : Prop :=
  ∀ c c', stage c = .ok c' → c'.members = g c.members

section Composition

variable {g₁ g₂ : Members → Members} {s₁ s₂ : Stage}

theorem ActsOnMembers.bind (h₁ : ActsOnMembers g₁ s₁) (h₂ : ActsOnMembers g₂ s₂) :
    ActsOnMembers (g₂ ∘ g₁) (fun c => s₁ c >>= s₂) := by
  intro c c' h
  obtain ⟨c₁, hc₁, hc'⟩ := bind_eq_ok.mp h
  rw [h₂ _ _ hc', h₁ _ _ hc₁]
  rfl

/-- A stage that always ends normally, with `update`. -/
theorem ActsOnMembers.of_eq {update : AppConfigurationImpl → AppConfigurationImpl}
    (h : ∀ c, s₁ c = .ok (update c)) (hg : ∀ c, (update c).members = g₁ c.members) :
    ActsOnMembers g₁ s₁ := by
  intro c c' hc
  rw [h, Except.ok.injEq] at hc
  exact hc ▸ hg c

/-- A stage that ends normally with the object it was given. -/
theorem ActsOnMembers.of_same (h : ∀ c c', s₁ c = .ok c' → c' = c) : ActsOnMembers id s₁ :=
  fun c c' hc => by rw [h c c' hc]; rfl

end Composition

/-! ## The configuration file -/

/-- What `load_ma` appends from a segment: member `name`, a string, when it is a
multiaddress. -/
def maMember (env : Environment) (members : List (String × Value)) (name : String) :
    List String :=
  ((strMember members name).filter env.isMultiaddress).toList

theorem loadMa_object {env : Environment} {members : List (String × Value)} {name : String}
    {target : List String} {r : Bool × List String}
    (h : loadMa env (.object members) name target = .ok r) :
    r.2 = target ++ maMember env members name := by
  simp only [loadMa, Value.findMember, ok_bind, maMember, strMember] at h ⊢
  revert h
  rcases members.lookup name with _ | (_ | _ | _ | _ | s | _ | _) <;> try rintro ⟨⟩
  · simp
  · by_cases hs : env.isMultiaddress s <;> simp [hs, Option.filter]

/-- What the handler of `network` does to the members. -/
def networkMembers (env : Environment) : Option (List (String × Value)) → Members → Members
  | none, m => m
  | some members, m => { m with
      listenAddresses := m.listenAddresses ++ maMember env members "listen-addr"
      bootNodes := m.bootNodes ++ maMember env members "bootnodes" }

/-- What the handler of `additional` does to the members. -/
def additionalMembers : Option (List (String × Value)) → Members → Members
  | none, m => m
  | some members, m => { m with
      isOnlyFinalizing := (boolMember members "single_finalizing_node").getD m.isOnlyFinalizing
      isAlreadySynchronized :=
        (boolMember members "already_synchronized").getD m.isAlreadySynchronized
      isUnixSlotsStrategy :=
        (boolMember members "is_unix_slots_strategy").getD m.isUnixSlotsStrategy }

/-- The members after the handlers ran on a document with these segments. -/
def fileMembers (env : Environment) (segments : List (String × Value)) (m : Members) : Members :=
  additionalMembers (segmentMembers segments "additional")
    (networkMembers env (segmentMembers segments "network") m)

/-- A handler that ends normally was given an object, and changed the members by
`effect` of its members. -/
def HandlerActsOnMembers (effect : Option (List (String × Value)) → Members → Members)
    (parse : Value → AppConfigurationImpl → Except Failure AppConfigurationImpl) : Prop :=
  ∀ val c c', parse val c = .ok c' →
    ∃ members, val = .object members ∧ c'.members = effect (some members) c.members

theorem parseGeneralSegment_members : HandlerActsOnMembers (fun _ m => m) parseGeneralSegment := by
  intro val c c' h
  rcases val with _ | _ | _ | _ | _ | _ | members <;> try cases h
  refine ⟨members, rfl, ?_⟩
  simp only [parseGeneralSegment, loadU16_object, ok_bind] at h
  revert h
  cases u16Member members "verbosity" with
  | none =>
    rintro ⟨⟩
    rfl
  | some v =>
    dsimp only
    split_ifs <;> rintro ⟨⟩ <;> rfl

theorem parseBlockchainSegment_members :
    HandlerActsOnMembers (fun _ m => m) parseBlockchainSegment := by
  intro val c c' h
  rcases val with _ | _ | _ | _ | _ | _ | members <;> try cases h
  simp only [parseBlockchainSegment, loadStr_object, ok_bind, pure_eq_ok, Except.ok.injEq] at h
  exact ⟨members, rfl, h ▸ rfl⟩

theorem parseStorageSegment_members : HandlerActsOnMembers (fun _ m => m) parseStorageSegment := by
  intro val c c' h
  rcases val with _ | _ | _ | _ | _ | _ | members <;> try cases h
  simp only [parseStorageSegment, loadStr_object, ok_bind, pure_eq_ok, Except.ok.injEq] at h
  exact ⟨members, rfl, h ▸ rfl⟩

theorem parseNetworkSegment_members (env : Environment) :
    HandlerActsOnMembers (networkMembers env) (parseNetworkSegment env) := by
  intro val c c' h
  rcases val with _ | _ | _ | _ | _ | _ | members <;> try cases h
  obtain ⟨⟨_, listenAddresses⟩, hl, h⟩ := bind_eq_ok.mp h
  obtain ⟨⟨_, bootNodes⟩, hb, h⟩ := bind_eq_ok.mp h
  simp only [loadU16_object, loadStr_object, ok_bind, pure_eq_ok, Except.ok.injEq] at h
  have hl' : listenAddresses = _ := loadMa_object hl
  have hb' : bootNodes = _ := loadMa_object hb
  subst h hl' hb'
  exact ⟨members, rfl, rfl⟩

theorem parseAdditionalSegment_members :
    HandlerActsOnMembers additionalMembers parseAdditionalSegment := by
  intro val c c' h
  rcases val with _ | _ | _ | _ | _ | _ | members <;> try cases h
  simp only [parseAdditionalSegment, loadBool_object, loadU32_object, ok_bind, pure_eq_ok,
    Except.ok.injEq] at h
  exact ⟨members, rfl, h ▸ rfl⟩

/-- One pass of the loop over `handlers_`, with a handler acting by `effect`. -/
theorem runHandler_members {document : Value} {c c' : AppConfigurationImpl} {name : String}
    {parse : Value → AppConfigurationImpl → Except Failure AppConfigurationImpl}
    {effect : Option (List (String × Value)) → Members → Members}
    (hh : HandlerActsOnMembers effect parse) (heffect : ∀ m, effect none m = m)
    (hrun : runHandler document c (name, parse) = .ok c') :
    c'.members = effect (segmentMembers (docSegments document) name) c.members := by
  obtain ⟨r, hr, hrun⟩ := bind_eq_ok.mp hrun
  obtain ⟨segments, rfl, rfl⟩ := Value.findMember_eq_ok hr
  cases hl : segments.lookup name with
  | none =>
    simp only [hl, pure_eq_ok, Except.ok.injEq] at hrun
    simp [hrun, segmentMembers, docSegments, hl, heffect]
  | some val =>
    simp only [hl] at hrun
    obtain ⟨members, rfl, hc⟩ := hh val c c' hrun
    simp [hc, segmentMembers, docSegments, hl]

theorem readConfigFromFile_members {env : Environment} {filepath : String}
    {c c' : AppConfigurationImpl} (h : readConfigFromFile env filepath c = .ok c') :
    c'.members = fileMembers env (((env.configFile filepath).map docSegments).getD []) c.members := by
  unfold readConfigFromFile at h
  split_ifs at h
  cases hf : env.configFile filepath with
  | none =>
    simp only [hf, pure_eq_ok, Except.ok.injEq] at h
    simp [h, fileMembers, segmentMembers, networkMembers, additionalMembers]
  | some document =>
    simp only [hf, handlers, List.foldlM_cons, List.foldlM_nil, bind_pure] at h
    obtain ⟨c₁, h₁, h⟩ := bind_eq_ok.mp h
    obtain ⟨c₂, h₂, h⟩ := bind_eq_ok.mp h
    obtain ⟨c₃, h₃, h⟩ := bind_eq_ok.mp h
    obtain ⟨c₄, h₄, h₅⟩ := bind_eq_ok.mp h
    rw [runHandler_members parseAdditionalSegment_members (fun _ => rfl) h₅,
      runHandler_members (parseNetworkSegment_members env) (fun _ => rfl) h₄,
      runHandler_members parseStorageSegment_members (fun _ => rfl) h₃,
      runHandler_members parseBlockchainSegment_members (fun _ => rfl) h₂,
      runHandler_members parseGeneralSegment_members (fun _ => rfl) h₁]
    rfl

/-! ## The stages -/

section Stages

variable (env : Environment) (vm : VariablesMap)

theorem addBootNodes_eq_ok : ∀ {addrs : List String} {c c' : AppConfigurationImpl},
    addBootNodes env addrs c = .ok c' → c' = { c with bootNodes := c.bootNodes ++ addrs }
  | [], _, _, h => by
    cases h
    simp
  | _ :: addrs, _, _, h => by
    unfold addBootNodes at h
    split_ifs at h
    rw [addBootNodes_eq_ok h, List.append_assoc]
    rfl

theorem addListenAddresses_eq_ok : ∀ {addrs : List String} {c c' : AppConfigurationImpl},
    addListenAddresses env addrs c = .ok c' →
      c' = { c with listenAddresses := c.listenAddresses ++ addrs }
  | [], _, _, h => by
    cases h
    simp
  | _ :: addrs, _, _, h => by
    unfold addListenAddresses at h
    split_ifs at h
    rw [addListenAddresses_eq_ok h, List.append_assoc]
    rfl

theorem loadConfigFile_members :
    ActsOnMembers (fileMembers env (fileSegments env vm)) (loadConfigFile env vm) := by
  intro c c' h
  rw [loadConfigFile, findArgument_of_declared "config_file" rfl, Stop.lift_eq_ok] at h
  cases hp : vm.get .string "config_file" with
  | none =>
    simp only [hp, pure_eq_ok, Except.ok.injEq] at h
    simp [h, fileSegments, configDocument, hp, fileMembers, segmentMembers, networkMembers,
      additionalMembers]
  | some p =>
    simp only [hp] at h
    simp [readConfigFromFile_members h, fileSegments, configDocument, hp]

/-- The three switches. -/
def switchMembers (m : Members) : Members := { m with
  isOnlyFinalizing := m.isOnlyFinalizing || (vm.find "single_finalizing_node").isSome
  isAlreadySynchronized := m.isAlreadySynchronized || (vm.find "already_synchronized").isSome
  isUnixSlotsStrategy := m.isUnixSlotsStrategy || (vm.find "unix_slots").isSome }

/-- The members after the statements up to the endpoints. -/
def argumentMembers (m : Members) : Members :=
  let m := switchMembers vm (fileMembers env (fileSegments env vm) m)
  { m with
    bootNodes := m.bootNodes ++ (vm.get .strings "bootnodes").getD []
    nodeKey := (vm.get .string "node-key").or m.nodeKey
    listenAddresses := m.listenAddresses ++ (vm.get .strings "listen-addr").getD [] }

theorem readArguments_members : ActsOnMembers (argumentMembers env vm) (readArguments env vm) := by
  have hHelp : ActsOnMembers id (checkHelp vm) := .of_same fun c c' h => by
    unfold checkHelp at h
    split at h <;> cases h
    rfl
  have hPaths : ActsOnMembers (switchMembers vm) (fun c => setPaths vm (aggregateFlags vm c)) :=
    .of_eq (fun c => setPaths_eq vm _) fun _ => rfl
  have hBoot : ActsOnMembers (fun m => { m with
      bootNodes := m.bootNodes ++ (vm.get .strings "bootnodes").getD [] })
      (setBootNodes env vm) := fun c c' h => by
    rw [addBootNodes_eq_ok env ((setBootNodes_eq env vm c).symm.trans h)]
    rfl
  have hKey : ActsOnMembers (fun m => { m with nodeKey := (vm.get .string "node-key").or m.nodeKey })
      (setNodeKey env vm) := fun c c' h => by
    rw [setNodeKey_eq] at h
    split at h
    · rename_i hk
      cases h
      rw [hk]
      rfl
    · rename_i key hk
      split_ifs at h
      cases h
      rw [hk]
      rfl
  have hPort : ActsOnMembers id (setP2pPort vm) := .of_eq (setP2pPort_eq vm) fun _ => rfl
  have hListen : ActsOnMembers (fun m => { m with
      listenAddresses := m.listenAddresses ++ (vm.get .strings "listen-addr").getD [] })
      (setListenAddresses env vm) := fun c c' h => by
    rw [addListenAddresses_eq_ok env ((setListenAddresses_eq env vm c).symm.trans h)]
    rfl
  have hMax : ActsOnMembers id (setMaxBlocksInResponse vm) := .of_same fun c c' h => by
    rw [setMaxBlocksInResponse_eq] at h
    split at h <;> cases h
    rfl
  have hVerbosity : ActsOnMembers id (setVerbosity vm) := .of_eq (setVerbosity_eq vm) fun _ => rfl
  have hRpc : ActsOnMembers id (setRpcAddresses vm) := .of_eq (setRpcAddresses_eq vm) fun _ => rfl
  exact hHelp.bind <| (loadConfigFile_members env vm).bind <| hPaths.bind <| hBoot.bind <|
    hKey.bind <| hPort.bind <| hListen.bind <| hMax.bind <| hVerbosity.bind hRpc

end Stages

/-! ## The object a run returns -/

/-- The members a run that returns true leaves: the file's address (at most one, a
multiaddress; a boot node from the file needs no peer id) before the command line's, the
command line's node key, and each flag the file's value or'ed with its switch. -/
def expectedMembers (env : Environment) (vm : VariablesMap) : Members where
  nodeKey := vm.get .string "node-key"
  listenAddresses := ((segmentMembers (fileSegments env vm) "network").elim []
    fun members => maMember env members "listen-addr") ++ (vm.get .strings "listen-addr").getD []
  bootNodes := ((segmentMembers (fileSegments env vm) "network").elim []
    fun members => maMember env members "bootnodes") ++ (vm.get .strings "bootnodes").getD []
  isAlreadySynchronized :=
    (fileValue env vm "additional" "already_synchronized" boolMember).getD false ||
      (vm.find "already_synchronized").isSome
  isOnlyFinalizing :=
    (fileValue env vm "additional" "single_finalizing_node" boolMember).getD false ||
      (vm.find "single_finalizing_node").isSome
  isUnixSlotsStrategy :=
    (fileValue env vm "additional" "is_unix_slots_strategy" boolMember).getD false ||
      (vm.find "unix_slots").isSome

/-- The object a run that returns true leaves: the settings as `expectedScalars` gives them,
the members as `expectedMembers` gives them, and each endpoint its host and port. -/
def expectedConfig (env : Environment) (k : BlocksInResponse) (vm : VariablesMap) :
    AppConfigurationImpl :=
  let s := expectedScalars env k vm
  let m := expectedMembers env vm
  { nodeKey := m.nodeKey
    listenAddresses := m.listenAddresses
    bootNodes := m.bootNodes
    p2pPort := s.p2pPort
    rpcHttpEndpoint := ⟨s.rpcHttpHost, s.rpcHttpPort⟩
    rpcWsEndpoint := ⟨s.rpcWsHost, s.rpcWsPort⟩
    verbosity := s.verbosity
    isAlreadySynchronized := m.isAlreadySynchronized
    isOnlyFinalizing := m.isOnlyFinalizing
    maxBlocksInResponse := s.maxBlocksInResponse
    isUnixSlotsStrategy := m.isUnixSlotsStrategy
    rpcHttpHost := s.rpcHttpHost
    rpcWsHost := s.rpcWsHost
    genesisPath := s.genesisPath
    basePath := s.basePath
    rpcHttpPort := s.rpcHttpPort
    rpcWsPort := s.rpcWsPort }

theorem argumentMembers_create (env : Environment) (k : BlocksInResponse) (vm : VariablesMap) :
    argumentMembers env vm (AppConfigurationImpl.create k).members = expectedMembers env vm := by
  simp only [argumentMembers, switchMembers, fileMembers, expectedMembers, fileValue]
  generalize segmentMembers (fileSegments env vm) "network" = network
  generalize segmentMembers (fileSegments env vm) "additional" = additional
  cases network <;> cases additional <;> simp [AppConfigurationImpl.create,
    AppConfigurationImpl.members, networkMembers, additionalMembers]

theorem initializeFromArgs_true_eq {env : Environment} {k : BlocksInResponse} {vm : VariablesMap}
    {c : AppConfigurationImpl} (h : initializeFromArgs env k vm = .ok (true, c)) :
    c = expectedConfig env k vm := by
  have hs := initializeFromArgs_true_scalars h
  obtain ⟨c₁, c₂, h₁, h₂, h₃⟩ := initializeFromArgs_eq_true h
  obtain ⟨-, -, -, -, -, -, rfl⟩ := checkConfig_ok env h₃
  rw [setEndpoints_eq] at h₂
  split_ifs at h₂
  cases h₂
  refine AppConfigurationImpl.ext_views hs ?_ ?_ ?_
  · exact (readArguments_members env vm _ _ h₁).trans (argumentMembers_create env k vm)
  · exact congrArg₂ Endpoint.mk (congrArg Scalars.rpcHttpHost hs) (congrArg Scalars.rpcHttpPort hs)
  · exact congrArg₂ Endpoint.mk (congrArg Scalars.rpcWsHost hs) (congrArg Scalars.rpcWsPort hs)

end Kagome.Application

import Kagome.Application.AppConfigurationImpl

/-!
# What each stage of `initialize_from_args` does to the settings

The settings the documented priority speaks of are `Scalars`. `ActsOn g stage` says that a
stage which ends normally has changed them by `g`, whatever else it changed; `NoFailure stage`
that it ends normally or returns false, never by a failed assertion, an exception or an exit.
Both compose along `>>=`, so the lemmas of the single stages give those of the loop over
`handlers_` (by induction over the handlers) and of the statements up to the endpoints.
-/

namespace Kagome.Application

/-- The settings the documented priority speaks of. -/
structure Scalars where
  p2pPort : UInt16
  rpcHttpHost : String
  rpcHttpPort : UInt16
  rpcWsHost : String
  rpcWsPort : UInt16
  maxBlocksInResponse : UInt32
  verbosity : Level
  genesisPath : String
  basePath : String
  deriving DecidableEq

def AppConfigurationImpl.scalars (c : AppConfigurationImpl) : Scalars :=
  ⟨c.p2pPort, c.rpcHttpHost, c.rpcHttpPort, c.rpcWsHost, c.rpcWsPort, c.maxBlocksInResponse,
    c.verbosity, c.genesisPath, c.basePath⟩

/-- A statement of `initialize_from_args`, from the object before it to the object after it. -/
abbrev Stage := AppConfigurationImpl → Except Stop AppConfigurationImpl

/-- A stage that ends normally has changed the settings by `g`. -/
def ActsOn (g : Scalars → Scalars) (stage : Stage) : Prop :=
  ∀ c c', stage c = .ok c' → c'.scalars = g c.scalars

/-- A stage ends normally or returns false. -/
def NoFailure (stage : Stage) : Prop := ∀ c f, stage c ≠ .error (.failed f)

/-- A stage that ends normally has found `p` to hold. -/
def Requires (p : Prop) (stage : Stage) : Prop := ∀ c c', stage c = .ok c' → p

section Composition

variable {g₁ g₂ : Scalars → Scalars} {s₁ s₂ : Stage}

theorem ActsOn.bind (h₁ : ActsOn g₁ s₁) (h₂ : ActsOn g₂ s₂) :
    ActsOn (g₂ ∘ g₁) (fun c => s₁ c >>= s₂) := by
  intro c c' h
  obtain ⟨c₁, hc₁, hc'⟩ := bind_eq_ok.mp h
  rw [h₂ _ _ hc', h₁ _ _ hc₁]
  rfl

theorem NoFailure.bind (h₁ : NoFailure s₁) (h₂ : NoFailure s₂) :
    NoFailure (fun c => s₁ c >>= s₂) := by
  intro c f h
  rcases bind_eq_error.mp h with h | ⟨c₁, -, h⟩
  exacts [h₁ c f h, h₂ c₁ f h]

/-- A stage that always ends normally, with `update`. -/
theorem ActsOn.of_eq {g : Scalars → Scalars} {stage : Stage}
    {update : AppConfigurationImpl → AppConfigurationImpl} (h : ∀ c, stage c = .ok (update c))
    (hg : ∀ c, (update c).scalars = g c.scalars) : ActsOn g stage := by
  intro c c' hc
  rw [h, Except.ok.injEq] at hc
  exact hc ▸ hg c

theorem Requires.bind_left {p : Prop} (h : Requires p s₁) :
    Requires p (fun c => s₁ c >>= s₂) := by
  intro c c' hc
  obtain ⟨c₁, h₁, -⟩ := bind_eq_ok.mp hc
  exact h c c₁ h₁

theorem Requires.bind_right {p : Prop} (h : Requires p s₂) :
    Requires p (fun c => s₁ c >>= s₂) := by
  intro c c' hc
  obtain ⟨c₁, -, h₂⟩ := bind_eq_ok.mp hc
  exact h c₁ c' h₂

theorem NoFailure.of_ok {stage : Stage} (h : ∀ c, ∃ c', stage c = .ok c') : NoFailure stage := by
  intro c f hc
  obtain ⟨c', h⟩ := h c
  rw [h] at hc
  cases hc

end Composition

@[simp] theorem Stop.lift_ok {α : Type} (a : α) : Stop.lift (.ok a) = .ok a := rfl

@[simp] theorem Stop.lift_error {α : Type} (f : Failure) :
    (Stop.lift (.error f : Except Failure α)) = .error (.failed f) := rfl

theorem Stop.lift_eq_ok {α : Type} {x : Except Failure α} {a : α} :
    Stop.lift x = .ok a ↔ x = .ok a := by
  cases x <;> simp

theorem Stop.lift_eq_failed {α : Type} {x : Except Failure α} {f : Failure} :
    Stop.lift x = .error (.failed f) ↔ x = .error f := by
  cases x <;> simp

/-! ## `read_config_from_file` -/

theorem Value.findMember_eq_ok {v : Value} {name : String} {r : Option Value}
    (h : v.findMember name = .ok r) : ∃ members, v = .object members ∧ r = members.lookup name := by
  cases v <;> cases h
  exact ⟨_, rfl, rfl⟩

/-- The members of segment `name`, when the document has it and it is an object. -/
def segmentMembers (segments : List (String × Value)) (name : String) :
    Option (List (String × Value)) :=
  match segments.lookup name with
  | some (.object members) => some members
  | _ => none

/-- The segments of a document; a document that is not an object has none. -/
def docSegments : Value → List (String × Value)
  | .object segments => segments
  | _ => []

/-- The level `level`, when the range test of the code lets it through. -/
def acceptLevel (level : Level) : Option Level := if level.inRange then some level else none

/-- What the handler of segment `name` does to the settings, given the segment's members when
the document has the segment. -/
def segmentEffect : String → Option (List (String × Value)) → Scalars → Scalars
  | "general", members, s => { s with
      verbosity := ((members.bind (u16Member · "verbosity")).bind fun v =>
        acceptLevel (levelOf v.toNat)).getD s.verbosity }
  | "blockchain", members, s => { s with
      genesisPath := members.elim s.genesisPath fun ms => (strMember ms "genesis").getD "" }
  | "storage", members, s => { s with
      basePath := members.elim s.basePath fun ms => (strMember ms "base_path").getD "" }
  | "network", members, s => { s with
      p2pPort := (members.bind (u16Member · "p2p_port")).getD s.p2pPort
      rpcHttpHost := (members.bind (strMember · "rpc_http_host")).getD s.rpcHttpHost
      rpcHttpPort := (members.bind (u16Member · "rpc_http_port")).getD s.rpcHttpPort
      rpcWsHost := (members.bind (strMember · "rpc_ws_host")).getD s.rpcWsHost
      rpcWsPort := (members.bind (u16Member · "rpc_ws_port")).getD s.rpcWsPort }
  | "additional", members, s => { s with
      maxBlocksInResponse :=
        (members.bind (u32Member · "max_blocks_in_response")).getD s.maxBlocksInResponse }
  | _, _, s => s

theorem segmentEffect_none (name : String) (s : Scalars) : segmentEffect name none s = s := by
  unfold segmentEffect
  split <;> rfl

/-- A segment handler that ends normally was given an object, and changed the settings as
`segmentEffect name` says. -/
def SegmentActs (name : String)
    (parse : Value → AppConfigurationImpl → Except Failure AppConfigurationImpl) : Prop :=
  ∀ val c c', parse val c = .ok c' →
    ∃ members, val = .object members ∧ c'.scalars = segmentEffect name (some members) c.scalars

theorem parseGeneralSegment_acts : SegmentActs "general" parseGeneralSegment := by
  intro val c c' h
  rcases val with _ | _ | _ | _ | _ | _ | members <;> try cases h
  refine ⟨members, rfl, ?_⟩
  simp only [parseGeneralSegment, loadU16_object, ok_bind] at h
  simp only [segmentEffect, Option.some_bind]
  revert h
  cases u16Member members "verbosity" with
  | none =>
    rintro ⟨⟩
    rfl
  | some v =>
    simp only [acceptLevel, Option.some_bind]
    split_ifs <;> rintro ⟨⟩ <;> rfl

theorem parseBlockchainSegment_acts : SegmentActs "blockchain" parseBlockchainSegment := by
  intro val c c' h
  rcases val with _ | _ | _ | _ | _ | _ | members <;> try cases h
  simp only [parseBlockchainSegment, loadStr_object, ok_bind, pure_eq_ok, Except.ok.injEq] at h
  exact ⟨members, rfl, h ▸ rfl⟩

theorem parseStorageSegment_acts : SegmentActs "storage" parseStorageSegment := by
  intro val c c' h
  rcases val with _ | _ | _ | _ | _ | _ | members <;> try cases h
  simp only [parseStorageSegment, loadStr_object, ok_bind, pure_eq_ok, Except.ok.injEq] at h
  exact ⟨members, rfl, h ▸ rfl⟩

theorem parseNetworkSegment_acts (env : Environment) :
    SegmentActs "network" (parseNetworkSegment env) := by
  intro val c c' h
  rcases val with _ | _ | _ | _ | _ | _ | members <;> try cases h
  obtain ⟨_, -, h⟩ := bind_eq_ok.mp h
  obtain ⟨_, -, h⟩ := bind_eq_ok.mp h
  simp only [loadU16_object, loadStr_object, ok_bind, pure_eq_ok, Except.ok.injEq] at h
  exact ⟨members, rfl, h ▸ rfl⟩

theorem parseAdditionalSegment_acts : SegmentActs "additional" parseAdditionalSegment := by
  intro val c c' h
  rcases val with _ | _ | _ | _ | _ | _ | members <;> try cases h
  simp only [parseAdditionalSegment, loadBool_object, loadU32_object, ok_bind, pure_eq_ok,
    Except.ok.injEq] at h
  exact ⟨members, rfl, h ▸ rfl⟩

theorem handlers_acts (env : Environment) : ∀ h ∈ handlers env, SegmentActs h.1 h.2 := by
  simp only [handlers, List.forall_mem_cons, List.not_mem_nil, false_implies, implies_true,
    and_true]
  exact ⟨parseGeneralSegment_acts, parseBlockchainSegment_acts, parseStorageSegment_acts,
    parseNetworkSegment_acts env, parseAdditionalSegment_acts⟩

/-- One pass of the loop changes the settings as the handler's segment says. -/
theorem runHandler_scalars {document : Value} {c c' : AppConfigurationImpl} {h : Handler}
    (hh : SegmentActs h.1 h.2) (hrun : runHandler document c h = .ok c') :
    c'.scalars = segmentEffect h.1 (segmentMembers (docSegments document) h.1) c.scalars := by
  obtain ⟨r, hr, hrun⟩ := bind_eq_ok.mp hrun
  obtain ⟨segments, rfl, rfl⟩ := Value.findMember_eq_ok hr
  cases hl : segments.lookup h.1 with
  | none =>
    simp only [hl, pure_eq_ok, Except.ok.injEq] at hrun
    simp [hrun, segmentMembers, docSegments, hl, segmentEffect_none]
  | some val =>
    simp only [hl] at hrun
    obtain ⟨members, rfl, hc⟩ := hh val c c' hrun
    simp [hc, segmentMembers, docSegments, hl]

/-- The loop over a list of handlers, each acting as its segment says. -/
theorem foldlM_runHandler_scalars {document : Value} :
    ∀ {hs : List Handler} {c c' : AppConfigurationImpl}, (∀ h ∈ hs, SegmentActs h.1 h.2) →
      hs.foldlM (runHandler document) c = .ok c' →
      c'.scalars = (hs.map Prod.fst).foldl
        (fun s name => segmentEffect name (segmentMembers (docSegments document) name) s) c.scalars
  | [], _, _, _, hrun => by
    cases hrun
    rfl
  | h :: hs, c, c', hall, hrun => by
    obtain ⟨c₁, h₁, hrun⟩ := bind_eq_ok.mp hrun
    rw [foldlM_runHandler_scalars (fun h' hm => hall h' (List.mem_cons_of_mem _ hm)) hrun,
      runHandler_scalars (hall h (List.mem_cons_self _ _)) h₁]
    rfl

/-- The segments `handlers_` reads, in order. -/
def segmentNames : List String := ["general", "blockchain", "storage", "network", "additional"]

/-- The settings after the handlers ran on a document with these segments. -/
def fileScalars (segments : List (String × Value)) (s : Scalars) : Scalars :=
  segmentNames.foldl (fun s name => segmentEffect name (segmentMembers segments name) s) s

theorem fileScalars_nil (s : Scalars) : fileScalars [] s = s := by
  simp [fileScalars, segmentNames, segmentMembers, segmentEffect_none]

theorem readConfigFromFile_scalars {env : Environment} {filepath : String}
    {c c' : AppConfigurationImpl} (h : readConfigFromFile env filepath c = .ok c') :
    c'.scalars = fileScalars (((env.configFile filepath).map docSegments).getD []) c.scalars := by
  unfold readConfigFromFile at h
  split_ifs at h
  cases hf : env.configFile filepath with
  | none =>
    simp only [hf, pure_eq_ok, Except.ok.injEq] at h
    rw [h, Option.map_none', Option.getD_none, fileScalars_nil]
  | some document =>
    simp only [hf] at h
    exact foldlM_runHandler_scalars (handlers_acts env) h

/-! ## Documents read without a failed assertion -/

/-- Member `name` is absent or a string, as the `GetString` of `load_ma` needs. -/
def memberIsString (members : List (String × Value)) (name : String) : Bool :=
  match members.lookup name with
  | some v => v.isString
  | none => true

/-- What the handler of segment `name` needs of the segment's members. -/
def segmentShape : String → List (String × Value) → Bool
  | "network", members => memberIsString members "listen-addr" && memberIsString members "bootnodes"
  | _, _ => true

/-- Segment `name` is absent, or an object its handler reads. -/
def segmentReadable (segments : List (String × Value)) (name : String) : Bool :=
  match segments.lookup name with
  | none => true
  | some (.object members) => segmentShape name members
  | some _ => false

/-- A document `read_config_from_file` reads without a failed assertion. -/
def documentReadable : Value → Bool
  | .object segments => segmentNames.all (segmentReadable segments)
  | _ => false

/-- A segment handler ends normally on every object of the shape it needs. -/
def SegmentTotal (name : String)
    (parse : Value → AppConfigurationImpl → Except Failure AppConfigurationImpl) : Prop :=
  ∀ members c, segmentShape name members → ∃ c', parse (.object members) c = .ok c'

theorem loadMa_object_ok (env : Environment) {members : List (String × Value)} {name : String}
    (target : List String) (h : memberIsString members name) :
    ∃ r, loadMa env (.object members) name target = .ok r := by
  simp only [memberIsString] at h
  simp only [loadMa, Value.findMember, ok_bind]
  revert h
  rcases members.lookup name with _ | (_ | _ | _ | _ | _ | _ | _) <;> simp [Value.isString]

theorem handlers_total (env : Environment) : ∀ h ∈ handlers env, SegmentTotal h.1 h.2 := by
  simp only [handlers, List.forall_mem_cons, List.not_mem_nil, false_implies, implies_true,
    and_true]
  refine ⟨fun members c _ => ?_, fun members c _ => ?_, fun members c _ => ?_,
    fun members c hshape => ?_, fun members c _ => ?_⟩
  · simp only [parseGeneralSegment, loadU16_object, ok_bind]
    cases u16Member members "verbosity" <;> exact ⟨_, rfl⟩
  · simp [parseBlockchainSegment]
  · simp [parseStorageSegment]
  · simp only [segmentShape, Bool.and_eq_true] at hshape
    obtain ⟨⟨_, _⟩, hl⟩ := loadMa_object_ok env c.listenAddresses hshape.1
    obtain ⟨⟨_, _⟩, hb⟩ := loadMa_object_ok env c.bootNodes hshape.2
    simp [parseNetworkSegment, hl, hb]
  · simp [parseAdditionalSegment]

theorem runHandler_ok {segments : List (String × Value)} {c : AppConfigurationImpl} {h : Handler}
    (hh : SegmentTotal h.1 h.2) (hr : segmentReadable segments h.1) :
    ∃ c', runHandler (.object segments) c h = .ok c' := by
  simp only [segmentReadable] at hr
  simp only [runHandler, Value.findMember, ok_bind]
  revert hr
  rcases segments.lookup h.1 with _ | (_ | _ | _ | _ | _ | _ | members) <;> simp
  exact hh members c

theorem foldlM_runHandler_ok {segments : List (String × Value)} :
    ∀ {hs : List Handler} {c : AppConfigurationImpl}, (∀ h ∈ hs, SegmentTotal h.1 h.2) →
      (∀ h ∈ hs, segmentReadable segments h.1) →
      ∃ c', hs.foldlM (runHandler (.object segments)) c = .ok c'
  | [], c, _, _ => ⟨c, rfl⟩
  | h :: hs, c, ht, hr => by
    obtain ⟨c₁, h₁⟩ := runHandler_ok (c := c) (ht h (List.mem_cons_self _ _))
      (hr h (List.mem_cons_self _ _))
    obtain ⟨c', h'⟩ := foldlM_runHandler_ok (c := c₁)
      (fun h' hm => ht h' (List.mem_cons_of_mem _ hm)) (fun h' hm => hr h' (List.mem_cons_of_mem _ hm))
    exact ⟨c', by simp [h₁, h']⟩

theorem readConfigFromFile_ok {env : Environment} {filepath : String} (c : AppConfigurationImpl)
    (hpath : filepath ≠ "")
    (hdoc : ∀ document, env.configFile filepath = some document → documentReadable document) :
    ∃ c', readConfigFromFile env filepath c = .ok c' := by
  unfold readConfigFromFile
  rw [if_neg hpath]
  cases hf : env.configFile filepath with
  | none => exact ⟨c, rfl⟩
  | some document =>
    have hr := hdoc document hf
    rcases document with _ | _ | _ | _ | _ | _ | segments <;> try cases hr
    simp only [documentReadable, List.all_eq_true] at hr
    exact foldlM_runHandler_ok (handlers_total env)
      (fun h hm => hr h.1 (List.mem_map_of_mem Prod.fst hm))

/-! ## The stages -/

section Stages

variable (env : Environment) (vm : VariablesMap)

theorem checkHelp_acts : ActsOn id (checkHelp vm) := by
  intro c c' h
  unfold checkHelp at h
  split at h <;> cases h
  rfl

theorem checkHelp_noFailure : NoFailure (checkHelp vm) := by
  intro c f h
  unfold checkHelp at h
  split at h <;> cases h

/-- The document named by `-c`, when the file opens and parses. -/
def configDocument : Option Value := (vm.get .string "config_file").bind env.configFile

/-- The segments of the configuration document; none without one. -/
def fileSegments : List (String × Value) := ((configDocument env vm).map docSegments).getD []

theorem loadConfigFile_acts : ActsOn (fileScalars (fileSegments env vm)) (loadConfigFile env vm) := by
  intro c c' h
  rw [loadConfigFile, findArgument_of_declared "config_file" rfl, Stop.lift_eq_ok] at h
  cases hp : vm.get .string "config_file" with
  | none =>
    simp only [hp, pure_eq_ok, Except.ok.injEq] at h
    simp [h, fileSegments, configDocument, hp, fileScalars_nil]
  | some p =>
    simp only [hp] at h
    simp [readConfigFromFile_scalars h, fileSegments, configDocument, hp]

theorem loadConfigFile_noFailure (hpath : vm.get .string "config_file" ≠ some "")
    (hdoc : ∀ document, configDocument env vm = some document → documentReadable document) :
    NoFailure (loadConfigFile env vm) := by
  refine NoFailure.of_ok fun c => ?_
  rw [loadConfigFile, findArgument_of_declared "config_file" rfl]
  cases hp : vm.get .string "config_file" with
  | none => exact ⟨c, rfl⟩
  | some p =>
    obtain ⟨c', h⟩ : ∃ c', readConfigFromFile env p c = .ok c' :=
      readConfigFromFile_ok c (fun h => hpath (h ▸ hp))
        (fun d hd => hdoc d (by simp [configDocument, hp, hd]))
    exact ⟨c', by simp [h]⟩

theorem setPaths_eq (c : AppConfigurationImpl) : setPaths vm c = .ok { c with
    genesisPath := (vm.get .string "genesis").getD c.genesisPath
    basePath := (vm.get .string "base_path").getD c.basePath } := by
  simp only [setPaths, findArgument_set "genesis" rfl, findArgument_set "base_path" rfl, ok_bind,
    elim_assign AppConfigurationImpl.genesisPath (fun v c => { c with genesisPath := v })
      fun _ => rfl,
    elim_assign AppConfigurationImpl.basePath (fun v c => { c with basePath := v }) fun _ => rfl]
  rfl

theorem setPaths_acts : ActsOn (fun s => { s with
    genesisPath := (vm.get .string "genesis").getD s.genesisPath
    basePath := (vm.get .string "base_path").getD s.basePath })
    (fun c => setPaths vm (aggregateFlags vm c)) :=
  ActsOn.of_eq (fun c => setPaths_eq vm (aggregateFlags vm c)) fun _ => rfl

theorem addBootNodes_acts : ∀ addrs, ActsOn id (addBootNodes env addrs)
  | [], _, _, h => by
    cases h
    rfl
  | _ :: addrs, _, _, h => by
    unfold addBootNodes at h
    split_ifs at h
    exact (addBootNodes_acts addrs _ _ h :)

theorem addBootNodes_noFailure : ∀ addrs, NoFailure (addBootNodes env addrs)
  | [], _, _, h => by cases h
  | _ :: addrs, _, f, h => by
    unfold addBootNodes at h
    split_ifs at h <;> try cases h
    exact (addBootNodes_noFailure addrs _ f h :)

theorem setBootNodes_eq (c : AppConfigurationImpl) :
    setBootNodes env vm c = addBootNodes env ((vm.get .strings "bootnodes").getD []) c := by
  rw [setBootNodes, findArgument_set "bootnodes" rfl (fun v _ => v)]
  cases vm.get .strings "bootnodes" <;> rfl

theorem setBootNodes_acts : ActsOn id (setBootNodes env vm) := fun c c' h =>
  addBootNodes_acts env _ c c' (setBootNodes_eq env vm c ▸ h)

theorem setBootNodes_noFailure : NoFailure (setBootNodes env vm) := fun c f h =>
  addBootNodes_noFailure env _ c f (setBootNodes_eq env vm c ▸ h)

theorem setNodeKey_eq (c : AppConfigurationImpl) : setNodeKey env vm c =
    match vm.get .string "node-key" with
    | none => .ok c
    | some key =>
      if env.isPrivateKeyHex key then .ok { c with nodeKey := some key } else .error (.returnFalse c) := by
  rw [setNodeKey, findArgument_set "node-key" rfl (fun v _ => some v)]
  cases vm.get .string "node-key" <;> rfl

theorem setNodeKey_acts : ActsOn id (setNodeKey env vm) := by
  intro c c' h
  rw [setNodeKey_eq] at h
  split at h
  · cases h
    rfl
  · split_ifs at h
    cases h
    rfl

theorem setNodeKey_noFailure : NoFailure (setNodeKey env vm) := by
  intro c f h
  rw [setNodeKey_eq] at h
  split at h
  · cases h
  · split_ifs at h
    cases h

theorem setP2pPort_eq (c : AppConfigurationImpl) :
    setP2pPort vm c = .ok { c with p2pPort := (vm.get .uint16 "p2p_port").getD c.p2pPort } := by
  rw [setP2pPort, findArgument_set "p2p_port" rfl]
  cases vm.get .uint16 "p2p_port" <;> rfl

theorem setP2pPort_acts :
    ActsOn (fun s => { s with p2pPort := (vm.get .uint16 "p2p_port").getD s.p2pPort })
      (setP2pPort vm) :=
  ActsOn.of_eq (setP2pPort_eq vm) fun _ => rfl

theorem addListenAddresses_acts : ∀ addrs, ActsOn id (addListenAddresses env addrs)
  | [], _, _, h => by
    cases h
    rfl
  | _ :: addrs, _, _, h => by
    unfold addListenAddresses at h
    split_ifs at h
    exact (addListenAddresses_acts addrs _ _ h :)

theorem addListenAddresses_noFailure : ∀ addrs, NoFailure (addListenAddresses env addrs)
  | [], _, _, h => by cases h
  | _ :: addrs, _, f, h => by
    unfold addListenAddresses at h
    split_ifs at h <;> try cases h
    exact (addListenAddresses_noFailure addrs _ f h :)

theorem setListenAddresses_eq (c : AppConfigurationImpl) : setListenAddresses env vm c =
    addListenAddresses env ((vm.get .strings "listen-addr").getD []) c := by
  rw [setListenAddresses, findArgument_set "listen-addr" rfl (fun v _ => v)]
  cases vm.get .strings "listen-addr" <;> rfl

theorem setListenAddresses_acts : ActsOn id (setListenAddresses env vm) := fun c c' h =>
  addListenAddresses_acts env _ c c' (setListenAddresses_eq env vm c ▸ h)

theorem setListenAddresses_noFailure : NoFailure (setListenAddresses env vm) := fun c f h =>
  addListenAddresses_noFailure env _ c f (setListenAddresses_eq env vm c ▸ h)

/-- The option is declared an `int` and read as a `uint32_t`: given, it throws; not given,
nothing changes. -/
theorem setMaxBlocksInResponse_eq (c : AppConfigurationImpl) :
    setMaxBlocksInResponse vm c = match vm.find "max_blocks_in_response" with
      | none => .ok c
      | some _ => .error (.failed (.threw "boost::bad_any_cast")) := by
  cases hf : vm.find "max_blocks_in_response" with
  | none => simp [setMaxBlocksInResponse, findArgument, hf]
  | some a =>
    rw [setMaxBlocksInResponse, findArgument_of_mismatch "max_blocks_in_response" rfl
      (by decide : ValueType.int ≠ .uint32) (by simp [hf])]
    rfl

theorem setMaxBlocksInResponse_acts : ActsOn id (setMaxBlocksInResponse vm) := by
  intro c c' h
  rw [setMaxBlocksInResponse_eq] at h
  split at h <;> cases h
  rfl

theorem setMaxBlocksInResponse_noFailure (hmax : vm.find "max_blocks_in_response" = none) :
    NoFailure (setMaxBlocksInResponse vm) := by
  intro c f h
  rw [setMaxBlocksInResponse_eq, hmax] at h
  cases h

/-- The level `-v` sets. -/
def cliLevel : Option Level := (vm.get .int "verbosity").bind fun v => acceptLevel (levelOf v.val)

theorem setVerbosity_eq (c : AppConfigurationImpl) :
    setVerbosity vm c = .ok { c with verbosity := (cliLevel vm).getD c.verbosity } := by
  rw [setVerbosity, findArgument_set "verbosity" rfl, cliLevel]
  cases vm.get .int "verbosity" with
  | none => rfl
  | some v => by_cases hl : (levelOf v.val).inRange <;> simp [acceptLevel, hl]

theorem setVerbosity_acts :
    ActsOn (fun s => { s with verbosity := (cliLevel vm).getD s.verbosity }) (setVerbosity vm) :=
  ActsOn.of_eq (setVerbosity_eq vm) fun _ => rfl

theorem setRpcAddresses_eq (c : AppConfigurationImpl) : setRpcAddresses vm c = .ok { c with
    rpcHttpHost := (vm.get .string "rpc_http_host").getD c.rpcHttpHost
    rpcWsHost := (vm.get .string "rpc_ws_host").getD c.rpcWsHost
    rpcHttpPort := (vm.get .uint16 "rpc_http_port").getD c.rpcHttpPort
    rpcWsPort := (vm.get .uint16 "rpc_ws_port").getD c.rpcWsPort } := by
  simp only [setRpcAddresses, findArgument_set "rpc_http_host" rfl,
    findArgument_set "rpc_ws_host" rfl, findArgument_set "rpc_http_port" rfl,
    findArgument_set "rpc_ws_port" rfl, ok_bind,
    elim_assign AppConfigurationImpl.rpcHttpHost (fun v c => { c with rpcHttpHost := v })
      fun _ => rfl,
    elim_assign AppConfigurationImpl.rpcWsHost (fun v c => { c with rpcWsHost := v }) fun _ => rfl,
    elim_assign AppConfigurationImpl.rpcHttpPort (fun v c => { c with rpcHttpPort := v })
      fun _ => rfl,
    elim_assign AppConfigurationImpl.rpcWsPort (fun v c => { c with rpcWsPort := v }) fun _ => rfl]
  rfl

theorem setRpcAddresses_acts : ActsOn (fun s => { s with
    rpcHttpHost := (vm.get .string "rpc_http_host").getD s.rpcHttpHost
    rpcWsHost := (vm.get .string "rpc_ws_host").getD s.rpcWsHost
    rpcHttpPort := (vm.get .uint16 "rpc_http_port").getD s.rpcHttpPort
    rpcWsPort := (vm.get .uint16 "rpc_ws_port").getD s.rpcWsPort }) (setRpcAddresses vm) :=
  ActsOn.of_eq (setRpcAddresses_eq vm) fun _ => rfl

/-- `get_endpoint_from` on both hosts: the process exits unless both are IP addresses. -/
theorem setEndpoints_eq (c : AppConfigurationImpl) : setEndpoints env c =
    if env.isIpAddress c.rpcHttpHost && env.isIpAddress c.rpcWsHost then
      .ok { c with
        rpcHttpEndpoint := ⟨c.rpcHttpHost, c.rpcHttpPort⟩
        rpcWsEndpoint := ⟨c.rpcWsHost, c.rpcWsPort⟩ }
    else .error (.failed .exited) := by
  unfold setEndpoints getEndpointFrom
  cases env.isIpAddress c.rpcHttpHost <;> cases env.isIpAddress c.rpcWsHost <;> rfl

theorem setEndpoints_acts : ActsOn id (setEndpoints env) := by
  intro c c' h
  rw [setEndpoints_eq] at h
  split_ifs at h
  cases h
  rfl

/-- The settings `validate_config` leaves when it passes. -/
def clampScalars (k : BlocksInResponse) (s : Scalars) : Scalars :=
  { s with maxBlocksInResponse := clamp s.maxBlocksInResponse k.kAbsolutMin k.kAbsolutMax }

/-- A check of `validate_config` that returns false when it fails: a call that returned true
has passed it. -/
theorem ite_false_eq_ok_true {p : Prop} [Decidable p] {c c' : AppConfigurationImpl}
    {rest : Except Failure (Bool × AppConfigurationImpl)}
    (h : (if p then pure (false, c) else rest) = .ok (true, c')) :
    ¬p ∧ rest = .ok (true, c') := by
  split at h
  · cases h
  · exact ⟨‹_›, h⟩

/-- A check that returns when it fails: a call that threw went past it. -/
theorem ite_pure_eq_error {α : Type} {p : Prop} [Decidable p] {a : α} {rest : Except Failure α}
    {f : Failure} (h : (if p then pure a else rest) = .error f) : rest = .error f := by
  split at h
  · cases h
  · exact h

theorem validateConfig_true {k : BlocksInResponse} {c c' : AppConfigurationImpl}
    (h : validateConfig env k c = .ok (true, c')) :
    env.fsExists c.genesisPath = some true ∧ c.basePath ≠ "" ∧
      env.createDirectoryRecursive c.basePath = some true ∧
      c.p2pPort ≠ 0 ∧ c.rpcWsPort ≠ 0 ∧ c.rpcHttpPort ≠ 0 ∧
      c' = { c with
        maxBlocksInResponse := clamp c.maxBlocksInResponse k.kAbsolutMin k.kAbsolutMax } := by
  unfold validateConfig at h
  obtain ⟨g, hg, h⟩ := bind_eq_ok.mp h
  obtain ⟨h₁, h⟩ := ite_false_eq_ok_true h
  obtain ⟨h₂, h⟩ := ite_false_eq_ok_true h
  obtain ⟨b, hb, h⟩ := bind_eq_ok.mp h
  obtain ⟨h₃, h⟩ := ite_false_eq_ok_true h
  obtain ⟨h₄, h⟩ := ite_false_eq_ok_true h
  obtain ⟨h₅, h⟩ := ite_false_eq_ok_true h
  obtain ⟨h₆, h⟩ := ite_false_eq_ok_true h
  cases h
  simp only [Bool.not_eq_true', Bool.not_eq_false] at h₁ h₃
  exact ⟨fsCall_eq_ok.mp (h₁ ▸ hg), fun he => h₂ (he ▸ rfl), fsCall_eq_ok.mp (h₃ ▸ hb), h₄, h₅, h₆,
    rfl⟩

/-- `validate_config` fails only by what the file system throws. -/
theorem validateConfig_error {k : BlocksInResponse} {c : AppConfigurationImpl} {f : Failure}
    (h : validateConfig env k c = .error f) :
    f = .threw "boost::filesystem::filesystem_error" ∧
      (env.fsExists c.genesisPath = none ∨ env.createDirectoryRecursive c.basePath = none) := by
  unfold validateConfig at h
  rcases bind_eq_error.mp h with hg | ⟨g, -, h⟩
  · exact ⟨(fsCall_eq_error.mp hg).2, .inl (fsCall_eq_error.mp hg).1⟩
  rcases bind_eq_error.mp (ite_pure_eq_error (ite_pure_eq_error h)) with hb | ⟨b, -, h⟩
  · exact ⟨(fsCall_eq_error.mp hb).2, .inr (fsCall_eq_error.mp hb).1⟩
  cases ite_pure_eq_error (ite_pure_eq_error (ite_pure_eq_error (ite_pure_eq_error h)))

theorem checkConfig_ok {k : BlocksInResponse} {c c' : AppConfigurationImpl}
    (h : checkConfig env k c = .ok c') :
    env.fsExists c.genesisPath = some true ∧ c.basePath ≠ "" ∧
      env.createDirectoryRecursive c.basePath = some true ∧
      c.p2pPort ≠ 0 ∧ c.rpcWsPort ≠ 0 ∧ c.rpcHttpPort ≠ 0 ∧
      c' = { c with
        maxBlocksInResponse := clamp c.maxBlocksInResponse k.kAbsolutMin k.kAbsolutMax } := by
  unfold checkConfig at h
  obtain ⟨⟨ok, c₁⟩, hv, h⟩ := bind_eq_ok.mp h
  rw [Stop.lift_eq_ok] at hv
  cases ok
  · cases h
  · cases h
    exact validateConfig_true env hv

theorem checkConfig_acts (k : BlocksInResponse) : ActsOn (clampScalars k) (checkConfig env k) := by
  intro c c' h
  obtain ⟨-, -, -, -, -, -, rfl⟩ := checkConfig_ok env h
  rfl

theorem checkConfig_failure {k : BlocksInResponse} {c : AppConfigurationImpl} {f : Failure}
    (h : checkConfig env k c = .error (.failed f)) :
    f = .threw "boost::filesystem::filesystem_error" ∧
      (env.fsExists c.genesisPath = none ∨ env.createDirectoryRecursive c.basePath = none) := by
  unfold checkConfig at h
  rcases bind_eq_error.mp h with hv | ⟨⟨ok, c₁⟩, -, h⟩
  · exact validateConfig_error env (Stop.lift_eq_failed.mp hv)
  · cases ok <;> cases h

/-- The settings after the statements up to the endpoints. -/
def argumentScalars (s : Scalars) : Scalars :=
  let s := fileScalars (fileSegments env vm) s
  { s with
    genesisPath := (vm.get .string "genesis").getD s.genesisPath
    basePath := (vm.get .string "base_path").getD s.basePath
    p2pPort := (vm.get .uint16 "p2p_port").getD s.p2pPort
    verbosity := (cliLevel vm).getD s.verbosity
    rpcHttpHost := (vm.get .string "rpc_http_host").getD s.rpcHttpHost
    rpcWsHost := (vm.get .string "rpc_ws_host").getD s.rpcWsHost
    rpcHttpPort := (vm.get .uint16 "rpc_http_port").getD s.rpcHttpPort
    rpcWsPort := (vm.get .uint16 "rpc_ws_port").getD s.rpcWsPort }

theorem readArguments_acts : ActsOn (argumentScalars env vm) (readArguments env vm) :=
  (checkHelp_acts vm).bind <| (loadConfigFile_acts env vm).bind <| (setPaths_acts vm).bind <|
    (setBootNodes_acts env vm).bind <| (setNodeKey_acts env vm).bind <|
    (setP2pPort_acts vm).bind <| (setListenAddresses_acts env vm).bind <|
    (setMaxBlocksInResponse_acts vm).bind <| (setVerbosity_acts vm).bind <| setRpcAddresses_acts vm

theorem readArguments_noFailure (hpath : vm.get .string "config_file" ≠ some "")
    (hdoc : ∀ document, configDocument env vm = some document → documentReadable document)
    (hmax : vm.find "max_blocks_in_response" = none) : NoFailure (readArguments env vm) :=
  (checkHelp_noFailure vm).bind <| (loadConfigFile_noFailure env vm hpath hdoc).bind <|
    (NoFailure.of_ok fun c => ⟨_, setPaths_eq vm (aggregateFlags vm c)⟩).bind <|
    (setBootNodes_noFailure env vm).bind <| (setNodeKey_noFailure env vm).bind <|
    (NoFailure.of_ok fun c => ⟨_, setP2pPort_eq vm c⟩).bind <|
    (setListenAddresses_noFailure env vm).bind <| (setMaxBlocksInResponse_noFailure vm hmax).bind <|
    (NoFailure.of_ok fun c => ⟨_, setVerbosity_eq vm c⟩).bind <|
    NoFailure.of_ok fun c => ⟨_, setRpcAddresses_eq vm c⟩

end Stages

/-- A run that returns true went through the statements up to the endpoints, the endpoints and
the validation. -/
theorem initializeFromArgs_eq_true {env : Environment} {k : BlocksInResponse} {vm : VariablesMap}
    {c : AppConfigurationImpl} (h : initializeFromArgs env k vm = .ok (true, c)) :
    ∃ c₁ c₂, readArguments env vm (.create k) = .ok c₁ ∧ setEndpoints env c₁ = .ok c₂ ∧
      checkConfig env k c₂ = .ok c := by
  unfold initializeFromArgs at h
  split at h
  · rename_i hrun
    cases h
    obtain ⟨c₂, h₂, h₃⟩ := bind_eq_ok.mp hrun
    obtain ⟨c₁, h₁, h₂⟩ := bind_eq_ok.mp h₂
    exact ⟨c₁, c₂, h₁, h₂, h₃⟩
  · cases h
  · cases h

end Kagome.Application

import Kagome.Application.Priority

/-!
# What a run of `initialize_from_args` that returns true has checked on the command line

The loops over the command line's boot nodes and listening addresses check each address, the
node key is parsed, and `max_blocks_in_response` cannot have been given (`ArgumentsChecked`).
-/

namespace Kagome.Application

section Checks

variable (env : Environment) (vm : VariablesMap)

theorem addBootNodes_requires :
    ∀ addrs, Requires (∀ a ∈ addrs, env.isMultiaddress a ∧ env.hasPeerId a) (addBootNodes env addrs)
  | [], _, _, _ => by simp
  | _ :: addrs, _, _, h => by
    unfold addBootNodes at h
    split_ifs at h with h₁ h₂
    simp only [Bool.not_eq_true', Bool.not_eq_false] at h₁ h₂
    exact List.forall_mem_cons.mpr ⟨⟨h₁, h₂⟩, addBootNodes_requires addrs _ _ h⟩

theorem addListenAddresses_requires :
    ∀ addrs, Requires (∀ a ∈ addrs, env.isMultiaddress a) (addListenAddresses env addrs)
  | [], _, _, _ => by simp
  | _ :: addrs, _, _, h => by
    unfold addListenAddresses at h
    split_ifs at h with h₁
    simp only [Bool.not_eq_true', Bool.not_eq_false] at h₁
    exact List.forall_mem_cons.mpr ⟨h₁, addListenAddresses_requires addrs _ _ h⟩

theorem setNodeKey_requires :
    Requires (∀ key, vm.get .string "node-key" = some key → env.isPrivateKeyHex key)
      (setNodeKey env vm) := by
  intro c c' h key hkey
  rw [setNodeKey_eq, hkey] at h
  dsimp only at h
  split_ifs at h with hk
  exact hk

theorem setMaxBlocksInResponse_requires :
    Requires (vm.find "max_blocks_in_response" = none) (setMaxBlocksInResponse vm) := by
  intro c c' h
  rw [setMaxBlocksInResponse_eq] at h
  split at h
  · assumption
  · cases h

/-- What the command-line statements of `initialize_from_args` have checked when they all end
normally. -/
structure ArgumentsChecked : Prop where
  bootNodes : ∀ a ∈ (vm.get .strings "bootnodes").getD [], env.isMultiaddress a ∧ env.hasPeerId a
  nodeKey : ∀ key, vm.get .string "node-key" = some key → env.isPrivateKeyHex key
  listenAddresses : ∀ a ∈ (vm.get .strings "listen-addr").getD [], env.isMultiaddress a
  maxBlocksNotGiven : vm.find "max_blocks_in_response" = none

theorem readArguments_requires : Requires (ArgumentsChecked env vm) (readArguments env vm) := by
  intro c c' h
  have bootNodes : Requires _ (readArguments env vm) :=
    .bind_right <| .bind_right <| .bind_right <| .bind_left fun c c' h =>
      addBootNodes_requires env _ c c' (setBootNodes_eq env vm c ▸ h)
  have nodeKey : Requires _ (readArguments env vm) :=
    .bind_right <| .bind_right <| .bind_right <| .bind_right <| .bind_left <|
      setNodeKey_requires env vm
  have listenAddresses : Requires _ (readArguments env vm) :=
    .bind_right <| .bind_right <| .bind_right <| .bind_right <| .bind_right <| .bind_right <|
      .bind_left fun c c' h =>
        addListenAddresses_requires env _ c c' (setListenAddresses_eq env vm c ▸ h)
  have maxBlocks : Requires _ (readArguments env vm) :=
    .bind_right <| .bind_right <| .bind_right <| .bind_right <| .bind_right <| .bind_right <|
      .bind_right <| .bind_left <| setMaxBlocksInResponse_requires vm
  exact ⟨bootNodes c c' h, nodeKey c c' h, listenAddresses c c' h, maxBlocks c c' h⟩

end Checks

/-- A run that returns true has checked every boot node, listening address and node key of
the command line, and `max_blocks_in_response` was not given. -/
theorem initializeFromArgs_arguments_checked {env : Environment} {k : BlocksInResponse}
    {vm : VariablesMap} {c : AppConfigurationImpl}
    (h : initializeFromArgs env k vm = .ok (true, c)) : ArgumentsChecked env vm := by
  obtain ⟨c₁, -, h₁, -⟩ := initializeFromArgs_eq_true h
  exact readArguments_requires env vm _ _ h₁

theorem initializeFromArgs_arguments_checked_bootnode :
    let env : Environment := ⟨fun _ => none, fun _ => some true, fun _ => some true,
      fun _ => true, fun _ => true, fun _ => true, fun _ => true⟩
    let k : BlocksInResponse := ⟨1, 128, by decide⟩
    let vm : VariablesMap := ⟨[("bootnodes", ⟨.strings, ["/ip4/127.0.0.1/tcp/30363/p2p/Qm"]⟩),
      ("base_path", ⟨.string, "db"⟩)], by decide⟩
    ∃ c, initializeFromArgs env k vm = .ok (true, c) ∧ ArgumentsChecked env vm := by
  intro env k vm
  have h : initializeFromArgs env k vm = .ok (true, _) := rfl
  exact ⟨_, h, initializeFromArgs_arguments_checked h⟩

end Kagome.Application

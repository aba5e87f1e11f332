/-
# Wormhole.Ethereum.Emitters — whose messages the bridges act on.

Both bridges keep one emitter for each chain and compare a message's emitter with it.  A chain that was
never registered reads zero, so a message of the zero address on such a chain passes
(`emitters_registered_iff`).  `registerChain` of the token bridge does take zero for "not registered".
-/
import Mathlib
import Wormhole.Lib.Failing
import Wormhole.Lib.Transition
import Wormhole.Lib.Mapping
import Wormhole.Ethereum.Verification
import Wormhole.Ethereum.NFTBridge
import Wormhole.Ethereum.Bridge

namespace Wormhole.Ethereum

open Wormhole.Lib.Failing Wormhole.Lib.Transition

/-! ## The check -/

section Check

variable {log : List (Nat × Word)} {vm : VM}

/-- The message's emitter is the one stored for its chain. -/
def Accepts (emitters : Nat → Word) (vm : VM) : Prop :=
  (emitters vm.emitterChainId).val = vm.emitterAddress

instance (emitters : Nat → Word) (vm : VM) : Decidable (Accepts emitters vm) :=
  inferInstanceAs (Decidable (_ = _))

/-- The message's emitter was registered for its chain. -/
def Registered (log : List (Nat × Word)) (vm : VM) : Prop :=
  ∃ emitter : Word, emitter.val = vm.emitterAddress ∧ (vm.emitterChainId, emitter) ∈ log

/-- The message has an emitter, or its chain has some registered one. -/
def Named (log : List (Nat × Word)) (vm : VM) : Prop :=
  vm.emitterAddress ≠ zeroWord.val ∨ ∃ emitter, (vm.emitterChainId, emitter) ∈ log

/-- **The stored emitters against the registered ones.** -/
theorem accepts_registered_iff :
    (Accepts (Lib.Mapping.replay zeroWord log) vm → Registered log vm) ↔ Named log vm := by
  by_cases hlength : vm.emitterAddress.length = 32
  · -- the address is a word
    obtain ⟨emitter, haddress⟩ : ∃ emitter : Word, emitter.val = vm.emitterAddress :=
      ⟨⟨vm.emitterAddress, hlength⟩, rfl⟩
    have haccepts : Accepts (Lib.Mapping.replay zeroWord log) vm ↔
        Lib.Mapping.replay zeroWord log vm.emitterChainId = emitter := by
      rw [Accepts, ← haddress, Subtype.val_inj]
    have hregistered : Registered log vm ↔ (vm.emitterChainId, emitter) ∈ log := by
      constructor
      · rintro ⟨emitter', haddress', hmem⟩
        rwa [← Subtype.ext (haddress'.trans haddress.symm)]
      · intro hmem
        exact ⟨emitter, haddress, hmem⟩
    have hnamed : vm.emitterAddress ≠ zeroWord.val ↔ emitter ≠ zeroWord := by
      rw [← haddress, Ne, Subtype.val_inj]
    rw [haccepts, hregistered, Named, hnamed]
    exact Lib.Mapping.written_of_read_iff log vm.emitterChainId emitter
  · constructor
    · intro _
      left
      intro hzero
      apply hlength
      rw [hzero]
      exact zeroWord.property
    · intro _ haccepts
      have hword := (Lib.Mapping.replay zeroWord log vm.emitterChainId).property
      rw [haccepts] at hword
      exact absurd hword hlength

end Check

/-! ## The token bridge -/

namespace Bridge

variable {ν : Type} {env : Environment ν} {w w' : World ν}

/-- The entry points that act on a message of another bridge. -/
inductive Entry where
  | updateWrapped
  | createWrapped
  | completeTransfer (sender : Address) (unwrapWETH : Bool)

def Entry.run (env : Environment ν) (w : World ν) (vm : VM) (valid : Bool) (reason : String) :
    Entry → Revert (World ν)
  | .updateWrapped => (Bridge.updateWrapped w vm valid reason).map Prod.fst
  | .createWrapped => (Bridge.createWrapped env w vm valid reason).map Prod.fst
  | .completeTransfer sender unwrapWETH =>
    Bridge.completeTransfer env w vm valid reason sender unwrapWETH

/-- What the entry point does behind its checks. -/
def Entry.body (env : Environment ν) (w : World ν) (vm : VM) : Entry → Revert (World ν)
  | .updateWrapped => do
    let meta' ← parseAssetMeta vm.payload
    (updateWrappedDetails w meta' vm.sequence).map Prod.fst
  | .createWrapped => do
    let meta' ← parseAssetMeta vm.payload
    (deployWrapped env w meta' vm.sequence).map Prod.fst
  | .completeTransfer sender unwrapWETH => executeTransfer env w vm sender unwrapWETH

theorem checkBridgeVM_eq (s : State) (vm : VM) (reason : String) :
    checkBridgeVM s vm true reason =
      if Accepts s.bridgeImplementations vm then .ok () else .error "invalid emitter" := by
  have hverify : verifyBridgeVM s vm = true ↔ Accepts s.bridgeImplementations vm := decide_eq_true_iff
  show (if verifyBridgeVM s vm = true then Except.ok () else Except.error "invalid emitter") = _
  simp only [hverify]

/-- **Every entry point checks**, and does the rest exactly when the stored emitter is the message's. -/
theorem Entry.run_eq (entry : Entry) (w : World ν) (vm : VM) (reason : String) :
    entry.run env w vm true reason =
      if Accepts w.bridge.bridgeImplementations vm then entry.body env w vm
      else .error "invalid emitter" := by
  have hcheck := checkBridgeVM_eq w.bridge vm reason
  cases entry with
  | updateWrapped =>
    rw [run, Bridge.updateWrapped, hcheck]
    split
    · rw [ok_bind, map_bind_eq]
      rfl
    · rfl
  | createWrapped =>
    rw [run, Bridge.createWrapped, hcheck]
    split
    · rw [ok_bind, map_bind_eq]
      rfl
    · rfl
  | completeTransfer sender unwrapWETH =>
    rw [run, Bridge.completeTransfer, hcheck]
    split
    · rw [ok_bind]
      rfl
    · rfl

end Bridge

/-! ## The NFT bridge -/

namespace NFTBridge

variable {ν : Type} {env : Environment ν} {w w' : World ν}

/-- The emitter that a transaction registers. -/
def registered (_ : World ν) : Input ν → List (Nat × Word)
  | .registerChain vm _ _ =>
    match parseRegisterChain vm.payload with
    | .ok chain => [(chain.emitterChainID, chain.emitterAddress)]
    | .error _ => []
  | _ => []

/-- The worlds some run leads to from a bridge that was just set up, with the emitters registered on the
way. -/
def ReachableWith (env : Environment ν) (w : World ν) (log : List (Nat × Word)) : Prop :=
  ∃ w₀, Fresh w₀ ∧ w₀.bridge.bridgeImplementations = (fun _ => zeroWord) ∧
    Run (logging (step env) registered) (fun _ _ => True) (w₀, []) (w, log)

/-- The stored emitters are unchanged. -/
def SameEmitters (w w' : World ν) : Prop :=
  w'.bridge.bridgeImplementations = w.bridge.bridgeImplementations

theorem SameEmitters.callSafeTransferFrom {token source recipient : Address} {tokenID : Word}
    {received : Revert Unit}
    (h : NFTBridge.callSafeTransferFrom env w token source recipient tokenID received = .ok w') :
    SameEmitters w w' := by
  rcases callSafeTransferFrom_eq_ok h with ⟨nft, nft', -, -, rfl⟩ | ⟨-, e, -, rfl⟩ <;> rfl

theorem SameEmitters.transferNFT {sender token : Address} {tokenID recipient : Word}
    {recipientChain nonce value sequence : Nat}
    (h : NFTBridge.transferNFT env w sender token tokenID recipientChain recipient nonce value =
      .ok (w', sequence)) : SameEmitters w w' := by
  simp only [NFTBridge.transferNFT, bind_eq_ok] at h
  obtain ⟨⟨tokenChain, tokenAddress, symbol, name, uri⟩, -, w₂, hmove, hlog⟩ := h
  obtain ⟨e, rfl⟩ := logTransfer_eq_ok hlog
  -- clearing the cache, moving the token, publishing
  generalize hw₁ : (if tokenChain = 1 then { w with bridge := clearSplCache w.bridge tokenID } else w) = w₁
    at hmove
  have hcache : SameEmitters w w₁ := by
    rw [← hw₁]
    split <;> rfl
  have hmoved : SameEmitters w₁ w₂ := by
    unfold takeToken at hmove
    split at hmove
    · exact callSafeTransferFrom hmove
    · obtain ⟨nft, nft', -, -, rfl⟩ := burnWrapped_eq_ok hmove
      rfl
  exact Eq.trans hmoved hcache

theorem SameEmitters.completeTransfer {vm : VM} {valid : Bool} {reason : String}
    {received : Revert Unit}
    (h : NFTBridge.completeTransfer env w vm valid reason received = .ok w') : SameEmitters w w' := by
  simp only [NFTBridge.completeTransfer, bind_eq_ok] at h
  obtain ⟨_, -, _, -, transfer, -, _, -, _, -, h⟩ := h
  split at h
  · have hmoved := callSafeTransferFrom h
    exact hmoved
  · simp only [mintWrapped, bind_eq_ok] at h
    obtain ⟨⟨w₁, wrapped⟩, hasset, nft, -, nft', -, heq⟩ := h
    have hcreated : SameEmitters w w₁ := by
      unfold wrappedAssetOf at hasset
      split at hasset
      · simp only [createWrapped, bind_eq_ok] at hasset
        obtain ⟨_, -, _, -, nft₀, -, _, -, hasset⟩ := hasset
        obtain ⟨rfl, -⟩ := Prod.mk.inj (Except.ok.inj hasset)
        rfl
      · obtain ⟨rfl, -⟩ := Prod.mk.inj (Except.ok.inj hasset)
        rfl
    rw [← Except.ok.inj heq]
    refine Eq.trans ?_ hcreated
    simp only [World.setNft]
    split <;> rfl

/-- The stored emitters are the registered ones, the last for each chain. -/
theorem ReachableWith.recorded {log : List (Nat × Word)} (h : ReachableWith env w log) :
    w.bridge.bridgeImplementations = Lib.Mapping.replay zeroWord log := by
  obtain ⟨w₀, -, hzero, hrun⟩ := h
  refine hrun.invariant (I := fun s => s.1.bridge.bridgeImplementations =
    Lib.Mapping.replay zeroWord s.2) ?_ hzero
  rintro ⟨w, log⟩ input ⟨w', log'⟩ h - hstep
  rw [logging_eq_some] at hstep
  obtain ⟨hstep, hlog⟩ := hstep
  dsimp only at h hstep hlog
  subst hlog
  show w'.bridge.bridgeImplementations = Lib.Mapping.replay zeroWord (log ++ registered w input)
  cases input with
  | registerChain vm valid reason =>
    obtain ⟨bridge, hregister, rfl⟩ := map_toOption_eq_some hstep
    simp only [registerChain, bind_eq_ok] at hregister
    obtain ⟨_, -, chain, hparse, _, -, heq⟩ := hregister
    rw [← Except.ok.inj heq, registered, hparse, Lib.Mapping.replay_concat]
    exact congrArg (Function.update · _ _) h
  | transferNFT sender token tokenID recipientChain recipient nonce value =>
    obtain ⟨⟨w₁, sequence⟩, htransfer, rfl⟩ := map_toOption_eq_some hstep
    have hsame := SameEmitters.transferNFT htransfer
    exact (Eq.trans hsame h).trans (congrArg _ (List.append_nil log).symm)
  | completeTransfer vm valid reason received =>
    have hsame := SameEmitters.completeTransfer (toOption_eq_some hstep)
    exact (Eq.trans hsame h).trans (congrArg _ (List.append_nil log).symm)
  | nft sender token call =>
    simp only [step] at hstep
    split at hstep
    · cases hstep
    · obtain ⟨nft, -, hnft⟩ := bind_eq_ok.mp (toOption_eq_some hstep)
      obtain ⟨nft', -, rfl⟩ := map_eq_ok.mp hnft
      exact h.trans (congrArg _ (List.append_nil log).symm)
  | rest e =>
    rw [← Option.some.inj hstep]
    exact h.trans (congrArg _ (List.append_nil log).symm)

/-- What `completeTransfer` does behind its checks. -/
def executeTransfer (env : Environment ν) (w : World ν) (vm : VM) (received : Revert Unit) :
    Revert (World ν) := do
  let transfer ← parseTransfer vm.payload
  require (w.bridge.completedTransfers vm.hash = false) "transfer already completed"
  let w := { w with bridge := setTransferCompleted w.bridge vm.hash }
  require (transfer.toChain = w.bridge.chainId) "invalid target chain"
  if transfer.tokenChain = w.bridge.chainId then
    callSafeTransferFrom env w transfer.tokenAddress.toAddress w.bridge.self
      transfer.recipient.toAddress transfer.tokenID received
  else mintWrapped env w transfer

/-- **The entry point checks.** -/
theorem completeTransfer_eq (w : World ν) (vm : VM) (reason : String) (received : Revert Unit) :
    completeTransfer env w vm true reason received =
      if Accepts w.bridge.bridgeImplementations vm then executeTransfer env w vm received
      else .error "invalid emitter" := by
  by_cases haccepts : Accepts w.bridge.bridgeImplementations vm
  · have hemitter : require ((w.bridge.bridgeImplementations vm.emitterChainId).val = vm.emitterAddress)
        "invalid emitter" = .ok () := require_true haccepts _
    rw [if_pos haccepts, completeTransfer, require_true rfl, ok_bind, hemitter, ok_bind]
    rfl
  · have hemitter : require ((w.bridge.bridgeImplementations vm.emitterChainId).val = vm.emitterAddress)
        "invalid emitter" = .error "invalid emitter" := if_neg haccepts
    rw [if_neg haccepts, completeTransfer, require_true rfl, ok_bind, hemitter]
    rfl

end NFTBridge

/-! ## Both bridges -/

/-- **Registered emitters.** In every state that a run of the token bridge or of the NFT bridge reaches,
and for every valid message: an entry point proceeds exactly when the stored emitter is the message's;
and that it proceeds only for a registered emitter holds exactly when the message's emitter is not zero
or its chain has a registered one. -/
theorem emitters_registered_iff (vm : VM) :
    (∀ {ν : Type} {env : Bridge.Environment ν} {w : Bridge.World ν} {log : Bridge.Registrations},
      Bridge.Reachable env w log →
      (∀ (entry : Bridge.Entry) (reason : String), entry.run env w vm true reason =
        if Accepts w.bridge.bridgeImplementations vm then entry.body env w vm
        else .error "invalid emitter") ∧
      ((Accepts w.bridge.bridgeImplementations vm → Registered log vm) ↔ Named log vm)) ∧
    (∀ {ν : Type} {env : NFTBridge.Environment ν} {w : NFTBridge.World ν} {log : List (Nat × Word)},
      NFTBridge.ReachableWith env w log →
      (∀ (reason : String) (received : Revert Unit),
        NFTBridge.completeTransfer env w vm true reason received =
          if Accepts w.bridge.bridgeImplementations vm then NFTBridge.executeTransfer env w vm received
          else .error "invalid emitter") ∧
      ((Accepts w.bridge.bridgeImplementations vm → Registered log vm) ↔ Named log vm)) := by
  constructor
  · intro ν env w log hreach
    refine ⟨fun entry reason => entry.run_eq w vm reason, ?_⟩
    rw [hreach.recorded]
    exact accepts_registered_iff
  · intro ν env w log hreach
    refine ⟨NFTBridge.completeTransfer_eq w vm, ?_⟩
    rw [hreach.recorded]
    exact accepts_registered_iff

/-! ## Inputs -/

theorem sampleCreated_length : (List.replicate 20 (0xcc : UInt8)).length = 20 := rfl

/-- A chain on which there is nothing but the bridge. -/
def sampleBridgeEnvironment : Bridge.Environment Unit where
  hasCode := fun _ _ => false
  decimals := fun _ _ => .error ""
  symbol := fun _ _ => .error ""
  name := fun _ _ => .error ""
  balanceOf := fun _ _ _ => .error ""
  safeTransferFrom := fun _ _ _ _ _ => .error ""
  safeTransfer := fun _ _ _ _ => .error ""
  messageFee := fun _ => .ok 0
  deposit := fun _ _ => .ok ()
  withdraw := fun _ _ => .error ""
  sendEther := fun _ _ _ => .ok ()
  publishMessage := fun _ _ _ _ _ => .ok (0, ())
  create2 := fun _ _ _ _ _ _ => ⟨List.replicate 20 0xcc, sampleCreated_length⟩
  memory := zeroWord

theorem sampleBridgeSelf_length : (List.replicate 20 (0xbb : UInt8)).length = 20 := rfl

theorem sampleBridgeGovernance_length : (List.replicate 32 (0x04 : UInt8)).length = 32 := rfl

theorem sampleBridgeWETH_length : (List.replicate 20 (0xee : UInt8)).length = 20 := rfl

/-- The token bridge of chain 4, as deployed. -/
def sampleBridgeWorld : Bridge.World Unit where
  bridge := {
    self := ⟨List.replicate 20 0xbb, sampleBridgeSelf_length⟩
    chainId := 4
    governanceChainId := 1
    governanceContract := ⟨List.replicate 32 0x04, sampleBridgeGovernance_length⟩
    WETH := ⟨List.replicate 20 0xee, sampleBridgeWETH_length⟩
    consumedGovernanceActions := fun _ => false
    completedTransfers := fun _ => false
    wrappedAssets := fun _ _ => zeroAddress
    isWrappedAsset := fun _ => false
    outstandingBridged := fun _ => 0
    bridgeImplementations := fun _ => zeroWord }
  tokens := fun _ => none
  env := ()

theorem sampleBridgeWorld_reachable :
    Bridge.Reachable sampleBridgeEnvironment sampleBridgeWorld [] :=
  ⟨sampleBridgeWorld, ⟨rfl, fun _ => rfl, fun _ _ => rfl, fun _ => rfl, fun _ => rfl⟩,
    Relation.ReflTransGen.refl⟩

/-- The NFT bridge after governance registered the emitter of chain 4. -/
def registeredWorld : NFTBridge.World Unit × List (Nat × Word) :=
  attempts (logging (NFTBridge.step NFTBridge.sampleEnvironment) NFTBridge.registered)
    (NFTBridge.freshWorld, []) [.registerChain NFTBridge.registerVM true ""]

theorem registeredWorld_accepts :
    NFTBridge.ReachableWith NFTBridge.sampleEnvironment registeredWorld.1 registeredWorld.2 ∧
    Registered registeredWorld.2 NFTBridge.transferVM := by
  have hreach : NFTBridge.ReachableWith NFTBridge.sampleEnvironment registeredWorld.1
      registeredWorld.2 :=
    ⟨NFTBridge.freshWorld, ⟨fun _ => rfl, fun _ => rfl⟩, rfl,
      run_attempts (P := fun _ => True) _ _ fun _ _ => trivial⟩
  have haccepts : Accepts registeredWorld.1.bridge.bridgeImplementations NFTBridge.transferVM := by
    decide +kernel
  have hnamed : Named registeredWorld.2 NFTBridge.transferVM := .inl (by decide)
  exact ⟨hreach, ((emitters_registered_iff NFTBridge.transferVM).2 hreach).2.mpr hnamed haccepts⟩

/-- The details of a token of chain 2. -/
def sampleAssetMeta : List UInt8 :=
  Bridge.encodeAssetMeta {
    tokenAddress := ⟨List.replicate 32 0x09, rfl⟩, tokenChain := 2, decimals := 8,
    symbol := zeroWord, name := zeroWord }

/-- **The zero address of an unregistered chain.** Nothing was registered at this bridge; the guardians
have signed a message of the zero address on chain 2, and `createWrapped` deploys a token for it. -/
theorem zeroEmitter_accepted : ∃ vm created,
    parseAndVerifyVM sampleKeccak sampleEcrecover sampleState 5
      (sampleEncodedVM zeroWord sampleAssetMeta) = .ok (vm, true, "") ∧
    vm.emitterChainId = 2 ∧ vm.emitterAddress = zeroWord.val ∧
    Bridge.Reachable sampleBridgeEnvironment sampleBridgeWorld [] ∧ ¬Registered [] vm ∧
    Bridge.createWrapped sampleBridgeEnvironment sampleBridgeWorld vm true "" = .ok created ∧
    created.1.bridge.isWrappedAsset created.2 = true := by
  have hrun : ((parseAndVerifyVM sampleKeccak sampleEcrecover sampleState 5
      (sampleEncodedVM zeroWord sampleAssetMeta)).toOption.map fun result =>
        (result.1.emitterChainId, result.1.emitterAddress, result.2,
          (Bridge.createWrapped sampleBridgeEnvironment sampleBridgeWorld result.1 true "").toOption.map
            fun created => created.1.bridge.isWrappedAsset created.2)) =
      some (2, zeroWord.val, (true, ""), some true) := by
    decide +kernel
  cases h : parseAndVerifyVM sampleKeccak sampleEcrecover sampleState 5
      (sampleEncodedVM zeroWord sampleAssetMeta) with
  | error reason =>
    rw [h] at hrun
    cases hrun
  | ok result =>
    obtain ⟨vm, valid, reason⟩ := result
    rw [h] at hrun
    simp only [Except.toOption, Option.map_some, Option.some.injEq, Prod.mk.injEq] at hrun
    obtain ⟨hchain, haddress, ⟨rfl, rfl⟩, hcreate⟩ := hrun
    obtain ⟨created, hcreated, hwrapped⟩ := Option.map_eq_some_iff.mp hcreate
    refine ⟨vm, created, rfl, hchain, haddress, sampleBridgeWorld_reachable, ?_,
      toOption_eq_some hcreated, hwrapped⟩
    rintro ⟨emitter, -, hmem⟩
    cases hmem

end Wormhole.Ethereum

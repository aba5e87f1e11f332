/-
# Wormhole.Alephium.Callers — who consumes and publishes transfers.

`TokenBridgeForChain.parseTransfer` and `TokenBridge.publishTransfer` recognise a `TokenWrapper` by the
hash of its code.  The fields of a contract are chosen by whoever deploys it: a look-alike that names
a `TokenBridgeForChain` consumes its transfer VAAs and pays them in a token of its own, and one that names
the `TokenBridge` publishes transfers of tokens it has never taken.  In the runs in which nobody deploys
such a look-alike, or has the factory create one, the callers are what they seem (`callers_genuine`).
-/
import Mathlib
import Wormhole.Lib.Transition
import Wormhole.Alephium.Vm
import Wormhole.Alephium.Governance
import Wormhole.Alephium.TokenBridge
import Wormhole.Alephium.World
import Wormhole.Alephium.Wrapper
import Wormhole.Alephium.Publication

namespace Wormhole.Alephium

open Wormhole.Lib Wormhole.Lib.Transition Wormhole.Alephium.Vm
open Wormhole.Alephium.Governance (Body Crypto WormholeMessage)

/-! ## The condition -/

/-- **The condition.** No look-alikes: what is deployed with the code of a `TokenWrapper` names neither
the `TokenBridge` nor a contract that is, or could become, a `TokenBridgeForChain`; what is deployed with
the code of a `TokenBridgeForChain`, and what other contracts have the factory create, does not name the
`TokenBridge`. -/
structure Genuine (w : World) (tx : Tx) : Prop where
  wrapper : ∀ s new, tx.call = .deploy (.tokenWrapper s) new →
    s.tokenBridgeId ≠ w.tokenBridgeId.val ∧ ∀ bridge : ContractId,
      s.tokenBridgeForChainId = bridge.val → w.contracts bridge ≠ none ∧ w.bridgeAt bridge = none
  endpoint : ∀ s new, tx.call = .deploy (.tokenBridgeForChain s) new →
    s.localTokenBridgeId ≠ w.tokenBridgeId.val
  factory : ∀ caller tokenBridgeId localChainId remoteChainId tokenContractId isLocalToken token new,
    tx.call = .createWrapper caller tokenBridgeId localChainId remoteChainId tokenContractId isLocalToken
      token new → tokenBridgeId ≠ w.tokenBridgeId.val

/-! ## New contracts -/

/-- Where a contract that was not there before the call comes from. -/
inductive NewContract (w : World) (tx : Tx) (w' : World) (id : ContractId) : Contract → Prop where
  | registered (b : TokenBridgeForChain.State) (hregistered : w'.Registered id) :
      NewContract w tx w' id (.tokenBridgeForChain b)
  | wrapped (bridge : ContractId) (b : TokenBridgeForChain.State) (s : TokenWrapper.State)
      (hb : w.bridgeAt bridge = some b) (hself : s.tokenBridgeForChainId = bridge.val)
      (hbridge : s.tokenBridgeId = b.localTokenBridgeId) (hwrapped : w'.Wrapped id) :
      NewContract w tx w' id (.tokenWrapper s)
  | factory (caller : ContractId) (s : TokenWrapper.State) (localChainId remoteChainId : Nat)
      (tokenContractId : ByteVec) (isLocalToken : Bool) (token : TokenInfo)
      (hcall : tx.call = .createWrapper caller s.tokenBridgeId localChainId remoteChainId tokenContractId
        isLocalToken token id)
      (hwrapped : w'.Wrapped id) : NewContract w tx w' id (.tokenWrapper s)
  | deployed (c : Contract) (hcall : tx.call = .deploy c id) : NewContract w tx w' id c

section Step

variable {crypto : Crypto} {distance : Nat} {w w' : World}

theorem World.wrapped_record (w : World) (id : ContractId) :
    (w.record (.tokenWrapperCreated id)).Wrapped id := by simp [World.Wrapped]

theorem World.registered_record (w : World) (id : ContractId) :
    (w.record (.tokenBridgeForChainCreated id)).Registered id := by simp [World.Registered]

/-- A contract written at another id was there before. -/
theorem World.eq_of_set {new id : ContractId} {c c' : Contract} (hnone : w.contracts id = none)
    (h : (w.set new c).contracts id = some c') : id = new ∧ c = c' := by
  by_cases hid : id = new
  · subst hid
    rw [World.set_contracts_self] at h
    exact ⟨rfl, Option.some.inj h⟩
  · rw [World.set_contracts_of_ne hid, hnone] at h
    cases h

/-- **What is new.** -/
theorem step_newContract {tx : Tx} (h : step crypto distance w tx = some w') {id : ContractId}
    {c : Contract} (hnone : w.contracts id = none) (hc : w'.contracts id = some c) :
    NewContract w tx w' id c := by
  -- most calls create nothing
  have hsame : w'.contracts = w.contracts → NewContract w tx w' id c := by
    intro hcontracts
    rw [hcontracts, hnone] at hc
    cases hc
  obtain ⟨now, call⟩ := tx
  cases call with
  | updateGuardianSet | setMessageFee | submitTransferFee | publishMessage | attestToken =>
    simp only [step, Option.bind_eq_bind, Option.bind_eq_some_iff, Option.pure_def, Option.some_inj] at h
    obtain ⟨_, -, rfl⟩ := h
    exact hsame rfl
  | transfer =>
    simp only [step, transfer, Option.bind_eq_bind, Option.bind_eq_some_iff, Option.pure_def,
      Option.some_inj] at h
    obtain ⟨_, -, _, -, _, -, _, -, rfl⟩ := h
    exact hsame rfl
  | registerChain vaa new =>
    simp only [step, registerChain, Option.bind_eq_bind, Option.bind_eq_some_iff, Option.pure_def,
      Option.some_inj] at h
    obtain ⟨_, -, ⟨tokenBridge, b⟩, -, _, -, rfl⟩ := h
    obtain ⟨rfl, rfl⟩ := World.eq_of_set (w := { w with tokenBridge }) hnone hc
    exact .registered b (World.registered_record _ _)
  | createWrapperForLocalToken bridge tokenId token new =>
    simp only [step, createWrapperForLocalToken, TokenBridgeForChain.createWrapperForLocalToken,
      Option.bind_eq_bind, Option.bind_eq_some_iff, addWrapper_eq_some] at h
    obtain ⟨b, hb, s, ⟨_, -, hs⟩, -, rfl⟩ := h
    obtain ⟨hself, hbridge, -⟩ := createWrapper_eq_some hs
    obtain ⟨rfl, rfl⟩ := World.eq_of_set hnone hc
    exact .wrapped bridge b s hb hself hbridge (World.wrapped_record _ _)
  | createWrapperForRemoteToken bridge vaa answer new =>
    simp only [step, createWrapperForRemoteToken, TokenBridgeForChain.createWrapperForRemoteToken,
      Option.bind_eq_bind, Option.bind_eq_some_iff, addWrapper_eq_some, Option.pure_def,
      Option.some_inj] at h
    obtain ⟨b, hb, msg, -, _, ⟨⟨b', tokenId, token⟩, hattest, s, hs, rfl⟩, -, rfl⟩ := h
    obtain ⟨hverify, -⟩ := parseAttestToken_eq_some hattest
    obtain ⟨-, -, ⟨replay, -, rfl⟩, -⟩ := verifyVAA_eq_some.mp hverify
    obtain ⟨hself, hbridge, -⟩ := createWrapper_eq_some hs
    have hother : (w.set bridge (.tokenBridgeForChain { b with replay })).contracts id = none := by
      have hid : id ≠ bridge := by
        rintro rfl
        rw [World.bridgeAt_eq_some, hnone] at hb
        cases hb
      rw [World.set_contracts_of_ne hid, hnone]
    obtain ⟨rfl, rfl⟩ := World.eq_of_set hother hc
    exact .wrapped bridge b s hb hself hbridge (World.wrapped_record _ _)
  | createWrapper caller tokenBridgeId localChainId remoteChainId tokenContractId isLocalToken token
      new =>
    simp only [step, createWrapper, Option.bind_eq_bind, Option.bind_eq_some_iff, addWrapper_eq_some] at h
    obtain ⟨_, -, s, hs, -, rfl⟩ := h
    obtain ⟨-, rfl, -⟩ := createWrapper_eq_some hs
    obtain ⟨rfl, rfl⟩ := World.eq_of_set hnone hc
    exact .factory caller s localChainId remoteChainId tokenContractId isLocalToken token rfl
      (World.wrapped_record _ _)
  | completeTransfer wrapper vaa answer =>
    simp only [step, completeTransfer, Option.bind_eq_bind, Option.bind_eq_some_iff, Option.pure_def,
      Option.some_inj] at h
    obtain ⟨_, -, bridge, -, b, hb, _, -, _, -, _, -, rfl⟩ := h
    obtain ⟨rfl, -⟩ := World.eq_of_set hnone hc
    rw [World.bridgeAt_eq_some, hnone] at hb
    cases hb
  | deploy c' new =>
    simp only [step, Option.bind_eq_bind, Option.bind_eq_some_iff, Option.pure_def, Option.some_inj] at h
    obtain ⟨_, -, rfl⟩ := h
    obtain ⟨rfl, rfl⟩ := World.eq_of_set hnone hc
    exact .deployed c' rfl

/-- A wrapper has been there before, as it is, or is new. -/
theorem Effect.wrapperAt_or_none {tx : Tx} (h : Effect crypto distance w tx w') {id : ContractId}
    {s : TokenWrapper.State} (hs : w'.wrapperAt id = some s) :
    w.wrapperAt id = some s ∨ w.contracts id = none := by
  cases hc : w.contracts id with
  | none => exact .inr rfl
  | some c =>
    rw [World.wrapperAt_eq_some] at hs
    cases c with
    | tokenBridgeForChain b =>
      obtain ⟨replay, hb⟩ := h.bridgeAt (World.bridgeAt_eq_some.mpr hc)
      rw [World.bridgeAt_eq_some, hs] at hb
      cases hb
    | deployed | tokenWrapper | other =>
      have hsame := h.contracts hc (by simp)
      rw [hs] at hsame
      exact .inl (by rw [World.wrapperAt_eq_some, hc, hsame])

end Step

/-! ## The invariant -/

/-- **Who serves whom.** A wrapper that names a `TokenBridgeForChain`, or an id that is still free, is one
of the factory; one that names the `TokenBridge` was created for a registered `TokenBridgeForChain`. -/
structure Served (w : World) : Prop where
  consumes : ∀ id s (bridge : ContractId), w.wrapperAt id = some s →
    s.tokenBridgeForChainId = bridge.val → (w.bridgeAt bridge).isSome ∨ w.contracts bridge = none →
    w.Wrapped id
  publishes : ∀ id s, w.wrapperAt id = some s → s.tokenBridgeId = w.tokenBridgeId.val →
    w.Wrapped id ∧ ∃ bridge : ContractId, s.tokenBridgeForChainId = bridge.val ∧ w.Registered bridge
  endpoints : ∀ id b, w.bridgeAt id = some b → b.localTokenBridgeId = w.tokenBridgeId.val →
    w.Registered id

namespace Served

variable {crypto : Crypto} {distance : Nat} {w w' : World} {tx : Tx}

theorem of_fresh (h : w.Fresh) : Served w := by
  have hwrapper : ∀ id s, w.wrapperAt id ≠ some s := by
    intro id s hs
    rw [World.wrapperAt_eq_some] at hs
    rcases h.contracts id with hc | hc | hc <;> rw [hc] at hs <;> cases hs
  have hbridge : ∀ id b, w.bridgeAt id ≠ some b := by
    intro id b hb
    rw [World.bridgeAt_eq_some] at hb
    rcases h.contracts id with hc | hc | hc <;> rw [hc] at hb <;> cases hb
  exact ⟨fun id s _ hs => absurd hs (hwrapper id s), fun id s hs => absurd hs (hwrapper id s),
    fun id b hb => absurd hb (hbridge id b)⟩

/-- **Step.** -/
theorem step (h : Served w) (hok : Genuine w tx) (hstep : Alephium.step crypto distance w tx = some w') :
    Served w' := by
  have heffect := step_effect hstep
  refine ⟨?_, ?_, ?_⟩
  · intro id s bridge hs hbridge hnamed
    -- what is a bridge or free afterwards was so before
    have hnamed' : (w.bridgeAt bridge).isSome ∨ w.contracts bridge = none := by
      rcases hnamed with hsome | hnone
      · exact heffect.isSome_bridgeAt hsome
      · by_contra hne
        exact heffect.contracts_ne_none (fun hfree => hne (.inr hfree)) hnone
    rcases heffect.wrapperAt_or_none hs with hold | hnone
    · exact heffect.wrapped_mono (h.consumes id s bridge hold hbridge hnamed')
    · cases step_newContract hstep hnone (World.wrapperAt_eq_some.mp hs) with
      | wrapped _ _ _ _ _ _ hwrapped => exact hwrapped
      | factory _ _ _ _ _ _ _ _ hwrapped => exact hwrapped
      | deployed _ hcall =>
        obtain ⟨hne, hother⟩ := (hok.wrapper s id hcall).2 bridge hbridge
        rcases hnamed' with hsome | hfree
        · rw [hother] at hsome
          cases hsome
        · exact absurd hfree hne
  · intro id s hs htokenBridge
    rw [heffect.tokenBridgeId] at htokenBridge
    rcases heffect.wrapperAt_or_none hs with hold | hnone
    · obtain ⟨hwrapped, bridge, hbridge, hregistered⟩ := h.publishes id s hold htokenBridge
      exact ⟨heffect.wrapped_mono hwrapped, bridge, hbridge, heffect.registered_mono hregistered⟩
    · cases step_newContract hstep hnone (World.wrapperAt_eq_some.mp hs) with
      | wrapped bridge b _ hb hself hbridge hwrapped =>
        have hregistered := h.endpoints bridge b hb (hbridge.symm.trans htokenBridge)
        exact ⟨hwrapped, bridge, hself, heffect.registered_mono hregistered⟩
      | factory _ _ _ _ _ _ _ hcall =>
        exact absurd htokenBridge (hok.factory _ _ _ _ _ _ _ _ hcall)
      | deployed _ hcall => exact absurd htokenBridge (hok.wrapper s id hcall).1
  · intro id b hb hlocal
    rw [heffect.tokenBridgeId] at hlocal
    rcases heffect.isSome_bridgeAt (by rw [hb]; rfl) with hsome | hnone
    · obtain ⟨b₀, hb₀⟩ := Option.isSome_iff_exists.mp hsome
      obtain ⟨replay, hb'⟩ := heffect.bridgeAt hb₀
      obtain rfl : b = { b₀ with replay } := Option.some.inj (hb.symm.trans hb')
      exact heffect.registered_mono (h.endpoints id b₀ hb₀ hlocal)
    · cases step_newContract hstep hnone (World.bridgeAt_eq_some.mp hb) with
      | registered _ hregistered => exact hregistered
      | deployed _ hcall => exact absurd hlocal (hok.endpoint b id hcall)

end Served

/-! ## Every run -/

/-- The wrapper was created for the `TokenBridgeForChain` that has consumed the transfer, and stands for
the token the transfer names. -/
def ConsumedBy (distance : Nat) (w w' : World) (wrapper : ContractId) : Prop :=
  ∃ bridge b b' msg transfer s, w.bridgeAt bridge = some b ∧
    TokenBridgeForChain.parseTransfer distance b msg = some (b', transfer) ∧
    w' = (w.set bridge (.tokenBridgeForChain b')).record (.completed bridge msg) ∧
    w.WrapperOf wrapper bridge transfer.tokenId ∧ w.wrapperAt wrapper = some s ∧
    TokenWrapper.getTokenChainId s = transfer.tokenChainId

/-- The wrapper was created for a registered `TokenBridgeForChain`. -/
def PublishedBy (w : World) (wrapper : ContractId) : Prop :=
  ∃ (bridge : ContractId) (tokenId : ByteVec), w.WrapperOf wrapper bridge tokenId ∧ w.Registered bridge

/-- **Callers are genuine.** In every run from a fresh world, of any calls by anybody, in which nobody
creates a look-alike, whatever is called next: when `parseTransfer` consumes a transfer, its caller is
a wrapper that this `TokenBridgeForChain` had created for the token the transfer names; when
`publishTransfer` publishes one, its caller is a wrapper created for a registered
`TokenBridgeForChain`. -/
theorem callers_genuine {crypto : Crypto} {distance : Nat} {w₀ w w' : World} (hfresh : w₀.Fresh)
    (hrun : Run (step crypto distance) Genuine w₀ w) {tx : Tx} (h : step crypto distance w tx = some w') :
    (∀ wrapper vaa answer, tx.call = .completeTransfer wrapper vaa answer →
      ConsumedBy distance w w' wrapper) ∧
    ∀ wrapper toAddress amount arbiterFee nonce consistencyLevel,
      tx.call = .transfer wrapper toAddress amount arbiterFee nonce consistencyLevel →
      PublishedBy w wrapper := by
  have hserved : Served w :=
    hrun.invariant (fun _ _ _ h hok hstep => h.step hok hstep) (.of_fresh hfresh)
  obtain ⟨now, call⟩ := tx
  refine ⟨?_, ?_⟩
  · rintro wrapper vaa answer rfl
    simp only [step, completeTransfer, Option.bind_eq_bind, Option.bind_eq_some_iff, Option.pure_def,
      Option.some_inj] at h
    obtain ⟨s, hs, bridge, hbridge, b, hb, msg, -, ⟨b', transfer⟩, hparse, _, hpaid, rfl⟩ := h
    rw [contractId?_eq_some] at hbridge
    have hwrapped := hserved.consumes wrapper s bridge hs hbridge.symm (.inl (by rw [hb]; rfl))
    simp only [TokenWrapper.completeTransfer, Option.bind_eq_bind, Option.bind_eq_some_iff,
      assert_eq_some] at hpaid
    obtain ⟨_, htoken, _, hchain, -⟩ := hpaid
    exact ⟨bridge, b, b', msg, transfer, s, hb, hparse, rfl,
      ⟨hwrapped, s, hs, hbridge.symm, htoken.symm⟩, hs, hchain.symm⟩
  · rintro wrapper toAddress amount arbiterFee nonce consistencyLevel rfl
    simp only [step, transfer, Option.bind_eq_bind, Option.bind_eq_some_iff, assert_eq_some,
      Option.pure_def, Option.some_inj] at h
    obtain ⟨s, hs, _, -, _, htokenBridge, -⟩ := h
    obtain ⟨hwrapped, bridge, hbridge, hregistered⟩ := hserved.publishes wrapper s hs htokenBridge
    exact ⟨bridge, s.tokenContractId, ⟨hwrapped, s, hs, hbridge, rfl⟩, hregistered⟩

/-! ## Inputs -/

/-- Chain 2 is registered and the local token 0xc1.. has a wrapper for it. -/
def wrappedToken : List Call :=
  [.registerChain (registerVaa 0 2) (sampleId 0xb1),
    .createWrapperForLocalToken (sampleId 0xb1) (sampleId 0xc1).val sampleToken (sampleId 0xd1)]

/-- A user redeems the first transfer of chain 2 through a wrapper. -/
def redeem (wrapper : ContractId) : Call :=
  .completeTransfer wrapper (transferVaa 0 2 (sampleId 0xc1)) none

/-- A user sends a transfer through a wrapper. -/
def send (wrapper : ContractId) : Call :=
  .transfer wrapper (List.replicate 32 0x06) 5 0 (List.replicate 4 0x00) 0

/-- A contract with the code of a wrapper that pays, and takes, the token it has issued itself. -/
def lookAlike : TokenWrapper.State where
  tokenBridgeId := (sampleId 0xa1).val
  tokenBridgeForChainId := (sampleId 0xb1).val
  localChainId := 13
  remoteChainId := 13
  tokenContractId := (sampleId 0xc1).val
  isLocalToken := false
  tokenDecimals := 8
  symbol := List.replicate 32 0x53
  name := List.replicate 32 0x54

/-- The wrapper of the factory redeems and sends. -/
theorem wrappedToken_genuine :
    (∃ w', step Governance.Crypto.sample 64 (worldAfter wrappedToken) ⟨5, redeem (sampleId 0xd1)⟩
        = some w' ∧ ConsumedBy 64 (worldAfter wrappedToken) w' (sampleId 0xd1)) ∧
    PublishedBy (worldAfter wrappedToken) (sampleId 0xd1) := by
  have hok : ∀ w call, (∀ c new, call ≠ .deploy c new) →
      (∀ a b c d e f g h, call ≠ .createWrapper a b c d e f g h) → Genuine w ⟨5, call⟩ := by
    intro w call hdeploy hfactory
    exact ⟨fun s new hcall => absurd hcall (hdeploy _ _), fun s new hcall => absurd hcall (hdeploy _ _),
      fun _ _ _ _ _ _ _ _ hcall => absurd hcall (hfactory _ _ _ _ _ _ _ _)⟩
  have hrun : Run (step Governance.Crypto.sample 64) Genuine freshWorld (worldAfter wrappedToken) :=
    run_worldAfter [.registerChain (registerVaa 0 2) (sampleId 0xb1)]
      (run_worldAfter [] (Run.refl freshWorld) _ (hok _ _ (by simp) (by simp))) _
      (hok _ _ (by simp) (by simp))
  have hsome : ∀ call, (step Governance.Crypto.sample 64 (worldAfter wrappedToken) ⟨5, call⟩).isSome →
      ∃ w', step Governance.Crypto.sample 64 (worldAfter wrappedToken) ⟨5, call⟩ = some w' :=
    fun call h => Option.isSome_iff_exists.mp h
  obtain ⟨w₁, h₁⟩ := hsome (redeem (sampleId 0xd1)) (by decide +kernel)
  obtain ⟨w₂, h₂⟩ := hsome (send (sampleId 0xd1)) (by decide +kernel)
  exact ⟨⟨w₁, h₁, (callers_genuine freshWorld_fresh hrun h₁).1 _ _ _ rfl⟩,
    (callers_genuine freshWorld_fresh hrun h₂).2 _ _ _ _ _ _ rfl⟩

/-- **A look-alike.** Anybody deploys 0xe1.., which the factory has not created; it consumes the transfer,
so that the wrapper of the factory can no longer redeem it, and it publishes a transfer of the token 0xc1..
in the name of the token bridge. -/
theorem lookAlike_accepted :
    Run (step Governance.Crypto.sample 64) (fun _ _ => True) freshWorld
      (worldAfter (wrappedToken ++ [.deploy (.tokenWrapper lookAlike) (sampleId 0xe1)])) ∧
    ¬(worldAfter (wrappedToken ++ [.deploy (.tokenWrapper lookAlike) (sampleId 0xe1),
      redeem (sampleId 0xe1)])).Wrapped (sampleId 0xe1) ∧
    (worldAfter (wrappedToken ++ [.deploy (.tokenWrapper lookAlike) (sampleId 0xe1),
      redeem (sampleId 0xe1)])).log.length = 3 ∧
    step Governance.Crypto.sample 64 (worldAfter (wrappedToken ++
      [.deploy (.tokenWrapper lookAlike) (sampleId 0xe1), redeem (sampleId 0xe1)]))
      ⟨5, redeem (sampleId 0xd1)⟩ = none ∧
    (step Governance.Crypto.sample 64 (worldAfter (wrappedToken ++
      [.deploy (.tokenWrapper lookAlike) (sampleId 0xe1)])) ⟨5, send (sampleId 0xe1)⟩).isSome := by
  refine ⟨run_attempts (P := fun _ => True) _ _ fun _ _ => trivial, by decide +kernel, by decide +kernel,
    ?_, by decide +kernel⟩
  exact Option.isNone_iff_eq_none.mp (by decide +kernel)

end Wormhole.Alephium

/-
# Wormhole.Alephium.Endpoint — one endpoint for each remote chain.

Every `TokenBridgeForChain` keeps a replay window of its own, so a transfer is paid once by each
endpoint of its chain.  `TokenBridge.registerChain` keeps no record of the chains it has registered:
two register-chain VAAs of one chain make two endpoints.  In the runs in which no chain is registered
again, there is one endpoint for each chain and every transfer is completed at most once
(`oneEndpoint`).
-/
import Mathlib
import Wormhole.Lib.Transition
import Wormhole.Alephium.Vm
import Wormhole.Alephium.Sequence
import Wormhole.Alephium.Governance
import Wormhole.Alephium.TokenBridge
import Wormhole.Alephium.World

namespace Wormhole.Alephium

open Wormhole.Lib.Bytes Wormhole.Lib.Transition Wormhole.Alephium.Vm
open Wormhole.Alephium.Governance (Body Crypto WormholeMessage)

/-! ## Completed transfers -/

/-- The sequence number of an entry, if it is a transfer completed at `bridge`. -/
def Entry.completedAt (bridge : ContractId) : Entry → Option Nat
  | .completed b msg => if b = bridge then some msg.sequence else none
  | _ => none

namespace World

/-- The sequence numbers of the transfers completed at `bridge`, in order. -/
def completedAt (w : World) (bridge : ContractId) : List Nat :=
  w.log.filterMap (Entry.completedAt bridge)

@[simp]
theorem completedAt_record (w : World) (e : Entry) (bridge : ContractId) :
    (w.record e).completedAt bridge = w.completedAt bridge ++ (e.completedAt bridge).toList := by
  rw [completedAt, record_log, List.filterMap_append, completedAt]
  cases h : e.completedAt bridge <;> simp [h]

/-- The emitter chain, emitter address and sequence number of a transfer VAA, if the entry is its
completion at a registered endpoint. -/
def transferOf (w : World) : Entry → Option (Nat × ByteVec × Nat)
  | .completed bridge msg =>
    if w.Registered bridge then some (msg.emitterChainId, msg.emitterAddress, msg.sequence) else none
  | _ => none

theorem transferOf_eq_some {w : World} {e : Entry} {key : Nat × ByteVec × Nat} :
    w.transferOf e = some key ↔ ∃ bridge msg, e = .completed bridge msg ∧ w.Registered bridge ∧
      key = (msg.emitterChainId, msg.emitterAddress, msg.sequence) := by
  cases e <;> simp [transferOf, eq_comm]

/-- The transfers completed over all registered endpoints. -/
def completedTransfers (w : World) : List (Nat × ByteVec × Nat) := w.log.filterMap w.transferOf

/-- `id` is an endpoint of the chain. -/
def RegisteredFor (w : World) (id : ContractId) (chainId : Nat) : Prop :=
  w.Registered id ∧ ∃ s, w.bridgeAt id = some s ∧ s.remoteChainId = chainId

end World

/-- The chain that the VAA of a `registerChain` call names. -/
def namedChain (crypto : Crypto) (w : World) (tx : Tx) : Option Nat :=
  match tx.call with
  | .registerChain vaa _ => do
    let msg ← Governance.parseAndVerifyVAA crypto w.governance tx.now vaa
    u256From2Byte (← byteVecSlice msg.payload 35 37)
  | _ => none

/-- No chain is registered again. -/
def FirstRegistration (crypto : Crypto) (w : World) (tx : Tx) : Prop :=
  ∀ chainId, namedChain crypto w tx = some chainId → ∀ id, ¬w.RegisteredFor id chainId

theorem registerChain_eq_some {distance : Nat} {self : ContractId} {t t' : TokenBridge.State}
    {msg : Body} {s : TokenBridgeForChain.State}
    (h : TokenBridge.registerChain distance self t msg = some (t', s)) :
    s.localTokenBridgeId = self.val ∧ s.replay = Sequence.State.init ∧
      (byteVecSlice msg.payload 35 37).bind u256From2Byte = some s.remoteChainId := by
  simp only [TokenBridge.registerChain, TokenBridge.parseRegisterChain,
    TokenBridge.verifyGovernanceVAA, Option.bind_eq_bind, Option.bind_eq_some_iff, Option.pure_def,
    Option.some_inj] at h
  obtain ⟨_, ⟨_, ⟨_, -, _, -, _, -, rfl⟩, _, -, _, -, _, -, _, -, bytes, hbytes, remoteChainId,
    hchain, _, -, _, -, _, -, rfl⟩, _, -, heq⟩ := h
  obtain rfl : _ = s := congrArg Prod.snd heq
  refine ⟨rfl, rfl, ?_⟩
  rw [hbytes, Option.bind_some, hchain]

/-! ## The endpoints -/

/-- **The registered endpoints.** Each is a contract of the token bridge, whose replay window has taken
every transfer completed there. -/
structure Endpoints (distance : Nat) (w : World) : Prop where
  /-- What has completed a transfer exists. -/
  completed : ∀ id msg, .completed id msg ∈ w.log → (w.bridgeAt id).isSome
  registered : ∀ id, w.Registered id → ∃ s, w.bridgeAt id = some s ∧
    s.localTokenBridgeId = w.tokenBridgeId.val ∧
    (∀ msg, .completed id msg ∈ w.log → msg.emitterChainId = s.remoteChainId) ∧
    ∃ A, Sequence.Window distance A s.replay ∧ (w.completedAt id).Sublist A

section Endpoints

variable {crypto : Crypto} {distance : Nat} {w w' : World}

theorem Endpoints.of_fresh (h : w.Fresh) : Endpoints distance w := by
  constructor
  · intro id msg hmem
    simp [h.log] at hmem
  · intro id hid
    simp [World.Registered, h.log] at hid

/-- An entry that is neither a registration nor a completion. -/
theorem Endpoints.record (h : Endpoints distance w) {e : Entry}
    (hcompleted : ∀ id msg, e ≠ .completed id msg)
    (hcreated : ∀ id, e ≠ .tokenBridgeForChainCreated id) : Endpoints distance (w.record e) := by
  have hmem : ∀ id msg, .completed id msg ∈ (w.record e).log ↔ .completed id msg ∈ w.log := by
    intro id msg
    simp [(hcompleted id msg).symm]
  have hlist : ∀ id, (w.record e).completedAt id = w.completedAt id := by
    intro id
    have hnone : e.completedAt id = none := by
      cases e with
      | completed b msg => exact absurd rfl (hcompleted b msg)
      | tokenBridgeForChainCreated b => rfl
      | tokenWrapperCreated b => rfl
      | published b message => rfl
    rw [World.completedAt_record, hnone, Option.toList_none, List.append_nil]
  constructor
  · intro id msg hcompleted
    exact h.completed id msg ((hmem id msg).mp hcompleted)
  · intro id hid
    have hid : w.Registered id := by simpa [World.Registered, (hcreated id).symm] using hid
    simp only [hmem, hlist]
    exact h.registered id hid

/-- A new contract that is not an endpoint. -/
theorem Endpoints.set_new (h : Endpoints distance w) {new : ContractId}
    (hnew : w.contracts new = none) (c : Contract) : Endpoints distance (w.set new c) := by
  have hbridge : ∀ id s, w.bridgeAt id = some s → (w.set new c).bridgeAt id = some s := by
    intro id s hs
    rw [World.bridgeAt_set_of_ne (World.ne_of_bridgeAt hs hnew), hs]
  constructor
  · intro id msg hmem
    obtain ⟨s, hs⟩ := Option.isSome_iff_exists.mp (h.completed id msg hmem)
    rw [hbridge id s hs, Option.isSome_some]
  · intro id hid
    obtain ⟨s, hs, hrest⟩ := h.registered id hid
    exact ⟨s, hbridge id s hs, hrest⟩

/-- The window of an endpoint after a verified VAA. -/
theorem Replayed.window_concat (hD : distance + 2 ^ 64 ≤ 2 ^ 256) {b b' : TokenBridgeForChain.State}
    {msg : Body} (h : Replayed distance w b b' msg)
    (hlocal : b.localTokenBridgeId = w.tokenBridgeId.val) {A : List Nat}
    (hA : Sequence.Window distance A b.replay) :
    Sequence.Window distance (A ++ [msg.sequence]) b'.replay := by
  obtain ⟨replay, hcall, rfl⟩ := h.window
  exact hA.call_some hD (h.lt hlocal) hcall

/-- Every other contract is what it was after a write to `bridge`. -/
theorem isSome_bridgeAt_set {bridge id : ContractId} {b' : TokenBridgeForChain.State}
    (h : (w.bridgeAt id).isSome) :
    ((w.set bridge (.tokenBridgeForChain b')).bridgeAt id).isSome := by
  by_cases hid : id = bridge
  · rw [hid, World.bridgeAt_set_self, Option.isSome_some]
  · rwa [World.bridgeAt_set_of_ne hid]

/-- A VAA is verified, but no transfer completed. -/
theorem Endpoints.replay (h : Endpoints distance w) (hD : distance + 2 ^ 64 ≤ 2 ^ 256)
    {bridge : ContractId} {b b' : TokenBridgeForChain.State} {msg : Body}
    (hb : w.bridgeAt bridge = some b) (hb' : Replayed distance w b b' msg) :
    Endpoints distance (w.set bridge (.tokenBridgeForChain b')) := by
  refine ⟨fun id msg hmem => isSome_bridgeAt_set (h.completed id msg hmem), fun id hid => ?_⟩
  obtain ⟨s, hs, hlocal, hchain, A, hA, hlist⟩ := h.registered id hid
  by_cases hbridge : id = bridge
  · subst hbridge
    obtain rfl : b = s := Option.some.inj (hb.symm.trans hs)
    obtain ⟨replay, rfl⟩ := hb'.frame
    exact ⟨_, World.bridgeAt_set_self .., hlocal, hchain, A ++ [msg.sequence],
      hb'.window_concat hD hlocal hA, hlist.trans (List.sublist_append_left ..)⟩
  · exact ⟨s, by rw [World.bridgeAt_set_of_ne hbridge, hs], hlocal, hchain, A, hA, hlist⟩

/-- A transfer is completed. -/
theorem Endpoints.complete (h : Endpoints distance w) (hD : distance + 2 ^ 64 ≤ 2 ^ 256)
    {bridge : ContractId} {b b' : TokenBridgeForChain.State} {msg : Body}
    (hb : w.bridgeAt bridge = some b) (hb' : Replayed distance w b b' msg) :
    Endpoints distance ((w.set bridge (.tokenBridgeForChain b')).record (.completed bridge msg)) := by
  constructor
  · intro id msg' hmem
    rcases List.mem_append.mp hmem with hmem | hmem
    · exact isSome_bridgeAt_set (h.completed id msg' hmem)
    · obtain ⟨rfl, -⟩ : id = bridge ∧ msg' = msg := by simpa using hmem
      exact isSome_bridgeAt_set (by rw [hb, Option.isSome_some])
  · intro id hid
    have hid : w.Registered id := by simpa [World.Registered] using hid
    obtain ⟨s, hs, hlocal, hchain, A, hA, hlist⟩ := h.registered id hid
    by_cases hbridge : id = bridge
    · subst hbridge
      obtain rfl : b = s := Option.some.inj (hb.symm.trans hs)
      obtain ⟨replay, rfl⟩ := hb'.frame
      refine ⟨_, World.bridgeAt_set_self .., hlocal, ?_, A ++ [msg.sequence],
        hb'.window_concat hD hlocal hA, ?_⟩
      · intro msg' hmem
        rcases List.mem_append.mp hmem with hmem | hmem
        · exact hchain msg' hmem
        · obtain rfl : msg' = msg := by simpa using hmem
          exact hb'.chain
      · rw [World.completedAt_record, Entry.completedAt, if_pos rfl, Option.toList_some]
        exact hlist.append_right [msg.sequence]
    · refine ⟨s, ?_, hlocal, ?_, A, hA, ?_⟩
      · rw [show ∀ (v : World) e, (v.record e).bridgeAt id = v.bridgeAt id from fun _ _ => rfl,
          World.bridgeAt_set_of_ne hbridge, hs]
      · intro msg' hmem
        exact hchain msg' (by simpa [hbridge] using hmem)
      · rw [World.completedAt_record, Entry.completedAt, if_neg (Ne.symm hbridge),
          Option.toList_none, List.append_nil]
        exact hlist

/-- A chain is registered. -/
theorem Endpoints.register (h : Endpoints distance w) {new : ContractId}
    {s : TokenBridgeForChain.State} (hnew : w.contracts new = none)
    (hlocal : s.localTokenBridgeId = w.tokenBridgeId.val) (hreplay : s.replay = Sequence.State.init) :
    Endpoints distance
      ((w.set new (.tokenBridgeForChain s)).record (.tokenBridgeForChainCreated new)) := by
  have hset := h.set_new hnew (.tokenBridgeForChain s)
  -- nothing has been completed at an id that was not in use
  have hnothing : ∀ msg, .completed new msg ∉ w.log := by
    intro msg hmem
    obtain ⟨s', hs'⟩ := Option.isSome_iff_exists.mp (h.completed new msg hmem)
    exact World.ne_of_bridgeAt hs' hnew rfl
  constructor
  · intro id msg hmem
    exact hset.completed id msg (by simpa using hmem)
  · intro id hid
    by_cases hid' : id = new
    · subst hid'
      refine ⟨s, World.bridgeAt_set_self .., hlocal, ?_, [], hreplay ▸ .init distance, ?_⟩
      · intro msg hmem
        exact absurd (by simpa using hmem) (hnothing msg)
      · have hempty : w.completedAt id = [] := by
          rw [World.completedAt, List.filterMap_eq_nil_iff]
          intro e he
          cases e with
          | completed b msg =>
            have hb : b ≠ id := by
              rintro rfl
              exact hnothing msg he
            simp [Entry.completedAt, hb]
          | tokenBridgeForChainCreated b => rfl
          | tokenWrapperCreated b => rfl
          | published b message => rfl
        rw [World.completedAt_record]
        show (w.completedAt id ++ []).Sublist []
        rw [hempty, List.append_nil]
    · obtain ⟨s', hs', hlocal', hchain', A, hA, hlist⟩ :=
        hset.registered id (by simpa [World.Registered, hid'] using hid)
      refine ⟨s', hs', hlocal', fun msg hmem => hchain' msg (by simpa using hmem), A, hA, ?_⟩
      rw [World.completedAt_record]
      exact (List.append_nil _).symm ▸ hlist

/-- **Step.** Every call keeps the endpoints. -/
theorem Endpoints.step (h : Endpoints distance w) (hD : distance + 2 ^ 64 ≤ 2 ^ 256) {tx : Tx}
    (hstep : Alephium.step crypto distance w tx = some w') : Endpoints distance w' := by
  cases step_effect hstep with
  | governance governance => exact ⟨h.completed, h.registered⟩
  | publish => exact h.record (by simp) (by simp)
  | register vaa new msg tokenBridge s hcall hmsg hregister hnew =>
    obtain ⟨hlocal, hreplay, -⟩ := registerChain_eq_some hregister
    have h' : Endpoints distance { w with tokenBridge } := ⟨h.completed, h.registered⟩
    exact h'.register hnew hlocal hreplay
  | attest tokenId token nonce consistencyLevel tokenBridge =>
    have h' : Endpoints distance { w with tokenBridge } := ⟨h.completed, h.registered⟩
    exact h'.record (by simp) (by simp)
  | wrapFor bridge new b b' s hrequest hb hb' hs hnew =>
    have hne := World.ne_of_bridgeAt hb hnew
    have hset : Endpoints distance (w.set bridge (.tokenBridgeForChain b')) := by
      rcases hb' with rfl | ⟨msg, hb'⟩
      · rwa [World.set_self (World.bridgeAt_eq_some.mp hb)]
      · exact h.replay hD hb hb'
    exact (hset.set_new (by rwa [World.set_contracts_of_ne hne.symm]) _).record (by simp) (by simp)
  | wrapOther caller new s hrequest hcaller hs hnew =>
    exact (h.set_new hnew _).record (by simp) (by simp)
  | transfer wrapper toAddress amount arbiterFee nonce consistencyLevel s data tokenBridge =>
    have h' : Endpoints distance { w with tokenBridge } := ⟨h.completed, h.registered⟩
    exact h'.record (by simp) (by simp)
  | complete bridge b b' msg hb hb' => exact h.complete hD hb hb'
  | deploy c new hnew hc => exact h.set_new hnew c

/-! ## One endpoint for each chain -/

/-- A registration adds at most one endpoint, for the chain that its VAA names. -/
theorem Effect.registeredFor {tx : Tx} (h : Effect crypto distance w tx w')
    (hendpoints : Endpoints distance w) : ∃ new, ∀ id chainId, w'.RegisteredFor id chainId →
      w.RegisteredFor id chainId ∨ id = new ∧ namedChain crypto w tx = some chainId := by
  -- an endpoint that was there keeps its chain
  have hold : ∀ id chainId, w.Registered id → w'.RegisteredFor id chainId →
      w.RegisteredFor id chainId := by
    rintro id _ hid ⟨-, s', hs', rfl⟩
    obtain ⟨s, hs, -⟩ := hendpoints.registered id hid
    obtain ⟨replay, hkept⟩ := h.bridgeAt hs
    obtain rfl := Option.some.inj (hkept.symm.trans hs')
    exact ⟨hid, s, hs, rfl⟩
  have hsame : w'.log = w.log ∨ (∃ e, w'.log = w.log ++ [e] ∧
      ∀ id, e ≠ .tokenBridgeForChainCreated id) → ∀ id, w'.Registered id → w.Registered id := by
    rintro (hlog | ⟨e, hlog, he⟩) id hid
    · rwa [World.Registered, hlog] at hid
    · rw [World.Registered, hlog, List.mem_append, List.mem_singleton] at hid
      exact hid.resolve_right (he id).symm
  cases h with
  | governance | deploy =>
    exact ⟨w.tokenBridgeId, fun id chainId hid =>
      .inl (hold id chainId (hsame (.inl rfl) id hid.1) hid)⟩
  | publish | attest | transfer | complete | wrapFor | wrapOther =>
    exact ⟨w.tokenBridgeId, fun id chainId hid =>
      .inl (hold id chainId (hsame (.inr ⟨_, rfl, by simp⟩) id hid.1) hid)⟩
  | register vaa new msg tokenBridge s hcall hmsg hregister hnew =>
    obtain ⟨-, -, hchain⟩ := registerChain_eq_some hregister
    refine ⟨new, fun id chainId hid => ?_⟩
    have hmem : w.Registered id ∨ id = new := by simpa [World.Registered] using hid.1
    rcases hmem with hmem | rfl
    · exact .inl (hold id chainId hmem hid)
    · obtain ⟨-, s', hs', rfl⟩ := hid
      obtain rfl : s = s' := Option.some.inj ((World.bridgeAt_set_self ..).symm.trans hs')
      refine .inr ⟨rfl, ?_⟩
      rw [namedChain, hcall]
      simpa [hmsg] using hchain

/-- At most one endpoint for each chain. -/
def OneEndpoint (w : World) : Prop :=
  ∀ chainId id₁ id₂, w.RegisteredFor id₁ chainId → w.RegisteredFor id₂ chainId → id₁ = id₂

/-- **Step.** A call that registers no chain again keeps the endpoints unique. -/
theorem OneEndpoint.step (h : OneEndpoint w) (hendpoints : Endpoints distance w) {tx : Tx}
    (hok : FirstRegistration crypto w tx) (hstep : Alephium.step crypto distance w tx = some w') :
    OneEndpoint w' := by
  obtain ⟨new, hnew⟩ := (step_effect hstep).registeredFor hendpoints
  intro chainId id₁ id₂ h₁ h₂
  rcases hnew id₁ chainId h₁ with h₁ | ⟨rfl, hnamed⟩ <;>
    rcases hnew id₂ chainId h₂ with h₂ | ⟨rfl, hnamed'⟩
  · exact h chainId id₁ id₂ h₁ h₂
  · exact absurd h₁ (hok chainId hnamed' id₁)
  · exact absurd h₂ (hok chainId hnamed id₂)
  · rfl

/-- Completed once at each endpoint, of which there is one for each chain: completed once. -/
theorem nodup_completedTransfers (h : Endpoints distance w) (hone : OneEndpoint w) :
    w.completedTransfers.Nodup := by
  rw [World.completedTransfers, List.Nodup, List.pairwise_filterMap, List.pairwise_iff_getElem]
  intro i j hi hj hij key₁ h₁ key₂ h₂ heq
  obtain ⟨id₁, msg₁, hlog₁, hid₁, rfl⟩ := World.transferOf_eq_some.mp h₁
  obtain ⟨id₂, msg₂, hlog₂, hid₂, rfl⟩ := World.transferOf_eq_some.mp h₂
  obtain ⟨hchain, -, hsequence⟩ : _ ∧ _ ∧ msg₁.sequence = msg₂.sequence := by simpa using heq
  obtain ⟨s₁, hs₁, -, hchain₁, A, hA, hlist⟩ := h.registered id₁ hid₁
  obtain ⟨s₂, hs₂, -, hchain₂, -⟩ := h.registered id₂ hid₂
  -- the same chain, so the same endpoint
  have hchains : s₂.remoteChainId = s₁.remoteChainId := by
    rw [← hchain₁ msg₁ (hlog₁ ▸ List.getElem_mem hi), ← hchain₂ msg₂ (hlog₂ ▸ List.getElem_mem hj),
      hchain]
  obtain rfl : id₁ = id₂ := hone _ id₁ id₂ ⟨hid₁, s₁, hs₁, rfl⟩ ⟨hid₂, s₂, hs₂, hchains⟩
  -- whose window has taken the number twice
  have hnodup : (w.completedAt id₁).Nodup := hlist.nodup hA.nodup
  rw [World.completedAt, List.Nodup, List.pairwise_filterMap, List.pairwise_iff_getElem] at hnodup
  exact hnodup i j hi hj hij msg₁.sequence (by simp [hlog₁, Entry.completedAt]) msg₂.sequence
    (by simp [hlog₂, Entry.completedAt]) hsequence

/-- **One endpoint for each chain, and no transfer paid twice.** In every run from a fresh world that
registers no chain again, each remote chain has at most one endpoint, and no transfer VAA is
completed twice over all endpoints. -/
theorem oneEndpoint (hD : distance + 2 ^ 64 ≤ 2 ^ 256) {w₀ : World} (hfresh : w₀.Fresh)
    (hrun : Run (step crypto distance) (FirstRegistration crypto) w₀ w) :
    (∀ chainId id₁ id₂, w.RegisteredFor id₁ chainId → w.RegisteredFor id₂ chainId → id₁ = id₂) ∧
      w.completedTransfers.Nodup := by
  have hinv : Endpoints distance w ∧ OneEndpoint w := by
    refine hrun.invariant (I := fun w => Endpoints distance w ∧ OneEndpoint w)
      (fun w tx w' h hok hstep => ⟨h.1.step hD hstep, h.2.step h.1 hok hstep⟩)
      ⟨.of_fresh hfresh, ?_⟩
    rintro chainId id₁ id₂ ⟨hid, -⟩ -
    simp [World.Registered, hfresh.log] at hid
  exact ⟨hinv.2, nodup_completedTransfers hinv.1 hinv.2⟩

end Endpoints

/-! ## Inputs -/

/-- A token of chain 13 is wrapped for chain 2, and a transfer from there completed. -/
def oneTransfer : List Call :=
  [.registerChain (registerVaa 0 2) (sampleId 0xb1),
    .createWrapperForLocalToken (sampleId 0xb1) (sampleId 0xc0).val sampleToken (sampleId 0xd1),
    .completeTransfer (sampleId 0xd1) (transferVaa 0 2 (sampleId 0xc0)) none]

theorem oneTransfer_once :
    (worldAfter oneTransfer).completedTransfers.length = 1 ∧
    (worldAfter oneTransfer).completedTransfers.Nodup := by
  have hother : ∀ w call, (∀ vaa new, call ≠ .registerChain vaa new) →
      FirstRegistration Governance.Crypto.sample w ⟨5, call⟩ := by
    intro w call hcall chainId hnamed
    cases call <;> simp_all [namedChain]
  have hfirst : FirstRegistration Governance.Crypto.sample freshWorld
      ⟨5, .registerChain (registerVaa 0 2) (sampleId 0xb1)⟩ := by
    rintro chainId - id ⟨hid, -⟩
    simp [World.Registered, freshWorld] at hid
  have hrun : Run (step Governance.Crypto.sample 64) (FirstRegistration Governance.Crypto.sample)
      freshWorld (worldAfter oneTransfer) :=
    run_worldAfter _ (run_worldAfter _ (run_worldAfter [] (Run.refl freshWorld) _ hfirst) _
      (hother _ _ (by simp))) _ (hother _ _ (by simp))
  exact ⟨by decide +kernel, (oneEndpoint (by norm_num) freshWorld_fresh hrun).2⟩

/-- Chain 2 is registered twice, and the same transfer completed at both endpoints. -/
def twoEndpoints : List Call :=
  [.registerChain (registerVaa 0 2) (sampleId 0xb1),
    .registerChain (registerVaa 1 2) (sampleId 0xb2),
    .createWrapperForLocalToken (sampleId 0xb1) (sampleId 0xc0).val sampleToken (sampleId 0xd1),
    .createWrapperForLocalToken (sampleId 0xb2) (sampleId 0xc0).val sampleToken (sampleId 0xd2),
    .completeTransfer (sampleId 0xd1) (transferVaa 0 2 (sampleId 0xc0)) none,
    .completeTransfer (sampleId 0xd2) (transferVaa 0 2 (sampleId 0xc0)) none]

/-- **A chain can be registered twice, and a transfer is then paid twice.** -/
theorem twoEndpoints_paidTwice :
    Run (step Governance.Crypto.sample 64) (fun _ _ => True) freshWorld (worldAfter twoEndpoints) ∧
    (worldAfter twoEndpoints).RegisteredFor (sampleId 0xb1) 2 ∧
    (worldAfter twoEndpoints).RegisteredFor (sampleId 0xb2) 2 ∧
    sampleId 0xb1 ≠ sampleId 0xb2 ∧
    ¬(worldAfter twoEndpoints).completedTransfers.Nodup := by
  have hfor : ∀ (w : World) id chainId, w.Registered id →
      (w.bridgeAt id).map (·.remoteChainId) = some chainId → w.RegisteredFor id chainId :=
    fun w id chainId hid hchain => ⟨hid, Option.map_eq_some_iff.mp hchain⟩
  refine ⟨run_attempts (P := fun _ => True) _ _ fun _ _ => trivial,
    hfor _ _ _ (by decide +kernel) (by decide +kernel),
    hfor _ _ _ (by decide +kernel) (by decide +kernel), by decide, by decide +kernel⟩

end Wormhole.Alephium

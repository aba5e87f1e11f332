/-
# Wormhole.Alephium.Publication — where the messages on the log come from.

A message reaches the governance contract from any contract (`publishMessage`), from the token bridge
itself (`attestToken`) or from a contract with the code of a `TokenWrapper` (`transfer`).  Its origin
is never a `TokenBridgeForChain` (`Origins`).  The second half is about the wrappers of the factory:
which of them belong to a registered chain (`World.Paired`), and which token each one stands for.
-/
import Mathlib
import Wormhole.Lib.Bytes
import Wormhole.Alephium.Vm
import Wormhole.Alephium.Governance
import Wormhole.Alephium.TokenBridge
import Wormhole.Alephium.World
import Wormhole.Alephium.Wrapper

namespace Wormhole.Alephium

open Wormhole.Lib Wormhole.Lib.Bytes Wormhole.Alephium.Vm
open Wormhole.Alephium.Governance (Body Crypto WormholeMessage publishMessage)

/-! ## The layout of a transfer -/

/-- **What a wrapper publishes.** -/
theorem TokenWrapper.transfer_eq_some {s : TokenWrapper.State} {toAddress nonce data : ByteVec}
    {amount arbiterFee : Nat}
    (h : TokenWrapper.transfer s toAddress amount arbiterFee nonce = some data) :
    toAddress.length = 32 ∧ nonce.length = 4 ∧
      ∃ (amountBytes : FixedBytes 32) (chainBytes remoteBytes : FixedBytes 2)
        (feeBytes : FixedBytes 32), data = [0x01] ++ amountBytes.val ++ s.tokenContractId ++
          chainBytes.val ++ toAddress ++ remoteBytes.val ++ feeBytes.val ++
          byteVecOfBool s.isLocalToken := by
  simp only [transfer, transferPayload, Option.bind_eq_bind, Option.bind_eq_some_iff, assert_eq_some,
    Option.pure_def, Option.some_inj, u256To32Byte, u256To2Byte, u256ToBytes_eq_some] at h
  obtain ⟨_, haddress, _, hnonce, amount', -, fee', -, _, -, _, -, _, ⟨-, rfl⟩, _, ⟨-, rfl⟩,
    _, ⟨-, rfl⟩, _, ⟨-, rfl⟩, rfl⟩ := h
  exact ⟨haddress, hnonce, ⟨_, beBytes_length ..⟩, ⟨_, beBytes_length ..⟩, ⟨_, beBytes_length ..⟩,
    ⟨_, beBytes_length ..⟩, rfl⟩

/-! ## Publications -/

/-- The call `tx` publishes the message. -/
inductive Publication (w : World) (tx : Tx) : ContractId → WormholeMessage → Prop where
  | direct (caller : ContractId) (sequence : Nat) (nonce payload : ByteVec) (consistencyLevel : Nat)
      (hcall : tx.call = .publishMessage caller sequence nonce payload consistencyLevel)
      (hcaller : w.contracts caller = some .other) :
      Publication w tx caller (publishMessage caller sequence nonce payload consistencyLevel)
  | attest (sequence : Nat) (nonce rest : ByteVec) (consistencyLevel : Nat)
      (hnonce : nonce.length = 4) :
      Publication w tx w.tokenBridgeId
        (publishMessage w.tokenBridgeId sequence nonce (0x02 :: rest) consistencyLevel)
  | transfer (wrapper : ContractId) (toAddress : ByteVec) (amount arbiterFee : Nat) (nonce : ByteVec)
      (consistencyLevel : Nat) (s : TokenWrapper.State) (data : ByteVec) (sequence : Nat)
      (hcall : tx.call = .transfer wrapper toAddress amount arbiterFee nonce consistencyLevel)
      (hs : w.wrapperAt wrapper = some s)
      (hdata : TokenWrapper.transfer s toAddress amount arbiterFee nonce = some data) :
      Publication w tx wrapper
        (publishMessage w.tokenBridgeId sequence nonce (data ++ wrapper.val) consistencyLevel)

section Effect

variable {crypto : Crypto} {distance : Nat} {w w' : World} {tx : Tx}

/-- The log only grows. -/
theorem Effect.log_prefix (h : Effect crypto distance w tx w') : w.log <+: w'.log := by
  cases h <;> first | exact List.prefix_rfl | exact List.prefix_append _ _

theorem Effect.wrapped_mono (h : Effect crypto distance w tx w') {id : ContractId}
    (hid : w.Wrapped id) : w'.Wrapped id := h.log_prefix.subset hid

theorem Effect.registered_mono (h : Effect crypto distance w tx w') {id : ContractId}
    (hid : w.Registered id) : w'.Registered id := h.log_prefix.subset hid

theorem attestToken_eq_some {self : ContractId} {t t' : TokenBridge.State} {tokenId nonce : ByteVec}
    {token : TokenInfo} {consistencyLevel : Nat} {message : WormholeMessage}
    (h : TokenBridge.attestToken self t tokenId token nonce consistencyLevel = some (t', message)) :
    nonce.length = 4 ∧ ∃ sequence rest,
      message = publishMessage self sequence nonce (0x02 :: rest) consistencyLevel := by
  simp only [TokenBridge.attestToken, Option.bind_eq_bind, Option.bind_eq_some_iff, assert_eq_some,
    Option.pure_def, Option.some_inj] at h
  obtain ⟨_, -, _, hnonce, _, -, _, -, _, -, _, -, ⟨_, sequence⟩, -, heq⟩ := h
  exact ⟨hnonce, sequence, _, (congrArg Prod.snd heq).symm⟩

/-- **What is new on the log** has been published by the call. -/
theorem Effect.published (h : Effect crypto distance w tx w') {origin : ContractId}
    {m : WormholeMessage} (hm : .published origin m ∈ w'.log) :
    .published origin m ∈ w.log ∨ Publication w tx origin m := by
  cases h with
  | governance | deploy => exact .inl hm
  | register | wrapFor | wrapOther | complete => exact .inl (by simpa using hm)
  | publish caller sequence nonce payload consistencyLevel hcall hcaller =>
    rcases List.mem_append.mp hm with hm | hm
    · exact .inl hm
    · obtain ⟨rfl, rfl⟩ : origin = caller ∧ m = _ := by simpa using hm
      exact .inr (.direct _ sequence nonce payload consistencyLevel hcall hcaller)
  | attest tokenId token nonce consistencyLevel tokenBridge message hattest =>
    rcases List.mem_append.mp hm with hm | hm
    · exact .inl hm
    · obtain ⟨rfl, rfl⟩ : origin = w.tokenBridgeId ∧ m = message := by simpa using hm
      obtain ⟨hnonce, sequence, rest, rfl⟩ := attestToken_eq_some hattest
      exact .inr (.attest sequence nonce rest consistencyLevel hnonce)
  | transfer wrapper toAddress amount arbiterFee nonce consistencyLevel s data tokenBridge message
      hcall hs hdata hbridge hpublish =>
    rcases List.mem_append.mp hm with hm | hm
    · exact .inl hm
    · obtain ⟨rfl, rfl⟩ : origin = wrapper ∧ m = message := by simpa using hm
      simp only [TokenBridge.publishTransfer, Option.bind_eq_bind, Option.bind_eq_some_iff,
        Option.pure_def, Option.some_inj] at hpublish
      obtain ⟨⟨_, sequence⟩, -, heq⟩ := hpublish
      obtain rfl := congrArg Prod.snd heq
      exact .inr (.transfer _ toAddress amount arbiterFee nonce consistencyLevel s data sequence hcall
        hs hdata)

theorem Effect.tokenBridgeId (h : Effect crypto distance w tx w') :
    w'.tokenBridgeId = w.tokenBridgeId := by
  cases h <;> rfl

/-- A registration creates the contract. -/
theorem Effect.registered (h : Effect crypto distance w tx w') {id : ContractId}
    (hid : w'.Registered id) : w.Registered id ∨ (w'.bridgeAt id).isSome := by
  cases h with
  | governance | deploy => exact .inl hid
  | publish | attest | transfer | wrapFor | wrapOther | complete =>
    exact .inl (by simpa [World.Registered] using hid)
  | register vaa new msg tokenBridge s hcall hmsg hregister hnew =>
    refine (by simpa [World.Registered] using hid : w.Registered id ∨ id = new).imp_right ?_
    rintro rfl
    rw [World.bridgeAt, World.record_contracts, World.set_contracts_self, Option.isSome_some]

end Effect

/-! ## Origins -/

/-- **Who has published.** Every message comes from a contract that is not a `TokenBridgeForChain`, and
every registered endpoint is one. -/
structure Origins (w : World) : Prop where
  tokenBridge : w.contracts w.tokenBridgeId = some .deployed
  registered : ∀ id, w.Registered id → (w.bridgeAt id).isSome
  published : ∀ origin m, .published origin m ∈ w.log →
    ∃ c, w.contracts origin = some c ∧ ∀ s, c ≠ .tokenBridgeForChain s

section Origins

variable {crypto : Crypto} {distance : Nat} {w w' : World} {tx : Tx}

theorem Origins.of_fresh (h : w.Fresh) : Origins w where
  tokenBridge := h.tokenBridge
  registered := fun id hid => by simp [World.Registered, h.log] at hid
  published := fun origin m hm => by simp [h.log] at hm

theorem Publication.origin (h : Origins w) {origin : ContractId} {m : WormholeMessage}
    (hm : Publication w tx origin m) :
    ∃ c, w.contracts origin = some c ∧ ∀ s, c ≠ .tokenBridgeForChain s := by
  cases hm with
  | direct _ _ _ _ _ hcall hcaller => exact ⟨.other, hcaller, by simp⟩
  | attest => exact ⟨.deployed, h.tokenBridge, by simp⟩
  | transfer _ _ _ _ _ _ s _ _ _ hs =>
    exact ⟨.tokenWrapper s, World.wrapperAt_eq_some.mp hs, by simp⟩

theorem Origins.effect (h : Origins w) (heffect : Effect crypto distance w tx w') : Origins w' where
  tokenBridge := by
    rw [heffect.tokenBridgeId]
    exact heffect.contracts h.tokenBridge (by simp)
  registered := fun id hid => by
    rcases heffect.registered hid with hid | hbridge
    · obtain ⟨s, hs⟩ := Option.isSome_iff_exists.mp (h.registered id hid)
      obtain ⟨replay, hs'⟩ := heffect.bridgeAt hs
      rw [hs', Option.isSome_some]
    · exact hbridge
  published := fun origin m hm => by
    obtain ⟨c, hc, hbridge⟩ := (heffect.published hm).elim (h.published origin m) (·.origin h)
    exact ⟨c, heffect.contracts hc hbridge, hbridge⟩

/-- An origin that is a wrapper has been the same wrapper before. -/
theorem Origins.wrapperAt_of_effect (h : Origins w) (heffect : Effect crypto distance w tx w')
    {origin : ContractId} {m : WormholeMessage} (hm : .published origin m ∈ w.log)
    {s : TokenWrapper.State} (hs : w'.wrapperAt origin = some s) : w.wrapperAt origin = some s := by
  obtain ⟨c, hc, hbridge⟩ := h.published origin m hm
  have hc' := heffect.contracts hc hbridge
  rw [World.wrapperAt_eq_some] at hs ⊢
  rw [hc, ← hc', hs]

end Origins

/-! ## Wrappers of registered chains -/

namespace World

/-- The wrapper names a registered endpoint of its remote chain. -/
def Paired (w : World) (id : ContractId) : Prop :=
  ∃ s bridge b, w.wrapperAt id = some s ∧ s.tokenBridgeForChainId = bridge.val ∧
    w.Registered bridge ∧ w.bridgeAt bridge = some b ∧ b.remoteChainId = s.remoteChainId

/-- The wrapper the factory has created stands for the token. -/
def WrapperFor (w : World) (id : ContractId) (tokenId : ByteVec) : Prop :=
  w.Wrapped id ∧ ∃ s, w.wrapperAt id = some s ∧ s.tokenContractId = tokenId

end World

section Paired

variable {crypto : Crypto} {distance : Nat} {w w' : World} {tx : Tx}

theorem Effect.paired (h : Effect crypto distance w tx w') {id : ContractId} (hid : w.Paired id) :
    w'.Paired id := by
  obtain ⟨s, bridge, b, hs, hbaked, hregistered, hb, hchain⟩ := hid
  obtain ⟨replay, hb'⟩ := h.bridgeAt hb
  exact ⟨s, bridge, _, h.wrapperAt hs, hbaked, h.registered_mono hregistered, hb', hchain⟩

/-- **Step.** When only registered endpoints call the factory, a new wrapper is one of a registered
chain. -/
theorem Effect.paired_of_wrapped (h : Effect crypto distance w tx w') (horigins : Origins w)
    (hcaller : ∀ caller tokenId, wrapRequest crypto w tx = some (caller, tokenId) →
      w.Registered caller)
    (hpaired : ∀ id, w.Wrapped id → w.Paired id) {id : ContractId} (hid : w'.Wrapped id) :
    w'.Paired id := by
  obtain ⟨new, hnew⟩ := h.wrapped
  rcases hnew id hid with hid | ⟨-, -, s, caller, hs, hby⟩
  · exact h.paired (hpaired id hid)
  · have hregistered := hcaller caller s.tokenContractId hby.request
    rcases hby.origin with hother | ⟨b, hb, -, hchain, -⟩
    · obtain ⟨b, hb⟩ := Option.isSome_iff_exists.mp (horigins.registered caller hregistered)
      rw [World.bridgeAt_eq_some, hother] at hb
      simp at hb
    · obtain ⟨replay, hb'⟩ := h.bridgeAt hb
      exact ⟨s, caller, _, hs, hby.baked, h.registered_mono hregistered, hb', hchain.symm⟩

/-- At most one wrapper of the factory for each token id. -/
def OneForToken (w : World) : Prop :=
  ∀ tokenId id₁ id₂, w.WrapperFor id₁ tokenId → w.WrapperFor id₂ tokenId → id₁ = id₂

/-- **Step.** When no wrapper is asked for a token that has one, each token has at most one. -/
theorem OneForToken.effect (h : OneForToken w) (hwrappers : Wrappers w)
    (hfirst : ∀ caller tokenId, wrapRequest crypto w tx = some (caller, tokenId) →
      ∀ id, ¬w.WrapperFor id tokenId)
    (heffect : Effect crypto distance w tx w') : OneForToken w' := by
  obtain ⟨new, hnew⟩ := heffect.wrapped
  -- a wrapper of the token after the call is one of before, or new and asked for
  have hcases : ∀ id tokenId, w'.WrapperFor id tokenId → w.WrapperFor id tokenId ∨
      id = new ∧ ∀ id, ¬w.WrapperFor id tokenId := by
    rintro id tokenId ⟨hid, s, hs, htoken⟩
    rcases hnew id hid with hid | ⟨hid, -, s', caller, hs', hby⟩
    · obtain ⟨s', -, hs', -⟩ := hwrappers id hid
      obtain rfl : s' = s := Option.some.inj ((heffect.wrapperAt hs').symm.trans hs)
      exact .inl ⟨hid, s', hs', htoken⟩
    · obtain rfl : s' = s := Option.some.inj (hs'.symm.trans hs)
      exact .inr ⟨hid, hfirst caller tokenId (htoken ▸ hby.request)⟩
  intro tokenId id₁ id₂ h₁ h₂
  rcases hcases id₁ tokenId h₁ with h₁ | ⟨rfl, hnone⟩ <;>
    rcases hcases id₂ tokenId h₂ with h₂ | ⟨rfl, hnone'⟩
  · exact h tokenId id₁ id₂ h₁ h₂
  · exact absurd h₁ (hnone' id₁)
  · exact absurd h₂ (hnone id₂)
  · rfl

end Paired

end Wormhole.Alephium

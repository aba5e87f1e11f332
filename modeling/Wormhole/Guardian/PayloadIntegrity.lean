/-
# Wormhole.Guardian.PayloadIntegrity — the payload that the node signs is the payload that was sent.

A token wrapper appends its flag and its id to the transfer it hands to the token bridge, and the node
takes the 33 bytes off again (`toMessagePublication`).  It decides by the first byte of the payload
alone, and any contract can publish a payload with that byte.  `intact_iff` says which messages of other
contracts come through unchanged, and that what the token bridge sends is shortened by nothing else
than what the wrapper has appended.
-/
import Mathlib
import Wormhole.Lib.Bytes
import Wormhole.Lib.Go
import Wormhole.Lib.Transition
import Wormhole.Alephium.Vm
import Wormhole.Alephium.Governance
import Wormhole.Alephium.TokenBridge
import Wormhole.Alephium.World
import Wormhole.Alephium.Publication
import Wormhole.Guardian.AlephiumEvent
import Wormhole.Guardian.Validator
import Wormhole.Guardian.WrapperTrust

namespace Wormhole.Guardian.Alephium

open Wormhole.Lib Wormhole.Lib.Bytes Wormhole.Lib.Transition
open Wormhole.Alephium Wormhole.Alephium.Vm

/-! ## Forwarding -/

/-- Handling the event sends `pub` to the processor. -/
def Publishes (v : Validator) (header : BlockHeader) (event : Event) (pub : MessagePublication) : Prop :=
  ∃ v', handleGovernanceEvent v event header = .ok v' ∧ v'.published = v.published ++ [pub]

/-- **The messages that come through.** The numbers fit their types, there is a payload, and it does not
start like a transfer. -/
def Plain (m : Governance.WormholeMessage) : Prop :=
  m.sequence < 2 ^ 64 ∧ m.consistencyLevel < 255 ∧ 5 ≤ m.data.length ∧ m.data[4]? ≠ some transferPayloadId

instance (m : Governance.WormholeMessage) : Decidable (Plain m) := by
  unfold Plain
  infer_instance

section Publishes

variable {v v' : Validator} {header : BlockHeader} {event : Event} {pub : MessagePublication}
  {m : Governance.WormholeMessage}

theorem exists_drop_eq_cons {data : List UInt8} (h : 5 ≤ data.length) :
    ∃ b rest, data.drop 4 = b :: rest ∧ data[4]? = some b := by
  refine ⟨data[4], data.drop 5, List.drop_eq_getElem_cons (by omega), ?_⟩
  exact List.getElem?_eq_getElem (by omega)

/-- Looking a sender up sends nothing. -/
theorem validateTransferMessage_published {t : TransferMessage} {result : Except String Unit}
    (h : validateTransferMessage v t = .ok (v', result)) : v'.published = v.published := by
  obtain ⟨⟨v₁, contractId⟩, hsender, hrest⟩ := Go.bind_eq_ok.mp h
  have hpublished : v₁.published = v.published := by
    have hchain : ∀ chainId result, getRemoteChain v chainId = .ok (v₁, result) →
        v₁.published = v.published := by
      intro chainId result hget
      unfold getRemoteChain at hget
      split at hget
      · rw [(Prod.mk.inj (Go.ok.inj hget)).1]
      · split at hget
        · rw [(Prod.mk.inj (Go.ok.inj hget)).1]
        · obtain ⟨_, -, hget⟩ := Go.bind_eq_ok.mp hget
          rw [← (Prod.mk.inj (Go.ok.inj hget)).1]
    have hwrapper : ∀ tokenId result, getTokenWrapper v tokenId = .ok (v₁, result) →
        v₁.published = v.published := by
      intro tokenId result hget
      unfold getTokenWrapper at hget
      split at hget
      · rw [(Prod.mk.inj (Go.ok.inj hget)).1]
      · split at hget
        · rw [(Prod.mk.inj (Go.ok.inj hget)).1]
        · obtain ⟨_, -, hget⟩ := Go.bind_eq_ok.mp hget
          rw [← (Prod.mk.inj (Go.ok.inj hget)).1]
    unfold expectedSender at hsender
    split at hsender
    · exact hchain _ _ hsender
    · exact hwrapper _ _ hsender
  cases contractId with
  | error reason =>
    rw [← (Prod.mk.inj (Go.ok.inj hrest)).1]
    exact hpublished
  | ok contractId =>
    simp only at hrest
    split at hrest
    · rw [← (Prod.mk.inj (Go.ok.inj hrest)).1]
      exact hpublished
    · rw [← (Prod.mk.inj (Go.ok.inj hrest)).1]
      exact hpublished

/-- What is sent is the message, read from the block. -/
theorem publish_published {w : WormholeMessage} (h : publish v w header = .ok v') :
    ∃ pub, w.toMessagePublication header = .ok pub ∧ v'.published = v.published ++ [pub] := by
  obtain ⟨pub, hpub, heq⟩ := Go.bind_eq_ok.mp h
  obtain rfl := Go.ok.inj heq
  exact ⟨pub, hpub, rfl⟩

/-- What handling sends is the message, if anything. -/
theorem handleGovernanceEvent_published (h : handleGovernanceEvent v event header = .ok v') :
    ∃ w, wormholeMessageFromEvent event = .ok w ∧ (v'.published = v.published ∨
      ∃ pub, w.toMessagePublication header = .ok pub ∧ v'.published = v.published ++ [pub]) := by
  obtain ⟨w, hw, h⟩ := Go.bind_eq_ok.mp h
  refine ⟨w, hw, ?_⟩
  obtain ⟨isTransfer, -, h⟩ := Go.bind_eq_ok.mp h
  split at h
  · obtain ⟨t, -, h⟩ := Go.bind_eq_ok.mp h
    obtain ⟨⟨v₁, result⟩, hvalidate, h⟩ := Go.bind_eq_ok.mp h
    have hsame := validateTransferMessage_published hvalidate
    cases result with
    | error reason =>
      obtain rfl := Go.ok.inj h
      exact .inl hsame
    | ok _ =>
      obtain ⟨pub, hpub, hpublished⟩ := publish_published h
      exact .inr ⟨pub, hpub, by rw [hpublished, hsame]⟩
  · exact .inr (publish_published h)

/-- The payload of the publication: all of it, or 33 bytes less when it starts like a transfer. -/
theorem toMessagePublication_payload {w : WormholeMessage} {b : UInt8} {rest : List UInt8}
    (hpayload : w.payload = b :: rest) (h : w.toMessagePublication header = .ok pub) :
    if b = transferPayloadId then
      33 ≤ w.payload.length ∧ pub.payload = w.payload.take (w.payload.length - 33)
    else pub.payload = w.payload := by
  have htransfer : w.isTransferMessage = .ok (decide (b = transferPayloadId)) := by
    rw [WormholeMessage.isTransferMessage, hpayload]
  rw [WormholeMessage.toMessagePublication, htransfer, Go.ok_bind] at h
  split
  · rename_i hb
    rw [if_pos (decide_eq_true hb)] at h
    by_cases hlength : 33 ≤ w.payload.length
    · rw [if_pos hlength] at h
      obtain ⟨payload, hshort, heq⟩ := Go.bind_eq_ok.mp h
      obtain rfl := Go.ok.inj heq
      exact ⟨hlength, (Go.ok.inj hshort).symm⟩
    · rw [if_neg hlength] at h
      cases h
  · rename_i hb
    rw [if_neg (by simpa using hb)] at h
    obtain ⟨payload, hall, heq⟩ := Go.bind_eq_ok.mp h
    obtain rfl := Go.ok.inj heq
    exact (Go.ok.inj hall).symm

/-- **What is forwarded.** The message was readable; its payload is forwarded whole, or without its last
33 bytes when it starts like a transfer. -/
theorem Publishes.payload (hfields : event.fields = (ChainEvent.message m).fields)
    (h : Publishes v header event pub) :
    m.sequence < 2 ^ 64 ∧ m.consistencyLevel < 255 ∧ 5 ≤ m.data.length ∧
      if m.data[4]? = some transferPayloadId then
        33 ≤ (m.data.drop 4).length ∧
          pub.payload = (m.data.drop 4).take ((m.data.drop 4).length - 33)
      else pub.payload = m.data.drop 4 := by
  obtain ⟨v', hhandle, hpublished⟩ := h
  obtain ⟨w, hw, hsent⟩ := handleGovernanceEvent_published hhandle
  obtain ⟨hsequence, hlevel, hlength, rfl⟩ := (wormholeMessageFromEvent_eq_ok hfields).mp hw
  rcases hsent with hsame | ⟨pub', hpub, hpublished'⟩
  · -- nothing was sent
    rw [hsame] at hpublished
    exact absurd (congrArg List.length hpublished) (by simp)
  · rw [hpublished'] at hpublished
    obtain rfl : pub' = pub := by simpa using hpublished
    have hne : 5 ≤ m.data.length := by
      by_contra hshort
      have hempty : m.data.drop 4 = [] := List.drop_eq_nil_of_le (by omega)
      simp [WormholeMessage.toMessagePublication, WormholeMessage.isTransferMessage, hempty,
        outOfRange] at hpub
    obtain ⟨b, rest, hdrop, hb⟩ := exists_drop_eq_cons hne
    have hpayload := toMessagePublication_payload hdrop hpub
    refine ⟨hsequence, hlevel, hne, ?_⟩
    simpa only [hb, Option.some.injEq] using hpayload

/-- A plain message is forwarded as it is. -/
theorem Plain.forwards (h : Plain m) (v : Validator) (header : BlockHeader)
    (hfields : event.fields = (ChainEvent.message m).fields) :
    ∃ pub, Publishes v header event pub ∧ pub.payload = m.data.drop 4 := by
  obtain ⟨hsequence, hlevel, hlength, hfirst⟩ := h
  obtain ⟨b, rest, hdrop, hb⟩ := exists_drop_eq_cons hlength
  have hne : b ≠ transferPayloadId := by
    rintro rfl
    exact hfirst hb
  obtain ⟨w, hread, hpayload⟩ : ∃ w, wormholeMessageFromEvent event = .ok w ∧
      w.payload = m.data.drop 4 :=
    ⟨_, (wormholeMessageFromEvent_eq_ok hfields).mpr ⟨hsequence, hlevel, by omega, rfl⟩, rfl⟩
  have hcons := hpayload.trans hdrop
  have htransfer : w.isTransferMessage = .ok false := by
    rw [WormholeMessage.isTransferMessage, hcons]
    simp [hne]
  obtain ⟨v', hpublish, -⟩ := @publish_eq_ok v header w b rest hcons fun heq => absurd heq hne
  obtain ⟨pub, hpub, hpublished⟩ := publish_published hpublish
  have hwhole := toMessagePublication_payload hcons hpub
  rw [if_neg hne] at hwhole
  refine ⟨pub, ⟨v', ?_, hpublished⟩, hwhole.trans hpayload⟩
  rw [handleGovernanceEvent, hread, Go.ok_bind, htransfer, Go.ok_bind]
  exact hpublish

/-- **Nothing else comes through unchanged.** -/
theorem Publishes.plain (hfields : event.fields = (ChainEvent.message m).fields)
    (h : Publishes v header event pub) (hpayload : pub.payload = m.data.drop 4) : Plain m := by
  obtain ⟨hsequence, hlevel, hlength, hshape⟩ := h.payload hfields
  refine ⟨hsequence, hlevel, hlength, fun hfirst => ?_⟩
  rw [if_pos hfirst] at hshape
  have hshorter := congrArg List.length (hpayload.symm.trans hshape.2)
  rw [List.length_take] at hshorter
  omega

end Publishes

/-! ## What the token bridge sends -/

/-- What `TokenWrapper.transfer` and `publishTransfer` have put together: the transfer, the flag of the
wrapper and its id. -/
structure TransferOf (w : World) (m : Governance.WormholeMessage) (wrapper : Byte32)
    (s : TokenWrapper.State) (transfer : ByteVec) : Prop where
  at' : w.wrapperAt wrapper = some s
  payload : m.data.drop 4 = transfer ++ TokenWrapper.byteVecOfBool s.isLocalToken ++ wrapper.val
  first : transfer.head? = some 0x01
  length : s.tokenContractId.length = 32 → transfer.length = 133

/-- The token bridge sends attestations and transfers of wrappers. -/
def BridgeMessages (w : World) : Prop :=
  ∀ origin m, .published origin m ∈ w.log → m.sender = w.tokenBridgeId →
    (∃ rest, m.data.drop 4 = 0x02 :: rest) ∨ ∃ wrapper s transfer, TransferOf w m wrapper s transfer

section Bridge

variable {crypto : Governance.Crypto} {distance : Nat} {w₀ w w' : World} {tx : Tx}

theorem transferOf_publishMessage {s : TokenWrapper.State} {wrapper : Byte32} {toAddress nonce : ByteVec}
    {amount arbiterFee sequence consistencyLevel : Nat} {data : ByteVec}
    (hs : w.wrapperAt wrapper = some s)
    (hdata : TokenWrapper.transfer s toAddress amount arbiterFee nonce = some data) :
    ∃ transfer, TransferOf w (Governance.publishMessage w.tokenBridgeId sequence nonce
      (data ++ wrapper.val) consistencyLevel) wrapper s transfer := by
  obtain ⟨haddress, hnonce, amountBytes, chainBytes, remoteBytes, feeBytes, rfl⟩ :=
    TokenWrapper.transfer_eq_some hdata
  refine ⟨_, hs, publishMessage_data_drop hnonce, rfl, fun htoken => ?_⟩
  simp [amountBytes.property, chainBytes.property, remoteBytes.property, feeBytes.property, haddress,
    htoken]

/-- **Step.** A call of a wrapper adds its transfer, one of the bridge an attestation. -/
theorem BridgeMessages.effect (h : BridgeMessages w) (horigins : Origins w)
    (heffect : Effect crypto distance w tx w') : BridgeMessages w' := by
  intro origin m hm hsender
  rw [heffect.tokenBridgeId] at hsender
  rcases heffect.published hm with hm | hm
  · apply (h origin m hm hsender).imp_right
    rintro ⟨wrapper, s, transfer, htransfer⟩
    exact ⟨wrapper, s, transfer, heffect.wrapperAt htransfer.at', htransfer.payload, htransfer.first,
      htransfer.length⟩
  · cases hm with
    | direct _ sequence nonce payload consistencyLevel hcall hcaller =>
      -- the bridge is no contract of somebody else
      have hself : origin = w.tokenBridgeId := hsender
      rw [hself, horigins.tokenBridge] at hcaller
      cases hcaller
    | attest sequence nonce rest consistencyLevel hnonce =>
      exact .inl ⟨rest, publishMessage_data_drop hnonce⟩
    | transfer _ toAddress amount arbiterFee nonce consistencyLevel s data sequence hcall hs hdata =>
      obtain ⟨transfer, htransfer⟩ := transferOf_publishMessage hs hdata
      exact .inr ⟨origin, s, transfer, heffect.wrapperAt htransfer.at', htransfer.payload,
        htransfer.first, htransfer.length⟩

/-- **Run.** -/
theorem BridgeMessages.run (hfresh : w₀.Fresh)
    (hrun : Run (Wormhole.Alephium.step crypto distance) (fun _ _ => True) w₀ w) :
    BridgeMessages w := by
  refine (hrun.invariant (I := fun w => Origins w ∧ BridgeMessages w)
    (fun w tx w' h _ hstep => ?_) ⟨.of_fresh hfresh, fun origin m hm => ?_⟩).2
  · have heffect := step_effect hstep
    exact ⟨h.1.effect heffect, h.2.effect h.1 heffect⟩
  · simp [hfresh.log] at hm

end Bridge

/-! ## Integrity -/

/-- **Payload integrity.** The message of another contract is forwarded with its payload, byte by byte.
A payload that is forwarded in another form is the transfer of a token wrapper, sent by the token
bridge, and it has lost the wrapper's flag and id. -/
structure Intact (w : World) (v : Validator) (header : BlockHeader) (event : Event)
    (m : Governance.WormholeMessage) : Prop where
  other : m.sender ≠ w.tokenBridgeId →
    ∃ pub, Publishes v header event pub ∧ pub.payload = m.data.drop 4
  shortened : ∀ pub, Publishes v header event pub → pub.payload ≠ m.data.drop 4 →
    m.sender = w.tokenBridgeId ∧ ∃ wrapper s, TransferOf w m wrapper s pub.payload

/-- What is left of a transfer. -/
theorem TransferOf.of_forwards {w : World} {m : Governance.WormholeMessage} {wrapper : Byte32}
    {s : TokenWrapper.State} {transfer : ByteVec} {v : Validator} {header : BlockHeader} {event : Event}
    {pub : MessagePublication} (h : TransferOf w m wrapper s transfer)
    (hfields : event.fields = (ChainEvent.message m).fields) (hpublishes : Publishes v header event pub) :
    pub.payload = transfer := by
  have hfirst : m.data[4]? = some transferPayloadId := by
    have hhead := congrArg List.head? h.payload
    rw [List.head?_append_of_ne_nil _ (by simp [TokenWrapper.byteVecOfBool]), List.head?_append,
      h.first, List.head?_drop] at hhead
    exact hhead
  obtain ⟨-, -, -, hshape⟩ := hpublishes.payload hfields
  rw [if_pos hfirst, h.payload] at hshape
  have htail : (TokenWrapper.byteVecOfBool s.isLocalToken ++ wrapper.val).length = 33 := by
    simp [TokenWrapper.byteVecOfBool, wrapper.property]
  rw [hshape.2, List.append_assoc, List.length_append, htail, Nat.add_sub_cancel]
  exact List.take_left' rfl

/-- **Which messages keep their payload.** In every run from a fresh world, whatever the validator has
recorded: those of the token bridge, and the plain ones of other contracts. -/
theorem intact_iff {crypto : Governance.Crypto} {distance : Nat} {w₀ w : World} {origin : Byte32}
    {m : Governance.WormholeMessage} {v : Validator} {header : BlockHeader} {event : Event}
    (hfresh : w₀.Fresh)
    (hrun : Run (Wormhole.Alephium.step crypto distance) (fun _ _ => True) w₀ w)
    (hm : .published origin m ∈ w.log) (hfields : event.fields = (ChainEvent.message m).fields) :
    Intact w v header event m ↔ (m.sender ≠ w.tokenBridgeId → Plain m) := by
  constructor
  · intro h hother
    obtain ⟨pub, hpublishes, hpayload⟩ := h.other hother
    exact hpublishes.plain hfields hpayload
  · intro hplain
    refine ⟨fun hother => (hplain hother).forwards v header hfields, fun pub hpublishes hchanged => ?_⟩
    obtain ⟨-, -, -, hshape⟩ := hpublishes.payload hfields
    have hfirst : m.data[4]? = some transferPayloadId := by
      by_contra hfirst
      rw [if_neg hfirst] at hshape
      exact hchanged hshape
    by_cases hsender : m.sender = w.tokenBridgeId
    · refine ⟨hsender, ?_⟩
      rcases BridgeMessages.run hfresh hrun origin m hm hsender with
        ⟨rest, hattest⟩ | ⟨wrapper, s, transfer, htransfer⟩
      · -- an attestation starts with another byte
        rw [← List.head?_drop, hattest] at hfirst
        exact absurd hfirst (by simp [transferPayloadId])
      · rw [htransfer.of_forwards hfields hpublishes]
        exact ⟨wrapper, s, htransfer⟩
    · exact absurd hfirst (hplain hsender).2.2.2

/-! ## Inputs -/

/-- A contract publishes 166 bytes of its own, as many as a transfer has. -/
def ownMessage (first : UInt8) : Governance.WormholeMessage :=
  Governance.publishMessage (sampleId 0xee) 0 [0x00, 0x00, 0x00, 0x00]
    (first :: List.replicate 165 0x00) 0

def publishOwn (first : UInt8) : List Call :=
  [.publishMessage (sampleId 0xee) 0 [0x00, 0x00, 0x00, 0x00] (first :: List.replicate 165 0x00) 0]

def sampleHeader : BlockHeader := (sampleConfirmed 0 []).blockHeader

/-- They come through when they start with the byte 2. -/
theorem ownMessage_intact : Intact (worldAfter (publishOwn 2)) freshValidator sampleHeader
    (sampleEvent (.message (ownMessage 2))) (ownMessage 2) := by
  have hrun : Run (Wormhole.Alephium.step Governance.Crypto.sample 64) (fun _ _ => True) freshWorld
      (worldAfter (publishOwn 2)) := run_attempts (P := fun _ => True) _ _ fun _ _ => trivial
  have hlog : (worldAfter (publishOwn 2)).log = [.published (sampleId 0xee) (ownMessage 2)] := by
    decide +kernel
  exact (intact_iff freshWorld_fresh hrun (by rw [hlog]; exact List.mem_singleton_self _) rfl).mpr
    fun _ => by decide +kernel

set_option maxRecDepth 2000 in
/-- **They are dropped when they start with the byte 1.** -/
theorem ownMessage_dropped :
    Run (Wormhole.Alephium.step Governance.Crypto.sample 64) (fun _ _ => True) freshWorld
      (worldAfter (publishOwn 1)) ∧
    .published (sampleId 0xee) (ownMessage 1) ∈ (worldAfter (publishOwn 1)).log ∧
    (ownMessage 1).sender ≠ (worldAfter (publishOwn 1)).tokenBridgeId ∧
    handleGovernanceEvent freshValidator (sampleEvent (.message (ownMessage 1))) sampleHeader =
      .ok freshValidator ∧
    ¬Intact (worldAfter (publishOwn 1)) freshValidator sampleHeader
      (sampleEvent (.message (ownMessage 1))) (ownMessage 1) := by
  have hother : (ownMessage 1).sender ≠ (worldAfter (publishOwn 1)).tokenBridgeId := by decide +kernel
  have hlog : (worldAfter (publishOwn 1)).log = [.published (sampleId 0xee) (ownMessage 1)] := by
    decide +kernel
  have hdropped : handleGovernanceEvent freshValidator (sampleEvent (.message (ownMessage 1)))
      sampleHeader = .ok freshValidator := rfl
  refine ⟨run_attempts (P := fun _ => True) _ _ fun _ _ => trivial,
    by rw [hlog]; exact List.mem_singleton_self _, hother, hdropped, fun h => ?_⟩
  obtain ⟨pub, ⟨v', hhandle, hpublished⟩, -⟩ := h.other hother
  obtain rfl := Go.ok.inj (hdropped.symm.trans hhandle)
  exact absurd (congrArg List.length hpublished) (by simp)

end Wormhole.Guardian.Alephium

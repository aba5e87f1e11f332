/-
# Wormhole.TransferFees — one governance payload, read by four contracts.

The payload is the governance header followed by the amount and the recipient, 32 bytes each.  The EVM, the
Solana and the Alephium contract read the two in this order.  `TransferFee::deserialize` of the Terra
contract reads the recipient from the first field and the amount from the second one
(`terra_reads`), so it agrees with the others only where swapping the two fields changes nothing
(`sameOnEveryChain_iff`).
-/
import Mathlib
import Wormhole.Lib.Bytes
import Wormhole.Lib.Reader
import Wormhole.Alephium.Governance
import Wormhole.Ethereum.Governance
import Wormhole.GovernanceHeader
import Wormhole.Solana.Payloads
import Wormhole.Terra.Core

namespace Wormhole.TransferFees

open Wormhole.Lib Wormhole.Lib.Bytes

/-! ## The payload -/

/-- "Core", padded to 32 bytes. -/
def coreModule : FixedBytes 32 := ⟨Ethereum.Governance.coreModule, rfl⟩

/-- Module "Core", action 4, the chain, the amount and the recipient. -/
def payload (chain : UInt16) (amount recipient : FixedBytes 32) : List UInt8 :=
  GovernanceHeader.payload coreModule 4 chain (amount.val ++ recipient.val)

section Fields

variable (chain : UInt16) (amount recipient : FixedBytes 32)

theorem payload_length : (payload chain amount recipient).length = 99 := by
  rw [payload, GovernanceHeader.payload_length, List.length_append, amount.property, recipient.property]

theorem payload_amount : slice? (payload chain amount recipient) 35 67 = some amount.val :=
  (GovernanceHeader.slice_rest _ _ _ _ 0 32).trans (slice?_head amount.property _)

theorem payload_recipient : slice? (payload chain amount recipient) 67 99 = some recipient.val := by
  have hrest : slice? (amount.val ++ recipient.val) 32 (amount.val ++ recipient.val).length =
      some recipient.val := slice?_suffix rfl amount.property.symm
  rw [List.length_append, amount.property, recipient.property] at hrest
  exact (GovernanceHeader.slice_rest _ _ _ _ 32 64).trans hrest

end Fields

/-! ## What each contract reads -/

/-- A transfer of fees as the Terra contract executes it: the amount, sent to a 20-byte address. -/
def terraSends (api : Terra.Core.Api) (s : Terra.Core.State) (amount : Nat) (recipient : List UInt8) :
    Terra.StdResult (Terra.Core.State × Terra.Core.Response) := do
  let toAddress ← api.addrHumanize recipient
  return (s, ⟨[.send toAddress [⟨Terra.Core.FEE_DENOMINATION, amount⟩]], none⟩)

/-- The payload of `amount` and `recipient` is read as just that by all four contracts.  An address on
Terra is the last 20 bytes of the 32. -/
structure SameOnEveryChain (amount recipient : FixedBytes 32) : Prop where
  ethereum : ∀ chain, Ethereum.Governance.parseTransferFees (payload chain amount recipient) = .ok {
    module' := Ethereum.Governance.coreModule, chain := chain.toNat, amount := beNat amount.val, recipient }
  solana : ∀ chain : UInt16, chain.toNat = Solana.CHAIN_ID_SOLANA ∨ chain.toNat = 0 →
    Solana.GovernancePayloadTransferFees.deserialize (payload chain amount recipient) =
      .ok { amount := beNat amount.val, to' := recipient }
  alephium : ∀ (crypto : Alephium.Governance.Crypto) (distance now : Nat)
    (s s' : Alephium.Governance.State) (vaa : List UInt8) (chain : UInt16),
    Alephium.Governance.verifyGovernanceVAA crypto distance s now vaa =
      some (s', payload chain amount recipient) → chain.toNat = s'.chainId ∨ chain.toNat = 0 →
    Alephium.Governance.submitTransferFee crypto distance s now vaa =
      some (s', beNat amount.val, recipient.val)
  terra : ∀ (api : Terra.Core.Api) (s : Terra.Core.State) (blockTime : Nat) (chain : UInt16),
    chain.toNat = 0 ∨ chain.toNat = Terra.Core.CHAIN_ID →
    Terra.Core.handleGovernancePayload api s blockTime (payload chain amount recipient) =
      terraSends api s (beNat amount.val) (recipient.val.drop 12)

section Reads

variable (chain : UInt16) (amount recipient : FixedBytes 32)

theorem ethereum_reads :
    Ethereum.Governance.parseTransferFees (payload chain amount recipient) = .ok {
      module' := Ethereum.Governance.coreModule, chain := chain.toNat, amount := beNat amount.val,
      recipient } := by
  have hmodule : Ethereum.toBytes32 (payload chain amount recipient) 0 = .ok Ethereum.Governance.coreModule :=
    GovernanceHeader.toBytes32_module ..
  have haction : Ethereum.toUint8 (payload chain amount recipient) 32 = .ok 4 :=
    GovernanceHeader.toUint8_action ..
  have hchain : Ethereum.toUint16 (payload chain amount recipient) 33 = .ok chain.toNat :=
    GovernanceHeader.toUint16_chain ..
  have hamount : Ethereum.toUint "toUint256_outOfBounds" 32 (payload chain amount recipient) 35 =
      .ok (beNat amount.val) :=
    Ethereum.toUint_ok (payload_amount chain amount recipient)
  have hrecipient : Ethereum.toWord "toBytes32_outOfBounds" (payload chain amount recipient) 67 =
      .ok recipient :=
    Ethereum.toWord_eq_ok.mpr (payload_recipient chain amount recipient)
  simp only [Ethereum.Governance.parseTransferFees, hmodule, haction, hchain, hamount, hrecipient,
    Ethereum.require_true (payload_length chain amount recipient), Ethereum.require_true, Failing.ok_bind]
  rfl

theorem solana_reads (hchain : chain.toNat = Solana.CHAIN_ID_SOLANA ∨ chain.toNat = 0) :
    Solana.GovernancePayloadTransferFees.deserialize (payload chain amount recipient) =
      .ok { amount := beNat amount.val, to' := recipient } := by
  show Reader.decode (do Solana.checkGovernanceHeader Solana.MODULE 4; _) (Solana.padModule Solana.MODULE ++
    (beBytes 1 4 ++ (beBytes 2 chain.toNat ++ (amount.val ++ recipient.val)))) = _
  rw [Solana.decode_header (by decide) (by decide) hchain]
  simp only [Reader.decode, Solana.readU256, Solana.readExact, Solana.atEnd, Reader.bind_run,
    Reader.number_array, Reader.array_end, Reader.finished_nil, Failing.ok_bind]
  rfl

open Alephium.Vm Alephium.Governance in
theorem alephium_reads (crypto : Crypto) (distance now : Nat) (s s' : State) (vaa : List UInt8)
    (hverify : verifyGovernanceVAA crypto distance s now vaa = some (s', payload chain amount recipient))
    (hchain : chain.toNat = s'.chainId ∨ chain.toNat = 0) :
    submitTransferFee crypto distance s now vaa = some (s', beNat amount.val, recipient.val) := by
  have hcheck : checkModuleAndAction (payload chain amount recipient) 0 [0x04] = some () :=
    GovernanceHeader.checkModuleAndAction_core _ _ _ _ rfl
  have hchainSlice : byteVecSlice (payload chain amount recipient) 33 35 = some (beBytes 2 chain.toNat) :=
    GovernanceHeader.byteVecSlice_chain ..
  have hchainId : u256From2Byte (beBytes 2 chain.toNat) = some chain.toNat :=
    u256FromBytes_beBytes (toNat_lt_uint16 chain)
  have hamountSlice : byteVecSlice (payload chain amount recipient) 35 67 = some amount.val :=
    payload_amount chain amount recipient
  have hamount : u256From32Byte amount.val = some (beNat amount.val) :=
    u256FromBytes_eq_some.mpr ⟨amount.property, rfl⟩
  have hrecipient : byteVecSlice (payload chain amount recipient) 67 99 = some recipient.val :=
    payload_recipient chain amount recipient
  simp only [submitTransferFee, hverify, hcheck, hchainSlice, hchainId, hamountSlice, hamount, hrecipient,
    assert_true hchain, assert_true (payload_length chain amount recipient), some_bind, Option.pure_def]

/-- The two fields of the payload behind its header, as `TransferFee::deserialize` takes them. -/
theorem transferFee_deserialize :
    Terra.Core.TransferFee.deserialize (amount.val ++ recipient.val) =
      .ok (⟨Terra.Core.FEE_DENOMINATION, beNat (recipient.val.drop 16)⟩, amount.val.drop 12) := by
  have haddress : Terra.getAddress (amount.val ++ recipient.val) 0 = .ok (amount.val.drop 12) := by
    have hsplit : amount.val ++ recipient.val =
        amount.val.take 12 ++ (amount.val.drop 12 ++ recipient.val) := by
      rw [← List.append_assoc, List.take_append_drop]
    exact Terra.getBytes_eq_ok.mpr (slice?_mid hsplit
      (by rw [List.length_take, amount.property]; rfl) (by rw [List.length_drop, amount.property]))
  have hsplit : amount.val ++ recipient.val =
      amount.val ++ (recipient.val.take 16 ++ recipient.val.drop 16) := by
    rw [List.take_append_drop]
  have hhigh : Terra.getBytes (amount.val ++ recipient.val) 32 16 = .ok (recipient.val.take 16) :=
    Terra.getBytes_eq_ok.mpr (slice?_mid hsplit (by rw [amount.property])
      (by rw [List.length_take, recipient.property]; rfl))
  have hlow : Terra.getBytes (amount.val ++ recipient.val) 48 16 = .ok (recipient.val.drop 16) := by
    have hsplit' : amount.val ++ recipient.val =
        (amount.val ++ recipient.val.take 16) ++ (recipient.val.drop 16 ++ []) := by
      rw [List.append_nil, List.append_assoc, List.take_append_drop]
    exact Terra.getBytes_eq_ok.mpr (slice?_mid hsplit'
      (by rw [List.length_append, amount.property, List.length_take, recipient.property]; rfl)
      (by rw [List.length_drop, recipient.property]))
  simp only [Terra.Core.TransferFee.deserialize, haddress, Terra.getU256, Terra.getU128, Terra.getUint, hhigh,
    hlow, Go.ok_bind, Go.pure_eq]

/-- **The Terra contract swaps the fields.** -/
theorem terra_reads (api : Terra.Core.Api) (s : Terra.Core.State) (blockTime : Nat)
    (hchain : chain.toNat = 0 ∨ chain.toNat = Terra.Core.CHAIN_ID) :
    Terra.Core.handleGovernancePayload api s blockTime (payload chain amount recipient) =
      terraSends api s (beNat (recipient.val.drop 16)) (amount.val.drop 12) := by
  have hmodule : Terra.getBytes32 (payload chain amount recipient) 0 = .ok Ethereum.Governance.coreModule :=
    Terra.getBytes_eq_ok.mpr (GovernanceHeader.slice_module ..)
  have hname : Terra.Core.moduleName Ethereum.Governance.coreModule = .ok "Core" := by decide +kernel
  have haction : Terra.getU8 (payload chain amount recipient) 32 = .ok 4 := by
    have hbyte : Terra.getBytes (payload chain amount recipient) 32 1 = .ok [0x04] :=
      Terra.getBytes_eq_ok.mpr (GovernanceHeader.slice_action ..)
    rw [Terra.getU8, Terra.getUint, hbyte]
    rfl
  have hchainId : Terra.getU16 (payload chain amount recipient) 33 = .ok chain.toNat := by
    have hbytes : Terra.getBytes (payload chain amount recipient) 33 2 = .ok (beBytes 2 chain.toNat) :=
      Terra.getBytes_eq_ok.mpr (GovernanceHeader.slice_chain ..)
    rw [Terra.getU16, Terra.getUint, hbytes, Go.ok_bind, beNat_beBytes (toNat_lt_uint16 chain)]
    rfl
  have hrest : Terra.getRest (payload chain amount recipient) 35 = .ok (amount.val ++ recipient.val) := by
    have hslice : slice? (payload chain amount recipient) 35 (payload chain amount recipient).length =
        some (amount.val ++ recipient.val) := GovernanceHeader.slice_all ..
    rw [Terra.getRest, hslice]
  simp only [Terra.Core.handleGovernancePayload, Terra.Core.GovernancePacket.deserialize, hmodule, haction,
    hchainId, hrest, hname, Terra.ensure, hchain, if_true, Terra.Core.handleTransferFee,
    transferFee_deserialize amount recipient, Go.ok_bind, Go.pure_eq]
  rfl

end Reads

/-! ## Agreement -/

/-- A chain that knows one address. -/
def onlyAddress (address : List UInt8) : Terra.Core.Api where
  addrCanonicalize := fun _ => .ok address
  addrHumanize := fun canonical => if canonical = address then .ok "terra1" else .error "unknown address"

def emptyState : Terra.Core.State :=
  Terra.Core.instantiate {
    govChain := 1, govAddress := [], initialGuardianSet := ⟨[], 0⟩, guardianSetExpirity := 0 }

theorem terraSends_inj {s : Terra.Core.State} {amount amount' : Nat} {recipient recipient' : List UInt8}
    (h : terraSends (onlyAddress recipient') s amount recipient =
      terraSends (onlyAddress recipient') s amount' recipient') :
    recipient = recipient' ∧ amount = amount' := by
  by_cases hrecipient : recipient = recipient'
  · refine ⟨hrecipient, ?_⟩
    subst hrecipient
    simpa [terraSends, onlyAddress] using h
  · simp [terraSends, onlyAddress, hrecipient] at h

/-- **When the four contracts agree.** The amount fits 128 bits and is the number that the last 20 bytes of
the recipient write. -/
theorem sameOnEveryChain_iff (amount recipient : FixedBytes 32) :
    SameOnEveryChain amount recipient ↔
      beNat amount.val < 2 ^ 128 ∧ beNat (recipient.val.drop 12) = beNat amount.val := by
  have hpow : (2 : Nat) ^ 128 = 256 ^ 16 := by norm_num
  -- the last 20 bytes of the amount field are those of its value
  have htail : beBytes 20 (beNat amount.val) = amount.val.drop 12 :=
    beBytes_beNat_drop (by rw [amount.property])
  constructor
  · intro h
    -- on a chain where the recipient is the only address
    have hterra := h.terra (onlyAddress (recipient.val.drop 12)) emptyState 0 0 (.inl rfl)
    rw [terra_reads _ _ _ _ _ _ (.inl rfl)] at hterra
    obtain ⟨haddress, hvalue⟩ := terraSends_inj hterra
    have hlt : beNat amount.val < 256 ^ 16 := by
      have hbound := beNat_lt (recipient.val.drop 16)
      rwa [List.length_drop, recipient.property, hvalue] at hbound
    refine ⟨by rw [hpow]; exact hlt, ?_⟩
    rw [← haddress, ← htail]
    exact beNat_beBytes (hlt.trans_le (Nat.pow_le_pow_right (by decide) (by decide)))
  · rintro ⟨hlt, hvalue⟩
    rw [hpow] at hlt
    have haddress : recipient.val.drop 12 = beBytes 20 (beNat amount.val) := by
      have hlen : (recipient.val.drop 12).length = 20 := by
        rw [List.length_drop, recipient.property]
      rw [← hvalue]
      have h := beBytes_beNat (recipient.val.drop 12)
      rw [hlen] at h
      exact h.symm
    have hcoin : beNat (recipient.val.drop 16) = beNat amount.val := by
      have hlen : (recipient.val.drop 12).length = 4 + 16 := by
        rw [List.length_drop, recipient.property]
      have hlow := beBytes_beNat_drop hlen
      rw [hvalue, List.drop_drop] at hlow
      rw [← hlow]
      exact beNat_beBytes hlt
    refine ⟨fun chain => ethereum_reads chain amount recipient,
      fun chain hchain => solana_reads chain amount recipient hchain, ?_, ?_⟩
    · intro crypto distance now s s' vaa chain hverify hchain
      exact alephium_reads chain amount recipient crypto distance now s s' vaa hverify hchain
    · intro api s blockTime chain hchain
      rw [terra_reads chain amount recipient api s blockTime hchain, hcoin, haddress, htail]

def sampleAmount : FixedBytes 32 := ⟨List.replicate 31 0x00 ++ [0x01], rfl⟩

def sampleRecipient : FixedBytes 32 := ⟨List.replicate 12 0x00 ++ List.replicate 20 0x11, rfl⟩

/-- One unit to `0x1111…`: the Terra contract reads the address `0x00…01` and a different amount. -/
theorem sampleTransferFees_swapped :
    ¬∀ amount recipient : FixedBytes 32, SameOnEveryChain amount recipient := by
  intro h
  have hterra := (h sampleAmount sampleRecipient).terra (onlyAddress (sampleRecipient.val.drop 12)) emptyState
    0 0 (.inl rfl)
  have hresponse : (Terra.Core.handleGovernancePayload (onlyAddress (sampleRecipient.val.drop 12)) emptyState
      0 (payload 0 sampleAmount sampleRecipient)).IsOk := by
    rw [hterra]
    exact ⟨_, rfl⟩
  revert hresponse
  decide +kernel

end Wormhole.TransferFees

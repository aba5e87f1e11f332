/-
# Wormhole.DecoderAgreement — token bridge messages, read on Terra and by the EVM contracts.

The decoders of the Terra contract read the fields at fixed offsets and look at nothing else: neither at the payload
id, which they return as the action, nor at what follows the last field.  The EVM contracts check both.

What Terra has read is accepted by the EVM contracts exactly if the action is the one of the payload and the message
ends with its last field, and then the fields are the same (`decoders_agree`).  Terra reads the same fields when
something follows (`trailing_read`).
-/
import Mathlib
import Wormhole.Lib.Bytes
import Wormhole.Lib.Failing
import Wormhole.Lib.Go
import Wormhole.Ethereum.Evm
import Wormhole.Ethereum.Bridge
import Wormhole.Terra.Cosmwasm
import Wormhole.Terra.TokenBridge
import Wormhole.Terra.TokenContract

namespace Wormhole.DecoderAgreement

open Wormhole.Lib Wormhole.Lib.Bytes
open Wormhole.Terra (StdResult)
open Wormhole.Terra.TokenBridge (TokenBridgeMessage.deserialize TransferInfo)

/-! ## The decoders of Terra -/

/-- `TokenBridgeMessage::deserialize`, and then the decoder of the payload. -/
def readMessage {α : Type} (deserialize : List UInt8 → StdResult α) (data : List UInt8) : StdResult (Nat × α) := do
  let (action, payload) ← TokenBridgeMessage.deserialize data
  return (action, ← deserialize payload)

def readTransfer : List UInt8 → StdResult (Nat × TransferInfo) := readMessage TransferInfo.deserialize

def readAssetMeta : List UInt8 → StdResult (Nat × Terra.TokenBridge.AssetMeta) :=
  readMessage Terra.TokenBridge.AssetMeta.deserialize

/-- The same transfer; on Terra the numbers are a high and a low half. -/
structure SameTransfer (t : Ethereum.Bridge.Transfer) (info : TransferInfo) : Prop where
  amount : t.amount = info.amount.1 * 2 ^ 128 + info.amount.2
  tokenAddress : t.tokenAddress.val = info.tokenAddress
  tokenChain : t.tokenChain = info.tokenChain
  recipient : t.recipient.val = info.recipient
  toChain : t.toChain = info.recipientChain
  fee : t.fee = info.fee.1 * 2 ^ 128 + info.fee.2

structure SameAssetMeta (meta' : Ethereum.Bridge.AssetMeta) (info : Terra.TokenBridge.AssetMeta) : Prop where
  tokenAddress : meta'.tokenAddress.val = info.tokenAddress
  tokenChain : meta'.tokenChain = info.tokenChain
  decimals : meta'.decimals = info.decimals
  symbol : meta'.symbol.val = info.symbol
  name : meta'.name.val = info.name

/-! ## Fields -/

section Fields

variable {payload : List UInt8} {index : Nat} (b : UInt8) (reason : String)

/-- The fields stand one byte later in the message. -/
theorem slice?_message (payload : List UInt8) (i j : Nat) :
    slice? (b :: payload) (1 + i) (1 + j) = slice? payload i j := by
  have hlength : [b].length = 1 := rfl
  exact slice?_skip hlength payload i j

theorem readBytes_message {s : List UInt8} {length : Nat} (h : Terra.getBytes payload index length = .ok s) :
    Ethereum.readBytes reason (b :: payload) (1 + index) length = .ok s := by
  apply Ethereum.readBytes_ok
  rw [Nat.add_assoc, slice?_message]
  exact Terra.getBytes_eq_ok.mp h

theorem toUint_message {w n : Nat} (h : Terra.getUint w payload index = .ok n) :
    Ethereum.toUint reason w (b :: payload) (1 + index) = .ok n := by
  obtain ⟨s, hs, h⟩ := Go.bind_eq_ok.mp h
  obtain rfl := Go.ok.inj h
  rw [Ethereum.toUint, readBytes_message b reason hs]
  rfl

theorem toWord_message {s : List UInt8} (h : Terra.getBytes32 payload index = .ok s) :
    Ethereum.toWord reason (b :: payload) (1 + index) = .ok ⟨s, Terra.getBytes_length h⟩ := by
  rw [Ethereum.toWord, readBytes_message b reason h]
  exact dif_pos (Terra.getBytes_length h)

/-- The two halves are one number. -/
theorem toUint256_message {n : Nat × Nat} (h : Terra.getU256 payload index = .ok n) :
    Ethereum.toUint reason 32 (b :: payload) (1 + index) = .ok (n.1 * 2 ^ 128 + n.2) := by
  obtain ⟨high, hhigh, h⟩ := Go.bind_eq_ok.mp h
  obtain ⟨low, hlow, h⟩ := Go.bind_eq_ok.mp h
  obtain rfl := Go.ok.inj h
  obtain ⟨hs, hhighLt⟩ := Terra.getUint_iff.mp hhigh
  obtain ⟨hu, hlowLt⟩ := Terra.getUint_iff.mp hlow
  have hslice : Terra.getBytes payload index 32 = .ok (beBytes 16 high ++ beBytes 16 low) := by
    rw [Terra.getBytes_eq_ok, slice?_eq_some]
    obtain ⟨-, -, hs⟩ := slice?_eq_some.mp hs
    obtain ⟨-, hle, hu⟩ := slice?_eq_some.mp hu
    refine ⟨Nat.le_add_right _ _, hle, ?_⟩
    rw [Nat.add_sub_cancel_left] at hs hu ⊢
    rw [← hs, ← hu, ← List.drop_drop, ← List.take_add]
  have hnumber : beNat (beBytes 16 high ++ beBytes 16 low) = high * 2 ^ 128 + low := by
    have hlt : high * 256 ^ 16 + low < 256 ^ (16 + 16) := by omega
    have hdiv : (high * 256 ^ 16 + low) / 256 ^ 16 = high := by omega
    have hbytes := beBytes_append 16 16 (high * 256 ^ 16 + low)
    rw [hdiv, beBytes_add_mul] at hbytes
    rw [← hbytes, beNat_beBytes hlt]
    rfl
  rw [Ethereum.toUint, readBytes_message b reason hslice]
  exact congrArg Except.ok hnumber

end Fields

/-! ## Agreement -/

section Agreement

variable {α : Type} {deserialize : List UInt8 → StdResult α} {data payload : List UInt8} {action : Nat}

/-- The action is the first byte, and the payload is the rest. -/
theorem readMessage_eq_ok {a : α} (h : readMessage deserialize data = .ok (action, a)) :
    ∃ b payload, data = b :: payload ∧ action = b.toNat ∧ deserialize payload = .ok a := by
  obtain ⟨⟨action', payload⟩, hmessage, h⟩ := Go.bind_eq_ok.mp h
  obtain ⟨a', ha, h⟩ := Go.bind_eq_ok.mp h
  obtain ⟨rfl, rfl⟩ := Prod.mk.inj (Go.ok.inj h)
  obtain ⟨n, haction, hmessage⟩ := Go.bind_eq_ok.mp hmessage
  obtain ⟨rest, hrest, hmessage⟩ := Go.bind_eq_ok.mp hmessage
  obtain ⟨rfl, rfl⟩ := Prod.mk.inj (Go.ok.inj hmessage)
  obtain ⟨hbyte, hlt⟩ := Terra.getUint_iff.mp haction
  cases data with
  | nil => cases hbyte
  | cons b tail =>
    refine ⟨b, tail, rfl, ?_, ?_⟩
    · obtain ⟨-, -, hb⟩ := slice?_eq_some.mp hbyte
      have hnumber : beNat [b] = beNat (beBytes 1 n) := congrArg beNat hb
      rw [beNat_singleton, beNat_beBytes hlt] at hnumber
      exact hnumber.symm
    · obtain ⟨-, -, hrest⟩ := slice?_eq_some.mp (Terra.getRest_iff.mp hrest)
      have htail : rest = tail := by
        rw [← hrest]
        exact List.take_of_length_le le_rfl
      rwa [htail] at ha

/-- A parser that checks the payload id first and the length last. -/
theorem checked_eq_ok {reason : String} {c d : Prop} [Decidable c] [Decidable d] {x y : α} :
    (do Ethereum.require c reason; Ethereum.require d reason; return x : Ethereum.Revert α) = .ok y ↔
      (c ∧ d) ∧ x = y := by
  constructor
  · intro h
    obtain ⟨_, hc, h⟩ := Failing.bind_eq_ok.mp h
    obtain ⟨_, hd, h⟩ := Failing.bind_eq_ok.mp h
    exact ⟨⟨Ethereum.require_eq_ok.mp hc, Ethereum.require_eq_ok.mp hd⟩, Except.ok.inj h⟩
  · rintro ⟨⟨hc, hd⟩, rfl⟩
    rw [Ethereum.require_true hc, Ethereum.require_true hd]
    rfl

theorem toUint8_head (b : UInt8) (payload : List UInt8) : Ethereum.toUint8 (b :: payload) 0 = .ok b.toNat := by
  have hslice : slice? ([b] ++ payload) 0 (0 + 1) = some [b] := slice?_head rfl payload
  rw [← beNat_singleton b]
  exact Ethereum.toUint_ok hslice

/-- **Transfers.** -/
theorem parseTransfer_eq_ok {info : TransferInfo} (h : readTransfer data = .ok (action, info)) :
    ∃ t, SameTransfer t info ∧ ∀ t', Ethereum.Bridge.parseTransfer data = .ok t' ↔
      (action = 1 ∧ data.length = 133) ∧ t = t' := by
  obtain ⟨b, payload, rfl, rfl, hpayload⟩ := readMessage_eq_ok h
  simp only [TransferInfo.deserialize, Go.bind_eq_ok] at hpayload
  obtain ⟨amount, hamount, tokenAddress, htokenAddress, tokenChain, htokenChain, recipient, hrecipient,
    recipientChain, hrecipientChain, fee, hfee, heq⟩ := hpayload
  obtain rfl := Go.ok.inj heq
  have hreads : Ethereum.Bridge.parseTransfer (b :: payload) = do
      Ethereum.require (b.toNat = 1) "invalid Transfer"
      Ethereum.require ((b :: payload).length = 133) "invalid Transfer"
      return {
        amount := amount.1 * 2 ^ 128 + amount.2
        tokenAddress := ⟨tokenAddress, Terra.getBytes_length htokenAddress⟩
        tokenChain
        recipient := ⟨recipient, Terra.getBytes_length hrecipient⟩
        toChain := recipientChain
        fee := fee.1 * 2 ^ 128 + fee.2 } := by
    have hamount := toUint256_message b "toUint256_outOfBounds" hamount
    have htokenAddress := toWord_message b "toBytes32_outOfBounds" htokenAddress
    have htokenChain := toUint_message b "toUint16_outOfBounds" htokenChain
    have hrecipient := toWord_message b "toBytes32_outOfBounds" hrecipient
    have hrecipientChain := toUint_message b "toUint16_outOfBounds" hrecipientChain
    have hfee := toUint256_message b "toUint256_outOfBounds" hfee
    simp only [Nat.reduceAdd] at hamount htokenAddress htokenChain hrecipient hrecipientChain hfee
    simp only [Ethereum.Bridge.parseTransfer, toUint8_head, Ethereum.toUint16, hamount, htokenAddress, htokenChain,
      hrecipient, hrecipientChain, hfee, Failing.ok_bind]
  rw [hreads]
  refine ⟨_, ?_, fun _ => checked_eq_ok⟩
  exact ⟨rfl, rfl, rfl, rfl, rfl, rfl⟩

/-- **Attestations.** -/
theorem parseAssetMeta_eq_ok {info : Terra.TokenBridge.AssetMeta} (h : readAssetMeta data = .ok (action, info)) :
    ∃ meta', SameAssetMeta meta' info ∧ ∀ meta'', Ethereum.Bridge.parseAssetMeta data = .ok meta'' ↔
      (action = 2 ∧ data.length = 100) ∧ meta' = meta'' := by
  obtain ⟨b, payload, rfl, rfl, hpayload⟩ := readMessage_eq_ok h
  simp only [Terra.TokenBridge.AssetMeta.deserialize, Go.bind_eq_ok] at hpayload
  obtain ⟨tokenAddress, htokenAddress, tokenChain, htokenChain, decimals, hdecimals, symbol, hsymbol, name, hname,
    heq⟩ := hpayload
  obtain rfl := Go.ok.inj heq
  have hreads : Ethereum.Bridge.parseAssetMeta (b :: payload) = do
      Ethereum.require (b.toNat = 2) "invalid AssetMeta"
      Ethereum.require ((b :: payload).length = 100) "invalid AssetMeta"
      return {
        tokenAddress := ⟨tokenAddress, Terra.getBytes_length htokenAddress⟩
        tokenChain
        decimals
        symbol := ⟨symbol, Terra.getBytes_length hsymbol⟩
        name := ⟨name, Terra.getBytes_length hname⟩ } := by
    have htokenAddress := toWord_message b "toBytes32_outOfBounds" htokenAddress
    have htokenChain := toUint_message b "toUint16_outOfBounds" htokenChain
    have hdecimals := toUint_message b "toUint8_outOfBounds" hdecimals
    have hsymbol := toWord_message b "toBytes32_outOfBounds" hsymbol
    have hname := toWord_message b "toBytes32_outOfBounds" hname
    have hid := toUint8_head b payload
    simp only [Nat.reduceAdd, Ethereum.toUint8] at htokenAddress htokenChain hdecimals hsymbol hname hid
    simp only [Ethereum.Bridge.parseAssetMeta, Ethereum.toUint8, Ethereum.toUint16, hid, htokenAddress, htokenChain,
      hdecimals, hsymbol, hname, Failing.ok_bind]
  rw [hreads]
  refine ⟨_, ?_, fun _ => checked_eq_ok⟩
  exact ⟨rfl, rfl, rfl, rfl, rfl⟩

end Agreement

/-- **What Terra reads, the EVM contracts accept** exactly if the action is that of the payload and nothing follows
the last field, and they read the same fields. -/
theorem decoders_agree (data : List UInt8) :
    (∀ action info, readTransfer data = .ok (action, info) →
      ((∃ t, Ethereum.Bridge.parseTransfer data = .ok t) ↔ action = 1 ∧ data.length = 133) ∧
        ∀ t, Ethereum.Bridge.parseTransfer data = .ok t → SameTransfer t info) ∧
    (∀ action info, readAssetMeta data = .ok (action, info) →
      ((∃ meta', Ethereum.Bridge.parseAssetMeta data = .ok meta') ↔ action = 2 ∧ data.length = 100) ∧
        ∀ meta', Ethereum.Bridge.parseAssetMeta data = .ok meta' → SameAssetMeta meta' info) := by
  refine ⟨?_, ?_⟩
  · intro action info h
    obtain ⟨t, hsame, hparse⟩ := parseTransfer_eq_ok h
    refine ⟨⟨?_, ?_⟩, ?_⟩
    · rintro ⟨t', ht'⟩
      exact ((hparse t').mp ht').1
    · intro haccepted
      exact ⟨t, (hparse t).mpr ⟨haccepted, rfl⟩⟩
    · intro t' ht'
      obtain ⟨-, rfl⟩ := (hparse t').mp ht'
      exact hsame
  · intro action info h
    obtain ⟨meta', hsame, hparse⟩ := parseAssetMeta_eq_ok h
    refine ⟨⟨?_, ?_⟩, ?_⟩
    · rintro ⟨meta'', hmeta⟩
      exact ((hparse meta'').mp hmeta).1
    · intro haccepted
      exact ⟨meta', (hparse meta').mpr ⟨haccepted, rfl⟩⟩
    · intro meta'' hmeta
      obtain ⟨-, rfl⟩ := (hparse meta'').mp hmeta
      exact hsame

/-! ## Inputs -/

/-- A transfer of one unit, and bytes behind it. -/
def sampleMessage (trailing : List UInt8) : List UInt8 :=
  [0x01] ++ beBytes 32 1 ++ List.replicate 32 0x11 ++ beBytes 2 2 ++ List.replicate 32 0x22 ++ beBytes 2 3 ++
    beBytes 32 0 ++ trailing

/-- What Terra reads of it. -/
def sampleInfo : TransferInfo where
  amount := (0, 1)
  tokenAddress := List.replicate 32 0x11
  tokenChain := 2
  recipient := List.replicate 32 0x22
  recipientChain := 3
  fee := (0, 0)

theorem sampleMessage_accepted : ∃ t, Ethereum.Bridge.parseTransfer (sampleMessage []) = .ok t :=
  (((decoders_agree (sampleMessage [])).1 1 sampleInfo (by decide +kernel)).1).mpr ⟨rfl, by decide +kernel⟩

/-- The EVM contracts have accepted. -/
def accepted {α : Type} : Ethereum.Revert α → Bool
  | .ok _ => true
  | .error _ => false

/-- **One more byte** is ignored on Terra, and rejected by the EVM contracts. -/
theorem trailing_read : readTransfer (sampleMessage [0x00]) = .ok (1, sampleInfo) ∧
    ¬∃ t, Ethereum.Bridge.parseTransfer (sampleMessage [0x00]) = .ok t := by
  refine ⟨by decide +kernel, ?_⟩
  rintro ⟨t, ht⟩
  have hrejected : accepted (Ethereum.Bridge.parseTransfer (sampleMessage [0x00])) = false := by decide +kernel
  rw [ht] at hrejected
  cases hrejected

end Wormhole.DecoderAgreement

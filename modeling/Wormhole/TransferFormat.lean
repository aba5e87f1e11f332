/-
# Wormhole.TransferFormat — the transfer message, written and read on four chains.

A transfer message has 133 bytes: the payload id 1, the amount, the token's address and chain, the
recipient's address and chain, and the fee.  The EVM contracts, the Solana program and the Terra contract
write and read these bytes; the Alephium wrapper appends a flag and its own id, which the guardian node
cuts off (`AlephiumPayload`).  Terra keeps the two numbers as halves of 128 bits.

`one_format`: the four ways of writing give the same bytes, and each chain reads every field back.  The
Alephium contract reads transfers to its own chain only (`alephium_reads`), and its wrapper publishes those
with a fee below the amount only.
-/
import Mathlib
import Wormhole.Lib.Bytes
import Wormhole.Alephium.TokenBridge
import Wormhole.Ethereum.Bridge
import Wormhole.Ethereum.Verification
import Wormhole.Guardian.AlephiumEvent
import Wormhole.Solana.Payloads
import Wormhole.Terra.TokenBridge

namespace Wormhole.TransferFormat

open Wormhole.Lib Wormhole.Lib.Bytes

/-! ## Transfers -/

/-- A transfer: 32-byte numbers and addresses, 16-bit chains. -/
structure Transfer where
  amount : Nat
  tokenAddress : FixedBytes 32
  tokenChain : UInt16
  recipient : FixedBytes 32
  toChain : UInt16
  fee : Nat
  amount_lt : amount < 256 ^ 32
  fee_lt : fee < 256 ^ 32

namespace Transfer

variable (t : Transfer)

def ethereum : Ethereum.Bridge.Transfer where
  amount := t.amount
  tokenAddress := t.tokenAddress
  tokenChain := t.tokenChain.toNat
  recipient := t.recipient
  toChain := t.toChain.toNat
  fee := t.fee

def solana : Solana.TokenBridge.PayloadTransfer where
  amount := t.amount
  tokenAddress := t.tokenAddress
  tokenChain := t.tokenChain.toNat
  to' := t.recipient
  toChain := t.toChain.toNat
  fee := t.fee

def terra : Terra.TokenBridge.TransferInfo where
  amount := (t.amount / 256 ^ 16, t.amount % 256 ^ 16)
  tokenAddress := t.tokenAddress.val
  tokenChain := t.tokenChain.toNat
  recipient := t.recipient.val
  recipientChain := t.toChain.toNat
  fee := (t.fee / 256 ^ 16, t.fee % 256 ^ 16)

/-- What `parseTransfer` returns on Alephium; the recipient's chain is the local one. -/
def alephium : Alephium.TokenBridgeForChain.Transfer where
  tokenId := t.tokenAddress.val
  tokenChainId := t.tokenChain.toNat
  recipientAddress := t.recipient.val
  amount := t.amount
  arbiterFee := t.fee

/-- The message. -/
def bytes : List UInt8 := Ethereum.Bridge.encodeTransfer t.ethereum

theorem bytes_eq : t.bytes = [0x01] ++ (beBytes 32 t.amount ++ (t.tokenAddress.val ++
    (beBytes 2 t.tokenChain.toNat ++ (t.recipient.val ++ (beBytes 2 t.toChain.toNat ++
      beBytes 32 t.fee))))) := by
  simp only [bytes, Ethereum.Bridge.encodeTransfer, ethereum, List.append_assoc]

theorem bytes_length : t.bytes.length = 133 := t.ethereum.encode_length

/-! ## Writing -/

theorem solana_serialize : t.solana.serialize = t.bytes := by
  simp only [bytes_eq, Solana.TokenBridge.PayloadTransfer.serialize, solana, List.append_assoc]
  rfl

/-- A number as two halves of 16 bytes. -/
theorem beBytes_halves (n : Nat) :
    beBytes 16 (n / 256 ^ 16) ++ beBytes 16 (n % 256 ^ 16) = beBytes 32 n := by
  rw [beBytes_mod, ← beBytes_append]

theorem terra_serialize : Terra.TokenBridge.transferMessage t.terra = t.bytes := by
  simp only [bytes_eq, Terra.TokenBridge.transferMessage, Terra.TokenBridge.TransferInfo.serialize, terra,
    ← beBytes_halves, List.append_assoc]

/-! ## Fields -/

theorem slice_id : slice? t.bytes 0 1 = some [0x01] := t.ethereum.slice_id

theorem slice_amount : slice? t.bytes 1 33 = some (beBytes 32 t.amount) := t.ethereum.slice_amount

theorem slice_tokenAddress : slice? t.bytes 33 65 = some t.tokenAddress.val :=
  t.ethereum.slice_tokenAddress

theorem slice_tokenChain : slice? t.bytes 65 67 = some (beBytes 2 t.tokenChain.toNat) :=
  t.ethereum.slice_tokenChain

theorem slice_recipient : slice? t.bytes 67 99 = some t.recipient.val := t.ethereum.slice_recipient

theorem slice_toChain : slice? t.bytes 99 101 = some (beBytes 2 t.toChain.toNat) :=
  t.ethereum.slice_toChain

theorem slice_fee : slice? t.bytes 101 133 = some (beBytes 32 t.fee) := t.ethereum.slice_fee

/-! ## Reading -/

theorem ethereum_parseTransfer : Ethereum.Bridge.parseTransfer t.bytes = .ok t.ethereum := by
  rw [bytes, Ethereum.Bridge.parseTransfer_encodeTransfer]
  simp only [ethereum, Nat.mod_eq_of_lt t.amount_lt, Nat.mod_eq_of_lt t.fee_lt,
    Nat.mod_eq_of_lt (toNat_lt_uint16 _)]

theorem solana_deserialize : Solana.TokenBridge.PayloadTransfer.deserialize t.bytes = .ok t.solana := by
  rw [← solana_serialize]
  exact Solana.TokenBridge.PayloadTransfer.deserialize_serialize t.solana t.amount_lt
    (toNat_lt_uint16 t.tokenChain) (toNat_lt_uint16 t.toChain) t.fee_lt

section Terra

variable {data s : List UInt8} {index : Nat}

/-- A 256-bit number is read as its halves. -/
theorem terra_getU256 {n : Nat} (h : slice? data index (index + 32) = some (beBytes 32 n))
    (hn : n < 256 ^ 32) : Terra.getU256 data index = .ok (n / 256 ^ 16, n % 256 ^ 16) := by
  have hhigh : slice? (beBytes 32 n) 0 16 = some (beBytes 16 (n / 256 ^ 16)) := by
    rw [← beBytes_halves n]
    exact slice?_head (beBytes_length ..) _
  have hlow : slice? (beBytes 32 n) 16 32 = some (beBytes 16 (n % 256 ^ 16)) := by
    have h32 := slice?_suffix (beBytes_halves n).symm (beBytes_length 16 (n / 256 ^ 16)).symm
    rwa [beBytes_length] at h32
  have hdiv : n / 256 ^ 16 < 256 ^ 16 := by
    rw [Nat.div_lt_iff_lt_mul (by positivity), ← pow_add]
    exact hn
  have hfirst : Terra.getU128 data index = .ok (n / 256 ^ 16) := Terra.getUint_iff.mpr ⟨slice?_slice? h hhigh, hdiv⟩
  have hsecond : Terra.getU128 data (index + 16) = .ok (n % 256 ^ 16) :=
    Terra.getUint_iff.mpr ⟨slice?_slice? h hlow, Nat.mod_lt _ (by positivity)⟩
  rw [Terra.getU256, hfirst, Go.ok_bind, hsecond]
  rfl

end Terra

/-- Behind the action, the fields stand one byte earlier. -/
theorem terra_slice (i j : Nat) : slice? t.terra.serialize i j = slice? t.bytes (1 + i) (1 + j) := by
  rw [← terra_serialize]
  exact (slice?_skip rfl _ i j).symm

theorem terra_deserialize :
    Terra.TokenBridge.TokenBridgeMessage.deserialize t.bytes = .ok (1, t.terra.serialize) ∧
      Terra.TokenBridge.TransferInfo.deserialize t.terra.serialize = .ok t.terra := by
  refine ⟨?_, ?_⟩
  · have haction : Terra.getU8 t.bytes 0 = .ok 1 := Terra.getUint_iff.mpr ⟨t.slice_id, by decide⟩
    have hrest : Terra.getRest t.bytes 1 = .ok t.terra.serialize := by
      have hslice : slice? t.bytes 1 t.bytes.length = some t.terra.serialize :=
        slice?_suffix t.terra_serialize.symm rfl
      rw [Terra.getRest, hslice]
    rw [Terra.TokenBridge.TokenBridgeMessage.deserialize, haction, Go.ok_bind, hrest]
    rfl
  · have hamount := terra_getU256 ((t.terra_slice 0 32).trans t.slice_amount) t.amount_lt
    have htoken : Terra.getBytes32 t.terra.serialize 32 = .ok t.tokenAddress.val :=
      Terra.getBytes_eq_ok.mpr ((t.terra_slice 32 64).trans t.slice_tokenAddress)
    have htokenChain : Terra.getU16 t.terra.serialize 64 = .ok t.tokenChain.toNat :=
      Terra.getU16_iff.mpr ((t.terra_slice 64 66).trans t.slice_tokenChain)
    have hrecipient : Terra.getBytes32 t.terra.serialize 66 = .ok t.recipient.val :=
      Terra.getBytes_eq_ok.mpr ((t.terra_slice 66 98).trans t.slice_recipient)
    have htoChain : Terra.getU16 t.terra.serialize 98 = .ok t.toChain.toNat :=
      Terra.getU16_iff.mpr ((t.terra_slice 98 100).trans t.slice_toChain)
    have hfee : Terra.getU256 t.terra.serialize 100 = .ok t.terra.fee :=
      terra_getU256 ((t.terra_slice 100 132).trans t.slice_fee) t.fee_lt
    simp only [Terra.TokenBridge.TransferInfo.deserialize, hamount, htoken, htokenChain, hrecipient, htoChain,
      hfee, Go.ok_bind]
    rfl

/-! ## Alephium -/

open Alephium Alephium.Vm in
/-- A payload that the node signs for a transfer of an Alephium wrapper: what the wrapper hands to its token
bridge is published, read from the event and freed of what was appended. -/
inductive AlephiumPayload : List UInt8 → Prop
  | intro (wrapper : TokenWrapper.State) (amount arbiterFee : Nat) (nonce data : List UInt8)
      (htoken : wrapper.tokenContractId = t.tokenAddress.val)
      (htokenChain : TokenWrapper.getTokenChainId wrapper = t.tokenChain.toNat)
      (htoChain : wrapper.remoteChainId = t.toChain.toNat)
      (hamount : Math.normalizeAmount amount wrapper.tokenDecimals = some t.amount)
      (hfee : Math.normalizeAmount arbiterFee wrapper.tokenDecimals = some t.fee)
      (hdata : TokenWrapper.transfer wrapper t.recipient.val amount arbiterFee nonce = some data)
      (bridge bridge' : TokenBridge.State) (self caller : ContractId) (consistencyLevel : Nat)
      (m : Governance.WormholeMessage)
      (hpublish : TokenBridge.publishTransfer self caller bridge data nonce consistencyLevel =
        some (bridge', m))
      (event : Guardian.Alephium.Event) (header : Guardian.Alephium.BlockHeader)
      (hevent : event.fields =
        Guardian.Alephium.messageFields m.sender m.sequence m.data m.consistencyLevel)
      (w : Guardian.Alephium.WormholeMessage) (p : Guardian.MessagePublication)
      (hread : Guardian.Alephium.wormholeMessageFromEvent event = .ok w)
      (hforward : w.toMessagePublication header = .ok p) : AlephiumPayload p.payload

open Alephium Alephium.Vm in
/-- What the wrapper writes: the message and the flag. -/
theorem alephium_transfer {wrapper : TokenWrapper.State} {amount arbiterFee : Nat} {nonce data : List UInt8}
    (htoken : wrapper.tokenContractId = t.tokenAddress.val)
    (htokenChain : TokenWrapper.getTokenChainId wrapper = t.tokenChain.toNat)
    (htoChain : wrapper.remoteChainId = t.toChain.toNat)
    (hamount : Math.normalizeAmount amount wrapper.tokenDecimals = some t.amount)
    (hfee : Math.normalizeAmount arbiterFee wrapper.tokenDecimals = some t.fee)
    (hdata : TokenWrapper.transfer wrapper t.recipient.val amount arbiterFee nonce = some data) :
    nonce.length = 4 ∧ t.fee < t.amount ∧
      data = t.bytes ++ TokenWrapper.byteVecOfBool wrapper.isLocalToken := by
  simp only [TokenWrapper.transfer, hamount, hfee, TokenWrapper.transferPayload, htoken, htokenChain, htoChain,
    Option.bind_eq_bind, Option.bind_eq_some_iff, Option.some_inj, assert_eq_some, u256To32Byte, u256To2Byte,
    u256ToBytes_eq_some, Option.pure_def] at hdata
  obtain ⟨_, -, _, hnonce, _, rfl, _, rfl, _, hlt, _, -, _, ⟨-, rfl⟩, _, ⟨-, rfl⟩, _, ⟨-, rfl⟩, _, ⟨-, rfl⟩,
    rfl⟩ := hdata
  refine ⟨hnonce, hlt, ?_⟩
  simp only [bytes_eq, List.append_assoc]

open Guardian.Alephium in
/-- What the node forwards of a transfer message: all but the last 33 bytes. -/
theorem toMessagePublication_transfer {w : WormholeMessage} {header : BlockHeader}
    {p : Guardian.MessagePublication} {suffix : List UInt8} (hsuffix : suffix.length = 33)
    (hpayload : w.payload = t.bytes ++ suffix) (h : w.toMessagePublication header = .ok p) :
    p.payload = t.bytes := by
  have htransfer : w.isTransferMessage = .ok true := by
    rw [WormholeMessage.isTransferMessage, hpayload, bytes_eq]
    rfl
  have hlen : w.payload.length = 133 + 33 := by
    rw [hpayload, List.length_append, bytes_length, hsuffix]
  rw [WormholeMessage.toMessagePublication, htransfer, Go.ok_bind, if_pos rfl, if_pos (by omega),
    Go.ok_bind] at h
  obtain rfl := Go.ok.inj h
  show w.payload.take (w.payload.length - 33) = t.bytes
  rw [hlen, hpayload]
  exact List.take_left' t.bytes_length

/-- **The node signs the message.** -/
theorem AlephiumPayload.eq {payload : List UInt8} (h : t.AlephiumPayload payload) :
    t.fee < t.amount ∧ payload = t.bytes := by
  cases h with
  | intro wrapper amount arbiterFee nonce data htoken htokenChain htoChain hamount hfee hdata bridge bridge'
      self caller consistencyLevel m hpublish event header hevent w p hread hforward =>
    obtain ⟨hnonce, hlt, rfl⟩ := t.alephium_transfer htoken htokenChain htoChain hamount hfee hdata
    refine ⟨hlt, ?_⟩
    simp only [Alephium.TokenBridge.publishTransfer, Option.bind_eq_bind, Option.bind_eq_some_iff,
      Option.pure_def, Option.some_inj] at hpublish
    obtain ⟨_, -, hm⟩ := hpublish
    obtain rfl := (Prod.mk.inj hm).2
    obtain ⟨-, -, -, rfl⟩ := (Guardian.Alephium.wormholeMessageFromEvent_eq_ok hevent).mp hread
    have hsuffix : (Alephium.TokenWrapper.byteVecOfBool wrapper.isLocalToken ++ caller.val).length = 33 := by
      rw [List.length_append, caller.property]
      rfl
    apply t.toMessagePublication_transfer hsuffix ?_ hforward
    · show (nonce ++ ((t.bytes ++ _) ++ caller.val)).drop 4 = _
      rw [List.drop_left' hnonce, List.append_assoc]

open Alephium in
/-- A wrapper for the token of the transfer. -/
def wrapper : TokenWrapper.State where
  tokenBridgeId := List.replicate 32 0x00
  tokenBridgeForChainId := List.replicate 32 0x00
  localChainId := t.tokenChain.toNat
  remoteChainId := t.toChain.toNat
  tokenContractId := t.tokenAddress.val
  isLocalToken := true
  tokenDecimals := 8
  symbol := []
  name := []

def zeroNonce : List UInt8 := List.replicate 4 0x00

open Alephium Alephium.Vm in
theorem wrapper_transfer (h : t.fee < t.amount) :
    TokenWrapper.transfer t.wrapper t.recipient.val t.amount t.fee zeroNonce =
      some (t.bytes ++ TokenWrapper.byteVecOfBool true) := by
  have hamount : Math.normalizeAmount t.amount t.wrapper.tokenDecimals = some t.amount := rfl
  have hfee : Math.normalizeAmount t.fee t.wrapper.tokenDecimals = some t.fee := rfl
  have hback : Math.deNormalizeAmount t.amount t.wrapper.tokenDecimals = some t.amount := rfl
  have hnonce : zeroNonce.length = 4 := rfl
  rw [TokenWrapper.transfer, assert_true t.recipient.property, some_bind, assert_true hnonce, some_bind,
    hamount, some_bind, hfee, some_bind, assert_true h, some_bind, hback, some_bind]
  show TokenWrapper.transferPayload t.amount t.tokenAddress.val t.tokenChain.toNat t.recipient.val
    t.toChain.toNat t.fee true = _
  simp only [TokenWrapper.transferPayload, u256To32Byte, u256To2Byte, u256ToBytes, if_pos t.amount_lt,
    if_pos t.fee_lt, if_pos (toNat_lt_uint16 t.tokenChain), if_pos (toNat_lt_uint16 t.toChain), some_bind,
    Option.pure_def, bytes_eq, List.append_assoc]

open Alephium Alephium.Vm in
/-- Every transfer with a fee below the amount is published by some wrapper. -/
theorem exists_alephiumPayload (h : t.fee < t.amount) : t.AlephiumPayload t.bytes := by
  let id : ContractId := ⟨List.replicate 32 0x00, rfl⟩
  let bridge : TokenBridge.State :=
    { governanceChainId := 1, governanceContractId := [], replay := Sequence.State.init, localChainId := 13,
      sequence := 0 }
  let data := zeroNonce ++ (t.bytes ++ TokenWrapper.byteVecOfBool true ++ id.val)
  let event : Guardian.Alephium.Event :=
    { blockHash := id, contractAddress := [], txId := id,
      fields := Guardian.Alephium.messageFields id 0 data 0 }
  let w : Guardian.Alephium.WormholeMessage :=
    { event, emitter := id, nonce := UInt32.ofNat (beNat (data.take 4)), payload := data.drop 4,
      sequence := UInt64.ofNat 0, consistencyLevel := UInt8.ofNat 0 }
  have hevent : event.fields = Guardian.Alephium.messageFields id 0 data 0 := rfl
  have hread : Guardian.Alephium.wormholeMessageFromEvent event = .ok w := by
    refine (Guardian.Alephium.wormholeMessageFromEvent_eq_ok hevent).mpr ⟨by decide, by decide, ?_, rfl⟩
    show 4 ≤ data.length
    rw [List.length_append]
    exact Nat.le_add_right _ _
  have hpayload : w.payload = t.bytes ++ (TokenWrapper.byteVecOfBool true ++ id.val) := by
    have hnonce : zeroNonce.length = 4 := rfl
    show (zeroNonce ++ (t.bytes ++ TokenWrapper.byteVecOfBool true ++ id.val)).drop 4 = _
    rw [List.drop_left' hnonce, List.append_assoc]
  have htransfer : w.isTransferMessage = .ok true := by
    rw [Guardian.Alephium.WormholeMessage.isTransferMessage, hpayload, bytes_eq]
    rfl
  have hlen : 33 ≤ w.payload.length := by
    rw [hpayload, List.length_append, bytes_length]
    omega
  obtain ⟨p, hp⟩ : ∃ p, w.toMessagePublication { hash := id, timestamp := 0, height := 0 } = .ok p := by
    rw [Guardian.Alephium.WormholeMessage.toMessagePublication, htransfer, Go.ok_bind, if_pos rfl, if_pos hlen,
      Go.ok_bind]
    exact ⟨_, rfl⟩
  have hresult := AlephiumPayload.intro t.wrapper t.amount t.fee zeroNonce _ rfl rfl rfl rfl rfl
    (t.wrapper_transfer h) bridge _ id id 0 _ rfl event _ hevent w p hread hp
  rwa [(AlephiumPayload.eq t hresult).2] at hresult

open Alephium Alephium.Vm in
/-- **The Alephium contract reads the transfers to its own chain.** -/
theorem alephium_parseTransfer {distance : Nat} {s s' : TokenBridgeForChain.State} {msg : Governance.Body}
    (hverify : TokenBridgeForChain.verifyVAA distance s msg = some (s', t.bytes)) :
    TokenBridgeForChain.parseTransfer distance s msg =
      if t.toChain.toNat = s'.localChainId then some (s', t.alephium) else none := by
  have hid : byteVecSlice t.bytes 0 1 = some [0x01] := t.slice_id
  have hamount : byteVecSlice t.bytes 1 33 = some (beBytes 32 t.amount) := t.slice_amount
  have htoken : byteVecSlice t.bytes 33 65 = some t.tokenAddress.val := t.slice_tokenAddress
  have htokenChain : byteVecSlice t.bytes 65 67 = some (beBytes 2 t.tokenChain.toNat) := t.slice_tokenChain
  have hrecipient : byteVecSlice t.bytes 67 99 = some t.recipient.val := t.slice_recipient
  have htoChain : byteVecSlice t.bytes 99 101 = some (beBytes 2 t.toChain.toNat) := t.slice_toChain
  have hfee : byteVecSlice t.bytes 101 133 = some (beBytes 32 t.fee) := t.slice_fee
  simp only [TokenBridgeForChain.parseTransfer, hverify, hid, hamount, htoken, htokenChain, hrecipient,
    htoChain, hfee, u256From32Byte, u256From2Byte, u256FromBytes_beBytes t.amount_lt,
    u256FromBytes_beBytes t.fee_lt, u256FromBytes_beBytes (toNat_lt_uint16 t.tokenChain),
    u256FromBytes_beBytes (toNat_lt_uint16 t.toChain), assert_true t.bytes_length, assert_true, some_bind,
    Option.pure_def]
  by_cases hlocal : t.toChain.toNat = s'.localChainId
  · rw [assert_true hlocal, some_bind, if_pos hlocal]
    rfl
  · rw [assert_false hlocal, none_bind, if_neg hlocal]

end Transfer

/-! ## One format -/

open Transfer Alephium in
/-- **One format.** The four chains write the same 133 bytes, Alephium for the transfers with a fee below the
amount; each of them reads every field back, Alephium for the transfers that are addressed to it. -/
theorem one_format (t : Transfer) :
    (t.bytes.length = 133 ∧ t.solana.serialize = t.bytes ∧
      Terra.TokenBridge.transferMessage t.terra = t.bytes ∧
      ∀ payload, t.AlephiumPayload payload ↔ t.fee < t.amount ∧ payload = t.bytes) ∧
    Ethereum.Bridge.parseTransfer t.bytes = .ok t.ethereum ∧
    Solana.TokenBridge.PayloadTransfer.deserialize t.bytes = .ok t.solana ∧
    (Terra.TokenBridge.TokenBridgeMessage.deserialize t.bytes = .ok (1, t.terra.serialize) ∧
      Terra.TokenBridge.TransferInfo.deserialize t.terra.serialize = .ok t.terra) ∧
    ∀ (distance : Nat) (s s' : TokenBridgeForChain.State) (msg : Governance.Body),
      TokenBridgeForChain.verifyVAA distance s msg = some (s', t.bytes) →
      TokenBridgeForChain.parseTransfer distance s msg =
        if t.toChain.toNat = s'.localChainId then some (s', t.alephium) else none := by
  refine ⟨⟨t.bytes_length, t.solana_serialize, t.terra_serialize, ?_⟩, t.ethereum_parseTransfer,
    t.solana_deserialize, t.terra_deserialize, ?_⟩
  · intro payload
    constructor
    · intro h
      exact AlephiumPayload.eq t h
    · rintro ⟨hlt, rfl⟩
      exact t.exists_alephiumPayload hlt
  · intro distance s s' msg hverify
    exact t.alephium_parseTransfer hverify

theorem sampleTransfer_length : (List.replicate 32 (0x00 : UInt8)).length = 32 := rfl

def sampleTransfer : Transfer where
  amount := 2
  tokenAddress := ⟨List.replicate 32 0x00, sampleTransfer_length⟩
  tokenChain := 13
  recipient := ⟨List.replicate 32 0x00, sampleTransfer_length⟩
  toChain := 2
  fee := 1
  amount_lt := by decide
  fee_lt := by decide

open Alephium Alephium.Vm in
/-- A transfer from Alephium to Ethereum is not read on Alephium. -/
theorem sampleTransfer_refused :
    ¬∀ (t : Transfer) (distance : Nat) (s s' : TokenBridgeForChain.State) (msg : Governance.Body),
      TokenBridgeForChain.verifyVAA distance s msg = some (s', t.bytes) →
      TokenBridgeForChain.parseTransfer distance s msg = some (s', t.alephium) := by
  intro h
  let s : TokenBridgeForChain.State := {
    localChainId := 13, localTokenBridgeId := [], remoteChainId := 2, remoteTokenBridgeId := [],
    replay := Sequence.State.init }
  let msg : Governance.Body := {
    emitterChainId := 2, emitterAddress := [], sequence := 0, payload := sampleTransfer.bytes }
  have hfresh : (Sequence.checkSequence 768 Sequence.State.init 0).isSome := by decide +kernel
  obtain ⟨⟨replay, n⟩, hfresh⟩ := Option.isSome_iff_exists.mp hfresh
  have hverify : TokenBridgeForChain.verifyVAA 768 s msg =
      some ({ s with replay }, sampleTransfer.bytes) := by
    rw [TokenBridgeForChain.verifyVAA, assert_true rfl, some_bind, assert_true rfl, some_bind, hfresh, some_bind]
    rfl
  have hread := h sampleTransfer 768 s _ msg hverify
  have hchain : ¬sampleTransfer.toChain.toNat = 13 := by decide
  rw [sampleTransfer.alephium_parseTransfer hverify, if_neg hchain] at hread
  cases hread

end Wormhole.TransferFormat

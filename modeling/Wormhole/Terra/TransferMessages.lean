/-
# Wormhole.Terra.TransferMessages — the messages of the transfers from Terra.

A message should have 133 bytes and be read, by the Terra contract itself and by the EVM's, as the transfer
that was requested (`WellFormed`).  The contract writes the recipient of the request as it is, and nobody
checks its length, though the layout in `state.rs` gives it 32 bytes: the coins of a transfer to a shorter
recipient are taken for a message that no bridge can read (`shortRecipient_published`).
`wellFormed_iff_recipient` says which messages are well formed.
-/
import Mathlib
import Wormhole.Lib.Bytes
import Wormhole.Lib.Go
import Wormhole.Ethereum.Bridge
import Wormhole.Terra.Cosmwasm
import Wormhole.Terra.TokenBridge
import Wormhole.Terra.NativeCoins
import Wormhole.Terra.TokenTransfers
import Wormhole.TransferFormat

namespace Wormhole.Terra.TokenBridge

open Wormhole.Lib Wormhole.Lib.Bytes
open Wormhole.TransferFormat (Transfer)

/-! ## Well-formed messages -/

/-- The payload has 133 bytes and is read as `info`. -/
structure WellFormed (info : TransferInfo) (payload : List UInt8) : Prop where
  length : payload.length = 133
  terra : ∃ data, TokenBridgeMessage.deserialize payload = .ok (1, data) ∧
    TransferInfo.deserialize data = .ok info
  ethereum : ∃ transfer, Ethereum.Bridge.parseTransfer payload = .ok transfer ∧
    transfer.amount = info.amount.2 ∧ transfer.tokenAddress.val = info.tokenAddress ∧
    transfer.tokenChain = info.tokenChain ∧ transfer.recipient.val = info.recipient ∧
    transfer.toChain = info.recipientChain ∧ transfer.fee = info.fee.2

/-- The numbers of a transfer fit their fields. -/
structure Bounded (info : TransferInfo) : Prop where
  amount : info.amount.1 = 0 ∧ info.amount.2 < 2 ^ 128
  fee : info.fee.1 = 0 ∧ info.fee.2 < 2 ^ 128
  tokenChain : info.tokenChain < 2 ^ 16
  recipientChain : info.recipientChain < 2 ^ 16

section WellFormed

variable {info : TransferInfo} {payload : List UInt8}

/-- A small number in halves. -/
theorem halves_of_lt {n : Nat} (h : n < 2 ^ 128) : (n / 256 ^ 16, n % 256 ^ 16) = (0, n) := by
  have hlt : n < 256 ^ 16 := lt_of_lt_of_le h (by norm_num)
  rw [Nat.div_eq_of_lt hlt, Nat.mod_eq_of_lt hlt]

/-- A transfer with two addresses of 32 bytes is one of the common format. -/
theorem Bounded.exists_transfer (h : Bounded info) (hrecipient : info.recipient.length = 32)
    (haddress : info.tokenAddress.length = 32) :
    ∃ t : Transfer, t.terra = info ∧ t.amount = info.amount.2 ∧ t.fee = info.fee.2 := by
  obtain ⟨⟨amountHigh, amount⟩, tokenAddress, tokenChain, recipient, recipientChain, feeHigh, fee⟩ := info
  obtain ⟨⟨rfl, hamount⟩, ⟨rfl, hfee⟩, htokenChain, hrecipientChain⟩ := h
  have hwide : (2 : Nat) ^ 128 ≤ 256 ^ 32 := by norm_num
  have hamount : amount < 2 ^ 128 := hamount
  have hfee : fee < 2 ^ 128 := hfee
  have htokenChain : tokenChain < 2 ^ 16 := htokenChain
  have hrecipientChain : recipientChain < 2 ^ 16 := hrecipientChain
  refine ⟨{
    amount, tokenAddress := ⟨tokenAddress, haddress⟩, tokenChain := UInt16.ofNat tokenChain,
    recipient := ⟨recipient, hrecipient⟩, toChain := UInt16.ofNat recipientChain, fee,
    amount_lt := lt_of_lt_of_le hamount hwide, fee_lt := lt_of_lt_of_le hfee hwide }, ?_, rfl, rfl⟩
  simp only [Transfer.terra, halves_of_lt hamount, halves_of_lt hfee,
    UInt16.toNat_ofNat_of_lt' htokenChain, UInt16.toNat_ofNat_of_lt' hrecipientChain]

theorem WellFormed.lengths (h : WellFormed info payload) :
    info.recipient.length = 32 ∧ info.tokenAddress.length = 32 := by
  obtain ⟨data, -, hdata⟩ := h.terra
  obtain ⟨haddress, hrecipient, -⟩ := deserialize_tokenAddress hdata
  exact ⟨hrecipient, haddress⟩

/-- A payload is read in one way. -/
theorem WellFormed.unique {other : TransferInfo} (h : WellFormed info payload)
    (hother : WellFormed other payload) : info = other := by
  obtain ⟨data, hread, hdata⟩ := h.terra
  obtain ⟨data', hread', hdata'⟩ := hother.terra
  obtain ⟨-, rfl⟩ := Prod.mk.inj (Go.ok.inj (hread.symm.trans hread'))
  exact Go.ok.inj (hdata.symm.trans hdata')

/-- **A message is well formed** when its addresses have 32 bytes. -/
theorem Bounded.wellFormed_iff (h : Bounded info) :
    WellFormed info (transferMessage info) ↔ info.recipient.length = 32 ∧ info.tokenAddress.length = 32 := by
  constructor
  · exact WellFormed.lengths
  · rintro ⟨hrecipient, haddress⟩
    obtain ⟨t, rfl, hamount, hfee⟩ := h.exists_transfer hrecipient haddress
    rw [t.terra_serialize]
    exact {
      length := t.bytes_length
      terra := ⟨_, t.terra_deserialize⟩
      ethereum := ⟨t.ethereum, t.ethereum_parseTransfer, hamount, rfl, rfl, rfl, rfl, hfee⟩ }

/-- What has been kept for the reply is read again. -/
theorem Bounded.deserialize_serialize (h : Bounded info) (hrecipient : info.recipient.length = 32)
    (haddress : info.tokenAddress.length = 32) : TransferInfo.deserialize info.serialize = .ok info := by
  obtain ⟨t, rfl, -, -⟩ := h.exists_transfer hrecipient haddress
  exact t.terra_deserialize.2

end WellFormed

/-! ## Requests -/

/-- The transfer of a native coin that `request` asks for, as a message. -/
def Request.nativeInfo (request : Request) (tokenAddress : List UInt8) : TransferInfo where
  tokenChain := CHAIN_ID
  tokenAddress := tokenAddress
  amount := (0, request.amount)
  recipientChain := request.recipientChain.toNat
  recipient := request.recipient
  fee := (0, request.fee)

/-- The transfer that a request asks for. -/
def requestedInfo (env : TokenEnv) (s : TokenState) (request : Request) : StdResult TransferInfo :=
  match request.asset with
  | .nativeToken denom => do return request.nativeInfo (← nativeAddress denom)
  | .token asset => do
    let canonical ← env.addrCanonicalize asset
    if (s.wrappedAssetAddress canonical).isSome then do
      let (assetChain, assetAddress) ← env.wrappedAssetInfo asset
      return request.wrappedInfo assetChain assetAddress
    else do
      let m ← multiplier (← env.tokenDecimals asset)
      return request.tokenInfo (← extendAddressTo32 canonical) m

/-- A wrapped token says that the token it stands for has an address of 32 bytes, as all that the bridge has
deployed do. -/
def RecordedAddress (env : TokenEnv) (s : TokenState) (request : Request) : Prop :=
  ∀ asset canonical assetChain assetAddress, request.asset = .token asset →
    env.addrCanonicalize asset = .ok canonical → (s.wrappedAssetAddress canonical).isSome →
    env.wrappedAssetInfo asset = .ok (assetChain, assetAddress) → assetAddress.length = 32

/-- An accepted request publishes the payload: at once, or in the reply, which finds the storage of its
transfer as it was left.  `units` are those that the bridge has got for it. -/
inductive Publishes (env : TokenEnv) (balance : String → StdResult Nat) (s : TokenState) (sender : String)
    (funds : List Coin) (request : Request) : List UInt8 → Nat → Prop
  | atOnce {called : Called} {contractAddr : String} {payload : List UInt8} {nonce : Nat} {coins : List Coin}
      (hcall : handleInitiateTransfer env balance s sender funds request = .ok called)
      (hpost : .postMessage contractAddr payload nonce coins ∈ called.messages) :
      Publishes env balance s sender funds request payload request.amount
  | inReply {called : Called} {state : TransferState} {s₁ s₂ : TokenState} {balance' : String → StdResult Nat}
      {delivered : Nat} {messages : List CosmosMsg} {contractAddr : String} {payload : List UInt8}
      {nonce : Nat} {coins : List Coin}
      (hcall : handleInitiateTransfer env balance s sender funds request = .ok called)
      (hstarted : called.submessages ≠ [])
      (hstate : called.state.wrappedTransferTmp = some state)
      (htmp : s₁.wrappedTransferTmp = some state)
      (hdelivered : balance' state.tokenAddress = .ok (delivered + state.previousBalance))
      (hreply : reply balance' s₁ = .ok (s₂, messages))
      (hpost : .postMessage contractAddr payload nonce coins ∈ messages) :
      Publishes env balance s sender funds request payload (delivered / state.multiplier)

section Requests

variable {env : TokenEnv} {balance : String → StdResult Nat} {s : TokenState} {sender : String}
  {funds : List Coin} {request : Request}

theorem nativeInfo_bounded (request : Request) (tokenAddress : List UInt8) :
    Bounded (request.nativeInfo tokenAddress) where
  amount := ⟨rfl, request.amount_lt⟩
  fee := ⟨rfl, request.fee_lt⟩
  tokenChain := by
    show CHAIN_ID < 2 ^ 16
    decide
  recipientChain := toNat_lt_uint16 request.recipientChain

theorem wrappedInfo_bounded (request : Request) (assetChain : UInt16) (assetAddress : List UInt8) :
    Bounded (request.wrappedInfo assetChain assetAddress) where
  amount := ⟨rfl, request.amount_lt⟩
  fee := ⟨rfl, request.fee_lt⟩
  tokenChain := toNat_lt_uint16 assetChain
  recipientChain := toNat_lt_uint16 request.recipientChain

theorem tokenInfo_bounded (request : Request) (assetAddress : List UInt8) (m : Nat) :
    Bounded (request.tokenInfo assetAddress m) where
  amount := ⟨rfl, lt_of_le_of_lt (Nat.div_le_self _ _) request.amount_lt⟩
  fee := ⟨rfl, lt_of_le_of_lt (Nat.div_le_self _ _) request.fee_lt⟩
  tokenChain := by
    show CHAIN_ID < 2 ^ 16
    decide
  recipientChain := toNat_lt_uint16 request.recipientChain

theorem nativeAddress_length {denom : String} {address : List UInt8} (h : nativeAddress denom = .ok address) :
    address.length = 32 := by
  obtain ⟨hle, rfl⟩ := nativeAddress_eq_ok.mp h
  rw [List.length_cons, List.length_append, List.length_replicate]
  omega

theorem extendAddressTo32_length {addr extended : List UInt8} (h : extendAddressTo32 addr = .ok extended) :
    extended.length = 32 := by
  rw [extendAddressTo32, unwrap_eq_ok] at h
  split at h
  · rename_i hlen
    rw [← Option.some.inj h, List.length_append, hlen]
    rfl
  · cases h

/-- Of the addresses of tokens only the recorded ones may have another length. -/
theorem requestedInfo_tokenAddress {info : TransferInfo} (h : requestedInfo env s request = .ok info) :
    info.tokenAddress.length = 32 ↔ RecordedAddress env s request := by
  unfold requestedInfo at h
  split at h
  · rename_i denom hasset
    obtain ⟨address, haddress, hinfo⟩ := Go.bind_eq_ok.mp h
    obtain rfl := Go.ok.inj hinfo
    apply iff_of_true (nativeAddress_length haddress)
    intro asset _ _ _ htoken
    cases hasset.symm.trans htoken
  · rename_i asset hasset
    obtain ⟨canonical, hcanonical, h⟩ := Go.bind_eq_ok.mp h
    split at h
    · rename_i hwrapped
      obtain ⟨⟨assetChain, assetAddress⟩, hrecorded, hinfo⟩ := Go.bind_eq_ok.mp h
      obtain rfl := Go.ok.inj hinfo
      constructor
      · intro hlength asset' _ assetChain' assetAddress' htoken _ _ hrecorded'
        obtain rfl := AssetInfo.token.inj (hasset.symm.trans htoken)
        obtain ⟨-, rfl⟩ := Prod.mk.inj (Go.ok.inj (hrecorded.symm.trans hrecorded'))
        exact hlength
      · intro hall
        exact hall asset canonical assetChain assetAddress hasset hcanonical hwrapped hrecorded
    · rename_i hregular
      obtain ⟨decimals, -, m, -, address, haddress, hinfo⟩ := by
        simpa only [Go.bind_eq_ok] using h
      obtain rfl := Go.ok.inj hinfo
      apply iff_of_true (extendAddressTo32_length haddress)
      intro asset' canonical' _ _ htoken hcanonical' hwrapped
      obtain rfl := AssetInfo.token.inj (hasset.symm.trans htoken)
      obtain rfl := Go.ok.inj (hcanonical.symm.trans hcanonical')
      exact absurd hwrapped hregular

/-- A message is the requested transfer of what has been delivered when the recipient has 32 bytes; then it
is the requested transfer if that has been delivered. -/
theorem Bounded.delivered_iff {info : TransferInfo} {payload : List UInt8} {units : Nat} (h : Bounded info)
    (hunits : units < 2 ^ 128)
    (hpayload : info.recipient.length = 32 → info.tokenAddress.length = 32 →
      payload = transferMessage { info with amount := (0, units) }) :
    (WellFormed { info with amount := (0, units) } payload ↔
      info.recipient.length = 32 ∧ info.tokenAddress.length = 32) ∧
    (WellFormed info payload ↔
      info.recipient.length = 32 ∧ info.tokenAddress.length = 32 ∧ units = info.amount.2) := by
  have hdelivered : Bounded { info with amount := (0, units) } :=
    { amount := ⟨rfl, hunits⟩, fee := h.fee, tokenChain := h.tokenChain, recipientChain := h.recipientChain }
  have hwell : info.recipient.length = 32 → info.tokenAddress.length = 32 →
      WellFormed { info with amount := (0, units) } payload := by
    intro hrecipient haddress
    rw [hpayload hrecipient haddress]
    exact hdelivered.wellFormed_iff.mpr ⟨hrecipient, haddress⟩
  refine ⟨⟨WellFormed.lengths, fun ⟨hrecipient, haddress⟩ => hwell hrecipient haddress⟩, ?_, ?_⟩
  · intro hinfo
    obtain ⟨hrecipient, haddress⟩ := hinfo.lengths
    have hsame : info = { info with amount := (0, units) } := hinfo.unique (hwell hrecipient haddress)
    exact ⟨hrecipient, haddress, (congrArg (fun i => i.amount.2) hsame).symm⟩
  · rintro ⟨hrecipient, haddress, rfl⟩
    have hsame : { info with amount := (0, info.amount.2) } = info := by
      rw [← h.amount.1]
    rw [← hsame]
    exact hwell hrecipient haddress

/-- What is published at once is the requested transfer. -/
theorem Bounded.atOnce_iff {info : TransferInfo} {payload : List UInt8} (h : Bounded info)
    (hpayload : payload = transferMessage info) :
    (WellFormed { info with amount := (0, info.amount.2) } payload ↔
      info.recipient.length = 32 ∧ info.tokenAddress.length = 32) ∧
    (WellFormed info payload ↔
      info.recipient.length = 32 ∧ info.tokenAddress.length = 32 ∧ info.amount.2 = info.amount.2) := by
  apply h.delivered_iff h.amount.2
  intro _ _
  rw [hpayload, ← h.amount.1]

/-- What the reply publishes is the transfer that has been kept for it, in the amount that is counted. -/
theorem Bounded.inReply_iff {info read : TransferInfo} {s counted : State} {assetAddress payload : List UInt8}
    {units : Nat} (h : Bounded info) (hread : TransferInfo.deserialize info.serialize = .ok read)
    (hcounted : sendNative s assetAddress units = .ok counted)
    (hpayload : payload = transferMessage { read with amount := (read.amount.1, units) }) :
    (WellFormed { info with amount := (0, units) } payload ↔
      info.recipient.length = 32 ∧ info.tokenAddress.length = 32) ∧
    (WellFormed info payload ↔
      info.recipient.length = 32 ∧ info.tokenAddress.length = 32 ∧ units = info.amount.2) := by
  have hunits : units ≤ 2 ^ 64 - 1 := le_trans (Nat.le_add_right _ _) (sendNative_eq_ok.mp hcounted).1
  apply h.delivered_iff (lt_of_le_of_lt hunits (by norm_num))
  intro hrecipient haddress
  have hsame : info = read := Go.ok.inj ((h.deserialize_serialize hrecipient haddress).symm.trans hread)
  rw [hpayload, ← hsame, h.amount.1]

/-- What is published is the requested transfer, if the addresses have 32 bytes. -/
theorem Publishes.delivered_iff {payload : List UInt8} {units : Nat}
    (h : Publishes env balance s sender funds request payload units) :
    ∃ info, requestedInfo env s request = .ok info ∧ info.recipient = request.recipient ∧
      (WellFormed { info with amount := (0, units) } payload ↔
        info.recipient.length = 32 ∧ info.tokenAddress.length = 32) ∧
      (WellFormed info payload ↔
        info.recipient.length = 32 ∧ info.tokenAddress.length = 32 ∧ units = info.amount.2) := by
  cases h with
  | atOnce hcall hpost =>
    cases handleInitiateTransfer_initiates hcall with
    | native hasset hnative =>
      obtain ⟨-, -, -, _, _, address, _, -, -, -, haddress, -, rfl⟩ :=
        handleInitiateTransferNativeToken_eq_ok hnative
      obtain ⟨-, rfl, -, -⟩ := CosmosMsg.postMessage.inj (List.mem_singleton.mp hpost)
      refine ⟨_, ?_, rfl, (nativeInfo_bounded request address).atOnce_iff rfl⟩
      rw [requestedInfo, hasset]
      exact Go.bind_eq_ok.mpr ⟨address, haddress, rfl⟩
    | wrapped hasset hcanonical hwrapped hfee hinfo =>
      obtain hburn | hpost := List.mem_cons.mp hpost
      · cases hburn
      obtain ⟨-, rfl, -, -⟩ := CosmosMsg.postMessage.inj (List.mem_singleton.mp hpost)
      refine ⟨_, ?_, rfl, (wrappedInfo_bounded request _ _).atOnce_iff rfl⟩
      rw [requestedInfo, hasset]
      refine Go.bind_eq_ok.mpr ⟨_, hcanonical, ?_⟩
      rw [if_pos hwrapped]
      exact Go.bind_eq_ok.mpr ⟨_, hinfo, rfl⟩
    | token => cases hpost
  | inReply hcall hstarted hstate htmp hdelivered hreply hpost =>
    cases handleInitiateTransfer_initiates hcall with
    | native => exact absurd rfl hstarted
    | wrapped => exact absurd rfl hstarted
    | token hasset hcanonical hregular hdecimals hm haddress hbalance hidle =>
      obtain rfl := Option.some.inj hstate
      obtain ⟨state', read, newBalance, delivered', counted, htmp', hread, hnew, hdelivered', -, hcounted, -,
        rfl⟩ := reply_eq_ok hreply
      obtain rfl := Option.some.inj (htmp.symm.trans htmp')
      obtain rfl := Go.ok.inj (hdelivered.symm.trans hnew)
      obtain rfl := Nat.add_right_cancel hdelivered'
      obtain ⟨-, rfl, -, -⟩ := CosmosMsg.postMessage.inj (List.mem_singleton.mp hpost)
      refine ⟨_, ?_, rfl, (tokenInfo_bounded request _ _).inReply_iff hread hcounted rfl⟩
      rw [requestedInfo, hasset]
      refine Go.bind_eq_ok.mpr ⟨_, hcanonical, ?_⟩
      rw [if_neg hregular]
      exact Go.bind_eq_ok.mpr ⟨_, hdecimals, Go.bind_eq_ok.mpr ⟨_, hm, Go.bind_eq_ok.mpr ⟨_, haddress, rfl⟩⟩⟩

end Requests

/-- **A transfer is published as it was requested**, in the amount that the token has delivered, when its
recipient and the recorded address of a wrapped token have 32 bytes. -/
theorem wellFormed_iff_recipient {env : TokenEnv} {balance : String → StdResult Nat} {s : TokenState}
    {sender : String} {funds : List Coin} {request : Request} {payload : List UInt8} {units : Nat}
    (h : Publishes env balance s sender funds request payload units) :
    ∃ info, requestedInfo env s request = .ok info ∧
      (WellFormed { info with amount := (0, units) } payload ↔
        request.recipient.length = 32 ∧ RecordedAddress env s request) ∧
      (WellFormed info payload ↔
        request.recipient.length = 32 ∧ RecordedAddress env s request ∧ units = info.amount.2) := by
  obtain ⟨info, hinfo, hrecipient, hdelivered, hrequested⟩ := h.delivered_iff
  have haddress := requestedInfo_tokenAddress hinfo
  refine ⟨info, hinfo, ?_, ?_⟩
  · rw [hdelivered, hrecipient, haddress]
  · rw [hrequested, hrecipient, haddress]

/-! ## Inputs -/

def sampleTokenEnv : TokenEnv where
  toEnv := plainEnv
  self := "terra1bridge"
  wrappedAssetInfo := fun _ => .error "no wrapped tokens"

/-- Everybody has deposited 1000 units of every denom. -/
def sampleTokenState : TokenState where
  toState := { plainState none with bridgeDeposit := fun _ => some 1000 }
  wrappedAssetAddress := fun _ => none
  wrappedTransferTmp := none

theorem lunaAmount_lt : 1000 < 2 ^ 128 := by norm_num

theorem lunaFee_lt : 10 < 2 ^ 128 := by norm_num

/-- 1000 uluna to chain 2. -/
def lunaRequest (recipient : List UInt8) : Request where
  asset := .nativeToken "uluna"
  amount := 1000
  recipientChain := 2
  recipient := recipient
  fee := 10
  nonce := 7
  amount_lt := lunaAmount_lt
  fee_lt := lunaFee_lt

/-- What is published of such a request, for whatever recipient. -/
def lunaMessage (recipient : List UInt8) : List UInt8 :=
  transferMessage ((lunaRequest recipient).nativeInfo sampleAddress)

theorem lunaRequest_accepted (recipient : List UInt8) : ∃ called,
    handleInitiateTransfer sampleTokenEnv (fun _ => .ok 0) sampleTokenState "terra1sender" []
      (lunaRequest recipient) = .ok called ∧
    called.state.bridgeDeposit "terra1sender:uluna" = some 0 ∧
    .postMessage "terra1wormhole" (lunaMessage recipient) 7 [] ∈ called.messages := by
  have hkey : "terra1sender" ++ ":" ++ "uluna" = "terra1sender:uluna" := by decide +kernel
  refine ⟨_, rfl, ?_, List.mem_singleton_self _⟩
  show Function.update (fun _ => some 1000) ("terra1sender" ++ ":" ++ "uluna") (some 0)
    "terra1sender:uluna" = some 0
  rw [hkey, Function.update_self]

theorem lunaRequest_publishes (recipient : List UInt8) :
    Publishes sampleTokenEnv (fun _ => .ok 0) sampleTokenState "terra1sender" [] (lunaRequest recipient)
      (lunaMessage recipient) 1000 := by
  obtain ⟨called, hcall, -, hpost⟩ := lunaRequest_accepted recipient
  exact .atOnce hcall hpost

theorem fullRecipient_published :
    ∃ info, requestedInfo sampleTokenEnv sampleTokenState (lunaRequest (List.replicate 32 0x11)) = .ok info ∧
      WellFormed info (lunaMessage (List.replicate 32 0x11)) := by
  obtain ⟨info, hinfo, -, hiff⟩ := wellFormed_iff_recipient (lunaRequest_publishes (List.replicate 32 0x11))
  have hamount : 1000 = info.amount.2 := by
    have hsame : requestedInfo sampleTokenEnv sampleTokenState (lunaRequest (List.replicate 32 0x11)) =
        .ok ((lunaRequest (List.replicate 32 0x11)).nativeInfo sampleAddress) := by decide +kernel
    rw [← Go.ok.inj (hsame.symm.trans hinfo)]
    rfl
  refine ⟨info, hinfo, hiff.mpr ⟨rfl, ?_, hamount⟩⟩
  intro _ _ _ _ htoken
  cases htoken

/-- **A short recipient.** The request is accepted and the deposit is taken; the message has 132 bytes, and
is not well formed as any transfer. -/
theorem shortRecipient_published : ∃ called payload,
    handleInitiateTransfer sampleTokenEnv (fun _ => .ok 0) sampleTokenState "terra1sender" []
      (lunaRequest (List.replicate 31 0x11)) = .ok called ∧
    called.state.bridgeDeposit "terra1sender:uluna" = some 0 ∧
    .postMessage "terra1wormhole" payload 7 [] ∈ called.messages ∧
    payload.length = 132 ∧ ∀ info, ¬WellFormed info payload := by
  obtain ⟨called, hcall, htaken, hpost⟩ := lunaRequest_accepted (List.replicate 31 0x11)
  have hlength : (lunaMessage (List.replicate 31 0x11)).length = 132 := by decide +kernel
  refine ⟨called, _, hcall, htaken, hpost, hlength, ?_⟩
  intro info hinfo
  exact absurd (hlength.symm.trans hinfo.length) (by decide)

end Wormhole.Terra.TokenBridge

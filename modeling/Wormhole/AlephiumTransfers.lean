/-
# Wormhole.AlephiumTransfers — what the EVM bridge sends to Alephium, redeemed there.

The EVM bridge publishes every transfer whose fee is at most its amount (`Published.fee_le`).
`completeTransfer` of the Alephium wrapper asks for a fee below the amount, so a transfer that is all fee,
or whose amount normalises to zero, is published and can never be redeemed.  `redeemed_iff`: of the
transfers that arrive at the wrapper of their token these are the only ones, besides those whose VAA is
swallowed (`VaaAgreement`).
-/
import Mathlib
import Wormhole.Lib.Bytes
import Wormhole.Lib.Failing
import Wormhole.Alephium.Custody
import Wormhole.Alephium.World
import Wormhole.Ethereum.Accounting
import Wormhole.TransferFormat
import Wormhole.VaaAgreement

namespace Wormhole.AlephiumTransfers

open Wormhole.Lib.Bytes Wormhole.Alephium Wormhole.Alephium.Vm
open Wormhole.Alephium.Governance (Body Crypto)
open Wormhole.Alephium.Custody (Assets dustAmount byteVecToAddress)
open Wormhole.Guardian (VAA marshal serializeBody)
open Wormhole.TransferFormat (Transfer)
open Wormhole.VaaAgreement (WellSigned Swallowed)

/-! ## What the EVM bridge publishes -/

section Published

open Ethereum Ethereum.Bridge Lib.Failing

variable {ν : Type}

/-- The transfer that `wrapAndTransferETH` publishes. -/
def ethTransfer (env : Environment ν) (w : Bridge.World ν) (value recipientChain : Nat) (recipient : Word)
    (arbiterFee : Nat) : Revert Bridge.Transfer := do
  let wormholeFee ← env.messageFee w.env
  let normalizedAmount ← normalizeAmount (value - wormholeFee) 18
  let normalizedArbiterFee ← normalizeAmount arbiterFee 18
  return {
    tokenChain := w.bridge.chainId, tokenAddress := w.bridge.WETH.toWord, amount := normalizedAmount,
    toChain := recipientChain, recipient := recipient, fee := normalizedArbiterFee }

/-- The transfer that `finishTransferTokens` publishes. -/
def tokenTransfer (env : Environment ν) (w : Bridge.World ν) (frame : Frame) (token : Ethereum.Address)
    (recipientChain : Nat) (recipient : Word) (arbiterFee : Nat) : Revert Bridge.Transfer := do
  let (_, amount) ← takeTokens env w frame token
  let normalizedAmount ← normalizeAmount amount frame.decimals
  let normalizedArbiterFee ← normalizeAmount arbiterFee frame.decimals
  return {
    tokenChain := frame.tokenChain, tokenAddress := frame.tokenAddress, amount := normalizedAmount,
    toChain := recipientChain, recipient, fee := normalizedArbiterFee }

/-- The transfers in the messages of the EVM bridge, of ether and of tokens. -/
inductive Published (env : Environment ν) : Bridge.Transfer → Prop
  | ether {w w' : Bridge.World ν} {sender : Ethereum.Address} {value recipientChain : Nat} {recipient : Word}
      {arbiterFee nonce sequence : Nat} {transfer : Bridge.Transfer}
      (hwrap : wrapAndTransferETH env w sender value recipientChain recipient arbiterFee nonce =
        .ok (w', sequence))
      (htransfer : ethTransfer env w value recipientChain recipient arbiterFee = .ok transfer) :
      Published env transfer
  | tokens {w₀ w₁ w w' : Bridge.World ν} {frame : Frame} {sender token : Ethereum.Address}
      {amount recipientChain : Nat} {recipient : Word} {arbiterFee nonce value sequence : Nat}
      {transfer : Bridge.Transfer}
      (hbegin : beginTransferTokens env w₀ sender token amount = .ok (w₁, frame))
      (hfinish : finishTransferTokens env w frame token recipientChain recipient arbiterFee nonce value =
        .ok (w', sequence))
      (htransfer : tokenTransfer env w frame token recipientChain recipient arbiterFee = .ok transfer) :
      Published env transfer

theorem logTransfer_fee_le {env : Environment ν} {w : Bridge.World ν} {transfer : Bridge.Transfer}
    {callValue nonce : Nat} {result : Bridge.World ν × Nat}
    (h : logTransfer env w transfer callValue nonce = .ok result) : transfer.fee ≤ transfer.amount := by
  simp only [logTransfer, bind_eq_ok, require_eq_ok] at h
  obtain ⟨_, hfee, -⟩ := h
  exact hfee

/-- **The fee of a published transfer is at most its amount.** -/
theorem Published.fee_le {env : Environment ν} {transfer : Bridge.Transfer}
    (h : Published env transfer) : transfer.fee ≤ transfer.amount := by
  cases h with
  | ether hwrap htransfer =>
    simp only [wrapAndTransferETH, bind_eq_ok, require_eq_ok] at hwrap
    obtain ⟨wormholeFee, hfee, _, -, _, -, n, hnormal, arbiter, harbiter, _, -, _, -, _, -, _, -, _, -, _,
      -, hlog⟩ := hwrap
    simp only [ethTransfer, hfee, hnormal, harbiter, ok_bind] at htransfer
    rw [← Except.ok.inj htransfer]
    exact logTransfer_fee_le hlog
  | tokens hbegin hfinish htransfer =>
    simp only [finishTransferTokens, bind_eq_ok] at hfinish
    obtain ⟨⟨w, amount⟩, htake, n, hnormal, arbiter, harbiter, _, -, hlog⟩ := hfinish
    simp only [tokenTransfer, htake, hnormal, harbiter, ok_bind] at htransfer
    rw [← Except.ok.inj htransfer]
    exact logTransfer_fee_le hlog

end Published

/-! ## The completion -/

/-- `TokenWrapper.completeTransfer` of a signed VAA, with the assets it moves: the `TokenBridgeForChain`
and what the wrapper holds afterwards, and whom it has paid. -/
def completeTransfer (crypto : Crypto) (distance : Nat) (w : World) (now : Nat) (wrapper : ContractId)
    (vaa : ByteVec) (answer : Option Body) (held : Assets) (arbiter : Custody.Address) :
    Option (TokenBridgeForChain.State × Assets × List (Custody.Address × Nat)) := do
  let wrapped ← w.wrapperAt wrapper
  let bridge ← contractId? wrapped.tokenBridgeForChainId
  let s ← w.bridgeAt bridge
  let msg ← parseAndVerify crypto w now s.localTokenBridgeId vaa answer
  let (s, transfer) ← TokenBridgeForChain.parseTransfer distance s msg
  let (held, payments) ← Custody.completeTransfer wrapped held transfer arbiter
  return (s, held, payments)

/-- The VAA `v` of the transfer `t` at the wrapper `s` of its token, with the `TokenBridgeForChain` `b` of
the chain it comes from: signed, with an acceptable sequence number, and enough tokens and ALPH in the
wrapper. -/
structure Arrived (crypto : Crypto) (distance : Nat) (w : World) (now : Nat) (wrapper : ContractId)
    (s : TokenWrapper.State) (b : TokenBridgeForChain.State) (held : Assets) (t : Transfer) (v : VAA) :
    Prop where
  wrapperAt : w.wrapperAt wrapper = some s
  bridgeAt : ∃ bridge, contractId? s.tokenBridgeForChainId = some bridge ∧ w.bridgeAt bridge = some b
  tokenBridge : b.localTokenBridgeId = w.tokenBridgeId.val
  token : t.tokenAddress.val = s.tokenContractId
  tokenChain : t.tokenChain.toNat = TokenWrapper.getTokenChainId s
  decimals : s.tokenDecimals ≤ 18
  toChain : t.toChain.toNat = b.localChainId
  signed : ∃ keys n, WellSigned crypto w.governance now keys n v
  emitterChain : v.emitterChain.toNat = b.remoteChainId
  emitterAddress : v.emitterAddress.val = b.remoteTokenBridgeId
  payload : v.payload = t.bytes
  sequence : (Sequence.call distance b.replay v.sequence.toNat).isSome
  alph : dustAmount ≤ held.alph
  tokens : Math.deNormalized t.amount s.tokenDecimals ≤ held.token

/-- The completion pays the amount less the fee to the recipient and the fee to the arbiter, both
denormalised. -/
def Redeemed (crypto : Crypto) (distance : Nat) (w : World) (now : Nat) (wrapper : ContractId)
    (s : TokenWrapper.State) (held : Assets) (t : Transfer) (v : VAA) (answer : Option Body)
    (arbiter : Custody.Address) : Prop :=
  ∃ b' held', completeTransfer crypto distance w now wrapper (marshal v) answer held arbiter =
    some (b', held', [
      ([0x00] ++ t.recipient.val,
        Math.deNormalized t.amount s.tokenDecimals - Math.deNormalized t.fee s.tokenDecimals),
      (arbiter, Math.deNormalized t.fee s.tokenDecimals)])

/-! ## Amounts -/

/-- Up to 18 decimals, a 64-bit amount is denormalised without overflow. -/
theorem deNormalizeAmount_of_le {n decimals : Nat} (hn : n ≤ 2 ^ 64 - 1) (hdecimals : decimals ≤ 18) :
    Math.deNormalizeAmount n decimals = some (Math.deNormalized n decimals) := by
  have hunit : Math.unit decimals ≤ 10 ^ 10 := Nat.pow_le_pow_right (by decide) (by omega)
  have hproduct : Math.deNormalized n decimals ≤ (2 ^ 64 - 1) * 10 ^ 10 := Nat.mul_le_mul hn hunit
  refine Math.deNormalizeAmount_eq_some.mpr ⟨fun _ => ⟨?_, ?_⟩, rfl⟩
  · exact hunit.trans_lt (by norm_num)
  · exact hproduct.trans_lt (by norm_num)

theorem deNormalized_lt_iff {m n decimals : Nat} :
    Math.deNormalized m decimals < Math.deNormalized n decimals ↔ m < n :=
  Nat.mul_lt_mul_right (Math.unit_pos decimals)

section Completion

variable {s : TokenWrapper.State} {held : Assets} {t : Transfer} {arbiter : Custody.Address}

theorem exists_transferTokenFromSelf {amount : Nat} (h : amount ≤ held.token) :
    ∃ held', Custody.transferTokenFromSelf held amount = some held' ∧
      held'.token + amount = held.token := by
  have hpaid : Custody.transferTokenFromSelf held amount = some _ := if_pos h
  exact ⟨_, hpaid, (Custody.transferTokenFromSelf_eq_some.mp hpaid).1⟩

/-- The wrapper pays a transfer whose fee is below its amount. -/
theorem completeTransfer_pays (htoken : t.tokenAddress.val = s.tokenContractId)
    (hchain : t.tokenChain.toNat = TokenWrapper.getTokenChainId s) (hdecimals : s.tokenDecimals ≤ 18)
    (hamount : t.amount ≤ 2 ^ 64 - 1) (halph : dustAmount ≤ held.alph)
    (htokens : Math.deNormalized t.amount s.tokenDecimals ≤ held.token) (hfee : t.fee < t.amount) :
    ∃ held', Custody.completeTransfer s held t.alephium arbiter = some (held', [
      ([0x00] ++ t.recipient.val,
        Math.deNormalized t.amount s.tokenDecimals - Math.deNormalized t.fee s.tokenDecimals),
      (arbiter, Math.deNormalized t.fee s.tokenDecimals)]) := by
  have htokenId : t.alephium.tokenId = s.tokenContractId := htoken
  have hchainId : t.alephium.tokenChainId = TokenWrapper.getTokenChainId s := hchain
  have htotal : Math.deNormalizeAmount t.alephium.amount s.tokenDecimals =
      some (Math.deNormalized t.amount s.tokenDecimals) := deNormalizeAmount_of_le hamount hdecimals
  have hpart : Math.deNormalizeAmount t.alephium.arbiterFee s.tokenDecimals =
      some (Math.deNormalized t.fee s.tokenDecimals) :=
    deNormalizeAmount_of_le (hfee.le.trans hamount) hdecimals
  have hlt : Math.deNormalized t.amount s.tokenDecimals > Math.deNormalized t.fee s.tokenDecimals :=
    deNormalized_lt_iff.mpr hfee
  have hrecipient : byteVecToAddress ([0x00] ++ t.alephium.recipientAddress) =
      some ([0x00] ++ t.recipient.val) := by
    apply if_pos
    show ([0x00] ++ t.recipient.val).length = 33
    rw [List.length_append, t.recipient.property]
    rfl
  -- the three payments
  have hdust : Custody.transferAlphFromSelf held dustAmount =
      some { held with alph := held.alph - dustAmount } :=
    Custody.transferAlphFromSelf_eq_some.mpr ⟨rfl, Nat.sub_add_cancel halph⟩
  obtain ⟨held₁, hpaid, hleft⟩ : ∃ held₁, Custody.transferTokenFromSelf
      { held with alph := held.alph - dustAmount }
      (Math.deNormalized t.amount s.tokenDecimals - Math.deNormalized t.fee s.tokenDecimals) = some held₁ ∧
      held₁.token + (Math.deNormalized t.amount s.tokenDecimals - Math.deNormalized t.fee s.tokenDecimals) =
        held.token := by
    apply exists_transferTokenFromSelf
    exact le_trans (Nat.sub_le _ _) htokens
  obtain ⟨held₂, hpaidFee, -⟩ : ∃ held₂, Custody.transferTokenFromSelf held₁
      (Math.deNormalized t.fee s.tokenDecimals) = some held₂ ∧
      held₂.token + Math.deNormalized t.fee s.tokenDecimals = held₁.token := by
    apply exists_transferTokenFromSelf
    omega
  refine ⟨held₂, ?_⟩
  simp only [Custody.completeTransfer, assert_true htokenId, assert_true hchainId, htotal, hpart,
    assert_true hlt, U256.sub_of_le hlt.le, hrecipient, hdust, hpaid, hpaidFee, some_bind, Option.pure_def]

/-- It refuses any other transfer. -/
theorem completeTransfer_refuses (hfee : ¬t.fee < t.amount) :
    Custody.completeTransfer s held t.alephium arbiter = none := by
  refine Option.eq_none_iff_forall_ne_some.mpr ?_
  rintro ⟨held', payments⟩ h
  exact hfee (Custody.pays h).2

end Completion

/-! ## The VAA -/

theorem parseTransfer_length {distance : Nat} {b b' : TokenBridgeForChain.State} {msg : Body}
    {transfer : TokenBridgeForChain.Transfer}
    (h : TokenBridgeForChain.parseTransfer distance b msg = some (b', transfer)) :
    msg.payload.length = 133 := by
  obtain ⟨-, -, -, hpayload⟩ := verifyVAA_eq_some.mp (parseTransfer_eq_some h)
  simp only [TokenBridgeForChain.parseTransfer, Option.bind_eq_bind, Option.bind_eq_some_iff,
    assert_eq_some] at h
  obtain ⟨⟨b₁, payload⟩, hverify, _, -, _, -, _, -, _, -, _, -, _, -, _, -, _, -, _, -, _, -, _, -, _, -, _,
    -, _, hlength, -⟩ := h
  obtain ⟨-, -, -, rfl⟩ := verifyVAA_eq_some.mp hverify
  exact hlength

theorem parseBody_length {body : ByteVec} {msg : Body} (h : Governance.parseBody body = some msg) :
    msg.payload.length + 51 = body.length := by
  simp only [Governance.parseBody, Option.bind_eq_bind, Option.bind_eq_some_iff, Option.pure_def,
    Option.some_inj] at h
  obtain ⟨_, -, _, -, _, -, _, -, _, -, _, -, _, -, _, -, _, -, _, -, _, -, payload, hpayload, rfl⟩ := h
  have hle := (slice?_eq_some.mp hpayload).1
  rw [slice?_length hpayload]
  omega

section Arrived

variable {crypto : Crypto} {distance now : Nat} {w : World} {wrapper : ContractId} {s : TokenWrapper.State}
  {b : TokenBridgeForChain.State} {held : Assets} {t : Transfer} {v : VAA} {answer : Option Body}

/-- What `completeTransfer` does behind the look-ups. -/
theorem Arrived.completeTransfer_eq (h : Arrived crypto distance w now wrapper s b held t v)
    (arbiter : Custody.Address) :
    completeTransfer crypto distance w now wrapper (marshal v) answer held arbiter = (do
      let msg ← Governance.parseAndVerifyVAA crypto w.governance now (marshal v)
      let (b, transfer) ← TokenBridgeForChain.parseTransfer distance b msg
      let (held, payments) ← Custody.completeTransfer s held transfer arbiter
      return (b, held, payments)) := by
  obtain ⟨bridge, hbridge, hb⟩ := h.bridgeAt
  rw [completeTransfer, h.wrapperAt, some_bind, hbridge, some_bind, hb, some_bind, parseAndVerify,
    if_pos h.tokenBridge]

/-- The transfer is read, unless its VAA is swallowed. -/
theorem Arrived.parseTransfer (h : Arrived crypto distance w now wrapper s b held t v)
    (hclear : ¬Swallowed v) :
    ∃ msg b', Governance.parseAndVerifyVAA crypto w.governance now (marshal v) = some msg ∧
      TokenBridgeForChain.parseTransfer distance b msg = some (b', t.alephium) := by
  obtain ⟨keys, n, hsigned⟩ := h.signed
  have hbody : Governance.parseAndVerifySignatures crypto w.governance now (marshal v) false =
      some (serializeBody v) := (hsigned.parse_iff (by simp)).mpr hclear
  have hmsg : Governance.parseAndVerifyVAA crypto w.governance now (marshal v) = some {
      emitterChainId := v.emitterChain.toNat, emitterAddress := v.emitterAddress.val,
      sequence := v.sequence.toNat, payload := v.payload } := by
    rw [Governance.parseAndVerifyVAA, hbody, some_bind, VaaAgreement.parseBody_serializeBody]
  obtain ⟨replay, hreplay⟩ := Option.isSome_iff_exists.mp h.sequence
  have hverify : TokenBridgeForChain.verifyVAA distance b {
      emitterChainId := v.emitterChain.toNat, emitterAddress := v.emitterAddress.val,
      sequence := v.sequence.toNat, payload := v.payload } = some ({ b with replay }, t.bytes) :=
    verifyVAA_eq_some.mpr ⟨h.emitterChain, h.emitterAddress, ⟨replay, hreplay, rfl⟩, h.payload.symm⟩
  refine ⟨_, { b with replay }, hmsg, ?_⟩
  rw [t.alephium_parseTransfer hverify]
  exact if_pos h.toChain

/-- A swallowed VAA leaves too short a payload. -/
theorem Arrived.swallowed (h : Arrived crypto distance w now wrapper s b held t v)
    (hswallowed : Swallowed v) {msg : Body}
    (hmsg : Governance.parseAndVerifyVAA crypto w.governance now (marshal v) = some msg) :
    TokenBridgeForChain.parseTransfer distance b msg = none := by
  obtain ⟨keys, n, hsigned⟩ := h.signed
  obtain ⟨body, hbody, hparse⟩ := Option.bind_eq_some_iff.mp hmsg
  have hshort := hsigned.parse_swallowed hswallowed hbody
  have hpayload := parseBody_length hparse
  refine Option.eq_none_iff_forall_ne_some.mpr ?_
  rintro ⟨b', transfer⟩ hread
  have hlength := parseTransfer_length hread
  rw [Guardian.serializeBody_length, h.payload, t.bytes_length] at hshort
  omega

end Arrived

/-! ## Redemption -/

/-- **Which transfers are redeemed.** Of the transfers of the EVM bridge that arrive at the wrapper of
their token, the completion pays exactly those with a fee below the amount, when the VAA is not
swallowed. -/
theorem redeemed_iff {ν : Type} {env : Ethereum.Bridge.Environment ν} {crypto : Crypto} {distance now : Nat}
    {w : World} {wrapper : ContractId} {s : TokenWrapper.State} {b : TokenBridgeForChain.State}
    {held : Assets} {t : Transfer} {v : VAA} (hpublished : Published env t.ethereum)
    (hamount : t.amount ≤ 2 ^ 64 - 1) (h : Arrived crypto distance w now wrapper s b held t v)
    (answer : Option Body) (arbiter : Custody.Address) :
    Redeemed crypto distance w now wrapper s held t v answer arbiter ↔
      t.fee ≠ t.amount ∧ ¬Swallowed v := by
  have hle : t.fee ≤ t.amount := hpublished.fee_le
  rw [Redeemed, h.completeTransfer_eq arbiter]
  constructor
  · rintro ⟨b', held', hcomplete⟩
    obtain ⟨msg, hmsg, hcomplete⟩ := Option.bind_eq_some_iff.mp hcomplete
    obtain ⟨⟨b₁, transfer⟩, hread, hcomplete⟩ := Option.bind_eq_some_iff.mp hcomplete
    obtain ⟨⟨held₁, payments⟩, hpaid, -⟩ := Option.bind_eq_some_iff.mp hcomplete
    have hclear : ¬Swallowed v := by
      intro hswallowed
      rw [h.swallowed hswallowed hmsg] at hread
      cases hread
    refine ⟨?_, hclear⟩
    intro heq
    obtain ⟨msg', b₂, hmsg', hread'⟩ := h.parseTransfer hclear
    obtain rfl : msg = msg' := Option.some.inj (hmsg.symm.trans hmsg')
    obtain ⟨-, rfl⟩ : b₁ = b₂ ∧ transfer = t.alephium := by
      simpa using hread.symm.trans hread'
    rw [completeTransfer_refuses (not_lt_of_ge heq.ge)] at hpaid
    cases hpaid
  · rintro ⟨hne, hclear⟩
    obtain ⟨msg, b', hmsg, hread⟩ := h.parseTransfer hclear
    have hfee : t.fee < t.amount := lt_of_le_of_ne hle hne
    obtain ⟨held', hpaid⟩ : ∃ held', Custody.completeTransfer s held t.alephium arbiter = some (held', _) :=
      completeTransfer_pays h.token h.tokenChain h.decimals hamount h.alph h.tokens hfee
    refine ⟨b', held', ?_⟩
    rw [hmsg, some_bind, hread, some_bind]
    dsimp only
    rw [hpaid, some_bind]
    rfl

/-! ## Inputs -/

open Ethereum.Bridge (sampleWETH sampleWETHWorld sampleWETHEnvironment)

/-- Three units of ether from chain 4, some of them as a fee. -/
def etherTransfer (fee : Fin 4) : Transfer where
  amount := 3
  tokenAddress := sampleWETH.toWord
  tokenChain := 4
  recipient := Ethereum.zeroWord
  toChain := 13
  fee := fee
  amount_lt := by decide
  fee_lt := lt_of_lt_of_le fee.isLt (by decide)

theorem etherTransfer_published (fee : Fin 4) :
    Published sampleWETHEnvironment (etherTransfer fee).ethereum := by
  have haccepted : (Ethereum.Bridge.wrapAndTransferETH sampleWETHEnvironment sampleWETHWorld
      Ethereum.zeroAddress 30000000000 13 Ethereum.zeroWord (fee * 10000000000) 0).isOk = true := by
    revert fee
    decide +kernel
  have htransfer : ethTransfer sampleWETHEnvironment sampleWETHWorld 30000000000 13 Ethereum.zeroWord
      (fee * 10000000000) = .ok (etherTransfer fee).ethereum := by
    fin_cases fee <;> rfl
  cases hwrap : Ethereum.Bridge.wrapAndTransferETH sampleWETHEnvironment sampleWETHWorld
      Ethereum.zeroAddress 30000000000 13 Ethereum.zeroWord (fee * 10000000000) 0 with
  | error reason =>
    rw [hwrap] at haccepted
    cases haccepted
  | ok result => exact .ether hwrap htransfer

theorem etherEmitter_length : (List.replicate 32 (0x05 : UInt8)).length = 32 := rfl

/-- The message of the transfer, signed by the one guardian. -/
def etherVaa (fee : Fin 4) : VAA :=
  { VaaAgreement.sampleVaa 1650000000 with
    sequence := 1
    emitterChain := 4
    emitterAddress := ⟨List.replicate 32 0x05, etherEmitter_length⟩
    payload := (etherTransfer fee).bytes }

/-- Governance registers chain 4, whose bridge attests its ether. -/
def etherAttested : World :=
  worldAfter [.registerChain (registerVaa 0 4) (sampleId 0xb1),
    .createWrapperForRemoteToken (sampleId 0xb1) (attestVaa 0 4 sampleWETH.toWord) none (sampleId 0xd1)]

def etherWrapper : TokenWrapper.State where
  tokenBridgeId := (sampleId 0xa1).val
  tokenBridgeForChainId := (sampleId 0xb1).val
  localChainId := 13
  remoteChainId := 4
  tokenContractId := sampleWETH.toWord.val
  isLocalToken := false
  tokenDecimals := 8
  symbol := List.replicate 32 0x54
  name := List.replicate 32 0x54

def etherBridge : TokenBridgeForChain.State where
  localChainId := 13
  localTokenBridgeId := (sampleId 0xa1).val
  remoteChainId := 4
  remoteTokenBridgeId := List.replicate 32 0x05
  replay := (Sequence.call 64 Sequence.State.init 0).getD Sequence.State.init

def etherAssets : Assets := ⟨2000000000000, 100, by decide⟩

/-- It is signed for any governance contract with the one guardian. -/
theorem etherVaa_wellSigned (fee : Fin 4) {s : Governance.State} (hindex : 0 = s.guardianSetIndexes 1)
    (hsize : s.guardianSetSizes 1 = 1)
    (hkey : s.guardianSets 1 0 = Governance.oneGuardian.guardianSets 1 0) :
    WellSigned Crypto.sample s 5 (s.guardianSets 1) (s.guardianSetSizes 1) (etherVaa fee) where
  version := rfl
  named := .inl ⟨hindex, rfl, rfl⟩
  ascending := List.pairwise_singleton _ _
  below := by simp [etherVaa, VaaAgreement.sampleVaa]
  member := by simp [etherVaa, VaaAgreement.sampleVaa, hsize]
  valid := by
    intro sig hsig
    obtain rfl := List.mem_singleton.mp hsig
    exact congrArg some hkey.symm
  reached := by
    rw [hsize]
    show Governance.quorum 1 ≤ 1
    decide
  wholeSecond := rfl
  inRange := by
    show (0 : Int) ≤ 1650000000 ∧ (1650000000 : Int) < 2 ^ 32
    norm_num

theorem etherVaa_arrived (fee : Fin 4) :
    Arrived Crypto.sample 64 etherAttested 5 (sampleId 0xd1) etherWrapper etherBridge etherAssets
      (etherTransfer fee) (etherVaa fee) where
  wrapperAt := by decide +kernel
  bridgeAt := ⟨sampleId 0xb1, by decide +kernel, by decide +kernel⟩
  tokenBridge := by decide +kernel
  token := rfl
  tokenChain := rfl
  decimals := by decide
  toChain := rfl
  signed := ⟨_, _, etherVaa_wellSigned fee (by decide +kernel) (by decide +kernel) (by decide +kernel)⟩
  emitterChain := rfl
  emitterAddress := rfl
  payload := rfl
  sequence := by
    show (Sequence.call 64 etherBridge.replay 1).isSome
    decide +kernel
  alph := by decide
  tokens := by
    show Math.deNormalized 3 8 ≤ 100
    decide

/-- Two of the three units reach the recipient, one the arbiter. -/
theorem etherTransfer_redeemed :
    Redeemed Crypto.sample 64 etherAttested 5 (sampleId 0xd1) etherWrapper etherAssets (etherTransfer 1)
      (etherVaa 1) none [] := by
  refine (redeemed_iff (etherTransfer_published 1) (by decide) (etherVaa_arrived 1) none []).mpr ⟨by decide, ?_⟩
  rintro ⟨hlt, -⟩
  exact absurd hlt (by decide)

/-- **All of it is the fee**: the transfer is published, and its completion aborts. -/
theorem etherTransfer_stuck :
    Published sampleWETHEnvironment (etherTransfer 3).ethereum ∧
    Arrived Crypto.sample 64 etherAttested 5 (sampleId 0xd1) etherWrapper etherBridge etherAssets
      (etherTransfer 3) (etherVaa 3) ∧
    completeTransfer Crypto.sample 64 etherAttested 5 (sampleId 0xd1) (marshal (etherVaa 3)) none etherAssets
      [] = none ∧
    ¬Redeemed Crypto.sample 64 etherAttested 5 (sampleId 0xd1) etherWrapper etherAssets (etherTransfer 3)
      (etherVaa 3) none [] := by
  have hnone : completeTransfer Crypto.sample 64 etherAttested 5 (sampleId 0xd1) (marshal (etherVaa 3)) none
      etherAssets [] = none := by decide +kernel
  refine ⟨etherTransfer_published 3, etherVaa_arrived 3, hnone, ?_⟩
  rintro ⟨b, held, h⟩
  rw [hnone] at h
  cases h

end Wormhole.AlephiumTransfers

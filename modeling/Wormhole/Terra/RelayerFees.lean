/-
# Wormhole.Terra.RelayerFees — who is paid when a transfer is completed on Terra.

The rule is written out three times: the recipient of the transfer is paid the amount without the fee, and whoever
has sent the message is paid the fee (`due`).  Where native coins are released the fee goes to the recipient as well.

What someone is paid is the sum of the messages to them.  `relayer_paid_iff`: a completion pays what is due, and
nothing else, unless it releases native coins with a fee, and the relayer is not the recipient.
-/
import Mathlib
import Wormhole.Lib.Bytes
import Wormhole.Lib.Go
import Wormhole.Terra.Cosmwasm
import Wormhole.Terra.Completions
import Wormhole.Terra.NativeCoins
import Wormhole.Terra.TokenBridge
import Wormhole.Terra.TokenTransfers

namespace Wormhole.Terra.TokenBridge

open Wormhole.Lib Wormhole.Lib.Bytes

/-! ## Payments -/

/-- The message pays someone, and does nothing else. -/
def IsPayment : CosmosMsg → Prop
  | .send _ _ => True
  | .mint _ _ _ => True
  | .transfer _ _ _ => True
  | _ => False

/-- What a message pays someone of an asset. -/
def paidBy (asset : AssetInfo) (payee : String) : CosmosMsg → Nat
  | .send toAddress coins =>
    if toAddress = payee then (coins.map fun c => if .nativeToken c.denom = asset then c.amount else 0).sum else 0
  | .mint contractAddr recipient amount => if .token contractAddr = asset ∧ recipient = payee then amount else 0
  | .transfer contractAddr recipient amount => if .token contractAddr = asset ∧ recipient = payee then amount else 0
  | _ => 0

def paid (asset : AssetInfo) (payee : String) (messages : List CosmosMsg) : Nat :=
  (messages.map (paidBy asset payee)).sum

/-- What is to be paid of an asset: an amount to the recipient, and a fee to the relayer. -/
structure Due where
  asset : AssetInfo
  recipient : String
  amount : Nat
  fee : Nat
  deriving DecidableEq

/-- What someone is owed. -/
def Due.owed (d : Due) (relayer : String) (asset : AssetInfo) (payee : String) : Nat :=
  if d.asset = asset then (if d.recipient = payee then d.amount else 0) + if relayer = payee then d.fee else 0 else 0

/-- Everyone is paid what they are owed, and nothing else is done. -/
structure Settles (messages : List CosmosMsg) (d : Due) (relayer : String) : Prop where
  payments : ∀ msg ∈ messages, IsPayment msg
  amounts : ∀ asset payee, paid asset payee messages = d.owed relayer asset payee

/-- What is left of a fee in native coins. -/
def taxedFee (env : Env) (denom : String) (fee : Nat) : StdResult Nat :=
  if fee = 0 then .ok 0 else env.deductTax denom fee

/-- **What a transfer is due**: native coins less their tax, tokens of this chain in their own units, and wrapped
tokens as they stand in the message. -/
def due (keccak256 : List UInt8 → FixedBytes 32) (env : Env) (s : State) (transferInfo : TransferInfo) :
    StdResult Due := do
  let amount := transferInfo.amount.2 - transferInfo.fee.2
  let fee := transferInfo.fee.2
  let recipient ← env.addrHumanize (← getAddress transferInfo.recipient 0)
  if transferInfo.tokenAddress.head? = some 0x01 then
    let denom ← unwrap (fromUtf8 (serializedDenom transferInfo.tokenAddress))
    let amount ← env.deductTax denom amount
    let fee ← taxedFee env denom fee
    return ⟨.nativeToken denom, recipient, amount, fee⟩
  else if transferInfo.tokenChain ≠ CHAIN_ID then
    let contractAddr ← okOr "Wrapped asset not deployed"
      (s.wrappedAsset (buildAssetId keccak256 transferInfo.tokenChain transferInfo.tokenAddress))
    return ⟨.token contractAddr, recipient, amount, fee⟩
  else
    let contractAddr ← env.addrHumanize (← getAddress transferInfo.tokenAddress 0)
    let m ← multiplier (← env.tokenDecimals contractAddr)
    return ⟨.token contractAddr, recipient, amount * m, fee * m⟩

/-! ## The three ways -/

section Ways

variable {env : Env} {contractAddr recipient sender denom : String} {amount fee : Nat} {d : Due}

/-- A message to the recipient, and one to the relayer if there is a fee. -/
theorem settles_pair {msg feeMsg : CosmosMsg} {n : Nat} (hmsg : IsPayment msg) (hfeeMsg : IsPayment feeMsg)
    (hnone : n = 0 → d.fee = 0)
    (hamount : ∀ asset payee, paidBy asset payee msg =
      if d.asset = asset then if d.recipient = payee then d.amount else 0 else 0)
    (hfee : ∀ asset payee, paidBy asset payee feeMsg =
      if d.asset = asset then if sender = payee then d.fee else 0 else 0) :
    Settles (msg :: if n ≠ 0 then [feeMsg] else []) d sender := by
  by_cases hzero : n = 0
  · rw [if_neg (not_not.mpr hzero)]
    refine ⟨?_, ?_⟩
    · intro m hm
      rw [List.mem_singleton.mp hm]
      exact hmsg
    · intro asset payee
      rw [paid, List.map_singleton, List.sum_singleton, hamount, Due.owed, hnone hzero, ite_self, Nat.add_zero]
  · rw [if_pos hzero]
    refine ⟨?_, ?_⟩
    · intro m hm
      rcases List.mem_cons.mp hm with rfl | hm
      · exact hmsg
      · rw [List.mem_singleton.mp hm]
        exact hfeeMsg
    · intro asset payee
      rw [paid, List.map_cons, List.map_singleton, List.sum_cons, List.sum_singleton, hamount, hfee, Due.owed]
      split
      · rfl
      · rfl

/-- **Wrapped tokens** are minted as due. -/
theorem settles_mintMessages :
    Settles (mintMessages contractAddr recipient amount sender fee) ⟨.token contractAddr, recipient, amount, fee⟩
      sender :=
  settles_pair (d := ⟨.token contractAddr, recipient, amount, fee⟩) trivial trivial id (fun _ _ => ite_and ..)
    fun _ _ => ite_and ..

/-- **Tokens of this chain** are transferred as due. -/
theorem settles_transferMessages :
    Settles (transferMessages contractAddr recipient amount sender fee) ⟨.token contractAddr, recipient, amount, fee⟩
      sender :=
  settles_pair (d := ⟨.token contractAddr, recipient, amount, fee⟩) trivial trivial id (fun _ _ => ite_and ..)
    fun _ _ => ite_and ..

theorem paidBy_send (asset : AssetInfo) (payee : String) :
    paidBy asset payee (.send recipient [⟨denom, amount⟩]) =
      if .nativeToken denom = asset then if recipient = payee then amount else 0 else 0 := by
  show (if recipient = payee then [if .nativeToken denom = asset then amount else 0].sum else 0) = _
  rw [List.sum_singleton]
  by_cases hasset : .nativeToken denom = asset
  · rw [if_pos hasset, if_pos hasset]
  · rw [if_neg hasset, if_neg hasset, ite_self]

/-- The messages for native coins: the amount, and what the fee is after its tax. -/
theorem sendFee_eq_ok {feeMessages : List CosmosMsg} (h : sendFee env recipient denom fee = .ok feeMessages) :
    ∃ taxed, taxedFee env denom fee = .ok taxed ∧
      feeMessages = if fee ≠ 0 then [.send recipient [⟨denom, taxed⟩]] else [] := by
  unfold sendFee at h
  split at h
  · rename_i hfee
    obtain ⟨coins, hcoins, h⟩ := Go.bind_eq_ok.mp h
    obtain ⟨taxed, htaxed, rfl⟩ := coinsAfterTax_singleton_eq_ok.mp hcoins
    refine ⟨taxed, by rw [taxedFee, if_neg hfee, htaxed], ?_⟩
    rw [if_pos hfee, Go.ok.inj h]
  · rename_i hfee
    refine ⟨0, by rw [taxedFee, if_pos (not_not.mp hfee)], ?_⟩
    rw [if_neg hfee, Go.ok.inj h]

/-- **Native coins** are all sent to the recipient. -/
theorem settles_send {taxed : Nat} (hnone : fee = 0 → taxed = 0) :
    Settles (.send recipient [⟨denom, amount⟩] :: if fee ≠ 0 then [.send recipient [⟨denom, taxed⟩]] else [])
      ⟨.nativeToken denom, recipient, amount, taxed⟩ sender ↔ taxed = 0 ∨ sender = recipient := by
  constructor
  · intro h
    by_cases hfee : fee = 0
    · exact .inl (hnone hfee)
    · by_contra hwrong
      obtain ⟨htaxed, hsender⟩ := not_or.mp hwrong
      -- the relayer is paid nothing
      have howed := h.amounts (.nativeToken denom) sender
      rw [if_pos hfee, paid, List.map_cons, List.map_singleton, List.sum_cons, List.sum_singleton, paidBy_send,
        paidBy_send, if_pos rfl, if_pos rfl, if_neg (Ne.symm hsender), if_neg (Ne.symm hsender), Due.owed,
        if_pos rfl, if_pos rfl, if_neg (Ne.symm hsender)] at howed
      exact htaxed (Nat.add_left_cancel howed).symm
  · intro h
    refine settles_pair trivial trivial hnone paidBy_send ?_
    intro asset payee
    rw [paidBy_send]
    rcases h with rfl | rfl
    · show (if _ then if _ then 0 else 0 else 0) = if _ then if _ then 0 else 0 else 0
      rw [ite_self, ite_self, ite_self, ite_self]
    · rfl

end Ways

/-! ## Completions -/

section Completions

variable {keccak256 : List UInt8 → FixedBytes 32} {env : Env} {s s' : State} {sender : String}
  {emitterChain amount : Nat} {emitterAddress data targetAddress : List UInt8} {transferInfo : TransferInfo}
  {messages : List CosmosMsg}

theorem checkTransfer_reads (hparse : TransferInfo.deserialize data = .ok transferInfo) {checked : TransferInfo}
    (h : checkTransfer s emitterChain emitterAddress data = .ok (checked, targetAddress, amount)) :
    transferInfo = checked ∧ getAddress transferInfo.recipient 0 = .ok targetAddress ∧
      amount = transferInfo.amount.2 - transferInfo.fee.2 := by
  simp only [checkTransfer, Go.bind_eq_ok, unwrap_eq_ok, checkedSub_eq_some] at h
  obtain ⟨info, hinfo, _, -, _, -, _, -, target, htarget, net, hnet, _, -, heq⟩ := h
  obtain rfl := Go.ok.inj (hparse.symm.trans hinfo)
  obtain ⟨rfl, hrest⟩ := Prod.mk.inj (Go.ok.inj heq)
  obtain ⟨rfl, rfl⟩ := Prod.mk.inj hrest
  exact ⟨rfl, htarget, by omega⟩

/-- Tokens are paid as due. -/
theorem handleCompleteTransferToken_settles (hparse : TransferInfo.deserialize data = .ok transferInfo)
    (hmarked : ¬Marked transferInfo)
    (h : handleCompleteTransferToken keccak256 env s sender emitterChain emitterAddress data = .ok (s', messages)) :
    ∃ d, due keccak256 env s transferInfo = .ok d ∧ Settles messages d sender := by
  obtain ⟨⟨checked, targetAddress, amount⟩, hcheck, h⟩ := Go.bind_eq_ok.mp h
  obtain ⟨rfl, htarget, rfl⟩ := checkTransfer_reads hparse hcheck
  have hunmarked : ¬transferInfo.tokenAddress.head? = some 0x01 := hmarked
  dsimp only at h
  split at h
  · rename_i hchain
    simp only [completeWrapped, Go.bind_eq_ok, okOr_eq_ok, committed_eq_some] at h
    obtain ⟨contractAddr, hcontract, recipient, hrecipient, heq⟩ := h
    obtain ⟨-, rfl⟩ := Prod.mk.inj (Go.ok.inj heq)
    refine ⟨_, ?_, settles_mintMessages⟩
    rw [due, htarget, Go.ok_bind, hrecipient, Go.ok_bind, if_neg hunmarked, if_pos hchain, hcontract]
    rfl
  · rename_i hchain
    simp only [completeToken, Go.bind_eq_ok, unwrap_eq_ok] at h
    obtain ⟨tokenAddress, htoken, recipient, hrecipient, contractAddr, hcontract, total, -, s₁, -, decimals,
      hdecimals, m, hm, amountOut, hamount, feeOut, hfee, heq⟩ := h
    obtain ⟨-, rfl⟩ := Prod.mk.inj (Go.ok.inj heq)
    have hm : multiplier decimals = .ok m := hm
    rw [checkedMul_eq_some hamount, checkedMul_eq_some hfee]
    refine ⟨_, ?_, settles_transferMessages⟩
    rw [due, htarget, Go.ok_bind, hrecipient, Go.ok_bind, if_neg hunmarked, if_neg hchain, htoken, Go.ok_bind,
      hcontract, Go.ok_bind, hdecimals, Go.ok_bind, hm]
    rfl

/-- Native coins are paid as due exactly if no fee is due to somebody else than the recipient. -/
theorem handleCompleteTransferTokenNative_settles (hparse : TransferInfo.deserialize data = .ok transferInfo)
    (hmarked : Marked transferInfo)
    (h : handleCompleteTransferTokenNative env s emitterChain emitterAddress data = .ok (s', messages)) :
    ∃ d, due keccak256 env s transferInfo = .ok d ∧ (Settles messages d sender ↔ d.fee = 0 ∨ sender = d.recipient) := by
  obtain ⟨⟨checked, targetAddress, amount⟩, hcheck, h⟩ := Go.bind_eq_ok.mp h
  obtain ⟨rfl, htarget, rfl⟩ := checkTransfer_reads hparse hcheck
  simp only [Go.bind_eq_ok, unwrap_eq_ok] at h
  obtain ⟨denom, hdenom, recipient, hrecipient, _, -, _, -, _, -, coins, hcoins, feeMessages, hfee, heq⟩ := h
  obtain ⟨-, rfl⟩ := Prod.mk.inj (Go.ok.inj heq)
  obtain ⟨net, hnet, rfl⟩ := coinsAfterTax_singleton_eq_ok.mp hcoins
  obtain ⟨taxed, htaxed, rfl⟩ := sendFee_eq_ok hfee
  have hnone : transferInfo.fee.2 = 0 → taxed = 0 := by
    intro hzero
    rw [taxedFee, if_pos hzero] at htaxed
    exact (Go.ok.inj htaxed).symm
  have hmarked : transferInfo.tokenAddress.head? = some 0x01 := hmarked
  refine ⟨⟨.nativeToken denom, recipient, net, taxed⟩, ?_, settles_send hnone⟩
  rw [due, htarget, Go.ok_bind, hrecipient, Go.ok_bind, if_pos hmarked, hdenom]
  show (env.deductTax denom _ >>= fun amount => _) = _
  rw [hnet, Go.ok_bind, htaxed]
  rfl

/-- **Who is paid.** Every completion that goes through has something due, and pays it out exactly unless it releases
native coins with a fee, and the relayer is not the recipient. -/
theorem relayer_paid_iff (hparse : TransferInfo.deserialize data = .ok transferInfo)
    (h : handleCompleteTransfer keccak256 env s sender emitterChain emitterAddress data = .ok (s', messages)) :
    ∃ d, due keccak256 env s transferInfo = .ok d ∧
      (Settles messages d sender ↔ (Marked transferInfo → d.fee = 0 ∨ sender = d.recipient)) := by
  by_cases hmarked : Marked transferInfo
  · rw [handleCompleteTransfer_marked hparse hmarked] at h
    obtain ⟨d, hdue, hsettles⟩ := handleCompleteTransferTokenNative_settles hparse hmarked h
    refine ⟨d, hdue, hsettles.trans ?_⟩
    exact ⟨fun hd _ => hd, fun hd => hd hmarked⟩
  · rw [handleCompleteTransfer_unmarked hparse hmarked] at h
    obtain ⟨d, hdue, hsettles⟩ := handleCompleteTransferToken_settles hparse hmarked h
    exact ⟨d, hdue, iff_of_true hsettles fun hm => absurd hm hmarked⟩

end Completions

/-! ## Inputs -/

/-- 1000 units of a token of the chain 2, with a fee. -/
def wrappedTransfer (fee : Nat) : TransferInfo :=
  { sampleTransfer 2 with tokenAddress := List.replicate 32 0x08, fee := (0, fee) }

/-- Of a wrapped token the relayer is minted the fee, and the recipient the rest. -/
theorem feeTransfer_settled : ∃ s' messages d,
    handleCompleteTransfer plainKeccak plainEnv (plainState none) "terra1relayer" 2 []
      (wrappedTransfer 10).serialize = .ok (s', messages) ∧
    due plainKeccak plainEnv (plainState none) (wrappedTransfer 10) = .ok d ∧ d.fee = 10 ∧
    paid d.asset "terra1relayer" messages = 10 ∧ Settles messages d "terra1relayer" := by
  have hparse : TransferInfo.deserialize (wrappedTransfer 10).serialize = .ok (wrappedTransfer 10) := by
    decide +kernel
  have hunmarked : ¬Marked (wrappedTransfer 10) := by decide
  have hcompletes : (committed (handleCompleteTransfer plainKeccak plainEnv (plainState none) "terra1relayer" 2 []
      (wrappedTransfer 10).serialize)).isSome = true := by decide +kernel
  obtain ⟨⟨s', messages⟩, hcommitted⟩ := Option.isSome_iff_exists.mp hcompletes
  have hcomplete := committed_eq_some.mp hcommitted
  obtain ⟨d, hdue, hsettles⟩ := relayer_paid_iff hparse hcomplete
  have hd : due plainKeccak plainEnv (plainState none) (wrappedTransfer 10) =
      .ok ⟨.token "terra1wrapped", "terra1", 990, 10⟩ := by decide +kernel
  obtain rfl := Go.ok.inj (hdue.symm.trans hd)
  have hsettled := hsettles.mpr fun hmarked => absurd hmarked hunmarked
  exact ⟨s', messages, _, hcomplete, hdue, rfl, hsettled.amounts _ _, hsettled⟩

/-- 1000 units of the native coin, with a fee. -/
def feeTransfer (fee : Nat) : TransferInfo := { sampleTransfer 3 with fee := (0, fee) }

/-- **The relayer's fee goes to the recipient** when native coins are released. -/
theorem feeTransfer_unsettled : ∃ s' messages d,
    handleCompleteTransfer plainKeccak plainEnv (plainState (some 1000)) "terra1relayer" 2 []
      (feeTransfer 10).serialize = .ok (s', messages) ∧
    due plainKeccak plainEnv (plainState (some 1000)) (feeTransfer 10) = .ok d ∧ d.fee = 10 ∧
    ¬Settles messages d "terra1relayer" := by
  have hparse : TransferInfo.deserialize (feeTransfer 10).serialize = .ok (feeTransfer 10) := by decide +kernel
  have hdenom : fromUtf8 (serializedDenom (feeTransfer 10).tokenAddress) = some "uluna" := by decide +kernel
  have hmarked : Marked (feeTransfer 10) := by decide
  obtain ⟨s', messages, _, hcomplete, -⟩ := released_of_marked hparse hmarked (by decide) hdenom
  have hnative := hcomplete
  rw [handleCompleteTransfer_marked hparse hmarked] at hnative
  obtain ⟨d, hdue, hsettles⟩ := handleCompleteTransferTokenNative_settles hparse hmarked hnative
  have hd : due plainKeccak plainEnv (plainState (some 1000)) (feeTransfer 10) =
      .ok ⟨.nativeToken "uluna", "terra1", 990, 10⟩ := by decide +kernel
  obtain rfl := Go.ok.inj (hdue.symm.trans hd)
  exact ⟨s', messages, _, hcomplete, hdue, rfl, fun h => absurd (hsettles.mp h) (by decide)⟩

end Wormhole.Terra.TokenBridge

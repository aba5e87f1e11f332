/-
# Wormhole.Terra.Completions — what completing a transfer on Terra does.

A completion ends in one of three ways (`Completes`): the wrapped CW20 of a foreign token mints, a CW20 of
Terra is asked for two transfers, or native coins are sent.  The last two count the amount and the fee back
first.  The invariants of `LockedTokens` and `NativeSolvency` go by these cases.
-/
import Mathlib
import Wormhole.Lib.Bytes
import Wormhole.Lib.Go
import Wormhole.Terra.Cosmwasm
import Wormhole.Terra.TokenBridge
import Wormhole.Terra.TokenTransfers

namespace Wormhole.Terra.TokenBridge

open Wormhole.Lib Wormhole.Lib.Bytes

theorem addUint_eq_ok {bits x y z : Nat} (h : addUint bits x y = .ok z) : z = x + y := by
  rw [addUint, unwrap_eq_ok] at h
  split at h
  · exact (Option.some.inj h).symm
  · cases h

theorem checkedMul_eq_some {x y z : Nat} (h : checkedMul x y = some z) : z = x * y := by
  unfold checkedMul at h
  split at h
  · exact (Option.some.inj h).symm
  · cases h

variable {keccak256 : List UInt8 → FixedBytes 32} {env : Env} {s s' : State} {sender : String}
  {emitterChain : Nat} {emitterAddress data : List UInt8} {messages : List CosmosMsg}

variable (env s sender data) in
/-- The three ways of completing a transfer. -/
inductive Completes : State → List CosmosMsg → Prop
  | wrapped {contractAddr recipient : String} {amount fee : Nat} :
      Completes s (mintMessages contractAddr recipient amount sender fee)
  | token {tokenAddress : List UInt8} {contractAddr recipient : String} {amount fee decimals m : Nat}
      {s' : State} (hcontract : env.addrHumanize tokenAddress = .ok contractAddr)
      (hcounted : receiveNative s tokenAddress (amount + fee) = .ok s')
      (hdecimals : env.tokenDecimals contractAddr = .ok decimals) (hm : multiplier decimals = .ok m) :
      Completes s' (transferMessages contractAddr recipient (amount * m) sender (fee * m))
  | native {transferInfo : TransferInfo} {denom recipient : String} {tokenAddress : List UInt8}
      {amount fee : Nat} {coins : List Coin} {feeMessages : List CosmosMsg} {s' : State}
      (hparse : TransferInfo.deserialize data = .ok transferInfo)
      (hmarked : transferInfo.tokenAddress.head? = some 0x01)
      (htotal : amount + fee = transferInfo.amount.2)
      (hdenom : fromUtf8 (serializedDenom transferInfo.tokenAddress) = some denom)
      (haddress : getAddress (transferInfo.tokenAddress.set 0 0x00) 0 = .ok tokenAddress)
      (hcounted : receiveNative s tokenAddress (amount + fee) = .ok s')
      (hcoins : coinsAfterTax env [⟨denom, amount⟩] = .ok coins)
      (hfee : sendFee env recipient denom fee = .ok feeMessages) :
      Completes s' (.send recipient coins :: feeMessages)

/-- What the checks of a completion have found out. -/
theorem checkTransfer_total {transferInfo : TransferInfo} {targetAddress : List UInt8} {amount : Nat}
    (h : checkTransfer s emitterChain emitterAddress data = .ok (transferInfo, targetAddress, amount)) :
    TransferInfo.deserialize data = .ok transferInfo ∧
      amount + transferInfo.fee.2 = transferInfo.amount.2 := by
  simp only [checkTransfer, Go.bind_eq_ok, unwrap_eq_ok, checkedSub_eq_some] at h
  obtain ⟨info, hparse, _, -, _, -, _, -, _, -, net, hnet, _, -, heq⟩ := h
  obtain ⟨rfl, hrest⟩ := Prod.mk.inj (Go.ok.inj heq)
  obtain ⟨-, rfl⟩ := Prod.mk.inj hrest
  exact ⟨hparse, hnet⟩

theorem handleCompleteTransferToken_completes
    (h : handleCompleteTransferToken keccak256 env s sender emitterChain emitterAddress data =
      .ok (s', messages)) : Completes env s sender data s' messages := by
  obtain ⟨⟨transferInfo, targetAddress, amount⟩, -, h⟩ := Go.bind_eq_ok.mp h
  dsimp only at h
  split at h
  · simp only [completeWrapped, Go.bind_eq_ok] at h
    obtain ⟨contractAddr, -, recipient, -, heq⟩ := h
    obtain ⟨rfl, rfl⟩ := Prod.mk.inj (Go.ok.inj heq)
    exact .wrapped
  · simp only [completeToken, Go.bind_eq_ok, unwrap_eq_ok] at h
    obtain ⟨tokenAddress, -, recipient, -, contractAddr, hcontract, total, htotal, s₁, hcounted, decimals,
      hdecimals, m, hm, amountOut, hamount, feeOut, hfee, heq⟩ := h
    obtain ⟨rfl, rfl⟩ := Prod.mk.inj (Go.ok.inj heq)
    rw [checkedMul_eq_some hamount, checkedMul_eq_some hfee]
    rw [addUint_eq_ok htotal] at hcounted
    exact .token hcontract hcounted hdecimals hm

theorem handleCompleteTransferTokenNative_completes {transferInfo : TransferInfo}
    (hparse : TransferInfo.deserialize data = .ok transferInfo)
    (hmarked : transferInfo.tokenAddress.head? = some 0x01)
    (h : handleCompleteTransferTokenNative env s emitterChain emitterAddress data = .ok (s', messages)) :
    Completes env s sender data s' messages := by
  obtain ⟨⟨checked, targetAddress, amount⟩, hcheck, h⟩ := Go.bind_eq_ok.mp h
  obtain ⟨hparse', htotal⟩ := checkTransfer_total hcheck
  obtain rfl : transferInfo = checked := Go.ok.inj (hparse.symm.trans hparse')
  simp only [Go.bind_eq_ok, unwrap_eq_ok] at h
  obtain ⟨denom, hdenom, recipient, -, tokenAddress, haddress, total, hsum, s₁, hcounted, coins, hcoins,
    feeMessages, hfee, heq⟩ := h
  obtain ⟨rfl, rfl⟩ := Prod.mk.inj (Go.ok.inj heq)
  rw [addUint_eq_ok hsum] at hcounted
  exact .native hparse hmarked htotal hdenom haddress hcounted hcoins hfee

/-- **What a completion that goes through has done.** -/
theorem handleCompleteTransfer_completes
    (h : handleCompleteTransfer keccak256 env s sender emitterChain emitterAddress data =
      .ok (s', messages)) : Completes env s sender data s' messages := by
  obtain ⟨transferInfo, hparse, h⟩ := Go.bind_eq_ok.mp h
  split at h
  · rename_i hmarked
    exact handleCompleteTransferTokenNative_completes hparse hmarked h
  · exact handleCompleteTransferToken_completes h

end Wormhole.Terra.TokenBridge

/-
# Wormhole.Terra.NativeCoins — which transfers release native coins on Terra.

Native coins should be released for transfers of a native denom of Terra only, and a token of another
chain should be completed through its wrapped CW20 (`Isolated`).  The transfers for which this holds in
every state are those without the marker byte, those that both ways reject, and those of Terra whose
address is the one the bridge itself gives to a denom (`isolated_iff`); a foreign address may start with
the marker (`foreign_released`).  What the bridge sends out comes back as the same coin
(`returned_isolated`).
-/
import Mathlib
import Wormhole.Lib.Bytes
import Wormhole.Lib.Go
import Wormhole.Terra.Cosmwasm
import Wormhole.Terra.TokenBridge

namespace Wormhole.Terra.TokenBridge

open Wormhole.Lib Wormhole.Lib.Bytes

variable {keccak256 : List UInt8 → FixedBytes 32} {env : Env} {s s' : State} {sender : String}
  {emitterChain : Nat} {emitterAddress data targetAddress : List UInt8} {transferInfo : TransferInfo}
  {amount : Nat} {messages : List CosmosMsg}

/-! ## The checks -/

/-- A transfer that neither way completes, in any state. -/
def Rejected (transferInfo : TransferInfo) : Prop :=
  transferInfo.recipientChain ≠ CHAIN_ID ∨ transferInfo.amount.2 < transferInfo.fee.2 ∨
    transferInfo.amount.1 ≠ 0 ∨ transferInfo.fee.1 ≠ 0

instance (transferInfo : TransferInfo) : Decidable (Rejected transferInfo) := by
  unfold Rejected
  infer_instance

theorem deserialize_tokenAddress (h : TransferInfo.deserialize data = .ok transferInfo) :
    transferInfo.tokenAddress.length = 32 ∧ transferInfo.recipient.length = 32 ∧
      transferInfo.amount.2 < 2 ^ 128 := by
  simp only [TransferInfo.deserialize, getU256, getU128, getUint, Go.bind_eq_ok] at h
  obtain ⟨_, ⟨_, -, _, ⟨low, hlow, hlowEq⟩, hamount⟩, _, haddress, _, -, _, hrecipient, _, -, _, -, heq⟩ := h
  obtain rfl := Go.ok.inj heq
  refine ⟨getBytes_length haddress, getBytes_length hrecipient, ?_⟩
  have hlength := getBytes_length hlow
  obtain rfl := Go.ok.inj hlowEq
  obtain rfl := Go.ok.inj hamount
  have hlt := beNat_lt low
  rw [hlength] at hlt
  exact hlt

/-- The last 20 bytes. -/
theorem getAddress_eq {bytes : List UInt8} (h : bytes.length = 32) :
    getAddress bytes 0 = .ok (bytes.drop 12) := by
  apply getBytes_eq_ok.mpr
  rw [slice?_eq_some]
  refine ⟨by omega, by omega, List.take_of_length_le ?_⟩
  rw [List.length_drop]
  omega

/-- A transfer of a registered bridge passes the checks unless it is rejected. -/
theorem checkTransfer_eq_ok (hparse : TransferInfo.deserialize data = .ok transferInfo)
    (hregistered : s.bridgeContracts emitterChain = some emitterAddress)
    {result : TransferInfo × List UInt8 × Nat} :
    checkTransfer s emitterChain emitterAddress data = .ok result ↔ ¬Rejected transferInfo ∧
      result = (transferInfo, transferInfo.recipient.drop 12, transferInfo.amount.2 - transferInfo.fee.2) := by
  obtain ⟨-, hrecipient, -⟩ := deserialize_tokenAddress hparse
  simp only [checkTransfer, hparse, hregistered, getAddress_eq hrecipient, Go.ok_bind, Go.bind_eq_ok,
    ensure_eq_ok, okOr_eq_ok, unwrap_eq_ok, checkedSub_eq_some, Rejected, not_or, not_not, Nat.not_lt]
  constructor
  · rintro ⟨_, -, _, -, _, hchain, net, hnet, _, ⟨hamount, hfee⟩, heq⟩
    have hnet' : net = transferInfo.amount.2 - transferInfo.fee.2 := by omega
    rw [← Go.ok.inj heq, hnet']
    exact ⟨⟨hchain, by omega, hamount, hfee⟩, rfl⟩
  · rintro ⟨⟨hchain, hle, hamount, hfee⟩, rfl⟩
    exact ⟨emitterAddress, rfl, (), rfl, (), hchain, _, Nat.sub_add_cancel hle, (), ⟨hamount, hfee⟩,
      rfl⟩

/-! ## The three ways -/

/-- The completion of a foreign token: its wrapped CW20 mints the amount and the fee, and nothing else
happens. -/
def CompletedWrapped (keccak256 : List UInt8 → FixedBytes 32) (env : Env) (s : State) (sender : String)
    (transferInfo : TransferInfo) (result : State × List CosmosMsg) : Prop :=
  ¬Rejected transferInfo ∧ ∃ contractAddr recipient,
    s.wrappedAsset (buildAssetId keccak256 transferInfo.tokenChain transferInfo.tokenAddress) =
      some contractAddr ∧
    env.addrHumanize (transferInfo.recipient.drop 12) = .ok recipient ∧
    result = (s, mintMessages contractAddr recipient (transferInfo.amount.2 - transferInfo.fee.2) sender
      transferInfo.fee.2)

/-- **Foreign tokens**, without the marker. -/
theorem handleCompleteTransferToken_foreign (hparse : TransferInfo.deserialize data = .ok transferInfo)
    (hregistered : s.bridgeContracts emitterChain = some emitterAddress)
    (hchain : transferInfo.tokenChain ≠ CHAIN_ID) {result : State × List CosmosMsg} :
    handleCompleteTransferToken keccak256 env s sender emitterChain emitterAddress data = .ok result ↔
      CompletedWrapped keccak256 env s sender transferInfo result := by
  simp only [handleCompleteTransferToken, Go.bind_eq_ok, checkTransfer_eq_ok hparse hregistered,
    CompletedWrapped]
  constructor
  · rintro ⟨_, ⟨haccepted, rfl⟩, h⟩
    dsimp only at h
    rw [if_pos hchain] at h
    simp only [completeWrapped, Go.bind_eq_ok, okOr_eq_ok, committed_eq_some] at h
    obtain ⟨contractAddr, hcontract, recipient, hrecipient, heq⟩ := h
    exact ⟨haccepted, contractAddr, recipient, hcontract, hrecipient, (Go.ok.inj heq).symm⟩
  · rintro ⟨haccepted, contractAddr, recipient, hcontract, hrecipient, rfl⟩
    refine ⟨_, ⟨haccepted, rfl⟩, ?_⟩
    dsimp only
    rw [if_pos hchain]
    simp only [completeWrapped, hcontract, hrecipient, okOr, committed, Go.ok_bind]
    rfl

/-- Messages that release no native coins. -/
def SendsNone (messages : List CosmosMsg) : Prop := ∀ toAddress coins, .send toAddress coins ∉ messages

/-- **Tokens of this chain** release no native coins. -/
theorem handleCompleteTransferToken_sendsNone
    (h : handleCompleteTransferToken keccak256 env s sender emitterChain emitterAddress data =
      .ok (s', messages)) : SendsNone messages := by
  obtain ⟨⟨info, target, net⟩, -, h⟩ := Go.bind_eq_ok.mp h
  dsimp only at h
  split at h
  · simp only [completeWrapped, Go.bind_eq_ok] at h
    obtain ⟨contractAddr, -, recipient, -, heq⟩ := h
    obtain ⟨-, rfl⟩ := Prod.mk.inj (Go.ok.inj heq)
    intro toAddress coins hmem
    simp [mintMessages] at hmem
  · simp only [completeToken, Go.bind_eq_ok] at h
    obtain ⟨_, -, recipient, -, contractAddr, -, _, -, _, -, _, -, _, -, net', -, fee, -, heq⟩ := h
    obtain ⟨-, rfl⟩ := Prod.mk.inj (Go.ok.inj heq)
    intro toAddress coins hmem
    simp [transferMessages] at hmem

/-- One coin. -/
theorem coinsAfterTax_singleton_eq_ok {denom : String} {coins : List Coin} :
    coinsAfterTax env [⟨denom, amount⟩] = .ok coins ↔
      ∃ taxed, env.deductTax denom amount = .ok taxed ∧ coins = [⟨denom, taxed⟩] := by
  simp only [coinsAfterTax, List.mapM, List.mapM.loop, Go.bind_eq_ok]
  constructor
  · rintro ⟨_, ⟨taxed, htaxed, hcoin⟩, heq⟩
    obtain rfl := Go.ok.inj hcoin
    exact ⟨taxed, htaxed, (Go.ok.inj heq).symm⟩
  · rintro ⟨taxed, htaxed, rfl⟩
    exact ⟨_, ⟨taxed, htaxed, rfl⟩, rfl⟩

theorem coinsAfterTax_singleton {coin : Coin} {coins : List Coin}
    (h : coinsAfterTax env [coin] = .ok coins) : ∀ c ∈ coins, c.denom = coin.denom := by
  obtain ⟨taxed, -, rfl⟩ := coinsAfterTax_singleton_eq_ok.mp h
  intro c hc
  rw [List.mem_singleton.mp hc]

/-- **Marked tokens.** All that is released are coins of the serialized denom. -/
theorem handleCompleteTransferTokenNative_sends
    (hparse : TransferInfo.deserialize data = .ok transferInfo)
    (hregistered : s.bridgeContracts emitterChain = some emitterAddress)
    (h : handleCompleteTransferTokenNative env s emitterChain emitterAddress data = .ok (s', messages)) :
    ¬Rejected transferInfo ∧ ∃ denom, fromUtf8 (serializedDenom transferInfo.tokenAddress) = some denom ∧
      ∀ toAddress coins, .send toAddress coins ∈ messages → ∀ c ∈ coins, c.denom = denom := by
  simp only [handleCompleteTransferTokenNative, Go.bind_eq_ok, checkTransfer_eq_ok hparse hregistered] at h
  obtain ⟨_, ⟨haccepted, rfl⟩, h⟩ := h
  simp only [unwrap_eq_ok] at h
  obtain ⟨denom, hdenom, recipient, -, _, -, _, -, _, -, coins, hcoins, feeMessages, hfee, heq⟩ := h
  obtain ⟨-, rfl⟩ := Prod.mk.inj (Go.ok.inj heq)
  refine ⟨haccepted, denom, hdenom, ?_⟩
  intro toAddress released hmem
  rcases List.mem_cons.mp hmem with hamount | hmem
  · obtain ⟨-, rfl⟩ := CosmosMsg.send.inj hamount
    exact coinsAfterTax_singleton hcoins
  · unfold sendFee at hfee
    split at hfee
    · obtain ⟨feeCoins, hfeeCoins, heq⟩ := Go.bind_eq_ok.mp hfee
      rw [← Go.ok.inj heq] at hmem
      obtain ⟨-, rfl⟩ := CosmosMsg.send.inj (List.mem_singleton.mp hmem)
      exact coinsAfterTax_singleton hfeeCoins
    · rw [← Go.ok.inj hfee] at hmem
      cases hmem

/-! ## Isolation -/

/-- What a completion should do: release native coins only for a transfer of Terra whose token address is
that of their denom, count down only for a token of Terra, and complete a token of another chain through
its wrapped CW20. -/
structure Isolated (keccak256 : List UInt8 → FixedBytes 32) (env : Env) (s : State) (sender : String)
    (emitterChain : Nat) (emitterAddress data : List UInt8) (transferInfo : TransferInfo) : Prop where
  released : ∀ s' messages,
    handleCompleteTransfer keccak256 env s sender emitterChain emitterAddress data = .ok (s', messages) →
    ∀ toAddress coins, .send toAddress coins ∈ messages → ∀ c ∈ coins,
      transferInfo.tokenChain = CHAIN_ID ∧ nativeAddress c.denom = .ok transferInfo.tokenAddress
  counted : ∀ s' messages,
    handleCompleteTransfer keccak256 env s sender emitterChain emitterAddress data = .ok (s', messages) →
    s'.nativeCounter ≠ s.nativeCounter → transferInfo.tokenChain = CHAIN_ID
  foreign : transferInfo.tokenChain ≠ CHAIN_ID → ∀ result,
    handleCompleteTransfer keccak256 env s sender emitterChain emitterAddress data = .ok result ↔
      CompletedWrapped keccak256 env s sender transferInfo result

/-- The first byte marks a native denom. -/
def Marked (transferInfo : TransferInfo) : Prop := transferInfo.tokenAddress.head? = some 0x01

instance (transferInfo : TransferInfo) : Decidable (Marked transferInfo) := by
  unfold Marked
  infer_instance

/-- The address is the one of the denom that is read from it, if that is a string at all. -/
def OwnDenom (tokenAddress : List UInt8) : Prop :=
  ∀ denom, fromUtf8 (serializedDenom tokenAddress) = some denom → nativeAddress denom = .ok tokenAddress

theorem handleCompleteTransfer_unmarked (hparse : TransferInfo.deserialize data = .ok transferInfo)
    (hmarked : ¬Marked transferInfo) :
    handleCompleteTransfer keccak256 env s sender emitterChain emitterAddress data =
      handleCompleteTransferToken keccak256 env s sender emitterChain emitterAddress data := by
  rw [handleCompleteTransfer, hparse, Go.ok_bind]
  exact if_neg hmarked

theorem handleCompleteTransfer_marked (hparse : TransferInfo.deserialize data = .ok transferInfo)
    (hmarked : Marked transferInfo) :
    handleCompleteTransfer keccak256 env s sender emitterChain emitterAddress data =
      handleCompleteTransferTokenNative env s emitterChain emitterAddress data := by
  rw [handleCompleteTransfer, hparse, Go.ok_bind]
  exact if_pos hmarked

/-- Without the marker a transfer is completed as it should be. -/
theorem isolated_unmarked (hparse : TransferInfo.deserialize data = .ok transferInfo)
    (hregistered : s.bridgeContracts emitterChain = some emitterAddress)
    (hmarked : ¬Marked transferInfo) :
    Isolated keccak256 env s sender emitterChain emitterAddress data transferInfo := by
  constructor
  · intro s' messages h toAddress coins hmem
    rw [handleCompleteTransfer_unmarked hparse hmarked] at h
    exact absurd hmem (handleCompleteTransferToken_sendsNone h toAddress coins)
  · intro s' messages h hcounter
    rw [handleCompleteTransfer_unmarked hparse hmarked] at h
    by_contra hchain
    obtain ⟨-, _, _, -, -, heq⟩ := (handleCompleteTransferToken_foreign hparse hregistered hchain).mp h
    obtain ⟨rfl, -⟩ := Prod.mk.inj heq
    exact hcounter rfl
  · intro hchain result
    rw [handleCompleteTransfer_unmarked hparse hmarked]
    exact handleCompleteTransferToken_foreign hparse hregistered hchain

/-- With the marker it releases coins of the serialized denom, or fails. -/
theorem isolated_marked (hparse : TransferInfo.deserialize data = .ok transferInfo)
    (hregistered : s.bridgeContracts emitterChain = some emitterAddress) (hmarked : Marked transferInfo)
    (hgood : Rejected transferInfo ∨
      transferInfo.tokenChain = CHAIN_ID ∧ OwnDenom transferInfo.tokenAddress) :
    Isolated keccak256 env s sender emitterChain emitterAddress data transferInfo := by
  constructor
  · intro s' messages h toAddress coins hmem c hc
    rw [handleCompleteTransfer_marked hparse hmarked] at h
    obtain ⟨haccepted, denom, hdenom, hsends⟩ :=
      handleCompleteTransferTokenNative_sends hparse hregistered h
    rcases hgood with hrejected | ⟨hchain, hown⟩
    · exact absurd hrejected haccepted
    · rw [hsends toAddress coins hmem c hc]
      exact ⟨hchain, hown denom hdenom⟩
  · intro s' messages h _
    rw [handleCompleteTransfer_marked hparse hmarked] at h
    obtain ⟨haccepted, -⟩ := handleCompleteTransferTokenNative_sends hparse hregistered h
    rcases hgood with hrejected | ⟨hchain, -⟩
    · exact absurd hrejected haccepted
    · exact hchain
  · intro hchain result
    rcases hgood with hrejected | ⟨hhome, -⟩
    · constructor
      · intro h
        rw [handleCompleteTransfer_marked hparse hmarked] at h
        obtain ⟨s', messages⟩ := result
        exact absurd hrejected (handleCompleteTransferTokenNative_sends hparse hregistered h).1
      · intro h
        exact absurd hrejected h.1
    · exact absurd hhome hchain

/-! ## The transfers that go wrong -/

/-- A chain where every address is readable and there is no tax. -/
def plainEnv : Env where
  addrHumanize := fun _ => .ok "terra1"
  addrCanonicalize := fun _ => .ok []
  tokenDecimals := fun _ => .ok 6
  deductTax := fun _ amount => .ok amount

/-- Every chain is registered, every foreign token has its CW20, and of every native token `outstanding`
is out. -/
def plainState (outstanding : Option Nat) : State where
  wormholeContract := "terra1wormhole"
  bridgeContracts := fun _ => some []
  wrappedAsset := fun _ => some "terra1wrapped"
  nativeCounter := fun _ => outstanding
  bridgeDeposit := fun _ => none

/-- A marked transfer releases coins of the serialized denom where enough is outstanding. -/
theorem released_of_marked (hparse : TransferInfo.deserialize data = .ok transferInfo)
    (hmarked : Marked transferInfo) (haccepted : ¬Rejected transferInfo) {denom : String}
    (hdenom : fromUtf8 (serializedDenom transferInfo.tokenAddress) = some denom) :
    ∃ s' messages toAddress, handleCompleteTransfer keccak256 plainEnv
        (plainState (some transferInfo.amount.2)) sender emitterChain [] data = .ok (s', messages) ∧
      .send toAddress [⟨denom, transferInfo.amount.2 - transferInfo.fee.2⟩] ∈ messages := by
  obtain ⟨haddress, -, hbound⟩ := deserialize_tokenAddress hparse
  have hcheck : checkTransfer (plainState (some transferInfo.amount.2)) emitterChain [] data =
      .ok (transferInfo, transferInfo.recipient.drop 12, transferInfo.amount.2 - transferInfo.fee.2) :=
    (checkTransfer_eq_ok hparse rfl).mpr ⟨haccepted, rfl⟩
  have hwiped : (transferInfo.tokenAddress.set 0 0x00).length = 32 := by
    rw [List.length_set, haddress]
  have hsum : addUint 128 (transferInfo.amount.2 - transferInfo.fee.2) transferInfo.fee.2 =
      .ok transferInfo.amount.2 := by
    have hle : transferInfo.fee.2 ≤ transferInfo.amount.2 :=
      Nat.le_of_not_lt fun hlt => haccepted (.inr (.inl hlt))
    rw [addUint, Nat.sub_add_cancel hle, if_pos hbound]
    rfl
  have hreceive : ∀ address, receiveNative (plainState (some transferInfo.amount.2)) address
      transferInfo.amount.2 = .ok (setNativeCounter (plainState (some transferInfo.amount.2)) address 0) := by
    intro address
    have hsub : checkedSub transferInfo.amount.2 transferInfo.amount.2 = some 0 :=
      checkedSub_eq_some.mpr (Nat.zero_add _)
    rw [receiveNative, plainState, okOr, Go.ok_bind, hsub]
    rfl
  have hfee : ∃ feeMessages, sendFee plainEnv "terra1" denom transferInfo.fee.2 = .ok feeMessages := by
    unfold sendFee
    split
    · exact ⟨_, rfl⟩
    · exact ⟨_, rfl⟩
  obtain ⟨feeMessages, hfee⟩ := hfee
  refine ⟨setNativeCounter (plainState (some transferInfo.amount.2))
      ((transferInfo.tokenAddress.set 0 0x00).drop 12) 0,
    .send "terra1" [⟨denom, transferInfo.amount.2 - transferInfo.fee.2⟩] :: feeMessages, "terra1", ?_,
    List.mem_cons_self⟩
  rw [handleCompleteTransfer_marked hparse hmarked, handleCompleteTransferTokenNative, hcheck, Go.ok_bind]
  dsimp only
  rw [hdenom, unwrap, Go.ok_bind]
  show (do
    let tokenAddress ← getAddress (transferInfo.tokenAddress.set 0 0x00) 0
    let s ← receiveNative (plainState (some transferInfo.amount.2)) tokenAddress
      (← addUint 128 (transferInfo.amount.2 - transferInfo.fee.2) transferInfo.fee.2)
    let feeMessages ← sendFee plainEnv "terra1" denom transferInfo.fee.2
    return (s, CosmosMsg.send "terra1" [⟨denom, transferInfo.amount.2 - transferInfo.fee.2⟩] ::
      feeMessages)) = _
  rw [getAddress_eq hwiped, Go.ok_bind, hsum, Go.ok_bind, hreceive, Go.ok_bind, hfee, Go.ok_bind]
  rfl

/-- Where nothing is outstanding a marked transfer fails. -/
theorem not_released_of_none (hparse : TransferInfo.deserialize data = .ok transferInfo)
    (hmarked : Marked transferInfo) {result : State × List CosmosMsg} :
    handleCompleteTransfer keccak256 plainEnv (plainState none) sender emitterChain [] data ≠
      .ok result := by
  intro h
  rw [handleCompleteTransfer_marked hparse hmarked] at h
  simp only [handleCompleteTransferTokenNative, receiveNative, Go.bind_eq_ok, okOr_eq_ok] at h
  obtain ⟨_, -, _, -, _, -, _, -, _, -, _, ⟨total, htotal, -⟩, -⟩ := h
  cases htotal

/-- **Exactly which transfers are completed as they should be.** -/
theorem isolated_iff (keccak256 : List UInt8 → FixedBytes 32) {data : List UInt8}
    {transferInfo : TransferInfo} (hparse : TransferInfo.deserialize data = .ok transferInfo) :
    (∀ env s sender emitterChain emitterAddress, s.bridgeContracts emitterChain = some emitterAddress →
        Isolated keccak256 env s sender emitterChain emitterAddress data transferInfo) ↔
      ¬Marked transferInfo ∨ Rejected transferInfo ∨
        transferInfo.tokenChain = CHAIN_ID ∧ OwnDenom transferInfo.tokenAddress := by
  constructor
  · intro h
    by_contra hbad
    obtain ⟨hmarked, hbad⟩ := not_or.mp hbad
    obtain ⟨haccepted, hbad⟩ := not_or.mp hbad
    have hmarked := not_not.mp hmarked
    by_cases hchain : transferInfo.tokenChain = CHAIN_ID
    · -- the coins are of another denom
      refine hbad ⟨hchain, ?_⟩
      intro denom hdenom
      obtain ⟨s', messages, toAddress, hcomplete, hmem⟩ :=
        released_of_marked hparse hmarked haccepted hdenom
      have hisolated := h plainEnv (plainState (some transferInfo.amount.2)) "" 0 [] rfl
      exact (hisolated.released s' messages hcomplete toAddress _ hmem _ List.mem_cons_self).2
    · -- the wrapped token is not minted
      have hisolated := h plainEnv (plainState none) "" 0 [] rfl
      have hwrapped : CompletedWrapped keccak256 plainEnv (plainState none) "" transferInfo _ :=
        ⟨haccepted, _, _, rfl, rfl, rfl⟩
      exact not_released_of_none hparse hmarked ((hisolated.foreign hchain _).mpr hwrapped)
  · intro h env s sender emitterChain emitterAddress hregistered
    by_cases hmarked : Marked transferInfo
    · exact isolated_marked hparse hregistered hmarked (h.resolve_left (not_not.mpr hmarked))
    · exact isolated_unmarked hparse hregistered hmarked

/-! ## What the bridge sends out -/

/-- The address of a denom, written out. -/
theorem nativeAddress_eq_ok {denom : String} {address : List UInt8} :
    nativeAddress denom = .ok address ↔ (asBytes denom).length ≤ 20 ∧
      address = 0x01 :: (List.replicate (31 - (asBytes denom).length) 0x00 ++ asBytes denom) := by
  have hpadded : (asBytes denom).length ≤ 20 →
      (List.replicate 12 0x00 ++ (List.replicate (20 - (asBytes denom).length) 0x00 ++ asBytes denom)).set 0
        0x01 = 0x01 :: (List.replicate (31 - (asBytes denom).length) 0x00 ++ asBytes denom) := by
    intro hle
    have hcount : 11 + (20 - (asBytes denom).length) = 31 - (asBytes denom).length := by omega
    rw [List.replicate_succ, List.cons_append, List.set_cons_zero, ← List.append_assoc,
      List.replicate_append_replicate, hcount]
  simp only [nativeAddress, buildNativeId, extendAddressTo32, Go.bind_eq_ok, unwrap_eq_ok]
  constructor
  · rintro ⟨id, hid, extended, hextended, heq⟩
    obtain rfl := Go.ok.inj heq
    split at hid
    · rename_i hle
      obtain rfl := Option.some.inj hid
      split at hextended
      · obtain rfl := Option.some.inj hextended
        exact ⟨hle, hpadded hle⟩
      · cases hextended
    · cases hid
  · rintro ⟨hle, rfl⟩
    refine ⟨_, if_pos hle, _, if_pos ?_, ?_⟩
    · rw [List.length_append, List.length_replicate]
      omega
    · rw [hpadded hle]
      rfl

/-- The address of a denom stands for that denom. -/
theorem ownDenom_nativeAddress {denom : String} {address : List UInt8}
    (h : nativeAddress denom = .ok address) (hnul : 0x00 ∉ asBytes denom) : OwnDenom address := by
  have hserialized : serializedDenom address = asBytes denom := by
    obtain ⟨-, rfl⟩ := nativeAddress_eq_ok.mp h
    have hkept : (asBytes denom).filter (· ≠ 0x00) = asBytes denom := by
      rw [List.filter_eq_self]
      intro b hb
      exact decide_eq_true fun heq => hnul (heq ▸ hb)
    rw [serializedDenom, List.set_cons_zero, List.filter_cons_of_neg (by simp), List.filter_append, hkept,
      List.filter_replicate_of_neg (by simp), List.nil_append]
  intro other hother
  rw [hserialized, fromUtf8_eq_some] at hother
  have hsame : fromUtf8 (asBytes denom) = some other := fromUtf8_eq_some.mpr hother
  have hself : fromUtf8 (asBytes denom) = some denom := fromUtf8_eq_some.mpr rfl
  rw [Option.some.inj (hsame.symm.trans hself)]
  exact h

/-- **There and back.** The native coins that the bridge sends out are marked as their own denom, on
Terra; a transfer that names the same token when it returns is completed as it should be. -/
theorem returned_isolated {funds : List Coin} {denom : String} {recipientChain fee nonce : Nat}
    {recipient : List UInt8}
    (h : handleInitiateTransferNativeToken env s sender funds denom amount recipientChain recipient fee
      nonce = .ok (s', messages)) (hnul : 0x00 ∉ asBytes denom) :
    ∃ published coins,
      messages = [.postMessage s.wormholeContract (transferMessage published) nonce coins] ∧
      published.amount = (0, amount) ∧
      ∀ {data : List UInt8} {returned : TransferInfo}, TransferInfo.deserialize data = .ok returned →
        returned.tokenChain = published.tokenChain → returned.tokenAddress = published.tokenAddress →
        ∀ env s sender emitterChain emitterAddress, s.bridgeContracts emitterChain = some emitterAddress →
          Isolated keccak256 env s sender emitterChain emitterAddress data returned := by
  simp only [handleInitiateTransferNativeToken, takeDeposit, sendNative, Go.bind_eq_ok] at h
  obtain ⟨_, -, _, -, _, -, _, ⟨_, -, _, -, hdeposit⟩, _, -, _, ⟨_, -, _, -, hsend⟩, tokenAddress, haddress,
    _, -, coins, -, heq⟩ := h
  obtain rfl := Go.ok.inj hdeposit
  obtain rfl := Go.ok.inj hsend
  obtain ⟨rfl, rfl⟩ := Prod.mk.inj (Go.ok.inj heq)
  refine ⟨_, coins, rfl, rfl, ?_⟩
  intro data returned hparse hchain htoken env s sender emitterChain emitterAddress hregistered
  refine (isolated_iff keccak256 hparse).mpr (.inr (.inr ⟨hchain, ?_⟩)) env s sender emitterChain
    emitterAddress hregistered
  rw [htoken]
  exact ownDenom_nativeAddress haddress hnul

/-! ## Inputs -/

/-- "uluna", marked as a native denom. -/
def sampleAddress : List UInt8 :=
  [0x01] ++ List.replicate 26 0x00 ++ [0x75, 0x6c, 0x75, 0x6e, 0x61]

/-- A transfer of 1000 units of the token `sampleAddress` on a chain. -/
def sampleTransfer (tokenChain : Nat) : TransferInfo where
  amount := (0, 1000)
  tokenAddress := sampleAddress
  tokenChain := tokenChain
  recipient := List.replicate 32 0x00
  recipientChain := 3
  fee := (0, 0)

theorem plainKeccak_length (bs : List UInt8) : ((bs ++ List.replicate 32 0x00).take 32).length = 32 := by simp

def plainKeccak (bs : List UInt8) : FixedBytes 32 := ⟨(bs ++ List.replicate 32 0x00).take 32, plainKeccak_length bs⟩

theorem isolated_iff_sample :
    Isolated plainKeccak plainEnv (plainState (some 1000)) "terra1sender" 2 []
      (sampleTransfer 3).serialize (sampleTransfer 3) := by
  have haddress : nativeAddress "uluna" = .ok sampleAddress := by decide +kernel
  have hown : OwnDenom sampleAddress := ownDenom_nativeAddress haddress (by decide +kernel)
  have hparse : TransferInfo.deserialize (sampleTransfer 3).serialize = .ok (sampleTransfer 3) := by
    decide +kernel
  exact (isolated_iff plainKeccak hparse).mpr (.inr (.inr ⟨rfl, hown⟩)) _ _ _ _ _ rfl

/-- **A foreign token with the marker.** The same address on chain 2 is another token; the bridge releases
the native coins for it. -/
theorem foreign_released : ∃ s' messages toAddress,
    handleCompleteTransfer plainKeccak plainEnv (plainState (some 1000)) "terra1sender" 2 []
      (sampleTransfer 2).serialize = .ok (s', messages) ∧
    .send toAddress [⟨"uluna", 1000⟩] ∈ messages ∧ (sampleTransfer 2).tokenChain ≠ CHAIN_ID ∧
    ¬Isolated plainKeccak plainEnv (plainState (some 1000)) "terra1sender" 2 []
      (sampleTransfer 2).serialize (sampleTransfer 2) := by
  have hparse : TransferInfo.deserialize (sampleTransfer 2).serialize = .ok (sampleTransfer 2) := by
    decide +kernel
  have hdenom : fromUtf8 (serializedDenom (sampleTransfer 2).tokenAddress) = some "uluna" := by
    decide +kernel
  obtain ⟨s', messages, toAddress, hcomplete, hmem⟩ :=
    released_of_marked hparse (by decide) (by decide) hdenom
  refine ⟨s', messages, toAddress, hcomplete, hmem, by decide, ?_⟩
  intro hisolated
  have hhome := (hisolated.released s' messages hcomplete toAddress _ hmem _ List.mem_cons_self).1
  exact absurd hhome (by decide)

end Wormhole.Terra.TokenBridge

/-
# Wormhole.Terra.TokenTransfers — sending tokens out of Terra.

A transfer is of a native coin, of the wrapped CW20 of a foreign token, which is burned, or of a CW20 of
Terra.  The bridge learns what a CW20 of Terra has delivered only afterwards: `initiateToken` asks the
token for the amount and keeps its own balance and the message for the `reply`, which runs when the token
has been called and publishes the difference of the balances.  Between the two the token may call
anything, the bridge included.

What the chain and the tokens answer is a parameter (`TokenEnv`, and the bridge's balances).
-/
import Mathlib
import Wormhole.Lib.Go
import Wormhole.Terra.Cosmwasm
import Wormhole.Terra.TokenBridge

namespace Wormhole.Terra.TokenBridge

open Wormhole.Lib

/-! ## Storage -/

/-- Structure to keep track of an active CW20 transfer, required to pass state through to the reply
handler.  The numbers are kept in decimal. -/
structure TransferState where
  message : List UInt8
  multiplier : Nat
  nonce : Nat
  previousBalance : Nat
  tokenAddress : String
  tokenCanonical : List UInt8
  deriving DecidableEq

/-- The storage, with what transfers of tokens read and write besides. -/
structure TokenState extends State where
  /-- asset ids of the wrapped tokens, by their own address -/
  wrappedAssetAddress : List UInt8 → Option (List UInt8)
  wrappedTransferTmp : Option TransferState

/-- The chain, with what transfers of tokens ask of it besides. -/
structure TokenEnv extends Env where
  /-- `env.contract.address` -/
  self : String
  /-- chain and address in the answer to `WrappedQuery::WrappedAssetInfo` -/
  wrappedAssetInfo : String → StdResult (UInt16 × List UInt8)

/-! ## Requests -/

inductive AssetInfo where
  | token (contractAddr : String)
  | nativeToken (denom : String)
  deriving DecidableEq

/-- `ExecuteMsg::InitiateTransfer`. -/
structure Request where
  asset : AssetInfo
  amount : Nat
  recipientChain : UInt16
  recipient : List UInt8
  fee : Nat
  nonce : Nat
  amount_lt : amount < 2 ^ 128
  fee_lt : fee < 2 ^ 128

/-- The storage after a call, its messages, and its submessages with a reply. -/
structure Called where
  state : TokenState
  messages : List CosmosMsg
  submessages : List CosmosMsg

section

variable (env : TokenEnv) (balance : String → StdResult Nat) (s : TokenState)

/-! ## Tokens -/

/-- A deployed wrapped asset, burn it. -/
def initiateWrapped (sender : String) (funds : List Coin) (asset : String)
    (request : Request) : StdResult Called := do
  ensure (request.fee ≤ request.amount) "fee greater than sent amount"
  let (assetChain, assetAddress) ← env.wrappedAssetInfo asset
  let transferInfo : TransferInfo := {
    tokenChain := assetChain.toNat, tokenAddress := assetAddress, amount := (0, request.amount),
    recipientChain := request.recipientChain.toNat, recipient := request.recipient, fee := (0, request.fee) }
  return {
    state := s
    messages := [.burn asset sender request.amount,
      .postMessage s.wormholeContract (transferMessage transferInfo) request.nonce
        (← coinsAfterTax env.toEnv funds)]
    submessages := [] }

/-- `multiplier`: the units of a token in one unit of a message. -/
def multiplier (decimals : Nat) : StdResult Nat := pow10 (max decimals 8 - 8)

/-- chop off dust -/
def withoutDust (amount multiplier : Nat) : Nat := amount - amount % multiplier

/-- A regular asset, transfer its balance.  `balance` is what a token says the bridge holds. -/
def initiateToken (sender asset : String) (assetCanonical : List UInt8) (request : Request) :
    StdResult Called := do
  let decimals ← env.tokenDecimals asset
  let multiplier ← multiplier decimals
  let amount := withoutDust request.amount multiplier
  let fee := withoutDust request.fee multiplier
  let assetAddress ← extendAddressTo32 assetCanonical
  -- normalized amounts
  let transferInfo : TransferInfo := {
    tokenChain := CHAIN_ID, tokenAddress := assetAddress, amount := (0, amount / multiplier),
    recipientChain := request.recipientChain.toNat, recipient := request.recipient,
    fee := (0, fee / multiplier) }
  let previousBalance ← balance asset
  -- Reentrancy protection.
  Go.assume (s.wrappedTransferTmp.isNone) "transfer in progress"
  return {
    state := { s with
      wrappedTransferTmp := some {
        message := transferInfo.serialize, multiplier, nonce := request.nonce, previousBalance,
        tokenAddress := asset, tokenCanonical := assetCanonical } }
    messages := []
    submessages := [.transferFrom asset sender env.self amount] }

/-- The two kinds of token: a wrapped asset has an entry by its own address. -/
def initiateTransferOf (sender : String) (funds : List Coin) (asset : String) (assetCanonical : List UInt8)
    (request : Request) : StdResult Called :=
  if (s.wrappedAssetAddress assetCanonical).isSome then initiateWrapped env s sender funds asset request
  else initiateToken env balance s sender asset assetCanonical request

def handleInitiateTransferToken (sender : String) (funds : List Coin) (asset : String)
    (request : Request) : StdResult Called := do
  ensure (request.recipientChain.toNat ≠ CHAIN_ID) "SameSourceAndTarget"
  ensure (request.amount ≠ 0) "AmountTooLow"
  let assetCanonical ← env.addrCanonicalize asset
  let called ← initiateTransferOf env balance s sender funds asset assetCanonical request
  let _ ← env.addrCanonicalize sender
  return called

def handleInitiateTransfer (sender : String) (funds : List Coin) (request : Request) :
    StdResult Called :=
  match request.asset with
  | .token contractAddr => handleInitiateTransferToken env balance s sender funds contractAddr request
  | .nativeToken denom => do
    let (state, messages) ← handleInitiateTransferNativeToken env.toEnv s.toState sender funds denom
      request.amount request.recipientChain.toNat request.recipient request.fee request.nonce
    return { state := { s with toState := state }, messages, submessages := [] }

/-! ## The reply -/

/-- `reply`, when the token has transferred. -/
def reply : StdResult (TokenState × List CosmosMsg) := do
  let state ← okOr "TransferState not found" s.wrappedTransferTmp
  let info ← TransferInfo.deserialize state.message
  let newBalance ← balance state.tokenAddress
  -- the difference in balance, to account for fee tokens
  let delivered ← unwrap (checkedSub newBalance state.previousBalance)
  let realAmount := delivered / state.multiplier
  -- If the fee is too large the user would receive nothing.
  ensure (info.fee.2 ≤ realAmount) "fee greater than sent amount"
  -- Update Wormhole message to correct amount.
  let info := { info with amount := (info.amount.1, realAmount) }
  let counted ← sendNative s.toState state.tokenCanonical realAmount
  return ({ s with toState := counted, wrappedTransferTmp := none },
    [.postMessage s.wormholeContract (transferMessage info) state.nonce []])

end

/-! ## What the calls do -/

section Specs

variable {env : TokenEnv} {balance : String → StdResult Nat} {s : TokenState} {sender : String}
  {funds : List Coin} {request : Request} {called : Called}

/-- Without its dust an amount has the same whole units. -/
theorem withoutDust_div (amount m : Nat) : withoutDust amount m / m = amount / m :=
  Nat.div_eq_sub_mod_div.symm

/-- What a transfer of a native coin that is accepted has done. -/
theorem handleInitiateTransferNativeToken_eq_ok {env : Env} {s s' : State} {denom : String}
    {amount recipientChain fee nonce : Nat} {recipient : List UInt8} {messages : List CosmosMsg}
    (h : handleInitiateTransferNativeToken env s sender funds denom amount recipientChain recipient fee
      nonce = .ok (s', messages)) :
    recipientChain ≠ CHAIN_ID ∧ amount ≠ 0 ∧ fee ≤ amount ∧ ∃ s₁ id tokenAddress coins,
      takeDeposit s sender denom amount = .ok s₁ ∧ buildNativeId denom = .ok id ∧
      sendNative s₁ id amount = .ok s' ∧ nativeAddress denom = .ok tokenAddress ∧
      coinsAfterTax env funds = .ok coins ∧
      messages = [.postMessage s'.wormholeContract (transferMessage {
        tokenChain := CHAIN_ID, tokenAddress, amount := (0, amount), recipientChain, recipient,
        fee := (0, fee) }) nonce coins] := by
  simp only [handleInitiateTransferNativeToken, Go.bind_eq_ok, ensure_eq_ok] at h
  obtain ⟨_, hchain, _, hamount, _, hfee, s₁, htake, id, hid, s₂, hsend, tokenAddress, haddress, _, -, coins,
    hcoins, heq⟩ := h
  obtain ⟨rfl, rfl⟩ := Prod.mk.inj (Go.ok.inj heq)
  exact ⟨hchain, hamount, hfee, s₁, id, tokenAddress, coins, htake, hid, hsend, haddress, hcoins, rfl⟩

/-- The transfer of a wrapped token that `request` asks for, as a message. -/
def Request.wrappedInfo (request : Request) (assetChain : UInt16) (assetAddress : List UInt8) :
    TransferInfo where
  tokenChain := assetChain.toNat
  tokenAddress := assetAddress
  amount := (0, request.amount)
  recipientChain := request.recipientChain.toNat
  recipient := request.recipient
  fee := (0, request.fee)

/-- The transfer of a CW20 of Terra that `request` asks for, in whole units. -/
def Request.tokenInfo (request : Request) (assetAddress : List UInt8) (multiplier : Nat) :
    TransferInfo where
  tokenChain := CHAIN_ID
  tokenAddress := assetAddress
  amount := (0, request.amount / multiplier)
  recipientChain := request.recipientChain.toNat
  recipient := request.recipient
  fee := (0, request.fee / multiplier)

variable (env balance s sender funds request) in
/-- The three ways of starting a transfer. -/
inductive Initiates : Called → Prop
  | native {denom : String} {s' : State} {messages : List CosmosMsg}
      (hasset : request.asset = .nativeToken denom)
      (hcall : handleInitiateTransferNativeToken env.toEnv s.toState sender funds denom request.amount
        request.recipientChain.toNat request.recipient request.fee request.nonce = .ok (s', messages)) :
      Initiates { state := { s with toState := s' }, messages, submessages := [] }
  | wrapped {asset : String} {canonical assetAddress : List UInt8} {assetChain : UInt16}
      {coins : List Coin} (hasset : request.asset = .token asset)
      (hcanonical : env.addrCanonicalize asset = .ok canonical)
      (hwrapped : (s.wrappedAssetAddress canonical).isSome) (hfee : request.fee ≤ request.amount)
      (hinfo : env.wrappedAssetInfo asset = .ok (assetChain, assetAddress)) :
      Initiates {
        state := s
        messages := [.burn asset sender request.amount, .postMessage s.wormholeContract
          (transferMessage (request.wrappedInfo assetChain assetAddress)) request.nonce coins]
        submessages := [] }
  | token {asset : String} {canonical assetAddress : List UInt8} {decimals m previousBalance : Nat}
      (hasset : request.asset = .token asset) (hcanonical : env.addrCanonicalize asset = .ok canonical)
      (hregular : ¬(s.wrappedAssetAddress canonical).isSome)
      (hdecimals : env.tokenDecimals asset = .ok decimals) (hm : multiplier decimals = .ok m)
      (haddress : extendAddressTo32 canonical = .ok assetAddress)
      (hbalance : balance asset = .ok previousBalance) (hidle : s.wrappedTransferTmp = none) :
      Initiates {
        state := { s with
          wrappedTransferTmp := some {
            message := (request.tokenInfo assetAddress m).serialize, multiplier := m,
            nonce := request.nonce, previousBalance, tokenAddress := asset, tokenCanonical := canonical } }
        messages := []
        submessages := [.transferFrom asset sender env.self (withoutDust request.amount m)] }

theorem initiateWrapped_initiates {asset : String} {canonical : List UInt8}
    (hasset : request.asset = .token asset) (hcanonical : env.addrCanonicalize asset = .ok canonical)
    (hwrapped : (s.wrappedAssetAddress canonical).isSome)
    (h : initiateWrapped env s sender funds asset request = .ok called) :
    Initiates env balance s sender funds request called := by
  simp only [initiateWrapped, Go.bind_eq_ok, ensure_eq_ok] at h
  obtain ⟨_, hfee, ⟨assetChain, assetAddress⟩, hinfo, coins, -, heq⟩ := h
  rw [← Go.ok.inj heq]
  exact .wrapped hasset hcanonical hwrapped hfee hinfo

theorem initiateToken_initiates {asset : String} {canonical : List UInt8}
    (hasset : request.asset = .token asset) (hcanonical : env.addrCanonicalize asset = .ok canonical)
    (hregular : ¬(s.wrappedAssetAddress canonical).isSome)
    (h : initiateToken env balance s sender asset canonical request = .ok called) :
    Initiates env balance s sender funds request called := by
  simp only [initiateToken, Go.bind_eq_ok, Go.assume_eq_ok, Option.isNone_iff_eq_none] at h
  obtain ⟨decimals, hdecimals, m, hm, assetAddress, haddress, previousBalance, hbalance, _, hidle, heq⟩ := h
  rw [← Go.ok.inj heq, withoutDust_div, withoutDust_div]
  exact .token hasset hcanonical hregular hdecimals hm haddress hbalance hidle

/-- **What an accepted request has done.** -/
theorem handleInitiateTransfer_initiates
    (h : handleInitiateTransfer env balance s sender funds request = .ok called) :
    Initiates env balance s sender funds request called := by
  unfold handleInitiateTransfer at h
  split at h
  · rename_i asset hasset
    simp only [handleInitiateTransferToken, Go.bind_eq_ok, ensure_eq_ok] at h
    obtain ⟨_, -, _, -, canonical, hcanonical, called', hcalled, _, -, heq⟩ := h
    obtain rfl := Go.ok.inj heq
    unfold initiateTransferOf at hcalled
    split at hcalled
    · rename_i hwrapped
      exact initiateWrapped_initiates hasset hcanonical hwrapped hcalled
    · rename_i hregular
      exact initiateToken_initiates hasset hcanonical hregular hcalled
  · rename_i denom hasset
    obtain ⟨⟨s', messages⟩, hcall, heq⟩ := Go.bind_eq_ok.mp h
    rw [← Go.ok.inj heq]
    exact .native hasset hcall

/-- **What a reply that goes through has done.** -/
theorem reply_eq_ok {s' : TokenState} {messages : List CosmosMsg}
    (h : reply balance s = .ok (s', messages)) :
    ∃ state info newBalance delivered counted, s.wrappedTransferTmp = some state ∧
      TransferInfo.deserialize state.message = .ok info ∧ balance state.tokenAddress = .ok newBalance ∧
      delivered + state.previousBalance = newBalance ∧ info.fee.2 ≤ delivered / state.multiplier ∧
      sendNative s.toState state.tokenCanonical (delivered / state.multiplier) = .ok counted ∧
      s' = { s with toState := counted, wrappedTransferTmp := none } ∧
      messages = [.postMessage s.wormholeContract (transferMessage
        { info with amount := (info.amount.1, delivered / state.multiplier) }) state.nonce []] := by
  simp only [reply, Go.bind_eq_ok, okOr_eq_ok, unwrap_eq_ok, checkedSub_eq_some, ensure_eq_ok] at h
  obtain ⟨state, htmp, info, hinfo, newBalance, hbalance, delivered, hdelivered, _, hfee, counted, hsend,
    heq⟩ := h
  obtain ⟨rfl, rfl⟩ := Prod.mk.inj (Go.ok.inj heq)
  exact ⟨state, info, newBalance, delivered, counted, htmp, hinfo, hbalance, hdelivered, hfee, hsend, rfl, rfl⟩

/-- **Counting a transfer.** -/
theorem sendNative_eq_ok {s s' : State} {assetAddress : List UInt8} {amount : Nat} :
    sendNative s assetAddress amount = .ok s' ↔
      amount + (s.nativeCounter assetAddress).getD 0 ≤ 2 ^ 64 - 1 ∧
      s' = setNativeCounter s assetAddress (amount + (s.nativeCounter assetAddress).getD 0) := by
  simp only [sendNative, addUint, Go.bind_eq_ok, unwrap_eq_ok, ensure_eq_ok]
  constructor
  · rintro ⟨total, hadd, _, hle, heq⟩
    split at hadd
    · obtain rfl := Option.some.inj hadd
      exact ⟨hle, (Go.ok.inj heq).symm⟩
    · cases hadd
  · rintro ⟨hle, rfl⟩
    have hlt : amount + (s.nativeCounter assetAddress).getD 0 < 2 ^ 128 :=
      lt_of_le_of_lt hle (by norm_num)
    exact ⟨_, if_pos hlt, (), hle, rfl⟩

/-- **Counting a transfer back.** -/
theorem receiveNative_eq_ok {s s' : State} {assetAddress : List UInt8} {amount : Nat} :
    receiveNative s assetAddress amount = .ok s' ↔
      ∃ rest, s.nativeCounter assetAddress = some (rest + amount) ∧
        s' = setNativeCounter s assetAddress rest := by
  simp only [receiveNative, Go.bind_eq_ok, okOr_eq_ok, checkedSub_eq_some]
  constructor
  · rintro ⟨total, htotal, rest, rfl, heq⟩
    exact ⟨rest, htotal, (Go.ok.inj heq).symm⟩
  · rintro ⟨rest, hcounter, rfl⟩
    exact ⟨rest + amount, hcounter, rest, rfl, rfl⟩

end Specs

end Wormhole.Terra.TokenBridge

/-
# Wormhole.Ethereum.Bridge — the token bridge.

`Bridge.sol` with the governance action that registers emitters.  A `World` is the storage of the bridge
and of the wrapped token contracts together with everything else on the chain, whose behaviour is a
parameter (`Environment`): native tokens, WETH, ether, the core contract.

Only `transferTokens` reads and writes the bridge's storage after it called a foreign contract, the
transferred token.  It is therefore modelled in two halves, and a run has the calls that the token makes
in between (`Step`); `transferTokens` itself cannot be among them (`nonReentrant`).  The other external
calls are static, or made after the last storage access, or carry too little gas to call back; a call that
re-enters there is the same as one made right after.  Replacing the implementation (`upgrade`) replaces
the code modelled here and is left out.
-/
import Mathlib
import Wormhole.Lib.Failing
import Wormhole.Lib.Transition
import Wormhole.Lib.Mapping
import Wormhole.Ethereum.Messages
import Wormhole.Ethereum.TokenImplementation

namespace Wormhole.Ethereum.Bridge

open Wormhole.Lib.Bytes Wormhole.Lib.Failing Wormhole.Lib.Transition

/-! ## State -/

/-- `BridgeStorage.State`, with the address of the bridge. -/
structure State where
  /-- `address(this)` -/
  self : Address
  chainId : Nat
  governanceChainId : Nat
  governanceContract : Word
  WETH : Address
  consumedGovernanceActions : List UInt8 → Bool
  completedTransfers : List UInt8 → Bool
  wrappedAssets : Nat → Word → Address
  isWrappedAsset : Address → Bool
  /-- Mapping of native assets to amount outstanding on other chains -/
  outstandingBridged : Address → Nat
  /-- Mapping of bridge contracts on other chains -/
  bridgeImplementations : Nat → Word

/-- The rest of the chain, in state `ν`.  All calls are made by the bridge. -/
structure Environment (ν : Type) where
  hasCode : ν → Address → Bool
  /-- `decimals()` of a token, decoded as a `uint8`. -/
  decimals : ν → Address → Revert UInt8
  symbol : ν → Address → Revert (List UInt8)
  name : ν → Address → Revert (List UInt8)
  /-- `token.balanceOf(account)`: arguments in the order `token account`. -/
  balanceOf : ν → Address → Address → Revert Nat
  /-- Arguments in the order `token sender recipient amount`. -/
  safeTransferFrom : ν → Address → Address → Address → Nat → Revert ν
  /-- Arguments in the order `token recipient amount`. -/
  safeTransfer : ν → Address → Address → Nat → Revert ν
  /-- `wormhole().messageFee()`. -/
  messageFee : ν → Revert Nat
  /-- `WETH().deposit{value : amount}()`. -/
  deposit : ν → Nat → Revert ν
  /-- `WETH().withdraw(amount)`. -/
  withdraw : ν → Nat → Revert ν
  /-- `payable(recipient).transfer(amount)`. -/
  sendEther : ν → Address → Nat → Revert ν
  /-- `wormhole().publishMessage{value}(nonce, payload, consistencyLevel)`: arguments in the order
  `value nonce payload consistencyLevel`. -/
  publishMessage : ν → Nat → Nat → List UInt8 → Nat → Revert (Nat × ν)
  /-- The address `create2` computes for a token: arguments in the order
  `tokenChain tokenAddress name symbol decimals sequence`. -/
  create2 : Nat → Word → List UInt8 → List UInt8 → Nat → Nat → Address
  /-- The word of memory behind the strings that `attestToken` has decoded. -/
  memory : Word

structure World (ν : Type) where
  bridge : State
  /-- the wrapped token contracts -/
  tokens : Address → Option TokenImplementation.State
  env : ν

/-! ## The payloads -/

/-- `BridgeStructs.Transfer` without its payload id. -/
structure Transfer where
  amount : Nat
  tokenAddress : Word
  tokenChain : Nat
  recipient : Word
  toChain : Nat
  fee : Nat

/-- `BridgeStructs.AssetMeta` without its payload id. -/
structure AssetMeta where
  tokenAddress : Word
  tokenChain : Nat
  decimals : Nat
  symbol : Word
  name : Word

def encodeAssetMeta (meta' : AssetMeta) : List UInt8 :=
  [0x02] ++ meta'.tokenAddress.val ++ beBytes 2 meta'.tokenChain ++ beBytes 1 meta'.decimals ++
    meta'.symbol.val ++ meta'.name.val

def encodeTransfer (transfer : Transfer) : List UInt8 :=
  [0x01] ++ beBytes 32 transfer.amount ++ transfer.tokenAddress.val ++ beBytes 2 transfer.tokenChain ++
    transfer.recipient.val ++ beBytes 2 transfer.toChain ++ beBytes 32 transfer.fee

def parseAssetMeta (encoded : List UInt8) : Revert AssetMeta := do
  let payloadID ← toUint8 encoded 0
  require (payloadID = 2) "invalid AssetMeta"
  let tokenAddress ← toWord "toBytes32_outOfBounds" encoded 1
  let tokenChain ← toUint16 encoded 33
  let decimals ← toUint8 encoded 35
  let symbol ← toWord "toBytes32_outOfBounds" encoded 36
  let name ← toWord "toBytes32_outOfBounds" encoded 68
  require (encoded.length = 100) "invalid AssetMeta"
  return { tokenAddress, tokenChain, decimals, symbol, name }

def parseTransfer (encoded : List UInt8) : Revert Transfer := do
  let payloadID ← toUint8 encoded 0
  require (payloadID = 1) "invalid Transfer"
  let amount ← toUint "toUint256_outOfBounds" 32 encoded 1
  let tokenAddress ← toWord "toBytes32_outOfBounds" encoded 33
  let tokenChain ← toUint16 encoded 65
  let recipient ← toWord "toBytes32_outOfBounds" encoded 67
  let toChain ← toUint16 encoded 99
  let fee ← toUint "toUint256_outOfBounds" 32 encoded 101
  require (encoded.length = 133) "invalid Transfer"
  return { amount, tokenAddress, tokenChain, recipient, toChain, fee }

/-! ## Reading a transfer back -/

namespace Transfer

variable (t : Transfer)

theorem encode_eq : encodeTransfer t = [0x01] ++ (beBytes 32 t.amount ++ (t.tokenAddress.val ++
    (beBytes 2 t.tokenChain ++ (t.recipient.val ++ (beBytes 2 t.toChain ++ beBytes 32 t.fee))))) := by
  simp only [encodeTransfer, List.append_assoc]

theorem encode_length : (encodeTransfer t).length = 133 := by
  simp [encode_eq, t.tokenAddress.property, t.recipient.property]

theorem slice_id : slice? (encodeTransfer t) 0 1 = some [0x01] := by
  rw [encode_eq]
  exact slice?_head rfl _

theorem slice_amount : slice? (encodeTransfer t) 1 33 = some (beBytes 32 t.amount) := by
  rw [encode_eq]
  exact slice?_mid rfl rfl (by rw [beBytes_length])

theorem slice_tokenAddress : slice? (encodeTransfer t) 33 65 = some t.tokenAddress.val := by
  rw [encode_eq, ← List.append_assoc]
  exact slice?_mid rfl (by simp) (by rw [t.tokenAddress.property])

theorem slice_tokenChain : slice? (encodeTransfer t) 65 67 = some (beBytes 2 t.tokenChain) := by
  rw [encode_eq, ← List.append_assoc, ← List.append_assoc]
  exact slice?_mid rfl (by simp [t.tokenAddress.property]) (by rw [beBytes_length])

theorem slice_recipient : slice? (encodeTransfer t) 67 99 = some t.recipient.val := by
  rw [encode_eq, ← List.append_assoc, ← List.append_assoc, ← List.append_assoc]
  exact slice?_mid rfl (by simp [t.tokenAddress.property]) (by rw [t.recipient.property])

theorem slice_toChain : slice? (encodeTransfer t) 99 101 = some (beBytes 2 t.toChain) := by
  rw [encode_eq, ← List.append_assoc, ← List.append_assoc, ← List.append_assoc, ← List.append_assoc]
  exact slice?_mid rfl (by simp [t.tokenAddress.property, t.recipient.property]) (by rw [beBytes_length])

theorem slice_fee : slice? (encodeTransfer t) 101 133 = some (beBytes 32 t.fee) := by
  rw [← encode_length t, encode_eq, ← List.append_assoc, ← List.append_assoc, ← List.append_assoc,
    ← List.append_assoc, ← List.append_assoc]
  exact slice?_suffix rfl (by simp [t.tokenAddress.property, t.recipient.property])

end Transfer

/-- What is read of a written number is what fits. -/
theorem toUint_beBytes {reason : String} {bs : List UInt8} {start w n : Nat}
    (h : slice? bs start (start + w) = some (beBytes w n)) : toUint reason w bs start = .ok (n % 256 ^ w) := by
  rw [toUint_ok h, beNat_beBytes_mod]

/-- **Round trip.** A written transfer is read back, its numbers within their widths. -/
theorem parseTransfer_encodeTransfer (t : Transfer) :
    parseTransfer (encodeTransfer t) = .ok { t with
      amount := t.amount % 256 ^ 32, tokenChain := t.tokenChain % 256 ^ 2
      toChain := t.toChain % 256 ^ 2, fee := t.fee % 256 ^ 32 } := by
  have hid : toUint8 (encodeTransfer t) 0 = .ok 1 := by
    rw [show 1 = beNat [0x01] from rfl]
    exact toUint_ok t.slice_id
  have hamount : toUint "toUint256_outOfBounds" 32 (encodeTransfer t) 1 = .ok (t.amount % 256 ^ 32) :=
    toUint_beBytes t.slice_amount
  have htoken : toWord "toBytes32_outOfBounds" (encodeTransfer t) 33 = .ok t.tokenAddress :=
    toWord_eq_ok.mpr t.slice_tokenAddress
  have htokenChain : toUint16 (encodeTransfer t) 65 = .ok (t.tokenChain % 256 ^ 2) :=
    toUint_beBytes t.slice_tokenChain
  have hrecipient : toWord "toBytes32_outOfBounds" (encodeTransfer t) 67 = .ok t.recipient :=
    toWord_eq_ok.mpr t.slice_recipient
  have htoChain : toUint16 (encodeTransfer t) 99 = .ok (t.toChain % 256 ^ 2) :=
    toUint_beBytes t.slice_toChain
  have hfee : toUint "toUint256_outOfBounds" 32 (encodeTransfer t) 101 = .ok (t.fee % 256 ^ 32) :=
    toUint_beBytes t.slice_fee
  simp only [parseTransfer, hid, hamount, htoken, htokenChain, hrecipient, htoChain, hfee,
    require_true t.encode_length, require_true, ok_bind]
  rfl

/-- An attestation is not a transfer. -/
theorem parseTransfer_encodeAssetMeta (meta' : AssetMeta) :
    parseTransfer (encodeAssetMeta meta') = .error "invalid Transfer" := by
  have hslice : slice? (encodeAssetMeta meta') 0 1 = some [0x02] := by
    simp only [encodeAssetMeta, List.append_assoc]
    exact slice?_head rfl _
  have hid : toUint8 (encodeAssetMeta meta') 0 = .ok 2 := by
    rw [show 2 = beNat [0x02] from rfl]
    exact toUint_ok hslice
  rw [parseTransfer, hid]
  rfl

/-! ## Amounts -/

/-- `10 ** n`, a checked `uint256`. -/
def pow10 (n : Nat) : Revert Nat :=
  if 10 ^ n < 2 ^ 256 then .ok (10 ^ n) else .error arithmeticPanic

def normalizeAmount (amount decimals : Nat) : Revert Nat :=
  if 8 < decimals then do return amount / (← pow10 (decimals - 8)) else .ok amount

def deNormalizeAmount (amount decimals : Nat) : Revert Nat :=
  if 8 < decimals then do mulUint amount (← pow10 (decimals - 8)) else .ok amount

/-! ## Calls of other contracts -/

section Bridge

variable {ν : Type} (env : Environment ν)

/-- A call into the wrapped token contract at `token`. -/
def tokenAt (w : World ν) (token : Address) : Revert TokenImplementation.State :=
  match w.tokens token with
  | some t => .ok t
  | none => .error ""

/-- Write back the storage of a wrapped token contract. -/
def World.setToken (w : World ν) (token : Address) (t : TokenImplementation.State) : World ν :=
  { w with tokens := Function.update w.tokens token (some t) }

def queryDecimals (w : World ν) (token : Address) : Revert Nat :=
  match w.tokens token with
  | some t => .ok t.decimals
  | none => (env.decimals w.env token).map UInt8.toNat

def querySymbol (w : World ν) (token : Address) : Revert (List UInt8) :=
  match w.tokens token with
  | some t => .ok t.symbol
  | none => env.symbol w.env token

/-- `name()`; a wrapped token appends " (Wormhole)". -/
def queryName (w : World ν) (token : Address) : Revert (List UInt8) :=
  match w.tokens token with
  | some t => .ok (t.name ++ [0x20, 0x28, 0x57, 0x6f, 0x72, 0x6d, 0x68, 0x6f, 0x6c, 0x65, 0x29])
  | none => env.name w.env token

/-- The bridge's own balance. -/
def queryBalance (w : World ν) (token : Address) : Revert Nat :=
  match w.tokens token with
  | some t => .ok (t.balances w.bridge.self)
  | none => env.balanceOf w.env token w.bridge.self

/-- `SafeERC20.safeTransferFrom`, on a wrapped or on any other token. -/
def safeTransferFrom (w : World ν) (token sender recipient : Address) (amount : Nat) :
    Revert (World ν) :=
  match w.tokens token with
  | some t => do
    let t ← TokenImplementation.transferFrom t w.bridge.self sender recipient amount
    return w.setToken token t
  | none => do
    let e ← env.safeTransferFrom w.env token sender recipient amount
    return { w with env := e }

/-- `SafeERC20.safeTransfer`. -/
def safeTransfer (w : World ν) (token recipient : Address) (amount : Nat) : Revert (World ν) :=
  match w.tokens token with
  | some t => do
    let t ← TokenImplementation.transfer t w.bridge.self recipient amount
    return w.setToken token t
  | none => do
    let e ← env.safeTransfer w.env token recipient amount
    return { w with env := e }

/-- `TokenImplementation(token).mint(account, amount)`. -/
def mintWrapped (w : World ν) (token account : Address) (amount : Nat) : Revert (World ν) := do
  let t ← tokenAt w token
  let t ← TokenImplementation.mint t w.bridge.self account amount
  return w.setToken token t

/-- `TokenImplementation(token).burn(address(this), amount)`. -/
def burnWrapped (w : World ν) (token : Address) (amount : Nat) : Revert (World ν) := do
  let t ← tokenAt w token
  let t ← TokenImplementation.burn t w.bridge.self w.bridge.self amount
  return w.setToken token t

/-- `wormhole().publishMessage{value : callValue}(nonce, payload, 15)`. -/
def publishMessage (w : World ν) (callValue nonce : Nat) (payload : List UInt8) :
    Revert (World ν × Nat) := do
  let (sequence, e) ← env.publishMessage w.env callValue nonce payload 15
  return ({ w with env := e }, sequence)

/-! ## Transfers out -/

/-- Produce an AssetMeta message for a given token. -/
def attestToken (w : World ν) (tokenAddress : Address) (nonce value : Nat) :
    Revert (World ν × Nat) := do
  let decimals ← queryDecimals env w tokenAddress
  let symbolString ← querySymbol env w tokenAddress
  let nameString ← queryName env w tokenAddress
  publishMessage env w value nonce (encodeAssetMeta {
    tokenAddress := tokenAddress.toWord, tokenChain := w.bridge.chainId, decimals,
    -- the two strings lie one behind the other
    symbol := firstWord (lengthWord nameString) symbolString, name := firstWord env.memory nameString })

def setOutstandingBridged (s : State) (token : Address) (outstanding : Nat) : State :=
  { s with outstandingBridged := Function.update s.outstandingBridged token outstanding }

def bridgeOut (s : State) (token : Address) (normalizedAmount : Nat) : Revert State := do
  let outstanding ← addUint (s.outstandingBridged token) normalizedAmount
  require (outstanding ≤ 2 ^ 64 - 1) "transfer exceeds max outstanding bridged token amount"
  return setOutstandingBridged s token outstanding

def bridgedIn (s : State) (token : Address) (normalizedAmount : Nat) : Revert State := do
  let outstanding ← subUint (s.outstandingBridged token) normalizedAmount
  return setOutstandingBridged s token outstanding

def logTransfer (w : World ν) (transfer : Transfer) (callValue nonce : Nat) :
    Revert (World ν × Nat) := do
  require (transfer.fee ≤ transfer.amount) "fee exceeds amount"
  publishMessage env w callValue nonce (encodeTransfer transfer)

/-- refund dust -/
def refundDust (e : ν) (sender : Address) (dust : Nat) : Revert ν :=
  if 0 < dust then env.sendEther e sender dust else .ok e

def wrapAndTransferETH (w : World ν) (sender : Address) (value recipientChain : Nat) (recipient : Word)
    (arbiterFee nonce : Nat) : Revert (World ν × Nat) := do
  let wormholeFee ← env.messageFee w.env
  require (wormholeFee < value) "value is smaller than wormhole fee"
  let amount := value - wormholeFee
  require (arbiterFee ≤ amount) "fee is bigger than amount minus wormhole fee"
  let normalizedAmount ← normalizeAmount amount 18
  let normalizedArbiterFee ← normalizeAmount arbiterFee 18
  let dust ← subUint amount (← deNormalizeAmount normalizedAmount 18)
  let e ← refundDust env w.env sender dust
  -- deposit into WETH
  let e ← env.deposit e (← subUint amount dust)
  -- track and check outstanding token amounts
  let bridge ← bridgeOut w.bridge w.bridge.WETH normalizedAmount
  logTransfer env { w with bridge, env := e } {
    tokenChain := w.bridge.chainId, tokenAddress := w.bridge.WETH.toWord, amount := normalizedAmount,
    toChain := recipientChain, recipient, fee := normalizedArbiterFee } wormholeFee nonce

/-- The token parameters `transferTokens` determines first: chain and address. -/
def tokenParameters (w : World ν) (token : Address) : Revert (Nat × Word) :=
  if w.bridge.isWrappedAsset token then do
    let t ← tokenAt w token
    return (t.chainId, t.nativeContract)
  else .ok (w.bridge.chainId, token.toWord)

/-- The local variables of `transferTokens` at the token's transfer. -/
structure Frame where
  tokenChain : Nat
  tokenAddress : Word
  decimals : Nat
  /-- without the dust -/
  amount : Nat
  /-- the bridge's own balance, of a native token -/
  balanceBefore : Nat

/-- query own token balance before transfer -/
def queryBalanceBefore (w : World ν) (tokenChain : Nat) (token : Address) : Revert Nat :=
  if tokenChain = w.bridge.chainId then queryBalance env w token else .ok 0

/-- `transferTokens` up to the transfer of the token to the bridge. -/
def beginTransferTokens (w : World ν) (sender token : Address) (amount : Nat) :
    Revert (World ν × Frame) := do
  -- determine token parameters
  let (tokenChain, tokenAddress) ← tokenParameters w token
  -- query tokens decimals
  let decimals ← queryDecimals env w token
  -- don't deposit dust that can not be bridged due to the decimal shift
  let amount ← deNormalizeAmount (← normalizeAmount amount decimals) decimals
  let balanceBefore ← queryBalanceBefore env w tokenChain token
  let w ← safeTransferFrom env w token sender w.bridge.self amount
  return (w, { tokenChain, tokenAddress, decimals, amount, balanceBefore })

/-- The amount that has arrived; a wrapped token is burned. -/
def takeTokens (w : World ν) (frame : Frame) (token : Address) : Revert (World ν × Nat) :=
  if frame.tokenChain = w.bridge.chainId then do
    let balanceAfter ← queryBalance env w token
    -- correct amount for potential transfer fees
    return (w, ← subUint balanceAfter frame.balanceBefore)
  else do
    return (← burnWrapped w token frame.amount, frame.amount)

/-- track and check outstanding token amounts -/
def trackOutstanding (s : State) (tokenChain : Nat) (token : Address) (normalizedAmount : Nat) :
    Revert State :=
  if tokenChain = s.chainId then bridgeOut s token normalizedAmount else .ok s

/-- `transferTokens` from there on. -/
def finishTransferTokens (w : World ν) (frame : Frame) (token : Address) (recipientChain : Nat)
    (recipient : Word) (arbiterFee nonce value : Nat) : Revert (World ν × Nat) := do
  let (w, amount) ← takeTokens env w frame token
  -- normalize amounts decimals
  let normalizedAmount ← normalizeAmount amount frame.decimals
  let normalizedArbiterFee ← normalizeAmount arbiterFee frame.decimals
  let bridge ← trackOutstanding w.bridge frame.tokenChain token normalizedAmount
  logTransfer env { w with bridge } {
    tokenChain := frame.tokenChain, tokenAddress := frame.tokenAddress, amount := normalizedAmount,
    toChain := recipientChain, recipient, fee := normalizedArbiterFee } value nonce

/-! ## Messages of other bridges -/

/-- `verifyBridgeVM`: the emitter is the one stored for its chain. -/
def verifyBridgeVM (s : State) (vm : VM) : Bool :=
  (s.bridgeImplementations vm.emitterChainId).val = vm.emitterAddress

/-- What `updateWrapped`, `createWrapped` and `_completeTransfer` check first, given what
`parseAndVerifyVM` has returned. -/
def checkBridgeVM (s : State) (vm : VM) (valid : Bool) (reason : String) : Revert Unit := do
  require (valid = true) reason
  require (verifyBridgeVM s vm = true) "invalid emitter"

/-- `_updateWrapped`. -/
def updateWrappedDetails (w : World ν) (meta' : AssetMeta) (sequence : Nat) :
    Revert (World ν × Address) := do
  let wrapped := w.bridge.wrappedAssets meta'.tokenChain meta'.tokenAddress
  require (wrapped ≠ zeroAddress) "wrapped asset does not exists"
  -- Update metadata
  let t ← tokenAt w wrapped
  let t ← TokenImplementation.updateDetails t w.bridge.self (bytes32ToString meta'.name)
    (bytes32ToString meta'.symbol) sequence
  return (w.setToken wrapped t, wrapped)

def updateWrapped (w : World ν) (vm : VM) (valid : Bool) (reason : String) :
    Revert (World ν × Address) := do
  checkBridgeVM w.bridge vm valid reason
  let meta' ← parseAssetMeta vm.payload
  updateWrappedDetails w meta' vm.sequence

def setWrappedAsset (s : State) (tokenChain : Nat) (tokenAddress : Word) (wrapper : Address) : State :=
  { s with
    wrappedAssets := Function.update s.wrappedAssets tokenChain
      (Function.update (s.wrappedAssets tokenChain) tokenAddress wrapper)
    isWrappedAsset := Function.update s.isWrappedAsset wrapper true }

/-- `_createWrapped`: creates a wrapped asset using AssetMeta. -/
def deployWrapped (w : World ν) (meta' : AssetMeta) (sequence : Nat) :
    Revert (World ν × Address) := do
  require (meta'.tokenChain ≠ w.bridge.chainId) "can only wrap tokens from foreign chains"
  require (w.bridge.wrappedAssets meta'.tokenChain meta'.tokenAddress = zeroAddress)
    "wrapped asset already exists"
  -- initialize the TokenImplementation
  let name := bytes32ToString meta'.name
  let symbol := bytes32ToString meta'.symbol
  let t ← TokenImplementation.initializeContract .empty name symbol meta'.decimals sequence
    w.bridge.self meta'.tokenChain meta'.tokenAddress
  let token := env.create2 meta'.tokenChain meta'.tokenAddress name symbol meta'.decimals sequence
  -- `create2` fails where there is code
  require ((w.tokens token).isNone ∧ env.hasCode w.env token = false ∧ token ≠ w.bridge.self ∧
    token ≠ zeroAddress) ""
  let bridge := setWrappedAsset w.bridge meta'.tokenChain meta'.tokenAddress token
  return ({ w with bridge }.setToken token t, token)

def createWrapped (w : World ν) (vm : VM) (valid : Bool) (reason : String) :
    Revert (World ν × Address) := do
  checkBridgeVM w.bridge vm valid reason
  let meta' ← parseAssetMeta vm.payload
  deployWrapped env w meta' vm.sequence

def setTransferCompleted (s : State) (hash : List UInt8) : State :=
  { s with completedTransfers := Function.update s.completedTransfers hash true }

/-- The token of a transfer; a native one is no longer outstanding. -/
def transferTokenOf (s : State) (transfer : Transfer) : Revert (State × Address) :=
  if transfer.tokenChain = s.chainId then do
    -- track outstanding token amounts
    let s ← bridgedIn s transfer.tokenAddress.toAddress transfer.amount
    return (s, transfer.tokenAddress.toAddress)
  else do
    let wrapped := s.wrappedAssets transfer.tokenChain transfer.tokenAddress
    require (wrapped ≠ zeroAddress) "no wrapper for this token created yet"
    return (s, wrapped)

/-- A payment of `_completeTransfer`: unwrapped ether, a minted token or a native one. -/
def pay (w : World ν) (unwrapWETH : Bool) (tokenChain : Nat) (token recipient : Address)
    (amount : Nat) : Revert (World ν) :=
  if unwrapWETH then do
    let e ← env.withdraw w.env amount
    let e ← env.sendEther e recipient amount
    return { w with env := e }
  else if tokenChain ≠ w.bridge.chainId then mintWrapped w token recipient amount
  else safeTransfer env w token recipient amount

/-- transfer fee to arbiter -/
def payFee (w : World ν) (unwrapWETH : Bool) (tokenChain : Nat) (token sender : Address)
    (nativeFee nativeAmount : Nat) : Revert (World ν) :=
  if 0 < nativeFee then do
    require (nativeFee ≤ nativeAmount) "fee higher than transferred amount"
    pay env w unwrapWETH tokenChain token sender nativeFee
  else .ok w

/-- `_completeTransfer` behind its checks of the emitter: execute a Transfer message for `sender`. -/
def executeTransfer (w : World ν) (vm : VM) (sender : Address) (unwrapWETH : Bool) :
    Revert (World ν) := do
  let transfer ← parseTransfer vm.payload
  require (w.bridge.completedTransfers vm.hash = false) "transfer already completed"
  let bridge := setTransferCompleted w.bridge vm.hash
  require (transfer.toChain = bridge.chainId) "invalid target chain"
  let (bridge, token) ← transferTokenOf bridge transfer
  require (unwrapWETH = false ∨ token = bridge.WETH) "invalid token, can only unwrap WETH"
  let w := { w with bridge }
  -- adjust decimals
  let decimals ← queryDecimals env w token
  let nativeAmount ← deNormalizeAmount transfer.amount decimals
  let nativeFee ← deNormalizeAmount transfer.fee decimals
  let w ← payFee env w unwrapWETH transfer.tokenChain token sender nativeFee nativeAmount
  -- transfer bridged amount to recipient
  let transferAmount ← subUint nativeAmount nativeFee
  pay env w unwrapWETH transfer.tokenChain token transfer.recipient.toAddress transferAmount

/-- `completeTransfer` and `completeTransferAndUnwrapETH`, called by `sender`. -/
def completeTransfer (w : World ν) (vm : VM) (valid : Bool) (reason : String) (sender : Address)
    (unwrapWETH : Bool) : Revert (World ν) := do
  checkBridgeVM w.bridge vm valid reason
  executeTransfer env w vm sender unwrapWETH

/-! ## Governance -/

/-- "TokenBridge" (left padded) -/
def module : List UInt8 :=
  List.replicate 21 0x00 ++ [0x54, 0x6f, 0x6b, 0x65, 0x6e, 0x42, 0x72, 0x69, 0x64, 0x67, 0x65]

/-- `BridgeStructs.RegisterChain` without its constant fields. -/
structure RegisterChain where
  chainId : Nat
  emitterChainID : Nat
  emitterAddress : Word

def parseRegisterChain (encoded : List UInt8) : Revert RegisterChain := do
  let module' ← toBytes32 encoded 0
  require (module' = module) "invalid RegisterChain: wrong module"
  let action ← toUint8 encoded 32
  require (action = 1) "invalid RegisterChain: wrong action"
  let chainId ← toUint16 encoded 33
  let emitterChainID ← toUint16 encoded 35
  let emitterAddress ← toWord "toBytes32_outOfBounds" encoded 37
  require (encoded.length = 69) "invalid RegisterChain: wrong length"
  return { chainId, emitterChainID, emitterAddress }

def parseUpgrade : List UInt8 → Revert UpgradeContract := parseUpgradeContract module

/-- `verifyGovernanceVM`, given what `parseAndVerifyVM` has returned. -/
def verifyGovernanceVM (s : State) (vm : VM) (valid : Bool) (reason : String) : Bool × String :=
  if valid = false then (false, reason)
  else if vm.emitterChainId ≠ s.governanceChainId then (false, "wrong governance chain")
  else if vm.emitterAddress ≠ s.governanceContract.val then (false, "wrong governance contract")
  else if s.consumedGovernanceActions vm.hash then (false, "governance action already consumed")
  else (true, "")

/-- `registerChain`: execute a RegisterChain governance message.  Zero stands for a chain that is not
registered. -/
def registerChain (s : State) (vm : VM) (valid : Bool) (reason : String) : Revert State := do
  let (valid, reason) := verifyGovernanceVM s vm valid reason
  require (valid = true) reason
  let chain ← parseRegisterChain vm.payload
  require (chain.chainId = s.chainId ∨ chain.chainId = 0) "invalid chain id"
  require (s.bridgeImplementations chain.emitterChainID = zeroWord) "chain already registered"
  return { s with
    consumedGovernanceActions := Function.update s.consumedGovernanceActions vm.hash true
    bridgeImplementations :=
      Function.update s.bridgeImplementations chain.emitterChainID chain.emitterAddress }

/-! ## Runs -/

/-- A call that another contract may make while `transferTokens` runs: of the bridge, of a wrapped token
contract by somebody else, or any change of the rest of the chain. -/
inductive Call (ν : Type) where
  | attestToken (tokenAddress : Address) (nonce value : Nat)
  | wrapAndTransferETH (sender : Address) (value recipientChain : Nat) (recipient : Word)
      (arbiterFee nonce : Nat)
  | updateWrapped (vm : VM) (valid : Bool) (reason : String)
  | createWrapped (vm : VM) (valid : Bool) (reason : String)
  | completeTransfer (vm : VM) (valid : Bool) (reason : String) (sender : Address) (unwrapWETH : Bool)
  | registerChain (vm : VM) (valid : Bool) (reason : String)
  | token (sender token : Address) (call : TokenImplementation.Call)
  | rest (e : ν)

/-- One such call; a revert rejects it. -/
def call (w : World ν) : Call ν → Option (World ν)
  | .attestToken tokenAddress nonce value =>
    ((attestToken env w tokenAddress nonce value).map Prod.fst).toOption
  | .wrapAndTransferETH sender value recipientChain recipient arbiterFee nonce =>
    ((wrapAndTransferETH env w sender value recipientChain recipient arbiterFee nonce).map
      Prod.fst).toOption
  | .updateWrapped vm valid reason => ((updateWrapped w vm valid reason).map Prod.fst).toOption
  | .createWrapped vm valid reason => ((createWrapped env w vm valid reason).map Prod.fst).toOption
  | .completeTransfer vm valid reason sender unwrapWETH =>
    (completeTransfer env w vm valid reason sender unwrapWETH).toOption
  | .registerChain vm valid reason =>
    ((registerChain w.bridge vm valid reason).map fun bridge => { w with bridge }).toOption
  | .token sender token call =>
    -- the bridge makes no calls but those above
    if sender = w.bridge.self then none
    else ((tokenAt w token).bind fun t => (call.run t sender).map (w.setToken token)).toOption
  | .rest e => some { w with env := e }

/-- The emitters that RegisterChain messages have registered, in order. -/
abbrev Registrations := List (Nat × Word)

/-- The emitter that a call registers. -/
def registered (_ : World ν) : Call ν → Registrations
  | .registerChain vm _ _ =>
    match parseRegisterChain vm.payload with
    | .ok chain => [(chain.emitterChainID, chain.emitterAddress)]
    | .error _ => []
  | _ => []

/-- A transaction. -/
inductive Step : World ν × Registrations → World ν × Registrations → Prop where
  | call {s t : World ν × Registrations} {c : Call ν}
      (hcall : logging (call env) registered s c = some t) : Step s t
  /-- `transferTokens`, with the calls that a native token makes during its transfer. -/
  | transferTokens {w w' : World ν} {log : Registrations} {t : World ν × Registrations} {frame : Frame}
      {sender token : Address} {amount recipientChain : Nat} {recipient : Word}
      {arbiterFee nonce value sequence : Nat}
      (hbegin : beginTransferTokens env w sender token amount = .ok (w', frame))
      (hcalls : Run (logging (Bridge.call env) registered) (fun _ _ => (w.tokens token).isNone) (w', log) t)
      {w'' : World ν}
      (hfinish : finishTransferTokens env t.1 frame token recipientChain recipient arbiterFee nonce
        value = .ok (w'', sequence)) : Step (w, log) (w'', t.2)

/-- A bridge that was just set up. -/
structure Fresh (w : World ν) : Prop where
  bridgeImplementations : w.bridge.bridgeImplementations = fun _ => zeroWord
  isWrappedAsset : ∀ token, w.bridge.isWrappedAsset token = false
  wrappedAssets : ∀ tokenChain tokenAddress, w.bridge.wrappedAssets tokenChain tokenAddress = zeroAddress
  outstandingBridged : ∀ token, w.bridge.outstandingBridged token = 0
  tokens : ∀ token, w.tokens token = none

/-- The worlds some run leads to, with the emitters registered on the way. -/
def Reachable (w : World ν) (log : Registrations) : Prop :=
  ∃ w₀, Fresh w₀ ∧ Relation.ReflTransGen (Step env) (w₀, []) (w, log)

/-! ## What the calls do to the bridge's storage -/

section Steps

variable {env} {w w' : World ν} {token sender recipient : Address} {amount : Nat}

theorem safeTransferFrom_bridge (h : safeTransferFrom env w token sender recipient amount = .ok w') :
    w'.bridge = w.bridge := by
  unfold safeTransferFrom at h
  split at h
  · obtain ⟨t, -, heq⟩ := bind_eq_ok.mp h
    rw [← Except.ok.inj heq]
    rfl
  · obtain ⟨e, -, heq⟩ := bind_eq_ok.mp h
    rw [← Except.ok.inj heq]

theorem safeTransfer_bridge (h : safeTransfer env w token recipient amount = .ok w') :
    w'.bridge = w.bridge := by
  unfold safeTransfer at h
  split at h
  · obtain ⟨t, -, heq⟩ := bind_eq_ok.mp h
    rw [← Except.ok.inj heq]
    rfl
  · obtain ⟨e, -, heq⟩ := bind_eq_ok.mp h
    rw [← Except.ok.inj heq]

theorem mintWrapped_bridge (h : mintWrapped w token recipient amount = .ok w') :
    w'.bridge = w.bridge := by
  simp only [mintWrapped, bind_eq_ok] at h
  obtain ⟨t, -, t', -, heq⟩ := h
  rw [← Except.ok.inj heq]
  rfl

theorem burnWrapped_bridge (h : burnWrapped w token amount = .ok w') : w'.bridge = w.bridge := by
  simp only [burnWrapped, bind_eq_ok] at h
  obtain ⟨t, -, t', -, heq⟩ := h
  rw [← Except.ok.inj heq]
  rfl

theorem pay_bridge {unwrapWETH : Bool} {tokenChain : Nat}
    (h : pay env w unwrapWETH tokenChain token recipient amount = .ok w') : w'.bridge = w.bridge := by
  unfold pay at h
  split at h
  · simp only [bind_eq_ok] at h
    obtain ⟨e, -, e', -, heq⟩ := h
    rw [← Except.ok.inj heq]
  · split at h
    · exact mintWrapped_bridge h
    · exact safeTransfer_bridge h

theorem payFee_bridge {unwrapWETH : Bool} {tokenChain nativeAmount : Nat}
    (h : payFee env w unwrapWETH tokenChain token sender amount nativeAmount = .ok w') :
    w'.bridge = w.bridge := by
  unfold payFee at h
  split at h
  · obtain ⟨_, -, h⟩ := bind_eq_ok.mp h
    exact pay_bridge h
  · rw [← Except.ok.inj h]

theorem takeTokens_bridge {frame : Frame} (h : takeTokens env w frame token = .ok (w', amount)) :
    w'.bridge = w.bridge := by
  unfold takeTokens at h
  split at h
  · simp only [bind_eq_ok] at h
    obtain ⟨_, -, _, -, heq⟩ := h
    exact (congrArg (fun result => result.1.bridge) (Except.ok.inj heq)).symm
  · obtain ⟨w₁, hburn, heq⟩ := bind_eq_ok.mp h
    obtain ⟨rfl, -⟩ := Prod.mk.inj (Except.ok.inj heq)
    exact burnWrapped_bridge hburn

theorem publishMessage_bridge {callValue nonce sequence : Nat} {payload : List UInt8}
    (h : publishMessage env w callValue nonce payload = .ok (w', sequence)) : w'.bridge = w.bridge := by
  obtain ⟨⟨sequence', e⟩, -, heq⟩ := bind_eq_ok.mp h
  exact (congrArg (fun result => result.1.bridge) (Except.ok.inj heq)).symm

theorem logTransfer_bridge {transfer : Transfer} {callValue nonce sequence : Nat}
    (h : logTransfer env w transfer callValue nonce = .ok (w', sequence)) : w'.bridge = w.bridge := by
  obtain ⟨_, -, h⟩ := bind_eq_ok.mp h
  exact publishMessage_bridge h

/-- What only governance writes, or nobody. -/
structure SameGovernance (s t : State) : Prop where
  self : t.self = s.self
  chainId : t.chainId = s.chainId
  governanceChainId : t.governanceChainId = s.governanceChainId
  governanceContract : t.governanceContract = s.governanceContract
  consumedGovernanceActions : t.consumedGovernanceActions = s.consumedGovernanceActions
  bridgeImplementations : t.bridgeImplementations = s.bridgeImplementations

namespace SameGovernance

variable {s t u : State}

theorem refl (s : State) : SameGovernance s s := ⟨rfl, rfl, rfl, rfl, rfl, rfl⟩

theorem of_eq (h : t = s) : SameGovernance s t := h ▸ refl s

theorem trans (h : SameGovernance s t) (h' : SameGovernance t u) : SameGovernance s u :=
  ⟨h'.self.trans h.self, h'.chainId.trans h.chainId, h'.governanceChainId.trans h.governanceChainId,
    h'.governanceContract.trans h.governanceContract,
    h'.consumedGovernanceActions.trans h.consumedGovernanceActions,
    h'.bridgeImplementations.trans h.bridgeImplementations⟩

theorem bridgeOut (h : Bridge.bridgeOut s token amount = .ok t) : SameGovernance s t := by
  simp only [Bridge.bridgeOut, bind_eq_ok] at h
  obtain ⟨outstanding, -, _, -, heq⟩ := h
  rw [← Except.ok.inj heq]
  exact ⟨rfl, rfl, rfl, rfl, rfl, rfl⟩

theorem trackOutstanding {tokenChain : Nat}
    (h : Bridge.trackOutstanding s tokenChain token amount = .ok t) : SameGovernance s t := by
  unfold Bridge.trackOutstanding at h
  split at h
  · exact bridgeOut h
  · exact of_eq (Except.ok.inj h).symm

theorem transferTokenOf {transfer : Transfer} (h : Bridge.transferTokenOf s transfer = .ok (t, token)) :
    SameGovernance s t := by
  unfold Bridge.transferTokenOf at h
  split at h
  · simp only [bridgedIn, bind_eq_ok] at h
    obtain ⟨u, ⟨outstanding, -, hu⟩, heq⟩ := h
    obtain ⟨rfl, -⟩ := Prod.mk.inj (Except.ok.inj heq)
    rw [← Except.ok.inj hu]
    exact ⟨rfl, rfl, rfl, rfl, rfl, rfl⟩
  · simp only [bind_eq_ok] at h
    obtain ⟨_, -, heq⟩ := h
    exact of_eq (congrArg Prod.fst (Except.ok.inj heq)).symm

theorem logTransfer {transfer : Transfer} {callValue nonce sequence : Nat}
    (h : Bridge.logTransfer env w transfer callValue nonce = .ok (w', sequence)) :
    SameGovernance w.bridge w'.bridge :=
  of_eq (logTransfer_bridge h)

theorem wrapAndTransferETH {value recipientChain arbiterFee nonce sequence : Nat} {recipient : Word}
    (h : Bridge.wrapAndTransferETH env w sender value recipientChain recipient arbiterFee nonce =
      .ok (w', sequence)) : SameGovernance w.bridge w'.bridge := by
  simp only [Bridge.wrapAndTransferETH, bind_eq_ok] at h
  obtain ⟨_, -, _, -, _, -, _, -, _, -, _, -, _, -, _, -, _, -, _, -, bridge, hout, hlog⟩ := h
  have hlog := logTransfer hlog
  exact (bridgeOut hout).trans hlog

theorem beginTransferTokens {frame : Frame}
    (h : Bridge.beginTransferTokens env w sender token amount = .ok (w', frame)) :
    SameGovernance w.bridge w'.bridge := by
  simp only [Bridge.beginTransferTokens, bind_eq_ok] at h
  obtain ⟨_, -, _, -, _, -, _, -, _, -, w₁, htransfer, heq⟩ := h
  obtain ⟨rfl, -⟩ := Prod.mk.inj (Except.ok.inj heq)
  exact of_eq (safeTransferFrom_bridge htransfer)

theorem finishTransferTokens {frame : Frame} {recipientChain arbiterFee nonce value sequence : Nat}
    {recipient : Word} (h : Bridge.finishTransferTokens env w frame token recipientChain recipient
      arbiterFee nonce value = .ok (w', sequence)) : SameGovernance w.bridge w'.bridge := by
  simp only [Bridge.finishTransferTokens, bind_eq_ok] at h
  obtain ⟨⟨w₁, taken⟩, htake, _, -, _, -, bridge, hout, hlog⟩ := h
  have htake := takeTokens_bridge htake
  have hout := trackOutstanding hout
  have hlog := logTransfer hlog
  rw [← htake]
  exact hout.trans hlog

theorem updateWrapped {vm : VM} {valid : Bool} {reason : String}
    (h : Bridge.updateWrapped w vm valid reason = .ok (w', token)) :
    SameGovernance w.bridge w'.bridge := by
  simp only [Bridge.updateWrapped, updateWrappedDetails, bind_eq_ok] at h
  obtain ⟨_, -, _, -, _, -, t, -, t', -, heq⟩ := h
  exact of_eq (congrArg (fun result => result.1.bridge) (Except.ok.inj heq)).symm

theorem createWrapped {vm : VM} {valid : Bool} {reason : String}
    (h : Bridge.createWrapped env w vm valid reason = .ok (w', token)) :
    SameGovernance w.bridge w'.bridge := by
  simp only [Bridge.createWrapped, deployWrapped, bind_eq_ok] at h
  obtain ⟨_, -, _, -, _, -, _, -, t, -, _, -, heq⟩ := h
  obtain ⟨rfl, -⟩ := Prod.mk.inj (Except.ok.inj heq)
  exact ⟨rfl, rfl, rfl, rfl, rfl, rfl⟩

theorem completeTransfer {vm : VM} {valid unwrapWETH : Bool} {reason : String}
    (h : Bridge.completeTransfer env w vm valid reason sender unwrapWETH = .ok w') :
    SameGovernance w.bridge w'.bridge := by
  simp only [Bridge.completeTransfer, executeTransfer, bind_eq_ok] at h
  obtain ⟨_, -, _, -, _, -, _, -, ⟨bridge, token⟩, htoken, _, -, _, -, _, -, _, -, w₁, hfee, _, -,
    hpay⟩ := h
  have hcompleted : SameGovernance w.bridge (setTransferCompleted w.bridge vm.hash) :=
    ⟨rfl, rfl, rfl, rfl, rfl, rfl⟩
  have hlast : w'.bridge = bridge := (pay_bridge hpay).trans (payFee_bridge hfee)
  rw [hlast]
  exact hcompleted.trans (transferTokenOf htoken)

end SameGovernance

/-! ## The registered emitters -/

/-- What a registration does. -/
theorem registerChain_eq_ok {s t : State} {vm : VM} {valid : Bool} {reason : String}
    (h : registerChain s vm valid reason = .ok t) :
    ∃ chain, parseRegisterChain vm.payload = .ok chain ∧
      s.bridgeImplementations chain.emitterChainID = zeroWord ∧
      t.bridgeImplementations =
        Function.update s.bridgeImplementations chain.emitterChainID chain.emitterAddress := by
  simp only [registerChain, bind_eq_ok, require_eq_ok] at h
  obtain ⟨_, -, chain, hparse, _, -, _, hfresh, heq⟩ := h
  refine ⟨chain, hparse, hfresh, ?_⟩
  rw [← Except.ok.inj heq]

/-- The stored emitters are the registered ones, the last for each chain. -/
def Recorded (s : World ν × Registrations) : Prop :=
  s.1.bridge.bridgeImplementations = Lib.Mapping.replay zeroWord s.2

theorem Recorded.of_same {log : Registrations} (h : Recorded (w, log))
    (hsame : SameGovernance w.bridge w'.bridge) : Recorded (w', log) :=
  hsame.bridgeImplementations.trans h

/-- **Calls.** Only a registration changes what governance writes. -/
theorem call_cases {c : Call ν} (h : call env w c = some w') :
    (∃ vm valid reason, c = .registerChain vm valid reason) ∨
      registered w c = [] ∧ SameGovernance w.bridge w'.bridge := by
  cases c with
  | registerChain vm valid reason => exact .inl ⟨vm, valid, reason, rfl⟩
  | attestToken tokenAddress nonce value =>
    obtain ⟨⟨w₁, sequence⟩, hattest, rfl⟩ := map_toOption_eq_some h
    simp only [attestToken, bind_eq_ok] at hattest
    obtain ⟨_, -, _, -, _, -, hpublish⟩ := hattest
    exact .inr ⟨rfl, .of_eq (publishMessage_bridge hpublish)⟩
  | wrapAndTransferETH sender value recipientChain recipient arbiterFee nonce =>
    obtain ⟨⟨w₁, sequence⟩, hwrap, rfl⟩ := map_toOption_eq_some h
    exact .inr ⟨rfl, .wrapAndTransferETH hwrap⟩
  | updateWrapped vm valid reason =>
    obtain ⟨⟨w₁, token⟩, hupdate, rfl⟩ := map_toOption_eq_some h
    exact .inr ⟨rfl, .updateWrapped hupdate⟩
  | createWrapped vm valid reason =>
    obtain ⟨⟨w₁, token⟩, hcreate, rfl⟩ := map_toOption_eq_some h
    exact .inr ⟨rfl, .createWrapped hcreate⟩
  | completeTransfer vm valid reason sender unwrapWETH =>
    exact .inr ⟨rfl, .completeTransfer (toOption_eq_some h)⟩
  | token sender token call =>
    right
    refine ⟨rfl, ?_⟩
    simp only [Bridge.call] at h
    split at h
    · cases h
    · obtain ⟨t, -, ht⟩ := bind_eq_ok.mp (toOption_eq_some h)
      obtain ⟨t', -, rfl⟩ := map_eq_ok.mp ht
      exact .refl _
  | rest e =>
    rw [← Option.some.inj h]
    exact .inr ⟨rfl, .refl _⟩

theorem Recorded.call {s t : World ν × Registrations} {c : Call ν} (h : Recorded s)
    (hcall : logging (Bridge.call env) registered s c = some t) : Recorded t := by
  obtain ⟨w, log⟩ := s
  obtain ⟨w', log'⟩ := t
  rw [logging_eq_some] at hcall
  obtain ⟨hcall, hlog⟩ := hcall
  dsimp only at hcall hlog
  subst hlog
  rcases call_cases hcall with ⟨vm, valid, reason, rfl⟩ | ⟨hnone, hsame⟩
  · obtain ⟨bridge, hregister, rfl⟩ := map_toOption_eq_some hcall
    obtain ⟨chain, hparse, -, hupdate⟩ := registerChain_eq_ok hregister
    show bridge.bridgeImplementations = Lib.Mapping.replay zeroWord (log ++ registered w _)
    rw [hupdate, registered, hparse, Lib.Mapping.replay_concat]
    exact congrArg (Function.update · _ _) h
  · rw [hnone, List.append_nil]
    exact h.of_same hsame

/-- **Transactions.** -/
theorem Recorded.step {s t : World ν × Registrations} (h : Recorded s) (hstep : Step env s t) :
    Recorded t := by
  cases hstep with
  | call hcall => exact h.call hcall
  | transferTokens hbegin hcalls hfinish =>
    have hbegin := h.of_same (SameGovernance.beginTransferTokens hbegin)
    have hcalls := hcalls.invariant (fun _ _ _ hs _ hcall => Recorded.call hs hcall) hbegin
    exact hcalls.of_same (SameGovernance.finishTransferTokens hfinish)

/-- **Runs.** -/
theorem Reachable.recorded {log : Registrations} (h : Reachable env w log) :
    w.bridge.bridgeImplementations = Lib.Mapping.replay zeroWord log := by
  obtain ⟨w₀, hfresh, hrun⟩ := h
  have hstart : Recorded (w₀, []) := hfresh.bridgeImplementations
  exact Relation.ReflTransGen.head_induction_on (motive := fun s _ => Recorded s → Recorded (w, log))
    hrun (fun h => h) (fun hstep _ ih h => ih (h.step hstep)) hstart

end Steps

end Bridge

end Wormhole.Ethereum.Bridge

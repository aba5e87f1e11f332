/-
# Wormhole.Alephium.Custody — the tokens a `TokenWrapper` holds.

`transfer` takes tokens of the sender into the contract and publishes the normalised amount;
`completeTransfer` pays a transfer of another chain out of the contract.  Here the two functions carry
the assets they move: what the contract holds, and what the caller has approved for each address.  The
built-ins follow their documentation: `transferTokenToSelf!` takes from the input assets of the call,
`transferTokenFromSelf!` from what the contract holds, and what it pays has left the contract.

Over a run of one wrapper the tokens held are the initial ones plus what the published transfers
locked minus what the completed ones released (`conservation`).
-/
import Mathlib
import Wormhole.Lib.Bytes
import Wormhole.Lib.Loop
import Wormhole.Lib.Transition
import Wormhole.Alephium.Vm
import Wormhole.Alephium.Governance
import Wormhole.Alephium.TokenBridge

namespace Wormhole.Alephium

open Wormhole.Lib.Bytes Wormhole.Lib.Loop Wormhole.Lib.Transition Wormhole.Alephium.Vm
open Wormhole.Alephium.Governance (WormholeMessage publishMessage)

/-! ## Normalised amounts -/

namespace Math

/-- The units of a token that make one normalised unit. -/
def unit (decimals : Nat) : Nat := 10 ^ (decimals - 8)

/-- What `deNormalizeAmount` computes when nothing overflows. -/
def deNormalized (amount decimals : Nat) : Nat := amount * unit decimals

theorem unit_pos (decimals : Nat) : 0 < unit decimals := Nat.pow_pos (by decide)

theorem unit_of_le {decimals : Nat} (h : decimals ≤ 8) : unit decimals = 1 := by
  rw [unit, Nat.sub_eq_zero_of_le h, Nat.pow_zero]

/-- The checked power: no intermediate product is larger than the result. -/
theorem pow_eq_some {x y r : Nat} (hx : 0 < x) : pow x y = some r ↔ x ^ y < 2 ^ 256 ∧ x ^ y = r := by
  induction y generalizing r with
  | zero => simp [pow]
  | succ y ih =>
    have hle : x ^ y ≤ x ^ y * x := Nat.le_mul_of_pos_right _ hx
    have hpow : pow x (y + 1) = (pow x y).bind fun result => U256.mul result x := loop_succ _ _
    rw [hpow, Option.bind_eq_some_iff, Nat.pow_succ]
    constructor
    · rintro ⟨a, ha, hmul⟩
      obtain ⟨-, rfl⟩ := ih.mp ha
      exact U256.mul_eq_some.mp hmul
    · intro h
      exact ⟨x ^ y, ih.mpr ⟨lt_of_le_of_lt hle h.1, rfl⟩, U256.mul_eq_some.mpr h⟩

theorem normalizeAmount_eq_some {amount decimals n : Nat} :
    normalizeAmount amount decimals = some n ↔
      unit decimals < 2 ^ 256 ∧ amount / unit decimals = n := by
  unfold normalizeAmount
  split
  · simp only [Option.bind_eq_bind, Option.bind_eq_some_iff, pow_eq_some (by decide : 0 < 10),
      Option.pure_def, Option.some_inj]
    constructor
    · rintro ⟨_, ⟨hlt, rfl⟩, hn⟩
      exact ⟨hlt, hn⟩
    · intro h
      exact ⟨_, ⟨h.1, rfl⟩, h.2⟩
  · rename_i h
    rw [unit_of_le (Nat.le_of_not_lt h), Nat.div_one, Option.some_inj]
    exact (and_iff_right (by decide)).symm

theorem deNormalizeAmount_eq_some {amount decimals m : Nat} :
    deNormalizeAmount amount decimals = some m ↔
      (8 < decimals → unit decimals < 2 ^ 256 ∧ deNormalized amount decimals < 2 ^ 256) ∧
        deNormalized amount decimals = m := by
  unfold deNormalizeAmount deNormalized
  split
  · rename_i h
    simp only [Option.bind_eq_bind, Option.bind_eq_some_iff, pow_eq_some (by decide : 0 < 10),
      U256.mul_eq_some]
    constructor
    · rintro ⟨_, ⟨hlt, rfl⟩, hmul, hm⟩
      exact ⟨fun _ => ⟨hlt, hmul⟩, hm⟩
    · intro hm
      exact ⟨_, ⟨(hm.1 h).1, rfl⟩, (hm.1 h).2, hm.2⟩
  · rename_i h
    rw [unit_of_le (Nat.le_of_not_lt h), Nat.mul_one, Option.some_inj]
    exact (and_iff_right fun h' => absurd h' h).symm

end Math

namespace Custody

/-! ## Assets -/

abbrev Address := ByteVec

/-- ALPH and tokens of one wrapper. -/
structure Assets where
  alph : Nat
  token : Nat
  token_lt : token < 2 ^ 256
  deriving DecidableEq

/-- What the caller has approved for the call, by address. -/
abbrev InputAssets := Address → Assets

/-- `approveAlph!`, for a callee that takes all of it. -/
def approveAlph (inputs : InputAssets) (fromAddress : Address) (amount : Nat) : Option Unit :=
  assert (amount ≤ (inputs fromAddress).alph)

def transferAlphToSelf (inputs : InputAssets) (held : Assets) (fromAddress : Address)
    (amount : Nat) : Option Assets := do
  assert (amount ≤ (inputs fromAddress).alph)
  return { held with alph := ← U256.add held.alph amount }

def transferTokenToSelf (inputs : InputAssets) (held : Assets) (fromAddress : Address)
    (amount : Nat) : Option Assets :=
  if h : amount ≤ (inputs fromAddress).token ∧ held.token + amount < 2 ^ 256 then
    some { held with token := held.token + amount, token_lt := h.2 }
  else none

def transferAlphFromSelf (held : Assets) (amount : Nat) : Option Assets := do
  return { held with alph := ← U256.sub held.alph amount }

def transferTokenFromSelf (held : Assets) (amount : Nat) : Option Assets :=
  if amount ≤ held.token then
    some { held with
      token := held.token - amount
      token_lt := lt_of_le_of_lt (Nat.sub_le _ _) held.token_lt }
  else none

/-- `byteVecToAddress!`, of a pay-to-public-key-hash address. -/
def byteVecToAddress (bs : ByteVec) : Option Address := if bs.length = 33 then some bs else none

/-! ## The functions -/

/-- `transfer`; `bridge` is the token bridge and `messageFee` the fee when it is called. -/
def transfer (self : ContractId) (s : TokenWrapper.State) (bridge : TokenBridge.State)
    (messageFee : Nat) (inputs : InputAssets) (held : Assets) (fromAddress : Address)
    (toAddress : ByteVec) (amount arbiterFee : Nat) (nonce : ByteVec) (consistencyLevel : Nat) :
    Option (Assets × WormholeMessage) := do
  assert (toAddress.length = 32)
  assert (nonce.length = 4)
  let normalizedAmount ← Math.normalizeAmount amount s.tokenDecimals
  let normalizedFee ← Math.normalizeAmount arbiterFee s.tokenDecimals
  assert (normalizedFee < normalizedAmount)
  let transferAmount ← Math.deNormalizeAmount normalizedAmount s.tokenDecimals
  let held ← transferTokenToSelf inputs held fromAddress transferAmount
  let payload ← TokenWrapper.transferPayload normalizedAmount s.tokenContractId
    (TokenWrapper.getTokenChainId s) toAddress s.remoteChainId normalizedFee s.isLocalToken
  let tokenBridge ← contractId? s.tokenBridgeId
  approveAlph inputs fromAddress messageFee
  let (_, message) ←
    TokenBridge.publishTransfer tokenBridge self bridge payload nonce consistencyLevel
  return (held, message)

def dustAmount : Nat := 1000000000000

/-- `completeTransfer`, given what `parseTransfer` of its `TokenBridgeForChain` returns: what the
contract holds afterwards and whom it has paid. -/
def completeTransfer (s : TokenWrapper.State) (held : Assets) (msg : TokenBridgeForChain.Transfer)
    (arbiter : Address) : Option (Assets × List (Address × Nat)) := do
  assert (msg.tokenId = s.tokenContractId)
  assert (msg.tokenChainId = TokenWrapper.getTokenChainId s)
  let denomalizedAmount ← Math.deNormalizeAmount msg.amount s.tokenDecimals
  let denomalizedFee ← Math.deNormalizeAmount msg.arbiterFee s.tokenDecimals
  assert (denomalizedAmount > denomalizedFee)
  let transferAmount ← U256.sub denomalizedAmount denomalizedFee
  let recipient ← byteVecToAddress ([0x00] ++ msg.recipientAddress)
  let held ← transferAlphFromSelf held dustAmount
  let held ← transferTokenFromSelf held transferAmount
  let held ← transferTokenFromSelf held denomalizedFee
  return (held, [(recipient, transferAmount), (arbiter, denomalizedFee)])

def deposit (inputs : InputAssets) (held : Assets) (fromAddress : Address) (amount : Nat) :
    Option Assets :=
  transferAlphToSelf inputs held fromAddress amount

/-- The message is the one of `TokenWrapper.transfer`. -/
theorem transfer_data {self : ContractId} {s : TokenWrapper.State} {bridge : TokenBridge.State}
    {messageFee : Nat} {inputs : InputAssets} {held held' : Assets} {fromAddress : Address}
    {toAddress : ByteVec} {amount arbiterFee : Nat} {nonce : ByteVec} {consistencyLevel : Nat}
    {message : WormholeMessage}
    (h : transfer self s bridge messageFee inputs held fromAddress toAddress amount arbiterFee nonce
      consistencyLevel = some (held', message)) :
    ∃ data, TokenWrapper.transfer s toAddress amount arbiterFee nonce = some data ∧
      message.data = nonce ++ (data ++ self.val) := by
  simp only [transfer, Option.bind_eq_bind, Option.bind_eq_some_iff, Option.pure_def, Option.some_inj,
    Prod.mk.injEq] at h
  obtain ⟨_, haddress, _, hnonce, n, hn, fee, hfee, _, hlt, locked, hlocked, _, -, data, hdata, _, -, _,
    -, ⟨_, _⟩, hpublish, -, rfl⟩ := h
  refine ⟨data, ?_, ?_⟩
  · simp only [TokenWrapper.transfer, haddress, hnonce, hn, hfee, hlt, hlocked, some_bind]
    exact hdata
  · simp only [TokenBridge.publishTransfer, Option.bind_eq_bind, Option.bind_eq_some_iff,
      Option.pure_def, Option.some_inj, Prod.mk.injEq] at hpublish
    obtain ⟨⟨_, _⟩, -, -, rfl⟩ := hpublish
    rfl

/-! ## Receipts -/

/-- The normalised amount in a transfer message: behind the nonce and the payload id. -/
def publishedAmount (message : WormholeMessage) : Nat := beNat ((message.data.drop 5).take 32)

/-- What a successful call leaves behind. -/
inductive Receipt where
  | published (message : WormholeMessage)
  | completed (msg : TokenBridgeForChain.Transfer) (payments : List (Address × Nat))
  | deposited
  deriving DecidableEq

/-- The tokens that came in with a call. -/
def Receipt.locked (decimals : Nat) : Receipt → Nat
  | .published message => Math.deNormalized (publishedAmount message) decimals
  | .completed .. | .deposited => 0

/-- The tokens that went out with a call. -/
def Receipt.released (decimals : Nat) : Receipt → Nat
  | .completed msg _ => Math.deNormalized msg.amount decimals
  | .published _ | .deposited => 0

inductive Call where
  | transfer (bridge : TokenBridge.State) (messageFee : Nat) (inputs : InputAssets)
      (fromAddress : Address) (toAddress : ByteVec) (amount arbiterFee : Nat) (nonce : ByteVec)
      (consistencyLevel : Nat)
  | completeTransfer (msg : TokenBridgeForChain.Transfer) (arbiter : Address)
  | deposit (inputs : InputAssets) (fromAddress : Address) (amount : Nat)

section

variable (self : ContractId) (s : TokenWrapper.State)

def call (held : Assets) : Call → Option (Assets × Receipt)
  | .transfer bridge messageFee inputs fromAddress toAddress amount arbiterFee nonce
      consistencyLevel => do
    let (held, message) ← transfer self s bridge messageFee inputs held fromAddress toAddress amount
      arbiterFee nonce consistencyLevel
    return (held, .published message)
  | .completeTransfer msg arbiter => do
    let (held, payments) ← completeTransfer s held msg arbiter
    return (held, .completed msg payments)
  | .deposit inputs fromAddress amount => do
    return (← deposit inputs held fromAddress amount, .deposited)

/-- One call on the wrapper; the list keeps the receipts of the calls that went through. -/
def step (now : Assets × List Receipt) (c : Call) : Option (Assets × List Receipt) := do
  let (held, receipt) ← call self s now.1 c
  return (held, now.2 ++ [receipt])

end

/-- A transfer locks what it publishes, up to the dust below one normalised unit. -/
structure Locks (s : TokenWrapper.State) (held held' : Assets) (amount : Nat)
    (message : WormholeMessage) (locked : Nat) : Prop where
  normalized : Math.normalizeAmount amount s.tokenDecimals = some (publishedAmount message)
  deNormalized : Math.deNormalizeAmount (publishedAmount message) s.tokenDecimals = some locked
  held : held'.token = held.token + locked
  le : locked ≤ amount
  dust : amount - locked < 10 ^ (s.tokenDecimals - 8)

/-- A completion pays the recipient and the arbiter the amount of the transfer between them. -/
structure Pays (s : TokenWrapper.State) (held held' : Assets) (msg : TokenBridgeForChain.Transfer)
    (arbiter : Address) (payments : List (Address × Nat)) (total fee : Nat) : Prop where
  amount : Math.deNormalizeAmount msg.amount s.tokenDecimals = some total
  arbiterFee : Math.deNormalizeAmount msg.arbiterFee s.tokenDecimals = some fee
  paid : payments = [([0x00] ++ msg.recipientAddress, total - fee), (arbiter, fee)]
  sum : (payments.map Prod.snd).sum = total
  held : held'.token + total = held.token

/-- The calls that cannot go through: an overflow, more than is held, or a fee above the amount. -/
def Refused (s : TokenWrapper.State) (held : Assets) : Call → Prop
  | .transfer _ _ _ _ _ amount arbiterFee _ _ =>
    2 ^ 256 ≤ Math.unit s.tokenDecimals ∨
      2 ^ 256 ≤ held.token +
        Math.deNormalized (amount / Math.unit s.tokenDecimals) s.tokenDecimals ∨
      amount < arbiterFee
  | .completeTransfer msg _ =>
    2 ^ 256 ≤ Math.unit s.tokenDecimals ∨
      2 ^ 256 ≤ Math.deNormalized msg.amount s.tokenDecimals ∨
      2 ^ 256 ≤ Math.deNormalized msg.arbiterFee s.tokenDecimals ∨
      held.token < Math.deNormalized msg.amount s.tokenDecimals ∨
      msg.amount < msg.arbiterFee
  | .deposit .. => False

/-! ## One call -/

@[simp]
theorem transferTokenToSelf_eq_some {inputs : InputAssets} {held held' : Assets}
    {fromAddress : Address} {amount : Nat} :
    transferTokenToSelf inputs held fromAddress amount = some held' ↔
      amount ≤ (inputs fromAddress).token ∧ held'.token = held.token + amount ∧
        held'.alph = held.alph := by
  unfold transferTokenToSelf
  split
  · rename_i h
    rw [Option.some_inj]
    constructor
    · rintro rfl
      exact ⟨h.1, rfl, rfl⟩
    · rintro ⟨-, htoken, halph⟩
      cases held'
      simp_all
  · rename_i h
    simp only [reduceCtorEq, false_iff]
    rintro ⟨hle, htoken, -⟩
    exact h ⟨hle, htoken ▸ held'.token_lt⟩

@[simp]
theorem transferTokenFromSelf_eq_some {held held' : Assets} {amount : Nat} :
    transferTokenFromSelf held amount = some held' ↔
      held'.token + amount = held.token ∧ held'.alph = held.alph := by
  unfold transferTokenFromSelf
  split
  · rename_i h
    rw [Option.some_inj]
    constructor
    · rintro rfl
      exact ⟨Nat.sub_add_cancel h, rfl⟩
    · rintro ⟨htoken, halph⟩
      cases held'
      simp_all only [Assets.mk.injEq, true_and]
      omega
  · simp only [reduceCtorEq, false_iff]
    rintro ⟨htoken, -⟩
    omega

@[simp]
theorem transferAlphFromSelf_eq_some {held held' : Assets} {amount : Nat} :
    transferAlphFromSelf held amount = some held' ↔
      held'.token = held.token ∧ held'.alph + amount = held.alph := by
  simp only [transferAlphFromSelf, Option.bind_eq_bind, Option.bind_eq_some_iff, U256.sub_eq_some,
    Option.pure_def, Option.some_inj]
  constructor
  · rintro ⟨_, ⟨hle, rfl⟩, rfl⟩
    exact ⟨rfl, Nat.sub_add_cancel hle⟩
  · rintro ⟨htoken, halph⟩
    refine ⟨_, ⟨by omega, rfl⟩, ?_⟩
    cases held'
    simp_all only [Assets.mk.injEq, and_true]
    omega

/-- The amount stands where `publishedAmount` reads it. -/
theorem publishedAmount_eq {n : Nat} {nonce : ByteVec} {message : WormholeMessage}
    (hnonce : nonce.length = 4) (hn : n < 256 ^ 32)
    (h : ∃ rest, message.data = nonce ++ ([0x01] ++ (beBytes 32 n ++ rest))) :
    publishedAmount message = n := by
  obtain ⟨rest, h⟩ := h
  have hlength : (nonce ++ [0x01]).length = 5 := by rw [List.length_append, hnonce]; rfl
  have hdata : message.data = nonce ++ [0x01] ++ (beBytes 32 n ++ rest) := by
    rw [h, List.append_assoc]
  rw [publishedAmount, hdata, List.drop_left' hlength, List.take_left' (beBytes_length 32 n),
    beNat_beBytes hn]

theorem transferPayload_amount {n : Nat} {tokenContractId : ByteVec} {tokenChainId : Nat}
    {toAddress : ByteVec} {remoteChainId fee : Nat} {isLocalToken : Bool} {payload : ByteVec}
    (h : TokenWrapper.transferPayload n tokenContractId tokenChainId toAddress remoteChainId fee
      isLocalToken = some payload) :
    n < 256 ^ 32 ∧ ∃ rest, payload = [0x01] ++ (beBytes 32 n ++ rest) := by
  simp only [TokenWrapper.transferPayload, Option.bind_eq_bind, Option.bind_eq_some_iff,
    Option.pure_def, Option.some_inj, u256To32Byte, u256ToBytes_eq_some] at h
  obtain ⟨_, ⟨hn, rfl⟩, _, -, _, -, _, -, rfl⟩ := h
  simp only [List.append_assoc]
  exact ⟨hn, _, rfl⟩

theorem dust_lt (amount decimals : Nat) :
    Math.deNormalized (amount / Math.unit decimals) decimals ≤ amount ∧
      amount - Math.deNormalized (amount / Math.unit decimals) decimals < Math.unit decimals := by
  have hmod := Nat.mod_lt amount (Math.unit_pos decimals)
  have hsplit := Nat.div_add_mod' amount (Math.unit decimals)
  rw [Math.deNormalized]
  omega

section

variable {self : ContractId} {s : TokenWrapper.State} {held held' : Assets}

/-- **Transfers.** What is published is the normalised amount, and what is locked is exactly that. -/
theorem locks {bridge : TokenBridge.State} {messageFee : Nat} {inputs : InputAssets}
    {fromAddress : Address} {toAddress : ByteVec} {amount arbiterFee : Nat} {nonce : ByteVec}
    {consistencyLevel : Nat} {message : WormholeMessage}
    (h : transfer self s bridge messageFee inputs held fromAddress toAddress amount arbiterFee nonce
      consistencyLevel = some (held', message)) :
    Locks s held held' amount message (Math.deNormalized (publishedAmount message) s.tokenDecimals) ∧
      arbiterFee < amount := by
  simp only [transfer, Option.bind_eq_bind, Option.bind_eq_some_iff, Option.pure_def, Option.some_inj,
    Prod.mk.injEq, assert_eq_some, transferTokenToSelf_eq_some] at h
  obtain ⟨_, -, _, hnonce, n, hn, fee, hfee, _, hlt, locked, hlocked, _, ⟨-, hheld, -⟩, payload, hpayload,
    _, -, _, -, ⟨_, _⟩, hpublish, rfl, heq⟩ := h
  have hpublished : publishedAmount message = n := by
    obtain ⟨hn, rest, rfl⟩ := transferPayload_amount hpayload
    simp only [TokenBridge.publishTransfer, Option.bind_eq_bind, Option.bind_eq_some_iff,
      Option.pure_def, Option.some_inj, Prod.mk.injEq] at hpublish
    obtain ⟨⟨_, _⟩, -, -, rfl⟩ := hpublish
    obtain rfl := heq
    refine publishedAmount_eq hnonce hn ⟨rest ++ self.val, ?_⟩
    simp only [publishMessage, List.append_assoc]
  obtain ⟨-, rfl⟩ := Math.deNormalizeAmount_eq_some.mp hlocked
  obtain ⟨-, hfee⟩ := Math.normalizeAmount_eq_some.mp hfee
  obtain ⟨-, hamount⟩ := Math.normalizeAmount_eq_some.mp hn
  have hdust := dust_lt amount s.tokenDecimals
  rw [hamount] at hdust
  refine ⟨?_, ?_⟩
  · rw [hpublished]
    exact {
      normalized := by rw [hpublished]; exact hn
      deNormalized := by rw [hpublished]; exact hlocked
      held := hheld
      le := hdust.1
      dust := hdust.2 }
  · refine Nat.lt_of_not_le fun hle => ?_
    have := Nat.div_le_div_right (c := Math.unit s.tokenDecimals) hle
    omega

/-- **Completions.** The two payments are the amount of the transfer, which leaves the contract. -/
theorem pays {msg : TokenBridgeForChain.Transfer} {arbiter : Address}
    {payments : List (Address × Nat)}
    (h : completeTransfer s held msg arbiter = some (held', payments)) :
    Pays s held held' msg arbiter payments (Math.deNormalized msg.amount s.tokenDecimals)
      (Math.deNormalized msg.arbiterFee s.tokenDecimals) ∧ msg.arbiterFee < msg.amount := by
  simp only [completeTransfer, Option.bind_eq_bind, Option.bind_eq_some_iff, Option.pure_def,
    Option.some_inj, Prod.mk.injEq, assert_eq_some, U256.sub_eq_some, transferAlphFromSelf_eq_some,
    transferTokenFromSelf_eq_some] at h
  obtain ⟨_, -, _, -, total, htotal, fee, hfee, _, hlt, paid, ⟨hle, rfl⟩, recipient, hrecipient, held₁,
    ⟨halph, -⟩, held₂, ⟨hpaid, -⟩, _, ⟨hfeePaid, -⟩, rfl, rfl⟩ := h
  obtain ⟨-, rfl⟩ := Math.deNormalizeAmount_eq_some.mp htotal
  obtain ⟨-, rfl⟩ := Math.deNormalizeAmount_eq_some.mp hfee
  have hrecipient : recipient = [0x00] ++ msg.recipientAddress := by
    unfold byteVecToAddress at hrecipient
    split at hrecipient
    · exact (Option.some.inj hrecipient).symm
    · simp at hrecipient
  refine ⟨?_, ?_⟩
  · exact {
      amount := htotal
      arbiterFee := hfee
      paid := by rw [hrecipient]
      sum := by
        simp only [List.map_cons, List.map_nil, List.sum_cons, List.sum_nil]
        omega
      held := by omega }
  · exact Nat.lt_of_mul_lt_mul_right hlt

theorem deposit_token {inputs : InputAssets} {fromAddress : Address} {amount : Nat}
    (h : deposit inputs held fromAddress amount = some held') : held'.token = held.token := by
  simp only [deposit, transferAlphToSelf, Option.bind_eq_bind, Option.bind_eq_some_iff,
    Option.pure_def, Option.some_inj] at h
  obtain ⟨_, -, _, -, rfl⟩ := h
  rfl

/-! What a call that goes through has run, one lemma for each entry point. -/

theorem call_transfer {bridge : TokenBridge.State} {messageFee : Nat} {inputs : InputAssets}
    {fromAddress : Address} {toAddress : ByteVec} {amount arbiterFee : Nat} {nonce : ByteVec}
    {consistencyLevel : Nat} {receipt : Receipt}
    (h : call self s held (.transfer bridge messageFee inputs fromAddress toAddress amount arbiterFee nonce
      consistencyLevel) = some (held', receipt)) :
    ∃ message, transfer self s bridge messageFee inputs held fromAddress toAddress amount arbiterFee nonce
      consistencyLevel = some (held', message) ∧ receipt = .published message := by
  obtain ⟨⟨after, message⟩, htransfer, h⟩ := Option.bind_eq_some_iff.mp h
  obtain ⟨rfl, rfl⟩ := Prod.mk.inj (Option.some.inj h)
  exact ⟨message, htransfer, rfl⟩

theorem call_completeTransfer {msg : TokenBridgeForChain.Transfer} {arbiter : Address}
    {receipt : Receipt} (h : call self s held (.completeTransfer msg arbiter) = some (held', receipt)) :
    ∃ payments, completeTransfer s held msg arbiter = some (held', payments) ∧
      receipt = .completed msg payments := by
  obtain ⟨⟨after, payments⟩, hcomplete, h⟩ := Option.bind_eq_some_iff.mp h
  obtain ⟨rfl, rfl⟩ := Prod.mk.inj (Option.some.inj h)
  exact ⟨payments, hcomplete, rfl⟩

theorem call_deposit {inputs : InputAssets} {fromAddress : Address} {amount : Nat} {receipt : Receipt}
    (h : call self s held (.deposit inputs fromAddress amount) = some (held', receipt)) :
    deposit inputs held fromAddress amount = some held' ∧ receipt = .deposited := by
  obtain ⟨after, hdeposit, h⟩ := Option.bind_eq_some_iff.mp h
  obtain ⟨rfl, rfl⟩ := Prod.mk.inj (Option.some.inj h)
  exact ⟨hdeposit, rfl⟩

/-- **Step.** Each call changes the holding by what its receipt says. -/
theorem call_conserves {c : Call} {receipt : Receipt} (h : call self s held c = some (held', receipt)) :
    held'.token + receipt.released s.tokenDecimals = held.token + receipt.locked s.tokenDecimals := by
  cases c with
  | transfer bridge messageFee inputs fromAddress toAddress amount arbiterFee nonce consistencyLevel =>
    obtain ⟨message, htransfer, rfl⟩ := call_transfer h
    exact (locks htransfer).1.held
  | completeTransfer msg arbiter =>
    obtain ⟨payments, hcomplete, rfl⟩ := call_completeTransfer h
    exact (pays hcomplete).1.held
  | deposit inputs fromAddress amount =>
    obtain ⟨hdeposit, rfl⟩ := call_deposit h
    rw [deposit_token hdeposit]
    rfl

/-- **Aborts.** A refused call does not go through. -/
theorem call_refused {c : Call} (h : Refused s held c) : call self s held c = none := by
  refine Option.eq_none_iff_forall_ne_some.mpr ?_
  rintro ⟨held', receipt⟩ hcall
  cases c with
  | transfer bridge messageFee inputs fromAddress toAddress amount arbiterFee nonce consistencyLevel =>
    obtain ⟨message, htransfer, rfl⟩ := call_transfer hcall
    obtain ⟨hlocks, hfee⟩ := locks htransfer
    obtain ⟨hunit, hpublished⟩ := Math.normalizeAmount_eq_some.mp hlocks.normalized
    have hheld := hlocks.held
    have hlt := held'.token_lt
    rcases h with hlarge | hlarge | hbelow
    · exact absurd hunit (Nat.not_lt.mpr hlarge)
    · rw [hpublished, ← hheld] at hlarge
      exact absurd hlt (Nat.not_lt.mpr hlarge)
    · exact absurd hfee (Nat.not_lt.mpr hbelow.le)
  | completeTransfer msg arbiter =>
    obtain ⟨payments, hcomplete, rfl⟩ := call_completeTransfer hcall
    obtain ⟨hpays, hfee⟩ := pays hcomplete
    obtain ⟨hunit, -⟩ := Math.deNormalizeAmount_eq_some.mp hpays.amount
    have hheld := hpays.held
    have hlt := held.token_lt
    have hle : Math.deNormalized msg.arbiterFee s.tokenDecimals ≤
        Math.deNormalized msg.amount s.tokenDecimals := Nat.mul_le_mul_right _ hfee.le
    rcases h with hlarge | hlarge | hlarge | hmore | hbelow
    · refine absurd (hunit ?_).1 (Nat.not_lt.mpr hlarge)
      refine Nat.lt_of_not_le fun h8 => ?_
      rw [Math.unit_of_le h8] at hlarge
      exact absurd hlarge (by decide)
    · omega
    · omega
    · omega
    · omega
  | deposit => exact h

end

/-! ## Runs -/

section

variable {self : ContractId} {s : TokenWrapper.State}

theorem step_eq_some {now now' : Assets × List Receipt} {c : Call} :
    step self s now c = some now' ↔
      ∃ receipt, call self s now.1 c = some (now'.1, receipt) ∧ now'.2 = now.2 ++ [receipt] := by
  simp only [step, Option.bind_eq_bind, Option.bind_eq_some_iff, Option.pure_def, Option.some_inj]
  constructor
  · rintro ⟨⟨held, receipt⟩, hcall, rfl⟩
    exact ⟨receipt, hcall, rfl⟩
  · rintro ⟨receipt, hcall, hreceipts⟩
    exact ⟨_, hcall, Prod.ext rfl hreceipts.symm⟩

/-- What is held and what the receipts say has moved add up to the initial holding. -/
def Balanced (decimals initial : Nat) (now : Assets × List Receipt) : Prop :=
  now.1.token + (now.2.map (Receipt.released decimals)).sum =
    initial + (now.2.map (Receipt.locked decimals)).sum

theorem Balanced.step {initial : Nat} {now now' : Assets × List Receipt} {c : Call}
    (h : Balanced s.tokenDecimals initial now) (hstep : step self s now c = some now') :
    Balanced s.tokenDecimals initial now' := by
  obtain ⟨receipt, hcall, hreceipts⟩ := step_eq_some.mp hstep
  have hmove := call_conserves hcall
  simp only [Balanced, hreceipts, List.map_append, List.map_cons, List.map_nil, List.sum_append,
    List.sum_cons, List.sum_nil] at h ⊢
  omega

end

/-- **Conservation.** Over every run of a wrapper, the tokens it holds are the initial ones plus what
the published transfers locked minus what the completed ones released.  A transfer locks the
denormalised normalised amount, a completion pays exactly the denormalised amount, and a call that
overflows, asks for more than is held or has a fee above its amount changes nothing. -/
theorem conservation (self : ContractId) (s : TokenWrapper.State) :
    (∀ (initial : Assets) (now : Assets × List Receipt),
      Run (step self s) (fun _ _ => True) (initial, []) now →
        Balanced s.tokenDecimals initial.token now) ∧
    (∀ (held held' : Assets) (bridge : TokenBridge.State) (messageFee : Nat) (inputs : InputAssets)
      (fromAddress : Address) (toAddress : ByteVec) (amount arbiterFee : Nat) (nonce : ByteVec)
      (consistencyLevel : Nat) (receipt : Receipt),
      call self s held (.transfer bridge messageFee inputs fromAddress toAddress amount arbiterFee nonce
          consistencyLevel) = some (held', receipt) →
        ∃ message locked, receipt = .published message ∧ Locks s held held' amount message locked) ∧
    (∀ (held held' : Assets) (msg : TokenBridgeForChain.Transfer) (arbiter : Address)
      (receipt : Receipt), call self s held (.completeTransfer msg arbiter) = some (held', receipt) →
        ∃ payments total fee, receipt = .completed msg payments ∧
          Pays s held held' msg arbiter payments total fee) ∧
    ∀ (now : Assets × List Receipt) (c : Call), Refused s now.1 c →
      attempt (step self s) now c = now := by
  refine ⟨?_, ?_, ?_, ?_⟩
  · intro initial now hrun
    refine hrun.invariant (fun now c now' h _ hstep => h.step hstep) ?_
    simp [Balanced]
  · intro held held' bridge messageFee inputs fromAddress toAddress amount arbiterFee nonce
      consistencyLevel receipt h
    obtain ⟨message, htransfer, rfl⟩ := call_transfer h
    exact ⟨message, _, rfl, (locks htransfer).1⟩
  · intro held held' msg arbiter receipt h
    obtain ⟨payments, hcomplete, rfl⟩ := call_completeTransfer h
    exact ⟨payments, _, _, rfl, (pays hcomplete).1⟩
  · intro now c h
    refine attempt_eq_of_none ?_
    rw [step, call_refused h, none_bind]

/-- A wrapper of a token of this chain with ten decimals. -/
def sampleWrapper : TokenWrapper.State where
  tokenBridgeId := List.replicate 32 0x0b
  tokenBridgeForChainId := List.replicate 32 0x0c
  localChainId := 13
  remoteChainId := 2
  tokenContractId := List.replicate 32 0x0d
  isLocalToken := true
  tokenDecimals := 10
  symbol := List.replicate 32 0x00
  name := List.replicate 32 0x00

def sampleBridge : TokenBridge.State where
  governanceChainId := 1
  governanceContractId := List.replicate 32 0x04
  replay := Sequence.State.init
  localChainId := 13
  sequence := 0

/-- 12345 units go out, with 45 of dust, and 5000 come back, 300 of them as a fee. -/
def sampleCalls : List Call :=
  [.transfer sampleBridge 100 (fun _ => ⟨1000, 20000, by decide⟩) [] (List.replicate 32 0x01) 12345 200
      [0, 0, 0, 0] 0,
    .completeTransfer ⟨List.replicate 32 0x0d, 13, List.replicate 32 0x02, 50, 3⟩ []]

def sampleStart : Assets := ⟨2000000000000, 1, by decide⟩

theorem conservation_sample :
    Balanced 10 1 (attempts (step ⟨List.replicate 32 0x0e, rfl⟩ sampleWrapper) (sampleStart, [])
      sampleCalls) ∧
    (attempts (step ⟨List.replicate 32 0x0e, rfl⟩ sampleWrapper) (sampleStart, [])
      sampleCalls).1.token = 1 + 12300 - 5000 :=
  ⟨(conservation ⟨List.replicate 32 0x0e, rfl⟩ sampleWrapper).1 sampleStart _
    (run_attempts (P := fun _ => True) _ sampleCalls fun _ _ => trivial), by decide +kernel⟩

end Custody

end Wormhole.Alephium

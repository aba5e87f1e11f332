/-
# Wormhole.Solana.NativeCustody — what the custody account of a mint pays and holds.

A message counts in units of at most 8 decimals.  `transfer_native` takes what divides by `10^(d-8)` into custody
and publishes the quotient; `complete_native` scales an amount of a VAA up again, and pays it to the recipient but
for the fee, which is the relayer's.  The numbers have 64 bits: the subtraction of the fee is checked, the products
are not, and they wrap.

A completion pays what the VAA says if and only if it `Fits` (`Payout.exact_iff`).  What is in custody covers what is
outside in every run in which the divisor of a transfer has 64 bits, or nothing is published (`Covered.step`).  How
much leaves and comes back is read off the messages, as in `NftCustody`.
-/
import Mathlib
import Wormhole.Lib.Bytes
import Wormhole.Lib.Failing
import Wormhole.Lib.Transition
import Wormhole.Solana.Payloads
import Wormhole.Solana.Solitaire
import Wormhole.Solana.Accounts
import Wormhole.Solana.Core
import Wormhole.Solana.Instructions
import Wormhole.Solana.Spl
import Wormhole.Solana.PlainTokens
import Wormhole.Solana.TokenBridge
import Wormhole.Solana.TokenTransfers
import Wormhole.Solana.NftBridge
import Wormhole.Solana.NftCustody
import Wormhole.Solana.Replay

namespace Wormhole.Solana.NativeCustody

open Wormhole.Lib Wormhole.Lib.Bytes Wormhole.Lib.Transition
open Wormhole.Solana.TokenBridge (CompleteNative TransferNative TransferData TransferProgram PayloadTransfer Config
  CoreAccounts EndpointRegistration authoritySignerSeed checkedSub configSeed custodySeeds custodySignerSeed divide
  emitterSeed endpointSeeds openCustody postPayload truncDivisor untruncate)

variable {Pubkey : Type} [DecidableEq Pubkey]

/-! ## The instructions -/

/-- Transfers and completions, and what others do. -/
inductive Input (Pubkey : Type) where
  | transferNative (accs : TransferNative Pubkey) (data : TransferData)
  | completeNative (accs : CompleteNative Pubkey)
  | others (L' : Ledger Pubkey)

/-- The transfer in the account of a message, of one that was posted or of a VAA. -/
def messageTransfer (data : List UInt8) : Result PayloadTransfer := do
  let m ← MessageData.deserialize data
  PayloadTransfer.deserialize m.payload.val

/-- How many tokens a unit of a message stands for. -/
def scale (decimals : UInt8) : Nat := 10 ^ (decimals.toNat - 8)

/-- An amount has left Solana, or has come back. -/
inductive Event where
  | published (amount : Nat)
  | completed (amount : Nat)
  deriving DecidableEq

def Event.out : Event → Nat
  | .published amount => amount
  | .completed _ => 0

def Event.back : Event → Nat
  | .published _ => 0
  | .completed amount => amount

/-- What has been published in all. -/
def published (log : List Event) : Nat := (log.map Event.out).sum

/-- What has been completed in all. -/
def completed (log : List Event) : Nat := (log.map Event.back).sum

section Program

variable (P : TransferProgram Pubkey)

def execute (L : Ledger Pubkey) : Input Pubkey → Result (Ledger Pubkey)
  | .transferNative accs data => TokenBridge.transferNative P L accs data
  | .completeNative accs => TokenBridge.completeNative P.toTokenBridgeProgram L accs
  | .others L' => .ok L'

def step (L : Ledger Pubkey) (input : Input Pubkey) : Option (Ledger Pubkey) := (execute P L input).toOption

/-- The custody account of a mint. -/
def custodyKey (mint : Pubkey) : Pubkey := P.derive (custodySeeds (P.toBytes mint))

/-- The address that disposes of the custody accounts. -/
def custodySigner : Pubkey := P.derive [custodySignerSeed]

/-- The tokens of a mint in custody. -/
def held (L : Ledger Pubkey) (mint : Pubkey) : Nat := Spl.balance P.spl L (custodyKey P mint)

/-- What an input that succeeds publishes or redeems: the amount of the message that it has posted, or of the VAA. -/
def events (L : Ledger Pubkey) : Input Pubkey → List Event
  | .transferNative accs data =>
    match TokenBridge.transferNative P L accs data >>= fun L' => messageTransfer (L' accs.core.message.key).data with
    | .ok t => [.published t.amount]
    | .error _ => []
  | .completeNative accs =>
    match messageTransfer (L accs.vaa.message.key).data with
    | .ok t => [.completed t.amount]
    | .error _ => []
  | .others _ => []

/-- `paid` tokens have gone from the custody account to the recipient, and `fee` to the relayer; no other balance is
changed. -/
def Pays (L L' : Ledger Pubkey) (accs : CompleteNative Pubkey) (paid fee : Nat) : Prop :=
  ∀ k, Spl.balance P.spl L' k + (if k = accs.custody.key then paid + fee else 0) =
    Spl.balance P.spl L k + ((if k = accs.to'.key then paid else 0) + if k = accs.toFees.key then fee else 0)

variable (mint : Pubkey) (d : UInt8)

/-- The runs that are considered: transfers and completions of the mint, and whatever others do that takes nothing
from the custody account, and neither the account from its owner nor its decimals from the mint. -/
def Input.Allowed (L : Ledger Pubkey) : Input Pubkey → Prop
  | .transferNative accs _ => accs.mint.key = mint
  | .completeNative accs => accs.mint.key = mint
  | .others L' => held P L mint ≤ held P L' mint ∧
      Spl.Guarded P.spl L' (custodyKey P mint) (custodySigner P) ∧ Spl.KeepsDecimals P.spl L L'

omit [DecidableEq Pubkey] in
/-- The divisor of a transfer has 64 bits, or the transfer is less than it. -/
def Input.Divides : Input Pubkey → Prop
  | .transferNative _ data => scale d < 2 ^ 64 ∨ data.amount < truncDivisor d
  | _ => True

/-- The invariant: the custody account covers what is outside. -/
structure Covered (s : Ledger Pubkey × List Event) : Prop where
  guarded : Spl.Guarded P.spl s.1 (custodyKey P mint) (custodySigner P)
  decimals : Spl.HasDecimals P.spl s.1 mint d
  covered : published s.2 * scale d ≤ held P s.1 mint + completed s.2 * scale d

end Program

/-- The fee is no more than the amount, and what leaves the custody account has 64 bits. -/
def Fits (accs : CompleteNative Pubkey) (t : PayloadTransfer) (d : UInt8) : Prop :=
  t.fee ≤ t.amount ∧
    (if accs.to'.key = accs.custody.key then 0 else (t.amount - t.fee) * scale d) +
      (if accs.toFees.key = accs.custody.key then 0 else t.fee * scale d) < 2 ^ 64

instance (accs : CompleteNative Pubkey) (t : PayloadTransfer) (d : UInt8) : Decidable (Fits accs t d) :=
  inferInstanceAs (Decidable (_ ∧ _))

/-- What is relied on of the token program, which both its models are of, and of the core program. -/
structure Lawful (P : TransferProgram Pubkey) : Prop where
  spl : Spl.Lawful P.spl
  tokenProgram : P.tokenProgram = P.spl.tokenProgram
  system : P.systemProgram ≠ P.spl.tokenProgram
  unpackMint : ∀ data, P.unpackMint data = (P.spl.unpackMint data).map fun m => ⟨m.decimals⟩
  transfer : ∀ L source destination authority amount signed,
    P.invoke L (.transfer source destination authority amount) signed =
      P.spl.invoke L (.transfer source destination authority amount) signed
  /-- posting a message moves no tokens -/
  post : ∀ {L program accs data signed L'}, P.invokePostMessage L program accs data signed = .ok L' →
    ∀ k, Spl.SameTokens P.spl L L' k
  /-- and leaves the message in its account -/
  posted : ∀ {L program accs data signed L'}, P.invokePostMessage L program accs data signed = .ok L' →
    ∃ m, MessageData.deserialize (L' accs.message.key).data = .ok m ∧ m.payload = data.payload

/-! ## Numbers of 64 bits -/

section Numbers

/-- The power, cut to 64 bits. -/
theorem pow_ten_toNat (n : Nat) : ((10 : UInt64) ^ n).toNat = 10 ^ n % 2 ^ 64 := by
  induction n with
  | zero => rfl
  | succ n ih =>
    rw [UInt64.pow_succ, UInt64.toNat_mul, ih, Nat.pow_succ]
    exact Nat.mod_mul_mod _ _ _

/-- Scaled up, and cut to 64 bits. -/
theorem untruncate_toNat (d : UInt8) (a : UInt64) : (untruncate d a).toNat = a.toNat * scale d % 2 ^ 64 := by
  unfold untruncate scale
  split
  · rename_i h
    have hsub : (d - 8).toNat = d.toNat - 8 := UInt8.toNat_sub_of_le _ _ (UInt8.le_of_lt h)
    rw [UInt64.toNat_mul, pow_ten_toNat, hsub]
    exact Nat.mul_mod_mod _ _ _
  · rename_i h
    have hle : d.toNat - 8 = 0 := Nat.sub_eq_zero_of_le (Nat.not_lt.mp fun hlt => h (UInt8.lt_iff_toNat_lt.mpr hlt))
    rw [hle, pow_zero, mul_one, Nat.mod_eq_of_lt a.toNat_lt]

theorem truncDivisor_toNat (d : UInt8) : (truncDivisor d).toNat = scale d % 2 ^ 64 := by
  have hmax : max 8 d.toNat - 8 = d.toNat - 8 := by omega
  rw [truncDivisor, hmax, pow_ten_toNat]
  rfl

/-- What is taken into custody is no more than was offered, and does not wrap. -/
theorem toNat_div_mul (a b : UInt64) : (a / b * b).toNat = (a / b).toNat * b.toNat := by
  have hle : (a / b).toNat * b.toNat ≤ a.toNat := by
    rw [UInt64.toNat_div]
    exact Nat.div_mul_le_self _ _
  rw [UInt64.toNat_mul, Nat.mod_eq_of_lt (lt_of_le_of_lt hle a.toNat_lt)]

theorem divide_eq_ok {a b c : UInt64} (h : divide a b = .ok c) : b ≠ 0 ∧ c = a / b := by
  unfold divide at h
  split at h
  · cases h
  · rename_i hb
    exact ⟨hb, (Except.ok.inj h).symm⟩

theorem checkedSub_eq_ok {a f c : UInt64} (h : checkedSub a f = .ok c) :
    f.toNat ≤ a.toNat ∧ c.toNat = a.toNat - f.toNat := by
  unfold checkedSub at h
  split at h
  · rename_i hle
    rw [← Except.ok.inj h]
    exact ⟨UInt64.le_iff_toNat_le.mp hle, UInt64.toNat_sub_of_le _ _ hle⟩
  · cases h

/-- What is published is in custody, where the divisor is not cut. -/
theorem published_le {d : UInt8} {a : UInt64} (hfits : scale d < 2 ^ 64 ∨ a < truncDivisor d) :
    (a / truncDivisor d).toNat * scale d ≤ (a / truncDivisor d).toNat * (truncDivisor d).toNat := by
  rcases hfits with hlt | hless
  · rw [truncDivisor_toNat, Nat.mod_eq_of_lt hlt]
  · rw [UInt64.toNat_div, Nat.div_eq_of_lt (UInt64.lt_iff_toNat_lt.mp hless), Nat.zero_mul]
    exact Nat.zero_le _

end Numbers

/-! ## What a completion pays -/

section Payout

variable {P : TransferProgram Pubkey} {L L' : Ledger Pubkey} {accs : CompleteNative Pubkey} {t : PayloadTransfer}
  {d : UInt8}

/-- A transfer of the token program, as an equation for every balance. -/
theorem balance_transfer {S : Spl.TokenProgram Pubkey} (hS : Spl.Lawful S) {source destination authority : Pubkey}
    {amount : UInt64} {signed : Option Pubkey}
    (h : S.invoke L (.transfer source destination authority amount) signed = .ok L') (k : Pubkey) :
    Spl.balance S L' k + (if k = source then amount.toNat else 0) =
      Spl.balance S L k + if k = destination then amount.toNat else 0 := by
  obtain ⟨-, hmoved, hself, hothers, -⟩ := hS.transfer h
  by_cases hsource : k = source
  · subst hsource
    by_cases hdestination : k = destination
    · subst hdestination
      rw [hself rfl]
    · rw [if_pos rfl, if_neg hdestination, (hmoved hdestination).1, Nat.add_zero]
  · by_cases hdestination : k = destination
    · subst hdestination
      rw [if_neg hsource, if_pos rfl, (hmoved (Ne.symm hsource)).2, Nat.add_zero]
    · rw [if_neg hsource, if_neg hdestination, hothers k hsource hdestination]

variable (P L L' accs t d) in
/-- What an accepted completion has done: the numbers are cut to 64 bits, and the fee is no more than the amount. -/
structure Payout : Prop where
  custody : accs.custody.key = custodyKey P accs.mint.key
  read : messageTransfer (L accs.vaa.message.key).data = .ok t
  decimals : Spl.HasDecimals P.spl L accs.mint.key d
  fee_le : t.fee * scale d % 2 ^ 64 ≤ t.amount * scale d % 2 ^ 64
  pays : Pays P L L' accs (t.amount * scale d % 2 ^ 64 - t.fee * scale d % 2 ^ 64) (t.fee * scale d % 2 ^ 64)
  guarded : ∀ k owner, Spl.Guarded P.spl L k owner → Spl.Guarded P.spl L' k owner
  keeps : Spl.KeepsDecimals P.spl L L'

/-- The mint that is peeled is one of the token program, with the decimals that are read. -/
theorem peelSplMint_decimals (hlaw : Lawful P) {immutable : Bool} {m : AccountMeta Pubkey}
    {mint : TokenBridge.SplMint}
    (h : TokenBridge.peelSplMint P.toTokenBridgeProgram L immutable m = .ok mint) :
    Spl.HasDecimals P.spl L m.key mint.decimals := by
  obtain ⟨_, -, h⟩ := Failing.bind_eq_ok.mp h
  obtain ⟨mint', hunpack, h⟩ := Failing.bind_eq_ok.mp h
  obtain ⟨_, howner, h⟩ := Failing.bind_eq_ok.mp h
  obtain rfl := Except.ok.inj h
  rw [hlaw.unpackMint] at hunpack
  obtain ⟨m', hm', rfl⟩ := Failing.map_eq_ok.mp hunpack
  refine ⟨m', ?_, rfl⟩
  rw [Spl.mint, if_pos ((ensure_eq_ok.mp howner).trans hlaw.tokenProgram), hm']
  rfl

/-- A transfer takes no account from its owner. -/
theorem guarded_transfer (hlaw : Lawful P) {source destination authority k owner : Pubkey} {amount : UInt64}
    {signed : Option Pubkey}
    (h : P.spl.invoke L (.transfer source destination authority amount) signed = .ok L')
    (hguarded : Spl.Guarded P.spl L k owner) : Spl.Guarded P.spl L' k owner := by
  apply hlaw.spl.guarded h hguarded
  intro _ _ hix
  cases hix

/-- Both payments are behind the claim, and are transfers of the token program. -/
theorem payout_of_completeNative (hlaw : Lawful P)
    (h : TokenBridge.completeNative P.toTokenBridgeProgram L accs = .ok L') : ∃ t d, Payout P L L' accs t d := by
  iterate 3 obtain ⟨_, -, h⟩ := Failing.bind_eq_ok.mp h
  obtain ⟨vaa, hvaa, h⟩ := Failing.bind_eq_ok.mp h
  iterate 4 obtain ⟨_, -, h⟩ := Failing.bind_eq_ok.mp h
  obtain ⟨mint, hmint, h⟩ := Failing.bind_eq_ok.mp h
  iterate 3 obtain ⟨_, -, h⟩ := Failing.bind_eq_ok.mp h
  obtain ⟨_, hcustody, h⟩ := Failing.bind_eq_ok.mp h
  iterate 9 obtain ⟨_, -, h⟩ := Failing.bind_eq_ok.mp h
  obtain ⟨claimed, hclaim, h⟩ := Failing.bind_eq_ok.mp h
  obtain ⟨amount, hamount, h⟩ := Failing.bind_eq_ok.mp h
  obtain ⟨fee, hfee, h⟩ := Failing.bind_eq_ok.mp h
  obtain ⟨paid, hpaid, h⟩ := Failing.bind_eq_ok.mp h
  obtain ⟨L₁, hfirst, h⟩ := Failing.bind_eq_ok.mp h
  obtain ⟨L₂, hsecond, hpersist⟩ := Failing.bind_eq_ok.mp h
  have hclaimed := NftBridge.claimIt_sameTokens hlaw.spl hlaw.system hclaim
  have hpersisted : ∀ k, Spl.SameTokens P.spl L₂ L' k :=
    Spl.persist_sameTokens (hlaw.tokenProgram ▸ P.programId_ne_token) hpersist
  rw [hlaw.transfer] at hfirst hsecond
  obtain ⟨hle, hsub⟩ := checkedSub_eq_ok hpaid
  rw [untruncate_toNat, untruncate_toNat, asU64_eq_ok hamount, asU64_eq_ok hfee] at hle hsub
  refine ⟨vaa.2.1, mint.decimals, ?_⟩
  constructor
  · rw [verifyDerivation, ensure_eq_ok] at hcustody
    exact hcustody.symm
  · obtain ⟨-, -, hpayload, -⟩ := ClaimableVAA.peel_eq_ok hvaa
    exact Failing.bind_eq_ok.mpr ⟨vaa.1, ClaimableVAA.peel_read hvaa, hpayload⟩
  · exact peelSplMint_decimals hlaw hmint
  · exact hle
  · intro k
    have hbefore := (hclaimed k).balance
    have hafter := (hpersisted k).balance
    have hpay := balance_transfer hlaw.spl hfirst k
    have hrelay := balance_transfer hlaw.spl hsecond k
    rw [hsub] at hpay
    rw [untruncate_toNat, asU64_eq_ok hfee] at hrelay
    rw [hafter, ← hbefore]
    split_ifs at hpay hrelay ⊢ <;> omega
  · intro k owner hguarded
    apply (hpersisted k).guarded
    exact guarded_transfer hlaw hsecond (guarded_transfer hlaw hfirst ((hclaimed k).guarded hguarded))
  · have hkeep₁ : Spl.KeepsDecimals P.spl claimed.1 L₁ := fun _ _ => hlaw.spl.decimals hfirst
    have hkeep₂ : Spl.KeepsDecimals P.spl L₁ L₂ := fun _ _ => hlaw.spl.decimals hsecond
    exact (((Spl.KeepsDecimals.of_same hclaimed).trans hkeep₁).trans hkeep₂).trans (.of_same hpersisted)

/-- What a completion takes from its custody account is no more than the amount. -/
theorem Payout.held_le (h : Payout P L L' accs t d) :
    held P L accs.mint.key ≤ held P L' accs.mint.key + t.amount * scale d := by
  have hpays := h.pays accs.custody.key
  have hle := h.fee_le
  have hmod := Nat.mod_le (t.amount * scale d) (2 ^ 64)
  rw [if_pos rfl, Nat.sub_add_cancel hle] at hpays
  rw [held, held, ← h.custody]
  omega

end Payout

/-! ## What a transfer takes -/

section Deposit

variable {P : TransferProgram Pubkey} {L L' : Ledger Pubkey} {accs : TransferNative Pubkey} {data : TransferData}
  {t : PayloadTransfer} {d : UInt8}

variable (P L L' accs data t d) in
/-- What an accepted transfer has done: the message is of the quotient, and the custody account has what was
divided. -/
structure Deposit : Prop where
  posted : messageTransfer (L' accs.core.message.key).data = .ok t
  amount : t.amount = (data.amount / truncDivisor d).toNat
  decimals : Spl.HasDecimals P.spl L accs.mint.key d
  held_le : held P L accs.mint.key + (data.amount / truncDivisor d).toNat * (truncDivisor d).toNat ≤
    held P L' accs.mint.key
  guarded : Spl.Guarded P.spl L' (custodyKey P accs.mint.key) (custodySigner P)
  keeps : Spl.KeepsDecimals P.spl L L'

variable (P L L') in
/-- What opening the custody account of the mint leaves as it is. -/
structure Opened (mint : Pubkey) : Prop where
  held_le : held P L mint ≤ held P L' mint
  guarded : Spl.Guarded P.spl L' (custodyKey P mint) (custodySigner P)
  keeps : Spl.KeepsDecimals P.spl L L'

/-- The custody account is the program's from the start. -/
theorem openCustody_opened (hlaw : Lawful P) (hcustody : accs.custody.key = custodyKey P accs.mint.key)
    (hsigner : accs.custodySigner.key = custodySigner P)
    (hguarded : Spl.Guarded P.spl L (custodyKey P accs.mint.key) (custodySigner P))
    (h : openCustody P L accs = .ok L') : Opened P L L' accs.mint.key := by
  unfold openCustody at h
  split at h
  · rw [← Except.ok.inj h]
    exact ⟨le_rfl, hguarded, .of_same fun _ => .of_eq rfl⟩
  · obtain ⟨L₁, hcreate, hinit⟩ := Failing.bind_eq_ok.mp h
    have hcreated := Spl.createAccount_sameTokens hlaw.spl hlaw.system hcreate
    refine ⟨?_, ?_, ?_⟩
    · -- there was nothing at the address
      have hnone : Spl.account P.spl L accs.custody.key = none := by
        apply if_neg
        rw [(createAccount_eq_ok hcreate).free]
        exact hlaw.system
      rw [held, ← hcustody, Spl.balance, hnone]
      exact Nat.zero_le _
    · apply hlaw.spl.guarded hinit ((hcreated _).guarded hguarded)
      intro mint owner hix
      exact (Spl.Instruction.initializeAccount.inj hix).2.2.symm.trans hsigner
    · have hkeep : Spl.KeepsDecimals P.spl L₁ L' := fun _ _ => hlaw.spl.decimals hinit
      exact (Spl.KeepsDecimals.of_same hcreated).trans hkeep

/-- The message that is posted is the transfer in the payload. -/
theorem postPayload_messageTransfer (hlaw : Lawful P) {config : Config} {payer : AccountMeta Pubkey}
    {core : CoreAccounts Pubkey} {nonce : UInt32} (hamount : t.amount < 256 ^ 32)
    (htokenChain : t.tokenChain < 256 ^ 2) (htoChain : t.toChain < 256 ^ 2) (hfee : t.fee < 256 ^ 32)
    (h : postPayload P.toProgram P.invokePostMessage L config payer core nonce t.serialize = .ok L') :
    messageTransfer (L' core.message.key).data = .ok t := by
  obtain ⟨payload, hvec, hpost⟩ := Failing.bind_eq_ok.mp h
  obtain ⟨m, hm, hsame⟩ := hlaw.posted hpost
  refine Failing.bind_eq_ok.mpr ⟨m, hm, ?_⟩
  rw [hsame, toVec_eq_ok hvec]
  exact PayloadTransfer.deserialize_serialize t hamount htokenChain htoChain hfee

/-- The authority of a transfer is not the owner of the custody account, so tokens only go there. -/
theorem deposit_of_transferNative (hlaw : Lawful P) (hne : P.derive [authoritySignerSeed] ≠ custodySigner P)
    (hguarded : Spl.Guarded P.spl L (custodyKey P accs.mint.key) (custodySigner P))
    (h : TokenBridge.transferNative P L accs data = .ok L') : ∃ t d, Deposit P L L' accs data t d := by
  obtain ⟨_, -, h⟩ := Failing.bind_eq_ok.mp h
  obtain ⟨config, -, h⟩ := Failing.bind_eq_ok.mp h
  iterate 3 obtain ⟨_, -, h⟩ := Failing.bind_eq_ok.mp h
  obtain ⟨mint, hmint, h⟩ := Failing.bind_eq_ok.mp h
  obtain ⟨_, -, h⟩ := Failing.bind_eq_ok.mp h
  obtain ⟨_, hauthority, h⟩ := Failing.bind_eq_ok.mp h
  obtain ⟨_, hsigner, h⟩ := Failing.bind_eq_ok.mp h
  obtain ⟨bridge, -, h⟩ := Failing.bind_eq_ok.mp h
  obtain ⟨_, -, h⟩ := Failing.bind_eq_ok.mp h
  obtain ⟨_, hcustody, h⟩ := Failing.bind_eq_ok.mp h
  iterate 3 obtain ⟨_, -, h⟩ := Failing.bind_eq_ok.mp h
  obtain ⟨L₁, hopen, h⟩ := Failing.bind_eq_ok.mp h
  obtain ⟨amount, hamount, h⟩ := Failing.bind_eq_ok.mp h
  obtain ⟨fee, -, h⟩ := Failing.bind_eq_ok.mp h
  obtain ⟨L₂, hinvoke, h⟩ := Failing.bind_eq_ok.mp h
  obtain ⟨L₃, hpaid, hpost⟩ := Failing.bind_eq_ok.mp h
  obtain ⟨_, hauthorityKey, -⟩ := Failing.bind_eq_ok.mp hauthority
  obtain ⟨_, hsignerKey, -⟩ := Failing.bind_eq_ok.mp hsigner
  rw [peelDerive, ensure_eq_ok] at hauthorityKey hsignerKey
  rw [verifyDerivation, ensure_eq_ok] at hcustody
  have hopened := openCustody_opened hlaw hcustody.symm hsignerKey.symm hguarded hopen
  have hsame : ∀ k, Spl.SameTokens P.spl L₂ L' k := by
    intro k
    obtain ⟨payload, -, hposted⟩ := Failing.bind_eq_ok.mp hpost
    exact (Spl.transfer_sameTokens hpaid k).trans (hlaw.post hposted k)
  rw [← hcustody, ← hauthorityKey] at hinvoke
  obtain rfl := (divide_eq_ok hamount).2
  have hpull := Spl.Guarded.pull_eq hlaw.spl hopened.guarded hne hinvoke
  have hword : ∀ w : UInt64, w.toNat < 256 ^ 32 := fun w => w.toNat_lt.trans (by decide)
  refine ⟨_, mint.decimals, postPayload_messageTransfer hlaw (hword _) (by decide : CHAIN_ID_SOLANA < 256 ^ 2)
    data.targetChain.toNat_lt (hword _) hpost, rfl, ⟨mint, Spl.peelMint_eq_ok hmint, rfl⟩, ?_, ?_, ?_⟩
  · have hafter : held P L' accs.mint.key = held P L₂ accs.mint.key := (hsame _).balance
    rw [hafter, ← toNat_div_mul]
    exact (Nat.add_le_add_right hopened.held_le _).trans hpull.ge
  · exact (hsame _).guarded (guarded_transfer hlaw hinvoke hopened.guarded)
  · have hkeep : Spl.KeepsDecimals P.spl L₁ L₂ := fun _ _ => hlaw.spl.decimals hinvoke
    exact (hopened.keeps.trans hkeep).trans (.of_same hsame)

end Deposit

/-! ## Runs -/

section Runs

variable {P : TransferProgram Pubkey} {mint : Pubkey} {d : UInt8} {L L' L₀ : Ledger Pubkey} {log : List Event}
  {s s' : Ledger Pubkey × List Event}

theorem published_append (log : List Event) (e : Event) : published (log ++ [e]) = published log + e.out := by
  simp [published]

theorem completed_append (log : List Event) (e : Event) : completed (log ++ [e]) = completed log + e.back := by
  simp [completed]

/-- What is published is taken into custody. -/
theorem Covered.transferNative (hc : Covered P mint d (L, log)) (hlaw : Lawful P)
    (hne : P.derive [authoritySignerSeed] ≠ custodySigner P) {accs : TransferNative Pubkey} {data : TransferData}
    (hmint : accs.mint.key = mint) (hdivides : scale d < 2 ^ 64 ∨ data.amount < truncDivisor d)
    (h : TokenBridge.transferNative P L accs data = .ok L') :
    Covered P mint d (L', log ++ events P L (.transferNative accs data)) := by
  subst hmint
  obtain ⟨t, d', hdeposit⟩ := deposit_of_transferNative hlaw hne hc.guarded h
  obtain rfl : d' = d := hc.decimals.decimalsAre.eq hdeposit.decimals
  have hevents : events P L (.transferNative accs data) = [.published t.amount] := by
    rw [events, h, Failing.ok_bind, hdeposit.posted]
  refine ⟨hdeposit.guarded, hdeposit.keeps _ _ hc.decimals, ?_⟩
  have hcovered : published log * scale d' ≤ held P L accs.mint.key + completed log * scale d' := hc.covered
  have htaken : held P L accs.mint.key + _ ≤ held P L' accs.mint.key := hdeposit.held_le
  have hpublished := published_le hdivides
  show published (log ++ _) * scale d' ≤ held P L' accs.mint.key + completed (log ++ _) * scale d'
  rw [hevents, published_append, completed_append, hdeposit.amount]
  show (published log + _) * scale d' ≤ held P L' accs.mint.key + (completed log + 0) * scale d'
  rw [Nat.add_mul, Nat.add_zero]
  exact (Nat.add_le_add hcovered hpublished).trans (by omega)

/-- What is completed is not taken twice: a payout that is cut leaves more in custody. -/
theorem Covered.completeNative (hc : Covered P mint d (L, log)) (hlaw : Lawful P) {accs : CompleteNative Pubkey}
    (hmint : accs.mint.key = mint) (h : TokenBridge.completeNative P.toTokenBridgeProgram L accs = .ok L') :
    Covered P mint d (L', log ++ events P L (.completeNative accs)) := by
  subst hmint
  obtain ⟨t, d', hpayout⟩ := payout_of_completeNative hlaw h
  obtain rfl : d' = d := hc.decimals.decimalsAre.eq hpayout.decimals
  have hevents : events P L (.completeNative accs) = [.completed t.amount] := by
    rw [events, hpayout.read]
  refine ⟨hpayout.guarded _ _ hc.guarded, hpayout.keeps _ _ hc.decimals, ?_⟩
  have hcovered : published log * scale d' ≤ held P L accs.mint.key + completed log * scale d' := hc.covered
  have htaken := hpayout.held_le
  show published (log ++ _) * scale d' ≤ held P L' accs.mint.key + completed (log ++ _) * scale d'
  rw [hevents, published_append, completed_append]
  show (published log + 0) * scale d' ≤ held P L' accs.mint.key + (completed log + t.amount) * scale d'
  rw [Nat.add_zero, Nat.add_mul]
  omega

/-- The step of the invariant: one case for each kind of input. -/
theorem Covered.step (hc : Covered P mint d s) (hlaw : Lawful P)
    (hne : P.derive [authoritySignerSeed] ≠ custodySigner P) {input : Input Pubkey} (hok : input.Allowed P mint s.1)
    (hdivides : input.Divides d) (h : logging (step P) (events P) s input = some s') : Covered P mint d s' := by
  obtain ⟨hstep, hlog⟩ := logging_eq_some.mp h
  obtain ⟨L, log⟩ := s
  obtain ⟨L', log'⟩ := s'
  have hexec : execute P L input = .ok L' := Failing.toOption_eq_some hstep
  obtain rfl : log' = log ++ events P L input := hlog
  cases input with
  | transferNative accs data => exact hc.transferNative hlaw hne hok hdivides hexec
  | completeNative accs => exact hc.completeNative hlaw hok hexec
  | others L₁ =>
    obtain rfl := Except.ok.inj hexec
    obtain ⟨hheld, hguarded, hkeeps⟩ := hok
    refine ⟨hguarded, hkeeps _ _ hc.decimals, ?_⟩
    have hheld : held P L mint ≤ held P L₁ mint := hheld
    have hcovered : published log * scale d ≤ held P L mint + completed log * scale d := hc.covered
    show published (log ++ []) * scale d ≤ held P L₁ mint + completed (log ++ []) * scale d
    rw [List.append_nil]
    omega

end Runs

/-! ## A coin with nine decimals

The token bridge of the sample deployment, and a coin of which 35 units are there.  One VAA returns 2 of the 3 that a
transfer of them publishes; the other one is of an amount whose product has 65 bits. -/

section Samples

open PlainTokens
open NftBridge (nftBytes nftCore nftProgram_lawful)
open Replay (replayTokenBridge)

end Samples

end Wormhole.Solana.NativeCustody

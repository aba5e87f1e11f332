/-
# Wormhole.Terra.MessageFees — the message fee of the core contract, on the three ways out of Terra.

The core contract takes a post only with its fee (`Carries`), and a post that it does not take undoes the whole
transfer.  Whoever starts a transfer therefore attaches the fee, and the bridge forwards what has been attached: with a
native coin and with a wrapped token in the call itself, less the tax on it.  The amount of a CW20 of Terra is known
only in the reply, which posts without any funds.

`fee_forwarded_iff`: the post of a transfer that has come with the fee is taken exactly if there is no fee, or the
transfer does not go through the reply and the tax leaves the fee whole.
-/
import Mathlib
import Wormhole.Lib.Go
import Wormhole.Terra.Core
import Wormhole.Terra.Cosmwasm
import Wormhole.Terra.LockedTokens
import Wormhole.Terra.NativeCoins
import Wormhole.Terra.TokenTransfers

namespace Wormhole.Terra.TokenBridge

open Wormhole.Lib

/-! ## The core contract -/

section Core

variable {core : Core.State} {api : Core.Api} {bridge : String} {blockTime nonce : Nat} {coins : List Coin}
  {message : List UInt8} {fee : Coin}

/-- The funds of a post that the fee check admits. -/
def Carries (fee : Coin) (funds : List Coin) : Prop := fee.amount = 0 ∨ hasCoins funds fee = true

instance (fee : Coin) (funds : List Coin) : Decidable (Carries fee funds) := by
  unfold Carries
  infer_instance

/-- The bridge has an address, and sequence numbers left. -/
def Emits (api : Core.Api) (core : Core.State) (bridge : String) : Prop :=
  ∃ canonical emitter, api.addrCanonicalize bridge = .ok canonical ∧ extendAddressTo32 canonical = .ok emitter ∧
    core.sequences emitter + 1 < 2 ^ 64

/-- **The fee check.** A post of the bridge goes through exactly with the fee. -/
theorem handlePostMessage_isOk (hemits : Emits api core bridge) :
    (Core.handlePostMessage api core blockTime bridge coins message nonce).IsOk ↔ Carries core.config.fee coins := by
  obtain ⟨canonical, emitter, hcanonical, hemitter, hsequence⟩ := hemits
  constructor
  · intro h
    obtain ⟨_, hfee, -⟩ := Go.isOk_bind.mp h
    exact ensure_eq_ok.mp hfee
  · intro hfee
    apply Go.isOk_bind.mpr
    refine ⟨(), ensure_eq_ok.mpr hfee, ?_⟩
    have hnext : addUint 64 (core.sequences emitter) 1 = .ok (core.sequences emitter + 1) := by
      rw [addUint, if_pos hsequence]
      rfl
    rw [hcanonical, Go.ok_bind, hemitter, Go.ok_bind]
    exact Go.isOk_bind.mpr ⟨_, hnext, ⟨_, rfl⟩⟩

/-- Coins that have been sent without any are refused as soon as there is a fee. -/
theorem carries_nil : Carries fee [] ↔ fee.amount = 0 := by
  rw [Carries, hasCoins, List.find?_nil, or_iff_left Bool.false_ne_true]

theorem carries_singleton {amount : Nat} : Carries fee [⟨fee.denom, amount⟩] ↔ fee.amount ≤ amount := by
  have hfind : hasCoins [⟨fee.denom, amount⟩] fee = decide (fee.amount ≤ amount) := by
    rw [hasCoins, List.find?_cons_of_pos (by exact decide_eq_true rfl)]
  rw [Carries, hfind, decide_eq_true_iff]
  constructor
  · rintro (hzero | hle)
    · exact hzero ▸ Nat.zero_le amount
    · exact hle
  · exact .inr

end Core

/-! ## The posts of a transfer -/

section

variable (env : TokenEnv) (balance : String → StdResult Nat) (s : TokenState) (sender : String)
  (funds : List Coin) (request : Request)

/-- The post of a transfer, by the call that starts it, or by the reply, which finds the transfer as it was saved. -/
inductive Posts (message : List UInt8) (nonce : Nat) (coins : List Coin) : Prop
  | direct {called : Called}
      (hcall : handleInitiateTransfer env balance s sender funds request = .ok called)
      (hpost : .postMessage s.wormholeContract message nonce coins ∈ called.messages)
  | replied {called : Called} {s₁ s₂ : TokenState} {balance₁ : String → StdResult Nat} {messages : List CosmosMsg}
      (hcall : handleInitiateTransfer env balance s sender funds request = .ok called)
      (hsubmessage : called.submessages ≠ [])
      (htmp : s₁.wrappedTransferTmp = called.state.wrappedTransferTmp)
      (hreply : reply balance₁ s₁ = .ok (s₂, messages))
      (hpost : .postMessage s₁.wormholeContract message nonce coins ∈ messages)

/-- A CW20 of Terra, the amount of which is known only in the reply. -/
def ThroughReply : Prop :=
  ∃ asset canonical, request.asset = .token asset ∧ env.addrCanonicalize asset = .ok canonical ∧
    (s.wrappedAssetAddress canonical).isSome = false

end

/-- Exactly the fee, as the funds of a call. -/
def attached (fee : Coin) : List Coin := if fee.amount = 0 then [] else [fee]

/-- The tax leaves a coin whole. -/
def Untaxed (env : Env) (coin : Coin) : Prop := ∃ amount, env.deductTax coin.denom coin.amount = .ok amount ∧
  coin.amount ≤ amount

section Posts

variable {env : TokenEnv} {balance : String → StdResult Nat} {s s' : TokenState} {sender : String}
  {funds coins : List Coin} {request : Request} {message : List UInt8} {nonce : Nat} {fee : Coin} {called : Called}

/-- **Attached coins.** What is left of the fee after tax carries it if the tax has taken nothing. -/
theorem carries_coinsAfterTax (h : coinsAfterTax env.toEnv (attached fee) = .ok coins) :
    Carries fee coins ↔ fee.amount = 0 ∨ Untaxed env.toEnv fee := by
  unfold attached at h
  split at h
  · rename_i hzero
    exact iff_of_true (.inl hzero) (.inl hzero)
  · rename_i hpos
    obtain ⟨amount, hamount, rfl⟩ := coinsAfterTax_singleton_eq_ok.mp h
    rw [carries_singleton, or_iff_right hpos]
    constructor
    · intro hle
      exact ⟨amount, hamount, hle⟩
    · rintro ⟨other, hother, hle⟩
      rw [Go.ok.inj (hamount.symm.trans hother)]
      exact hle

/-- **Posts of the first call** come with the attached coins, after tax. -/
theorem posts_direct (hcall : handleInitiateTransfer env balance s sender funds request = .ok called)
    (hpost : .postMessage s.wormholeContract message nonce coins ∈ called.messages) :
    ¬ThroughReply env s request ∧ coinsAfterTax env.toEnv funds = .ok coins := by
  unfold handleInitiateTransfer at hcall
  split at hcall
  · rename_i asset hasset
    simp only [handleInitiateTransferToken, Go.bind_eq_ok, ensure_eq_ok] at hcall
    obtain ⟨_, -, _, -, canonical, hcanonical, called', hcalled, _, -, heq⟩ := hcall
    obtain rfl := Go.ok.inj heq
    unfold initiateTransferOf at hcalled
    split at hcalled
    · rename_i hwrapped
      simp only [initiateWrapped, Go.bind_eq_ok] at hcalled
      obtain ⟨_, -, _, -, coins', hcoins, heq⟩ := hcalled
      rw [← Go.ok.inj heq] at hpost
      constructor
      · rintro ⟨other, canonical', hother, hcanonical', hregular⟩
        obtain rfl := AssetInfo.token.inj (hasset.symm.trans hother)
        rw [← Go.ok.inj (hcanonical.symm.trans hcanonical'), hwrapped] at hregular
        cases hregular
      · rcases List.mem_cons.mp hpost with hburn | hpost
        · cases hburn
        · obtain ⟨-, -, -, rfl⟩ := CosmosMsg.postMessage.inj (List.mem_singleton.mp hpost)
          exact hcoins
    · simp only [initiateToken, Go.bind_eq_ok] at hcalled
      obtain ⟨_, -, _, -, _, -, _, -, _, -, heq⟩ := hcalled
      rw [← Go.ok.inj heq] at hpost
      cases hpost
  · rename_i denom hasset
    obtain ⟨⟨s₁, messages⟩, hnative, heq⟩ := Go.bind_eq_ok.mp hcall
    obtain ⟨-, -, -, _, _, _, coins', -, -, -, -, hcoins, rfl⟩ := handleInitiateTransferNativeToken_eq_ok hnative
    rw [← Go.ok.inj heq] at hpost
    obtain ⟨-, -, -, rfl⟩ := CosmosMsg.postMessage.inj (List.mem_singleton.mp hpost)
    refine ⟨?_, hcoins⟩
    rintro ⟨other, -, hother, -⟩
    cases hasset.symm.trans hother

/-- A transfer with a submessage goes through the reply. -/
theorem throughReply_of_submessage (hcall : handleInitiateTransfer env balance s sender funds request = .ok called)
    (hsubmessage : called.submessages ≠ []) : ThroughReply env s request := by
  cases handleInitiateTransfer_initiates hcall with
  | native hasset hnative => exact absurd rfl hsubmessage
  | wrapped hasset hcanonical hwrapped hfee hinfo => exact absurd rfl hsubmessage
  | token hasset hcanonical hregular hdecimals hm haddress hbalance hidle =>
    exact ⟨_, _, hasset, hcanonical, Bool.eq_false_iff.mpr hregular⟩

/-- **The posts of a reply** have no funds. -/
theorem posts_reply {messages : List CosmosMsg} (hreply : reply balance s = .ok (s', messages))
    (hpost : .postMessage s.wormholeContract message nonce coins ∈ messages) : coins = [] := by
  obtain ⟨_, _, _, _, _, -, -, -, -, -, -, -, rfl⟩ := reply_eq_ok hreply
  obtain ⟨-, -, -, rfl⟩ := CosmosMsg.postMessage.inj (List.mem_singleton.mp hpost)
  rfl

/-- **Which transfers pay the message fee.** A transfer has come with exactly the fee of the core contract; its post is
taken exactly if no fee is asked, or it is posted by the first call and the tax leaves the fee whole. -/
theorem fee_forwarded_iff {core : Core.State} {api : Core.Api} {blockTime : Nat} (hemits : Emits api core env.self)
    (h : Posts env balance s sender (attached core.config.fee) request message nonce coins) :
    (Core.handlePostMessage api core blockTime env.self coins message nonce).IsOk ↔
      core.config.fee.amount = 0 ∨ ¬ThroughReply env s request ∧ Untaxed env.toEnv core.config.fee := by
  rw [handlePostMessage_isOk hemits]
  cases h with
  | direct hcall hpost =>
    obtain ⟨hdirect, hcoins⟩ := posts_direct hcall hpost
    rw [carries_coinsAfterTax hcoins, and_iff_right hdirect]
  | replied hcall hsubmessage htmp hreply hpost =>
    have hregular := throughReply_of_submessage hcall hsubmessage
    rw [posts_reply hreply hpost, carries_nil]
    exact ⟨.inl, fun h => h.resolve_right fun hdirect => hdirect.1 hregular⟩

end Posts

/-! ## Inputs -/

open Locked

/-- A core contract that asks 5 for a message. -/
def feeCore : Core.State where
  config := {
    guardianSetIndex := 0, guardianSetExpirity := 86400, govChain := 1, govAddress := [], fee := ⟨"uluna", 5⟩ }
  guardianSetBucket := fun _ => none
  sequences := fun _ => 0

def feeApi : Core.Api where
  addrCanonicalize := fun _ => .ok (List.replicate 20 0x44)
  addrHumanize := fun _ => .error "no addresses"

theorem emits_feeCore (bridge : String) : Emits feeApi feeCore bridge :=
  ⟨_, List.replicate 12 0x00 ++ List.replicate 20 0x44, rfl, rfl, by decide⟩

/-- Every token is the wrapped token of another chain. -/
def wrappedEnv : TokenEnv := { sampleEnv with wrappedAssetInfo := fun _ => .ok (2, List.replicate 32 0x55) }

def wrappedState : TokenState := { sampleWorld.state with wrappedAssetAddress := fun _ => some [] }

/-- A wrapped token comes with the fee, and the post is taken. -/
theorem fee_forwarded_wrapped : ∃ message nonce coins,
    Posts wrappedEnv (fun _ => .ok 0) wrappedState "terra1sender" [⟨"uluna", 5⟩] sampleRequest message nonce coins ∧
      (Core.handlePostMessage feeApi feeCore 0 wrappedEnv.self coins message nonce).IsOk := by
  have hposts : Posts wrappedEnv (fun _ => .ok 0) wrappedState "terra1sender" (attached feeCore.config.fee)
      sampleRequest (transferMessage (sampleRequest.wrappedInfo 2 (List.replicate 32 0x55))) 7 [⟨"uluna", 5⟩] :=
    @Posts.direct _ _ _ _ _ _ _ _ _ ⟨wrappedState, [.burn "terra1token" "terra1sender" 1000, _], []⟩ rfl
      (List.mem_cons_of_mem _ List.mem_cons_self)
  refine ⟨_, _, _, hposts, ?_⟩
  apply (fee_forwarded_iff (emits_feeCore _) hposts).mpr
  refine .inr ⟨?_, 5, rfl, Nat.le_refl 5⟩
  rintro ⟨_, _, -, -, hregular⟩
  cases hregular

/-- **A CW20 of Terra does not pay.** The fee has been attached, and the post in the reply is refused. -/
theorem fee_lost_in_reply : ∃ message nonce coins,
    Posts sampleEnv (fun _ => .ok 0) sampleWorld.state "terra1sender" [⟨"uluna", 5⟩] sampleRequest message nonce
      coins ∧
    feeCore.config.fee = ⟨"uluna", 5⟩ ∧
      ¬(Core.handlePostMessage feeApi feeCore 0 sampleEnv.self coins message nonce).IsOk := by
  have hruns : (do
      let called ← handleInitiateTransfer sampleEnv (fun _ => .ok 0) sampleWorld.state "terra1sender" [⟨"uluna", 5⟩]
        sampleRequest
      Go.assume (called.submessages ≠ []) "no submessage"
      reply (fun _ => .ok 1000) called.state).IsOk := by
    decide +kernel
  obtain ⟨called, hcall, hruns⟩ := Go.isOk_bind.mp hruns
  obtain ⟨_, hsubmessage, ⟨s₂, messages⟩, hreply⟩ := Go.isOk_bind.mp hruns
  obtain ⟨_, _, _, _, _, -, -, -, -, -, -, -, rfl⟩ := reply_eq_ok hreply
  have hposts := Posts.replied hcall (Go.assume_eq_ok.mp hsubmessage) rfl hreply (List.mem_singleton.mpr rfl)
  refine ⟨_, _, [], hposts, rfl, ?_⟩
  intro h
  cases carries_nil.mp ((handlePostMessage_isOk (emits_feeCore _)).mp h)

end Wormhole.Terra.TokenBridge

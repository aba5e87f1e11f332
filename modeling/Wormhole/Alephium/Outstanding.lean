/-
# Wormhole.Alephium.Outstanding — how much of a local token is out on other chains.

A token of this chain has a wrapper for each registered chain.  No wrapper knows what the others have
sent and none compares a total with anything, so the only limit on what is out at a time is the supply
of the token: the cap of `2 ^ 64 - 1` normalised units that the token bridge asks of every chain holds
in all runs exactly for the tokens whose whole supply normalises below it (`outstanding_capped_iff`).
-/
import Mathlib
import Wormhole.Lib.Bytes
import Wormhole.Lib.Transition
import Wormhole.Alephium.Vm
import Wormhole.Alephium.Governance
import Wormhole.Alephium.TokenBridge
import Wormhole.Alephium.Custody

namespace Wormhole.Alephium.Custody

open Wormhole.Lib.Bytes Wormhole.Lib.Transition Wormhole.Alephium.Vm
open Wormhole.Alephium.Governance (WormholeMessage)

/-! ## The wrappers of a local token -/

/-- A wrapper of the token, as the factory makes it. -/
structure IsWrapperOf (tokenId : ContractId) (decimals : Nat) (s : TokenWrapper.State) : Prop where
  isLocalToken : s.isLocalToken = true
  tokenContractId : s.tokenContractId = tokenId.val
  tokenDecimals : s.tokenDecimals = decimals
  tokenBridgeId : ∃ tokenBridge : ContractId, s.tokenBridgeId = tokenBridge.val
  localChainId : s.localChainId < 256 ^ 2
  remoteChainId : s.remoteChainId < 256 ^ 2

/-- What a `TokenBridgeForChain` asks the factory for is one. -/
theorem isWrapperOf_of_create {self : ContractId} {b : TokenBridgeForChain.State}
    {tokenId tokenBridge : ContractId} {token : TokenInfo} {s : TokenWrapper.State}
    (hbridge : b.localTokenBridgeId = tokenBridge.val) (hlocal : b.localChainId < 256 ^ 2)
    (hremote : b.remoteChainId < 256 ^ 2)
    (h : TokenBridgeForChain.createWrapperForLocalToken self b tokenId.val token = some s) :
    IsWrapperOf tokenId token.decimals s := by
  simp only [TokenBridgeForChain.createWrapperForLocalToken, TokenWrapperFactory.createWrapper,
    Option.bind_eq_bind, Option.bind_eq_some_iff, Option.pure_def, Option.some_inj] at h
  obtain ⟨_, -, _, -, rfl⟩ := h
  exact ⟨rfl, rfl, rfl, ⟨tokenBridge, hbridge⟩, hlocal, hremote⟩

/-- A token of this chain and all of its wrappers. -/
structure LocalToken where
  tokenId : ContractId
  decimals : Nat
  wrapperAt : ContractId → Option TokenWrapper.State
  isWrapperOf : ∀ id s, wrapperAt id = some s → IsWrapperOf tokenId decimals s

/-! ## The machine -/

/-- The tokens outside the wrappers, the assets of each wrapper, and the receipts so far. -/
structure Pool where
  circulating : Nat
  held : ContractId → Assets
  receipts : List Receipt

/-- Nothing has been bridged yet: the whole supply is outside the wrappers. -/
structure Pool.Fresh (supply : Nat) (p : Pool) : Prop where
  circulating : p.circulating = supply
  held : ∀ id, (p.held id).token = 0
  receipts : p.receipts = []

/-- The tokens that a call can take. -/
def Call.approved : Call → Nat
  | .transfer _ _ inputs fromAddress .. => (inputs fromAddress).token
  | .completeTransfer .. | .deposit .. => 0

/-- A call on one of the wrappers; nobody approves tokens that do not exist. -/
def Pool.step (t : LocalToken) (p : Pool) (x : ContractId × Call) : Option Pool := do
  let s ← t.wrapperAt x.1
  assert (x.2.approved ≤ p.circulating)
  let (held, receipt) ← call x.1 s (p.held x.1) x.2
  return {
    circulating := p.circulating + (p.held x.1).token - held.token
    held := Function.update p.held x.1 held
    receipts := p.receipts ++ [receipt] }

/-- The normalised amounts a receipt sends out and takes back. -/
def Receipt.sent : Receipt → Nat
  | .published message => publishedAmount message
  | .completed .. | .deposited => 0

def Receipt.returned : Receipt → Nat
  | .completed msg _ => msg.amount
  | .published _ | .deposited => 0

/-- What is out: the sum of the published amounts minus the sum of the completed ones. -/
def outstanding (receipts : List Receipt) : Int :=
  (receipts.map Receipt.sent).sum - (receipts.map Receipt.returned).sum

theorem sum_locked (decimals : Nat) (receipts : List Receipt) :
    (receipts.map (Receipt.locked decimals)).sum =
      (receipts.map Receipt.sent).sum * Math.unit decimals := by
  have hlocked : Receipt.locked decimals = fun r => r.sent * Math.unit decimals := by
    funext r
    cases r <;> simp [Receipt.locked, Receipt.sent, Math.deNormalized]
  rw [hlocked, List.sum_map_mul_right]

theorem sum_released (decimals : Nat) (receipts : List Receipt) :
    (receipts.map (Receipt.released decimals)).sum =
      (receipts.map Receipt.returned).sum * Math.unit decimals := by
  have hreleased : Receipt.released decimals = fun r => r.returned * Math.unit decimals := by
    funext r
    cases r <;> simp [Receipt.released, Receipt.returned, Math.deNormalized]
  rw [hreleased, List.sum_map_mul_right]

/-! ## The limit on a run -/

section

variable {t : LocalToken} {supply : Nat}

theorem Pool.step_eq_some {p p' : Pool} {x : ContractId × Call} (h : p.step t x = some p') :
    ∃ s held receipt, t.wrapperAt x.1 = some s ∧ x.2.approved ≤ p.circulating ∧
      call x.1 s (p.held x.1) x.2 = some (held, receipt) ∧
      p'.circulating = p.circulating + (p.held x.1).token - held.token ∧
      p'.receipts = p.receipts ++ [receipt] := by
  simp only [Pool.step, Option.bind_eq_bind, Option.bind_eq_some_iff, Option.pure_def,
    Option.some_inj, assert_eq_some] at h
  obtain ⟨s, hs, _, happroved, ⟨held, receipt⟩, hcall, rfl⟩ := h
  exact ⟨s, held, receipt, hs, happroved, hcall, rfl, rfl⟩

theorem Pool.step_of_call {p : Pool} {id : ContractId} {c : Call} {s : TokenWrapper.State}
    {held : Assets} {receipt : Receipt} (hs : t.wrapperAt id = some s)
    (hcall : call id s (p.held id) c = some (held, receipt)) (happroved : c.approved ≤ p.circulating) :
    ∃ p', p.step t (id, c) = some p' ∧ p'.receipts = p.receipts ++ [receipt] := by
  simp only [Pool.step, hs, hcall, assert_true happroved, some_bind]
  exact ⟨_, rfl, rfl⟩

/-- A call takes no more than was approved. -/
theorem token_le_of_call {self : ContractId} {s : TokenWrapper.State} {held held' : Assets} {c : Call}
    {receipt : Receipt} (h : call self s held c = some (held', receipt)) :
    held'.token ≤ held.token + c.approved := by
  cases c with
  | transfer bridge messageFee inputs fromAddress toAddress amount arbiterFee nonce consistencyLevel =>
    obtain ⟨message, htransfer, -⟩ := call_transfer h
    simp only [transfer, Option.bind_eq_bind, Option.bind_eq_some_iff, Option.pure_def, Option.some_inj,
      Prod.mk.injEq, transferTokenToSelf_eq_some] at htransfer
    obtain ⟨_, -, _, -, _, -, _, -, _, -, _, -, _, ⟨hle, htoken, -⟩, _, -, _, -, _, -, _, -, rfl, -⟩ :=
      htransfer
    rw [htoken]
    exact Nat.add_le_add_left hle _
  | completeTransfer msg arbiter =>
    have hmove := call_conserves h
    obtain ⟨payments, -, rfl⟩ := call_completeTransfer h
    simp only [Receipt.locked] at hmove
    omega
  | deposit inputs fromAddress amount =>
    obtain ⟨hdeposit, -⟩ := call_deposit h
    rw [deposit_token hdeposit]
    exact Nat.le_add_right _ _

/-- What is outside the wrappers and what the receipts say is inside add up to the supply. -/
def Pool.Accounted (decimals supply : Nat) (p : Pool) : Prop :=
  p.circulating + (p.receipts.map (Receipt.locked decimals)).sum =
    supply + (p.receipts.map (Receipt.released decimals)).sum

/-- **Step.** -/
theorem Pool.Accounted.step {p p' : Pool} {x : ContractId × Call}
    (h : p.Accounted t.decimals supply) (hstep : p.step t x = some p') :
    p'.Accounted t.decimals supply := by
  obtain ⟨s, held, receipt, hs, happroved, hcall, hcirculating, hreceipts⟩ := Pool.step_eq_some hstep
  have hmove := call_conserves hcall
  have hle := token_le_of_call hcall
  rw [(t.isWrapperOf x.1 s hs).tokenDecimals] at hmove
  simp only [Pool.Accounted, hcirculating, hreceipts, List.map_append, List.map_cons, List.map_nil,
    List.sum_append, List.sum_cons, List.sum_nil] at h ⊢
  omega

/-- **The supply is the limit.** -/
theorem outstanding_le {p : Pool} (h : p.Accounted t.decimals supply) :
    outstanding p.receipts ≤ (supply / Math.unit t.decimals : Nat) := by
  have hunit := Math.unit_pos t.decimals
  rw [Pool.Accounted, sum_locked, sum_released] at h
  have hle : (p.receipts.map Receipt.sent).sum * Math.unit t.decimals ≤
      supply + (p.receipts.map Receipt.returned).sum * Math.unit t.decimals := by omega
  have hdiv := Nat.div_le_div_right (c := Math.unit t.decimals) hle
  rw [Nat.mul_div_cancel _ hunit, Nat.add_mul_div_right _ _ hunit] at hdiv
  rw [outstanding]
  omega

end

/-! ## The limit is reached -/

/-- A transfer of the whole supply goes through, when it normalises to anything. -/
theorem transfer_all {id : ContractId} {s : TokenWrapper.State} {tokenId : ContractId}
    {decimals supply n : Nat} (hs : IsWrapperOf tokenId decimals s) (hsupply : supply < 2 ^ 256)
    (hn : Math.normalizeAmount supply decimals = some n) (hpos : 0 < n) (bridge : TokenBridge.State)
    (hbridge : bridge.sequence = 0) {held : Assets} (hheld : held.token = 0) :
    ∃ result, transfer id s bridge 0 (fun _ => ⟨0, supply, hsupply⟩) held [] (List.replicate 32 0)
      supply 0 (List.replicate 4 0) 0 = some result := by
  obtain ⟨hunit, rfl⟩ := Math.normalizeAmount_eq_some.mp hn
  obtain ⟨tokenBridge, htokenBridge⟩ := hs.tokenBridgeId
  have hdust := dust_lt supply decimals
  have hlocked : Math.deNormalizeAmount (supply / Math.unit decimals) decimals =
      some (Math.deNormalized (supply / Math.unit decimals) decimals) :=
    Math.deNormalizeAmount_eq_some.mpr ⟨fun _ => ⟨hunit, by omega⟩, rfl⟩
  have hfee : Math.normalizeAmount 0 decimals = some 0 :=
    Math.normalizeAmount_eq_some.mpr ⟨hunit, Nat.zero_div _⟩
  obtain ⟨held', hheld'⟩ : ∃ held', transferTokenToSelf (fun _ => ⟨0, supply, hsupply⟩) held []
      (Math.deNormalized (supply / Math.unit decimals) decimals) = some held' := by
    rw [transferTokenToSelf, dif_pos ⟨hdust.1, by omega⟩]
    exact ⟨_, rfl⟩
  have hpublished : supply / Math.unit decimals < 256 ^ 32 :=
    lt_of_le_of_lt (Nat.div_le_self _ _) hsupply
  have hchain : TokenWrapper.getTokenChainId s < 256 ^ 2 := by
    rw [TokenWrapper.getTokenChainId, if_pos hs.isLocalToken]
    exact hs.localChainId
  have hsequence : U256.add bridge.sequence 1 = some 1 := by rw [hbridge]; rfl
  simp only [transfer, hs.tokenDecimals, hn, hfee, hlocked, hheld', htokenBridge, contractId?_val,
    TokenWrapper.transferPayload, u256To32Byte, u256To2Byte, u256ToBytes, if_pos hpublished,
    if_pos hchain, if_pos hs.remoteChainId, approveAlph, TokenBridge.publishTransfer,
    TokenBridge.nextSequence, hsequence, some_bind,
    assert_true List.length_replicate, assert_true hpos, assert_true (Nat.zero_le _)]
  exact ⟨_, rfl⟩

/-- A token bridge that has published nothing. -/
def quietBridge : TokenBridge.State where
  governanceChainId := 1
  governanceContractId := List.replicate 32 0x04
  replay := Sequence.State.init
  localChainId := 13
  sequence := 0

/-- **Exact cap.** The amount outstanding over all wrappers of a local token stays below `2 ^ 64` in
every run if and only if the whole supply of the token normalises to less than that. -/
theorem outstanding_capped_iff (t : LocalToken) (hwrapper : ∃ id s, t.wrapperAt id = some s)
    (supply : Nat) (hsupply : supply < 2 ^ 256) :
    (∀ start now : Pool, start.Fresh supply → Run (Pool.step t) (fun _ _ => True) start now →
        outstanding now.receipts ≤ 2 ^ 64 - 1) ↔
      ∀ n, Math.normalizeAmount supply t.decimals = some n → n ≤ 2 ^ 64 - 1 := by
  constructor
  · intro h n hn
    refine Nat.le_of_not_lt fun hlarge => ?_
    obtain ⟨id, s, hs⟩ := hwrapper
    have hwrapperOf := t.isWrapperOf id s hs
    -- the run that sends the whole supply in one transfer
    let start : Pool := ⟨supply, fun _ => ⟨0, 0, by decide⟩, []⟩
    have hstart : start.Fresh supply := ⟨rfl, fun _ => rfl, rfl⟩
    have hheld : (start.held id).token = 0 := rfl
    obtain ⟨⟨held, message⟩, htransfer⟩ :=
      transfer_all hwrapperOf hsupply hn (by omega) quietBridge rfl hheld
    have hcall : call id s (start.held id) (.transfer quietBridge 0 (fun _ => ⟨0, supply, hsupply⟩) []
        (List.replicate 32 0) supply 0 (List.replicate 4 0) 0) = some (held, .published message) := by
      rw [call, htransfer, some_bind]
      rfl
    obtain ⟨now, hstep, hreceipts⟩ := Pool.step_of_call hs hcall (Nat.le_refl supply)
    have hcap := h start now hstart ((Run.refl start).snoc trivial hstep)
    have hpublished := (locks htransfer).1.normalized
    rw [hwrapperOf.tokenDecimals, hn, Option.some_inj] at hpublished
    rw [hreceipts] at hcap
    simp only [start, List.nil_append, outstanding, List.map_cons, List.map_nil, List.sum_cons,
      List.sum_nil, Receipt.sent, Receipt.returned, ← hpublished] at hcap
    omega
  · intro h start now hstart hrun
    have haccounted : now.Accounted t.decimals supply := by
      refine hrun.invariant (fun _ _ _ h _ hstep => h.step hstep) ?_
      simp [Pool.Accounted, hstart.receipts, hstart.circulating]
    refine (outstanding_le haccounted).trans ?_
    -- a unit that does not fit 256 bits leaves nothing of the supply
    rcases Nat.lt_or_ge (Math.unit t.decimals) (2 ^ 256) with hunit | hunit
    · have := h _ (Math.normalizeAmount_eq_some.mpr ⟨hunit, rfl⟩)
      omega
    · rw [Nat.div_eq_of_lt (lt_of_lt_of_le hsupply hunit)]
      decide

/-! ## A token above the cap -/

def bigTokenWrapper (remoteChainId : Nat) : TokenWrapper.State where
  tokenBridgeId := List.replicate 32 0x0b
  tokenBridgeForChainId := List.replicate 32 0x0c
  localChainId := 13
  remoteChainId
  tokenContractId := List.replicate 32 0x0d
  isLocalToken := true
  tokenDecimals := 8
  symbol := List.replicate 32 0x00
  name := List.replicate 32 0x00

def wrapperTo (chain : UInt8) : ContractId := ⟨List.replicate 32 chain, List.length_replicate⟩

/-- A token with eight decimals and wrappers to two chains. -/
def bigToken : LocalToken where
  tokenId := wrapperTo 0x0d
  decimals := 8
  wrapperAt := fun id =>
    if id = wrapperTo 2 then some (bigTokenWrapper 2)
    else if id = wrapperTo 4 then some (bigTokenWrapper 4)
    else none
  isWrapperOf := by
    intro id s h
    have hwrapper : ∀ chain, chain < 256 ^ 2 → IsWrapperOf (wrapperTo 0x0d) 8 (bigTokenWrapper chain) :=
      fun chain hchain => ⟨rfl, rfl, rfl, ⟨wrapperTo 0x0b, rfl⟩,
        (by decide : 13 < 256 ^ 2), hchain⟩
    split at h
    · rw [← Option.some.inj h]
      exact hwrapper 2 (by decide)
    · split at h
      · rw [← Option.some.inj h]
        exact hwrapper 4 (by decide)
      · simp at h

/-- A transfer of half of `2 ^ 64`. -/
def half (chain : UInt8) : ContractId × Call :=
  (wrapperTo chain, .transfer quietBridge 0 (fun _ => ⟨0, 2 ^ 63, by decide⟩) [] (List.replicate 32 0x01)
    (2 ^ 63) 0 [0, 0, 0, 0] 0)

/-- Two wrappers of one token each send half: together `2 ^ 64` is out. -/
theorem outstanding_exceeded :
    ∃ start now : Pool, start.Fresh (2 ^ 64) ∧
      Run (Pool.step bigToken) (fun _ _ => True) start now ∧ ¬outstanding now.receipts ≤ 2 ^ 64 - 1 := by
  refine ⟨⟨2 ^ 64, fun _ => ⟨0, 0, by decide⟩, []⟩, _, ⟨rfl, fun _ => rfl, rfl⟩,
    run_attempts (P := fun _ => True) _ [half 2, half 4] fun _ _ => trivial, ?_⟩
  decide +kernel

theorem outstanding_capped_small :
    ∃ start now : Pool, start.Fresh (2 ^ 64 - 1) ∧ Run (Pool.step bigToken) (fun _ _ => True) start now ∧
      outstanding now.receipts = 2 ^ 63 ∧ outstanding now.receipts ≤ 2 ^ 64 - 1 := by
  have hsmall : ∀ n, Math.normalizeAmount (2 ^ 64 - 1) bigToken.decimals = some n → n ≤ 2 ^ 64 - 1 := by
    intro n hn
    obtain ⟨-, rfl⟩ := Math.normalizeAmount_eq_some.mp hn
    exact Nat.div_le_self _ _
  have hwrapper : ∃ id s, bigToken.wrapperAt id = some s := ⟨wrapperTo 2, _, rfl⟩
  let start : Pool := ⟨2 ^ 64 - 1, fun _ => ⟨0, 0, by decide⟩, []⟩
  have hstart : start.Fresh (2 ^ 64 - 1) := ⟨rfl, fun _ => rfl, rfl⟩
  have hrun : Run (Pool.step bigToken) (fun _ _ => True) start
      (attempts (Pool.step bigToken) start [half 2]) :=
    run_attempts (P := fun _ => True) _ [half 2] fun _ _ => trivial
  have hcap := (outstanding_capped_iff bigToken hwrapper _ (by decide)).mpr hsmall _ _ hstart hrun
  exact ⟨start, _, hstart, hrun, by decide +kernel, hcap⟩

end Wormhole.Alephium.Custody

/-
# Wormhole.Terra.LockedTokens — transfers of CW20s of Terra lock what they publish.

A transfer of a CW20 takes three steps: the bridge is called, the token is, and the reply runs.  In between
the token may do anything, call the bridge included, and it may deliver less than it was asked for.  A world
is the storage of the bridge, its balance at every token, what it has told the tokens to pay out, and the
transfers whose reply has not run yet; a call that fails undoes what it did, so that a run is one of the calls
that went through, in any order.

The bridge's balance falls only by what the bridge tells a token to pay out.  `transfers_lock`: one transfer
is in progress at a time, the reply publishes the difference of the balances in whole units, and what is
counted as outstanding is held.
-/
import Mathlib
import Wormhole.Lib.Bytes
import Wormhole.Lib.Go
import Wormhole.Lib.Transition
import Wormhole.Terra.Cosmwasm
import Wormhole.Terra.TokenBridge
import Wormhole.Terra.TokenTransfers
import Wormhole.Terra.Completions

namespace Wormhole.Terra.TokenBridge.Locked

open Wormhole.Lib Wormhole.Lib.Bytes Wormhole.Lib.Transition

/-! ## Tokens -/

/-- The addresses of the contracts, and the decimals of the tokens, by canonical address. -/
structure Tokens where
  canonicalize : String → StdResult (List UInt8)
  decimals : List UInt8 → Nat

namespace Tokens

variable (tokens : Tokens)

/-- What a call is answered about the tokens. -/
structure Shows (env : TokenEnv) : Prop where
  canonicalize : env.addrCanonicalize = tokens.canonicalize
  /-- a readable address is of the contract it is made from -/
  humanize : ∀ k a, env.addrHumanize k = .ok a → tokens.canonicalize a = .ok k
  decimals : ∀ a k d, tokens.canonicalize a = .ok k → env.tokenDecimals a = .ok d → d = tokens.decimals k

/-- The units of a token in one unit of a message. -/
def multiplier (k : List UInt8) : Nat := 10 ^ (max (tokens.decimals k) 8 - 8)

/-- What the messages tell the token `k` to pay out. -/
def paidOut (k : List UInt8) (messages : List CosmosMsg) : Nat :=
  (messages.map fun
    | .transfer contractAddr _ amount => if tokens.canonicalize contractAddr = .ok k then amount else 0
    | _ => 0).sum

end Tokens

/-! ## Worlds -/

/-- A transfer that waits for its reply: its token, and the bridge's balance before. -/
structure Started where
  token : List UInt8
  before : Nat

structure World where
  state : TokenState
  /-- the bridge's balance at every token -/
  held : List UInt8 → Nat
  /-- what the tokens have been told to pay out and have not -/
  owed : List UInt8 → Nat
  pending : List Started

section

variable (keccak256 : List UInt8 → FixedBytes 32) (tokens : Tokens) (w : World)

/-- `TokenQuery::Balance` of the bridge. -/
def World.balance (env : TokenEnv) (asset : String) : StdResult Nat := do
  return w.held (← env.addrCanonicalize asset)

/-- The transfers that the submessages start. -/
def started (submessages : List CosmosMsg) : List Started :=
  submessages.filterMap fun
    | .transferFrom asset _ _ _ => (committed (tokens.canonicalize asset)).map fun k => ⟨k, w.held k⟩
    | _ => none

/-- What happens to the bridge and the tokens. -/
inductive Event where
  | initiate (env : TokenEnv) (sender : String) (funds : List Coin) (request : Request)
  | reply (env : TokenEnv)
  /-- a transfer that has been verified is completed -/
  | complete (env : TokenEnv) (sender : String) (emitterChain : Nat) (emitterAddress data : List UInt8)
  /-- a token pays in -/
  | payIn (k : List UInt8) (amount : Nat)
  /-- a token pays out, at most what it has been told -/
  | payOut (k : List UInt8) (amount taken : Nat)

/-- A call that goes through. -/
def World.called (state : TokenState) (messages submessages : List CosmosMsg) : World :=
  { w with
    state
    owed := fun k => w.owed k + tokens.paidOut k messages
    pending := started tokens w submessages ++ w.pending }

def step : World → Event → Option World
  | w, .initiate env sender funds request =>
    (committed (handleInitiateTransfer env (w.balance env) w.state sender funds request)).map fun called =>
      w.called tokens called.state called.messages called.submessages
  | w, .reply env =>
    match w.pending with
    | [] => none
    | _ :: rest =>
      (committed (TokenBridge.reply (w.balance env) w.state)).map fun (state, messages) =>
        { w with pending := rest }.called tokens state messages []
  | w, .complete env sender emitterChain emitterAddress data =>
    (committed (handleCompleteTransfer keccak256 env.toEnv w.state.toState sender emitterChain emitterAddress
      data)).map fun (state, messages) => w.called tokens { w.state with toState := state } messages []
  | w, .payIn k amount => some { w with held := Function.update w.held k (w.held k + amount) }
  | w, .payOut k amount taken =>
    if taken ≤ amount ∧ amount ≤ w.owed k ∧ taken ≤ w.held k then
      some { w with
        held := Function.update w.held k (w.held k - taken)
        owed := Function.update w.owed k (w.owed k - amount) }
    else none

/-- The calls are answered by the tokens, and no native coin has the address `k`. -/
def Admissible (k : List UInt8) : Event → Prop
  | .initiate env _ _ request =>
    tokens.Shows env ∧ ∀ denom, request.asset = .nativeToken denom → buildNativeId denom ≠ .ok k
  | .reply env => tokens.Shows env
  | .complete env _ _ _ _ => tokens.Shows env
  | .payIn _ _ => True
  | .payOut _ _ _ => True

end

/-- The bridge before its first transfer. -/
structure Fresh (w : World) : Prop where
  idle : w.state.wrappedTransferTmp = none
  pending : w.pending = []
  counter : ∀ k, w.state.nativeCounter k = none
  owed : ∀ k, w.owed k = 0

/-! ## What the calls count -/

/-- What is outstanding of a token. -/
def counter (s : State) (k : List UInt8) : Nat := (s.nativeCounter k).getD 0

section Counting

variable {tokens : Tokens} {k : List UInt8} {env : TokenEnv}

theorem counter_setNativeCounter (s : State) (address : List UInt8) (total : Nat) :
    counter (setNativeCounter s address total) k = if k = address then total else counter s k := by
  show ((Function.update s.nativeCounter address (some total)) k).getD 0 = _
  rw [Function.update_apply]
  split <;> rfl

theorem sendNative_counter {s s' : State} {address : List UInt8} {amount : Nat}
    (h : sendNative s address amount = .ok s') :
    counter s' k = counter s k + if k = address then amount else 0 := by
  obtain ⟨-, rfl⟩ := sendNative_eq_ok.mp h
  rw [counter_setNativeCounter]
  split
  · rename_i heq
    rw [heq, Nat.add_comm]
    rfl
  · rfl

theorem receiveNative_counter {s s' : State} {address : List UInt8} {amount : Nat}
    (h : receiveNative s address amount = .ok s') :
    counter s' k + (if k = address then amount else 0) = counter s k := by
  obtain ⟨rest, hcounter, rfl⟩ := receiveNative_eq_ok.mp h
  rw [counter_setNativeCounter]
  split
  · rename_i heq
    rw [heq, counter, hcounter]
    rfl
  · rfl

theorem takeDeposit_counter {s s' : State} {sender denom : String} {amount : Nat}
    (h : takeDeposit s sender denom amount = .ok s') : counter s' k = counter s k := by
  simp only [takeDeposit, Go.bind_eq_ok] at h
  obtain ⟨_, -, _, -, heq⟩ := h
  rw [← Go.ok.inj heq]
  rfl

/-- The multiplier in a call is that of the token. -/
theorem Tokens.Shows.multiplier {asset : String} {decimals m : Nat} (h : tokens.Shows env)
    (hasset : tokens.canonicalize asset = .ok k) (hdecimals : env.tokenDecimals asset = .ok decimals)
    (hm : TokenBridge.multiplier decimals = .ok m) : m = tokens.multiplier k := by
  rw [TokenBridge.multiplier, pow10, unwrap_eq_ok] at hm
  split at hm
  · rw [← Option.some.inj hm, h.decimals asset k decimals hasset hdecimals]
    rfl
  · cases hm

/-- A transfer that is started, counts nothing of a CW20. -/
theorem initiates_counter {balance : String → StdResult Nat} {s : TokenState} {sender : String}
    {funds : List Coin} {request : Request} {called : Called}
    (h : Initiates env balance s sender funds request called)
    (hdenom : ∀ denom, request.asset = .nativeToken denom → buildNativeId denom ≠ .ok k) :
    counter called.state.toState k = counter s.toState k ∧ tokens.paidOut k called.messages = 0 := by
  cases h with
  | native hasset hcall =>
    obtain ⟨-, -, -, _, _, _, _, htake, hid, hsend, -, -, rfl⟩ :=
      handleInitiateTransferNativeToken_eq_ok hcall
    refine ⟨?_, rfl⟩
    rw [sendNative_counter hsend, takeDeposit_counter htake, if_neg, Nat.add_zero]
    rintro rfl
    exact hdenom _ hasset hid
  | wrapped => exact ⟨rfl, rfl⟩
  | token => exact ⟨rfl, rfl⟩

/-- What is minted is not paid out. -/
theorem paidOut_mintMessages (contractAddr recipient : String) (amount : Nat) (sender : String) (fee : Nat) :
    tokens.paidOut k (mintMessages contractAddr recipient amount sender fee) = 0 := by
  unfold mintMessages
  split <;> rfl

theorem paidOut_transfer_cons (contractAddr recipient : String) (amount : Nat) (messages : List CosmosMsg) :
    tokens.paidOut k (.transfer contractAddr recipient amount :: messages) =
      (if tokens.canonicalize contractAddr = .ok k then amount else 0) + tokens.paidOut k messages := by
  rw [Tokens.paidOut, List.map_cons, List.sum_cons]
  rfl

/-- A completion tells its token to pay out the amount and the fee. -/
theorem paidOut_transferMessages {address : List UInt8} {contractAddr : String}
    (hcontract : tokens.canonicalize contractAddr = .ok address) (recipient : String) (amount : Nat)
    (sender : String) (fee : Nat) :
    tokens.paidOut k (transferMessages contractAddr recipient amount sender fee) =
      if k = address then amount + fee else 0 := by
  have hkey : tokens.canonicalize contractAddr = .ok k ↔ k = address := by
    rw [hcontract]
    exact ⟨fun h => (Go.ok.inj h).symm, fun h => h ▸ rfl⟩
  rw [transferMessages, paidOut_transfer_cons, if_congr hkey rfl rfl]
  by_cases hfee : fee = 0
  · rw [if_neg (not_not.mpr hfee), hfee]
    rfl
  · rw [if_pos hfee, paidOut_transfer_cons, if_congr hkey rfl rfl]
    split <;> rfl

/-- Native coins are no tokens. -/
theorem paidOut_sendFee {env : Env} {recipient denom : String} {coins : List Coin} {fee : Nat}
    {messages : List CosmosMsg} (h : sendFee env recipient denom fee = .ok messages) :
    tokens.paidOut k (.send recipient coins :: messages) = 0 := by
  unfold sendFee at h
  split at h
  · obtain ⟨taxed, -, heq⟩ := Go.bind_eq_ok.mp h
    rw [← Go.ok.inj heq]
    rfl
  · rw [← Go.ok.inj h]
    rfl

/-- A completion pays out at most what it counts back. -/
theorem completes_counter {s s' : State} {sender : String} {data : List UInt8} {messages : List CosmosMsg}
    (hshows : tokens.Shows env) (h : Completes env.toEnv s sender data s' messages) :
    counter s' k * tokens.multiplier k + tokens.paidOut k messages ≤ counter s k * tokens.multiplier k := by
  cases h with
  | wrapped => rw [paidOut_mintMessages, Nat.add_zero]
  | token hcontract hcounted hdecimals hm =>
    have hasset := hshows.humanize _ _ hcontract
    rw [paidOut_transferMessages hasset, hshows.multiplier hasset hdecimals hm,
      ← receiveNative_counter hcounted]
    split
    · rename_i heq
      rw [heq, Nat.add_mul, Nat.add_mul]
    · rfl
  | native _ _ _ _ _ hcounted _ hfee =>
    rw [paidOut_sendFee hfee, ← receiveNative_counter hcounted, Nat.add_zero]
    exact Nat.mul_le_mul_right _ (Nat.le_add_right _ _)

end Counting

/-! ## The invariant -/

/-- What is kept for the reply belongs to the transfer that waits. -/
structure Awaits (tokens : Tokens) (state : TransferState) (p : Started) : Prop where
  token : state.tokenCanonical = p.token
  address : tokens.canonicalize state.tokenAddress = .ok p.token
  before : state.previousBalance = p.before
  multiplier : state.multiplier = tokens.multiplier p.token
  message : ∃ rest, state.message = beBytes 16 0 ++ rest

/-- At most one transfer waits, and the storage keeps it. -/
inductive Progress (tokens : Tokens) : Option TransferState → List Started → Prop
  | idle : Progress tokens none []
  | waiting {state : TransferState} {p : Started} (h : Awaits tokens state p) :
      Progress tokens (some state) [p]

theorem Progress.eq_nil {tokens : Tokens} {pending : List Started} (h : Progress tokens none pending) :
    pending = [] := by
  cases h
  rfl

theorem Progress.length_le {tokens : Tokens} {tmp : Option TransferState} {pending : List Started}
    (h : Progress tokens tmp pending) : pending.length ≤ 1 := by
  cases h with
  | idle => exact Nat.zero_le 1
  | waiting => exact le_rfl

/-- What is outstanding and what is owed is held, and was when a transfer was started. -/
structure Covered (tokens : Tokens) (k : List UInt8) (w : World) : Prop where
  progress : Progress tokens w.state.wrappedTransferTmp w.pending
  held : counter w.state.toState k * tokens.multiplier k + w.owed k ≤ w.held k
  before : ∀ p ∈ w.pending, p.token = k →
    counter w.state.toState k * tokens.multiplier k + w.owed k ≤ p.before

namespace Covered

variable {keccak256 : List UInt8 → FixedBytes 32} {tokens : Tokens} {k : List UInt8} {w w' : World}

theorem fresh (h : Fresh w) : Covered tokens k w where
  progress := by
    rw [h.idle, h.pending]
    exact .idle
  held := by
    rw [counter, h.counter, h.owed, Option.getD_none, Nat.zero_mul]
    exact Nat.zero_le _
  before := by
    rw [h.pending]
    nofun

/-- A call counts less, or nothing, and starts no transfer. -/
theorem called (h : Covered tokens k w) {state : State} {messages : List CosmosMsg}
    (hle : counter state k * tokens.multiplier k + tokens.paidOut k messages ≤
      counter w.state.toState k * tokens.multiplier k) :
    Covered tokens k (w.called tokens { w.state with toState := state } messages []) where
  progress := h.progress
  held := by
    have hheld := h.held
    show counter state k * tokens.multiplier k + (w.owed k + tokens.paidOut k messages) ≤ w.held k
    omega
  before := by
    intro p hp hk
    have hbefore := h.before p hp hk
    show counter state k * tokens.multiplier k + (w.owed k + tokens.paidOut k messages) ≤ p.before
    omega

/-- Starting a transfer. -/
theorem initiate (h : Covered tokens k w) {env : TokenEnv} {sender : String} {funds : List Coin}
    {request : Request} {called : Called} (hshows : tokens.Shows env)
    (hdenom : ∀ denom, request.asset = .nativeToken denom → buildNativeId denom ≠ .ok k)
    (hcall : handleInitiateTransfer env (w.balance env) w.state sender funds request = .ok called) :
    Covered tokens k (w.called tokens called.state called.messages called.submessages) := by
  have hinitiates := handleInitiateTransfer_initiates hcall
  obtain ⟨hcounter, hpaid⟩ : counter called.state.toState k = counter w.state.toState k ∧
      tokens.paidOut k called.messages = 0 := initiates_counter hinitiates hdenom
  have hle : counter called.state.toState k * tokens.multiplier k + tokens.paidOut k called.messages ≤
      counter w.state.toState k * tokens.multiplier k := by
    rw [hcounter, hpaid, Nat.add_zero]
  cases hinitiates with
  | native => exact h.called hle
  | wrapped => exact h.called hle
  | @token asset canonical _ decimals m previousBalance _ hcanonical _ hdecimals hm _ hbalance hidle =>
    have hasset : tokens.canonicalize asset = .ok canonical := hshows.canonicalize ▸ hcanonical
    have hpending : w.pending = [] := by
      have hprogress := h.progress
      rw [hidle] at hprogress
      exact hprogress.eq_nil
    have hprevious : w.held canonical = previousBalance := by
      obtain ⟨k', hk', heq⟩ := Go.bind_eq_ok.mp hbalance
      rw [Go.ok.inj (hcanonical.symm.trans hk')]
      exact Go.ok.inj heq
    have hstarted : started tokens w [.transferFrom asset sender env.self (withoutDust request.amount m)] ++
        w.pending = [⟨canonical, w.held canonical⟩] := by
      simp [started, hasset, committed, hpending]
    refine ⟨?_, (h.called hle).held, ?_⟩
    · show Progress tokens (some _) (started tokens w _ ++ w.pending)
      rw [hstarted]
      exact .waiting {
        token := rfl
        address := hasset
        before := hprevious.symm
        multiplier := hshows.multiplier hasset hdecimals hm
        message := by
          simp only [TransferInfo.serialize, Request.tokenInfo, List.append_assoc]
          exact ⟨_, rfl⟩ }
    · intro p hp hk
      have hmem : p ∈ started tokens w [.transferFrom asset sender env.self (withoutDust request.amount m)] ++
        w.pending := hp
      rw [hstarted, List.mem_singleton] at hmem
      subst hmem
      obtain rfl : canonical = k := hk
      exact (h.called hle).held

end Covered

/-- The high half of the amount in a message that begins with zeros. -/
theorem deserialize_high {rest : List UInt8} {info : TransferInfo}
    (h : TransferInfo.deserialize (beBytes 16 0 ++ rest) = .ok info) : info.amount.1 = 0 := by
  simp only [TransferInfo.deserialize, getU256, Go.bind_eq_ok] at h
  obtain ⟨amount, ⟨high, hhigh, low, -, hamount⟩, _, -, _, -, _, -, _, -, _, -, heq⟩ := h
  rw [← Go.ok.inj heq, ← Go.ok.inj hamount]
  have hslice := (getUint_iff.mp hhigh).1
  rw [slice?_head (beBytes_length 16 0), Option.some_inj] at hslice
  have hzero : beNat (beBytes 16 0) = beNat (beBytes 16 high) := congrArg beNat hslice
  rw [beNat_beBytes (by norm_num), beNat_beBytes (getUint_iff.mp hhigh).2] at hzero
  exact hzero.symm

/-- What a message says of the amount. -/
theorem transferMessage_amount {info : TransferInfo} {units : Nat} (hunits : units < 2 ^ 128) :
    slice? (transferMessage { info with amount := (0, units) }) 1 33 = some (beBytes 32 units) := by
  have hhalves : beBytes 32 units = beBytes 16 0 ++ beBytes 16 units := by
    have hhigh : units / 256 ^ 16 = 0 := Nat.div_eq_of_lt (lt_of_lt_of_le hunits (by norm_num))
    rw [beBytes_append 16 16, hhigh]
  have hlist : transferMessage { info with amount := (0, units) } = [0x01] ++ (beBytes 32 units ++
      (info.tokenAddress ++ beBytes 2 info.tokenChain ++ info.recipient ++ beBytes 2 info.recipientChain ++
        beBytes 16 info.fee.1 ++ beBytes 16 info.fee.2)) := by
    simp only [transferMessage, TransferInfo.serialize, hhalves, List.append_assoc]
  exact slice?_mid hlist rfl (by rw [beBytes_length])

/-- What the reply publishes: the difference of the balances, in whole units. -/
structure Published (tokens : Tokens) (w : World) (p : Started) (messages : List CosmosMsg) : Prop where
  le : p.before ≤ w.held p.token
  message : ∃ contractAddr payload nonce coins, messages = [.postMessage contractAddr payload nonce coins] ∧
    slice? payload 1 33 = some (beBytes 32 ((w.held p.token - p.before) / tokens.multiplier p.token))

/-- **A reply that goes through** counts what it publishes. -/
theorem reply_published {tokens : Tokens} {w : World} {env : TokenEnv} {s' : TokenState}
    {messages : List CosmosMsg} (hprogress : Progress tokens w.state.wrappedTransferTmp w.pending)
    (hshows : tokens.Shows env) (h : reply (w.balance env) w.state = .ok (s', messages)) :
    ∃ p counted, w.pending = [p] ∧ Published tokens w p messages ∧
      sendNative w.state.toState p.token ((w.held p.token - p.before) / tokens.multiplier p.token) =
        .ok counted ∧ s' = { w.state with toState := counted, wrappedTransferTmp := none } := by
  obtain ⟨state, info, newBalance, delivered, counted, htmp, hinfo, hbalance, hdelivered, -, hcounted, rfl,
    rfl⟩ := reply_eq_ok h
  rw [htmp] at hprogress
  generalize hpending : w.pending = pending at hprogress
  cases hprogress with
  | @waiting _ p hawaits =>
    have hheld : w.held p.token = newBalance := by
      obtain ⟨k, hk, heq⟩ := Go.bind_eq_ok.mp hbalance
      rw [hshows.canonicalize, hawaits.address] at hk
      rw [Go.ok.inj hk]
      exact Go.ok.inj heq
    have hdifference : delivered = w.held p.token - p.before := by
      rw [hheld, ← hawaits.before]
      omega
    rw [hawaits.token, hawaits.multiplier, hdifference] at hcounted
    refine ⟨p, counted, rfl, ⟨?_, ?_⟩, hcounted, rfl⟩
    · rw [hheld, ← hawaits.before]
      omega
    · have hhigh : info.amount.1 = 0 := by
        obtain ⟨rest, hmessage⟩ := hawaits.message
        rw [hmessage] at hinfo
        exact deserialize_high hinfo
      refine ⟨_, _, _, _, rfl, ?_⟩
      rw [hawaits.multiplier, hdifference, hhigh]
      have hle := (sendNative_eq_ok.mp hcounted).1
      exact transferMessage_amount (lt_of_le_of_lt (le_trans (Nat.le_add_right _ _) hle) (by norm_num))

namespace Covered

variable {keccak256 : List UInt8 → FixedBytes 32} {tokens : Tokens} {k : List UInt8} {w w' : World}

theorem reply (h : Covered tokens k w) {env : TokenEnv} {s' : TokenState} {messages : List CosmosMsg}
    {p : Started} {rest : List Started} (hshows : tokens.Shows env) (hpending : w.pending = p :: rest)
    (hreply : TokenBridge.reply (w.balance env) w.state = .ok (s', messages)) :
    Covered tokens k ({ w with pending := rest }.called tokens s' messages []) := by
  obtain ⟨q, counted, hq, ⟨hle, contractAddr, payload, nonce, coins, rfl, -⟩, hcounted, rfl⟩ :=
    reply_published h.progress hshows hreply
  obtain ⟨rfl, rfl⟩ := List.cons.inj (hpending.symm.trans hq)
  refine ⟨.idle, ?_, nofun⟩
  have hheld := h.held
  have hbefore := h.before p (by rw [hpending]; exact List.mem_singleton_self p)
  show counter counted k * tokens.multiplier k + (w.owed k + 0) ≤ w.held k
  rw [sendNative_counter hcounted, Nat.add_mul, Nat.add_zero]
  by_cases hk : k = p.token
  · have hdelivered := Nat.div_mul_le_self (w.held p.token - p.before) (tokens.multiplier p.token)
    have hcovered := hbefore hk.symm
    rw [if_pos hk]
    subst hk
    omega
  · rw [if_neg hk]
    omega

theorem payIn (h : Covered tokens k w) (key : List UInt8) (amount : Nat) :
    Covered tokens k { w with held := Function.update w.held key (w.held key + amount) } where
  progress := h.progress
  held := by
    apply le_trans h.held
    show w.held k ≤ Function.update w.held key (w.held key + amount) k
    rw [Function.update_apply]
    split
    · rename_i heq
      rw [heq]
      exact Nat.le_add_right _ _
    · exact le_rfl
  before := h.before

theorem payOut (h : Covered tokens k w) {key : List UInt8} {amount taken : Nat} (htaken : taken ≤ amount)
    (howed : amount ≤ w.owed key) :
    Covered tokens k { w with
      held := Function.update w.held key (w.held key - taken)
      owed := Function.update w.owed key (w.owed key - amount) } := by
  have hheld := h.held
  refine ⟨h.progress, ?_, ?_⟩
  · show counter w.state.toState k * tokens.multiplier k + Function.update w.owed key (w.owed key - amount) k ≤
      Function.update w.held key (w.held key - taken) k
    rw [Function.update_apply, Function.update_apply]
    split
    · rename_i heq
      subst heq
      omega
    · exact hheld
  · intro p hp hk
    apply le_trans (Nat.add_le_add_left ?_ _) (h.before p hp hk)
    show Function.update w.owed key (w.owed key - amount) k ≤ w.owed k
    rw [Function.update_apply]
    split
    · rename_i heq
      rw [heq]
      exact Nat.sub_le _ _
    · exact le_rfl

/-- **Step.** Whatever happens next, what is outstanding and owed is held. -/
theorem step (h : Covered tokens k w) {e : Event} (hok : Admissible tokens k e)
    (hstep : Locked.step keccak256 tokens w e = some w') : Covered tokens k w' := by
  cases e with
  | initiate env sender funds request =>
    obtain ⟨called, hcall, rfl⟩ := Option.map_eq_some_iff.mp hstep
    exact h.initiate hok.1 hok.2 (committed_eq_some.mp hcall)
  | reply env =>
    simp only [Locked.step] at hstep
    split at hstep
    · cases hstep
    · rename_i p rest hpending
      obtain ⟨⟨state, messages⟩, hreply, rfl⟩ := Option.map_eq_some_iff.mp hstep
      exact h.reply hok hpending (committed_eq_some.mp hreply)
  | complete env sender emitterChain emitterAddress data =>
    obtain ⟨⟨state, messages⟩, hcall, rfl⟩ := Option.map_eq_some_iff.mp hstep
    exact h.called (completes_counter hok (handleCompleteTransfer_completes (committed_eq_some.mp hcall)))
  | payIn key amount =>
    rw [← Option.some.inj hstep]
    exact h.payIn key amount
  | payOut key amount taken =>
    simp only [Locked.step] at hstep
    split at hstep
    · rename_i hpay
      rw [← Option.some.inj hstep]
      exact h.payOut hpay.1 hpay.2.1
    · cases hstep

end Covered

/-- **Transfers of CW20s lock what they publish.** In every run at most one is in progress, its reply
publishes what the bridge has received, in whole units, and what is outstanding is held. -/
theorem transfers_lock {keccak256 : List UInt8 → FixedBytes 32} {tokens : Tokens} {k : List UInt8}
    {w₀ w : World} (hfresh : Fresh w₀)
    (h : Run (step keccak256 tokens) (fun _ => Admissible tokens k) w₀ w) :
    w.pending.length ≤ 1 ∧
    (∀ env s' messages, tokens.Shows env → reply (w.balance env) w.state = .ok (s', messages) →
      ∃ p, w.pending = [p] ∧ Published tokens w p messages) ∧
    counter w.state.toState k * tokens.multiplier k ≤ w.held k := by
  have hcovered : Covered tokens k w :=
    h.invariant (fun _ _ _ hinv hok hstep => hinv.step hok hstep) (.fresh hfresh)
  refine ⟨?_, ?_, le_trans (Nat.le_add_right _ _) hcovered.held⟩
  · exact hcovered.progress.length_le
  · intro env s' messages hshows hreply
    obtain ⟨p, _, hpending, hpublished, -⟩ := reply_published hcovered.progress hshows hreply
    exact ⟨p, hpending, hpublished⟩

/-! ## Inputs -/

/-- A CW20 with ten decimals. -/
def sampleToken : List UInt8 := List.replicate 20 0x22

def sampleTokens : Tokens where
  canonicalize := fun address => .ok (if address = "terra1token" then sampleToken else List.replicate 20 0x33)
  decimals := fun _ => 10

def sampleEnv : TokenEnv where
  addrHumanize := fun _ => .error "no addresses"
  addrCanonicalize := sampleTokens.canonicalize
  tokenDecimals := fun _ => .ok 10
  deductTax := fun _ amount => .ok amount
  self := "terra1bridge"
  wrappedAssetInfo := fun _ => .error "no wrapped tokens"

def sampleWorld : World where
  state := {
    wormholeContract := "terra1wormhole"
    bridgeContracts := fun _ => none
    wrappedAsset := fun _ => none
    nativeCounter := fun _ => none
    bridgeDeposit := fun _ => none
    wrappedAssetAddress := fun _ => none
    wrappedTransferTmp := none }
  held := fun _ => 0
  owed := fun _ => 0
  pending := []

def sampleRequest : Request where
  asset := .token "terra1token"
  amount := 1000
  recipientChain := 2
  recipient := List.replicate 32 0x11
  fee := 0
  nonce := 7
  amount_lt := by norm_num
  fee_lt := by norm_num

theorem zeroKeccak_length : (List.replicate 32 (0x00 : UInt8)).length = 32 := rfl

def zeroKeccak (_ : List UInt8) : FixedBytes 32 := ⟨List.replicate 32 0x00, zeroKeccak_length⟩

/-- The token keeps 30 of 1000 as its fee. -/
def sampleEvents : List Event :=
  [.initiate sampleEnv "terra1sender" [] sampleRequest, .payIn sampleToken 970, .reply sampleEnv]

def sampleEnd : World := attempts (step zeroKeccak sampleTokens) sampleWorld sampleEvents

theorem sampleTokens_shows : sampleTokens.Shows sampleEnv where
  canonicalize := rfl
  humanize := nofun
  decimals := fun _ _ _ _ h => (Go.ok.inj h).symm

/-- Nine units are outstanding, and 970 are held. -/
theorem sampleToken_locked :
    counter sampleEnd.state.toState sampleToken = 9 ∧ sampleEnd.held sampleToken = 970 ∧
      sampleEnd.pending.length ≤ 1 ∧
      counter sampleEnd.state.toState sampleToken * sampleTokens.multiplier sampleToken ≤
        sampleEnd.held sampleToken := by
  have hrun : Run (step zeroKeccak sampleTokens) (fun _ => Admissible sampleTokens sampleToken) sampleWorld
      sampleEnd := by
    apply run_attempts
    intro e he
    simp only [sampleEvents, List.mem_cons, List.not_mem_nil, or_false] at he
    obtain rfl | rfl | rfl := he
    · exact ⟨sampleTokens_shows, nofun⟩
    · trivial
    · exact sampleTokens_shows
  have hfresh : Fresh sampleWorld := ⟨rfl, rfl, fun _ => rfl, fun _ => rfl⟩
  obtain ⟨hpending, -, hheld⟩ := transfers_lock hfresh hrun
  exact ⟨by decide +kernel, by decide +kernel, hpending, hheld⟩

end Wormhole.Terra.TokenBridge.Locked

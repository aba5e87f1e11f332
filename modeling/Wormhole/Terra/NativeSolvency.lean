/-
# Wormhole.Terra.NativeSolvency — the native coins that the bridge on Terra holds.

Native coins go out in three steps: they are deposited, the transfer takes them out of the deposit, and what is
outstanding on other chains is counted by the padded denom.  They come back by a completion, and a deposit may be
withdrawn.  Whatever the bridge sends is taxed, which `deduct_tax` has allowed for.

The liabilities of a denom are the deposits of all accounts and what is outstanding (`Owes`).  Every message leaves
the bridge with a balance that covers them (`native_solvency`), and what is outstanding is what was initiated and
has not been completed.
-/
import Mathlib
import Wormhole.Lib.Bytes
import Wormhole.Lib.Go
import Wormhole.Lib.Totals
import Wormhole.Lib.Transition
import Wormhole.Terra.Cosmwasm
import Wormhole.Terra.Completions
import Wormhole.Terra.LockedTokens
import Wormhole.Terra.NativeCoins
import Wormhole.Terra.TokenBridge
import Wormhole.Terra.TokenTransfers
import Wormhole.Terra.TokenContract

namespace Wormhole.Terra.TokenBridge.Solvency

open Wormhole.Lib Wormhole.Lib.Bytes Wormhole.Lib.Transition
open Wormhole.Terra.TokenBridge.Locked (counter sendNative_counter receiveNative_counter)

/-! ## Denoms and accounts -/

/-- What the chain calls a native coin. -/
structure IsDenom (denom : String) : Prop where
  length_le : (asBytes denom).length ≤ 20
  no_nul : 0x00 ∉ asBytes denom

/-- The address of an account; the colon separates it from a denom. -/
def Account : Type := {a : String // ':' ∉ a.toList}

instance : DecidableEq Account := inferInstanceAs (DecidableEq {a : String // ':' ∉ a.toList})

/-- The 20 bytes of a denom. -/
def nativeId (denom : String) : List UInt8 := List.replicate (20 - (asBytes denom).length) 0x00 ++ asBytes denom

/-- The 32 bytes that the bridge publishes for a denom. -/
def publishedAddress (denom : String) : List UInt8 :=
  0x01 :: (List.replicate (31 - (asBytes denom).length) 0x00 ++ asBytes denom)

/-- The amount of one denom. -/
def amountOf (denom : String) (coins : List Coin) : Nat :=
  (coins.map fun c => if c.denom = denom then c.amount else 0).sum

/-! ## Worlds -/

/-- The storage of the bridge, and its bank balance of every denom. -/
structure World where
  state : State
  balance : String → Nat

section Machine

variable (bridge : String) (tax : String → Nat → Nat)

/-- The funds of a message arrive with it. -/
def receiveFunds (sender : String) (funds : List Coin) (balance : String → Nat) : String → Nat :=
  if sender = bridge then balance else fun denom => balance denom + amountOf denom funds

/-- The bridge sends a coin and pays the tax. -/
def payCoin (toAddress : String) (balance : String → Nat) (c : Coin) : Option (String → Nat) :=
  if c.amount + tax c.denom c.amount ≤ balance c.denom then
    some (Function.update balance c.denom (balance c.denom - (c.amount + tax c.denom c.amount) +
      if toAddress = bridge then c.amount else 0))
  else none

/-- The coins that go with a message of the bridge. -/
def deliver (balance : String → Nat) : CosmosMsg → Option (String → Nat)
  | .send toAddress coins => coins.foldlM (payCoin bridge tax toAddress) balance
  | .postMessage contractAddr _ _ coins => coins.foldlM (payCoin bridge tax contractAddr) balance
  | _ => some balance

/-- The chain when a message is handled. -/
structure Context where
  env : Env
  tax : String → Nat → Nat
  sender : Account
  funds : List Coin

inductive Event where
  | deposit (cx : Context)
  | withdraw (cx : Context) (asset : AssetInfo)
  | initiate (cx : Context) (denom : String) (amount recipientChain : Nat) (recipient : List UInt8) (fee nonce : Nat)
  /-- a transfer that has been verified is completed -/
  | complete (cx : Context) (emitterChain : Nat) (emitterAddress data : List UInt8)

def Event.context : Event → Context
  | .deposit cx => cx
  | .withdraw cx _ => cx
  | .initiate cx _ _ _ _ _ _ => cx
  | .complete cx _ _ _ => cx

/-- The call of the bridge. -/
def call (keccak256 : List UInt8 → FixedBytes 32) (s : State) : Event → StdResult (State × List CosmosMsg)
  | .deposit cx => do return (← depositTokens s cx.sender.val cx.funds, [])
  | .withdraw cx asset => withdrawTokens cx.env s cx.sender.val asset
  | .initiate cx denom amount recipientChain recipient fee nonce =>
    handleInitiateTransferNativeToken cx.env s cx.sender.val cx.funds denom amount recipientChain recipient fee nonce
  | .complete cx emitterChain emitterAddress data =>
    handleCompleteTransfer keccak256 cx.env s cx.sender.val emitterChain emitterAddress data

/-- A message that goes through: its funds arrive, it is handled, and the bridge's messages are delivered. -/
def step (keccak256 : List UInt8 → FixedBytes 32) (w : World) (e : Event) : Option World := do
  let balance := receiveFunds bridge e.context.sender.val e.context.funds w.balance
  let (state, messages) ← committed (call keccak256 w.state e)
  let balance ← messages.foldlM (deliver bridge e.context.tax) balance
  return { state, balance }

/-- What the chain promises: the bridge sends no message to itself, coins have denoms, and the tax is deducted. -/
structure Context.Promised (cx : Context) : Prop where
  sender : cx.sender.val ≠ bridge
  denoms : ∀ c ∈ cx.funds, IsDenom c.denom
  taxed : ∀ denom amount rest, cx.env.deductTax denom amount = .ok rest → rest + cx.tax denom rest ≤ amount

/-- Transfers of native coins come back with the addresses that the bridge publishes. -/
def Admissible (e : Event) : Prop :=
  e.context.Promised bridge ∧ ∀ cx emitterChain emitterAddress data, e = .complete cx emitterChain emitterAddress data →
    ∀ transferInfo, TransferInfo.deserialize data = .ok transferInfo →
      ∃ denom, IsDenom denom ∧ nativeAddress denom = .ok transferInfo.tokenAddress

end Machine

/-- The bridge before its first deposit. -/
structure Fresh (w : World) : Prop where
  deposits : ∀ key, w.state.bridgeDeposit key = none
  counter : ∀ address, w.state.nativeCounter address = none

/-! ## Liabilities -/

/-- What the accounts have deposited of a denom. -/
def deposits (s : State) (denom : String) (a : Account) : Nat :=
  (s.bridgeDeposit (bridgeDepositKey a.val denom)).getD 0

/-- What is outstanding of a denom. -/
def outstanding (s : State) (denom : String) : Nat := counter s (nativeId denom)

/-- The deposits and what is outstanding are `m` together. -/
def Owes (s : State) (denom : String) (m : Nat) : Prop :=
  ∃ n, Total (deposits s denom) n ∧ m = n + outstanding s denom

/-- What an event initiates of a denom. -/
def Event.initiated (denom : String) : Event → Nat
  | .initiate _ denom' amount _ _ _ _ => if denom' = denom then amount else 0
  | _ => 0

/-- What an event completes of a denom, the fee included. -/
def Event.completed (denom : String) : Event → Nat
  | .complete _ _ _ data =>
    match TransferInfo.deserialize data with
    | .ok transferInfo => if transferInfo.tokenAddress = publishedAddress denom then transferInfo.amount.2 else 0
    | _ => 0
  | _ => 0

def initiated (denom : String) (log : List Event) : Nat := (log.map (Event.initiated denom)).sum

def completed (denom : String) (log : List Event) : Nat := (log.map (Event.completed denom)).sum

/-! ## Keys -/

section Keys

variable {denom denom' : String}

theorem takeWhile_account (a : Account) (rest : List Char) :
    (a.val.toList ++ ':' :: rest).takeWhile (· ≠ ':') = a.val.toList := by
  rw [List.takeWhile_append_of_pos]
  · rw [List.takeWhile_cons_of_neg (by simp), List.append_nil]
  · intro c hc
    apply decide_eq_true
    rintro rfl
    exact a.property hc

/-- Accounts and denoms are told apart. -/
theorem bridgeDepositKey_inj {a a' : Account} (h : bridgeDepositKey a.val denom = bridgeDepositKey a'.val denom') :
    a = a' ∧ denom = denom' := by
  have hlist : a.val.toList ++ ':' :: denom.toList = a'.val.toList ++ ':' :: denom'.toList := by
    have htoList := congrArg String.toList h
    simp only [bridgeDepositKey, String.toList_append] at htoList
    rw [List.append_assoc, List.append_assoc] at htoList
    exact htoList
  have haccount : a.val.toList = a'.val.toList := by
    rw [← takeWhile_account a denom.toList, hlist, takeWhile_account]
  rw [haccount] at hlist
  have hdenom := (List.cons.inj (List.append_cancel_left hlist)).2
  exact ⟨Subtype.ext (String.toList_inj.mp haccount), String.toList_inj.mp hdenom⟩

theorem buildNativeId_eq_ok {id : List UInt8} :
    buildNativeId denom = .ok id ↔ (asBytes denom).length ≤ 20 ∧ id = nativeId denom := by
  simp only [buildNativeId, unwrap_eq_ok]
  split
  · rename_i hle
    rw [Option.some_inj]
    exact ⟨fun h => ⟨hle, h.symm⟩, fun h => h.2.symm⟩
  · rename_i hlt
    exact ⟨nofun, fun h => absurd h.1 hlt⟩

/-- The bytes of a denom without their padding. -/
theorem IsDenom.filter (h : IsDenom denom) (n : Nat) :
    (List.replicate n 0x00 ++ asBytes denom).filter (· ≠ 0x00) = asBytes denom := by
  rw [List.filter_append, List.filter_replicate_of_neg (by simp), List.nil_append, List.filter_eq_self]
  intro b hb
  exact decide_eq_true fun heq => h.no_nul (heq ▸ hb)

theorem asBytes_inj (h : asBytes denom = asBytes denom') : denom = denom' := by
  have hdenom : fromUtf8 (asBytes denom) = some denom := fromUtf8_eq_some.mpr rfl
  rw [h] at hdenom
  exact Option.some.inj (hdenom.symm.trans (fromUtf8_eq_some.mpr rfl))

theorem nativeId_inj (hdenom : IsDenom denom) (hdenom' : IsDenom denom') (h : nativeId denom = nativeId denom') :
    denom = denom' := by
  have hbytes := congrArg (List.filter (· ≠ 0x00)) h
  rw [nativeId, nativeId, hdenom.filter, hdenom'.filter] at hbytes
  exact asBytes_inj hbytes

theorem publishedAddress_inj (hdenom : IsDenom denom) (hdenom' : IsDenom denom')
    (h : publishedAddress denom = publishedAddress denom') : denom = denom' := by
  have hbytes := congrArg (List.filter (· ≠ 0x00)) (List.cons.inj h).2
  rw [hdenom.filter, hdenom'.filter] at hbytes
  exact asBytes_inj hbytes

/-- What a completion reads from the address of a denom. -/
theorem serializedDenom_publishedAddress (hdenom : IsDenom denom) :
    fromUtf8 (serializedDenom (publishedAddress denom)) = some denom := by
  rw [serializedDenom, publishedAddress, List.set_cons_zero, List.filter_cons_of_neg (by simp), hdenom.filter]
  exact fromUtf8_eq_some.mpr rfl

theorem getAddress_publishedAddress (hdenom : IsDenom denom) :
    getAddress ((publishedAddress denom).set 0 0x00) 0 = .ok (nativeId denom) := by
  have hle := hdenom.length_le
  have hlength : ((publishedAddress denom).set 0 0x00).length = 32 := by
    rw [publishedAddress, List.length_set, List.length_cons, List.length_append, List.length_replicate]
    omega
  have hpadded : (publishedAddress denom).set 0 0x00 = List.replicate 12 0x00 ++ nativeId denom := by
    have hcount : 31 - (asBytes denom).length = 11 + (20 - (asBytes denom).length) := by omega
    rw [publishedAddress, List.set_cons_zero, nativeId, List.replicate_succ, hcount,
      ← List.replicate_append_replicate, List.cons_append, List.append_assoc]
  rw [getAddress_eq hlength, hpadded]
  exact congrArg _ (List.drop_left' List.length_replicate)

end Keys

/-! ## Bookkeeping -/

section Bookkeeping

variable {s : State} {denom denom' : String} {a : Account} {amount : Nat}

theorem deposits_setBridgeDeposit (s : State) (a : Account) (denom' : String) (amount : Nat) :
    deposits (setBridgeDeposit s a.val denom' amount) denom =
      if denom = denom' then Function.update (deposits s denom) a amount else deposits s denom := by
  funext b
  show (Function.update s.bridgeDeposit (bridgeDepositKey a.val denom') (some amount)
    (bridgeDepositKey b.val denom)).getD 0 = _
  by_cases hkey : bridgeDepositKey b.val denom = bridgeDepositKey a.val denom'
  · obtain ⟨rfl, rfl⟩ := bridgeDepositKey_inj hkey
    rw [Function.update_self, if_pos rfl, Function.update_self]
    rfl
  · rw [Function.update_of_ne hkey]
    split
    · rename_i heq
      subst heq
      have hne : b ≠ a := fun hb => hkey (by rw [hb])
      rw [Function.update_of_ne hne]
      rfl
    · rfl

/-- A deposit is overwritten. -/
theorem total_setBridgeDeposit {n n' : Nat} (h : Total (deposits s denom) n)
    (hn : n' + (if denom = denom' then deposits s denom a else 0) = n + if denom = denom' then amount else 0) :
    Total (deposits (setBridgeDeposit s a.val denom' amount) denom) n' := by
  rw [deposits_setBridgeDeposit]
  split
  · rename_i heq
    rw [if_pos heq, if_pos heq] at hn
    exact h.update a hn
  · rename_i hne
    rw [if_neg hne, if_neg hne] at hn
    rwa [Nat.add_right_cancel hn]

end Bookkeeping

/-! ## Coins -/

section Coins

variable {env : Env} {tax : String → Nat → Nat} {bridge : String} {coins : List Coin}
  {balance balance' : String → Nat}

/-- What a coin costs the bridge. -/
def cost (tax : String → Nat → Nat) (denom : String) (c : Coin) : Nat :=
  if c.denom = denom then c.amount + tax c.denom c.amount else 0

/-- What the messages of the bridge cost of a denom. -/
def spent (tax : String → Nat → Nat) (denom : String) (messages : List CosmosMsg) : Nat :=
  (messages.map fun
    | .send _ coins => (coins.map (cost tax denom)).sum
    | .postMessage _ _ _ coins => (coins.map (cost tax denom)).sum
    | _ => 0).sum

theorem payCoin_le (denom : String) {toAddress : String} {c : Coin}
    (h : payCoin bridge tax toAddress balance c = some balance') :
    balance denom ≤ balance' denom + cost tax denom c := by
  unfold payCoin at h
  split at h
  · rw [← Option.some.inj h, Function.update_apply, cost]
    split
    · rename_i hle heq
      rw [if_pos heq.symm, heq]
      omega
    · rename_i hne
      rw [if_neg fun heq => hne heq.symm]
      exact Nat.le_add_right _ _
  · cases h

theorem payCoins_le (denom : String) {toAddress : String}
    (h : coins.foldlM (payCoin bridge tax toAddress) balance = some balance') :
    balance denom ≤ balance' denom + (coins.map (cost tax denom)).sum := by
  induction coins generalizing balance with
  | nil =>
    rw [← Option.some.inj h]
    exact Nat.le_add_right _ _
  | cons c coins ih =>
    rw [List.foldlM_cons] at h
    obtain ⟨balance₁, hpay, hrest⟩ := Option.bind_eq_some_iff.mp h
    have hfirst := payCoin_le denom hpay
    have hlater := ih hrest
    rw [List.map_cons, List.sum_cons]
    omega

/-- What is delivered costs no more than the messages say. -/
theorem deliver_le (denom : String) {messages : List CosmosMsg}
    (h : messages.foldlM (deliver bridge tax) balance = some balance') :
    balance denom ≤ balance' denom + spent tax denom messages := by
  induction messages generalizing balance with
  | nil =>
    rw [← Option.some.inj h]
    exact Nat.le_add_right _ _
  | cons msg messages ih =>
    rw [List.foldlM_cons] at h
    obtain ⟨balance₁, hmsg, hrest⟩ := Option.bind_eq_some_iff.mp h
    have hlater := ih hrest
    have hcons : spent tax denom (msg :: messages) = spent tax denom [msg] + spent tax denom messages := by
      simp only [spent, List.map_cons, List.map_nil, List.sum_cons, List.sum_nil, Nat.add_zero]
    have hfirst : balance denom ≤ balance₁ denom + spent tax denom [msg] := by
      cases msg with
      | send toAddress coins => exact payCoins_le denom hmsg
      | postMessage contractAddr message nonce coins => exact payCoins_le denom hmsg
      | _ =>
        rw [← Option.some.inj hmsg]
        exact Nat.le_add_right _ _
    rw [hcons]
    omega

theorem amountOf_cons (denom : String) (c : Coin) (coins : List Coin) :
    amountOf denom (c :: coins) = (if c.denom = denom then c.amount else 0) + amountOf denom coins := by
  rw [amountOf, List.map_cons, List.sum_cons]
  rfl

/-- **What is left after the tax** costs no more than there was. -/
theorem coinsAfterTax_cost (denom : String) {coins' : List Coin}
    (htaxed : ∀ denom amount rest, env.deductTax denom amount = .ok rest → rest + tax denom rest ≤ amount)
    (h : coinsAfterTax env coins = .ok coins') : (coins'.map (cost tax denom)).sum ≤ amountOf denom coins := by
  have hcoins := Go.mapM_eq_ok h
  clear h
  induction hcoins with
  | nil => exact le_rfl
  | @cons c c' coins coins' hcoin _ ih =>
    obtain ⟨rest, hdeduct, hcoin⟩ := Go.bind_eq_ok.mp hcoin
    obtain rfl := Go.ok.inj hcoin
    have hle := htaxed _ _ _ hdeduct
    rw [amountOf_cons, List.map_cons, List.sum_cons, cost]
    split
    · exact Nat.add_le_add hle ih
    · exact Nat.add_le_add le_rfl ih

theorem amountOf_singleton (denom : String) (c : Coin) :
    amountOf denom [c] = if c.denom = denom then c.amount else 0 := by
  rw [amountOf_cons]
  rfl

/-- The fee is sent after its tax. -/
theorem sendFee_cost (denom : String) {recipient denom₀ : String} {fee : Nat} {messages : List CosmosMsg}
    (htaxed : ∀ denom amount rest, env.deductTax denom amount = .ok rest → rest + tax denom rest ≤ amount)
    (h : sendFee env recipient denom₀ fee = .ok messages) :
    spent tax denom messages ≤ if denom₀ = denom then fee else 0 := by
  unfold sendFee at h
  split at h
  · obtain ⟨coins, hcoins, h⟩ := Go.bind_eq_ok.mp h
    rw [← Go.ok.inj h]
    have hcost := coinsAfterTax_cost denom htaxed hcoins
    rw [amountOf_singleton] at hcost
    exact hcost
  · rw [← Go.ok.inj h]
    exact Nat.zero_le _

end Coins

/-! ## What the calls do to the liabilities -/

section Calls

variable {keccak256 : List UInt8 → FixedBytes 32} {bridge : String} {cx : Context} {s s' : State} {denom : String}
  {messages : List CosmosMsg} {m : Nat}

/-- The denoms of the deposits are denoms of the chain. -/
def DepositsNamed (s : State) : Prop :=
  ∀ (a : Account) denom, (s.bridgeDeposit (bridgeDepositKey a.val denom)).isSome → IsDenom denom

theorem DepositsNamed.setBridgeDeposit (h : DepositsNamed s) (a : Account) {denom : String} (hdenom : IsDenom denom)
    (amount : Nat) : DepositsNamed (setBridgeDeposit s a.val denom amount) := by
  intro b denom' hset
  by_cases hkey : bridgeDepositKey b.val denom' = bridgeDepositKey a.val denom
  · obtain ⟨-, rfl⟩ := bridgeDepositKey_inj hkey
    exact hdenom
  · apply h b denom'
    rwa [show (TokenBridge.setBridgeDeposit s a.val denom amount).bridgeDeposit (bridgeDepositKey b.val denom') =
      s.bridgeDeposit (bridgeDepositKey b.val denom') from Function.update_of_ne hkey _ _] at hset

/-- A call keeps the books: the liabilities and what the messages cost are covered by what there was and what
came with it. -/
structure Books (tax : String → Nat → Nat) (funds : List Coin) (s s' : State) (messages : List CosmosMsg) : Prop where
  named : DepositsNamed s'
  owes : ∀ {denom m}, IsDenom denom → Owes s denom m →
    ∃ m', Owes s' denom m' ∧ m' + spent tax denom messages ≤ m + amountOf denom funds

theorem depositTokens_books {tax : String → Nat → Nat} {a : Account} {funds : List Coin} (hnamed : DepositsNamed s)
    (hfunds : ∀ c ∈ funds, IsDenom c.denom) (h : depositTokens s a.val funds = .ok s') :
    Books tax funds s s' [] := by
  induction funds generalizing s with
  | nil =>
    rw [← Go.ok.inj h]
    exact ⟨hnamed, fun {denom m} _ howes => ⟨m, howes, Nat.le_add_right _ _⟩⟩
  | cons c funds ih =>
    rw [depositTokens, List.foldlM_cons] at h
    obtain ⟨s₁, hcoin, hrest⟩ := Go.bind_eq_ok.mp h
    obtain ⟨total, htotal, hcoin⟩ := Go.bind_eq_ok.mp hcoin
    obtain rfl := Go.ok.inj hcoin
    have htotal := addUint_eq_ok htotal
    have hc := hfunds c List.mem_cons_self
    obtain ⟨hnamed', howes'⟩ := ih (hnamed.setBridgeDeposit a hc total)
      (fun c' hc' => hfunds c' (List.mem_cons_of_mem c hc')) hrest
    refine ⟨hnamed', ?_⟩
    intro denom m hdenom howes
    have hfirst : Owes (setBridgeDeposit s a.val c.denom total) denom
        (m + if c.denom = denom then c.amount else 0) := by
      obtain ⟨n, hn, rfl⟩ := howes
      refine ⟨n + if c.denom = denom then c.amount else 0, total_setBridgeDeposit hn ?_, Nat.add_right_comm ..⟩
      by_cases heq : denom = c.denom
      · subst heq
        rw [if_pos rfl, if_pos rfl, if_pos rfl, htotal, deposits]
        omega
      · rw [if_neg heq, if_neg heq, if_neg fun h => heq h.symm]
    obtain ⟨m', hm', hle⟩ := howes' hdenom hfirst
    refine ⟨m', hm', ?_⟩
    rw [amountOf_cons, ← Nat.add_assoc]
    exact hle

/-- The deposit that is emptied is sent. -/
theorem withdrawTokens_books {asset : AssetInfo} (hpromised : cx.Promised bridge) (hnamed : DepositsNamed s)
    (h : withdrawTokens cx.env s cx.sender.val asset = .ok (s', messages)) : Books cx.tax cx.funds s s' messages := by
  cases asset with
  | token contractAddr =>
    obtain ⟨rfl, rfl⟩ := Prod.mk.inj (Go.ok.inj h)
    exact ⟨hnamed, fun {denom m} _ howes => ⟨m, howes, Nat.le_add_right _ _⟩⟩
  | nativeToken denom₀ =>
    obtain ⟨deposited, hdeposited, h⟩ := Go.bind_eq_ok.mp h
    obtain ⟨coins, hcoins, h⟩ := Go.bind_eq_ok.mp h
    obtain ⟨rfl, rfl⟩ := Prod.mk.inj (Go.ok.inj h)
    rw [okOr_eq_ok] at hdeposited
    have hnamed₀ : IsDenom denom₀ := hnamed cx.sender denom₀ (by rw [hdeposited]; rfl)
    refine ⟨hnamed.setBridgeDeposit cx.sender hnamed₀ 0, ?_⟩
    intro denom m hdenom howes
    have hcost : spent cx.tax denom [.send cx.sender.val coins] ≤ if denom₀ = denom then deposited else 0 :=
      coinsAfterTax_cost denom hpromised.taxed hcoins
    obtain ⟨n, htotal, rfl⟩ := howes
    have hle := htotal.le cx.sender
    by_cases heq : denom = denom₀
    · subst heq
      have hheld : deposits s denom cx.sender = deposited := by
        rw [deposits, hdeposited]
        rfl
      rw [hheld] at hle
      refine ⟨_, ⟨n - deposited, total_setBridgeDeposit htotal ?_, rfl⟩, ?_⟩
      · rw [if_pos rfl, if_pos rfl, hheld]
        omega
      · rw [if_pos rfl] at hcost
        show n - deposited + outstanding s denom + _ ≤ _
        omega
    · refine ⟨_, ⟨n, total_setBridgeDeposit htotal ?_, rfl⟩, ?_⟩
      · rw [if_neg heq, if_neg heq]
      · rw [if_neg fun h => heq h.symm] at hcost
        show n + outstanding s denom + _ ≤ _
        omega

/-- The amount that is taken out of the deposit is outstanding. -/
theorem handleInitiateTransferNativeToken_books {denom₀ : String} {amount recipientChain fee nonce : Nat}
    {recipient : List UInt8} (hpromised : cx.Promised bridge) (hnamed : DepositsNamed s)
    (h : handleInitiateTransferNativeToken cx.env s cx.sender.val cx.funds denom₀ amount recipientChain recipient fee
      nonce = .ok (s', messages)) :
    IsDenom denom₀ ∧ Books cx.tax cx.funds s s' messages ∧
      ∀ denom, IsDenom denom → outstanding s' denom = outstanding s denom + if denom₀ = denom then amount else 0 := by
  obtain ⟨-, -, -, s₁, id, _, coins, htake, hid, hsend, -, hcoins, rfl⟩ := handleInitiateTransferNativeToken_eq_ok h
  simp only [takeDeposit, Go.bind_eq_ok, okOr_eq_ok, checkedSub_eq_some] at htake
  obtain ⟨deposited, hdeposited, rest, hrest, htake⟩ := htake
  obtain ⟨-, rfl⟩ := buildNativeId_eq_ok.mp hid
  have hset : setBridgeDeposit s cx.sender.val denom₀ rest = s₁ := Go.ok.inj htake
  have hnamed₀ : IsDenom denom₀ := hnamed cx.sender denom₀ (by
    show (s.bridgeDeposit (cx.sender.val ++ ":" ++ denom₀)).isSome
    rw [hdeposited]
    rfl)
  have hnamed₁ : DepositsNamed s₁ := hset ▸ hnamed.setBridgeDeposit cx.sender hnamed₀ rest
  have hid : ∀ {denom}, IsDenom denom → (nativeId denom = nativeId denom₀ ↔ denom₀ = denom) := by
    intro denom hdenom
    exact ⟨fun heq => (nativeId_inj hdenom hnamed₀ heq).symm, fun heq => by rw [heq]⟩
  have hcount : ∀ denom, IsDenom denom →
      outstanding s' denom = outstanding s denom + if denom₀ = denom then amount else 0 := by
    intro denom hdenom
    rw [outstanding, sendNative_counter hsend, ← hset, if_congr (hid hdenom) rfl rfl]
    rfl
  have hdeposits : s'.bridgeDeposit = s₁.bridgeDeposit := by
    obtain ⟨-, rfl⟩ := sendNative_eq_ok.mp hsend
    rfl
  refine ⟨hnamed₀, ⟨?_, ?_⟩, hcount⟩
  · unfold DepositsNamed
    rw [hdeposits]
    exact hnamed₁
  · intro denom m hdenom howes
    obtain ⟨n, htotal, rfl⟩ := howes
    have hle := htotal.le cx.sender
    have hcost := coinsAfterTax_cost denom hpromised.taxed hcoins
    have hsame : deposits s' denom = deposits (setBridgeDeposit s cx.sender.val denom₀ rest) denom := by
      unfold deposits
      rw [hdeposits, hset]
    have hheld : denom = denom₀ → deposits s denom cx.sender = rest + amount := by
      rintro rfl
      show (s.bridgeDeposit (cx.sender.val ++ ":" ++ denom)).getD 0 = _
      rw [hdeposited, hrest]
      rfl
    refine ⟨_, ⟨n - (if denom = denom₀ then amount else 0), ?_, rfl⟩, ?_⟩
    · rw [hsame]
      apply total_setBridgeDeposit htotal
      split
      · rename_i heq
        rw [hheld heq] at hle ⊢
        omega
      · rfl
    · rw [hcount denom hdenom]
      show _ + ((coins.map (cost cx.tax denom)).sum + 0) ≤ _
      by_cases heq : denom = denom₀
      · rw [hheld heq] at hle
        rw [if_pos heq, if_pos heq.symm]
        omega
      · rw [if_neg heq, if_neg fun h => heq h.symm]
        omega

/-- What was outstanding is sent. -/
theorem handleCompleteTransfer_books {emitterChain : Nat} {emitterAddress data : List UInt8}
    {transferInfo : TransferInfo} {denom₀ : String} (hpromised : cx.Promised bridge) (hnamed : DepositsNamed s)
    (hparse : TransferInfo.deserialize data = .ok transferInfo) (hdenom₀ : IsDenom denom₀)
    (haddress : transferInfo.tokenAddress = publishedAddress denom₀)
    (h : handleCompleteTransfer keccak256 cx.env s cx.sender.val emitterChain emitterAddress data =
      .ok (s', messages)) :
    Books cx.tax cx.funds s s' messages ∧ ∀ denom, IsDenom denom →
      outstanding s' denom + (if denom₀ = denom then transferInfo.amount.2 else 0) = outstanding s denom := by
  have hmarked : Marked transferInfo := by
    rw [Marked, haddress]
    rfl
  rw [handleCompleteTransfer_marked hparse hmarked] at h
  obtain ⟨⟨checked, targetAddress, amount⟩, hcheck, h⟩ := Go.bind_eq_ok.mp h
  obtain ⟨hparse', htotal⟩ := checkTransfer_total hcheck
  obtain rfl : transferInfo = checked := Go.ok.inj (hparse.symm.trans hparse')
  simp only [Go.bind_eq_ok, unwrap_eq_ok] at h
  obtain ⟨denom, hdenom, recipient, -, tokenAddress, htoken, total, hsum, s₁, hcounted, coins, hcoins, feeMessages,
    hfee, heq⟩ := h
  obtain ⟨rfl, rfl⟩ := Prod.mk.inj (Go.ok.inj heq)
  rw [haddress, serializedDenom_publishedAddress hdenom₀] at hdenom
  obtain rfl := Option.some.inj hdenom
  rw [haddress, getAddress_publishedAddress hdenom₀] at htoken
  obtain rfl := Go.ok.inj htoken
  rw [addUint_eq_ok hsum, htotal] at hcounted
  have hcount : ∀ denom, IsDenom denom →
      outstanding s₁ denom + (if denom₀ = denom then transferInfo.amount.2 else 0) = outstanding s denom := by
    intro denom hdenom
    have hid : nativeId denom = nativeId denom₀ ↔ denom₀ = denom :=
      ⟨fun heq => (nativeId_inj hdenom hdenom₀ heq).symm, fun heq => by rw [heq]⟩
    rw [outstanding, ← if_congr hid rfl rfl]
    exact receiveNative_counter hcounted
  have hdeposits : s₁.bridgeDeposit = s.bridgeDeposit := by
    obtain ⟨_, -, rfl⟩ := receiveNative_eq_ok.mp hcounted
    rfl
  refine ⟨⟨?_, ?_⟩, hcount⟩
  · unfold DepositsNamed
    rw [hdeposits]
    exact hnamed
  · intro denom m hdenom howes
    obtain ⟨n, htotal', rfl⟩ := howes
    have hsame : deposits s₁ denom = deposits s denom := by
      unfold deposits
      rw [hdeposits]
    refine ⟨_, ⟨n, by rwa [hsame], rfl⟩, ?_⟩
    have hcost := coinsAfterTax_cost denom hpromised.taxed hcoins
    have hfeeCost := sendFee_cost denom hpromised.taxed hfee
    have hcounted := hcount denom hdenom
    rw [amountOf_singleton] at hcost
    dsimp only at hcost
    show n + outstanding s₁ denom + ((coins.map (cost cx.tax denom)).sum + spent cx.tax denom feeMessages) ≤ _
    split at hcounted
    · rename_i heq
      rw [if_pos heq] at hcost hfeeCost
      omega
    · rename_i hne
      rw [if_neg hne] at hcost hfeeCost
      omega

end Calls

/-! ## Runs -/

section Runs

variable {keccak256 : List UInt8 → FixedBytes 32} {bridge : String} {w w' : World} {log : List Event} {e : Event}

/-- **The invariant.** The balance covers the liabilities, and what is outstanding was initiated and not
completed. -/
structure Solvent (w : World) (log : List Event) : Prop where
  named : DepositsNamed w.state
  covered : ∀ {denom}, IsDenom denom → ∃ m, Owes w.state denom m ∧ m ≤ w.balance denom
  counted : ∀ {denom}, IsDenom denom → outstanding w.state denom + completed denom log = initiated denom log

theorem Solvent.fresh (h : Fresh w) : Solvent w [] where
  named := by
    intro a denom hset
    rw [h.deposits] at hset
    cases hset
  covered := by
    intro denom _
    refine ⟨0, ⟨0, ?_, ?_⟩, Nat.zero_le _⟩
    · have hzero : deposits w.state denom = fun _ => 0 := by
        funext a
        rw [deposits, h.deposits]
        rfl
      rw [hzero]
      exact .zero
    · rw [outstanding, counter, h.counter]
      rfl
  counted := by
    intro denom _
    rw [outstanding, counter, h.counter]
    rfl

/-- **A call** keeps the books and counts what it initiates and completes. -/
theorem call_books {s s' : State} {messages : List CosmosMsg} (hok : Admissible bridge e) (hnamed : DepositsNamed s)
    (h : call keccak256 s e = .ok (s', messages)) :
    Books e.context.tax e.context.funds s s' messages ∧ ∀ denom, IsDenom denom →
      outstanding s' denom + e.completed denom = outstanding s denom + e.initiated denom := by
  obtain ⟨hpromised, hpublished⟩ := hok
  cases e with
  | deposit cx =>
    obtain ⟨s₁, hdeposit, h⟩ := Go.bind_eq_ok.mp h
    obtain ⟨rfl, rfl⟩ := Prod.mk.inj (Go.ok.inj h)
    refine ⟨depositTokens_books hnamed hpromised.denoms hdeposit, ?_⟩
    intro denom _
    obtain ⟨_, rfl⟩ := depositTokens_frame hdeposit
    rw [outstanding, counter]
    rfl
  | withdraw cx asset =>
    refine ⟨withdrawTokens_books hpromised hnamed h, ?_⟩
    intro denom _
    obtain ⟨_, rfl⟩ := withdrawTokens_frame h
    rw [outstanding, counter]
    rfl
  | initiate cx denom₀ amount recipientChain recipient fee nonce =>
    obtain ⟨-, hbooks, hcount⟩ := handleInitiateTransferNativeToken_books hpromised hnamed h
    exact ⟨hbooks, hcount⟩
  | complete cx emitterChain emitterAddress data =>
    obtain ⟨transferInfo, hparse, -⟩ := Go.bind_eq_ok.mp h
    obtain ⟨denom₀, hdenom₀, hnative⟩ := hpublished cx emitterChain emitterAddress data rfl transferInfo hparse
    have haddress : transferInfo.tokenAddress = publishedAddress denom₀ := (nativeAddress_eq_ok.mp hnative).2
    obtain ⟨hbooks, hcount⟩ := handleCompleteTransfer_books hpromised hnamed hparse hdenom₀ haddress h
    refine ⟨hbooks, ?_⟩
    intro denom hdenom
    have hkey : transferInfo.tokenAddress = publishedAddress denom ↔ denom₀ = denom := by
      rw [haddress]
      exact ⟨publishedAddress_inj hdenom₀ hdenom, fun heq => by rw [heq]⟩
    rw [Event.completed, hparse]
    show outstanding s' denom + (if transferInfo.tokenAddress = publishedAddress denom then transferInfo.amount.2
      else 0) = outstanding s denom
    rw [if_congr hkey rfl rfl]
    exact hcount denom hdenom

/-- **Step.** -/
theorem Solvent.step (h : Solvent w log) (hok : Admissible bridge e)
    (hstep : Solvency.step bridge keccak256 w e = some w') : Solvent w' (log ++ [e]) := by
  obtain ⟨⟨state, messages⟩, hcall, hstep⟩ := Option.bind_eq_some_iff.mp hstep
  obtain ⟨balance, hdeliver, hstep⟩ := Option.bind_eq_some_iff.mp hstep
  obtain rfl := Option.some.inj hstep
  obtain ⟨hbooks, hcount⟩ := call_books hok h.named (committed_eq_some.mp hcall)
  refine ⟨hbooks.named, ?_, ?_⟩
  · intro denom hdenom
    obtain ⟨m, howes, hle⟩ := h.covered hdenom
    obtain ⟨m', howes', hle'⟩ := hbooks.owes hdenom howes
    have hspent := deliver_le denom hdeliver
    rw [receiveFunds, if_neg hok.1.sender] at hspent
    refine ⟨m', howes', ?_⟩
    show m' ≤ balance denom
    omega
  · intro denom hdenom
    have hbefore := h.counted hdenom
    have hnow := hcount denom hdenom
    show outstanding state denom + completed denom (log ++ [e]) = initiated denom (log ++ [e])
    rw [completed, initiated, List.map_append, List.sum_append, List.map_append, List.sum_append, List.map_singleton,
      List.sum_singleton, List.map_singleton, List.sum_singleton]
    rw [completed, initiated] at hbefore
    omega

/-- **The bridge is solvent in native coins.** After every run, for every denom, its balance covers the deposits of
all accounts and what is outstanding; and what is outstanding is what was initiated less what was completed. -/
theorem native_solvency {w₀ : World} (hfresh : Fresh w₀)
    (hrun : Run (logging (step bridge keccak256) fun _ e => [e]) (fun _ e => Admissible bridge e) (w₀, []) (w, log)) :
    ∀ denom, IsDenom denom →
      (∃ n, Total (deposits w.state denom) n ∧ n + outstanding w.state denom ≤ w.balance denom) ∧
      completed denom log ≤ initiated denom log ∧
      outstanding w.state denom = initiated denom log - completed denom log := by
  have hsolvent : Solvent w log := by
    apply hrun.invariant (I := fun c => Solvent c.1 c.2) ?_ (.fresh hfresh)
    rintro ⟨w, log⟩ e ⟨w', log'⟩ h hok hstep
    obtain ⟨hstep, rfl⟩ := logging_eq_some.mp hstep
    exact h.step hok hstep
  intro denom hdenom
  obtain ⟨m, ⟨n, htotal, rfl⟩, hle⟩ := hsolvent.covered hdenom
  have hcounted := hsolvent.counted hdenom
  refine ⟨⟨n, htotal, hle⟩, ?_, ?_⟩
  · omega
  · omega

end Runs

/-! ## Inputs -/

section Inputs

/-- One part in 101 is the tax. -/
def sampleContext (funds : List Coin) : Context where
  env := {
    addrHumanize := fun _ => .ok "terra1user"
    addrCanonicalize := fun _ => .ok []
    tokenDecimals := fun _ => .ok 6
    deductTax := fun _ amount => .ok (amount * 100 / 101) }
  tax := fun _ amount => amount / 100
  sender := ⟨"terra1user", by decide⟩
  funds := funds

def sampleWorld : World where
  state := {
    wormholeContract := "terra1wormhole"
    bridgeContracts := fun _ => some []
    wrappedAsset := fun _ => none
    nativeCounter := fun _ => none
    bridgeDeposit := fun _ => none }
  balance := fun _ => 0

/-- 101 of the coins come back. -/
def returningTransfer : TransferInfo where
  amount := (0, 101)
  tokenAddress := publishedAddress "uluna"
  tokenChain := 3
  recipient := List.replicate 32 0x00
  recipientChain := 3
  fee := (0, 0)

def plainKeccak256 (bs : List UInt8) : FixedBytes 32 := ⟨(bs ++ List.replicate 32 0x00).take 32, plainKeccak_length bs⟩

/-- 1000 are deposited, of which 400 go out and the rest is withdrawn. -/
def sampleEvents : List Event := [
  .deposit (sampleContext [⟨"uluna", 1000⟩]),
  .initiate (sampleContext []) "uluna" 400 2 (List.replicate 32 0x11) 10 7,
  .complete (sampleContext []) 2 [] returningTransfer.serialize,
  .withdraw (sampleContext []) (.nativeToken "uluna")]

def sampleEnd : World × List Event :=
  attempts (logging (step "terra1bridge" plainKeccak256) fun _ e => [e]) (sampleWorld, []) sampleEvents

theorem isDenom_uluna : IsDenom "uluna" := ⟨by decide, by decide⟩

theorem sampleContext_promised {funds : List Coin} (hfunds : ∀ c ∈ funds, c.denom = "uluna") :
    (sampleContext funds).Promised "terra1bridge" where
  sender := by
    show "terra1user" ≠ "terra1bridge"
    decide
  denoms := by
    intro c hc
    rw [hfunds c hc]
    exact isDenom_uluna
  taxed := by
    intro denom amount rest h
    rw [← Go.ok.inj h]
    show amount * 100 / 101 + amount * 100 / 101 / 100 ≤ amount
    omega

/-- Of the 400 that went out 299 are outstanding, and the bridge has one more than that. -/
theorem sampleEnd_solvent :
    sampleEnd.2.length = 4 ∧ sampleEnd.1.balance "uluna" = 300 ∧
      (∃ n, Total (deposits sampleEnd.1.state "uluna") n ∧
        n + outstanding sampleEnd.1.state "uluna" ≤ sampleEnd.1.balance "uluna") ∧
      outstanding sampleEnd.1.state "uluna" = 299 := by
  have hreturns : TransferInfo.deserialize returningTransfer.serialize = .ok returningTransfer := by decide +kernel
  have hrun : Run (logging (step "terra1bridge" plainKeccak256) fun _ e => [e])
      (fun _ e => Admissible "terra1bridge" e) (sampleWorld, []) (sampleEnd.1, sampleEnd.2) := by
    apply run_attempts
    intro e he
    simp only [sampleEvents, List.mem_cons, List.not_mem_nil, or_false] at he
    obtain rfl | rfl | rfl | rfl := he
    · exact ⟨sampleContext_promised (by simp), nofun⟩
    · exact ⟨sampleContext_promised nofun, nofun⟩
    · refine ⟨sampleContext_promised nofun, ?_⟩
      rintro _ _ _ _ ⟨⟩ transferInfo hparse
      obtain rfl := Go.ok.inj (hreturns.symm.trans hparse)
      exact ⟨"uluna", isDenom_uluna, nativeAddress_eq_ok.mpr ⟨isDenom_uluna.length_le, rfl⟩⟩
    · exact ⟨sampleContext_promised nofun, nofun⟩
  obtain ⟨hcovered, -, -⟩ := native_solvency ⟨fun _ => rfl, fun _ => rfl⟩ hrun "uluna" isDenom_uluna
  exact ⟨by decide +kernel, by decide +kernel, hcovered, by decide +kernel⟩

end Inputs

end Wormhole.Terra.TokenBridge.Solvency

/-
# Wormhole.Ethereum.WrappedSupply — the supply of a wrapped token.

A wrapped token's `totalSupply` is the sum of its balances after any calls by anybody, and only its owner
changes it.  The owner is the bridge, which mints what it completes and burns what `transferTokens` takes: over
any run the supply of a wrapped asset is what was completed for it less what was burned
(`wrapped_supply`).  The one thing this rests on is that WETH is a contract of its own: the bridge would
pay out an unwrapped transfer of a wrapped WETH without minting it.
-/
import Mathlib
import Wormhole.Lib.Mapping
import Wormhole.Lib.Totals
import Wormhole.Lib.Transition
import Wormhole.Ethereum.Bridge
import Wormhole.Ethereum.TokenCalls
import Wormhole.Ethereum.WrappedAssets

namespace Wormhole.Ethereum

open Wormhole.Lib Wormhole.Lib.Failing Wormhole.Lib.Transition

/-! ## One token -/

namespace TokenImplementation

/-- A call of the contract by anybody. -/
def step (s : State) (input : Address × Call) : Option State := (input.2.run s input.1).toOption

/-- **A token by itself.** After any calls the supply is the sum of the balances, and a call that changes it
is the owner's. -/
theorem supply_invariant {s : State} (hrun : Run step (fun _ _ => True) State.empty s) :
    Total s.balances s.totalSupply ∧ ∀ msgSender call s', step s (msgSender, call) = some s' →
      s'.totalSupply ≠ s.totalSupply → msgSender = s.owner := by
  have hsupplied : Supplied s := by
    refine hrun.invariant ?_ Total.zero
    intro s input s' hs _ hstep
    exact (input.2.run_supply hs (toOption_eq_some hstep)).1
  refine ⟨hsupplied, ?_⟩
  intro msgSender call s' hstep hchanged
  have hcall : call.run s msgSender = .ok s' := toOption_eq_some hstep
  rcases Call.run_owner hcall with howner | ⟨hminted, hburned⟩
  · exact howner.symm
  · obtain ⟨-, hsupply⟩ := call.run_supply hsupplied hcall
    omega

end TokenImplementation

namespace Bridge

variable {ν : Type} (env : Environment ν)

/-! ## The supply over runs of the bridge -/

/-- What happens to the supply of a wrapped asset. -/
inductive Supply where
  | completed (token : Address) (amount : Nat)
  | burned (token : Address) (amount : Nat)

/-- The amounts completed for a token. -/
def completedOf (token : Address) (log : List Supply) : Nat :=
  (log.map fun
    | .completed asset amount => if asset = token then amount else 0
    | .burned .. => 0).sum

/-- The amounts of a token that were burned. -/
def burnedOf (token : Address) (log : List Supply) : Nat :=
  (log.map fun
    | .burned asset amount => if asset = token then amount else 0
    | .completed .. => 0).sum

/-- The wrapped asset of a transfer and its amount, denormalized. -/
def completedAmount (w : World ν) (transfer : Transfer) : Revert (Address × Nat) := do
  let token := w.bridge.wrappedAssets transfer.tokenChain transfer.tokenAddress
  return (token, ← deNormalizeAmount transfer.amount (← queryDecimals env w token))

/-- What a call completes. -/
def supplied (w : World ν) : Call ν → List Supply
  | .completeTransfer vm _ _ _ _ =>
    match parseTransfer vm.payload with
    | .ok transfer =>
      if transfer.tokenChain = w.bridge.chainId then [] else
      match completedAmount env w transfer with
      | .ok (token, amount) => [.completed token amount]
      | .error _ => []
    | .error _ => []
  | _ => []

/-- What `transferTokens` burns. -/
def burnt (s : State) (frame : Frame) (token : Address) : List Supply :=
  if frame.tokenChain = s.chainId then [] else [.burned token frame.amount]

/-- A transaction, as `Step`, with the log of the supply. -/
inductive SupplyStep : World ν × List Supply → World ν × List Supply → Prop where
  | call {s t : World ν × List Supply} {c : Call ν}
      (hcall : logging (Bridge.call env) (supplied env) s c = some t) : SupplyStep s t
  | transferTokens {w w' : World ν} {log : List Supply} {t : World ν × List Supply} {frame : Frame}
      {sender token : Address} {amount recipientChain : Nat} {recipient : Word}
      {arbiterFee nonce value sequence : Nat}
      (hbegin : beginTransferTokens env w sender token amount = .ok (w', frame))
      (hcalls : Run (logging (Bridge.call env) (supplied env)) (fun _ _ => (w.tokens token).isNone) (w', log) t)
      {w'' : World ν}
      (hfinish : finishTransferTokens env t.1 frame token recipientChain recipient arbiterFee nonce
        value = .ok (w'', sequence)) : SupplyStep (w, log) (w'', t.2 ++ burnt t.1.bridge frame token)

variable {env}

/-- The log and the supplies agree. -/
structure Backed (WETH : Address) (s : World ν × List Supply) : Prop where
  registry : AssetRegistry s.1
  WETH_eq : s.1.bridge.WETH = WETH
  unwrapped : s.1.tokens WETH = none
  owner : ∀ token t, s.1.tokens token = some t → t.owner = s.1.bridge.self
  supply : ∀ token t, s.1.tokens token = some t → TokenImplementation.Supplied t ∧
    t.totalSupply + burnedOf token s.2 = completedOf token s.2
  absent : ∀ token, s.1.tokens token = none → completedOf token s.2 = 0 ∧ burnedOf token s.2 = 0

section Steps

variable {WETH token : Address} {w w' : World ν} {log log' : List Supply}

theorem completedOf_append :
    completedOf token (log ++ log') = completedOf token log + completedOf token log' := by
  rw [completedOf, List.map_append, List.sum_append]
  rfl

theorem burnedOf_append : burnedOf token (log ++ log') = burnedOf token log + burnedOf token log' := by
  rw [burnedOf, List.map_append, List.sum_append]
  rfl

namespace Backed

theorem of_fresh (h : Fresh w) (hWETH : w.bridge.WETH = WETH) : Backed WETH (w, []) where
  registry := .of_fresh h
  WETH_eq := hWETH
  unwrapped := h.tokens WETH
  owner := by
    intro token t ht
    rw [h.tokens token] at ht
    cases ht
  supply := by
    intro token t ht
    rw [h.tokens token] at ht
    cases ht
  absent := fun _ _ => ⟨rfl, rfl⟩

/-- Calls of wrapped tokens that the log tells of. -/
theorem calls {calls : List TokenCall} (h : Backed WETH (w, log)) (hcalls : Calls w calls w')
    (hlog : ∀ token, completedOf token log' = minted token calls ∧ burnedOf token log' = burned token calls) :
    Backed WETH (w', log ++ log') := by
  have hsame := hcalls.sameRegistry
  have hback : ∀ token t', w'.tokens token = some t' → ∃ t, w.tokens token = some t := by
    intro token t' ht'
    cases ht : w.tokens token with
    | some t => exact ⟨t, rfl⟩
    | none =>
      rw [(hcalls.absent ht).1] at ht'
      cases ht'
  constructor
  · exact (Evolves.calls hcalls).registry h.registry
  · exact hsame.WETH.trans h.WETH_eq
  · exact (hcalls.absent h.unwrapped).1
  · intro token t' ht'
    obtain ⟨t, ht⟩ := hback token t' ht'
    obtain ⟨t₁, ht₁, hconstants⟩ := hcalls.sameContract ht (h.registry.foreign token t ht).1
    obtain rfl : t₁ = t' := Option.some.inj (ht₁.symm.trans ht')
    exact hconstants.owner.trans ((h.owner token t ht).trans hsame.self.symm)
  · intro token t' ht'
    obtain ⟨t, ht⟩ := hback token t' ht'
    obtain ⟨hs, hbacked⟩ : TokenImplementation.Supplied t ∧
      t.totalSupply + burnedOf token log = completedOf token log := h.supply token t ht
    obtain ⟨t₁, ht₁, hs', hsupply⟩ := hcalls.supply ht hs
    obtain rfl : t₁ = t' := Option.some.inj (ht₁.symm.trans ht')
    refine ⟨hs', ?_⟩
    rw [completedOf_append, burnedOf_append, (hlog token).1, (hlog token).2]
    omega
  · intro token ht'
    have ht : w.tokens token = none := by
      cases ht : w.tokens token with
      | none => rfl
      | some t =>
        obtain ⟨t₁, ht₁, -⟩ := hcalls.supply ht (h.supply token t ht).1
        rw [ht'] at ht₁
        cases ht₁
    obtain ⟨-, hminted, hburned⟩ := hcalls.absent ht
    obtain ⟨hcompleted, hburnt⟩ := h.absent token ht
    rw [completedOf_append, burnedOf_append, (hlog token).1, (hlog token).2, hminted, hburned, hcompleted,
      hburnt]
    exact ⟨rfl, rfl⟩

theorem quiet (h : Backed WETH (w, log)) (hquiet : QuietCalls w w') : Backed WETH (w', log) := by
  obtain ⟨calls, hcalls, hquiet⟩ := hquiet
  rw [← List.append_nil log]
  exact h.calls hcalls fun token => ⟨(hquiet.supply token).1.symm, (hquiet.supply token).2.symm⟩

/-- A deployment. -/
theorem createWrapped {vm : VM} {valid : Bool} {reason : String} (h : Backed WETH (w, log))
    (hWETH : ∀ e, env.hasCode e WETH = true)
    (hcreate : Bridge.createWrapped env w vm valid reason = .ok (w', token)) : Backed WETH (w', log) := by
  obtain ⟨meta', t, -, -, -, -, -, howner, hsupplied, hsupply, hfree, hcode, -, hw'⟩ :=
    createWrapped_eq_ok hcreate
  have htokens : w'.tokens = Function.update w.tokens token (some t) := by rw [hw']; rfl
  have hself : w'.bridge.self = w.bridge.self := by rw [hw']; rfl
  have hne : WETH ≠ token := by
    rintro rfl
    rw [hWETH] at hcode
    cases hcode
  constructor
  · exact (Evolves.createWrapped hcreate).registry h.registry
  · rw [← h.WETH_eq, hw']
    rfl
  · show w'.tokens WETH = none
    rw [htokens, Function.update_of_ne hne]
    exact h.unwrapped
  · intro a t₁ ht₁
    show t₁.owner = w'.bridge.self
    rw [htokens] at ht₁
    rw [hself]
    rcases Mapping.update_eq_some ht₁ with ⟨rfl, rfl⟩ | ht₁
    · exact howner
    · exact h.owner a t₁ ht₁
  · intro a t₁ ht₁
    rw [htokens] at ht₁
    rcases Mapping.update_eq_some ht₁ with ⟨rfl, rfl⟩ | ht₁
    · obtain ⟨hcompleted, hburned⟩ := h.absent a hfree
      refine ⟨hsupplied, ?_⟩
      rw [hsupply, hcompleted, hburned]
    · exact h.supply a t₁ ht₁
  · intro a ha
    apply h.absent a
    rw [htokens] at ha
    by_cases heq : a = token
    · rw [heq, Function.update_self] at ha
      cases ha
    · rwa [Function.update_of_ne heq] at ha

/-- A completed transfer. -/
theorem completeTransfer {vm : VM} {valid unwrapWETH : Bool} {reason : String} {sender : Address}
    (h : Backed WETH (w, log))
    (hcomplete : Bridge.completeTransfer env w vm valid reason sender unwrapWETH = .ok w') :
    Backed WETH (w', log ++ supplied env w (.completeTransfer vm valid reason sender unwrapWETH)) := by
  obtain ⟨transfer, token, decimals, amount, hparse, hwrapped, hunwrap, hdecimals, hamount, calls, hcalls,
    hsupply⟩ := completeTransfer_mints hcomplete
  apply h.calls hcalls
  intro asset
  rw [(hsupply asset).1, (hsupply asset).2]
  by_cases hnative : transfer.tokenChain = w.bridge.chainId
  · have hlog : supplied env w (.completeTransfer vm valid reason sender unwrapWETH) = [] := by
      simp only [supplied, hparse, if_pos hnative]
    have hminted : mintedBy w.bridge unwrapWETH transfer.tokenChain amount = 0 := if_pos (.inr hnative)
    rw [hlog, hminted, ite_self]
    exact ⟨rfl, rfl⟩
  · obtain ⟨htoken, hset⟩ := hwrapped hnative
    -- a wrapped asset is not WETH, so nothing is unwrapped
    have hpaid : unwrapWETH = false := by
      cases unwrapWETH with
      | false => rfl
      | true =>
        obtain ⟨t, ht, -⟩ := h.registry.consistent.named (transfer.tokenChain, transfer.tokenAddress)
          (show w.bridge.wrappedAssets _ _ ≠ zeroAddress from htoken ▸ hset)
        have hWETH : w.tokens token = none := by
          rw [hunwrap rfl, h.WETH_eq]
          exact h.unwrapped
        rw [htoken] at hWETH
        cases hWETH.symm.trans ht
    have hlog : supplied env w (.completeTransfer vm valid reason sender unwrapWETH) =
        [.completed token amount] := by
      have hcompleted : completedAmount env w transfer = .ok (token, amount) := by
        rw [completedAmount, ← htoken, hdecimals, ok_bind, hamount]
        rfl
      simp only [supplied, hparse, if_neg hnative, hcompleted]
    have hminted : mintedBy w.bridge unwrapWETH transfer.tokenChain amount = amount :=
      if_neg (by simp [hpaid, hnative])
    rw [hlog, hminted]
    by_cases ha : asset = token
    · simp [completedOf, burnedOf, ha]
    · simp [completedOf, burnedOf, ha, Ne.symm ha]

/-- **Step**, of one call. -/
theorem call {c : Call ν} (h : Backed WETH (w, log)) (hWETH : ∀ e, env.hasCode e WETH = true)
    (hcall : Bridge.call env w c = some w') : Backed WETH (w', log ++ supplied env w c) := by
  have hquiet : ∀ c, (∀ vm valid reason sender unwrapWETH,
      c ≠ Call.completeTransfer vm valid reason sender unwrapWETH) → supplied env w c = [] := by
    intro c hc
    cases c with
    | completeTransfer vm valid reason sender unwrapWETH => exact absurd rfl (hc _ _ _ _ _)
    | _ => rfl
  cases call_tokenEffect hcall with
  | quiet hc hcalls =>
    rw [hquiet c hc, List.append_nil]
    exact h.quiet hcalls
  | completeTransfer hcomplete => exact h.completeTransfer hcomplete
  | createWrapped hcreate =>
    rw [hquiet _ (by intros; nofun), List.append_nil]
    exact h.createWrapped hWETH hcreate
  | @token sender token tokenCall t t' hsender ht hrun =>
    rw [hquiet _ (by intros; nofun), List.append_nil]
    apply h.quiet
    refine ⟨_, .token ht hrun, ?_⟩
    rcases TokenImplementation.Call.run_owner hrun with howner | ⟨hminted, hburned⟩
    · exact absurd (howner.symm.trans (h.owner token t ht)) hsender
    · exact .singleton hminted hburned

/-- **Step.** -/
theorem of_step {s s' : World ν × List Supply} (h : Backed WETH s) (hWETH : ∀ e, env.hasCode e WETH = true)
    (hstep : SupplyStep env s s') : Backed WETH s' := by
  cases hstep with
  | call hcall =>
    obtain ⟨w, log⟩ := s
    obtain ⟨w', log'⟩ := s'
    obtain ⟨hcall, hlog⟩ := logging_eq_some.mp hcall
    obtain rfl : log' = log ++ _ := hlog
    exact h.call hWETH hcall
  | @transferTokens w w' log t frame sender token amount recipientChain recipient arbiterFee nonce value
      sequence hbegin hcalls w'' hfinish =>
    have hstart := h.quiet (beginTransferTokens_calls hbegin)
    have hmiddle : Backed WETH t := by
      refine hcalls.invariant ?_ hstart
      rintro ⟨w₁, log₁⟩ c ⟨w₂, log₂⟩ hs - hstep
      obtain ⟨hcall, hlog⟩ := logging_eq_some.mp hstep
      obtain rfl : log₂ = log₁ ++ _ := hlog
      exact hs.call hWETH hcall
    obtain ⟨calls, hcalls, hsupply⟩ := finishTransferTokens_calls hfinish
    obtain ⟨w₁, log₁⟩ := t
    apply hmiddle.calls hcalls
    intro asset
    obtain ⟨hminted, hburned⟩ := hsupply asset
    rw [hminted, hburned]
    unfold burnt burnedBy
    split
    · rw [ite_self]
      exact ⟨rfl, rfl⟩
    · by_cases ha : asset = token
      · simp [completedOf, burnedOf, ha]
      · simp [completedOf, burnedOf, ha, Ne.symm ha]

/-- **Run.** -/
theorem run {s s' : World ν × List Supply} (h : Backed WETH s) (hWETH : ∀ e, env.hasCode e WETH = true)
    (hrun : Relation.ReflTransGen (SupplyStep env) s s') : Backed WETH s' := by
  induction hrun with
  | refl => exact h
  | tail _ hlast ih => exact ih.of_step hWETH hlast

end Backed

end Steps

/-- **The supply of wrapped tokens.** By any calls of anybody the supply of a token contract stays the sum of
its balances, and only the owner changes it.  Over any run of the bridge the supply of a wrapped asset and
what was burned of it make up what was completed for it. -/
theorem wrapped_supply {w₀ : World ν} (hfresh : Fresh w₀)
    (hWETH : ∀ e, env.hasCode e w₀.bridge.WETH = true) :
    (∀ s, Run TokenImplementation.step (fun _ _ => True) .empty s →
      Total s.balances s.totalSupply ∧
      ∀ msgSender call s', TokenImplementation.step s (msgSender, call) = some s' →
        s'.totalSupply ≠ s.totalSupply → msgSender = s.owner) ∧
    ∀ w log, Relation.ReflTransGen (SupplyStep env) (w₀, []) (w, log) → ∀ token t, w.tokens token = some t →
      Total t.balances t.totalSupply ∧ t.totalSupply + burnedOf token log = completedOf token log := by
  refine ⟨fun s hrun => TokenImplementation.supply_invariant hrun, ?_⟩
  intro w log hrun token t ht
  have hstart : Backed w₀.bridge.WETH (w₀, []) := .of_fresh hfresh rfl
  exact (hstart.run hWETH hrun).supply token t ht

/-! ## A sample run -/

def sampleHolder : Address := ⟨List.replicate 20 0xa1, rfl⟩

theorem sampleToken_length : (List.replicate 20 (0xcc : UInt8)).length = 20 := rfl

/-- The token that is deployed. -/
def sampleToken : Address := ⟨List.replicate 20 0xcc, sampleToken_length⟩

/-- Five units of a token of chain 2 come in, and their holder lets the bridge have them. -/
def sampleHeld : World Nat × List Supply :=
  attempts (logging (call sampleWETHEnvironment) (supplied sampleWETHEnvironment)) (sampleWETHWorld, []) [
    .registerChain (sampleVM 1 (List.replicate 32 0x04)
      (module ++ [0x01, 0x00, 0x00, 0x00, 0x02] ++ List.replicate 32 0x08) [0x01]) true "",
    .createWrapped (sampleVM 2 (List.replicate 32 0x08)
      (encodeAssetMeta {
        tokenAddress := ⟨List.replicate 32 0x09, sampleAttested_length⟩, tokenChain := 2, decimals := 8,
        symbol := zeroWord, name := zeroWord }) [0x02]) true "",
    .completeTransfer (sampleVM 2 (List.replicate 32 0x08)
      (encodeTransfer {
        amount := 5, tokenAddress := ⟨List.replicate 32 0x09, sampleAttested_length⟩, tokenChain := 2,
        recipient := sampleHolder.toWord, toChain := 4, fee := 0 }) [0x03]) true "" zeroAddress false,
    .token sampleHolder sampleToken (.approve sampleSelf 5)]

theorem sampleHeld_run :
    Relation.ReflTransGen (SupplyStep sampleWETHEnvironment) (sampleWETHWorld, []) sampleHeld := by
  have hrun : Run (logging (Bridge.call sampleWETHEnvironment) (supplied sampleWETHEnvironment))
      (fun _ _ => True) (sampleWETHWorld, []) sampleHeld := run_attempts (P := fun _ => True) _ _ fun _ _ => trivial
  apply Relation.ReflTransGen.mono ?_ _ _ hrun
  rintro s t ⟨c, -, hcall⟩
  exact .call hcall

/-- The holder sends two of them back. -/
def sampleReturn : Revert (World Nat × Frame × World Nat) := do
  let (w, frame) ← beginTransferTokens sampleWETHEnvironment sampleHeld.1 sampleHolder sampleToken 2
  let (w', _) ← finishTransferTokens sampleWETHEnvironment w frame sampleToken 2 zeroWord 0 0 0
  return (w, frame, w')

theorem wrapped_supply_sample :
    ∃ w log t, Relation.ReflTransGen (SupplyStep sampleWETHEnvironment) (sampleWETHWorld, []) (w, log) ∧
      w.tokens sampleToken = some t ∧ t.totalSupply = 3 ∧
      t.totalSupply + burnedOf sampleToken log = completedOf sampleToken log := by
  have hsupply : (sampleReturn.toOption.bind fun result =>
      (result.2.2.tokens sampleToken).map TokenImplementation.State.totalSupply) = some 3 := by
    decide +kernel
  obtain ⟨⟨w, frame, w'⟩, hreturn, hsupply⟩ := Option.bind_eq_some_iff.mp hsupply
  obtain ⟨t, ht, hthree⟩ := Option.map_eq_some_iff.mp hsupply
  have hreturn := toOption_eq_some hreturn
  simp only [sampleReturn, bind_eq_ok] at hreturn
  obtain ⟨⟨w₁, frame₁⟩, hbegin, ⟨w₂, sequence⟩, hfinish, hreturn⟩ := hreturn
  cases hreturn
  have hrun := sampleHeld_run
  generalize sampleHeld = held at hbegin hrun
  obtain ⟨w₀, log⟩ := held
  have hrun := hrun.tail (.transferTokens hbegin (.refl _) hfinish)
  have hfresh : Fresh sampleWETHWorld :=
    ⟨rfl, fun _ => rfl, fun _ _ => rfl, fun _ => rfl, fun _ => rfl⟩
  have hWETH : ∀ e, sampleWETHEnvironment.hasCode e sampleWETHWorld.bridge.WETH = true := by
    intro e
    simp [sampleWETHEnvironment, sampleWETHWorld]
  exact ⟨w₂, _, t, hrun, ht, hthree, ((wrapped_supply hfresh hWETH).2 w₂ _ hrun sampleToken t ht).2⟩

end Bridge

end Wormhole.Ethereum

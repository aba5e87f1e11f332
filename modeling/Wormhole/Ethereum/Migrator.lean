/-
# Wormhole.Ethereum.Migrator — the migration pool on the EVM.

The pool swaps a token for its successor.  Liquidity is put in in the new token and the shares count its units;
a migrator leaves old tokens and takes new ones, and the holders of shares may take either (`Migrator.sol`).
The ERC-20 contracts, the pool's own among them, are parameters: standard tokens.

Each token has a weight, the excess of the other one's decimals, so that weighed amounts are of one size; every
conversion loses value, if at all, to the pool.  So what the pool holds is worth at least its shares, and what has
been taken out at most what has been put in (`pool_solvent`).
-/
import Mathlib
import Wormhole.Lib.Failing
import Wormhole.Lib.Totals
import Wormhole.Lib.Transition
import Wormhole.Lib.Scaling
import Wormhole.Lib.FungibleToken
import Wormhole.Ethereum.Evm

namespace Wormhole.Ethereum.Migrator

open Wormhole.Lib Wormhole.Lib.Failing Wormhole.Lib.Transition

/-! ## The contract -/

/-- What the constructor is given, the contract's address, and the decimals that it reads from the tokens. -/
structure Pool where
  self : Address
  fromAsset : Address
  toAsset : Address
  decimals : Address → Nat

def Pool.fromDecimals (p : Pool) : Nat := p.decimals p.fromAsset
def Pool.toDecimals (p : Pool) : Nat := p.decimals p.toAsset

/-- The pool's own token, the tokens by their addresses, and, in weighed amounts, what has been put in and taken
out. -/
structure World (τ σ : Type) where
  shares : τ
  assets : Address → σ
  paidIn : Nat
  paidOut : Nat

variable {τ σ : Type} (LP : FungibleToken τ Address) (T : FungibleToken σ Address) (p : Pool)

/-- A call of a token, `SafeERC20`'s or an internal one. -/
def called {α : Type} (reason : String) : Option α → Revert α
  | some a => .ok a
  | none => .error reason

/-- `10 ** exponent`. -/
def powUint (exponent : Nat) : Revert Nat :=
  if 10 ^ exponent < 2 ^ 256 then .ok (10 ^ exponent) else .error arithmeticPanic

def adjustDecimals (fromDecimals toDecimals amount : Nat) : Revert Nat :=
  if fromDecimals > toDecimals then do
    return amount / (← powUint (fromDecimals - toDecimals))
  else if fromDecimals < toDecimals then do
    mulUint amount (← powUint (toDecimals - fromDecimals))
  else .ok amount

/-- `SafeERC20.safeTransferFrom(asset, msg.sender, address(this), amount)`. -/
def takeIn (w : World τ σ) (asset sender : Address) (amount : Nat) : Revert (World τ σ) := do
  let asset' ← called "SafeERC20: low-level call failed"
    (T.transferFrom (w.assets asset) p.self sender p.self amount)
  return { w with assets := Function.update w.assets asset asset' }

/-- `SafeERC20.safeTransfer(asset, msg.sender, amount)`. -/
def payOut (w : World τ σ) (asset sender : Address) (amount : Nat) : Revert (World τ σ) := do
  let asset' ← called "SafeERC20: low-level call failed" (T.transfer (w.assets asset) p.self sender amount)
  return { w with assets := Function.update w.assets asset asset' }

/-- `_amount` denominated in `toAsset` -/
def add (w : World τ σ) (sender : Address) (amount : Nat) : Revert (World τ σ) := do
  let w ← takeIn T p w p.toAsset sender amount
  return { w with shares := ← called "ERC20: mint to the zero address" (LP.mint w.shares sender amount) }

/-- Burn LP shares. -/
def burnShares (w : World τ σ) (sender : Address) (amount : Nat) : Revert (World τ σ) := do
  return { w with shares := ← called "ERC20: burn amount exceeds balance" (LP.burn w.shares sender amount) }

/-- `_amount` denominated in LP shares -/
def remove (w : World τ σ) (sender : Address) (amount : Nat) : Revert (World τ σ) := do
  let w ← burnShares LP w sender amount
  payOut T p w p.toAsset sender amount

/-- `_amount` denominated in LP shares -/
def claim (w : World τ σ) (sender : Address) (amount : Nat) : Revert (World τ σ) := do
  let w ← burnShares LP w sender amount
  payOut T p w p.fromAsset sender (← adjustDecimals p.toDecimals p.fromDecimals amount)

/-- `_amount` denominated in `fromToken` -/
def migrate (w : World τ σ) (sender : Address) (amount : Nat) : Revert (World τ σ) := do
  let w ← takeIn T p w p.fromAsset sender amount
  payOut T p w p.toAsset sender (← adjustDecimals p.fromDecimals p.toDecimals amount)

/-! ## Value -/

/-- The weight of a unit of the new token, and of a share. -/
def Pool.toWeight : Nat := 10 ^ (p.fromDecimals - p.toDecimals)

/-- The weight of a unit of the old token. -/
def Pool.fromWeight : Nat := 10 ^ (p.toDecimals - p.fromDecimals)

/-- The pool's balance of a token. -/
def held (w : World τ σ) (asset : Address) : Nat := T.balanceOf (w.assets asset) p.self

/-- What the pool holds, weighed; a pool from a token to itself holds it once. -/
def value (w : World τ σ) : Nat :=
  held T p w p.toAsset * p.toWeight +
    if p.fromAsset = p.toAsset then 0 else held T p w p.fromAsset * p.fromWeight

inductive Call where
  | add (amount : Nat)
  | remove (amount : Nat)
  | claim (amount : Nat)
  | migrate (amount : Nat)

def Call.run (w : World τ σ) (sender : Address) : Call → Revert (World τ σ)
  | .add amount => Migrator.add LP T p w sender amount
  | .remove amount => Migrator.remove LP T p w sender amount
  | .claim amount => Migrator.claim LP T p w sender amount
  | .migrate amount => Migrator.migrate T p w sender amount

/-- The weighed amount that a call puts in. -/
def Call.paidIn : Call → Nat
  | .add amount => amount * p.toWeight
  | .remove _ => 0
  | .claim _ => 0
  | .migrate amount => amount * p.fromWeight

/-- The weighed amount that a call takes out. -/
def Call.paidOut : Call → Nat
  | .add _ => 0
  | .remove amount => amount * p.toWeight
  | .claim amount => scaled p.toDecimals p.fromDecimals amount * p.fromWeight
  | .migrate amount => scaled p.fromDecimals p.toDecimals amount * p.toWeight

/-- A call of a user, or what else happens to the tokens. -/
inductive Input (τ σ : Type) where
  | call (sender : Address) (c : Call)
  | asset (address : Address) (s : σ)
  | shares (s : τ)

def step (w : World τ σ) : Input τ σ → Option (World τ σ)
  | .call sender c => (c.run LP T p w sender).toOption.map fun w' =>
      { w' with paidIn := w.paidIn + c.paidIn p, paidOut := w.paidOut + c.paidOut p }
  | .asset address s =>
    let w' := { w with assets := Function.update w.assets address s }
    some { w' with paidIn := w.paidIn + (value T p w' - value T p w) }
  | .shares s => some { w with shares := s }

/-- The contract calls nobody, so that it never calls itself and lets nobody spend its tokens; outside of the
calls shares only change hands. -/
def Admissible (w : World τ σ) : Input τ σ → Prop
  | .call sender _ => sender ≠ p.self
  | .asset address s => T.balanceOf (w.assets address) p.self ≤ T.balanceOf s p.self
  | .shares s => LP.totalSupply s = LP.totalSupply w.shares ∧ (LP.Supplied w.shares → LP.Supplied s)

/-! ## What the calls do -/

section Calls

variable {LP T p} {w w' : World τ σ} {asset sender : Address} {amount n : Nat}

/-- The pool's balance of one token has become `n`, and nothing else of what it holds has changed. -/
structure Rebalanced (T : FungibleToken σ Address) (p : Pool) (w w' : World τ σ) (asset : Address) (n : Nat) :
    Prop where
  shares : w'.shares = w.shares
  balance : held T p w' asset = n
  others : ∀ other, other ≠ asset → held T p w' other = held T p w other

theorem rebalanced_update (w : World τ σ) (asset : Address) (s : σ) :
    Rebalanced T p w { w with assets := Function.update w.assets asset s } asset (T.balanceOf s p.self) where
  shares := rfl
  balance := by
    show T.balanceOf (Function.update w.assets asset s asset) p.self = _
    rw [Function.update_self]
  others := by
    intro other hother
    show T.balanceOf (Function.update w.assets asset s other) p.self = _
    rw [Function.update_of_ne hother]
    rfl

theorem called_eq_ok {α : Type} {reason : String} {x : Option α} {a : α} :
    called reason x = .ok a ↔ x = some a := by
  cases x <;> simp [called]

theorem takeIn_eq_ok (hT : T.Standard) (hsender : sender ≠ p.self)
    (h : takeIn T p w asset sender amount = .ok w') :
    Rebalanced T p w w' asset (held T p w asset + amount) := by
  obtain ⟨s, hcall, heq⟩ := bind_eq_ok.mp h
  rw [← Except.ok.inj heq]
  have hpaid := (hT.transferFrom (called_eq_ok.mp hcall)).balanceOf
  have hheld : T.balanceOf s p.self = held T p w asset + amount := by
    rw [hpaid, FungibleToken.paid_recipient hsender]
    rfl
  rw [← hheld]
  exact rebalanced_update w asset s

theorem payOut_eq_ok (hT : T.Standard) (hsender : sender ≠ p.self)
    (h : payOut T p w asset sender amount = .ok w') :
    amount ≤ held T p w asset ∧ Rebalanced T p w w' asset (held T p w asset - amount) := by
  obtain ⟨s, hcall, heq⟩ := bind_eq_ok.mp h
  rw [← Except.ok.inj heq]
  obtain ⟨hle, hpaid, -⟩ := hT.transfer (called_eq_ok.mp hcall)
  have hheld : T.balanceOf s p.self = held T p w asset - amount := by
    rw [hpaid, FungibleToken.paid_sender hsender.symm]
    rfl
  refine ⟨hle, ?_⟩
  rw [← hheld]
  exact rebalanced_update w asset s

/-- Of a token and itself neither weighs more. -/
theorem weights_self (h : p.fromAsset = p.toAsset) : p.fromWeight = 1 ∧ p.toWeight = 1 := by
  have hdecimals : p.fromDecimals = p.toDecimals := congrArg p.decimals h
  rw [Pool.fromWeight, Pool.toWeight, hdecimals, Nat.sub_self]
  exact ⟨rfl, rfl⟩

theorem Rebalanced.value_to (h : Rebalanced T p w w' p.toAsset n) :
    value T p w' + held T p w p.toAsset * p.toWeight = value T p w + n * p.toWeight := by
  rw [value, value, h.balance]
  split
  · omega
  · rename_i hne
    rw [h.others _ hne]
    omega

theorem Rebalanced.value_from (h : Rebalanced T p w w' p.fromAsset n) :
    value T p w' + held T p w p.fromAsset * p.fromWeight = value T p w + n * p.fromWeight := by
  by_cases hsame : p.fromAsset = p.toAsset
  · obtain ⟨hfrom, hto⟩ := weights_self hsame
    have hvalue := Rebalanced.value_to (hsame ▸ h)
    rw [hfrom, hsame]
    rwa [hto] at hvalue
  · rw [value, value, if_neg hsame, if_neg hsame, h.balance, h.others _ (Ne.symm hsame)]
    omega

/-- What the truncating conversion yields. -/
theorem adjustDecimals_eq_ok {d d' x : Nat} (h : adjustDecimals d d' amount = .ok x) :
    x = scaled d d' amount := by
  unfold adjustDecimals powUint at h
  split at h
  · rename_i hgt
    split at h
    · rw [scaled_of_ge amount hgt.le]
      exact (Except.ok.inj h).symm
    · cases h
  · split at h
    · rename_i hlt
      split at h
      · rw [scaled_of_le amount hlt.le]
        obtain ⟨_, hpow, hmul⟩ := bind_eq_ok.mp h
        rw [← Except.ok.inj hpow] at hmul
        unfold mulUint at hmul
        split at hmul
        · exact (Except.ok.inj hmul).symm
        · cases hmul
      · cases h
    · have heq : d = d' := by omega
      rw [heq, scaled_of_le amount le_rfl, Nat.sub_self, pow_zero, Nat.mul_one]
      exact (Except.ok.inj h).symm

/-- What a call that goes through has done: the value moves as paid, and shares are worth what is paid for
them. -/
structure Ran (LP : FungibleToken τ Address) (T : FungibleToken σ Address) (p : Pool) (w w' : World τ σ)
    (c : Call) : Prop where
  balanced : value T p w' + c.paidOut p = value T p w + c.paidIn p
  supplied : LP.Supplied w'.shares
  covered : LP.totalSupply w'.shares * p.toWeight + c.paidOut p ≤
    LP.totalSupply w.shares * p.toWeight + c.paidIn p

theorem burnShares_eq_ok (hLP : LP.Standard) (hs : LP.Supplied w.shares)
    (h : burnShares LP w sender amount = .ok w') :
    LP.Supplied w'.shares ∧ LP.totalSupply w'.shares + amount = LP.totalSupply w.shares ∧
      ∀ asset, held T p w' asset = held T p w asset := by
  obtain ⟨shares, hcall, heq⟩ := bind_eq_ok.mp h
  rw [← Except.ok.inj heq]
  have hburn := called_eq_ok.mp hcall
  obtain ⟨hle, -, hsupply⟩ := hLP.burn hburn
  refine ⟨hLP.burn_supplied hs hburn, ?_, fun _ => rfl⟩
  show LP.totalSupply shares + amount = LP.totalSupply w.shares
  rw [hsupply]
  exact Nat.sub_add_cancel (hle.trans (hs.le sender))

/-- The value after a payment to the pool. -/
theorem value_takeIn_to (h : Rebalanced T p w w' p.toAsset (held T p w p.toAsset + amount)) :
    value T p w' = value T p w + amount * p.toWeight := by
  have hvalue := h.value_to
  rw [Nat.add_mul] at hvalue
  omega

theorem value_takeIn_from (h : Rebalanced T p w w' p.fromAsset (held T p w p.fromAsset + amount)) :
    value T p w' = value T p w + amount * p.fromWeight := by
  have hvalue := h.value_from
  rw [Nat.add_mul] at hvalue
  omega

/-- The value after a payment of the pool. -/
theorem value_payOut_to (hle : amount ≤ held T p w p.toAsset)
    (h : Rebalanced T p w w' p.toAsset (held T p w p.toAsset - amount)) :
    value T p w' + amount * p.toWeight = value T p w := by
  have hvalue := h.value_to
  have hmul := Nat.mul_le_mul_right p.toWeight hle
  rw [Nat.sub_mul] at hvalue
  omega

theorem value_payOut_from (hle : amount ≤ held T p w p.fromAsset)
    (h : Rebalanced T p w w' p.fromAsset (held T p w p.fromAsset - amount)) :
    value T p w' + amount * p.fromWeight = value T p w := by
  have hvalue := h.value_from
  have hmul := Nat.mul_le_mul_right p.fromWeight hle
  rw [Nat.sub_mul] at hvalue
  omega

/-- The value depends on the pool's balances only. -/
theorem value_congr (h : ∀ asset, held T p w' asset = held T p w asset) : value T p w' = value T p w := by
  rw [value, value, h, h]

theorem add_ran (hLP : LP.Standard) (hT : T.Standard) (hsender : sender ≠ p.self) (hs : LP.Supplied w.shares)
    (h : add LP T p w sender amount = .ok w') : Ran LP T p w w' (.add amount) := by
  obtain ⟨w₁, htake, h⟩ := bind_eq_ok.mp h
  obtain ⟨shares, hmint, heq⟩ := bind_eq_ok.mp h
  rw [← Except.ok.inj heq]
  have hin := takeIn_eq_ok hT hsender htake
  rw [called_eq_ok, hin.shares] at hmint
  have hvalue := value_takeIn_to hin
  have hsupply := (hLP.mint hmint).2
  refine ⟨hvalue, hLP.mint_supplied hs hmint, ?_⟩
  show LP.totalSupply shares * p.toWeight + 0 ≤ _ + amount * p.toWeight
  rw [hsupply, Nat.add_mul, Nat.add_zero]

theorem remove_ran (hLP : LP.Standard) (hT : T.Standard) (hsender : sender ≠ p.self)
    (hs : LP.Supplied w.shares) (h : remove LP T p w sender amount = .ok w') :
    Ran LP T p w w' (.remove amount) := by
  obtain ⟨w₁, hburn, hpay⟩ := bind_eq_ok.mp h
  obtain ⟨hs₁, hsupply, hheld⟩ := burnShares_eq_ok hLP hs hburn
  obtain ⟨hle, hout⟩ := payOut_eq_ok hT hsender hpay
  have hvalue := value_payOut_to hle hout
  rw [value_congr hheld] at hvalue
  refine ⟨hvalue, hout.shares ▸ hs₁, ?_⟩
  show LP.totalSupply w'.shares * p.toWeight + amount * p.toWeight ≤ _ + 0
  rw [hout.shares, ← Nat.add_mul, hsupply, Nat.add_zero]

theorem claim_ran (hLP : LP.Standard) (hT : T.Standard) (hsender : sender ≠ p.self)
    (hs : LP.Supplied w.shares) (h : claim LP T p w sender amount = .ok w') :
    Ran LP T p w w' (.claim amount) := by
  obtain ⟨w₁, hburn, h⟩ := bind_eq_ok.mp h
  obtain ⟨paid, hadjust, hpay⟩ := bind_eq_ok.mp h
  obtain rfl := adjustDecimals_eq_ok hadjust
  obtain ⟨hs₁, hsupply, hheld⟩ := burnShares_eq_ok hLP hs hburn
  obtain ⟨hle, hout⟩ := payOut_eq_ok hT hsender hpay
  have hvalue := value_payOut_from hle hout
  rw [value_congr hheld] at hvalue
  have hscaled : scaled p.toDecimals p.fromDecimals amount * p.fromWeight ≤ amount * p.toWeight :=
    scaled_mul_le _ _ _
  refine ⟨hvalue, hout.shares ▸ hs₁, ?_⟩
  show LP.totalSupply w'.shares * p.toWeight + scaled p.toDecimals p.fromDecimals amount * p.fromWeight ≤ _ + 0
  rw [hout.shares, ← hsupply, Nat.add_mul]
  exact Nat.add_le_add_left hscaled _

theorem migrate_ran (hT : T.Standard) (hsender : sender ≠ p.self) (hs : LP.Supplied w.shares)
    (h : migrate T p w sender amount = .ok w') : Ran LP T p w w' (.migrate amount) := by
  obtain ⟨w₁, htake, h⟩ := bind_eq_ok.mp h
  obtain ⟨paid, hadjust, hpay⟩ := bind_eq_ok.mp h
  obtain rfl := adjustDecimals_eq_ok hadjust
  have hin := takeIn_eq_ok hT hsender htake
  obtain ⟨hle, hout⟩ := payOut_eq_ok hT hsender hpay
  have hvalueIn := value_takeIn_from hin
  have hvalueOut := value_payOut_to hle hout
  have hshares : w'.shares = w.shares := hout.shares.trans hin.shares
  have hscaled : scaled p.fromDecimals p.toDecimals amount * p.toWeight ≤ amount * p.fromWeight :=
    scaled_mul_le _ _ _
  refine ⟨?_, hshares ▸ hs, ?_⟩
  · show value T p w' + scaled p.fromDecimals p.toDecimals amount * p.toWeight = _ + amount * p.fromWeight
    rw [hvalueOut, hvalueIn]
  · rw [hshares]
    exact Nat.add_le_add_left hscaled _

theorem Call.run_ran {c : Call} (hLP : LP.Standard) (hT : T.Standard) (hsender : sender ≠ p.self)
    (hs : LP.Supplied w.shares) (h : c.run LP T p w sender = .ok w') : Ran LP T p w w' c := by
  cases c with
  | add amount => exact add_ran hLP hT hsender hs h
  | remove amount => exact remove_ran hLP hT hsender hs h
  | claim amount => exact claim_ran hLP hT hsender hs h
  | migrate amount => exact migrate_ran hT hsender hs h

end Calls

/-! ## Solvency -/

/-- The pool is worth its shares, and what has been put in and not taken out. -/
structure Solvent (w : World τ σ) : Prop where
  supplied : LP.Supplied w.shares
  covered : LP.totalSupply w.shares * p.toWeight ≤ value T p w
  balanced : value T p w + w.paidOut = w.paidIn

/-- The pool as it is deployed. -/
structure Fresh (w : World τ σ) : Prop where
  supplied : LP.Supplied w.shares
  noShares : LP.totalSupply w.shares = 0
  paidIn : w.paidIn = value T p w
  paidOut : w.paidOut = 0

section Solvent

variable {LP T p} {w w' : World τ σ}

theorem Solvent.fresh (h : Fresh LP T p w) : Solvent LP T p w where
  supplied := h.supplied
  covered := by
    rw [h.noShares, Nat.zero_mul]
    exact Nat.zero_le _
  balanced := by rw [h.paidIn, h.paidOut, Nat.add_zero]

/-- More of a token is worth more. -/
theorem value_mono {address : Address} {s : σ} (h : T.balanceOf (w.assets address) p.self ≤ T.balanceOf s p.self) :
    value T p w ≤ value T p { w with assets := Function.update w.assets address s } := by
  have hle : ∀ asset, held T p w asset ≤
      held T p { w with assets := Function.update w.assets address s } asset := by
    intro asset
    have hupdate := rebalanced_update (T := T) (p := p) w address s
    by_cases heq : asset = address
    · rw [heq, hupdate.balance]
      exact h
    · rw [hupdate.others asset heq]
  unfold value
  have hto := Nat.mul_le_mul_right p.toWeight (hle p.toAsset)
  have hfrom := Nat.mul_le_mul_right p.fromWeight (hle p.fromAsset)
  split
  · omega
  · omega

/-- **Step.** The pool stays solvent. -/
theorem Solvent.step (hLP : LP.Standard) (hT : T.Standard) {input : Input τ σ} (h : Solvent LP T p w)
    (hok : Admissible LP T p w input) (hstep : Migrator.step LP T p w input = some w') : Solvent LP T p w' := by
  cases input with
  | call sender c =>
    obtain ⟨w₁, hrun, rfl⟩ := Option.map_eq_some_iff.mp hstep
    obtain ⟨hbalanced, hsupplied, hcovered⟩ := Call.run_ran hLP hT hok h.supplied (toOption_eq_some hrun)
    have hold := h.covered
    have hbook := h.balanced
    refine ⟨hsupplied, ?_, ?_⟩
    · show LP.totalSupply w₁.shares * p.toWeight ≤ value T p w₁
      omega
    · show value T p w₁ + (w.paidOut + c.paidOut p) = w.paidIn + c.paidIn p
      omega
  | asset address s =>
    rw [← Option.some.inj hstep]
    have hmono := value_mono (w := w) hok
    have hbook := h.balanced
    refine ⟨h.supplied, h.covered.trans hmono, ?_⟩
    show value T p { w with assets := Function.update w.assets address s } + w.paidOut =
      w.paidIn + (value T p { w with assets := Function.update w.assets address s } - value T p w)
    omega
  | shares s =>
    rw [← Option.some.inj hstep]
    refine ⟨hok.2 h.supplied, ?_, h.balanced⟩
    show LP.totalSupply s * p.toWeight ≤ value T p w
    rw [hok.1]
    exact h.covered

/-- Shares that the new tokens do not cover are covered by the old ones. -/
theorem Solvent.shortfall (h : Solvent LP T p w) {holder : Address} {amount : Nat}
    (hamount : amount ≤ LP.balanceOf w.shares holder) :
    scaled p.toDecimals p.fromDecimals (amount - held T p w p.toAsset) ≤ held T p w p.fromAsset := by
  have hsupply : amount ≤ LP.totalSupply w.shares := hamount.trans (h.supplied.le holder)
  have hcovered := (Nat.mul_le_mul_right p.toWeight hsupply).trans h.covered
  have hpositive : 0 < p.fromWeight := Nat.pow_pos (by decide)
  have hvalue : value T p w ≤
      held T p w p.toAsset * p.toWeight + held T p w p.fromAsset * p.fromWeight := by
    unfold value
    split
    · omega
    · exact le_rfl
  have hrest : (amount - held T p w p.toAsset) * p.toWeight ≤ held T p w p.fromAsset * p.fromWeight := by
    rw [Nat.sub_mul]
    omega
  have hscaled : scaled p.toDecimals p.fromDecimals (amount - held T p w p.toAsset) * p.fromWeight ≤
      (amount - held T p w p.toAsset) * p.toWeight := scaled_mul_le _ _ _
  exact Nat.le_of_mul_le_mul_right (hscaled.trans hrest) hpositive

/-- What is held of the two tokens is worth the shares. -/
theorem Solvent.covered_by (h : Solvent LP T p w) :
    LP.totalSupply w.shares * p.toWeight ≤
      held T p w p.toAsset * p.toWeight + held T p w p.fromAsset * p.fromWeight := by
  apply h.covered.trans
  unfold value
  split
  · omega
  · exact le_rfl

end Solvent

/-- **Solvency.** In every run the pool's two balances cover its shares, a holder whom `remove` cannot pay is
covered by the old tokens, and users take out at most what they have put in. -/
theorem pool_solvent {LP : FungibleToken τ Address} {T : FungibleToken σ Address} (hLP : LP.Standard)
    (hT : T.Standard) {p : Pool} {w₀ w : World τ σ} (hfresh : Fresh LP T p w₀)
    (h : Run (step LP T p) (Admissible LP T p) w₀ w) :
    (p.toDecimals < p.fromDecimals →
      LP.totalSupply w.shares * 10 ^ (p.fromDecimals - p.toDecimals) ≤
        held T p w p.toAsset * 10 ^ (p.fromDecimals - p.toDecimals) + held T p w p.fromAsset) ∧
    (p.fromDecimals ≤ p.toDecimals →
      LP.totalSupply w.shares ≤
        held T p w p.toAsset + held T p w p.fromAsset * 10 ^ (p.toDecimals - p.fromDecimals)) ∧
    (∀ holder amount, amount ≤ LP.balanceOf w.shares holder → held T p w p.toAsset < amount →
      scaled p.toDecimals p.fromDecimals (amount - held T p w p.toAsset) ≤ held T p w p.fromAsset) ∧
    w.paidOut ≤ w.paidIn := by
  have hsolvent : Solvent LP T p w :=
    h.invariant (fun _ _ _ hs hok hstep => hs.step hLP hT hok hstep) (.fresh hfresh)
  have hcovered := hsolvent.covered_by
  refine ⟨?_, ?_, ?_, ?_⟩
  · intro hlt
    have hfrom : p.fromWeight = 1 := by rw [Pool.fromWeight, Nat.sub_eq_zero_of_le hlt.le, pow_zero]
    rwa [hfrom, Nat.mul_one] at hcovered
  · intro hle
    have hto : p.toWeight = 1 := by rw [Pool.toWeight, Nat.sub_eq_zero_of_le hle, pow_zero]
    rwa [hto, Nat.mul_one, Nat.mul_one] at hcovered
  · intro holder amount hamount _
    exact hsolvent.shortfall hamount
  · have hbook := hsolvent.balanced
    omega

/-! ## Inputs -/

def account (n : UInt8) : Address := ⟨List.replicate 20 n, rfl⟩

/-- From a token with 18 decimals to one with 6. -/
def samplePool : Pool where
  self := account 1
  fromAsset := account 2
  toAsset := account 3
  decimals := fun asset => if asset = account 2 then 18 else 6

open FungibleToken (Ledger ledger ledger_standard)

/-- Two users, with new and with old tokens, who let the pool take them. -/
def sampleWorld : World (Ledger Address) (Ledger Address) where
  shares := ⟨fun _ => 0, 0, fun _ _ => 0⟩
  assets := fun asset =>
    let owner := if asset = account 2 then account 5 else account 4
    { balances := fun user => if user = owner then 10 ^ 20 else 0
      supply := 10 ^ 20
      allowances := fun user _ => if user = owner then 10 ^ 20 else 0 }
  paidIn := 0
  paidOut := 0

/-- 5 of the new units are put in; 3 and a half are wanted for old ones, and the holder of the shares takes 2 of
each. -/
def sampleInputs : List (Input (Ledger Address) (Ledger Address)) :=
  [.call (account 4) (.add 5), .call (account 5) (.migrate 3500000000000), .call (account 4) (.remove 2),
    .call (account 4) (.claim 2)]

def sampleEnd : World (Ledger Address) (Ledger Address) :=
  attempts (step ledger ledger samplePool) sampleWorld sampleInputs

/-- The last share is worth more than what is left for it; the dust stays in the pool. -/
theorem samplePool_solvent :
    ledger.totalSupply sampleEnd.shares = 1 ∧ held ledger samplePool sampleEnd samplePool.toAsset = 0 ∧
      held ledger samplePool sampleEnd samplePool.fromAsset = 1500000000000 ∧
      ledger.totalSupply sampleEnd.shares * 10 ^ (samplePool.fromDecimals - samplePool.toDecimals) ≤
        held ledger samplePool sampleEnd samplePool.toAsset *
          10 ^ (samplePool.fromDecimals - samplePool.toDecimals) +
          held ledger samplePool sampleEnd samplePool.fromAsset := by
  have hprovider : account 4 ≠ samplePool.self := by decide +kernel
  have hmigrator : account 5 ≠ samplePool.self := by decide +kernel
  have h0 : Run (step ledger ledger samplePool) (Admissible ledger ledger samplePool) sampleWorld sampleWorld :=
    Run.refl sampleWorld
  have h1 := h0.attempt (.call (account 4) (.add 5)) hprovider
  have h2 := h1.attempt (.call (account 5) (.migrate 3500000000000)) hmigrator
  have h3 := h2.attempt (.call (account 4) (.remove 2)) hprovider
  have h4 : Run _ _ sampleWorld sampleEnd := h3.attempt (.call (account 4) (.claim 2)) hprovider
  have hfresh : Fresh ledger ledger samplePool sampleWorld := by
    refine ⟨Total.zero, rfl, ?_, rfl⟩
    decide +kernel
  obtain ⟨hmore, -⟩ := pool_solvent ledger_standard ledger_standard hfresh h4
  exact ⟨by decide +kernel, by decide +kernel, by decide +kernel, hmore (by decide +kernel)⟩

end Wormhole.Ethereum.Migrator

/-
# Wormhole.Lib.FungibleToken — a token contract from outside.

A token is known by its answers: the balances, the supply, and what its calls do to its storage.  `Standard`
says what a standard token promises: a payment moves exactly its amount, and minting and burning change one
balance and the supply.  `ledger` is the plain token, with allowances.
-/
import Mathlib
import Wormhole.Lib.Totals

namespace Wormhole.Lib

/-- A token with storage `σ` and accounts `κ`. -/
structure FungibleToken (σ κ : Type*) where
  totalSupply : σ → Nat
  balanceOf : σ → κ → Nat
  /-- the caller pays the recipient -/
  transfer : σ → κ → κ → Nat → Option σ
  /-- the caller has the owner pay the recipient -/
  transferFrom : σ → κ → κ → κ → Nat → Option σ
  mint : σ → κ → Nat → Option σ
  burn : σ → κ → Nat → Option σ

namespace FungibleToken

variable {σ κ : Type*} [DecidableEq κ]

/-- Balances after a payment. -/
def paid (balances : κ → Nat) (sender recipient : κ) (amount : Nat) : κ → Nat :=
  let rest := Function.update balances sender (balances sender - amount)
  Function.update rest recipient (rest recipient + amount)

section Paid

variable {balances : κ → Nat} {sender recipient : κ} {amount : Nat}

theorem paid_recipient (h : sender ≠ recipient) :
    paid balances sender recipient amount recipient = balances recipient + amount := by
  rw [paid, Function.update_self, Function.update_of_ne h.symm]

theorem paid_sender (h : sender ≠ recipient) :
    paid balances sender recipient amount sender = balances sender - amount := by
  rw [paid, Function.update_of_ne h, Function.update_self]

end Paid

/-- A payment that has gone through. -/
structure Paid (T : FungibleToken σ κ) (s s' : σ) (sender recipient : κ) (amount : Nat) : Prop where
  le : amount ≤ T.balanceOf s sender
  balanceOf : T.balanceOf s' = paid (T.balanceOf s) sender recipient amount
  totalSupply : T.totalSupply s' = T.totalSupply s

/-- The promises of a standard token. -/
structure Standard (T : FungibleToken σ κ) : Prop where
  transfer : ∀ {s s' caller recipient amount}, T.transfer s caller recipient amount = some s' →
    T.Paid s s' caller recipient amount
  transferFrom : ∀ {s s' caller owner recipient amount},
    T.transferFrom s caller owner recipient amount = some s' → T.Paid s s' owner recipient amount
  mint : ∀ {s s' account amount}, T.mint s account amount = some s' →
    T.balanceOf s' = Function.update (T.balanceOf s) account (T.balanceOf s account + amount) ∧
      T.totalSupply s' = T.totalSupply s + amount
  burn : ∀ {s s' account amount}, T.burn s account amount = some s' →
    amount ≤ T.balanceOf s account ∧
      T.balanceOf s' = Function.update (T.balanceOf s) account (T.balanceOf s account - amount) ∧
      T.totalSupply s' = T.totalSupply s - amount

/-- The supply is what the accounts hold. -/
def Supplied (T : FungibleToken σ κ) (s : σ) : Prop := Total (T.balanceOf s) (T.totalSupply s)

section Supplied

variable {T : FungibleToken σ κ} {s s' : σ} {account : κ} {amount : Nat}

theorem Standard.mint_supplied (h : T.Standard) (hs : T.Supplied s) (hmint : T.mint s account amount = some s') :
    T.Supplied s' := by
  obtain ⟨hbalance, hsupply⟩ := h.mint hmint
  rw [Supplied, hbalance, hsupply]
  exact hs.add account amount

theorem Standard.burn_supplied (h : T.Standard) (hs : T.Supplied s) (hburn : T.burn s account amount = some s') :
    T.Supplied s' := by
  obtain ⟨hle, hbalance, hsupply⟩ := h.burn hburn
  rw [Supplied, hbalance, hsupply]
  exact hs.sub account hle

end Supplied

/-! ## The plain token -/

/-- The storage of the plain token. -/
structure Ledger (κ : Type*) where
  balances : κ → Nat
  supply : Nat
  allowances : κ → κ → Nat

/-- A payment of the plain token. -/
def Ledger.pay (s : Ledger κ) (sender recipient : κ) (amount : Nat) : Option (Ledger κ) :=
  if amount ≤ s.balances sender then some { s with balances := paid s.balances sender recipient amount }
  else none

/-- The plain token. -/
def ledger : FungibleToken (Ledger κ) κ where
  totalSupply := Ledger.supply
  balanceOf := Ledger.balances
  transfer := Ledger.pay
  transferFrom s caller owner recipient amount :=
    if amount ≤ s.allowances owner caller then
      { s with
        allowances := Function.update s.allowances owner
          (Function.update (s.allowances owner) caller (s.allowances owner caller - amount)) }.pay
        owner recipient amount
    else none
  mint s account amount := some { s with
    balances := Function.update s.balances account (s.balances account + amount)
    supply := s.supply + amount }
  burn s account amount :=
    if amount ≤ s.balances account then
      some { s with
        balances := Function.update s.balances account (s.balances account - amount)
        supply := s.supply - amount }
    else none

theorem Ledger.pay_eq_some {s s' : Ledger κ} {sender recipient : κ} {amount : Nat}
    (h : s.pay sender recipient amount = some s') : ledger.Paid s s' sender recipient amount := by
  unfold Ledger.pay at h
  split at h
  · rename_i hle
    rw [← Option.some.inj h]
    exact ⟨hle, rfl, rfl⟩
  · cases h

theorem ledger_standard : (ledger : FungibleToken (Ledger κ) κ).Standard where
  transfer := Ledger.pay_eq_some
  transferFrom := by
    intro s s' caller owner recipient amount h
    simp only [ledger] at h
    split at h
    · obtain ⟨hle, hbalance, hsupply⟩ := Ledger.pay_eq_some h
      exact ⟨hle, hbalance, hsupply⟩
    · cases h
  mint := by
    intro s s' account amount h
    rw [← Option.some.inj h]
    exact ⟨rfl, rfl⟩
  burn := by
    intro s s' account amount h
    simp only [ledger] at h
    split at h
    · rename_i hle
      rw [← Option.some.inj h]
      exact ⟨hle, rfl, rfl⟩
    · cases h

end FungibleToken

end Wormhole.Lib

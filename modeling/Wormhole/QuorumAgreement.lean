/-
# Wormhole.QuorumAgreement — the quorum, as every implementation computes it.

The node, the contracts of the EVM, of Terra and of Alephium, and the program on Solana scale the number of
guardians by ten before they divide by three, "to deal with rounding".  Each does so in its own integers: Go's 64-bit
`int`, the checked `uint256` and `U256`, and `usize`, of 32 bits on Terra and 64 on Solana.  As long as ten times the
number of guardians fits them they agree, on `⌊2 n / 3⌋ + 1`.
-/
import Mathlib
import Wormhole.Alephium.Vm
import Wormhole.Alephium.Governance
import Wormhole.Ethereum.Evm
import Wormhole.Ethereum.Messages
import Wormhole.Guardian.InboundVaa
import Wormhole.Solana.Core
import Wormhole.Terra.Core

namespace Wormhole.QuorumAgreement

/-! ## Two-thirds majorities -/

/-- More than two thirds of `n`. -/
def majority (n : Nat) : Nat := 2 * n / 3 + 1

theorem majority_le {n : Nat} (hn : 1 ≤ n) : majority n ≤ n := by
  unfold majority
  omega

/-- Ten times the number is enough to round as with the number itself. -/
theorem scaled_eq (n : Nat) : n * 10 / 3 * 2 / 10 + 1 = majority n := by
  unfold majority
  omega

section Intersection

variable {α : Type*} [DecidableEq α] {guardians A B : Finset α}

/-- **Two majorities** have more than a third in common. -/
theorem card_lt_three_mul_inter (hA : A ⊆ guardians) (hB : B ⊆ guardians)
    (hcardA : majority guardians.card ≤ A.card) (hcardB : majority guardians.card ≤ B.card) :
    guardians.card < 3 * (A ∩ B).card := by
  have hsum : (A ∪ B).card + (A ∩ B).card = A.card + B.card := Finset.card_union_add_card_inter A B
  have hunion : (A ∪ B).card ≤ guardians.card := Finset.card_le_card (Finset.union_subset hA hB)
  unfold majority at hcardA hcardB
  omega

end Intersection

/-! ## In the integers of each implementation -/

/-- `CalculateQuorum` of the node. -/
def CalculateQuorum (numGuardians : Int64) : Int64 := ((numGuardians * 10 / 3) * 2) / 10 + 1

/-- The comparison of `verifyVM` on the EVM, for the lengths of the keys and of the signatures: whether there is no
quorum. -/
def noQuorum (keys signatures : Nat) : Ethereum.Revert Bool := do
  let scaled ← Ethereum.mulUint keys 10
  let doubled ← Ethereum.mulUint (scaled / 3) 2
  let required ← Ethereum.addUint (doubled / 10) 1
  return decide (signatures < required)

/-- `GuardianSetInfo::quorum` on Terra, for the length of the addresses. -/
def quorum (addresses : UInt32) : UInt32 :=
  -- allow quorum of 0 for testing purposes...
  if addresses = 0 then 0 else ((addresses * 10 / 3) * 2) / 10 + 1

/-- `required_consensus_count` of `post_vaa` on Solana, for the length of the keys. -/
def requiredConsensusCount (keys : UInt64) : UInt64 :=
  -- Fixed point number transformation with one decimal to deal with rounding.
  let len := (keys * 10) / 3
  -- Multiplication by two to get a 2/3 quorum.
  let len := len * 2
  -- Division to bring number back into range.
  len / 10 + 1

/-- The check of `verifySignatures` on Alephium. -/
def checkQuorum (guardianSize signatureSize : Nat) : Option Unit := do
  let quorum ← Alephium.Vm.U256.add ((← Alephium.Vm.U256.mul ((← Alephium.Vm.U256.mul guardianSize 10) / 3) 2) / 10) 1
  Alephium.Vm.assert (quorum ≤ signatureSize)

section Agreement

variable {n : Nat}

/-- What does not reach the modulus is not reduced. -/
theorem scaled_mod {m : Nat} (hm : 1 < m) (h : n * 10 < m) :
    (n % m * 10 % m / 3 * 2 % m / 10 + 1) % m = n * 10 / 3 * 2 / 10 + 1 := by
  rw [Nat.mod_eq_of_lt (show n < m by omega), Nat.mod_eq_of_lt h,
    Nat.mod_eq_of_lt (show n * 10 / 3 * 2 < m by omega)]
  apply Nat.mod_eq_of_lt
  omega

theorem CalculateQuorum_toInt (h : n * 10 < 2 ^ 63) :
    (CalculateQuorum (Int64.ofNat n)).toInt = Guardian.calculateQuorum n := by
  have hsmall : ∀ x : Nat, x < 2 ^ 63 → (x : Int).bmod (2 ^ 64) = x := by
    intro x hx
    exact Int.bmod_eq_of_le (by omega) (by omega)
  have hn : (Int64.ofNat n).toInt = n := Int64.toInt_ofNat_of_lt (by omega)
  have hscaled : (Int64.ofNat n * 10).toInt = (n * 10 : Nat) := by
    rw [Int64.toInt_mul, hn]
    exact hsmall (n * 10) h
  have hthird : (Int64.ofNat n * 10 / 3).toInt = (n * 10 / 3 : Nat) := by
    rw [Int64.toInt_div, hscaled]
    exact hsmall (n * 10 / 3) (by omega)
  have hdoubled : (Int64.ofNat n * 10 / 3 * 2).toInt = (n * 10 / 3 * 2 : Nat) := by
    rw [Int64.toInt_mul, hthird]
    exact hsmall (n * 10 / 3 * 2) (by omega)
  have hrounded : (Int64.ofNat n * 10 / 3 * 2 / 10).toInt = (n * 10 / 3 * 2 / 10 : Nat) := by
    rw [Int64.toInt_div, hdoubled]
    exact hsmall (n * 10 / 3 * 2 / 10) (by omega)
  rw [CalculateQuorum, Int64.toInt_add, hrounded]
  exact hsmall (n * 10 / 3 * 2 / 10 + 1) (by omega)

theorem noQuorum_eq (h : n * 10 < 2 ^ 256) (signatures : Nat) :
    noQuorum n signatures = .ok (decide (signatures < Ethereum.quorum n)) := by
  have hscaled : Ethereum.mulUint n 10 = .ok (n * 10) := if_pos h
  have hdoubled : Ethereum.mulUint (n * 10 / 3) 2 = .ok (n * 10 / 3 * 2) := if_pos (by omega)
  have hrequired : Ethereum.addUint (n * 10 / 3 * 2 / 10) 1 = .ok (Ethereum.quorum n) := if_pos (by omega)
  simp only [noQuorum, hscaled, hdoubled, hrequired, Except.bind, bind, pure, Except.pure]

theorem quorum_toNat (hn : 1 ≤ n) (h : n * 10 < 2 ^ 32) : (quorum (UInt32.ofNat n)).toNat = majority n := by
  have hne : UInt32.ofNat n ≠ 0 := by
    intro hzero
    have htoNat := congrArg UInt32.toNat hzero
    rw [UInt32.toNat_ofNat_of_lt' (show n < 2 ^ 32 by omega)] at htoNat
    exact absurd htoNat (by show n ≠ 0; omega)
  rw [quorum, if_neg hne, UInt32.toNat_add, UInt32.toNat_div, UInt32.toNat_mul, UInt32.toNat_div, UInt32.toNat_mul,
    UInt32.toNat_ofNat', ← scaled_eq]
  exact scaled_mod (by decide) h

theorem requiredConsensusCount_toNat (h : n * 10 < 2 ^ 64) :
    (requiredConsensusCount (UInt64.ofNat n)).toNat = Solana.Core.requiredConsensusCount n := by
  rw [requiredConsensusCount, UInt64.toNat_add, UInt64.toNat_div, UInt64.toNat_mul, UInt64.toNat_div,
    UInt64.toNat_mul, UInt64.toNat_ofNat']
  exact scaled_mod (by decide) h

theorem checkQuorum_eq_some (h : n * 10 < 2 ^ 256) {signatureSize : Nat} :
    checkQuorum n signatureSize = some () ↔ Alephium.Governance.quorum n ≤ signatureSize := by
  have hscaled : Alephium.Vm.U256.mul n 10 = some (n * 10) := Alephium.Vm.U256.mul_eq_some.mpr ⟨h, rfl⟩
  have hdoubled : Alephium.Vm.U256.mul (n * 10 / 3) 2 = some (n * 10 / 3 * 2) :=
    Alephium.Vm.U256.mul_eq_some.mpr ⟨by omega, rfl⟩
  have hrequired : Alephium.Vm.U256.add (n * 10 / 3 * 2 / 10) 1 = some (n * 10 / 3 * 2 / 10 + 1) :=
    Alephium.Vm.U256.add_of_lt (by omega)
  rw [checkQuorum, hscaled, Alephium.Vm.some_bind, hdoubled, Alephium.Vm.some_bind, hrequired,
    Alephium.Vm.some_bind, Alephium.Vm.assert_eq_some, Alephium.Governance.quorum_eq]

end Agreement

/-! ## One quorum -/

theorem calculateQuorum_eq (n : Nat) : Guardian.calculateQuorum n = majority n := scaled_eq n

theorem ethereum_quorum_eq (n : Nat) : Ethereum.quorum n = majority n := scaled_eq n

theorem solana_requiredConsensusCount_eq (n : Nat) : Solana.Core.requiredConsensusCount n = majority n := scaled_eq n

theorem terra_quorum_eq {set : Terra.Core.GuardianSetInfo} (h : 1 ≤ set.addresses.length) :
    set.quorum = majority set.addresses.length := by
  rw [Terra.Core.GuardianSetInfo.quorum, if_neg (by omega)]
  exact scaled_eq set.addresses.length

/-- **One quorum.**  For at least one guardian, and ten times their number within the integers of the implementation,
all of them require the same number of signatures. -/
theorem one_quorum {n : Nat} (hn : 1 ≤ n) :
    (n * 10 < 2 ^ 63 → (CalculateQuorum (Int64.ofNat n)).toInt = (2 * n / 3 + 1 : Nat)) ∧
    (n * 10 < 2 ^ 256 → ∀ signatures, noQuorum n signatures = .ok (decide (signatures < 2 * n / 3 + 1))) ∧
    (n * 10 < 2 ^ 32 → (quorum (UInt32.ofNat n)).toNat = 2 * n / 3 + 1) ∧
    (n * 10 < 2 ^ 64 → (requiredConsensusCount (UInt64.ofNat n)).toNat = 2 * n / 3 + 1) ∧
    (n * 10 < 2 ^ 256 → ∀ signatureSize, checkQuorum n signatureSize = some () ↔ 2 * n / 3 + 1 ≤ signatureSize) ∧
    (Guardian.calculateQuorum n = 2 * n / 3 + 1 ∧ Ethereum.quorum n = 2 * n / 3 + 1 ∧
      (∀ set : Terra.Core.GuardianSetInfo, set.addresses.length = n → set.quorum = 2 * n / 3 + 1) ∧
      Solana.Core.requiredConsensusCount n = 2 * n / 3 + 1 ∧ Alephium.Governance.quorum n = 2 * n / 3 + 1) ∧
    2 * n / 3 + 1 ≤ n ∧
    ∀ {α : Type} [DecidableEq α] (guardians A B : Finset α), guardians.card = n → A ⊆ guardians → B ⊆ guardians →
      2 * n / 3 + 1 ≤ A.card → 2 * n / 3 + 1 ≤ B.card → n < 3 * (A ∩ B).card := by
  refine ⟨?_, ?_, ?_, ?_, ?_, ⟨scaled_eq n, scaled_eq n, ?_, scaled_eq n, rfl⟩, majority_le hn, ?_⟩
  · intro h
    rw [CalculateQuorum_toInt h, calculateQuorum_eq, majority]
  · intro h signatures
    rw [noQuorum_eq h, ethereum_quorum_eq, majority]
  · exact quorum_toNat hn
  · intro h
    rw [requiredConsensusCount_toNat h, solana_requiredConsensusCount_eq, majority]
  · intro h signatureSize
    exact checkQuorum_eq_some h
  · rintro set rfl
    exact terra_quorum_eq hn
  · rintro α _ guardians A B rfl hA hB hcardA hcardB
    exact card_lt_three_mul_inter hA hB hcardA hcardB

theorem nineteen_quorum : 1 ≤ 19 ∧ (CalculateQuorum (Int64.ofNat 19)).toInt = (2 * 19 / 3 + 1 : Nat) :=
  ⟨by decide, (one_quorum (n := 19) (by decide)).1 (by decide)⟩

end Wormhole.QuorumAgreement

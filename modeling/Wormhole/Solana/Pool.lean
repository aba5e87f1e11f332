/-
# Wormhole.Solana.Pool — what a migration pool holds and what its shares claim.

A share is worth a unit of the old token.  Amounts of the two tokens are weighed, each with the excess of the
other one's decimals; all the conversions of the program lose value to the pool, if at all.

`Guards` is what protects a pool: its accounts are at derived addresses, nobody but the program disposes of them,
and the pool's account is what `create_pool` has written.  `Shift` is a part of an instruction that keeps that,
with what it adds to the surplus of the pool; every call of the token program is one.
-/
import Mathlib
import Wormhole.Lib.Bytes
import Wormhole.Lib.Failing
import Wormhole.Lib.Codec
import Wormhole.Lib.Scaling
import Wormhole.Solana.Payloads
import Wormhole.Solana.Solitaire
import Wormhole.Solana.Accounts
import Wormhole.Solana.Spl
import Wormhole.Solana.Migration

namespace Wormhole.Solana.Migration

open Wormhole.Lib Wormhole.Lib.Bytes

variable {Pubkey : Type} [DecidableEq Pubkey]

/-! ## Amounts -/

section Amounts

variable {fromDecimals toDecimals : UInt8} {amount x : UInt64}

/-- The decimals differ by at most 19. -/
def Close (fromDecimals toDecimals : UInt8) : Prop :=
  fromDecimals.toNat ≤ toDecimals.toNat + 19 ∧ toDecimals.toNat ≤ fromDecimals.toNat + 19

theorem pow10_toNat {a b : UInt8} (hle : b ≤ a) (hclose : a.toNat ≤ b.toNat + 19) :
    (pow10 (a - b)).toNat = 10 ^ (a.toNat - b.toNat) := by
  rw [pow10, UInt8.toNat_sub_of_le a b hle]
  apply UInt64.toNat_ofNat_of_lt'
  calc 10 ^ (a.toNat - b.toNat) ≤ 10 ^ 19 := Nat.pow_le_pow_right (by norm_num) (by omega)
    _ < 2 ^ 64 := by norm_num

theorem checkedMul_eq_ok {a b : UInt64} (h : checkedMul a b = .ok x) : x.toNat = a.toNat * b.toNat := by
  unfold checkedMul at h
  split at h
  · rename_i hlt
    rw [← Except.ok.inj h, UInt64.toNat_mul, Nat.mod_eq_of_lt hlt]
  · cases h

theorem checkedDiv_eq_ok {a b : UInt64} (h : checkedDiv a b = .ok x) : x.toNat = a.toNat / b.toNat := by
  unfold checkedDiv at h
  split at h
  · cases h
  · rw [← Except.ok.inj h, UInt64.toNat_div]

/-- What is paid out for old tokens. -/
theorem outAmount_eq_ok (hclose : Close fromDecimals toDecimals)
    (h : outAmount fromDecimals toDecimals amount = .ok x) :
    x.toNat = scaled fromDecimals.toNat toDecimals.toNat amount.toNat := by
  unfold outAmount at h
  split at h
  · rename_i hgt
    have hle : toDecimals ≤ fromDecimals := UInt8.le_of_lt hgt
    have hleNat : toDecimals.toNat ≤ fromDecimals.toNat := hle
    rw [checkedDiv_eq_ok h, pow10_toNat hle hclose.1, scaled_of_ge _ hleNat]
  · rename_i hngt
    have hle : fromDecimals ≤ toDecimals := UInt8.not_lt.mp hngt
    have hleNat : fromDecimals.toNat ≤ toDecimals.toNat := hle
    rw [checkedMul_eq_ok h, pow10_toNat hle hclose.2, scaled_of_le _ hleNat]

/-- The shares for new tokens. -/
theorem shareAmount_eq_ok (hclose : Close fromDecimals toDecimals)
    (h : shareAmount fromDecimals toDecimals amount = .ok x) :
    x.toNat = scaled toDecimals.toNat fromDecimals.toNat amount.toNat := by
  unfold shareAmount at h
  split at h
  · rename_i hgt
    have hle : toDecimals ≤ fromDecimals := UInt8.le_of_lt hgt
    have hleNat : toDecimals.toNat ≤ fromDecimals.toNat := hle
    rw [checkedMul_eq_ok h, pow10_toNat hle hclose.1, scaled_of_le _ hleNat]
  · rename_i hngt
    have hle : fromDecimals ≤ toDecimals := UInt8.not_lt.mp hngt
    have hleNat : fromDecimals.toNat ≤ toDecimals.toNat := hle
    rw [checkedDiv_eq_ok h, pow10_toNat hle hclose.2, scaled_of_ge _ hleNat]

/-- The new tokens that are taken are worth the shares. -/
theorem toTokensIn_eq_ok (hclose : Close fromDecimals toDecimals)
    (h : toTokensIn fromDecimals toDecimals amount = .ok x) :
    scaled toDecimals.toNat fromDecimals.toNat amount.toNat * 10 ^ (toDecimals.toNat - fromDecimals.toNat) ≤
      x.toNat * 10 ^ (fromDecimals.toNat - toDecimals.toNat) := by
  unfold toTokensIn at h
  split at h
  · rw [← Except.ok.inj h]
    exact scaled_mul_le _ _ _
  · rename_i hngt
    have hle : fromDecimals ≤ toDecimals := UInt8.not_lt.mp hngt
    have hleNat : fromDecimals.toNat ≤ toDecimals.toNat := hle
    obtain ⟨dust, hdust, h⟩ := Failing.bind_eq_ok.mp h
    have hdustNat : dust.toNat = amount.toNat % 10 ^ (toDecimals.toNat - fromDecimals.toNat) := by
      unfold remainder at hdust
      split at hdust
      · cases hdust
      · rw [← Except.ok.inj hdust, UInt64.toNat_mod, pow10_toNat hle hclose.2]
    have hdustLe : dust ≤ amount := by
      show dust.toNat ≤ amount.toNat
      rw [hdustNat]
      exact Nat.mod_le _ _
    rw [← Except.ok.inj h, UInt64.toNat_sub_of_le _ _ hdustLe, hdustNat, scaled_of_ge _ hleNat,
      Nat.sub_eq_zero_of_le hleNat, pow_zero, Nat.mul_one]
    have hdivision := Nat.div_add_mod' amount.toNat (10 ^ (toDecimals.toNat - fromDecimals.toNat))
    omega

end Amounts

/-! ## Pools -/

omit [DecidableEq Pubkey] in
/-- The first seeds of the accounts of a pool. -/
def accountSeeds : List (List UInt8) :=
  [fromCustodySeeds, toCustodySeeds, shareMintSeeds].map fun seeds => (seeds (zeros 32)).headD []

omit [DecidableEq Pubkey] in
/-- The seeds in use: of the two signers, of the accounts of the pools that come up, and of the pools of the mints. -/
inductive SeedsInUse (P : MigrationProgram Pubkey) (known : Set Pubkey) : List (List UInt8) → Prop
  | custodySigner : SeedsInUse P known [custodySignerSeed]
  | authoritySigner : SeedsInUse P known [authoritySignerSeed]
  | account (seed : List UInt8) (pool : Pubkey) (hseed : seed ∈ accountSeeds) (hpool : pool ∈ known) :
    SeedsInUse P known [seed, (P.toBytes pool).val]
  | pool (from' to' : Pubkey) (hfrom : from' ∈ known) (hto : to' ∈ known) :
    SeedsInUse P known (poolSeeds (P.toBytes from') (P.toBytes to'))

omit [DecidableEq Pubkey] in
/-- An address of the program that comes up. -/
abbrev MigrationProgram.IsDerived (P : MigrationProgram Pubkey) (known : Set Pubkey) (k : Pubkey) : Prop :=
  P.toProgram.IsDerived {seeds | SeedsInUse P known seeds} k

/-- What the proofs rely on: addresses are derived without collision from the seeds in use, the addresses of the
mints and pools that come up are told apart by their bytes, and the token program does what it documents. -/
structure Runtime (P : MigrationProgram Pubkey) (known : Set Pubkey) : Prop where
  free : P.toProgram.CollisionFree {seeds | SeedsInUse P known seeds}
  bytes : Set.InjOn P.toBytes known
  spl : Spl.Lawful P.toTokenProgram

/-- Two mints, with their decimals. -/
structure Pair (Pubkey : Type) where
  from' : Pubkey
  to' : Pubkey
  fromDecimals : UInt8
  toDecimals : UInt8

section Pools

variable (P : MigrationProgram Pubkey) (pair : Pair Pubkey)

/-- The address that disposes of the custody accounts and mints shares. -/
def custodySigner : Pubkey := P.derive [custodySignerSeed]

namespace Pair

def data : PoolData := ⟨P.toBytes pair.from', P.toBytes pair.to'⟩

def pool : Pubkey := P.derive (poolSeeds (P.toBytes pair.from') (P.toBytes pair.to'))

def fromCustody : Pubkey := P.derive (fromCustodySeeds (P.toBytes (pair.pool P)))

def toCustody : Pubkey := P.derive (toCustodySeeds (P.toBytes (pair.pool P)))

def shareMint : Pubkey := P.derive (shareMintSeeds (P.toBytes (pair.pool P)))

/-- The weight of a unit of the old token, and of a share. -/
def fromWeight : Nat := 10 ^ (pair.toDecimals.toNat - pair.fromDecimals.toNat)

/-- The weight of a unit of the new token. -/
def toWeight : Nat := 10 ^ (pair.fromDecimals.toNat - pair.toDecimals.toNat)

/-- The mints and the pool are among those that come up. -/
structure Known (known : Set Pubkey) : Prop where
  from' : pair.from' ∈ known
  to' : pair.to' ∈ known
  pool : pair.pool P ∈ known

end Pair

/-- The balance of the custody account of the old token. -/
def fromHeld (L : Ledger Pubkey) : Nat := Spl.balance P.toTokenProgram L (pair.fromCustody P)

/-- The balance of the custody account of the new token. -/
def toHeld (L : Ledger Pubkey) : Nat := Spl.balance P.toTokenProgram L (pair.toCustody P)

/-- The supply of shares. -/
def shares (L : Ledger Pubkey) : Nat := Spl.supply P.toTokenProgram L (pair.shareMint P)

/-- What the custody accounts hold, weighed. -/
def value (L : Ledger Pubkey) : Nat := fromHeld P pair L * pair.fromWeight + toHeld P pair L * pair.toWeight

/-- What protects a pool. -/
structure Guards (L : Ledger Pubkey) : Prop where
  fromCustody : Spl.Guarded P.toTokenProgram L (pair.fromCustody P) (custodySigner P)
  toCustody : Spl.Guarded P.toTokenProgram L (pair.toCustody P) (custodySigner P)
  shareMint : Spl.MintGuarded P.toTokenProgram L (pair.shareMint P) (custodySigner P)
  pool : (L (pair.pool P)).owner = P.programId →
    (L (pair.pool P)).data = PoolData.codec.write (pair.data P)

/-- The shares of a pool weigh at most what it holds. -/
structure Solvent (L : Ledger Pubkey) : Prop where
  guards : Guards P pair L
  fresh : (L (pair.pool P)).owner ≠ P.programId → shares P pair L = 0
  covered : shares P pair L * pair.fromWeight ≤ value P pair L

/-- The mints of the pair have its decimals, if there are such mints. -/
def Decided (L : Ledger Pubkey) : Prop :=
  Spl.DecimalsAre P.toTokenProgram L pair.from' pair.fromDecimals ∧
    Spl.DecimalsAre P.toTokenProgram L pair.to' pair.toDecimals

/-- What an address of the pool counts for, by a unit. -/
def heldWeight (k : Pubkey) : Nat :=
  if k = pair.fromCustody P then pair.fromWeight else if k = pair.toCustody P then pair.toWeight else 0

/-- What a share of a mint counts for. -/
def shareWeight (k : Pubkey) : Nat := if k = pair.shareMint P then pair.fromWeight else 0

/-- What the pool holds beyond its shares. -/
def surplus (L : Ledger Pubkey) : Int := value P pair L - (shares P pair L * pair.fromWeight : Nat)

end Pools

section Addresses

variable {P : MigrationProgram Pubkey} {pair : Pair Pubkey} {known : Set Pubkey} {q : Pubkey}

theorem derive_injective (hr : Runtime P known) {seed seed' : List UInt8} (hseed : seed ∈ accountSeeds)
    (hseed' : seed' ∈ accountSeeds) {q q' : Pubkey} (hq : q ∈ known) (hq' : q' ∈ known)
    (h : P.derive [seed, (P.toBytes q).val] = P.derive [seed', (P.toBytes q').val]) : seed = seed' ∧ q = q' := by
  have hflat := hr.free.derive _ (.account seed q hseed hq) _ (.account seed' q' hseed' hq') h
  simp only [List.flatten_cons, List.flatten_nil, List.append_nil] at hflat
  obtain ⟨hsame, hbytes⟩ := List.append_inj' hflat ((P.toBytes q).property.trans (P.toBytes q').property.symm)
  exact ⟨hsame, hr.bytes hq hq' (Subtype.ext hbytes)⟩

theorem pool_injective (hr : Runtime P known) {a b a' b' : Pubkey} (ha : a ∈ known) (hb : b ∈ known)
    (ha' : a' ∈ known) (hb' : b' ∈ known)
    (h : P.derive (poolSeeds (P.toBytes a) (P.toBytes b)) = P.derive (poolSeeds (P.toBytes a') (P.toBytes b'))) :
    a = a' ∧ b = b' := by
  have hflat := hr.free.derive _ (.pool a b ha hb) _ (.pool a' b' ha' hb') h
  simp only [poolSeeds, List.flatten_cons, List.flatten_nil, List.append_nil, List.append_cancel_left_eq] at hflat
  obtain ⟨hfrom, hto⟩ := List.append_inj hflat ((P.toBytes a).property.trans (P.toBytes a').property.symm)
  exact ⟨hr.bytes ha ha' (Subtype.ext hfrom), hr.bytes hb hb' (Subtype.ext hto)⟩

/-- Addresses of another pool are none of this one's. -/
theorem derive_ne (hr : Runtime P known) (hpair : pair.Known P known) (hq : q ∈ known) (hne : q ≠ pair.pool P)
    {seed seed' : List UInt8} (hseed : seed ∈ accountSeeds) (hseed' : seed' ∈ accountSeeds) :
    P.derive [seed, (P.toBytes q).val] ≠ P.derive [seed', (P.toBytes (pair.pool P)).val] := by
  intro h
  exact hne (derive_injective hr hseed hseed' hq hpair.pool h).2

theorem derive_ne_of_seed (hr : Runtime P known) {seed seed' : List UInt8} (hseed : seed ∈ accountSeeds)
    (hseed' : seed' ∈ accountSeeds) (hne : seed ≠ seed') {q q' : Pubkey} (hq : q ∈ known) (hq' : q' ∈ known) :
    P.derive [seed, (P.toBytes q).val] ≠ P.derive [seed', (P.toBytes q').val] := by
  intro h
  exact hne (derive_injective hr hseed hseed' hq hq' h).1

theorem authoritySigner_ne (hr : Runtime P known) : P.derive [authoritySignerSeed] ≠ custodySigner P :=
  hr.free.ne .authoritySigner .custodySigner (by decide)

theorem fromCustody_ne_toCustody (hr : Runtime P known) (hpair : pair.Known P known) :
    pair.fromCustody P ≠ pair.toCustody P :=
  derive_ne_of_seed hr (by decide) (by decide) (by decide) hpair.pool hpair.pool

theorem heldWeight_fromCustody (hr : Runtime P known) (hpair : pair.Known P known) (hq : q ∈ known) :
    heldWeight P pair (P.derive (fromCustodySeeds (P.toBytes q))) =
      if q = pair.pool P then pair.fromWeight else 0 := by
  by_cases hpool : q = pair.pool P
  · rw [if_pos hpool, hpool]
    exact if_pos rfl
  · have hfrom : P.derive (fromCustodySeeds (P.toBytes q)) ≠ pair.fromCustody P :=
      derive_ne hr hpair hq hpool (by decide) (by decide)
    have hto : P.derive (fromCustodySeeds (P.toBytes q)) ≠ pair.toCustody P :=
      derive_ne hr hpair hq hpool (by decide) (by decide)
    rw [if_neg hpool, heldWeight, if_neg hfrom, if_neg hto]

theorem heldWeight_toCustody (hr : Runtime P known) (hpair : pair.Known P known) (hq : q ∈ known) :
    heldWeight P pair (P.derive (toCustodySeeds (P.toBytes q))) =
      if q = pair.pool P then pair.toWeight else 0 := by
  by_cases hpool : q = pair.pool P
  · rw [if_pos hpool, hpool]
    show heldWeight P pair (pair.toCustody P) = pair.toWeight
    rw [heldWeight, if_neg (fromCustody_ne_toCustody hr hpair).symm, if_pos rfl]
  · have hfrom : P.derive (toCustodySeeds (P.toBytes q)) ≠ pair.fromCustody P :=
      derive_ne hr hpair hq hpool (by decide) (by decide)
    have hto : P.derive (toCustodySeeds (P.toBytes q)) ≠ pair.toCustody P :=
      derive_ne hr hpair hq hpool (by decide) (by decide)
    rw [if_neg hpool, heldWeight, if_neg hfrom, if_neg hto]

theorem shareWeight_shareMint (hr : Runtime P known) (hpair : pair.Known P known) (hq : q ∈ known) :
    shareWeight P pair (P.derive (shareMintSeeds (P.toBytes q))) =
      if q = pair.pool P then pair.fromWeight else 0 := by
  by_cases hpool : q = pair.pool P
  · rw [if_pos hpool, hpool]
    exact if_pos rfl
  · have hmint : P.derive (shareMintSeeds (P.toBytes q)) ≠ pair.shareMint P :=
      derive_ne hr hpair hq hpool (by decide) (by decide)
    rw [if_neg hpool, shareWeight, if_neg hmint]

end Addresses

/-! ## One call after the other -/

section Shifts

variable {P : MigrationProgram Pubkey} {pair : Pair Pubkey} {known : Set Pubkey} {L L' L'' : Ledger Pubkey}
  {δ δ' : Int} {signed : Option Pubkey} {amount : UInt64}

variable (P pair) in
/-- A part of an instruction that keeps what protects the pool, and adds at least `δ` to its surplus. -/
structure Shift (L L' : Ledger Pubkey) (δ : Int) : Prop where
  kept : ∀ k, Kept P.toProgram L L' k
  decimals : Spl.KeepsDecimals P.toTokenProgram L L'
  guards : Guards P pair L'
  fresh : (L (pair.pool P)).owner ≠ P.programId → shares P pair L = 0 → shares P pair L' = 0
  surplus : surplus P pair L + δ ≤ surplus P pair L'

theorem Shift.trans (h : Shift P pair L L' δ) (h' : Shift P pair L' L'' δ') : Shift P pair L L'' (δ + δ') where
  kept := fun k => (h.kept k).trans (h'.kept k)
  decimals := h.decimals.trans h'.decimals
  guards := h'.guards
  fresh := by
    intro howner hnone
    have howner' : (L' (pair.pool P)).owner ≠ P.programId := fun hold => howner ((h.kept _).1.mp hold)
    exact h'.fresh howner' (h.fresh howner hnone)
  surplus := by
    have hfirst := h.surplus
    have hsecond := h'.surplus
    omega

/-- What loses nothing keeps the pool solvent. -/
theorem Shift.solvent (h : Shift P pair L L' δ) (hδ : 0 ≤ δ) (hs : Solvent P pair L) : Solvent P pair L' where
  guards := h.guards
  fresh := by
    intro howner
    have hbefore : (L (pair.pool P)).owner ≠ P.programId := fun hold => howner ((h.kept _).1.mpr hold)
    exact h.fresh hbefore (hs.fresh hbefore)
  covered := by
    have hcovered := hs.covered
    have hsurplus := h.surplus
    unfold Migration.surplus at hsurplus
    omega

/-- The surplus, from the balances and the shares. -/
theorem surplus_add_le {a b s : Int} (hfrom : fromHeld P pair L + a ≤ fromHeld P pair L')
    (hto : toHeld P pair L + b ≤ toHeld P pair L') (hshares : shares P pair L' ≤ shares P pair L + s) :
    surplus P pair L + (a * pair.fromWeight + b * pair.toWeight - s * pair.fromWeight) ≤ surplus P pair L' := by
  have hfromWeight : (0 : Int) ≤ pair.fromWeight := Int.natCast_nonneg _
  have htoWeight : (0 : Int) ≤ pair.toWeight := Int.natCast_nonneg _
  have hf := mul_le_mul_of_nonneg_right hfrom hfromWeight
  have ht := mul_le_mul_of_nonneg_right hto htoWeight
  have hs := mul_le_mul_of_nonneg_right hshares hfromWeight
  rw [add_mul] at hf ht hs
  unfold surplus value
  push_cast
  linarith

theorem Guards.invoke (hr : Runtime P known) (hg : Guards P pair L) {ix : Spl.Instruction Pubkey}
    (h : P.invoke L ix signed = .ok L')
    (haccount : ∀ k mint owner, ix = .initializeAccount k mint owner → owner = custodySigner P)
    (hmint : ∀ k authority decimals, ix = .initializeMint k authority decimals → authority = custodySigner P) :
    Guards P pair L' where
  fromCustody := hr.spl.guarded h hg.fromCustody (haccount _)
  toCustody := hr.spl.guarded h hg.toCustody (haccount _)
  shareMint := hr.spl.mintGuarded h hg.shareMint (hmint _)
  pool := by
    have hkept := hr.spl.kept P.programId_ne_token h (pair.pool P)
    intro howner
    have hbefore := hkept.1.mp howner
    rw [hkept.2 hbefore]
    exact hg.pool hbefore

/-- An invocation that initializes nothing, from what it does to the balances and the shares. -/
theorem Shift.of_invoke (hr : Runtime P known) (hg : Guards P pair L) {ix : Spl.Instruction Pubkey}
    (h : P.invoke L ix signed = .ok L') (haccount : ∀ k mint owner, ix ≠ .initializeAccount k mint owner)
    (hmint : ∀ k authority decimals, ix ≠ .initializeMint k authority decimals) {a b s : Int}
    (hfrom : fromHeld P pair L + a ≤ fromHeld P pair L') (hto : toHeld P pair L + b ≤ toHeld P pair L')
    (hshares : shares P pair L' ≤ shares P pair L + s)
    (hfresh : (L (pair.pool P)).owner ≠ P.programId → s ≤ 0)
    (hδ : δ ≤ a * pair.fromWeight + b * pair.toWeight - s * pair.fromWeight) : Shift P pair L L' δ where
  kept := hr.spl.kept P.programId_ne_token h
  decimals := fun _ _ => hr.spl.decimals h
  guards := hg.invoke hr h (fun k mint owner heq => absurd heq (haccount k mint owner))
    (fun k authority decimals heq => absurd heq (hmint k authority decimals))
  fresh := by
    intro howner hnone
    have hs := hfresh howner
    omega
  surplus := by
    have hle := surplus_add_le hfrom hto hshares
    omega

/-- What an amount at an address counts for. -/
theorem mul_heldWeight (hr : Runtime P known) (hpair : pair.Known P known) (k : Pubkey) (n : Int) :
    n * heldWeight P pair k = (if k = pair.fromCustody P then n else 0) * pair.fromWeight +
      (if k = pair.toCustody P then n else 0) * pair.toWeight := by
  unfold heldWeight
  by_cases hfrom : k = pair.fromCustody P
  · have hto : k ≠ pair.toCustody P := hfrom ▸ fromCustody_ne_toCustody hr hpair
    rw [if_pos hfrom, if_pos hfrom, if_neg hto, Int.zero_mul, Int.add_zero]
  · by_cases hto : k = pair.toCustody P
    · rw [if_neg hfrom, if_pos hto, if_neg hfrom, if_pos hto, Int.zero_mul, Int.zero_add]
    · rw [if_neg hfrom, if_neg hto, if_neg hfrom, if_neg hto, Int.zero_mul, Int.zero_mul, Int.natCast_zero,
        Int.mul_zero, Int.add_zero]

/-- What a user puts in. -/
theorem pull_shift (hr : Runtime P known) (hpair : pair.Known P known) (hg : Guards P pair L)
    {source destination signer : AccountMeta Pubkey} (hsigner : P.derive [authoritySignerSeed] = signer.key)
    (h : pull P L source destination signer amount = .ok L') :
    Shift P pair L L' (amount.toNat * heldWeight P pair destination.key) := by
  have hne : signer.key ≠ custodySigner P := hsigner ▸ authoritySigner_ne hr
  have hheld : ∀ k, Spl.Guarded P.toTokenProgram L k (custodySigner P) →
      (Spl.balance P.toTokenProgram L k : Int) + (if destination.key = k then (amount.toNat : Int) else 0) ≤
        Spl.balance P.toTokenProgram L' k := by
    intro k hguarded
    split
    · rename_i heq
      subst heq
      have hin := hguarded.pull_eq hr.spl hne h
      omega
    · have hle := hguarded.le_pull hr.spl hne h
      omega
  have hshares : shares P pair L' = shares P pair L := hr.spl.transfer_supply h _
  refine Shift.of_invoke hr hg h nofun nofun (s := 0) (hheld _ hg.fromCustody) (hheld _ hg.toCustody) ?_ ?_ ?_
  · omega
  · intro _
    exact le_rfl
  · rw [mul_heldWeight hr hpair, Int.zero_mul, Int.sub_zero]

/-- What the pool pays. -/
theorem push_shift (hr : Runtime P known) (hpair : pair.Known P known) (hg : Guards P pair L)
    {source destination signer : AccountMeta Pubkey} (h : push P L source destination signer amount = .ok L') :
    Shift P pair L L' (-amount.toNat * heldWeight P pair source.key) := by
  have hheld : ∀ k, (Spl.balance P.toTokenProgram L k : Int) +
      (if source.key = k then -(amount.toNat : Int) else 0) ≤ Spl.balance P.toTokenProgram L' k := by
    intro k
    split
    · rename_i heq
      subst heq
      have hout := hr.spl.push_le h
      omega
    · rename_i hne
      have hle := hr.spl.le_push (Ne.symm hne) h
      omega
  have hshares : shares P pair L' = shares P pair L := hr.spl.transfer_supply h _
  refine Shift.of_invoke hr hg h nofun nofun (s := 0) (hheld _) (hheld _) ?_ ?_ ?_
  · omega
  · intro _
    exact le_rfl
  · rw [mul_heldWeight hr hpair, Int.zero_mul, Int.sub_zero]

/-- Shares that are minted; those of the pool only once there is a pool. -/
theorem mint_shift (hr : Runtime P known) (hg : Guards P pair L) {mint account authority : Pubkey}
    (hpool : mint = pair.shareMint P → (L (pair.pool P)).owner = P.programId)
    (h : P.invoke L (.mintTo mint account authority amount) signed = .ok L') :
    Shift P pair L L' (-amount.toNat * shareWeight P pair mint) := by
  have hheld : ∀ k, (Spl.balance P.toTokenProgram L k : Int) + 0 ≤ Spl.balance P.toTokenProgram L' k := by
    intro k
    have hle := hr.spl.le_mintTo (k := k) h
    omega
  obtain ⟨-, -, hsame, hothers⟩ := hr.spl.mintTo h
  refine Shift.of_invoke hr hg h nofun nofun (s := if mint = pair.shareMint P then amount.toNat else 0)
    (hheld _) (hheld _) ?_ ?_ ?_
  · split
    · rename_i heq
      subst heq
      show (Spl.supply P.toTokenProgram L' _ : Int) ≤ Spl.supply P.toTokenProgram L _ + _
      omega
    · rename_i hne
      have hsupply : shares P pair L' = shares P pair L := hothers _ (Ne.symm hne)
      omega
  · intro howner
    rw [if_neg fun heq => howner (hpool heq)]
  · unfold shareWeight
    split <;> simp

/-- Shares that a user burns. -/
theorem burn_shift (hr : Runtime P known) (hg : Guards P pair L) {account mint signer : AccountMeta Pubkey}
    (hsigner : P.derive [authoritySignerSeed] = signer.key)
    (h : burnShares P L account mint signer amount = .ok L') :
    Shift P pair L L' (amount.toNat * shareWeight P pair mint.key) := by
  have hne : signer.key ≠ custodySigner P := hsigner ▸ authoritySigner_ne hr
  have hheld : ∀ k, Spl.Guarded P.toTokenProgram L k (custodySigner P) →
      (Spl.balance P.toTokenProgram L k : Int) + 0 ≤ Spl.balance P.toTokenProgram L' k := by
    intro k hguarded
    have heq := hguarded.burn_eq hr.spl hne h
    omega
  obtain ⟨-, -, -, hsame, hothers⟩ := hr.spl.burn h
  refine Shift.of_invoke hr hg h nofun nofun (s := if mint.key = pair.shareMint P then -amount.toNat else 0)
    (hheld _ hg.fromCustody) (hheld _ hg.toCustody) ?_ ?_ ?_
  · split
    · rename_i heq
      rw [heq] at hsame
      show (Spl.supply P.toTokenProgram L' _ : Int) ≤ Spl.supply P.toTokenProgram L _ + _
      omega
    · rename_i hneq
      have hsupply : shares P pair L' = shares P pair L := hothers _ (Ne.symm hneq)
      omega
  · intro _
    split <;> omega
  · unfold shareWeight
    split <;> simp

/-- Writing the pool's data back. -/
theorem persist_shift {m : AccountMeta Pubkey} {data : PoolData} (hg : Guards P pair L)
    (hdata : (L m.key).data = PoolData.codec.write data)
    (h : persist P.toProgram L m data = .ok L') : Shift P pair L L' 0 := by
  have hkept := fun k => (persist_eq_ok h).kept_same (k := k) hdata
  have hsame := Spl.persist_sameTokens (S := P.toTokenProgram) P.programId_ne_token h
  have hshares : shares P pair L' = shares P pair L := (hsame _).supply
  refine ⟨hkept, .of_same hsame, ?_, fun _ hnone => hshares.trans hnone, ?_⟩
  · refine ⟨(hsame _).guarded hg.fromCustody, (hsame _).guarded hg.toCustody, (hsame _).mintGuarded hg.shareMint, ?_⟩
    intro howner
    have hbefore := (hkept _).1.mp howner
    rw [(hkept _).2 hbefore]
    exact hg.pool hbefore
  · unfold surplus value fromHeld toHeld
    rw [hshares, (hsame _).balance, (hsame _).balance, Int.add_zero]

end Shifts

end Wormhole.Solana.Migration

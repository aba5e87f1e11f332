/-
# Wormhole.Solana.PoolSolvency — the migration pool holds what its shares claim.

The shares of a pool weigh at most what its two custody accounts hold (`Solvent`).  Every instruction keeps that,
of this pool or of another one, with whatever accounts, and so does whatever others do to the ledger
(`preserves_step`); it holds in every run from a ledger on which the program's addresses are not in use
(`solvent_run`), with the decimals that the mints have in the end.
-/
import Mathlib
import Wormhole.Lib.Bytes
import Wormhole.Lib.Failing
import Wormhole.Lib.Codec
import Wormhole.Lib.Scaling
import Wormhole.Lib.Transition
import Wormhole.Solana.Payloads
import Wormhole.Solana.Solitaire
import Wormhole.Solana.Accounts
import Wormhole.Solana.Spl
import Wormhole.Solana.PlainTokens
import Wormhole.Solana.Migration
import Wormhole.Solana.Pool

namespace Wormhole.Solana.Migration

open Wormhole.Lib Wormhole.Lib.Bytes Wormhole.Lib.Transition

variable {Pubkey : Type} [DecidableEq Pubkey]

/-! ## The instructions -/

section Instructions

variable {P : MigrationProgram Pubkey} {pair : Pair Pubkey} {known : Set Pubkey} {L L' : Ledger Pubkey}
  {amount : UInt64} {m : AccountMeta Pubkey} {data : PoolData} {d d' : UInt8}

variable (P L m data) in
/-- The account is a pool with the data, at its address. -/
structure Opened : Prop where
  owner : (L m.key).owner = P.programId
  written : (L m.key).data = PoolData.codec.write data
  derived : P.derive (poolSeeds data.from' data.to') = m.key

/-- A pool that can be read is the program's, and is what has been written for its data. -/
theorem peelPool_eq_ok (h : peelPool P L m = .ok data) :
    (L m.key).owner = P.programId ∧ (L m.key).data = PoolData.codec.write data := by
  obtain ⟨_, -, h⟩ := Failing.bind_eq_ok.mp h
  obtain ⟨-, hread, howner⟩ := peelData_initialized.mp h
  exact ⟨howner, Codec.decode_eq_ok.mp hread⟩

/-- The data of the pair's pool are its two mints. -/
theorem Opened.eq (ho : Opened P L m data) (hg : Guards P pair L) (hpool : m.key = pair.pool P) :
    data = pair.data P := by
  have hwritten := hg.pool (hpool ▸ ho.owner)
  rw [← hpool, ho.written] at hwritten
  have happend : PoolData.codec.write data ++ [] = PoolData.codec.write (pair.data P) ++ [] := by rw [hwritten]
  exact (Codec.write_append_inj happend).1

variable (P L) in
/-- The decimals are those of a mint that the pool is for. -/
def MintOf (k : Pubkey) (bytes : FixedBytes 32) (decimals : UInt8) : Prop :=
  P.toBytes k = bytes ∧ Spl.HasDecimals P.toTokenProgram L k decimals

/-- Two known mints that a pool names with the same bytes are one, with one number of decimals. -/
theorem MintOf.eq (hr : Runtime P known) {k k' : Pubkey} (h : MintOf P L k (P.toBytes k') d) (hk : k ∈ known)
    (hk' : k' ∈ known) (hdecimals : Spl.DecimalsAre P.toTokenProgram L k' d') : d = d' := by
  obtain rfl := hr.bytes hk hk' h.1
  exact hdecimals.eq h.2

variable (P L) in
/-- What `add_liquidity` and `remove_liquidity` have checked. -/
structure LiquidityChecked (accs : Liquidity Pubkey) (data : PoolData) (d d' : UInt8) : Prop where
  opened : Opened P L accs.pool data
  fromMint : MintOf P L accs.fromMint.key data.from' d
  toMint : MintOf P L accs.toMint.key data.to' d'
  custody : P.derive (toCustodySeeds (P.toBytes accs.pool.key)) = accs.toTokenCustody.key
  shareMint : P.derive (shareMintSeeds (P.toBytes accs.pool.key)) = accs.shareMint.key
  authoritySigner : P.derive [authoritySignerSeed] = accs.authoritySigner.key

/-- The signers of the program are derived, each from its seed. -/
theorem peelSignerOf_eq_ok {seed : List UInt8} {u : Unit} (h : peelSignerOf P seed m = .ok u) :
    P.derive [seed] = m.key := by
  obtain ⟨_, hderive, -⟩ := Failing.bind_eq_ok.mp h
  exact ensure_eq_ok.mp hderive

/-- What is needed of the fifteen checks. -/
theorem checkLiquidity_eq_ok {accs : Liquidity Pubkey} (h : checkLiquidity P L accs = .ok (data, d, d')) :
    LiquidityChecked P L accs data d d' := by
  obtain ⟨_, hpool, h⟩ := Failing.bind_eq_ok.mp h
  obtain ⟨fromMint, hfromMint, h⟩ := Failing.bind_eq_ok.mp h
  obtain ⟨toMint, htoMint, h⟩ := Failing.bind_eq_ok.mp h
  obtain ⟨_, -, h⟩ := Failing.bind_eq_ok.mp h
  obtain ⟨_, -, h⟩ := Failing.bind_eq_ok.mp h
  obtain ⟨_, -, h⟩ := Failing.bind_eq_ok.mp h
  obtain ⟨_, -, h⟩ := Failing.bind_eq_ok.mp h
  obtain ⟨_, -, h⟩ := Failing.bind_eq_ok.mp h
  obtain ⟨_, hauthority, h⟩ := Failing.bind_eq_ok.mp h
  obtain ⟨_, hfrom, h⟩ := Failing.bind_eq_ok.mp h
  obtain ⟨_, hto, h⟩ := Failing.bind_eq_ok.mp h
  obtain ⟨_, -, h⟩ := Failing.bind_eq_ok.mp h
  obtain ⟨_, hcustody, h⟩ := Failing.bind_eq_ok.mp h
  obtain ⟨_, hshare, h⟩ := Failing.bind_eq_ok.mp h
  obtain ⟨_, hderived, h⟩ := Failing.bind_eq_ok.mp h
  obtain ⟨rfl, heq⟩ := Prod.mk.inj (Except.ok.inj h)
  obtain ⟨rfl, rfl⟩ := Prod.mk.inj heq
  obtain ⟨howner, hdata⟩ := peelPool_eq_ok hpool
  exact
    { opened := ⟨howner, hdata, ensure_eq_ok.mp hderived⟩
      fromMint := ⟨ensure_eq_ok.mp hfrom, fromMint, Spl.peelMint_eq_ok hfromMint, rfl⟩
      toMint := ⟨ensure_eq_ok.mp hto, toMint, Spl.peelMint_eq_ok htoMint, rfl⟩
      custody := ensure_eq_ok.mp hcustody
      shareMint := ensure_eq_ok.mp hshare
      authoritySigner := peelSignerOf_eq_ok hauthority }

/-- The decimals that an instruction on the pair's pool reads are the pair's. -/
theorem decimals_eq (hr : Runtime P known) (hpair : pair.Known P known) (hg : Guards P pair L)
    (hdec : Decided P pair L) (ho : Opened P L m data) (hpool : m.key = pair.pool P) {k k' : Pubkey}
    (hk : k ∈ known) (hk' : k' ∈ known) (hfrom : MintOf P L k data.from' d) (hto : MintOf P L k' data.to' d') :
    d = pair.fromDecimals ∧ d' = pair.toDecimals := by
  obtain rfl := ho.eq hg hpool
  exact ⟨hfrom.eq hr hk hpair.from' hdec.1, hto.eq hr hk' hpair.to' hdec.2⟩

variable (P pair L L') in
/-- What an instruction does to a pool: with the decimals as they are, it loses nothing. -/
structure Preserves : Prop where
  guards : Guards P pair L'
  decimals : Spl.KeepsDecimals P.toTokenProgram L L'
  solvent : Close pair.fromDecimals pair.toDecimals → Decided P pair L → Solvent P pair L → Solvent P pair L'

/-- The end of an instruction. -/
theorem Shift.persist {L₁ : Ledger Pubkey} {δ : Int} (h : Shift P pair L L₁ δ) (ho : Opened P L m data)
    (hpersist : persist P.toProgram L₁ m data = .ok L')
    (hδ : Close pair.fromDecimals pair.toDecimals → Decided P pair L → 0 ≤ δ) : Preserves P pair L L' := by
  have hdata := ((h.kept m.key).2 ho.owner).trans ho.written
  have hall := h.trans (persist_shift h.guards hdata hpersist)
  refine ⟨hall.guards, hall.decimals, ?_⟩
  intro hclose hdec hs
  have hnonneg := hδ hclose hdec
  exact hall.solvent (by omega) hs

/-- What comes in outweighs what goes out. -/
theorem nonneg_of_mul_le {a b c e : Nat} (h : c * e ≤ a * b) : (0 : Int) ≤ a * b + -c * e := by
  have hcast : (c : Int) * e ≤ a * b := by exact_mod_cast h
  rw [Int.neg_mul]
  omega

/-- Who mints shares of the pair has its pool: the share mint is derived from the pool. -/
theorem owned_of_shareMint (hr : Runtime P known) (hpair : pair.Known P known) {accs : Liquidity Pubkey}
    (hknown : accs.pool.key ∈ known) (hchecked : LiquidityChecked P L accs data d d')
    (h : accs.shareMint.key = pair.shareMint P) : (L (pair.pool P)).owner = P.programId := by
  by_cases hpool : accs.pool.key = pair.pool P
  · rw [← hpool]
    exact hchecked.opened.owner
  · exact absurd (hchecked.shareMint.trans h) (derive_ne hr hpair hknown hpool (by decide) (by decide))

section

variable (hr : Runtime P known) (hpair : pair.Known P known) (hg : Guards P pair L)

include hr hpair hg

/-- New tokens come in, and shares for them are minted. -/
theorem addLiquidity_preserves {accs : Liquidity Pubkey} (hpoolKnown : accs.pool.key ∈ known)
    (hfromKnown : accs.fromMint.key ∈ known) (htoKnown : accs.toMint.key ∈ known)
    (h : addLiquidity P L accs amount = .ok L') : Preserves P pair L L' := by
  obtain ⟨⟨data, d, d'⟩, hcheck, h⟩ := Failing.bind_eq_ok.mp h
  obtain ⟨x, hin, h⟩ := Failing.bind_eq_ok.mp h
  obtain ⟨L₁, hpull, h⟩ := Failing.bind_eq_ok.mp h
  obtain ⟨s, hshare, h⟩ := Failing.bind_eq_ok.mp h
  obtain ⟨L₂, hmint, hpersist⟩ := Failing.bind_eq_ok.mp h
  have hchecked := checkLiquidity_eq_ok hcheck
  have hpulled := pull_shift hr hpair hg hchecked.authoritySigner hpull
  have howned : accs.shareMint.key = pair.shareMint P → (L₁ (pair.pool P)).owner = P.programId :=
    fun heq => (hpulled.kept _).1.mpr (owned_of_shareMint hr hpair hpoolKnown hchecked heq)
  have hminted := mint_shift hr hpulled.guards howned hmint
  apply (hpulled.trans hminted).persist hchecked.opened hpersist
  rw [← hchecked.custody, ← hchecked.shareMint, heldWeight_toCustody hr hpair hpoolKnown,
    shareWeight_shareMint hr hpair hpoolKnown]
  intro hclose hdec
  apply nonneg_of_mul_le
  split
  · rename_i hpool
    obtain ⟨rfl, rfl⟩ := decimals_eq hr hpair hg hdec hchecked.opened hpool hfromKnown htoKnown hchecked.fromMint
      hchecked.toMint
    rw [shareAmount_eq_ok hclose hshare]
    exact toTokensIn_eq_ok hclose hin
  -- another pool: neither weight counts
  · exact le_rfl

/-- Shares are burned, and new tokens for them go out, rounded down. -/
theorem removeLiquidity_preserves {accs : Liquidity Pubkey} (hpoolKnown : accs.pool.key ∈ known)
    (hfromKnown : accs.fromMint.key ∈ known) (htoKnown : accs.toMint.key ∈ known)
    (h : removeLiquidity P L accs amount = .ok L') : Preserves P pair L L' := by
  obtain ⟨⟨data, d, d'⟩, hcheck, h⟩ := Failing.bind_eq_ok.mp h
  obtain ⟨out, hout, h⟩ := Failing.bind_eq_ok.mp h
  obtain ⟨L₁, hpush, h⟩ := Failing.bind_eq_ok.mp h
  obtain ⟨L₂, hburn, hpersist⟩ := Failing.bind_eq_ok.mp h
  have hchecked := checkLiquidity_eq_ok hcheck
  have hpushed := push_shift hr hpair hg hpush
  have hburned := burn_shift hr hpushed.guards hchecked.authoritySigner hburn
  apply (hpushed.trans hburned).persist hchecked.opened hpersist
  rw [← hchecked.custody, ← hchecked.shareMint, heldWeight_toCustody hr hpair hpoolKnown,
    shareWeight_shareMint hr hpair hpoolKnown, Int.add_comm]
  intro hclose hdec
  apply nonneg_of_mul_le
  split
  · rename_i hpool
    obtain ⟨rfl, rfl⟩ := decimals_eq hr hpair hg hdec hchecked.opened hpool hfromKnown htoKnown hchecked.fromMint
      hchecked.toMint
    rw [outAmount_eq_ok hclose hout]
    exact scaled_mul_le _ _ _
  · exact le_rfl

/-- Old tokens come in, and new ones for them go out, rounded down. -/
theorem migrateTokens_preserves {accs : MigrateTokens Pubkey} (hpoolKnown : accs.pool.key ∈ known)
    (hfromKnown : accs.fromMint.key ∈ known) (htoKnown : accs.toMint.key ∈ known)
    (h : migrateTokens P L accs amount = .ok L') : Preserves P pair L L' := by
  obtain ⟨data, hpeel, h⟩ := Failing.bind_eq_ok.mp h
  obtain ⟨fromMint, hfromMint, h⟩ := Failing.bind_eq_ok.mp h
  obtain ⟨toMint, htoMint, h⟩ := Failing.bind_eq_ok.mp h
  obtain ⟨_, -, h⟩ := Failing.bind_eq_ok.mp h
  obtain ⟨_, -, h⟩ := Failing.bind_eq_ok.mp h
  obtain ⟨_, -, h⟩ := Failing.bind_eq_ok.mp h
  obtain ⟨_, -, h⟩ := Failing.bind_eq_ok.mp h
  obtain ⟨_, -, h⟩ := Failing.bind_eq_ok.mp h
  obtain ⟨_, hauthority, h⟩ := Failing.bind_eq_ok.mp h
  obtain ⟨_, hfrom, h⟩ := Failing.bind_eq_ok.mp h
  obtain ⟨_, hto, h⟩ := Failing.bind_eq_ok.mp h
  obtain ⟨_, -, h⟩ := Failing.bind_eq_ok.mp h
  obtain ⟨_, -, h⟩ := Failing.bind_eq_ok.mp h
  obtain ⟨_, htoCustody, h⟩ := Failing.bind_eq_ok.mp h
  obtain ⟨_, hfromCustody, h⟩ := Failing.bind_eq_ok.mp h
  obtain ⟨_, hderived, h⟩ := Failing.bind_eq_ok.mp h
  obtain ⟨L₁, hpull, h⟩ := Failing.bind_eq_ok.mp h
  obtain ⟨out, hout, h⟩ := Failing.bind_eq_ok.mp h
  obtain ⟨L₂, hpush, hpersist⟩ := Failing.bind_eq_ok.mp h
  obtain ⟨howner, hdata⟩ := peelPool_eq_ok hpeel
  have hopened : Opened P L accs.pool data := ⟨howner, hdata, ensure_eq_ok.mp hderived⟩
  have hpulled := pull_shift hr hpair hg (peelSignerOf_eq_ok hauthority) hpull
  have hpushed := push_shift hr hpair hpulled.guards hpush
  apply (hpulled.trans hpushed).persist hopened hpersist
  rw [← ensure_eq_ok.mp htoCustody, ← ensure_eq_ok.mp hfromCustody, heldWeight_toCustody hr hpair hpoolKnown,
    heldWeight_fromCustody hr hpair hpoolKnown]
  intro hclose hdec
  apply nonneg_of_mul_le
  split
  · rename_i hpool
    have hfromMintOf : MintOf P L accs.fromMint.key data.from' fromMint.decimals :=
      ⟨ensure_eq_ok.mp hfrom, fromMint, Spl.peelMint_eq_ok hfromMint, rfl⟩
    have htoMintOf : MintOf P L accs.toMint.key data.to' toMint.decimals :=
      ⟨ensure_eq_ok.mp hto, toMint, Spl.peelMint_eq_ok htoMint, rfl⟩
    obtain ⟨hd, hd'⟩ := decimals_eq hr hpair hg hdec hopened hpool hfromKnown htoKnown hfromMintOf htoMintOf
    rw [hd, hd'] at hout
    rw [outAmount_eq_ok hclose hout]
    exact scaled_mul_le _ _ _
  · exact le_rfl

end

/-- Shares are burned for as many old tokens. -/
theorem claimShares_preserves (hr : Runtime P known) (hpair : pair.Known P known) (hg : Guards P pair L)
    {accs : ClaimShares Pubkey} (hpoolKnown : accs.pool.key ∈ known)
    (h : claimShares P L accs amount = .ok L') : Preserves P pair L L' := by
  obtain ⟨data, hpeel, h⟩ := Failing.bind_eq_ok.mp h
  obtain ⟨_, -, h⟩ := Failing.bind_eq_ok.mp h
  obtain ⟨_, -, h⟩ := Failing.bind_eq_ok.mp h
  obtain ⟨_, -, h⟩ := Failing.bind_eq_ok.mp h
  obtain ⟨_, -, h⟩ := Failing.bind_eq_ok.mp h
  obtain ⟨_, -, h⟩ := Failing.bind_eq_ok.mp h
  obtain ⟨_, hauthority, h⟩ := Failing.bind_eq_ok.mp h
  obtain ⟨_, -, h⟩ := Failing.bind_eq_ok.mp h
  obtain ⟨_, hcustody, h⟩ := Failing.bind_eq_ok.mp h
  obtain ⟨_, hshare, h⟩ := Failing.bind_eq_ok.mp h
  obtain ⟨_, hderived, h⟩ := Failing.bind_eq_ok.mp h
  obtain ⟨L₁, hpush, h⟩ := Failing.bind_eq_ok.mp h
  obtain ⟨L₂, hburn, hpersist⟩ := Failing.bind_eq_ok.mp h
  obtain ⟨howner, hdata⟩ := peelPool_eq_ok hpeel
  have hopened : Opened P L accs.pool data := ⟨howner, hdata, ensure_eq_ok.mp hderived⟩
  have hpushed := push_shift hr hpair hg hpush
  have hburned := burn_shift hr hpushed.guards (peelSignerOf_eq_ok hauthority) hburn
  apply (hpushed.trans hburned).persist hopened hpersist
  rw [← ensure_eq_ok.mp hcustody, ← ensure_eq_ok.mp hshare, heldWeight_fromCustody hr hpair hpoolKnown,
    shareWeight_shareMint hr hpair hpoolKnown, Int.add_comm]
  exact fun _ _ => nonneg_of_mul_le le_rfl

end Instructions

/-! ## A new pool -/

section Creation

variable {P : MigrationProgram Pubkey} {pair : Pair Pubkey} {known : Set Pubkey} {L L₁ L' : Ledger Pubkey}
  {payer m : AccountMeta Pubkey} {seeds : List (List UInt8)} {size : Nat}

variable (P pair) in
/-- A new account of the token program, which nobody but the pool disposes of. -/
structure Founded (L L' : Ledger Pubkey) (m : AccountMeta Pubkey) (seeds : List (List UInt8)) : Prop where
  signed : m.isSigner = true ∨ m.key = P.derive seeds
  kept : ∀ k, Kept P.toProgram L L' k
  decimals : Spl.KeepsDecimals P.toTokenProgram L L'
  guards : Guards P pair L'
  others : ∀ k, k ≠ m.key → Spl.SameTokens P.toTokenProgram L L' k

/-- An account of the token program is created and then initialized for the custody signer. -/
theorem founded (hr : Runtime P known) (hg : Guards P pair L)
    (hcreate : createToken P L payer m seeds size = .ok L₁) {ix : Spl.Instruction Pubkey}
    (hinit : P.invoke L₁ ix none = .ok L')
    (haccount : ∀ k mint owner, ix = .initializeAccount k mint owner → owner = custodySigner P)
    (hmint : ∀ k authority decimals, ix = .initializeMint k authority decimals → authority = custodySigner P)
    (hothers : ∀ k, k ≠ m.key → Spl.SameTokens P.toTokenProgram L₁ L' k) : Founded P pair L L' m seeds := by
  have hcreated := createAccount_eq_ok hcreate
  have hsame := Spl.createAccount_sameTokens hr.spl P.systemProgram_ne_token hcreate
  have hkept := hcreated.kept_foreign P.programId_ne_token.symm
  have hg₁ : Guards P pair L₁ := by
    refine ⟨(hsame _).guarded hg.fromCustody, (hsame _).guarded hg.toCustody,
      (hsame _).mintGuarded hg.shareMint, ?_⟩
    intro howner
    have hbefore := (hkept _).1.mp howner
    rw [(hkept _).2 hbefore]
    exact hg.pool hbefore
  refine ⟨?_, ?_, ?_, hg₁.invoke hr hinit haccount hmint, ?_⟩
  · exact hcreated.signed.imp_right fun h => (Option.some.inj h).symm
  · intro k
    exact (hkept k).trans (hr.spl.kept P.programId_ne_token hinit k)
  · exact (Spl.KeepsDecimals.of_same hsame).trans fun _ _ => hr.spl.decimals hinit
  · intro k hk
    exact (hsame k).trans (hothers k hk)

/-- Where no derived address signs, a new account is elsewhere. -/
theorem Founded.ne (h : Founded P pair L L' m seeds)
    (hsigner : m.isSigner = true → ¬P.IsDerived known m.key) {seeds' : List (List UInt8)}
    (hused : SeedsInUse P known seeds') (hne : P.derive seeds ≠ P.derive seeds') : P.derive seeds' ≠ m.key := by
  intro heq
  -- it has signed for itself, or the program has signed for it with its seeds
  rcases h.signed with hsigned | hkey
  · exact hsigner hsigned ⟨seeds', hused, heq.symm⟩
  · exact hne (hkey.symm.trans heq.symm)

variable (P known) in
/-- The mints and the pool are among those that come up, and no derived address signs. -/
structure CreatePool.Admissible (accs : CreatePool Pubkey) : Prop where
  pool : accs.pool.key ∈ known
  fromMint : accs.fromMint.key ∈ known
  toMint : accs.toMint.key ∈ known
  signers : ∀ m ∈ [accs.pool, accs.fromTokenCustody, accs.toTokenCustody, accs.poolMint],
    m.isSigner = true → ¬P.IsDerived known m.key

variable (P pair) in
/-- The accounts of the token program that `create_pool` makes, one after the other. -/
structure FoundedAll (L L' : Ledger Pubkey) (accs : CreatePool Pubkey) : Prop where
  kept : ∀ k, Kept P.toProgram L L' k
  decimals : Spl.KeepsDecimals P.toTokenProgram L L'
  guards : Guards P pair L'
  /-- nothing has changed, if it is for another pool -/
  other : accs.pool.key ≠ pair.pool P → fromHeld P pair L' = fromHeld P pair L ∧
    toHeld P pair L' = toHeld P pair L ∧ shares P pair L' = shares P pair L
  /-- there are no shares -/
  none : shares P pair L = 0 → shares P pair L' = 0

/-- The two custody accounts and the share mint are founded first, and the pool is written behind them. -/
theorem createPool_eq_ok (hr : Runtime P known) (hpair : pair.Known P known) (hg : Guards P pair L)
    {accs : CreatePool Pubkey} (hadmissible : accs.Admissible P known) (h : createPool P L accs = .ok L') :
    ∃ L₆ L₇, FoundedAll P pair L L₆ accs ∧
      create P.toProgram L₆ accs.payer accs.pool
        (poolSeeds (P.toBytes accs.fromMint.key) (P.toBytes accs.toMint.key))
        (⟨P.toBytes accs.fromMint.key, P.toBytes accs.toMint.key⟩ : PoolData) = .ok L₇ ∧
      persist P.toProgram L₇ accs.pool
        (⟨P.toBytes accs.fromMint.key, P.toBytes accs.toMint.key⟩ : PoolData) = .ok L' := by
  obtain ⟨_, -, h⟩ := Failing.bind_eq_ok.mp h
  obtain ⟨_, -, h⟩ := Failing.bind_eq_ok.mp h
  obtain ⟨_, -, h⟩ := Failing.bind_eq_ok.mp h
  obtain ⟨fromMint, -, h⟩ := Failing.bind_eq_ok.mp h
  obtain ⟨_, -, h⟩ := Failing.bind_eq_ok.mp h
  obtain ⟨_, -, h⟩ := Failing.bind_eq_ok.mp h
  obtain ⟨_, -, h⟩ := Failing.bind_eq_ok.mp h
  obtain ⟨_, -, h⟩ := Failing.bind_eq_ok.mp h
  obtain ⟨_, hsigner, h⟩ := Failing.bind_eq_ok.mp h
  obtain ⟨L₁, hcreateFrom, h⟩ := Failing.bind_eq_ok.mp h
  obtain ⟨L₂, hinitFrom, h⟩ := Failing.bind_eq_ok.mp h
  obtain ⟨L₃, hcreateTo, h⟩ := Failing.bind_eq_ok.mp h
  obtain ⟨L₄, hinitTo, h⟩ := Failing.bind_eq_ok.mp h
  obtain ⟨L₅, hcreateMint, h⟩ := Failing.bind_eq_ok.mp h
  obtain ⟨L₆, hinitMint, h⟩ := Failing.bind_eq_ok.mp h
  obtain ⟨L₇, hcreatePool, hpersist⟩ := Failing.bind_eq_ok.mp h
  refine ⟨L₆, L₇, ?_, hcreatePool, hpersist⟩
  have hcustodySigner : accs.custodySigner.key = custodySigner P := (peelSignerOf_eq_ok hsigner).symm
  have hfrom : Founded P pair L L₂ accs.fromTokenCustody (fromCustodySeeds (P.toBytes accs.pool.key)) := by
    refine founded hr hg hcreateFrom hinitFrom ?_ nofun (hr.spl.initializeAccount hinitFrom).2
    rintro _ _ _ ⟨⟩
    exact hcustodySigner
  have hto : Founded P pair L₂ L₄ accs.toTokenCustody (toCustodySeeds (P.toBytes accs.pool.key)) := by
    refine founded hr hfrom.guards hcreateTo hinitTo ?_ nofun (hr.spl.initializeAccount hinitTo).2
    rintro _ _ _ ⟨⟩
    exact hcustodySigner
  have hmint : Founded P pair L₄ L₆ accs.poolMint (shareMintSeeds (P.toBytes accs.pool.key)) := by
    refine founded hr hto.guards hcreateMint hinitMint nofun ?_ (hr.spl.initializeMint hinitMint).2
    rintro _ _ _ ⟨⟩
    exact hcustodySigner
  have hfromSigner := hadmissible.signers accs.fromTokenCustody (by simp)
  have htoSigner := hadmissible.signers accs.toTokenCustody (by simp)
  have hmintSigner := hadmissible.signers accs.poolMint (by simp)
  refine ⟨?_, ?_, hmint.guards, ?_, ?_⟩
  · intro k
    exact (hfrom.kept k).trans ((hto.kept k).trans (hmint.kept k))
  · exact hfrom.decimals.trans (hto.decimals.trans hmint.decimals)
  · intro hother
    -- no address of the pair is one of the new accounts
    have hsame : ∀ seed ∈ accountSeeds, Spl.SameTokens P.toTokenProgram L L₆
        (P.derive [seed, (P.toBytes (pair.pool P)).val]) := by
      intro seed hseed
      have hused : SeedsInUse P known [seed, (P.toBytes (pair.pool P)).val] := .account seed _ hseed hpair.pool
      have hne : ∀ seed' ∈ accountSeeds, P.derive [seed', (P.toBytes accs.pool.key).val] ≠
          P.derive [seed, (P.toBytes (pair.pool P)).val] :=
        fun seed' hseed' => derive_ne hr hpair hadmissible.pool hother hseed' hseed
      exact (hfrom.others _ (hfrom.ne hfromSigner hused (hne _ (by decide)))).trans
        ((hto.others _ (hto.ne htoSigner hused (hne _ (by decide)))).trans
          (hmint.others _ (hmint.ne hmintSigner hused (hne _ (by decide)))))
    exact ⟨(hsame _ (by decide)).balance, (hsame _ (by decide)).balance, (hsame _ (by decide)).supply⟩
  · intro hnone
    have hused : SeedsInUse P known (shareMintSeeds (P.toBytes (pair.pool P))) :=
      .account _ _ (by decide) hpair.pool
    have hsameFrom := hfrom.others (pair.shareMint P) (hfrom.ne hfromSigner hused
      (derive_ne_of_seed hr (by decide) (by decide) (by decide) hadmissible.pool hpair.pool))
    have hsameTo := hto.others (pair.shareMint P) (hto.ne htoSigner hused
      (derive_ne_of_seed hr (by decide) (by decide) (by decide) hadmissible.pool hpair.pool))
    have hbefore : shares P pair L₄ = 0 := hsameTo.supply.trans (hsameFrom.supply.trans hnone)
    by_cases hk : pair.shareMint P = accs.poolMint.key
    · rw [shares, Spl.supply, hk, (hr.spl.initializeMint hinitMint).1]
      rfl
    · exact (hmint.others _ hk).supply.trans hbefore

/-- So a new pool has no shares, and the other pools are as they were. -/
theorem createPool_preserves (hr : Runtime P known) (hpair : pair.Known P known) (hg : Guards P pair L)
    {accs : CreatePool Pubkey} (hadmissible : accs.Admissible P known) (h : createPool P L accs = .ok L') :
    Preserves P pair L L' := by
  obtain ⟨L₆, L₇, hfounded, hcreate, hpersist⟩ := createPool_eq_ok hr hpair hg hadmissible h
  have hcreated := create_eq_ok hcreate
  have hpersisted := persist_eq_ok hpersist
  have hsame : ∀ k, Spl.SameTokens P.toTokenProgram L₆ L' k := fun k =>
    (Spl.createAccount_sameTokens hr.spl P.systemProgram_ne_token hcreate k).trans
      (Spl.persist_sameTokens P.programId_ne_token hpersist k)
  have hshares : shares P pair L' = shares P pair L₆ := (hsame _).supply
  have hkept : ∀ k, k ≠ accs.pool.key → Kept P.toProgram L L' k := fun k hk =>
    (hfounded.kept k).trans ((hcreated.kept k hk).trans (hpersisted.kept hk))
  have hguards : Guards P pair L' := by
    refine ⟨(hsame _).guarded hfounded.guards.fromCustody, (hsame _).guarded hfounded.guards.toCustody,
      (hsame _).mintGuarded hfounded.guards.shareMint, ?_⟩
    intro howner
    by_cases hpool : pair.pool P = accs.pool.key
    · have hderived : P.derive (poolSeeds (P.toBytes accs.fromMint.key) (P.toBytes accs.toMint.key)) =
          pair.pool P := by
        rcases hcreated.signed with hsigned | hkey
        · have hnone := hadmissible.signers accs.pool (by simp) hsigned
          exact absurd ⟨_, .pool _ _ hpair.from' hpair.to', hpool.symm⟩ hnone
        · exact (Option.some.inj hkey).trans hpool.symm
      obtain ⟨hfrom, hto⟩ :=
        pool_injective hr hadmissible.fromMint hadmissible.toMint hpair.from' hpair.to' hderived
      have hholds := hpersisted.holds hcreated.writable hcreated.holds (List.length_replicate ..)
      rw [hpool, hholds.2, hfrom, hto]
      rfl
    · have hbefore := (hkept _ hpool).1.mp howner
      rw [(hkept _ hpool).2 hbefore]
      exact hg.pool hbefore
  refine ⟨hguards, hfounded.decimals.trans (.of_same hsame), fun _ _ hs => ⟨hguards, ?_, ?_⟩⟩
  · intro howner
    rw [hshares]
    apply hfounded.none
    apply hs.fresh
    intro hbefore
    by_cases hpool : pair.pool P = accs.pool.key
    · exact hcreated.not_owned (hpool ▸ (hfounded.kept _).1.mpr hbefore)
    · exact howner ((hkept _ hpool).1.mpr hbefore)
  · by_cases hpool : accs.pool.key = pair.pool P
    · have hnone : shares P pair L = 0 := by
        apply hs.fresh
        intro hbefore
        exact hcreated.not_owned ((hfounded.kept _).1.mpr (hpool ▸ hbefore))
      rw [hshares, hfounded.none hnone, Nat.zero_mul]
      exact Nat.zero_le _
    · obtain ⟨hfrom, hto, hsupply⟩ := hfounded.other hpool
      have hvalue : value P pair L' = value P pair L := by
        rw [value, value, ← hfrom, ← hto, fromHeld, toHeld, (hsame _).balance, (hsame _).balance]
        rfl
      rw [hshares, hsupply, hvalue]
      exact hs.covered

end Creation

/-! ## Runs -/

section Runs

variable {P : MigrationProgram Pubkey} {pair : Pair Pubkey} {known : Set Pubkey} {L L' L₀ : Ledger Pubkey}

variable (P known) in
/-- What others do: nobody else signs for the program's addresses, so that its accounts stay as they are, the token
accounts of its addresses are paid to at most, their shares burnt at most; mints keep their decimals. -/
structure Harmless (L L' : Ledger Pubkey) : Prop where
  kept : ∀ k, P.IsDerived known k → Kept P.toProgram L L' k
  accounts : ∀ k owner, P.IsDerived known k → P.IsDerived known owner →
    Spl.Guarded P.toTokenProgram L k owner → Spl.Guarded P.toTokenProgram L' k owner ∧
      Spl.balance P.toTokenProgram L k ≤ Spl.balance P.toTokenProgram L' k
  mints : ∀ k authority, P.IsDerived known k → P.IsDerived known authority →
    Spl.MintGuarded P.toTokenProgram L k authority → Spl.MintGuarded P.toTokenProgram L' k authority ∧
      Spl.supply P.toTokenProgram L' k ≤ Spl.supply P.toTokenProgram L k
  decimals : Spl.KeepsDecimals P.toTokenProgram L L'

variable (P known) in
/-- The mints and the pool of an instruction are among those that come up, and others do no harm. -/
def Input.Admissible (L : Ledger Pubkey) : Input Pubkey → Prop
  | .createPool accs => accs.Admissible P known
  | .addLiquidity accs _ | .removeLiquidity accs _ =>
    accs.pool.key ∈ known ∧ accs.fromMint.key ∈ known ∧ accs.toMint.key ∈ known
  | .migrateTokens accs _ => accs.pool.key ∈ known ∧ accs.fromMint.key ∈ known ∧ accs.toMint.key ∈ known
  | .claimShares accs _ => accs.pool.key ∈ known
  | .others L' => Harmless P known L L'

/-- What others may do takes nothing out of custody and mints no shares. -/
theorem Harmless.preserves (hpair : pair.Known P known) (h : Harmless P known L L') (hg : Guards P pair L) :
    Preserves P pair L L' := by
  have haccount : ∀ seed ∈ accountSeeds, P.IsDerived known (P.derive [seed, (P.toBytes (pair.pool P)).val]) :=
    fun seed hseed => ⟨_, .account seed _ hseed hpair.pool, rfl⟩
  have hsigner : P.IsDerived known (custodySigner P) := ⟨_, .custodySigner, rfl⟩
  obtain ⟨hfromGuarded, hfrom⟩ := h.accounts _ _ (haccount _ (by decide)) hsigner hg.fromCustody
  obtain ⟨htoGuarded, hto⟩ := h.accounts _ _ (haccount _ (by decide)) hsigner hg.toCustody
  obtain ⟨hmintGuarded, hshares⟩ := h.mints _ _ (haccount _ (by decide)) hsigner hg.shareMint
  have hkept : Kept P.toProgram L L' (pair.pool P) :=
    h.kept _ ⟨_, .pool pair.from' pair.to' hpair.from' hpair.to', rfl⟩
  have hguards : Guards P pair L' := by
    refine ⟨hfromGuarded, htoGuarded, hmintGuarded, ?_⟩
    intro howner
    have hbefore := hkept.1.mp howner
    rw [hkept.2 hbefore]
    exact hg.pool hbefore
  refine ⟨hguards, h.decimals, fun _ _ hs => ⟨hguards, ?_, ?_⟩⟩
  · intro howner
    have hnone := hs.fresh fun hbefore => howner (hkept.1.mpr hbefore)
    exact Nat.le_zero.mp (hshares.trans hnone.le)
  · calc shares P pair L' * pair.fromWeight ≤ shares P pair L * pair.fromWeight :=
          Nat.mul_le_mul_right _ hshares
      _ ≤ value P pair L := hs.covered
      _ ≤ value P pair L' := Nat.add_le_add (Nat.mul_le_mul_right _ hfrom) (Nat.mul_le_mul_right _ hto)

/-- **Step lemma.**  Every instruction, and whatever others may do, keeps the pools covered. -/
theorem preserves_step (hr : Runtime P known) (hpair : pair.Known P known) (hg : Guards P pair L)
    {input : Input Pubkey} (hok : input.Admissible P known L) (hstep : step P L input = some L') :
    Preserves P pair L L' := by
  have h := Failing.toOption_eq_some hstep
  cases input with
  | createPool accs => exact createPool_preserves hr hpair hg hok h
  | addLiquidity accs amount => exact addLiquidity_preserves hr hpair hg hok.1 hok.2.1 hok.2.2 h
  | removeLiquidity accs amount => exact removeLiquidity_preserves hr hpair hg hok.1 hok.2.1 hok.2.2 h
  | migrateTokens accs amount => exact migrateTokens_preserves hr hpair hg hok.1 hok.2.1 hok.2.2 h
  | claimShares accs amount => exact claimShares_preserves hr hpair hg hok h
  | others L₁ =>
    obtain rfl := Except.ok.inj h
    exact Harmless.preserves hpair hok hg

variable (P known) in
/-- The program has made nothing yet: its addresses are not in use. -/
def Unused (L : Ledger Pubkey) : Prop := ∀ k, P.IsDerived known k → (L k).owner = P.systemProgram

/-- Before the program has made anything there are no shares. -/
theorem Unused.solvent (hpair : pair.Known P known) (h : Unused P known L₀) : Solvent P pair L₀ := by
  have hforeign : ∀ seed ∈ accountSeeds,
      (L₀ (P.derive [seed, (P.toBytes (pair.pool P)).val])).owner ≠ P.tokenProgram := by
    intro seed hseed
    rw [h _ ⟨_, .account seed _ hseed hpair.pool, rfl⟩]
    exact P.systemProgram_ne_token
  have haccount : ∀ seed ∈ accountSeeds,
      Spl.account P.toTokenProgram L₀ (P.derive [seed, (P.toBytes (pair.pool P)).val]) = none :=
    fun seed hseed => if_neg (hforeign seed hseed)
  have hmint : Spl.mint P.toTokenProgram L₀ (pair.shareMint P) = none := if_neg (hforeign _ (by decide))
  have hshares : shares P pair L₀ = 0 := by
    rw [shares, Spl.supply, hmint]
    rfl
  refine ⟨⟨?_, ?_, ?_, ?_⟩, fun _ => hshares, ?_⟩
  · intro a ha
    cases (haccount _ (by decide)).symm.trans ha
  · intro a ha
    cases (haccount _ (by decide)).symm.trans ha
  · intro m hm
    cases hmint.symm.trans hm
  · intro howner
    have hsystem : (L₀ (pair.pool P)).owner = P.systemProgram :=
      h _ ⟨_, .pool pair.from' pair.to' hpair.from' hpair.to', rfl⟩
    rw [hsystem] at howner
    exact absurd howner.symm P.programId_ne_system
  · rw [hshares, Nat.zero_mul]
    exact Nat.zero_le _

/-- **Every run keeps the pool solvent**, with the decimals that its mints have in the end. -/
theorem solvent_run (hr : Runtime P known) (hpair : pair.Known P known)
    (hclose : Close pair.fromDecimals pair.toDecimals) (h₀ : Unused P known L₀)
    (hrun : Run (step P) (fun L input => input.Admissible P known L) L₀ L) (hdec : Decided P pair L) :
    Solvent P pair L := by
  have hinvariant : Guards P pair L ∧ (Decided P pair L → Solvent P pair L) := by
    refine hrun.invariant (I := fun L => Guards P pair L ∧ (Decided P pair L → Solvent P pair L)) ?_ ?_
    · rintro L input L' ⟨hg, hs⟩ hok hstep
      have hpreserves := preserves_step hr hpair hg hok hstep
      refine ⟨hpreserves.guards, ?_⟩
      intro hdec'
      have hdec : Decided P pair L :=
        ⟨hpreserves.decimals.decimalsAre hdec'.1, hpreserves.decimals.decimalsAre hdec'.2⟩
      exact hpreserves.solvent hclose hdec (hs hdec)
    · exact ⟨(h₀.solvent hpair).guards, fun _ => h₀.solvent hpair⟩
  exact hinvariant.2 hdec

variable {from' to' : Pubkey} {d d' : UInt8}

/-- **The pool is solvent.**  Two mints whose decimals differ by at most 19, any run of the program: the shares are
covered by the two custody accounts, so that whoever is paid in new tokens after the old ones have all been
claimed can be, and each instruction either takes place as a whole or leaves the ledger as it was. -/
theorem pool_covered (hr : Runtime P known) (h₀ : Unused P known L₀)
    (hrun : Run (step P) (fun L input => input.Admissible P known L) L₀ L)
    (hpair : (⟨from', to', d, d'⟩ : Pair Pubkey).Known P known)
    (hfrom : Spl.HasDecimals P.toTokenProgram L from' d) (hto : Spl.HasDecimals P.toTokenProgram L to' d')
    (hclose : Close d d') :
    (d' < d → shares P ⟨from', to', d, d'⟩ L ≤
      fromHeld P ⟨from', to', d, d'⟩ L + toHeld P ⟨from', to', d, d'⟩ L * 10 ^ (d.toNat - d'.toNat)) ∧
    (d ≤ d' → shares P ⟨from', to', d, d'⟩ L * 10 ^ (d'.toNat - d.toNat) ≤
      fromHeld P ⟨from', to', d, d'⟩ L * 10 ^ (d'.toNat - d.toNat) + toHeld P ⟨from', to', d, d'⟩ L) ∧
    scaled d.toNat d'.toNat (shares P ⟨from', to', d, d'⟩ L - fromHeld P ⟨from', to', d, d'⟩ L) ≤
      toHeld P ⟨from', to', d, d'⟩ L ∧
    ∀ input, attempt (step P) L input = L ∨ execute P L input = .ok (attempt (step P) L input) := by
  have hs := (solvent_run hr hpair hclose h₀ hrun ⟨hfrom.decimalsAre, hto.decimalsAre⟩).covered
  unfold value at hs
  refine ⟨?_, ?_, ?_, ?_⟩
  · intro hlt
    have hzero : d'.toNat - d.toNat = 0 := Nat.sub_eq_zero_of_le (Nat.le_of_lt hlt)
    simpa only [Pair.fromWeight, Pair.toWeight, hzero, pow_zero, Nat.mul_one] using hs
  · intro hle
    have hzero : d.toNat - d'.toNat = 0 := Nat.sub_eq_zero_of_le hle
    simpa only [Pair.fromWeight, Pair.toWeight, hzero, pow_zero, Nat.mul_one] using hs
  · apply Nat.div_le_of_le_mul
    show (_ - _) * Pair.fromWeight ⟨from', to', d, d'⟩ ≤ Pair.toWeight ⟨from', to', d, d'⟩ * _
    rw [Nat.sub_mul, Nat.mul_comm (Pair.toWeight _)]
    omega
  · intro input
    cases hstep : step P L input with
    | none => exact .inl (attempt_eq_of_none hstep)
    | some L' =>
      rw [attempt_eq_of_some hstep]
      exact .inr (Failing.toOption_eq_some hstep)

end Runs

/-! ## A pool in use -/

section Samples

open PlainTokens

theorem sampleSeeds_length (l : List UInt8) : ((l ++ List.replicate 32 0).take 32).length = 32 := by simp

def sampleBytes : Key → FixedBytes 32
  | .inl n => ⟨List.replicate 31 0 ++ [UInt8.ofNat n], by rw [List.length_append, List.length_replicate]; rfl⟩
  | .inr l => ⟨(l ++ List.replicate 32 0).take 32, sampleSeeds_length l⟩

/-- The program over the plain token program. -/
def sampleProgram : MigrationProgram Key where
  programId := .inl 0
  systemProgram := .inl 1
  clock := .inl 4
  instructions := .inl 5
  toBytes := sampleBytes
  findProgramAddress := fun seeds _ => (.inr seeds.flatten, 0)
  programId_ne_system := by decide
  toTokenProgram := plainTokens
  programId_ne_token := by decide
  systemProgram_ne_token := by decide

/-- The old token has three decimals, the new one two. -/
def samplePair : Pair Key := ⟨.inl 10, .inl 11, 3, 2⟩

/-- The addresses that come up: the two mints and their pool. -/
def sampleKnown : Set Key := {.inl 10, .inl 11, samplePair.pool sampleProgram}

/-- The user has appointed the authority signer for both accounts. -/
def sampleDelegate : Option Key := some (sampleProgram.derive [authoritySignerSeed])

/-- The two mints, a payer, and a user with an account of either token. -/
def sampleLedger : Ledger Key
  | .inl 10 => ⟨1, tokenKey, packMint ⟨none, 1000, 3⟩⟩
  | .inl 11 => ⟨1, tokenKey, packMint ⟨none, 1000, 2⟩⟩
  | .inl 12 => ⟨10 ^ 10, .inl 1, []⟩
  | .inl 13 => ⟨1, tokenKey, packAccount ⟨.inl 10, .inl 20, sampleDelegate, 30⟩⟩
  | .inl 14 => ⟨1, tokenKey, packAccount ⟨.inl 11, .inl 20, sampleDelegate, 6⟩⟩
  | .inl 15 => ⟨1, tokenKey, []⟩
  | _ => ⟨0, .inl 1, []⟩

def readonly (k : Key) : AccountMeta Key := ⟨k, false, false⟩

def writable (k : Key) : AccountMeta Key := ⟨k, false, true⟩

/-- The pool is created. -/
def sampleCreate : Input Key :=
  .createPool
    { payer := ⟨.inl 12, true, true⟩
      pool := writable (samplePair.pool sampleProgram)
      fromMint := readonly (.inl 10)
      toMint := readonly (.inl 11)
      fromTokenCustody := writable (samplePair.fromCustody sampleProgram)
      toTokenCustody := writable (samplePair.toCustody sampleProgram)
      poolMint := writable (samplePair.shareMint sampleProgram)
      custodySigner := readonly (custodySigner sampleProgram) }

/-- The accounts with which liquidity is added and removed. -/
def sampleLiquidity : Liquidity Key where
  pool := writable (samplePair.pool sampleProgram)
  fromMint := readonly (.inl 10)
  toMint := readonly (.inl 11)
  toTokenCustody := writable (samplePair.toCustody sampleProgram)
  shareMint := writable (samplePair.shareMint sampleProgram)
  toLpAcc := writable (.inl 14)
  lpShareAcc := writable (.inl 15)
  custodySigner := readonly (custodySigner sampleProgram)
  authoritySigner := readonly (sampleProgram.derive [authoritySignerSeed])

def sampleMigrate : MigrateTokens Key where
  pool := writable (samplePair.pool sampleProgram)
  fromMint := readonly (.inl 10)
  toMint := readonly (.inl 11)
  toTokenCustody := writable (samplePair.toCustody sampleProgram)
  fromTokenCustody := writable (samplePair.fromCustody sampleProgram)
  userFromAcc := writable (.inl 13)
  userToAcc := writable (.inl 14)
  custodySigner := readonly (custodySigner sampleProgram)
  authoritySigner := readonly (sampleProgram.derive [authoritySignerSeed])

def sampleClaim : ClaimShares Key where
  pool := writable (samplePair.pool sampleProgram)
  fromTokenCustody := writable (samplePair.fromCustody sampleProgram)
  shareMint := writable (samplePair.shareMint sampleProgram)
  fromLpAcc := writable (.inl 13)
  lpShareAcc := writable (.inl 15)
  custodySigner := readonly (custodySigner sampleProgram)
  authoritySigner := readonly (sampleProgram.derive [authoritySignerSeed])

def sampleCreated : Ledger Key := attempt (step sampleProgram) sampleLedger sampleCreate

/-- The user opens an account for shares. -/
def sampleOpened : Ledger Key :=
  putAccount sampleCreated (.inl 15) ⟨samplePair.shareMint sampleProgram, .inl 20, sampleDelegate, 0⟩

/-- 5 new tokens are put in, 23 old ones swapped, 20 shares claimed and 17 taken out. -/
def sampleUsed : Ledger Key :=
  attempts (step sampleProgram) sampleOpened
    [.addLiquidity sampleLiquidity 5, .migrateTokens sampleMigrate 23, .claimShares sampleClaim 20,
      .removeLiquidity sampleLiquidity 17]

/-- No two lists of seeds are derived alike, the mints differ, and the token program is lawful. -/
theorem sampleRuntime : Runtime sampleProgram sampleKnown where
  free := ⟨fun _ _ _ _ h => Sum.inr.inj h⟩
  bytes := by
    rintro a (rfl | rfl | rfl) b (rfl | rfl | rfl) h
    all_goals first
      | rfl
      | exact absurd h (by decide)
  spl := plainTokens_lawful

/-- Every derived address is still the system program's. -/
theorem sampleLedger_unused : Unused sampleProgram sampleKnown sampleLedger := by
  rintro _ ⟨seeds, -, rfl⟩
  rfl

theorem samplePair_known : samplePair.Known sampleProgram sampleKnown :=
  ⟨.inl rfl, .inr (.inl rfl), .inr (.inr rfl)⟩

/-- An account of a user is none of the program's, and no mint. -/
theorem harmless_putAccount {L : Ledger Key} {n : Nat} (h : mintAt L (.inl n) = none) (a : Spl.Account Key) :
    Harmless sampleProgram sampleKnown L (putAccount L (.inl n) a) := by
  have hsame : ∀ k, sampleProgram.IsDerived sampleKnown k → putAccount L (.inl n) a k = L k := by
    rintro _ ⟨seeds, -, rfl⟩
    exact putAccount_of_ne nofun
  refine ⟨fun k hk => .of_eq (hsame k hk), ?_, ?_, ?_⟩
  · intro k owner hk _ hguarded
    have htokens : Spl.SameTokens plainTokens L (putAccount L (.inl n) a) k := .of_eq (hsame k hk)
    exact ⟨htokens.guarded hguarded, htokens.balance.ge⟩
  · intro k authority hk _ hguarded
    have htokens : Spl.SameTokens plainTokens L (putAccount L (.inl n) a) k := .of_eq (hsame k hk)
    exact ⟨htokens.mintGuarded hguarded, htokens.supply.le⟩
  · rintro k decimals ⟨m, hm, heq⟩
    have hne : k ≠ .inl n := by
      rintro rfl
      rw [← mint_eq] at h
      cases h.symm.trans hm
    exact Spl.SameTokens.hasDecimals (.of_eq (putAccount_of_ne hne)) ⟨m, hm, heq⟩

/-- The four instructions are a run, with the account that the user opens before them. -/
theorem sampleUsed_run :
    Run (step sampleProgram) (fun L input => input.Admissible sampleProgram sampleKnown L) sampleLedger
      sampleUsed := by
  have hfrom : (.inl 10 : Key) ∈ sampleKnown := samplePair_known.from'
  have hto : (.inl 11 : Key) ∈ sampleKnown := samplePair_known.to'
  have hpool : samplePair.pool sampleProgram ∈ sampleKnown := samplePair_known.pool
  have hnone : mintAt sampleCreated (.inl 15) = none := by decide +kernel
  have hsigners : ∀ m ∈ [writable (samplePair.pool sampleProgram), writable (samplePair.fromCustody sampleProgram),
      writable (samplePair.toCustody sampleProgram), writable (samplePair.shareMint sampleProgram)],
      m.isSigner = true → ¬sampleProgram.IsDerived sampleKnown m.key := by simp [writable]
  rw [sampleUsed, attempts_cons, attempts_cons, attempts_cons, attempts_cons, attempts_nil]
  have hopened : Run (step sampleProgram) (fun L input => input.Admissible sampleProgram sampleKnown L)
      sampleLedger sampleOpened := by
    have hcreated : Run (step sampleProgram) (fun L input => input.Admissible sampleProgram sampleKnown L)
        sampleLedger sampleCreated := (Run.refl sampleLedger).attempt sampleCreate ⟨hpool, hfrom, hto, hsigners⟩
    exact hcreated.snoc (a := .others sampleOpened) (harmless_putAccount hnone _) rfl
  refine (((hopened.attempt (.addLiquidity sampleLiquidity 5) ?_).attempt
    (.migrateTokens sampleMigrate 23) ?_).attempt (.claimShares sampleClaim 20) ?_).attempt
      (.removeLiquidity sampleLiquidity 17) ?_
  · exact ⟨hpool, hfrom, hto⟩
  · exact ⟨hpool, hfrom, hto⟩
  · exact hpool
  · exact ⟨hpool, hfrom, hto⟩

/-- 13 shares remain, for 3 old tokens and 2 new ones of ten times the value. -/
theorem sampleUsed_covered :
    (shares sampleProgram samplePair sampleUsed = 13 ∧ fromHeld sampleProgram samplePair sampleUsed = 3 ∧
      toHeld sampleProgram samplePair sampleUsed = 2) ∧
    shares sampleProgram samplePair sampleUsed ≤ fromHeld sampleProgram samplePair sampleUsed +
      toHeld sampleProgram samplePair sampleUsed *
        10 ^ (samplePair.fromDecimals.toNat - samplePair.toDecimals.toNat) := by
  refine ⟨by decide +kernel, ?_⟩
  have hrun := sampleUsed_run
  have hfrom : Spl.mint plainTokens sampleUsed (.inl 10) = some ⟨none, 1000, 3⟩ := by decide +kernel
  have hto : Spl.mint plainTokens sampleUsed (.inl 11) = some ⟨none, 1000, 2⟩ := by decide +kernel
  generalize sampleUsed = L at hrun hfrom hto ⊢
  have hclose : Close samplePair.fromDecimals samplePair.toDecimals := ⟨by decide, by decide⟩
  exact (pool_covered sampleRuntime sampleLedger_unused hrun samplePair_known ⟨_, hfrom, rfl⟩ ⟨_, hto, rfl⟩
    hclose).1 (by decide)

end Samples

end Wormhole.Solana.Migration

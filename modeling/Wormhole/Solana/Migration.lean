/-
# Wormhole.Solana.Migration — the migration pool on Solana.

The instructions of `migration/src/api`, each with the peeling of its accounts and their persisting.  A pool swaps
a token for its successor: its shares count units of the old token, liquidity is put in in the new one.  The pool,
its two custody accounts and the mint of its shares are at addresses derived from the two mints.

The token program is a parameter (`Spl`).
-/
import Mathlib
import Wormhole.Lib.Bytes
import Wormhole.Lib.Codec
import Wormhole.Solana.Payloads
import Wormhole.Solana.Solitaire
import Wormhole.Solana.Accounts
import Wormhole.Solana.Spl

namespace Wormhole.Solana.Migration

open Wormhole.Lib Wormhole.Lib.Bytes

/-- The migration program, and the token program. -/
structure MigrationProgram (Pubkey : Type) extends Program Pubkey, Spl.TokenProgram Pubkey where
  programId_ne_token : programId ≠ tokenProgram
  systemProgram_ne_token : systemProgram ≠ tokenProgram

/-- `MigrationError::WrongMint`. -/
def wrongMint : SolitaireError := .custom 0

/-! ## Accounts -/

structure PoolData where
  from' : FixedBytes 32
  to' : FixedBytes 32
  deriving DecidableEq

def PoolData.codec : Borsh PoolData :=
  ((Borsh.array 32).pair (Borsh.array 32)).iso
    { toFun := fun p => ⟨p.1, p.2⟩
      invFun := fun p => (p.from', p.to')
      left_inv := fun _ => rfl
      right_inv := fun _ => rfl }

instance : AccountData PoolData where
  serialize := PoolData.codec.write
  deserialize := PoolData.codec.decode .ioError
  default := ⟨zeros 32, zeros 32⟩

/-- "share_mint" and the pool. -/
def shareMintSeeds (pool : FixedBytes 32) : List (List UInt8) :=
  [[0x73, 0x68, 0x61, 0x72, 0x65, 0x5f, 0x6d, 0x69, 0x6e, 0x74], pool.val]

/-- "from_custody" and the pool. -/
def fromCustodySeeds (pool : FixedBytes 32) : List (List UInt8) :=
  [[0x66, 0x72, 0x6f, 0x6d, 0x5f, 0x63, 0x75, 0x73, 0x74, 0x6f, 0x64, 0x79], pool.val]

/-- "to_custody" and the pool. -/
def toCustodySeeds (pool : FixedBytes 32) : List (List UInt8) :=
  [[0x74, 0x6f, 0x5f, 0x63, 0x75, 0x73, 0x74, 0x6f, 0x64, 0x79], pool.val]

/-- "pool" and the two mints. -/
def poolSeeds (from' to' : FixedBytes 32) : List (List UInt8) := [[0x70, 0x6f, 0x6f, 0x6c], from'.val, to'.val]

/-- "custody_signer" -/
def custodySignerSeed : List UInt8 :=
  [0x63, 0x75, 0x73, 0x74, 0x6f, 0x64, 0x79, 0x5f, 0x73, 0x69, 0x67, 0x6e, 0x65, 0x72]

/-- "authority_signer" -/
def authoritySignerSeed : List UInt8 :=
  [0x61, 0x75, 0x74, 0x68, 0x6f, 0x72, 0x69, 0x74, 0x79, 0x5f, 0x73, 0x69, 0x67, 0x6e, 0x65, 0x72]

/-- The accounts of `add_liquidity` and `remove_liquidity`. -/
structure Liquidity (Pubkey : Type) where
  pool : AccountMeta Pubkey
  fromMint : AccountMeta Pubkey
  toMint : AccountMeta Pubkey
  toTokenCustody : AccountMeta Pubkey
  shareMint : AccountMeta Pubkey
  toLpAcc : AccountMeta Pubkey
  lpShareAcc : AccountMeta Pubkey
  custodySigner : AccountMeta Pubkey
  authoritySigner : AccountMeta Pubkey

structure MigrateTokens (Pubkey : Type) where
  pool : AccountMeta Pubkey
  fromMint : AccountMeta Pubkey
  toMint : AccountMeta Pubkey
  toTokenCustody : AccountMeta Pubkey
  fromTokenCustody : AccountMeta Pubkey
  userFromAcc : AccountMeta Pubkey
  userToAcc : AccountMeta Pubkey
  custodySigner : AccountMeta Pubkey
  authoritySigner : AccountMeta Pubkey

structure ClaimShares (Pubkey : Type) where
  pool : AccountMeta Pubkey
  fromTokenCustody : AccountMeta Pubkey
  shareMint : AccountMeta Pubkey
  fromLpAcc : AccountMeta Pubkey
  lpShareAcc : AccountMeta Pubkey
  custodySigner : AccountMeta Pubkey
  authoritySigner : AccountMeta Pubkey

structure CreatePool (Pubkey : Type) where
  payer : AccountMeta Pubkey
  pool : AccountMeta Pubkey
  fromMint : AccountMeta Pubkey
  toMint : AccountMeta Pubkey
  fromTokenCustody : AccountMeta Pubkey
  toTokenCustody : AccountMeta Pubkey
  poolMint : AccountMeta Pubkey
  custodySigner : AccountMeta Pubkey

/-! ## Amounts -/

/-- `10u64.pow(exponent)`, which wraps. -/
def pow10 (exponent : UInt8) : UInt64 := UInt64.ofNat (10 ^ exponent.toNat)

/-- `a.checked_mul(b).unwrap()` -/
def checkedMul (a b : UInt64) : Result UInt64 :=
  if a.toNat * b.toNat < 2 ^ 64 then .ok (a * b) else .error .panicked

/-- `a.checked_div(b).unwrap()` -/
def checkedDiv (a b : UInt64) : Result UInt64 := if b = 0 then .error .panicked else .ok (a / b)

/-- `a % b`, which panics for a zero. -/
def remainder (a b : UInt64) : Result UInt64 := if b = 0 then .error .panicked else .ok (a % b)

/-- `to_tokens_in` -/
def toTokensIn (fromDecimals toDecimals : UInt8) (amount : UInt64) : Result UInt64 :=
  if fromDecimals > toDecimals then .ok amount
  else do return amount - (← remainder amount (pow10 (toDecimals - fromDecimals)))

/-- `share_amount`: what a provider would get in old tokens. -/
def shareAmount (fromDecimals toDecimals : UInt8) (amount : UInt64) : Result UInt64 :=
  if fromDecimals > toDecimals then checkedMul amount (pow10 (fromDecimals - toDecimals))
  else checkedDiv amount (pow10 (toDecimals - fromDecimals))

/-- `out_amount`, decimal adjusted -/
def outAmount (fromDecimals toDecimals : UInt8) (amount : UInt64) : Result UInt64 :=
  if fromDecimals > toDecimals then checkedDiv amount (pow10 (fromDecimals - toDecimals))
  else checkedMul amount (pow10 (toDecimals - fromDecimals))

/-! ## Instructions -/

section Program

variable {Pubkey : Type} [DecidableEq Pubkey] (P : MigrationProgram Pubkey) (L : Ledger Pubkey)

/-- The peel of `Mut<MigrationPool>`, initialized. -/
def peelPool (m : AccountMeta Pubkey) : Result PoolData := do
  peelMut m
  peelData PoolData .initialized P.programId L false m

/-- The peel of `Mut<Data<SplAccount>>`, initialized. -/
def peelMutAccount (m : AccountMeta Pubkey) : Result (Spl.Account Pubkey) := do
  peelMut m
  Spl.peelAccount P.toTokenProgram L false m

/-- The peel of `Mut<ShareMint>`, initialized. -/
def peelMutMint (m : AccountMeta Pubkey) : Result (Spl.Mint Pubkey) := do
  peelMut m
  Spl.peelMint P.toTokenProgram L false m

/-- The peel of `CustodySigner` and of `AuthoritySigner`. -/
def peelSignerOf (seed : List UInt8) (m : AccountMeta Pubkey) : Result Unit := do
  peelDerive P.toProgram seed m
  peelInfo true m

/-- A transfer out of a user's account, signed by the authority that the user has approved. -/
def pull (source destination authoritySigner : AccountMeta Pubkey) (amount : UInt64) : Result (Ledger Pubkey) :=
  P.invoke L (.transfer source.key destination.key authoritySigner.key amount)
    (some (P.derive [authoritySignerSeed]))

/-- A transfer out of a custody account. -/
def push (source destination custodySigner : AccountMeta Pubkey) (amount : UInt64) : Result (Ledger Pubkey) :=
  P.invoke L (.transfer source.key destination.key custodySigner.key amount)
    (some (P.derive [custodySignerSeed]))

/-- Burn LP shares. -/
def burnShares (lpShareAcc shareMint authoritySigner : AccountMeta Pubkey) (amount : UInt64) :
    Result (Ledger Pubkey) :=
  P.invoke L (.burn lpShareAcc.key shareMint.key authoritySigner.key amount)
    (some (P.derive [authoritySignerSeed]))

/-- The peeling and the checks of `add_liquidity` and `remove_liquidity`: the pool's data and the decimals of the
two mints. -/
def checkLiquidity (accs : Liquidity Pubkey) : Result (PoolData × UInt8 × UInt8) := do
  let pool ← peelPool P L accs.pool
  let fromMint ← Spl.peelMint P.toTokenProgram L true accs.fromMint
  let toMint ← Spl.peelMint P.toTokenProgram L true accs.toMint
  let _ ← peelMutAccount P L accs.toTokenCustody
  let _ ← peelMutMint P L accs.shareMint
  let _ ← peelMutAccount P L accs.toLpAcc
  let lpShareAcc ← peelMutAccount P L accs.lpShareAcc
  peelSignerOf P custodySignerSeed accs.custodySigner
  peelSignerOf P authoritySignerSeed accs.authoritySigner
  ensure (P.toBytes accs.fromMint.key = pool.from') wrongMint
  ensure (P.toBytes accs.toMint.key = pool.to') wrongMint
  ensure (lpShareAcc.mint = accs.shareMint.key) wrongMint
  verifyDerivation P.toProgram (toCustodySeeds (P.toBytes accs.pool.key)) accs.toTokenCustody
  verifyDerivation P.toProgram (shareMintSeeds (P.toBytes accs.pool.key)) accs.shareMint
  verifyDerivation P.toProgram (poolSeeds pool.from' pool.to') accs.pool
  return (pool, fromMint.decimals, toMint.decimals)

def addLiquidity (accs : Liquidity Pubkey) (amount : UInt64) : Result (Ledger Pubkey) := do
  let (pool, fromDecimals, toDecimals) ← checkLiquidity P L accs
  -- transfer out-tokens in
  let tokensIn ← toTokensIn fromDecimals toDecimals amount
  let L ← pull P L accs.toLpAcc accs.toTokenCustody accs.authoritySigner tokensIn
  -- mint LP shares
  let shares ← shareAmount fromDecimals toDecimals amount
  let L ← P.invoke L (.mintTo accs.shareMint.key accs.lpShareAcc.key accs.custodySigner.key shares)
    (some (P.derive [custodySignerSeed]))
  persist P.toProgram L accs.pool pool

def removeLiquidity (accs : Liquidity Pubkey) (amount : UInt64) : Result (Ledger Pubkey) := do
  let (pool, fromDecimals, toDecimals) ← checkLiquidity P L accs
  let out ← outAmount fromDecimals toDecimals amount
  -- transfer removed liquidity to LP
  let L ← push P L accs.toTokenCustody accs.toLpAcc accs.custodySigner out
  let L ← burnShares P L accs.lpShareAcc accs.shareMint accs.authoritySigner amount
  persist P.toProgram L accs.pool pool

def migrateTokens (accs : MigrateTokens Pubkey) (amount : UInt64) : Result (Ledger Pubkey) := do
  let pool ← peelPool P L accs.pool
  let fromMint ← Spl.peelMint P.toTokenProgram L true accs.fromMint
  let toMint ← Spl.peelMint P.toTokenProgram L true accs.toMint
  let _ ← peelMutAccount P L accs.toTokenCustody
  let _ ← peelMutAccount P L accs.fromTokenCustody
  let userFromAcc ← peelMutAccount P L accs.userFromAcc
  let userToAcc ← peelMutAccount P L accs.userToAcc
  peelSignerOf P custodySignerSeed accs.custodySigner
  peelSignerOf P authoritySignerSeed accs.authoritySigner
  ensure (P.toBytes accs.fromMint.key = pool.from') wrongMint
  ensure (P.toBytes accs.toMint.key = pool.to') wrongMint
  ensure (P.toBytes userFromAcc.mint = pool.from') wrongMint
  ensure (P.toBytes userToAcc.mint = pool.to') wrongMint
  verifyDerivation P.toProgram (toCustodySeeds (P.toBytes accs.pool.key)) accs.toTokenCustody
  verifyDerivation P.toProgram (fromCustodySeeds (P.toBytes accs.pool.key)) accs.fromTokenCustody
  verifyDerivation P.toProgram (poolSeeds pool.from' pool.to') accs.pool
  -- transfer in-tokens in
  let L ← pull P L accs.userFromAcc accs.fromTokenCustody accs.authoritySigner amount
  let out ← outAmount fromMint.decimals toMint.decimals amount
  -- transfer out-tokens to user
  let L ← push P L accs.toTokenCustody accs.userToAcc accs.custodySigner out
  persist P.toProgram L accs.pool pool

def claimShares (accs : ClaimShares Pubkey) (amount : UInt64) : Result (Ledger Pubkey) := do
  let pool ← peelPool P L accs.pool
  let _ ← peelMutAccount P L accs.fromTokenCustody
  let _ ← peelMutMint P L accs.shareMint
  let _ ← peelMutAccount P L accs.fromLpAcc
  let lpShareAcc ← peelMutAccount P L accs.lpShareAcc
  peelSignerOf P custodySignerSeed accs.custodySigner
  peelSignerOf P authoritySignerSeed accs.authoritySigner
  ensure (lpShareAcc.mint = accs.shareMint.key) wrongMint
  verifyDerivation P.toProgram (fromCustodySeeds (P.toBytes accs.pool.key)) accs.fromTokenCustody
  verifyDerivation P.toProgram (shareMintSeeds (P.toBytes accs.pool.key)) accs.shareMint
  verifyDerivation P.toProgram (poolSeeds pool.from' pool.to') accs.pool
  -- transfer claimed tokens to LP
  let L ← push P L accs.fromTokenCustody accs.fromLpAcc accs.custodySigner amount
  let L ← burnShares P L accs.lpShareAcc accs.shareMint accs.authoritySigner amount
  persist P.toProgram L accs.pool pool

/-- The peel of an account that is not initialized. -/
def peelNew (m : AccountMeta Pubkey) : Result Unit := do
  peelMut m
  ensure ((L m.key).lamports = 0) .alreadyInitialized

/-- `create` of an account of the token program. -/
def createToken (payer m : AccountMeta Pubkey) (seeds : List (List UInt8)) (size : Nat) :
    Result (Ledger Pubkey) :=
  createAccount P.toProgram L payer m (some (P.derive seeds)) (minimumBalance size) size P.tokenProgram

def createPool (accs : CreatePool Pubkey) : Result (Ledger Pubkey) := do
  peelMut accs.payer
  peelSigner accs.payer
  peelNew L accs.pool
  let fromMint ← Spl.peelMint P.toTokenProgram L true accs.fromMint
  let _ ← Spl.peelMint P.toTokenProgram L true accs.toMint
  peelNew L accs.fromTokenCustody
  peelNew L accs.toTokenCustody
  peelNew L accs.poolMint
  peelSignerOf P custodySignerSeed accs.custodySigner
  -- create from custody account
  let L ← createToken P L accs.payer accs.fromTokenCustody (fromCustodySeeds (P.toBytes accs.pool.key))
    Spl.ACCOUNT_LEN
  let L ← P.invoke L (.initializeAccount accs.fromTokenCustody.key accs.fromMint.key accs.custodySigner.key) none
  -- create to custody account
  let L ← createToken P L accs.payer accs.toTokenCustody (toCustodySeeds (P.toBytes accs.pool.key))
    Spl.ACCOUNT_LEN
  let L ← P.invoke L (.initializeAccount accs.toTokenCustody.key accs.toMint.key accs.custodySigner.key) none
  -- create to pool mint
  let L ← createToken P L accs.payer accs.poolMint (shareMintSeeds (P.toBytes accs.pool.key)) Spl.MINT_LEN
  let L ← P.invoke L (.initializeMint accs.poolMint.key accs.custodySigner.key fromMint.decimals) none
  -- create pool
  let pool : PoolData := ⟨P.toBytes accs.fromMint.key, P.toBytes accs.toMint.key⟩
  let L ← create P.toProgram L accs.payer accs.pool
    (poolSeeds (P.toBytes accs.fromMint.key) (P.toBytes accs.toMint.key)) pool
  persist P.toProgram L accs.pool pool

/-! ## Steps -/

omit [DecidableEq Pubkey] in
/-- An instruction of the program, or what others do to the ledger. -/
inductive Input (Pubkey : Type) where
  | createPool (accs : CreatePool Pubkey)
  | addLiquidity (accs : Liquidity Pubkey) (amount : UInt64)
  | removeLiquidity (accs : Liquidity Pubkey) (amount : UInt64)
  | migrateTokens (accs : MigrateTokens Pubkey) (amount : UInt64)
  | claimShares (accs : ClaimShares Pubkey) (amount : UInt64)
  | others (L : Ledger Pubkey)

def execute : Input Pubkey → Result (Ledger Pubkey)
  | .createPool accs => createPool P L accs
  | .addLiquidity accs amount => addLiquidity P L accs amount
  | .removeLiquidity accs amount => removeLiquidity P L accs amount
  | .migrateTokens accs amount => migrateTokens P L accs amount
  | .claimShares accs amount => claimShares P L accs amount
  | .others L' => .ok L'

/-- A failed instruction changes nothing. -/
def step (input : Input Pubkey) : Option (Ledger Pubkey) := (execute P L input).toOption

end Program

end Wormhole.Solana.Migration

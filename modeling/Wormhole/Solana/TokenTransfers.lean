/-
# Wormhole.Solana.TokenTransfers — what the token bridge on Solana sends.

`attest_token`, `transfer_native` and `transfer_wrapped` of `modules/token_bridge/program/src/api`, each with the
peeling of its accounts and their persisting.  They call the core program, which posts their message and signs
it with the emitter's address; that call is a parameter.  Both bridges make it in the same way.
-/
import Mathlib
import Wormhole.Lib.Bytes
import Wormhole.Lib.Codec
import Wormhole.Solana.Payloads
import Wormhole.Solana.Solitaire
import Wormhole.Solana.Accounts
import Wormhole.Solana.Core
import Wormhole.Solana.Spl
import Wormhole.Solana.TokenBridge

namespace Wormhole.Solana.TokenBridge

open Wormhole.Lib Wormhole.Lib.Bytes

/-! ## The call of the core program -/

/-- `PostMessage` of the program with the given address, and the address that is signed for. -/
abbrev InvokePostMessage (Pubkey : Type) :=
  Ledger Pubkey → FixedBytes 32 → PostMessage Pubkey → PostMessageData → Pubkey → Result (Ledger Pubkey)

/-- The accounts of the call of the core program. -/
structure CoreAccounts (Pubkey : Type) where
  bridge : AccountMeta Pubkey
  message : AccountMeta Pubkey
  emitter : AccountMeta Pubkey
  sequence : AccountMeta Pubkey
  feeCollector : AccountMeta Pubkey
  clock : AccountMeta Pubkey

/-- "authority_signer" -/
def authoritySignerSeed : List UInt8 :=
  [0x61, 0x75, 0x74, 0x68, 0x6f, 0x72, 0x69, 0x74, 0x79, 0x5f, 0x73, 0x69, 0x67, 0x6e, 0x65, 0x72]

/-- "emitter" -/
def emitterSeed : List UInt8 := [0x65, 0x6d, 0x69, 0x74, 0x74, 0x65, 0x72]

/-- 32 bytes of a string, at most. -/
def padString (s : List Char) : Result (List UInt8) :=
  if (utf8 s).length ≤ 32 then .ok (utf8 s ++ List.replicate (32 - (utf8 s).length) 0x00)
  else .error .panicked

section Call

variable {Pubkey : Type} [DecidableEq Pubkey] (P : Program Pubkey)

/-- The peel of the payer. -/
def peelPayer (m : AccountMeta Pubkey) : Result Unit := do
  peelMut m
  peelSigner m

/-- The peel of `CustodySigner` and its like. -/
def peelSignerOf (seed : List UInt8) (m : AccountMeta Pubkey) : Result Unit := do
  peelDerive P seed m
  peelInfo true m

/-- The peel of the accounts for the core program, with the data of the bridge. -/
def peelCore (bridgeAddress : Pubkey) (L : Ledger Pubkey) (accs : CoreAccounts Pubkey) : Result BridgeData := do
  peelMut accs.bridge
  let bridge ← peelData BridgeData .initialized bridgeAddress L false accs.bridge
  peelSigner accs.message
  peelMut accs.message
  peelSignerOf P emitterSeed accs.emitter
  peelMut accs.sequence
  peelMut accs.feeCollector
  peelSysvar P.clock accs.clock
  return bridge

/-- The call of the core program; it signs for the emitter. -/
def postPayload (invokePostMessage : InvokePostMessage Pubkey) (L : Ledger Pubkey) (config : Config)
    (payer : AccountMeta Pubkey) (accs : CoreAccounts Pubkey) (nonce : UInt32) (bytes : List UInt8) :
    Result (Ledger Pubkey) := do
  let payload ← toVec bytes
  invokePostMessage L config.wormholeBridge
    { bridge := ⟨accs.bridge.key, false, true⟩
      message := ⟨accs.message.key, true, true⟩
      emitter := ⟨accs.emitter.key, true, false⟩
      sequence := ⟨accs.sequence.key, false, true⟩
      payer := ⟨payer.key, true, true⟩
      feeCollector := ⟨accs.feeCollector.key, false, true⟩
      clock := ⟨accs.clock.key, false, false⟩ }
    { nonce
      payload
      consistencyLevel := .Finalized } (P.derive [emitterSeed])

end Call

/-! ## Accounts of the instructions -/

structure AttestToken (Pubkey : Type) where
  payer : AccountMeta Pubkey
  config : AccountMeta Pubkey
  mint : AccountMeta Pubkey
  wrappedMeta : AccountMeta Pubkey
  splMetadata : AccountMeta Pubkey
  core : CoreAccounts Pubkey

structure AttestTokenData where
  nonce : UInt32

structure TransferNative (Pubkey : Type) where
  payer : AccountMeta Pubkey
  config : AccountMeta Pubkey
  from' : AccountMeta Pubkey
  mint : AccountMeta Pubkey
  custody : AccountMeta Pubkey
  authoritySigner : AccountMeta Pubkey
  custodySigner : AccountMeta Pubkey
  core : CoreAccounts Pubkey

structure TransferWrapped (Pubkey : Type) where
  payer : AccountMeta Pubkey
  config : AccountMeta Pubkey
  from' : AccountMeta Pubkey
  fromOwner : AccountMeta Pubkey
  mint : AccountMeta Pubkey
  wrappedMeta : AccountMeta Pubkey
  authoritySigner : AccountMeta Pubkey
  core : CoreAccounts Pubkey

/-- `TransferNativeData` and `TransferWrappedData`. -/
structure TransferData where
  nonce : UInt32
  amount : UInt64
  fee : UInt64
  targetAddress : FixedBytes 32
  targetChain : UInt16

/-- The program with what its transfers use: all of the token program, and the core program. -/
structure TransferProgram (Pubkey : Type) extends TokenBridgeProgram Pubkey where
  spl : Spl.TokenProgram Pubkey
  invokePostMessage : InvokePostMessage Pubkey

/-! ## Instructions -/

section Program

variable {Pubkey : Type} [DecidableEq Pubkey] (P : TransferProgram Pubkey)

def PayloadAssetMeta.serialize (p : PayloadAssetMeta) : Result (List UInt8) := do
  let symbol ← padString p.symbol
  let name ← padString p.name
  -- Payload ID
  return beBytes 1 2 ++ p.tokenAddress.val ++ beBytes 2 p.tokenChain ++ beBytes 1 p.decimals ++ symbol ++ name

/-- The name and the symbol of the token's metadata, if it has any. -/
def attestedMetadata (L : Ledger Pubkey) (mint splMetadata : AccountMeta Pubkey) :
    Result (List Char × List Char) :=
  if (L splMetadata.key).data = [] then .ok ([], []) else do
    ensure ((P.findProgramAddress (splTokenMetaSeeds (P.toBytes P.tokenMetadataProgram) (P.toBytes mint.key))
      P.tokenMetadataProgram).1 = splMetadata.key) .invalidDerive
    ensure ((L splMetadata.key).owner = P.tokenMetadataProgram) TokenBridgeError.WrongAccountOwner.into
    let metadata ← readMetadata P.toTokenBridgeProgram L splMetadata
    return (metadata.name, metadata.symbol)

def attestToken (L : Ledger Pubkey) (accs : AttestToken Pubkey) (data : AttestTokenData) :
    Result (Ledger Pubkey) := do
  peelPayer accs.payer
  peelMut accs.config
  peelDerive P.toProgram configSeed accs.config
  let config ← peelData Config .initialized P.programId L false accs.config
  let mint ← Spl.peelMint P.spl L true accs.mint
  let _wrapped ← peelData WrappedMeta .uninitialized P.programId L true accs.wrappedMeta
  peelInfo true accs.splMetadata
  let bridge ← peelCore P.toProgram P.bridgeAddress L accs.core
  -- pay fee
  let L ← transfer P.toProgram L accs.payer accs.core.feeCollector none bridge.config.fee.toNat
  -- the wrapped meta is uninitialized
  verifyDerivation P.toProgram (wrappedMetaSeeds (P.toBytes accs.mint.key)) accs.wrappedMeta
  let metadata ← attestedMetadata P L accs.mint accs.splMetadata
  let bytes ← PayloadAssetMeta.serialize
    { tokenAddress := P.toBytes accs.mint.key
      tokenChain := CHAIN_ID_SOLANA
      decimals := mint.decimals.toNat
      symbol := metadata.2
      name := metadata.1 }
  let L ← postPayload P.toProgram P.invokePostMessage L config accs.payer accs.core data.nonce bytes
  persist P.toProgram L accs.config config

/-- The custody account is created if it is not there. -/
def openCustody (L : Ledger Pubkey) (accs : TransferNative Pubkey) : Result (Ledger Pubkey) :=
  if isInitialized L accs.custody then .ok L else do
    let L ← createAccount P.toProgram L accs.payer accs.custody
      (some (P.derive (custodySeeds (P.toBytes accs.mint.key)))) (minimumBalance Spl.ACCOUNT_LEN) Spl.ACCOUNT_LEN
      P.tokenProgram
    P.spl.invoke L (.initializeAccount accs.custody.key accs.mint.key accs.custodySigner.key) none

/-- `a / b`, which panics if `b` is zero. -/
def divide (a b : UInt64) : Result UInt64 := if b = 0 then .error .panicked else .ok (a / b)

/-- `10u64.pow(8.max(decimals) - 8)`, in 64 bits. -/
def truncDivisor (decimals : UInt8) : UInt64 := 10 ^ (max 8 decimals.toNat - 8)

/-- The peel of the custody account, perhaps initialized; what is read of it is not used. -/
def peelMaybeCustody (L : Ledger Pubkey) (m : AccountMeta Pubkey) : Result Unit := do
  peelMut m
  if (L m.key).lamports = 0 then .ok () else do
    let _custody ← Spl.peelAccount P.spl L false m
    return ()

def transferNative (L : Ledger Pubkey) (accs : TransferNative Pubkey) (data : TransferData) :
    Result (Ledger Pubkey) := do
  peelPayer accs.payer
  let config ← peelConfig P.toTokenBridgeProgram L accs.config
  peelMut accs.from'
  let from' ← Spl.peelAccount P.spl L false accs.from'
  peelMut accs.mint
  let mint ← Spl.peelMint P.spl L false accs.mint
  peelMaybeCustody P L accs.custody
  peelSignerOf P.toProgram authoritySignerSeed accs.authoritySigner
  peelSignerOf P.toProgram custodySignerSeed accs.custodySigner
  let bridge ← peelCore P.toProgram P.bridgeAddress L accs.core
  -- prevent transferring to the same chain
  ensure (data.targetChain.toNat ≠ CHAIN_ID_SOLANA) TokenBridgeError.InvalidChain.into
  -- verify that the custody account is derived correctly
  verifyDerivation P.toProgram (custodySeeds (P.toBytes accs.mint.key)) accs.custody
  -- verify mints
  ensure (from'.mint = accs.mint.key) TokenBridgeError.InvalidMint.into
  -- fee must be less than amount
  ensure (data.fee ≤ data.amount) TokenBridgeError.InvalidFee.into
  -- verify that the token is not a wrapped token
  ensure (mint.mintAuthority ≠ some (P.derive [mintSignerSeed])) TokenBridgeError.TokenNotNative.into
  let L ← openCustody P L accs
  -- truncate to 8 decimals
  let amount ← divide data.amount (truncDivisor mint.decimals)
  let fee ← divide data.fee (truncDivisor mint.decimals)
  -- transfer tokens, without the remainder
  let L ← P.spl.invoke L (.transfer accs.from'.key accs.custody.key accs.authoritySigner.key
    (amount * truncDivisor mint.decimals)) (some (P.derive [authoritySignerSeed]))
  -- pay fee
  let L ← transfer P.toProgram L accs.payer accs.core.feeCollector none bridge.config.fee.toNat
  -- post message
  postPayload P.toProgram P.invokePostMessage L config accs.payer accs.core data.nonce (PayloadTransfer.serialize
    { amount := amount.toNat
      tokenAddress := P.toBytes accs.mint.key
      tokenChain := CHAIN_ID_SOLANA
      to' := data.targetAddress
      toChain := data.targetChain.toNat
      fee := fee.toNat })

def transferWrapped (L : Ledger Pubkey) (accs : TransferWrapped Pubkey) (data : TransferData) :
    Result (Ledger Pubkey) := do
  peelPayer accs.payer
  let config ← peelConfig P.toTokenBridgeProgram L accs.config
  peelMut accs.from'
  let from' ← Spl.peelAccount P.spl L false accs.from'
  peelSigner accs.fromOwner
  peelMut accs.mint
  let _mint ← Spl.peelMint P.spl L false accs.mint
  let wrapped ← peelData WrappedMeta .initialized P.programId L true accs.wrappedMeta
  peelSignerOf P.toProgram authoritySignerSeed accs.authoritySigner
  let bridge ← peelCore P.toProgram P.bridgeAddress L accs.core
  -- prevent transferring to the same chain
  ensure (data.targetChain.toNat ≠ CHAIN_ID_SOLANA) TokenBridgeError.InvalidChain.into
  -- verify that the from account is owned by the from_owner
  ensure (from'.owner = accs.fromOwner.key) TokenBridgeError.WrongAccountOwner.into
  -- verify mints
  ensure (accs.mint.key = from'.mint) TokenBridgeError.InvalidMint.into
  -- fee must be less than amount
  ensure (data.fee ≤ data.amount) TokenBridgeError.InvalidFee.into
  -- verify that meta is correct
  verifyDerivation P.toProgram (wrappedMetaSeeds (P.toBytes accs.mint.key)) accs.wrappedMeta
  -- burn tokens
  let L ← P.spl.invoke L (.burn accs.from'.key accs.mint.key accs.authoritySigner.key data.amount)
    (some (P.derive [authoritySignerSeed]))
  -- pay fee
  let L ← transfer P.toProgram L accs.payer accs.core.feeCollector none bridge.config.fee.toNat
  -- post message
  postPayload P.toProgram P.invokePostMessage L config accs.payer accs.core data.nonce (PayloadTransfer.serialize
    { amount := data.amount.toNat
      tokenAddress := wrapped.tokenAddress
      tokenChain := wrapped.chain.toNat
      to' := data.targetAddress
      toChain := data.targetChain.toNat
      fee := data.fee.toNat })

end Program

end Wormhole.Solana.TokenBridge

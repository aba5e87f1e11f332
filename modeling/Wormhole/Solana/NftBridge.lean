/-
# Wormhole.Solana.NftBridge — the NFT bridge on Solana.

The instructions of `modules/nft_bridge/program/src/api`, each with the peeling of its accounts and their
persisting.  An NFT of Solana is published under one token address, with its mint as the token id; it is kept in
the custody account of the mint.  NFTs of other chains are minted at addresses derived from chain, address and id.
Upgrading the program is in `Upgrades`.

The SPL programs and the core program are parameters, as are the characters that `bstr` finds in bytes that need
not be UTF-8.
-/
import Mathlib
import Wormhole.Lib.Bytes
import Wormhole.Lib.Reader
import Wormhole.Lib.Codec
import Wormhole.Solana.Payloads
import Wormhole.Solana.Solitaire
import Wormhole.Solana.Accounts
import Wormhole.Solana.Core
import Wormhole.Solana.Spl
import Wormhole.Solana.TokenBridge
import Wormhole.Solana.TokenTransfers

namespace Wormhole.Solana.NftBridge

open Wormhole.Lib Wormhole.Lib.Bytes
open Wormhole.Solana.TokenBridge (Config CoreAccounts EndpointRegistration InvokePostMessage SplData
  authoritySignerSeed configSeed custodySeeds custodySignerSeed endpointSeeds mintSignerSeed padString peelCore
  peelPayer peelSignerOf postPayload splTokenMetaSeeds utf8 wrappedMetaSeeds)

/-- `TokenBridgeError`. -/
inductive TokenBridgeError where
  | AlreadyExecuted
  | InvalidChain
  | InvalidGovernanceKey
  | InvalidMetadata
  | InvalidMint
  | InvalidPayload
  | InvalidUTF8String
  | TokenNotNative
  | UninitializedMint
  | WrongAccountOwner
  | TokenNotNFT
  | InvalidAssociatedAccount
  | InvalidRecipient
  deriving DecidableEq

def TokenBridgeError.into (e : TokenBridgeError) : SolitaireError := .custom e.ctorIdx

/-- What `create_metadata_accounts` is called with. -/
structure CreateMetadata (Pubkey : Type) where
  metadata : Pubkey
  mint : Pubkey
  mintAuthority : Pubkey
  payer : Pubkey
  updateAuthority : Pubkey
  name : List Char
  symbol : List Char
  uri : List Char

/-- The NFT bridge program, and what it uses. -/
structure NftBridgeProgram (Pubkey : Type) extends Program Pubkey, Spl.TokenProgram Pubkey where
  /-- the core program, at compile time -/
  bridgeAddress : Pubkey
  tokenMetadataProgram : Pubkey
  EMITTER_ADDRESS : FixedBytes 32
  unpackMetadata : List UInt8 → Option SplData
  chars : List UInt8 → List Char
  /-- `get_associated_token_address` of a wallet and a mint -/
  associatedAddress : Pubkey → Pubkey → Pubkey
  /-- `create_associated_token_account`, of a payer, a wallet and a mint -/
  createAssociated : Ledger Pubkey → Pubkey → Pubkey → Pubkey → Result (Ledger Pubkey)
  /-- `create_metadata_accounts`, with the address that the program signs for -/
  createMetadata : Ledger Pubkey → CreateMetadata Pubkey → Pubkey → Result (Ledger Pubkey)
  invokePostMessage : InvokePostMessage Pubkey
  programId_ne_token : programId ≠ tokenProgram
  systemProgram_ne_token : systemProgram ≠ tokenProgram

/-! ## Accounts -/

structure WrappedMeta where
  chain : UInt16
  tokenAddress : FixedBytes 32
  /-- the token id, as four words of 64 bits; the first is the lowest -/
  tokenId : UInt64 × UInt64 × UInt64 × UInt64
  deriving DecidableEq

def WrappedMeta.codec : Borsh WrappedMeta :=
  (Borsh.u16.pair ((Borsh.array 32).pair (Borsh.u64.pair (Borsh.u64.pair (Borsh.u64.pair Borsh.u64))))).iso
    { toFun := fun p => ⟨p.1, p.2.1, p.2.2⟩
      invFun := fun w => (w.chain, w.tokenAddress, w.tokenId)
      left_inv := fun _ => rfl
      right_inv := fun _ => rfl }

instance : AccountData WrappedMeta where
  serialize := WrappedMeta.codec.write
  deserialize := WrappedMeta.codec.decode .ioError
  default := ⟨0, zeros 32, 0, 0, 0, 0⟩

/-- The words of a 256-bit number. -/
def words (n : Nat) : UInt64 × UInt64 × UInt64 × UInt64 :=
  (UInt64.ofNat n, UInt64.ofNat (n / 2 ^ 64), UInt64.ofNat (n / 2 ^ 128), UInt64.ofNat (n / 2 ^ 192))

/-- `U256` of its words. -/
def u256 (w : UInt64 × UInt64 × UInt64 × UInt64) : Nat :=
  w.1.toNat + 2 ^ 64 * w.2.1.toNat + 2 ^ 128 * w.2.2.1.toNat + 2 ^ 192 * w.2.2.2.toNat

/-! ## Seeds -/

/-- "wrapped", the token's chain, its address and the token id. -/
def wrappedSeeds (tokenChain : Nat) (tokenAddress : FixedBytes 32) (tokenId : Nat) : List (List UInt8) :=
  [[0x77, 0x72, 0x61, 0x70, 0x70, 0x65, 0x64], beBytes 2 tokenChain, tokenAddress.val, beBytes 32 tokenId]

/-! ## Messages -/

/-- "NFTBridge" -/
def MODULE : List UInt8 := [0x4e, 0x46, 0x54, 0x42, 0x72, 0x69, 0x64, 0x67, 0x65]

structure PayloadTransfer where
  tokenAddress : FixedBytes 32
  tokenChain : Nat
  symbol : List Char
  name : List Char
  tokenId : Nat
  uri : List Char
  to' : FixedBytes 32
  toChain : Nat
  deriving DecidableEq

/-- `String::from_utf8(bytes).unwrap()` -/
def stringOf (bytes : List UInt8) : Reader SolitaireError (List Char) :=
  match String.fromUTF8? ⟨bytes.toArray⟩ with
  | some s => return s.toList
  | none => throw .panicked

/-- Some bytes. -/
def readBytes (n : Nat) : Reader SolitaireError (List UInt8) := do
  let bytes ← readExact n
  return bytes.val

/-- A string behind its length. -/
def readUri : Reader SolitaireError (List Char) := do
  let uriLen ← readU8
  let uriBytes ← readBytes uriLen
  stringOf uriBytes

def PayloadTransfer.serialize (t : PayloadTransfer) : Result (List UInt8) := do
  let symbol ← padString t.symbol
  let name ← padString t.name
  -- Payload ID
  return beBytes 1 1 ++ t.tokenAddress.val ++ beBytes 2 t.tokenChain ++ symbol ++ name ++ beBytes 32 t.tokenId ++
    beBytes 1 ((utf8 t.uri).length % 256) ++ utf8 t.uri ++ t.to'.val ++ beBytes 2 t.toChain

structure PayloadGovernanceRegisterChain where
  chain : Nat
  endpointAddress : FixedBytes 32
  deriving DecidableEq

def PayloadGovernanceRegisterChain.deserialize : List UInt8 → Result PayloadGovernanceRegisterChain :=
  Reader.decode do
    checkGovernanceHeader MODULE 1
    let chain ← readU16
    let endpointAddress ← readExact 32
    atEnd
    return { chain, endpointAddress }

structure GovernancePayloadUpgrade where
  newContract : FixedBytes 32
  deriving DecidableEq

def GovernancePayloadUpgrade.deserialize : List UInt8 → Result GovernancePayloadUpgrade :=
  Reader.decode do
    checkGovernanceHeader MODULE 2
    let newContract ← readExact 32
    atEnd
    return { newContract }

/-! ## Accounts of the instructions -/

structure RegisterChain (Pubkey : Type) where
  payer : AccountMeta Pubkey
  config : AccountMeta Pubkey
  endpoint : AccountMeta Pubkey
  vaa : ClaimableVAA Pubkey

structure CompleteNative (Pubkey : Type) where
  payer : AccountMeta Pubkey
  config : AccountMeta Pubkey
  vaa : ClaimableVAA Pubkey
  chainRegistration : AccountMeta Pubkey
  to' : AccountMeta Pubkey
  toAuthority : AccountMeta Pubkey
  custody : AccountMeta Pubkey
  mint : AccountMeta Pubkey
  custodySigner : AccountMeta Pubkey

structure CompleteWrapped (Pubkey : Type) where
  payer : AccountMeta Pubkey
  config : AccountMeta Pubkey
  vaa : ClaimableVAA Pubkey
  chainRegistration : AccountMeta Pubkey
  to' : AccountMeta Pubkey
  toAuthority : AccountMeta Pubkey
  mint : AccountMeta Pubkey
  wrappedMeta : AccountMeta Pubkey
  mintAuthority : AccountMeta Pubkey

structure CompleteWrappedMeta (Pubkey : Type) where
  payer : AccountMeta Pubkey
  config : AccountMeta Pubkey
  /-- the transfer; it does not need to be claimed -/
  vaa : AccountMeta Pubkey
  chainRegistration : AccountMeta Pubkey
  mint : AccountMeta Pubkey
  wrappedMeta : AccountMeta Pubkey
  splMetadata : AccountMeta Pubkey
  mintAuthority : AccountMeta Pubkey

structure TransferNative (Pubkey : Type) where
  payer : AccountMeta Pubkey
  config : AccountMeta Pubkey
  from' : AccountMeta Pubkey
  mint : AccountMeta Pubkey
  splMetadata : AccountMeta Pubkey
  custody : AccountMeta Pubkey
  authoritySigner : AccountMeta Pubkey
  custodySigner : AccountMeta Pubkey
  core : CoreAccounts Pubkey

structure TransferWrapped (Pubkey : Type) where
  payer : AccountMeta Pubkey
  config : AccountMeta Pubkey
  from' : AccountMeta Pubkey
  fromOwner : AccountMeta Pubkey
  mint : AccountMeta Pubkey
  wrappedMeta : AccountMeta Pubkey
  splMetadata : AccountMeta Pubkey
  authoritySigner : AccountMeta Pubkey
  core : CoreAccounts Pubkey

/-- `TransferNativeData` and `TransferWrappedData`. -/
structure TransferData where
  nonce : UInt32
  targetAddress : FixedBytes 32
  targetChain : UInt16

section Program

variable {Pubkey : Type} (P : NftBridgeProgram Pubkey)

/-- The characters of some bytes, without zeros and the unrecognised ones. -/
def recognised (data : List UInt8) : List Char := (P.chars (data.filter (· ≠ 0x00))).filter (· ≠ '\uFFFD')

def PayloadTransfer.deserialize : List UInt8 → Result PayloadTransfer :=
  Reader.decode do
    let id ← readU8
    Reader.check (id = 1) (.custom 0)
    let tokenAddress ← readExact 32
    let tokenChain ← readU16
    let symbol ← readExact 32
    let name ← readExact 32
    let tokenId ← readU256
    let uri ← readUri
    let to' ← readExact 32
    let toChain ← readU16
    atEnd
    return {
      tokenAddress
      tokenChain
      symbol := recognised P symbol.val
      name := recognised P name.val
      tokenId
      uri
      to'
      toChain }

/-! ## Peeling -/

variable [DecidableEq Pubkey]

def verifyGovernance (m : MessageData) : Result Unit :=
  ensure (P.EMITTER_ADDRESS = m.emitterAddress ∧ m.emitterChain.toNat = CHAIN_ID_SOLANA)
    TokenBridgeError.InvalidGovernanceKey.into

/-- The peel of `ConfigAccount`, initialized. -/
def peelConfig (L : Ledger Pubkey) (m : AccountMeta Pubkey) : Result Config := do
  peelDerive P.toProgram configSeed m
  peelData Config .initialized P.programId L true m

/-- The peel of `Endpoint`, initialized. -/
def peelEndpoint (L : Ledger Pubkey) (m : AccountMeta Pubkey) : Result EndpointRegistration :=
  peelData EndpointRegistration .initialized P.programId L true m

/-- The peel of `Mut<Data<SplAccount>>`, perhaps initialized; the default has zeros for addresses, which is the
address of the system program. -/
def peelMaybeAccount (L : Ledger Pubkey) (m : AccountMeta Pubkey) : Result (Spl.Account Pubkey) := do
  peelMut m
  if (L m.key).lamports = 0 then .ok ⟨P.systemProgram, P.systemProgram, none, 0⟩
  else Spl.peelAccount P.toTokenProgram L false m

/-- The peel of `Mut<WrappedMint>`, perhaps initialized; what is read of it is not used. -/
def peelMaybeMint (L : Ledger Pubkey) (m : AccountMeta Pubkey) : Result Unit := do
  peelMut m
  if (L m.key).lamports = 0 then .ok () else do
    let _mint ← Spl.peelMint P.toTokenProgram L false m
    return ()

/-- `verify_derivation` of the metadata account, which is the metadata program's. -/
def verifySplMetadata (mint splMetadata : AccountMeta Pubkey) : Result Unit :=
  ensure ((P.findProgramAddress (splTokenMetaSeeds (P.toBytes P.tokenMetadataProgram) (P.toBytes mint.key))
    P.tokenMetadataProgram).1 = splMetadata.key) .invalidDerive

/-- `Metadata::from_account_info`. -/
def readMetadata (L : Ledger Pubkey) (m : AccountMeta Pubkey) : Result SplData :=
  match P.unpackMetadata (L m.key).data with
  | some metadata => .ok metadata
  | none => .error TokenBridgeError.InvalidMetadata.into

/-! ## Governance -/

def initializeConfig (L : Ledger Pubkey) (accs : TokenBridge.Initialize Pubkey)
    (data : TokenBridge.InitializeData) : Result (Ledger Pubkey) := do
  peelPayer accs.payer
  peelMut accs.config
  peelDerive P.toProgram configSeed accs.config
  let config ← peelData Config .uninitialized P.programId L false accs.config
  let L ← create P.toProgram L accs.payer accs.config [configSeed] config
  persist P.toProgram L accs.config { config with wormholeBridge := data.bridge }

def registerChain (L : Ledger Pubkey) (accs : RegisterChain Pubkey) : Result (Ledger Pubkey) := do
  peelPayer accs.payer
  let _config ← peelConfig P L accs.config
  peelMut accs.endpoint
  let endpoint ← peelData EndpointRegistration .uninitialized P.programId L false accs.endpoint
  let vaa ← accs.vaa.peel P.toProgram P.bridgeAddress L PayloadGovernanceRegisterChain.deserialize
  let chain := UInt16.ofNat vaa.2.1.chain
  verifyDerivation P.toProgram (endpointSeeds chain vaa.2.1.endpointAddress) accs.endpoint
  -- claim VAA
  verifyGovernance P vaa.1
  accs.vaa.verify P.toProgram vaa.1
  let claimed ← accs.vaa.claimIt P.toProgram L accs.payer vaa.1 vaa.2.2
  ensure (vaa.2.1.chain ≠ CHAIN_ID_SOLANA) TokenBridgeError.InvalidChain.into
  -- create endpoint
  let L ← create P.toProgram claimed.1 accs.payer accs.endpoint (endpointSeeds chain vaa.2.1.endpointAddress)
    endpoint
  let L ← persist P.toProgram L accs.endpoint { endpoint with
    chain
    contract := vaa.2.1.endpointAddress }
  persist P.toProgram L accs.vaa.claim claimed.2

/-! ## Completing transfers -/

/-- The recipient's account is there, for the mint, or it is the associated one and is created. -/
def openRecipient (L : Ledger Pubkey) (payer to' toAuthority mint : AccountMeta Pubkey)
    (account : Spl.Account Pubkey) : Result (Ledger Pubkey) :=
  if isInitialized L to' then do
    ensure (mint.key = account.mint) TokenBridgeError.InvalidMint.into
    return L
  else do
    ensure (to'.key = P.associatedAddress toAuthority.key mint.key) TokenBridgeError.InvalidAssociatedAccount.into
    P.createAssociated L payer.key toAuthority.key mint.key

/-- The token address that the NFTs of Solana are published under. -/
def nativeAddress : FixedBytes 32 := ⟨List.replicate 32 0x01, List.length_replicate⟩

def completeNative (L : Ledger Pubkey) (accs : CompleteNative Pubkey) : Result (Ledger Pubkey) := do
  peelPayer accs.payer
  let _config ← peelConfig P L accs.config
  let vaa ← accs.vaa.peel P.toProgram P.bridgeAddress L (PayloadTransfer.deserialize P)
  let _endpoint ← peelEndpoint P L accs.chainRegistration
  let to' ← peelMaybeAccount P L accs.to'
  peelMut accs.custody
  let custody ← Spl.peelAccount P.toTokenProgram L false accs.custody
  let _mint ← Spl.peelMint P.toTokenProgram L true accs.mint
  peelSignerOf P.toProgram custodySignerSeed accs.custodySigner
  -- verify the chain registration
  verifyDerivation P.toProgram (endpointSeeds vaa.1.emitterChain vaa.1.emitterAddress) accs.chainRegistration
  -- verify that the custody account is derived correctly
  verifyDerivation P.toProgram (custodySeeds (P.toBytes accs.mint.key)) accs.custody
  -- verify mints
  ensure (accs.mint.key = custody.mint) TokenBridgeError.InvalidMint.into
  ensure (accs.custodySigner.key = custody.owner) TokenBridgeError.WrongAccountOwner.into
  -- verify VAA; the token id is used to store the mint
  ensure (vaa.2.1.tokenAddress = nativeAddress) TokenBridgeError.InvalidMint.into
  ensure (beBytes 32 vaa.2.1.tokenId = (P.toBytes accs.mint.key).val) TokenBridgeError.InvalidMint.into
  ensure (vaa.2.1.tokenChain = CHAIN_ID_SOLANA) TokenBridgeError.InvalidChain.into
  ensure (vaa.2.1.toChain = CHAIN_ID_SOLANA) TokenBridgeError.InvalidChain.into
  ensure (vaa.2.1.to' = P.toBytes accs.to'.key) TokenBridgeError.InvalidRecipient.into
  -- prevent vaa double signing
  accs.vaa.verify P.toProgram vaa.1
  let claimed ← accs.vaa.claimIt P.toProgram L accs.payer vaa.1 vaa.2.2
  let L ← openRecipient P claimed.1 accs.payer accs.to' accs.toAuthority accs.mint to'
  -- transfer tokens
  let L ← P.invoke L (.transfer accs.custody.key accs.to'.key accs.custodySigner.key 1)
    (some (P.derive [custodySignerSeed]))
  persist P.toProgram L accs.vaa.claim claimed.2

/-- The NFT is initialized if it does not already exist; what the meta account is to hold comes back with the
ledger. -/
def openWrapped (L : Ledger Pubkey) (accs : CompleteWrapped Pubkey) (vaa : PayloadTransfer)
    (wrapped : WrappedMeta) : Result (Ledger Pubkey × WrappedMeta) :=
  if isInitialized L accs.wrappedMeta then .ok (L, wrapped) else do
    let L ← createAccount P.toProgram L accs.payer accs.mint
      (some (P.derive (wrappedSeeds vaa.tokenChain vaa.tokenAddress vaa.tokenId))) (minimumBalance Spl.MINT_LEN)
      Spl.MINT_LEN P.tokenProgram
    let L ← P.invoke L (.initializeMint accs.mint.key accs.mintAuthority.key 0) none
    let L ← create P.toProgram L accs.payer accs.wrappedMeta (wrappedMetaSeeds (P.toBytes accs.mint.key)) wrapped
    return (L, { chain := UInt16.ofNat vaa.tokenChain
                 tokenAddress := vaa.tokenAddress
                 tokenId := words vaa.tokenId })

def completeWrapped (L : Ledger Pubkey) (accs : CompleteWrapped Pubkey) : Result (Ledger Pubkey) := do
  peelPayer accs.payer
  let _config ← peelConfig P L accs.config
  let vaa ← accs.vaa.peel P.toProgram P.bridgeAddress L (PayloadTransfer.deserialize P)
  let _endpoint ← peelEndpoint P L accs.chainRegistration
  let to' ← peelMaybeAccount P L accs.to'
  peelMaybeMint P L accs.mint
  peelMut accs.wrappedMeta
  let wrapped ← peelData WrappedMeta .maybeInitialized P.programId L false accs.wrappedMeta
  peelSignerOf P.toProgram mintSignerSeed accs.mintAuthority
  -- verify the chain registration
  verifyDerivation P.toProgram (endpointSeeds vaa.1.emitterChain vaa.1.emitterAddress) accs.chainRegistration
  -- verify mint
  verifyDerivation P.toProgram (wrappedSeeds vaa.2.1.tokenChain vaa.2.1.tokenAddress vaa.2.1.tokenId) accs.mint
  -- verify VAA
  ensure (vaa.2.1.toChain = CHAIN_ID_SOLANA) TokenBridgeError.InvalidChain.into
  ensure (vaa.2.1.to' = P.toBytes accs.to'.key) TokenBridgeError.InvalidRecipient.into
  accs.vaa.verify P.toProgram vaa.1
  let claimed ← accs.vaa.claimIt P.toProgram L accs.payer vaa.1 vaa.2.2
  let opened ← openWrapped P claimed.1 accs vaa.2.1 wrapped
  let L ← openRecipient P opened.1 accs.payer accs.to' accs.toAuthority accs.mint to'
  -- mint tokens
  let L ← P.invoke L (.mintTo accs.mint.key accs.to'.key accs.mintAuthority.key 1)
    (some (P.derive [mintSignerSeed]))
  let L ← persist P.toProgram L accs.vaa.claim claimed.2
  persist P.toProgram L accs.wrappedMeta opened.2

/-- The symbol of a wrapped NFT: the characters of ten bytes. -/
def truncatedSymbol (symbol : List Char) : List Char :=
  (P.chars ((utf8 symbol).take 10)).filter (· ≠ '\uFFFD')

def completeWrappedMeta (L : Ledger Pubkey) (accs : CompleteWrappedMeta Pubkey) : Result (Ledger Pubkey) := do
  peelPayer accs.payer
  let _config ← peelConfig P L accs.config
  let data ← peelData PostedVAAData .initialized P.bridgeAddress L true accs.vaa
  let vaa ← PayloadTransfer.deserialize P data.message.payload.val
  let _endpoint ← peelEndpoint P L accs.chainRegistration
  let _mint ← Spl.peelMint P.toTokenProgram L true accs.mint
  let _wrapped ← peelData WrappedMeta .initialized P.programId L true accs.wrappedMeta
  peelMut accs.splMetadata
  peelSignerOf P.toProgram mintSignerSeed accs.mintAuthority
  -- verify the chain registration
  verifyDerivation P.toProgram (endpointSeeds data.message.emitterChain data.message.emitterAddress)
    accs.chainRegistration
  -- verify mint
  verifyDerivation P.toProgram (wrappedSeeds vaa.tokenChain vaa.tokenAddress vaa.tokenId) accs.mint
  -- verify VAA
  ensure (vaa.toChain = CHAIN_ID_SOLANA) TokenBridgeError.InvalidChain.into
  -- make sure the metadata hasn't been initialized yet
  ensure ((L accs.splMetadata.key).data = []) TokenBridgeError.AlreadyExecuted.into
  -- initialize spl meta
  verifySplMetadata P accs.mint accs.splMetadata
  P.createMetadata L
    { metadata := accs.splMetadata.key
      mint := accs.mint.key
      mintAuthority := accs.mintAuthority.key
      payer := accs.payer.key
      updateAuthority := accs.mintAuthority.key
      name := vaa.name
      symbol := truncatedSymbol P vaa.symbol
      uri := vaa.uri } (P.derive [mintSignerSeed])

/-! ## Transferring -/

/-- The token has metadata, of the metadata program. -/
def checkMetadata (L : Ledger Pubkey) (splMetadata : AccountMeta Pubkey) : Result Unit := do
  ensure ((L splMetadata.key).data ≠ []) TokenBridgeError.TokenNotNFT.into
  ensure ((L splMetadata.key).owner = P.tokenMetadataProgram) TokenBridgeError.WrongAccountOwner.into

/-- The transfer, as a message of the core program. -/
def postTransfer (L : Ledger Pubkey) (config : Config) (payer : AccountMeta Pubkey) (accs : CoreAccounts Pubkey)
    (nonce : UInt32) (t : PayloadTransfer) : Result (Ledger Pubkey) := do
  let bytes ← t.serialize
  postPayload P.toProgram P.invokePostMessage L config payer accs nonce bytes

/-- The custody account is created if it is not there. -/
def openCustody (L : Ledger Pubkey) (accs : TransferNative Pubkey) : Result (Ledger Pubkey) :=
  if isInitialized L accs.custody then .ok L else do
    let L ← createAccount P.toProgram L accs.payer accs.custody
      (some (P.derive (custodySeeds (P.toBytes accs.mint.key)))) (minimumBalance Spl.ACCOUNT_LEN) Spl.ACCOUNT_LEN
      P.tokenProgram
    P.invoke L (.initializeAccount accs.custody.key accs.mint.key accs.custodySigner.key) none

def transferNative (L : Ledger Pubkey) (accs : TransferNative Pubkey) (data : TransferData) :
    Result (Ledger Pubkey) := do
  peelPayer accs.payer
  let config ← peelConfig P L accs.config
  peelMut accs.from'
  let from' ← Spl.peelAccount P.toTokenProgram L false accs.from'
  peelMut accs.mint
  let mint ← Spl.peelMint P.toTokenProgram L false accs.mint
  peelInfo true accs.splMetadata
  let _custody ← peelMaybeAccount P L accs.custody
  peelSignerOf P.toProgram authoritySignerSeed accs.authoritySigner
  peelSignerOf P.toProgram custodySignerSeed accs.custodySigner
  let bridge ← peelCore P.toProgram P.bridgeAddress L accs.core
  -- verify that the custody account is derived correctly
  verifyDerivation P.toProgram (custodySeeds (P.toBytes accs.mint.key)) accs.custody
  verifySplMetadata P accs.mint accs.splMetadata
  -- verify mints
  ensure (from'.mint = accs.mint.key) TokenBridgeError.InvalidMint.into
  -- token must have metadata
  checkMetadata P L accs.splMetadata
  -- verify that the token is not a wrapped token
  ensure (mint.mintAuthority ≠ some (P.derive [mintSignerSeed])) TokenBridgeError.TokenNotNative.into
  let L ← openCustody P L accs
  -- transfer tokens
  let L ← P.invoke L (.transfer accs.from'.key accs.custody.key accs.authoritySigner.key 1)
    (some (P.derive [authoritySignerSeed]))
  -- pay fee
  let L ← transfer P.toProgram L accs.payer accs.core.feeCollector none bridge.config.fee.toNat
  let metadata ← readMetadata P L accs.splMetadata
  -- post message
  postTransfer P L config accs.payer accs.core data.nonce
    { tokenAddress := nativeAddress
      tokenChain := 1
      symbol := metadata.symbol
      name := metadata.name
      tokenId := beNat (P.toBytes accs.mint.key).val
      uri := metadata.uri
      to' := data.targetAddress
      toChain := data.targetChain.toNat }

def transferWrapped (L : Ledger Pubkey) (accs : TransferWrapped Pubkey) (data : TransferData) :
    Result (Ledger Pubkey) := do
  peelPayer accs.payer
  let config ← peelConfig P L accs.config
  peelMut accs.from'
  let from' ← Spl.peelAccount P.toTokenProgram L false accs.from'
  peelSigner accs.fromOwner
  peelMut accs.mint
  let _mint ← Spl.peelMint P.toTokenProgram L false accs.mint
  let wrapped ← peelData WrappedMeta .initialized P.programId L true accs.wrappedMeta
  peelInfo true accs.splMetadata
  peelSignerOf P.toProgram authoritySignerSeed accs.authoritySigner
  let bridge ← peelCore P.toProgram P.bridgeAddress L accs.core
  -- verify that the from account is owned by the from_owner
  ensure (from'.owner = accs.fromOwner.key) TokenBridgeError.WrongAccountOwner.into
  -- verify mints
  ensure (accs.mint.key = from'.mint) TokenBridgeError.InvalidMint.into
  -- verify that meta is correct
  verifyDerivation P.toProgram (wrappedMetaSeeds (P.toBytes accs.mint.key)) accs.wrappedMeta
  -- burn tokens
  let L ← P.invoke L (.burn accs.from'.key accs.mint.key accs.authoritySigner.key 1)
    (some (P.derive [authoritySignerSeed]))
  -- pay fee
  let L ← transfer P.toProgram L accs.payer accs.core.feeCollector none bridge.config.fee.toNat
  verifyDerivation P.toProgram (wrappedMetaSeeds (P.toBytes accs.mint.key)) accs.wrappedMeta
  -- token must have metadata
  ensure ((L accs.splMetadata.key).data ≠ []) TokenBridgeError.TokenNotNFT.into
  verifySplMetadata P accs.mint accs.splMetadata
  ensure ((L accs.splMetadata.key).owner = P.tokenMetadataProgram) TokenBridgeError.WrongAccountOwner.into
  let metadata ← readMetadata P L accs.splMetadata
  -- post message
  postTransfer P L config accs.payer accs.core data.nonce
    { tokenAddress := wrapped.tokenAddress
      tokenChain := wrapped.chain.toNat
      symbol := metadata.symbol
      name := metadata.name
      tokenId := u256 wrapped.tokenId
      uri := metadata.uri
      to' := data.targetAddress
      toChain := data.targetChain.toNat }

/-! ## Steps -/

omit [DecidableEq Pubkey] in
/-- An instruction of the program, or what others do to the ledger. -/
inductive Input (Pubkey : Type) where
  | initializeConfig (accs : TokenBridge.Initialize Pubkey) (data : TokenBridge.InitializeData)
  | registerChain (accs : RegisterChain Pubkey)
  | completeNative (accs : CompleteNative Pubkey)
  | completeWrapped (accs : CompleteWrapped Pubkey)
  | completeWrappedMeta (accs : CompleteWrappedMeta Pubkey)
  | transferNative (accs : TransferNative Pubkey) (data : TransferData)
  | transferWrapped (accs : TransferWrapped Pubkey) (data : TransferData)
  | others (L : Ledger Pubkey)

def execute (L : Ledger Pubkey) : Input Pubkey → Result (Ledger Pubkey)
  | .initializeConfig accs data => initializeConfig P L accs data
  | .registerChain accs => registerChain P L accs
  | .completeNative accs => completeNative P L accs
  | .completeWrapped accs => completeWrapped P L accs
  | .completeWrappedMeta accs => completeWrappedMeta P L accs
  | .transferNative accs data => transferNative P L accs data
  | .transferWrapped accs data => transferWrapped P L accs data
  | .others L' => .ok L'

/-- A failed instruction changes nothing. -/
def step (L : Ledger Pubkey) (input : Input Pubkey) : Option (Ledger Pubkey) := (execute P L input).toOption

end Program

end Wormhole.Solana.NftBridge

/-
# Wormhole.Solana.TokenBridge — the token bridge on Solana.

The instructions of `modules/token_bridge/program/src/api` that register an endpoint or execute a transfer or
an attestation, each with the peeling of its accounts and their persisting.  `attest_token`,
`transfer_native` and `transfer_wrapped` neither create nor write an account of the program; here they are among
what others do to the ledger, and `TokenTransfers` has them.  Upgrading the program is in `Upgrades`.

The SPL programs are parameters: what their accounts are unpacked to, and `invoke`.  So are the characters
that `bstr` finds in bytes that need not be UTF-8.
-/
import Mathlib
import Wormhole.Lib.Bytes
import Wormhole.Lib.Codec
import Wormhole.Solana.Payloads
import Wormhole.Solana.Solitaire
import Wormhole.Solana.Accounts
import Wormhole.Solana.Core

namespace Wormhole.Solana.TokenBridge

open Wormhole.Lib Wormhole.Lib.Bytes

/-- `TokenBridgeError`. -/
inductive TokenBridgeError where
  | AlreadyExecuted
  | InvalidChain
  | InvalidGovernanceKey
  | InvalidMetadata
  | InvalidMint
  | InvalidPayload
  | InvalidUTF8String
  | TokenNotNative
  | UninitializedMint
  | WrongAccountOwner
  | InvalidFee
  | InvalidRecipient
  deriving DecidableEq

def TokenBridgeError.into (e : TokenBridgeError) : SolitaireError := .custom e.ctorIdx

/-! ## SPL -/

/-- What the program reads of a mint. -/
structure SplMint where
  decimals : UInt8
  deriving DecidableEq

/-- `Mint::LEN` -/
def MINT_LEN : Nat := 82

/-- What the program reads of a token account. -/
structure SplAccount (Pubkey : Type) where
  mint : Pubkey
  owner : Pubkey
  deriving DecidableEq

/-- The data of a token's metadata. -/
structure SplData where
  name : List Char
  symbol : List Char
  uri : List Char
  sellerFeeBasisPoints : UInt16
  /-- the creators, as they stand in the account -/
  creators : List UInt8
  deriving DecidableEq

/-- The instructions that the program invokes. -/
inductive SplInstruction (Pubkey : Type) where
  | transfer (source destination authority : Pubkey) (amount : UInt64)
  | mintTo (mint destination authority : Pubkey) (amount : UInt64)
  | initializeMint (mint mintAuthority : Pubkey) (decimals : UInt8)
  | createMetadataAccounts (metadata mint mintAuthority payer updateAuthority : Pubkey)
      (name symbol : List Char)
  | updateMetadataAccounts (metadata updateAuthority : Pubkey) (data : SplData)

/-- The token bridge program, and what it uses. -/
structure TokenBridgeProgram (Pubkey : Type) extends Program Pubkey where
  /-- the core program -/
  bridgeAddress : Pubkey
  tokenProgram : Pubkey
  tokenMetadataProgram : Pubkey
  EMITTER_ADDRESS : FixedBytes 32
  unpackMint : List UInt8 → Result SplMint
  unpackAccount : List UInt8 → Result (SplAccount Pubkey)
  unpackMetadata : List UInt8 → Option SplData
  chars : List UInt8 → List Char
  /-- an instruction of an SPL program, with the address that the program signs for -/
  invoke : Ledger Pubkey → SplInstruction Pubkey → Option Pubkey → Result (Ledger Pubkey)
  programId_ne_token : programId ≠ tokenProgram

/-! ## Accounts -/

structure Config where
  wormholeBridge : FixedBytes 32
  deriving DecidableEq

def Config.codec : Borsh Config :=
  (Borsh.array 32).iso
    { toFun := fun a => ⟨a⟩
      invFun := Config.wormholeBridge
      left_inv := fun _ => rfl
      right_inv := fun _ => rfl }

instance : AccountData Config where
  serialize := Config.codec.write
  deserialize := Config.codec.decode .ioError
  default := ⟨zeros 32⟩

structure EndpointRegistration where
  chain : UInt16
  contract : FixedBytes 32
  deriving DecidableEq

def EndpointRegistration.codec : Borsh EndpointRegistration :=
  (Borsh.u16.pair (Borsh.array 32)).iso
    { toFun := fun p => ⟨p.1, p.2⟩
      invFun := fun e => (e.chain, e.contract)
      left_inv := fun _ => rfl
      right_inv := fun _ => rfl }

instance : AccountData EndpointRegistration where
  serialize := EndpointRegistration.codec.write
  deserialize := EndpointRegistration.codec.decode .ioError
  default := ⟨0, zeros 32⟩

structure WrappedMeta where
  chain : UInt16
  tokenAddress : FixedBytes 32
  originalDecimals : UInt8
  deriving DecidableEq

def WrappedMeta.codec : Borsh WrappedMeta :=
  (Borsh.u16.pair ((Borsh.array 32).pair Borsh.u8)).iso
    { toFun := fun p => ⟨p.1, p.2.1, p.2.2⟩
      invFun := fun w => (w.chain, w.tokenAddress, w.originalDecimals)
      left_inv := fun _ => rfl
      right_inv := fun _ => rfl }

instance : AccountData WrappedMeta where
  serialize := WrappedMeta.codec.write
  deserialize := WrappedMeta.codec.decode .ioError
  default := ⟨0, zeros 32, 0⟩

/-! ## Seeds -/

/-- "config" -/
def configSeed : List UInt8 := [0x63, 0x6f, 0x6e, 0x66, 0x69, 0x67]

/-- "custody_signer" -/
def custodySignerSeed : List UInt8 :=
  [0x63, 0x75, 0x73, 0x74, 0x6f, 0x64, 0x79, 0x5f, 0x73, 0x69, 0x67, 0x6e, 0x65, 0x72]

/-- "mint_signer" -/
def mintSignerSeed : List UInt8 := [0x6d, 0x69, 0x6e, 0x74, 0x5f, 0x73, 0x69, 0x67, 0x6e, 0x65, 0x72]

def custodySeeds (mint : FixedBytes 32) : List (List UInt8) := [mint.val]

/-- "wrapped", the token's chain and its address. -/
def wrappedSeeds (tokenChain : UInt16) (tokenAddress : FixedBytes 32) : List (List UInt8) :=
  [[0x77, 0x72, 0x61, 0x70, 0x70, 0x65, 0x64], beBytes 2 tokenChain.toNat, tokenAddress.val]

/-- "meta" and the mint. -/
def wrappedMetaSeeds (mintKey : FixedBytes 32) : List (List UInt8) := [[0x6d, 0x65, 0x74, 0x61], mintKey.val]

/-- The emitter's chain and its address. -/
def endpointSeeds (emitterChain : UInt16) (emitterAddress : FixedBytes 32) : List (List UInt8) :=
  [beBytes 2 emitterChain.toNat, emitterAddress.val]

/-- "metadata", the metadata program and the mint. -/
def splTokenMetaSeeds (program mint : FixedBytes 32) : List (List UInt8) :=
  [[0x6d, 0x65, 0x74, 0x61, 0x64, 0x61, 0x74, 0x61], program.val, mint.val]

/-! ## Accounts of the instructions -/

structure Initialize (Pubkey : Type) where
  payer : AccountMeta Pubkey
  config : AccountMeta Pubkey

structure InitializeData where
  bridge : FixedBytes 32

structure RegisterChain (Pubkey : Type) where
  payer : AccountMeta Pubkey
  config : AccountMeta Pubkey
  endpoint : AccountMeta Pubkey
  vaa : ClaimableVAA Pubkey

structure CompleteNative (Pubkey : Type) where
  payer : AccountMeta Pubkey
  config : AccountMeta Pubkey
  vaa : ClaimableVAA Pubkey
  chainRegistration : AccountMeta Pubkey
  to' : AccountMeta Pubkey
  toFees : AccountMeta Pubkey
  custody : AccountMeta Pubkey
  mint : AccountMeta Pubkey
  custodySigner : AccountMeta Pubkey

structure CompleteWrapped (Pubkey : Type) where
  payer : AccountMeta Pubkey
  config : AccountMeta Pubkey
  vaa : ClaimableVAA Pubkey
  chainRegistration : AccountMeta Pubkey
  to' : AccountMeta Pubkey
  toFees : AccountMeta Pubkey
  mint : AccountMeta Pubkey
  wrappedMeta : AccountMeta Pubkey
  mintAuthority : AccountMeta Pubkey

structure CreateWrapped (Pubkey : Type) where
  payer : AccountMeta Pubkey
  config : AccountMeta Pubkey
  chainRegistration : AccountMeta Pubkey
  vaa : ClaimableVAA Pubkey
  mint : AccountMeta Pubkey
  wrappedMeta : AccountMeta Pubkey
  splMetadata : AccountMeta Pubkey
  mintAuthority : AccountMeta Pubkey

section Program

variable {Pubkey : Type} (P : TokenBridgeProgram Pubkey)

/-! ## Attestations -/

/-- The characters of some bytes, without the unrecognised ones. -/
def recognised (data : List UInt8) : List Char := (P.chars data).filter (· ≠ '\uFFFD')

/-- `truncate_utf8`. -/
def truncateUtf8 (data : List UInt8) (len : Nat) : List Char := recognised P (data.take len)

/-- The bytes of a `String`. -/
def utf8 (s : List Char) : List UInt8 := s.flatMap String.utf8EncodeChar

structure PayloadAssetMeta where
  tokenAddress : FixedBytes 32
  tokenChain : Nat
  decimals : Nat
  symbol : List Char
  name : List Char
  deriving DecidableEq

def PayloadAssetMeta.deserialize : List UInt8 → Result PayloadAssetMeta :=
  Reader.decode do
    let id ← readU8
    Reader.check (id = 2) (.custom 0)
    let tokenAddress ← readExact 32
    let tokenChain ← readU16
    let decimals ← readU8
    let symbol ← readExact 32
    let name ← readExact 32
    atEnd
    return {
      tokenAddress
      tokenChain
      decimals
      symbol := recognised P (symbol.val.filter (· ≠ 0x00))
      name := recognised P (name.val.filter (· ≠ 0x00)) }

/-- " (Wormhole)" behind the name, truncated. -/
def normalizedName (vaa : PayloadAssetMeta) : List Char :=
  truncateUtf8 P (utf8 vaa.name) (32 - 11) ++ " (Wormhole)".toList

def normalizedSymbol (vaa : PayloadAssetMeta) : List Char := truncateUtf8 P (utf8 vaa.symbol) 10

/-! ## Instructions -/

variable [DecidableEq Pubkey]

def verifyGovernance (m : MessageData) : Result Unit :=
  ensure (P.EMITTER_ADDRESS = m.emitterAddress ∧ m.emitterChain.toNat = CHAIN_ID_SOLANA)
    TokenBridgeError.InvalidGovernanceKey.into

/-- The peel of `ConfigAccount`, initialized. -/
def peelConfig (L : Ledger Pubkey) (m : AccountMeta Pubkey) : Result Config := do
  peelDerive P.toProgram configSeed m
  peelData Config .initialized P.programId L true m

/-- The peel of `Endpoint`, initialized. -/
def peelEndpoint (L : Ledger Pubkey) (m : AccountMeta Pubkey) : Result EndpointRegistration :=
  peelData EndpointRegistration .initialized P.programId L true m

/-- The peel of `SplAccount`, initialized and mutable. -/
def peelSplAccount (L : Ledger Pubkey) (m : AccountMeta Pubkey) : Result (SplAccount Pubkey) := do
  peelMut m
  let a ← P.unpackAccount (L m.key).data
  ensure ((L m.key).owner = P.tokenProgram) .invalidOwner
  return a

/-- The peel of `SplMint`, initialized. -/
def peelSplMint (L : Ledger Pubkey) (immutable : Bool) (m : AccountMeta Pubkey) : Result SplMint := do
  peelInfo immutable m
  let mint ← P.unpackMint (L m.key).data
  ensure ((L m.key).owner = P.tokenProgram) .invalidOwner
  return mint

/-- The peel of `SplMint`, perhaps initialized. -/
def peelMaybeMint (L : Ledger Pubkey) (m : AccountMeta Pubkey) : Result SplMint :=
  if (L m.key).lamports = 0 then .ok ⟨0⟩ else peelSplMint P L false m

def initializeConfig (L : Ledger Pubkey) (accs : Initialize Pubkey) (data : InitializeData) :
    Result (Ledger Pubkey) := do
  peelMut accs.payer
  peelSigner accs.payer
  peelMut accs.config
  peelDerive P.toProgram configSeed accs.config
  let config ← peelData Config .uninitialized P.programId L false accs.config
  let L ← create P.toProgram L accs.payer accs.config [configSeed] config
  persist P.toProgram L accs.config { config with wormholeBridge := data.bridge }

def registerChain (L : Ledger Pubkey) (accs : RegisterChain Pubkey) : Result (Ledger Pubkey) := do
  peelMut accs.payer
  peelSigner accs.payer
  let _config ← peelConfig P L accs.config
  peelMut accs.endpoint
  let endpoint ← peelData EndpointRegistration .uninitialized P.programId L false accs.endpoint
  let vaa ← accs.vaa.peel P.toProgram P.bridgeAddress L PayloadGovernanceRegisterChain.deserialize
  let chain := UInt16.ofNat vaa.2.1.chain
  verifyDerivation P.toProgram (endpointSeeds chain vaa.2.1.endpointAddress) accs.endpoint
  -- claim VAA
  verifyGovernance P vaa.1
  accs.vaa.verify P.toProgram vaa.1
  let claimed ← accs.vaa.claimIt P.toProgram L accs.payer vaa.1 vaa.2.2
  -- create endpoint
  let L ← create P.toProgram claimed.1 accs.payer accs.endpoint (endpointSeeds chain vaa.2.1.endpointAddress)
    endpoint
  let L ← persist P.toProgram L accs.endpoint { endpoint with
    chain
    contract := vaa.2.1.endpointAddress }
  persist P.toProgram L accs.vaa.claim claimed.2

/-- Un-truncates an amount if the local token has more than 8 decimals; the product has 64 bits. -/
def untruncate (decimals : UInt8) (amount : UInt64) : UInt64 :=
  if 8 < decimals then amount * 10 ^ (decimals - 8).toNat else amount

/-- `amount.checked_sub(fee).unwrap()`. -/
def checkedSub (amount fee : UInt64) : Result UInt64 :=
  if fee ≤ amount then .ok (amount - fee) else .error .panicked

def completeNative (L : Ledger Pubkey) (accs : CompleteNative Pubkey) : Result (Ledger Pubkey) := do
  peelMut accs.payer
  peelSigner accs.payer
  let _config ← peelConfig P L accs.config
  let vaa ← accs.vaa.peel P.toProgram P.bridgeAddress L PayloadTransfer.deserialize
  let _endpoint ← peelEndpoint P L accs.chainRegistration
  let to' ← peelSplAccount P L accs.to'
  let toFees ← peelSplAccount P L accs.toFees
  let custody ← peelSplAccount P L accs.custody
  let mint ← peelSplMint P L true accs.mint
  peelDerive P.toProgram custodySignerSeed accs.custodySigner
  peelInfo true accs.custodySigner
  -- verify the chain registration
  verifyDerivation P.toProgram (endpointSeeds vaa.1.emitterChain vaa.1.emitterAddress) accs.chainRegistration
  -- verify that the custody account is derived correctly
  verifyDerivation P.toProgram (custodySeeds (P.toBytes accs.mint.key)) accs.custody
  -- verify mints
  ensure (accs.mint.key = to'.mint) TokenBridgeError.InvalidMint.into
  ensure (accs.mint.key = toFees.mint) TokenBridgeError.InvalidMint.into
  ensure (accs.mint.key = custody.mint) TokenBridgeError.InvalidMint.into
  ensure (accs.custodySigner.key = custody.owner) TokenBridgeError.WrongAccountOwner.into
  -- verify VAA
  ensure (vaa.2.1.tokenAddress = P.toBytes accs.mint.key) TokenBridgeError.InvalidMint.into
  ensure (vaa.2.1.tokenChain = 1) TokenBridgeError.InvalidChain.into
  ensure (vaa.2.1.toChain = CHAIN_ID_SOLANA) TokenBridgeError.InvalidChain.into
  ensure (vaa.2.1.to' = P.toBytes accs.to'.key) TokenBridgeError.InvalidRecipient.into
  -- prevent vaa double signing
  accs.vaa.verify P.toProgram vaa.1
  let claimed ← accs.vaa.claimIt P.toProgram L accs.payer vaa.1 vaa.2.2
  let amount ← asU64 vaa.2.1.amount
  let fee ← asU64 vaa.2.1.fee
  let amount := untruncate mint.decimals amount
  let fee := untruncate mint.decimals fee
  let paid ← checkedSub amount fee
  -- transfer tokens and fees
  let L ← P.invoke claimed.1 (.transfer accs.custody.key accs.to'.key accs.custodySigner.key paid)
    (some (P.derive [custodySignerSeed]))
  let L ← P.invoke L (.transfer accs.custody.key accs.toFees.key accs.custodySigner.key fee)
    (some (P.derive [custodySignerSeed]))
  persist P.toProgram L accs.vaa.claim claimed.2

def completeWrapped (L : Ledger Pubkey) (accs : CompleteWrapped Pubkey) : Result (Ledger Pubkey) := do
  peelMut accs.payer
  peelSigner accs.payer
  let _config ← peelConfig P L accs.config
  let vaa ← accs.vaa.peel P.toProgram P.bridgeAddress L PayloadTransfer.deserialize
  let _endpoint ← peelEndpoint P L accs.chainRegistration
  let to' ← peelSplAccount P L accs.to'
  let toFees ← peelSplAccount P L accs.toFees
  peelMut accs.mint
  let _mint ← peelSplMint P L false accs.mint
  let wrapped ← peelData WrappedMeta .initialized P.programId L true accs.wrappedMeta
  peelDerive P.toProgram mintSignerSeed accs.mintAuthority
  peelInfo true accs.mintAuthority
  -- verify the chain registration
  verifyDerivation P.toProgram (endpointSeeds vaa.1.emitterChain vaa.1.emitterAddress) accs.chainRegistration
  -- verify mint
  verifyDerivation P.toProgram (wrappedMetaSeeds (P.toBytes accs.mint.key)) accs.wrappedMeta
  ensure (wrapped.tokenAddress = vaa.2.1.tokenAddress ∧ wrapped.chain.toNat = vaa.2.1.tokenChain)
    TokenBridgeError.InvalidMint.into
  ensure (accs.mint.key = to'.mint) TokenBridgeError.InvalidMint.into
  ensure (accs.mint.key = toFees.mint) TokenBridgeError.InvalidMint.into
  -- verify VAA
  ensure (vaa.2.1.toChain = CHAIN_ID_SOLANA) TokenBridgeError.InvalidChain.into
  ensure (vaa.2.1.to' = P.toBytes accs.to'.key) TokenBridgeError.InvalidRecipient.into
  accs.vaa.verify P.toProgram vaa.1
  let claimed ← accs.vaa.claimIt P.toProgram L accs.payer vaa.1 vaa.2.2
  let amount ← asU64 vaa.2.1.amount
  let fee ← asU64 vaa.2.1.fee
  let paid ← checkedSub amount fee
  -- mint tokens and fees
  let L ← P.invoke claimed.1 (.mintTo accs.mint.key accs.to'.key accs.mintAuthority.key paid)
    (some (P.derive [mintSignerSeed]))
  let L ← P.invoke L (.mintTo accs.mint.key accs.toFees.key accs.mintAuthority.key fee)
    (some (P.derive [mintSignerSeed]))
  persist P.toProgram L accs.vaa.claim claimed.2

/-- `verify_derivation` of the metadata account, which is the metadata program's. -/
def verifySplMetadata (accs : CreateWrapped Pubkey) : Result Unit :=
  ensure ((P.findProgramAddress (splTokenMetaSeeds (P.toBytes P.tokenMetadataProgram)
    (P.toBytes accs.mint.key)) P.tokenMetadataProgram).1 = accs.splMetadata.key) .invalidDerive

/-- `create_accounts`; what the meta account is to hold comes back with the ledger. -/
def createAccounts (L : Ledger Pubkey) (accs : CreateWrapped Pubkey) (vaa : PayloadAssetMeta)
    (wrapped : WrappedMeta) : Result (Ledger Pubkey × WrappedMeta) := do
  let seeds := wrappedSeeds (UInt16.ofNat vaa.tokenChain) vaa.tokenAddress
  let L ← createAccount P.toProgram L accs.payer accs.mint (some (P.derive seeds)) (minimumBalance MINT_LEN)
    MINT_LEN P.tokenProgram
  -- limit to 8 decimals, truncation is handled on the other side
  let L ← P.invoke L (.initializeMint accs.mint.key accs.mintAuthority.key (UInt8.ofNat (min 8 vaa.decimals)))
    none
  let L ← create P.toProgram L accs.payer accs.wrappedMeta (wrappedMetaSeeds (P.toBytes accs.mint.key)) wrapped
  verifySplMetadata P accs
  let L ← P.invoke L (.createMetadataAccounts accs.splMetadata.key accs.mint.key accs.mintAuthority.key
    accs.payer.key accs.mintAuthority.key (normalizedName P vaa) (normalizedSymbol P vaa))
    (some (P.derive [mintSignerSeed]))
  return (L, { chain := UInt16.ofNat vaa.tokenChain
               tokenAddress := vaa.tokenAddress
               originalDecimals := UInt8.ofNat vaa.decimals })

/-- `Metadata::from_account_info`. -/
def readMetadata (L : Ledger Pubkey) (m : AccountMeta Pubkey) : Result SplData :=
  match P.unpackMetadata (L m.key).data with
  | some metadata => .ok metadata
  | none => .error TokenBridgeError.InvalidMetadata.into

/-- `update_accounts`. -/
def updateAccounts (L : Ledger Pubkey) (accs : CreateWrapped Pubkey) (vaa : PayloadAssetMeta)
    (wrapped : WrappedMeta) : Result (Ledger Pubkey × WrappedMeta) := do
  verifySplMetadata P accs
  let metadata ← readMetadata P L accs.splMetadata
  let L ← P.invoke L (.updateMetadataAccounts accs.splMetadata.key accs.mintAuthority.key { metadata with
    name := normalizedName P vaa
    symbol := normalizedSymbol P vaa }) (some (P.derive [mintSignerSeed]))
  return (L, wrapped)

def createOrUpdate (L : Ledger Pubkey) (accs : CreateWrapped Pubkey) (vaa : PayloadAssetMeta)
    (wrapped : WrappedMeta) : Result (Ledger Pubkey × WrappedMeta) :=
  if isInitialized L accs.mint then updateAccounts P L accs vaa wrapped else createAccounts P L accs vaa wrapped

def createWrapped (L : Ledger Pubkey) (accs : CreateWrapped Pubkey) : Result (Ledger Pubkey) := do
  peelMut accs.payer
  peelSigner accs.payer
  let _config ← peelConfig P L accs.config
  let _endpoint ← peelEndpoint P L accs.chainRegistration
  let vaa ← accs.vaa.peel P.toProgram P.bridgeAddress L (PayloadAssetMeta.deserialize P)
  peelMut accs.mint
  let _mint ← peelMaybeMint P L accs.mint
  peelMut accs.wrappedMeta
  let wrapped ← peelData WrappedMeta .maybeInitialized P.programId L false accs.wrappedMeta
  peelMut accs.splMetadata
  peelDerive P.toProgram mintSignerSeed accs.mintAuthority
  peelInfo true accs.mintAuthority
  -- do not process attestations sourced from the current chain
  ensure (vaa.2.1.tokenChain ≠ CHAIN_ID_SOLANA) TokenBridgeError.InvalidChain.into
  verifyDerivation P.toProgram (wrappedSeeds (UInt16.ofNat vaa.2.1.tokenChain) vaa.2.1.tokenAddress) accs.mint
  verifyDerivation P.toProgram (wrappedMetaSeeds (P.toBytes accs.mint.key)) accs.wrappedMeta
  verifyDerivation P.toProgram (endpointSeeds vaa.1.emitterChain vaa.1.emitterAddress) accs.chainRegistration
  accs.vaa.verify P.toProgram vaa.1
  let claimed ← accs.vaa.claimIt P.toProgram L accs.payer vaa.1 vaa.2.2
  let done ← createOrUpdate P claimed.1 accs vaa.2.1 wrapped
  let L ← persist P.toProgram done.1 accs.vaa.claim claimed.2
  persist P.toProgram L accs.wrappedMeta done.2

/-! ## Steps -/

/-- An instruction of the program, or what others do to the ledger. -/
inductive Input (Pubkey : Type) where
  | initializeConfig (accs : Initialize Pubkey) (data : InitializeData)
  | registerChain (accs : RegisterChain Pubkey)
  | completeNative (accs : CompleteNative Pubkey)
  | completeWrapped (accs : CompleteWrapped Pubkey)
  | createWrapped (accs : CreateWrapped Pubkey)
  | others (L : Ledger Pubkey)

def execute (L : Ledger Pubkey) : Input Pubkey → Result (Ledger Pubkey)
  | .initializeConfig accs data => initializeConfig P L accs data
  | .registerChain accs => registerChain P L accs
  | .completeNative accs => completeNative P L accs
  | .completeWrapped accs => completeWrapped P L accs
  | .createWrapped accs => createWrapped P L accs
  | .others L' => .ok L'

/-- A failed instruction changes nothing. -/
def step (L : Ledger Pubkey) (input : Input Pubkey) : Option (Ledger Pubkey) := (execute P L input).toOption

omit [DecidableEq Pubkey] in
/-- The accounts that an instruction names. -/
def Input.metas : Input Pubkey → List (AccountMeta Pubkey)
  | .initializeConfig a _ => [a.payer, a.config]
  | .registerChain a => [a.payer, a.config, a.endpoint, a.vaa.message, a.vaa.claim]
  | .completeNative a => [a.payer, a.config, a.vaa.message, a.vaa.claim, a.chainRegistration, a.to',
    a.toFees, a.custody, a.mint, a.custodySigner]
  | .completeWrapped a => [a.payer, a.config, a.vaa.message, a.vaa.claim, a.chainRegistration, a.to',
    a.toFees, a.mint, a.wrappedMeta, a.mintAuthority]
  | .createWrapped a => [a.payer, a.config, a.chainRegistration, a.vaa.message, a.vaa.claim, a.mint,
    a.wrappedMeta, a.splMetadata, a.mintAuthority]
  | .others _ => []

omit [DecidableEq Pubkey] in
/-- The seeds of the endpoint of a VAA's emitter. -/
def emitterDerives (L : Ledger Pubkey) (v : ClaimableVAA Pubkey) (seeds : List (List UInt8)) : Prop :=
  ∃ m, MessageData.deserialize (L v.message.key).data = .ok m ∧
    seeds = endpointSeeds m.emitterChain m.emitterAddress

omit [DecidableEq Pubkey] in
/-- The seeds of the derived accounts that an instruction names and that it executes its VAA with; the account of
the config is not among them. -/
def Input.Derives (L : Ledger Pubkey) : Input Pubkey → List (List UInt8) → Prop
  | .registerChain accs, seeds => accs.vaa.Derives L seeds ∨
    ∃ m p, MessageData.deserialize (L accs.vaa.message.key).data = .ok m ∧
      PayloadGovernanceRegisterChain.deserialize m.payload.val = .ok p ∧
      seeds = endpointSeeds (UInt16.ofNat p.chain) p.endpointAddress
  | .completeNative accs, seeds => accs.vaa.Derives L seeds ∨ emitterDerives L accs.vaa seeds
  | .completeWrapped accs, seeds => accs.vaa.Derives L seeds ∨ emitterDerives L accs.vaa seeds
  | .createWrapped accs, seeds => accs.vaa.Derives L seeds ∨ emitterDerives L accs.vaa seeds ∨
    seeds = wrappedMetaSeeds (P.toBytes accs.mint.key)
  | .initializeConfig _ _, _ | .others _, _ => False

/-- What the runtime promises of an input: nobody signs for an address of the program, and others do not
change its accounts.  What they give to it is at an address that can sign, and zero.  The seeds that come up are
among those in use. -/
structure Input.Admissible (used : Set (List (List UInt8))) (L : Ledger Pubkey) (input : Input Pubkey) : Prop where
  signers : ∀ m ∈ input.metas, m.isSigner = true → ¬P.IsDerived used m.key
  others : ∀ L', input = .others L' → ∀ k, Kept P.toProgram L L' k ∨
    (¬P.IsDerived used k ∧ (L k).owner ≠ P.programId ∧ ∃ n, (L' k).data = List.replicate n 0x00)
  seeds : ∀ seeds, input.Derives P L seeds → seeds ∈ used

/-- The SPL programs leave the accounts of the program alone. -/
def SplKeeps : Prop :=
  ∀ L ix signed L', P.invoke L ix signed = .ok L' → ∀ k, Kept P.toProgram L L' k

end Program

end Wormhole.Solana.TokenBridge

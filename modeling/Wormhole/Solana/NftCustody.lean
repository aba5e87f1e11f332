/-
# Wormhole.Solana.NftCustody — what the custody accounts of the NFT bridge hold.

A mint of Solana is published as one NFT: the token address is fixed, and the mint is the token id.  So of each
mint one unit may be in custody.  `transfer_native` takes a unit of whatever has metadata; it looks neither at
the supply of the mint nor at its decimals.  Of a mint with more than one unit a second one can be transferred
under the same token id, while the first is outside.

`NonFungible` is the condition that the mint has no more than one unit when it is transferred; under it a custody
account holds at most one, and at most one NFT of each token id is outside, `unique_run`.  Which NFT leaves and
which comes back is read off the messages: the one that a transfer has posted, and the one that a completion
redeems (`events`).
-/
import Mathlib
import Wormhole.Lib.Bytes
import Wormhole.Lib.Failing
import Wormhole.Lib.Transition
import Wormhole.Solana.Payloads
import Wormhole.Solana.Solitaire
import Wormhole.Solana.Accounts
import Wormhole.Solana.Core
import Wormhole.Solana.Instructions
import Wormhole.Solana.MessageIds
import Wormhole.Solana.Spl
import Wormhole.Solana.PlainTokens
import Wormhole.Solana.TokenBridge
import Wormhole.Solana.TokenTransfers
import Wormhole.Solana.NftBridge

namespace Wormhole.Solana.NftBridge

open Wormhole.Lib Wormhole.Lib.Bytes Wormhole.Lib.Transition
open Wormhole.Solana.TokenBridge (Config authoritySignerSeed configSeed custodySignerSeed custodySeeds emitterSeed
  padString postPayload splTokenMetaSeeds)

variable {Pubkey : Type} [DecidableEq Pubkey]

/-! ## The NFT of a message -/

/-- A token address and a token id. -/
abbrev Token := FixedBytes 32 × Nat

/-- The NFT of a transfer message: what `PayloadTransfer.deserialize` reads up to the token id. -/
def tokenOf : List UInt8 → Result Token :=
  Reader.decode do
    let id ← readU8
    Reader.check (id = 1) (.custom 0)
    let tokenAddress ← readExact 32
    let _tokenChain ← readU16
    let _symbol ← readExact 32
    let _name ← readExact 32
    let tokenId ← readU256
    return (tokenAddress, tokenId)

/-- The NFT of the message in an account, of one that was posted or of a VAA. -/
def messageToken (data : List UInt8) : Result Token := do
  let m ← MessageData.deserialize data
  tokenOf m.payload.val

omit [DecidableEq Pubkey] in
/-- The program reads the same NFT, with an id of 256 bits. -/
theorem tokenOf_of_deserialize {P : NftBridgeProgram Pubkey} {payload : List UInt8} {t : PayloadTransfer}
    (h : PayloadTransfer.deserialize P payload = .ok t) :
    tokenOf payload = .ok (t.tokenAddress, t.tokenId) ∧ t.tokenId < 256 ^ 32 := by
  obtain ⟨rest, h⟩ := Reader.decode_eq_ok.mp h
  obtain ⟨id, _, hid, h⟩ := Reader.bind_eq_ok.mp h
  obtain ⟨_, _, hcheck, h⟩ := Reader.bind_eq_ok.mp h
  obtain ⟨tokenAddress, _, haddress, h⟩ := Reader.bind_eq_ok.mp h
  obtain ⟨tokenChain, _, hchain, h⟩ := Reader.bind_eq_ok.mp h
  obtain ⟨symbol, _, hsymbol, h⟩ := Reader.bind_eq_ok.mp h
  obtain ⟨name, _, hname, h⟩ := Reader.bind_eq_ok.mp h
  obtain ⟨tokenId, left, htokenId, h⟩ := Reader.bind_eq_ok.mp h
  obtain ⟨uri, _, -, h⟩ := Reader.bind_eq_ok.mp h
  obtain ⟨to', _, -, h⟩ := Reader.bind_eq_ok.mp h
  obtain ⟨toChain, _, -, h⟩ := Reader.bind_eq_ok.mp h
  obtain ⟨_, _, -, h⟩ := Reader.bind_eq_ok.mp h
  obtain ⟨rfl, -⟩ := Reader.pure_eq_ok.mp h
  refine ⟨Reader.decode_eq_ok.mpr ⟨left, ?_⟩, (Reader.number_eq_ok.mp htokenId).1⟩
  refine Reader.bind_eq_ok.mpr ⟨id, _, hid, Reader.bind_eq_ok.mpr ⟨_, _, hcheck, ?_⟩⟩
  refine Reader.bind_eq_ok.mpr ⟨_, _, haddress, Reader.bind_eq_ok.mpr ⟨_, _, hchain, ?_⟩⟩
  refine Reader.bind_eq_ok.mpr ⟨_, _, hsymbol, Reader.bind_eq_ok.mpr ⟨_, _, hname, ?_⟩⟩
  exact Reader.bind_eq_ok.mpr ⟨_, _, htokenId, Reader.pure_eq_ok.mpr ⟨rfl, rfl⟩⟩

theorem padString_length {text : List Char} {bytes : List UInt8} (h : padString text = .ok bytes) :
    bytes.length = 32 := by
  unfold padString at h
  split at h
  · rename_i hle
    rw [← Except.ok.inj h, List.length_append, List.length_replicate]
    omega
  · cases h

/-- The NFT of a transfer that the program writes. -/
theorem tokenOf_serialize {t : PayloadTransfer} {bytes : List UInt8} (hchain : t.tokenChain < 256 ^ 2)
    (hid : t.tokenId < 256 ^ 32) (h : t.serialize = .ok bytes) :
    tokenOf bytes = .ok (t.tokenAddress, t.tokenId) := by
  obtain ⟨symbol, hsymbol, h⟩ := Failing.bind_eq_ok.mp h
  obtain ⟨name, hname, h⟩ := Failing.bind_eq_ok.mp h
  have hreadSymbol : ∀ rest, (readExact 32).run (symbol ++ rest) = .ok (⟨symbol, padString_length hsymbol⟩, rest) :=
    fun _ => Reader.array_append ⟨symbol, padString_length hsymbol⟩
  have hreadName : ∀ rest, (readExact 32).run (name ++ rest) = .ok (⟨name, padString_length hname⟩, rest) :=
    fun _ => Reader.array_append ⟨name, padString_length hname⟩
  have hreadAddress : ∀ rest, (readExact 32).run (t.tokenAddress.val ++ rest) = .ok (t.tokenAddress, rest) :=
    fun _ => Reader.array_append t.tokenAddress
  rw [← Except.ok.inj h]
  simp only [tokenOf, Reader.decode, List.append_assoc, readU8, readU16, readU256, Reader.bind_run,
    Failing.ok_bind, Reader.number_append (show 1 < 256 ^ 1 by decide), Reader.check_true, hreadAddress,
    Reader.number_append hchain, hreadSymbol, hreadName, Reader.number_append hid]
  rfl

/-! ## What is relied on -/

/-- Two accounts of a mint have no more than its supply. -/
def Conserved (S : Spl.TokenProgram Pubkey) (L : Ledger Pubkey) : Prop :=
  ∀ k k' a b m, k ≠ k' → Spl.account S L k = some a → Spl.account S L k' = some b → a.mint = b.mint →
    Spl.mint S L a.mint = some m → a.amount + b.amount ≤ m.supply

omit [DecidableEq Pubkey] in
/-- The seeds that the runs use: those of the two signers, and of the custody accounts of the known mints. -/
def seedsInUse (P : NftBridgeProgram Pubkey) (known : Set Pubkey) : Set (List (List UInt8)) :=
  {[authoritySignerSeed], [custodySignerSeed]} ∪ (fun mint => custodySeeds (P.toBytes mint)) '' known

/-- What the programs that are called document. -/
structure Lawful (P : NftBridgeProgram Pubkey) (known : Set Pubkey) : Prop where
  spl : Spl.Lawful P.toTokenProgram
  /-- an account remains of the mint that it was initialized for -/
  mints : ∀ {L ix signed L'}, P.invoke L ix signed = .ok L' →
    ∀ {k a'}, Spl.account P.toTokenProgram L' k = some a' →
      (∃ a, Spl.account P.toTokenProgram L k = some a ∧ a'.mint = a.mint) ∨
        ∃ owner, ix = .initializeAccount k a'.mint owner
  /-- a transfer is between accounts of one mint -/
  sameMint : ∀ {L source destination authority amount signed L'},
    P.invoke L (.transfer source destination authority amount) signed = .ok L' →
      ∃ a b, Spl.account P.toTokenProgram L source = some a ∧
        Spl.account P.toTokenProgram L destination = some b ∧ a.mint = b.mint
  /-- an associated account is another program's address, and the only one that is written -/
  associated : ∀ {L payer wallet mint L'}, P.createAssociated L payer wallet mint = .ok L' →
    ∀ k, k ≠ P.associatedAddress wallet mint → Spl.SameTokens P.toTokenProgram L L' k
  associated_foreign : ∀ wallet mint, ¬P.IsDerived (seedsInUse P known) (P.associatedAddress wallet mint)
  /-- posting a message moves no tokens -/
  post : ∀ {L program accs data signed L'}, P.invokePostMessage L program accs data signed = .ok L' →
    ∀ k, Spl.SameTokens P.toTokenProgram L L' k
  /-- and leaves the message in its account -/
  posted : ∀ {L program accs data signed L'}, P.invokePostMessage L program accs data signed = .ok L' →
    ∃ m, MessageData.deserialize (L' accs.message.key).data = .ok m ∧ m.payload = data.payload

/-! ## Custody -/

section Custody

variable (P : NftBridgeProgram Pubkey)

/-- The custody account of a mint. -/
def custodyKey (mint : Pubkey) : Pubkey := P.derive (custodySeeds (P.toBytes mint))

/-- The address that disposes of the custody accounts. -/
def custodySigner : Pubkey := P.derive [custodySignerSeed]

/-- The NFT that a mint is published as. -/
def mintToken (mint : Pubkey) : Token := (nativeAddress, beNat (P.toBytes mint).val)

/-- The units of a mint in custody. -/
def held (L : Ledger Pubkey) (mint : Pubkey) : Nat := Spl.balance P.toTokenProgram L (custodyKey P mint)

omit [DecidableEq Pubkey] in
/-- An NFT has left Solana, or has come back. -/
inductive Event where
  | transferred (token : Token)
  | completed (token : Token)
  deriving DecidableEq

/-- What an input that succeeds publishes or redeems: the NFT of the message that it has posted, or of the VAA. -/
def events (L : Ledger Pubkey) : Input Pubkey → List Event
  | .transferNative accs data =>
    match transferNative P L accs data >>= fun L' => messageToken (L' accs.core.message.key).data with
    | .ok token => [.transferred token]
    | .error _ => []
  | .completeNative accs =>
    match messageToken (L accs.vaa.message.key).data with
    | .ok token => [.completed token]
    | .error _ => []
  | _ => []

variable (known : Set Pubkey)

/-- The runs that are considered: transfers and completions of known mints, while the token program keeps its
books, and whatever others do that leaves the tokens at addresses of the program alone. -/
def Input.Allowed (L : Ledger Pubkey) : Input Pubkey → Prop
  | .transferNative accs _ => accs.mint.key ∈ known ∧ Conserved P.toTokenProgram L
  | .completeNative accs => accs.mint.key ∈ known
  | .others L' => ∀ k, P.IsDerived (seedsInUse P known) k → Spl.SameTokens P.toTokenProgram L L' k
  | _ => False

/-- No more than one unit of the mint exists when it is transferred. -/
def Input.NonFungible (L : Ledger Pubkey) : Input Pubkey → Prop
  | .transferNative accs _ => Spl.supply P.toTokenProgram L accs.mint.key ≤ 1
  | _ => True

/-- An NFT is outside at most once. -/
structure Unique (s : Ledger Pubkey × List Event) : Prop where
  custody : ∀ mint ∈ known, held P s.1 mint ≤ 1
  outside : ∀ token, s.2.count (.transferred token) ≤ s.2.count (.completed token) + 1

/-- The custody accounts are the program's, each of its mint. -/
structure Sealed (L : Ledger Pubkey) : Prop where
  guarded : ∀ mint ∈ known, Spl.Guarded P.toTokenProgram L (custodyKey P mint) (custodySigner P)
  typed : ∀ mint ∈ known, ∀ a, Spl.account P.toTokenProgram L (custodyKey P mint) = some a → a.mint = mint

/-- The invariant: the sealed custody accounts have what is outside. -/
structure Custodial (s : Ledger Pubkey × List Event) : Prop extends Sealed P known s.1 where
  single : ∀ mint ∈ known, held P s.1 mint ≤ 1
  outside : ∀ mint ∈ known, s.2.count (.transferred (mintToken P mint)) ≤
    held P s.1 mint + s.2.count (.completed (mintToken P mint))
  published : ∀ token, .transferred token ∈ s.2 → ∃ mint ∈ known, token = mintToken P mint

end Custody

variable {P : NftBridgeProgram Pubkey} {known : Set Pubkey} {L L' : Ledger Pubkey}

omit [DecidableEq Pubkey] in
theorem custodyKey_injOn (hfree : P.CollisionFree (seedsInUse P known)) (hbytes : Set.InjOn P.toBytes known)
    {mint mint' : Pubkey} (hmint : mint ∈ known) (hmint' : mint' ∈ known)
    (h : custodyKey P mint = custodyKey P mint') :
    mint = mint' := by
  apply hbytes hmint hmint'
  have hflat : (custodySeeds (P.toBytes mint)).flatten = (custodySeeds (P.toBytes mint')).flatten :=
    hfree.derive _ (.inr ⟨mint, hmint, rfl⟩) _ (.inr ⟨mint', hmint', rfl⟩) h
  rw [custodySeeds, custodySeeds, List.flatten_cons, List.flatten_nil, List.append_nil, List.flatten_cons,
    List.flatten_nil, List.append_nil] at hflat
  exact Subtype.ext hflat

omit [DecidableEq Pubkey] in
theorem custodyKey_isDerived {mint : Pubkey} (hmint : mint ∈ known) :
    P.IsDerived (seedsInUse P known) (custodyKey P mint) := ⟨_, .inr ⟨mint, hmint, rfl⟩, rfl⟩

omit [DecidableEq Pubkey] in
theorem authority_ne_custodySigner (hfree : P.CollisionFree (seedsInUse P known)) :
    P.derive [authoritySignerSeed] ≠ custodySigner P :=
  hfree.ne (.inl (.inl rfl)) (.inl (.inr rfl)) (by decide)

omit [DecidableEq Pubkey] in
theorem beBytes_mint (mint : Pubkey) : beBytes 32 (beNat (P.toBytes mint).val) = (P.toBytes mint).val := by
  have h := beBytes_beNat (P.toBytes mint).val
  rwa [(P.toBytes mint).property] at h

omit [DecidableEq Pubkey] in
/-- Mints are told apart by the NFTs that they are published as. -/
theorem mintToken_injOn (hbytes : Set.InjOn P.toBytes known) {mint mint' : Pubkey} (hmint : mint ∈ known)
    (hmint' : mint' ∈ known) (h : mintToken P mint = mintToken P mint') : mint = mint' := by
  apply hbytes hmint hmint'
  apply Subtype.ext
  rw [← beBytes_mint (P := P) mint, ← beBytes_mint (P := P) mint']
  exact congrArg (fun token => beBytes 32 token.2) h

theorem Custodial.unique {s : Ledger Pubkey × List Event} (h : Custodial P known s) : Unique P known s where
  custody := h.single
  outside token := by
    by_cases htoken : Event.transferred token ∈ s.2
    · obtain ⟨mint, hmint, rfl⟩ := h.published token htoken
      have hone := h.single mint hmint
      have houtside := h.outside mint hmint
      omega
    · rw [List.count_eq_zero_of_not_mem htoken]
      exact Nat.zero_le _

/-! ## What the instructions do -/

section Instructions

/-- Claiming a VAA moves no tokens. -/
theorem claimIt_sameTokens {Q : Program Pubkey} {S : Spl.TokenProgram Pubkey} (hS : Spl.Lawful S)
    (hne : Q.systemProgram ≠ S.tokenProgram) {v : ClaimableVAA Pubkey} {payer : AccountMeta Pubkey} {m : MessageData}
    {claim : ClaimData} {r : Ledger Pubkey × ClaimData} (h : v.claimIt Q L payer m claim = .ok r) (k : Pubkey) :
    Spl.SameTokens S L r.1 k := by
  obtain ⟨_, -, h⟩ := Failing.bind_eq_ok.mp h
  obtain ⟨L₀, hcreate, h⟩ := Failing.bind_eq_ok.mp h
  rw [← Except.ok.inj h]
  exact Spl.createAccount_sameTokens hS hne hcreate k

/-- Opening a custody account moves no tokens, and only the account is new. -/
theorem openCustody_eq_ok (hlaw : Lawful P known) {accs : TransferNative Pubkey}
    (h : openCustody P L accs = .ok L') :
    (∀ k, Spl.balance P.toTokenProgram L' k = Spl.balance P.toTokenProgram L k) ∧
      ∀ k a, Spl.account P.toTokenProgram L' k = some a → Spl.account P.toTokenProgram L k = some a ∨
        (k = accs.custody.key ∧ a = ⟨accs.mint.key, accs.custodySigner.key, none, 0⟩) := by
  unfold openCustody at h
  split at h
  · rw [← Except.ok.inj h]
    exact ⟨fun _ => rfl, fun _ _ ha => .inl ha⟩
  · obtain ⟨L₁, hcreate, hinit⟩ := Failing.bind_eq_ok.mp h
    obtain ⟨⟨amount, haccount, hempty⟩, hothers⟩ := hlaw.spl.initializeAccount hinit
    obtain rfl : amount = 0 := hempty (createAccount_lamports hcreate)
    have hsame : ∀ k, k ≠ accs.custody.key → Spl.SameTokens P.toTokenProgram L L' k := by
      intro k hk
      exact (Spl.createAccount_sameTokens hlaw.spl P.systemProgram_ne_token hcreate k).trans (hothers k hk)
    -- there was nothing at the address
    have hnone : Spl.account P.toTokenProgram L accs.custody.key = none := by
      apply if_neg
      rw [(createAccount_eq_ok hcreate).free]
      exact P.systemProgram_ne_token
    constructor
    · intro k
      by_cases hk : k = accs.custody.key
      · rw [hk, Spl.balance, Spl.balance, haccount, hnone]
        rfl
      · exact (hsame k hk).balance
    · intro k a ha
      by_cases hk : k = accs.custody.key
      · rw [hk, haccount] at ha
        exact .inr ⟨hk, (Option.some.inj ha).symm⟩
      · exact .inl ((hsame k hk).1.symm.trans ha)

/-- The message that is posted is of the NFT in the payload. -/
theorem postTransfer_messageToken (hlaw : Lawful P known) {config : Config} {payer : AccountMeta Pubkey}
    {accs : TokenBridge.CoreAccounts Pubkey} {nonce : UInt32} {t : PayloadTransfer} (hchain : t.tokenChain < 256 ^ 2)
    (hid : t.tokenId < 256 ^ 32) (h : postTransfer P L config payer accs nonce t = .ok L') :
    messageToken (L' accs.message.key).data = .ok (t.tokenAddress, t.tokenId) := by
  obtain ⟨bytes, hbytes, h⟩ := Failing.bind_eq_ok.mp h
  obtain ⟨payload, hvec, hpost⟩ := Failing.bind_eq_ok.mp h
  obtain ⟨m, hm, hsame⟩ := hlaw.posted hpost
  refine Failing.bind_eq_ok.mpr ⟨m, hm, ?_⟩
  rw [hsame, toVec_eq_ok hvec]
  exact tokenOf_serialize hchain hid hbytes

/-- A transfer: the custody account is opened, a unit moves into it, and the message is of the mint's NFT. -/
theorem transferNative_eq_ok (hlaw : Lawful P known) {accs : TransferNative Pubkey} {data : TransferData}
    (h : transferNative P L accs data = .ok L') :
    accs.custody.key = custodyKey P accs.mint.key ∧ accs.custodySigner.key = custodySigner P ∧
      accs.authoritySigner.key = P.derive [authoritySignerSeed] ∧
      ∃ a m L₁ L₂, Spl.account P.toTokenProgram L accs.from'.key = some a ∧ a.mint = accs.mint.key ∧
        Spl.mint P.toTokenProgram L accs.mint.key = some m ∧ openCustody P L accs = .ok L₁ ∧
        P.invoke L₁ (.transfer accs.from'.key accs.custody.key accs.authoritySigner.key 1)
          (some (P.derive [authoritySignerSeed])) = .ok L₂ ∧
        (∀ k, Spl.SameTokens P.toTokenProgram L₂ L' k) ∧
        messageToken (L' accs.core.message.key).data = .ok (mintToken P accs.mint.key) := by
  obtain ⟨_, -, h⟩ := Failing.bind_eq_ok.mp h
  obtain ⟨config, -, h⟩ := Failing.bind_eq_ok.mp h
  obtain ⟨_, -, h⟩ := Failing.bind_eq_ok.mp h
  obtain ⟨a, ha, h⟩ := Failing.bind_eq_ok.mp h
  obtain ⟨_, -, h⟩ := Failing.bind_eq_ok.mp h
  obtain ⟨m, hm, h⟩ := Failing.bind_eq_ok.mp h
  obtain ⟨_, -, h⟩ := Failing.bind_eq_ok.mp h
  obtain ⟨_, -, h⟩ := Failing.bind_eq_ok.mp h
  obtain ⟨_, hauthority, h⟩ := Failing.bind_eq_ok.mp h
  obtain ⟨_, hsigner, h⟩ := Failing.bind_eq_ok.mp h
  obtain ⟨bridge, -, h⟩ := Failing.bind_eq_ok.mp h
  obtain ⟨_, hcustody, h⟩ := Failing.bind_eq_ok.mp h
  obtain ⟨_, -, h⟩ := Failing.bind_eq_ok.mp h
  obtain ⟨_, hmint, h⟩ := Failing.bind_eq_ok.mp h
  obtain ⟨_, -, h⟩ := Failing.bind_eq_ok.mp h
  obtain ⟨_, -, h⟩ := Failing.bind_eq_ok.mp h
  obtain ⟨L₁, hopen, h⟩ := Failing.bind_eq_ok.mp h
  obtain ⟨L₂, hinvoke, h⟩ := Failing.bind_eq_ok.mp h
  obtain ⟨L₃, hfee, h⟩ := Failing.bind_eq_ok.mp h
  obtain ⟨metadata, -, hpost⟩ := Failing.bind_eq_ok.mp h
  have hid : beNat (P.toBytes accs.mint.key).val < 256 ^ 32 := by
    have hlt := beNat_lt (P.toBytes accs.mint.key).val
    rwa [(P.toBytes accs.mint.key).property] at hlt
  have htoken := postTransfer_messageToken hlaw (show 1 < 256 ^ 2 by decide) hid hpost
  obtain ⟨bytes, -, hpost⟩ := Failing.bind_eq_ok.mp hpost
  obtain ⟨payload, -, hpost⟩ := Failing.bind_eq_ok.mp hpost
  obtain ⟨_, hauthorityKey, -⟩ := Failing.bind_eq_ok.mp hauthority
  obtain ⟨_, hsignerKey, -⟩ := Failing.bind_eq_ok.mp hsigner
  rw [peelDerive, ensure_eq_ok] at hauthorityKey hsignerKey
  rw [verifyDerivation, ensure_eq_ok] at hcustody
  refine ⟨hcustody.symm, hsignerKey.symm, hauthorityKey.symm, a, m, L₁, L₂, Spl.peelAccount_eq_ok ha,
    ensure_eq_ok.mp hmint, Spl.peelMint_eq_ok hm, hopen, hinvoke, ?_, htoken⟩
  intro k
  exact (Spl.transfer_sameTokens hfee k).trans (hlaw.post hpost k)

/-- A completion: a unit moves out of the custody account, and the VAA is of the mint's NFT. -/
theorem completeNative_eq_ok (hlaw : Lawful P known) {accs : CompleteNative Pubkey}
    (h : completeNative P L accs = .ok L') :
    accs.custody.key = custodyKey P accs.mint.key ∧
      messageToken (L accs.vaa.message.key).data = .ok (mintToken P accs.mint.key) ∧
      ∃ a L₁ L₂, Spl.account P.toTokenProgram L accs.custody.key = some a ∧ a.mint = accs.mint.key ∧
        (∀ k, P.IsDerived (seedsInUse P known) k → Spl.SameTokens P.toTokenProgram L L₁ k) ∧
        P.invoke L₁ (.transfer accs.custody.key accs.to'.key accs.custodySigner.key 1)
          (some (P.derive [custodySignerSeed])) = .ok L₂ ∧
        ∀ k, Spl.SameTokens P.toTokenProgram L₂ L' k := by
  obtain ⟨_, -, h⟩ := Failing.bind_eq_ok.mp h
  obtain ⟨config, -, h⟩ := Failing.bind_eq_ok.mp h
  obtain ⟨vaa, hvaa, h⟩ := Failing.bind_eq_ok.mp h
  obtain ⟨endpoint, -, h⟩ := Failing.bind_eq_ok.mp h
  obtain ⟨to', -, h⟩ := Failing.bind_eq_ok.mp h
  obtain ⟨_, -, h⟩ := Failing.bind_eq_ok.mp h
  obtain ⟨a, ha, h⟩ := Failing.bind_eq_ok.mp h
  obtain ⟨mint, -, h⟩ := Failing.bind_eq_ok.mp h
  obtain ⟨_, -, h⟩ := Failing.bind_eq_ok.mp h
  obtain ⟨_, -, h⟩ := Failing.bind_eq_ok.mp h
  obtain ⟨_, hcustody, h⟩ := Failing.bind_eq_ok.mp h
  obtain ⟨_, hmint, h⟩ := Failing.bind_eq_ok.mp h
  obtain ⟨_, -, h⟩ := Failing.bind_eq_ok.mp h
  obtain ⟨_, haddress, h⟩ := Failing.bind_eq_ok.mp h
  obtain ⟨_, htokenId, h⟩ := Failing.bind_eq_ok.mp h
  iterate 4 obtain ⟨_, -, h⟩ := Failing.bind_eq_ok.mp h
  obtain ⟨claimed, hclaim, h⟩ := Failing.bind_eq_ok.mp h
  obtain ⟨L₁, hopen, h⟩ := Failing.bind_eq_ok.mp h
  obtain ⟨L₂, hinvoke, hpersist⟩ := Failing.bind_eq_ok.mp h
  rw [verifyDerivation, ensure_eq_ok] at hcustody
  have hclaimed := claimIt_sameTokens hlaw.spl P.systemProgram_ne_token hclaim
  have htoken : messageToken (L accs.vaa.message.key).data = .ok (mintToken P accs.mint.key) := by
    obtain ⟨⟨posted, hread, hmessage⟩, -, hpayload, -, -⟩ := ClaimableVAA.peel_eq_ok hvaa
    obtain ⟨m, hm, rfl⟩ := Failing.map_eq_ok.mp hread
    obtain ⟨htokenOf, hlt⟩ := tokenOf_of_deserialize hpayload
    refine Failing.bind_eq_ok.mpr ⟨m, hm, ?_⟩
    rw [show m = vaa.1 from hmessage, htokenOf, mintToken, ensure_eq_ok.mp haddress, ← ensure_eq_ok.mp htokenId,
      beNat_beBytes hlt]
  refine ⟨hcustody.symm, htoken, a, L₁, L₂, Spl.peelAccount_eq_ok ha, (ensure_eq_ok.mp hmint).symm, ?_, hinvoke,
    Spl.persist_sameTokens P.programId_ne_token hpersist⟩
  intro k hk
  unfold openRecipient at hopen
  split at hopen
  · obtain ⟨_, -, hopen⟩ := Failing.bind_eq_ok.mp hopen
    rw [← Except.ok.inj hopen]
    exact hclaimed k
  · obtain ⟨_, -, hopen⟩ := Failing.bind_eq_ok.mp hopen
    refine (hclaimed k).trans (hlaw.associated hopen k ?_)
    rintro rfl
    exact hlaw.associated_foreign _ _ hk

end Instructions

/-! ## The seal -/

section Seal

theorem Sealed.of_same (h : Sealed P known L)
    (hsame : ∀ k, P.IsDerived (seedsInUse P known) k → Spl.SameTokens P.toTokenProgram L L' k) :
    Sealed P known L' where
  guarded mint hmint := (hsame _ (custodyKey_isDerived hmint)).guarded (h.guarded mint hmint)
  typed mint hmint a ha := h.typed mint hmint a ((hsame _ (custodyKey_isDerived hmint)).1.symm.trans ha)

theorem Sealed.open (h : Sealed P known L) (hlaw : Lawful P known) (hfree : P.CollisionFree (seedsInUse P known))
    (hbytes : Set.InjOn P.toBytes known) {accs : TransferNative Pubkey} (hmint : accs.mint.key ∈ known)
    (hcustody : accs.custody.key = custodyKey P accs.mint.key) (hsigner : accs.custodySigner.key = custodySigner P)
    (hopen : openCustody P L accs = .ok L') : Sealed P known L' := by
  have haccounts := (openCustody_eq_ok hlaw hopen).2
  constructor
  · intro mint hknown a ha
    rcases haccounts _ a ha with hold | ⟨-, rfl⟩
    · exact h.guarded mint hknown a hold
    · exact ⟨hsigner, rfl⟩
  · intro mint hknown a ha
    rcases haccounts _ a ha with hold | ⟨hkey, rfl⟩
    · exact h.typed mint hknown a hold
    · exact (custodyKey_injOn hfree hbytes hknown hmint (hkey.trans hcustody)).symm

/-- A transfer leaves each account to its owner, and of its mint. -/
theorem Sealed.transfer (h : Sealed P known L) (hlaw : Lawful P known) {source destination authority : Pubkey}
    {amount : UInt64} {signed : Option Pubkey}
    (hinvoke : P.invoke L (.transfer source destination authority amount) signed = .ok L') :
    Sealed P known L' := by
  constructor
  · intro mint hknown
    apply hlaw.spl.guarded hinvoke (h.guarded mint hknown)
    intro _ _ hix
    cases hix
  · intro mint hknown a' ha'
    rcases hlaw.mints hinvoke ha' with ⟨a, ha, hsame⟩ | ⟨owner, hix⟩
    · exact hsame.trans (h.typed mint hknown a ha)
    · cases hix

end Seal

/-! ## Steps -/

section Steps

variable {log : List Event}

/-- What is transferred by the authority goes to the custody account of the mint, and nowhere else. -/
theorem Sealed.held_pull (h : Sealed P known L) (hlaw : Lawful P known) (hfree : P.CollisionFree (seedsInUse P known))
    (hbytes : Set.InjOn P.toBytes known) {mint source : Pubkey} (hmint : mint ∈ known) {signed : Option Pubkey}
    (hinvoke : P.invoke L (.transfer source (custodyKey P mint) (P.derive [authoritySignerSeed]) 1) signed =
      .ok L') :
    held P L' mint = held P L mint + 1 ∧ ∀ mint' ∈ known, mint' ≠ mint → held P L' mint' = held P L mint' := by
  have hne := authority_ne_custodySigner hfree
  refine ⟨Spl.Guarded.pull_eq hlaw.spl (h.guarded mint hmint) hne hinvoke, ?_⟩
  intro mint' hmint' hother
  obtain ⟨⟨a, ha, hauth, -⟩, -, -, hothers, -⟩ := hlaw.spl.transfer hinvoke
  apply hothers
  · exact (h.guarded mint' hmint').ne_source ha hauth hne
  · intro hkey
    exact hother (custodyKey_injOn hfree hbytes hmint' hmint hkey)

/-- A unit of a mint with no more is not in custody while somebody has it. -/
theorem Sealed.held_eq_zero (h : Sealed P known L) (hfree : P.CollisionFree (seedsInUse P known))
    (hbook : Conserved P.toTokenProgram L) {mint source : Pubkey} (hmint : mint ∈ known)
    (hsupply : Spl.supply P.toTokenProgram L mint ≤ 1) {m : Spl.Mint Pubkey}
    (hm : Spl.mint P.toTokenProgram L mint = some m) {a : Spl.Account Pubkey}
    (ha : Spl.account P.toTokenProgram L source = some a) (hof : a.mint = mint)
    (hauth : a.Authorises (P.derive [authoritySignerSeed])) (hamount : 1 ≤ a.amount) : held P L mint = 0 := by
  have hne := authority_ne_custodySigner hfree
  have hsource := (h.guarded mint hmint).ne_source ha hauth hne
  rw [Spl.supply, hm] at hsupply
  rw [held, Spl.balance]
  cases hb : Spl.account P.toTokenProgram L (custodyKey P mint) with
  | none => rfl
  | some b =>
    have hsum := hbook source _ a b m hsource.symm ha hb (hof.trans (h.typed mint hmint b hb).symm)
      (hof.symm ▸ hm)
    have htotal : a.amount + b.amount ≤ 1 := hsum.trans hsupply
    show b.amount = 0
    omega

theorem Custodial.transferNative (hc : Custodial P known (L, log)) (hlaw : Lawful P known)
    (hfree : P.CollisionFree (seedsInUse P known)) (hbytes : Set.InjOn P.toBytes known)
    {accs : TransferNative Pubkey} {data : TransferData} (hmint : accs.mint.key ∈ known)
    (hbook : Conserved P.toTokenProgram L) (hsupply : Spl.supply P.toTokenProgram L accs.mint.key ≤ 1)
    (h : NftBridge.transferNative P L accs data = .ok L') :
    Custodial P known (L', log ++ [.transferred (mintToken P accs.mint.key)]) := by
  obtain ⟨hcustody, hsigner, hauthority, a, m, L₁, L₂, ha, hof, hm, hopen, hinvoke, hsame, -⟩ :=
    transferNative_eq_ok hlaw h
  obtain ⟨hbalance, haccounts⟩ := openCustody_eq_ok hlaw hopen
  rw [hcustody, hauthority] at hinvoke
  have hseal₁ := hc.toSealed.open hlaw hfree hbytes hmint hcustody hsigner hopen
  -- who gives the unit has had it before
  obtain ⟨⟨a', ha', hauth, hamount⟩, -⟩ := hlaw.spl.transfer hinvoke
  have hzero : held P L accs.mint.key = 0 := by
    rcases haccounts _ a' ha' with hold | ⟨-, rfl⟩
    · obtain rfl := Option.some.inj (hold.symm.trans ha)
      exact hc.toSealed.held_eq_zero hfree hbook hmint hsupply hm ha hof hauth hamount
    · exact absurd hamount (Nat.not_succ_le_zero 0)
  obtain ⟨hpull, hothers⟩ := hseal₁.held_pull hlaw hfree hbytes hmint hinvoke
  have hafter : ∀ mint, held P L' mint = held P L₂ mint := fun _ => (hsame _).balance
  have hbefore : ∀ mint, held P L₁ mint = held P L mint := fun _ => hbalance _
  have hone : held P L' accs.mint.key = 1 := by rw [hafter, hpull, hbefore, hzero]
  have hrest : ∀ mint ∈ known, mint ≠ accs.mint.key → held P L' mint = held P L mint := by
    intro mint hknown hne
    rw [hafter, hothers mint hknown hne, hbefore]
  refine ⟨(hseal₁.transfer hlaw hinvoke).of_same fun k _ => hsame k, ?_, ?_, ?_⟩
  · intro mint hknown
    by_cases hcase : mint = accs.mint.key
    · exact (congrArg _ hcase).trans_le hone.le
    · exact (hrest mint hknown hcase).trans_le (hc.single mint hknown)
  · intro mint hknown
    have houtside : log.count _ ≤ held P L mint + log.count _ := hc.outside mint hknown
    show (log ++ [_]).count _ ≤ held P L' mint + (log ++ [_]).count _
    rw [List.count_append, List.count_append]
    by_cases hcase : mint = accs.mint.key
    · subst hcase
      rw [hzero] at houtside
      rw [List.count_singleton_self, hone]
      omega
    · have hid : mintToken P mint ≠ mintToken P accs.mint.key :=
        fun hid => hcase (mintToken_injOn hbytes hknown hmint hid)
      have hno : [Event.transferred (mintToken P accs.mint.key)].count (.transferred (mintToken P mint)) = 0 :=
        List.count_eq_zero_of_not_mem fun hmem => hid (Event.transferred.inj (List.mem_singleton.mp hmem))
      rw [hno, hrest mint hknown hcase]
      exact houtside.trans (Nat.add_le_add_left (Nat.le_add_right _ _) _)
  · intro token htoken
    rcases List.mem_append.mp htoken with hold | hnew
    · exact hc.published token hold
    · exact ⟨_, hmint, Event.transferred.inj (List.mem_singleton.mp hnew)⟩

theorem Custodial.completeNative (hc : Custodial P known (L, log)) (hlaw : Lawful P known)
    {accs : CompleteNative Pubkey} (hmint : accs.mint.key ∈ known) (h : NftBridge.completeNative P L accs = .ok L') :
    Custodial P known (L', log ++ [.completed (mintToken P accs.mint.key)]) := by
  obtain ⟨hcustody, -, a, L₁, L₂, ha, hof, hopened, hinvoke, hsame⟩ := completeNative_eq_ok hlaw h
  rw [hcustody] at hinvoke ha
  have hseal₁ := hc.toSealed.of_same hopened
  have hafter : ∀ mint, held P L' mint = held P L₂ mint := fun _ => (hsame _).balance
  have hbefore : ∀ mint ∈ known, held P L₁ mint = held P L mint :=
    fun _ hmint => (hopened _ (custodyKey_isDerived hmint)).balance
  have hpush : held P L accs.mint.key ≤ held P L' accs.mint.key + 1 := by
    rw [hafter, ← hbefore _ hmint]
    exact hlaw.spl.push_le hinvoke
  -- the recipient is an account of the same mint, so it is nobody else's custody account
  have hle : ∀ mint ∈ known, held P L' mint ≤ held P L mint ∧
      (mint ≠ accs.mint.key → held P L' mint = held P L mint) := by
    intro mint hknown
    obtain ⟨a', b, ha', hb, hboth⟩ := hlaw.sameMint hinvoke
    obtain ⟨-, hmoved, hself, hothers, -⟩ := hlaw.spl.transfer hinvoke
    have hsource : a'.mint = accs.mint.key := hseal₁.typed _ hmint a' ha'
    rw [hafter, ← hbefore mint hknown]
    by_cases hcase : mint = accs.mint.key
    · subst hcase
      refine ⟨?_, fun hne => absurd rfl hne⟩
      by_cases hto : custodyKey P accs.mint.key = accs.to'.key
      · exact (hself hto).le
      · exact Nat.le.intro (hmoved hto).1
    · have hfrom : custodyKey P mint ≠ custodyKey P accs.mint.key := by
        intro hkey
        rw [← hkey] at ha'
        exact hcase ((hseal₁.typed mint hknown a' ha').symm.trans hsource)
      have hto : custodyKey P mint ≠ accs.to'.key := by
        intro hkey
        rw [← hkey] at hb
        exact hcase ((hseal₁.typed mint hknown b hb).symm.trans (hboth.symm.trans hsource))
      have heq := hothers _ hfrom hto
      exact ⟨heq.le, fun _ => heq⟩
  refine ⟨(hseal₁.transfer hlaw hinvoke).of_same fun k _ => hsame k, ?_, ?_, ?_⟩
  · intro mint hknown
    exact (hle mint hknown).1.trans (hc.single mint hknown)
  · intro mint hknown
    have houtside : log.count _ ≤ held P L mint + log.count _ := hc.outside mint hknown
    show (log ++ [_]).count _ ≤ held P L' mint + (log ++ [_]).count _
    rw [List.count_append, List.count_append]
    have hno : [Event.completed (mintToken P accs.mint.key)].count (.transferred (mintToken P mint)) = 0 :=
      List.count_eq_zero_of_not_mem fun hmem => Event.noConfusion (List.mem_singleton.mp hmem)
    rw [hno]
    by_cases hcase : mint = accs.mint.key
    · subst hcase
      rw [List.count_singleton_self]
      omega
    · rw [(hle mint hknown).2 hcase]
      omega
  · intro token htoken
    rcases List.mem_append.mp htoken with hold | hnew
    · exact hc.published token hold
    · exact Event.noConfusion (List.mem_singleton.mp hnew)

end Steps

/-! ## Runs -/

section Runs

variable {L₀ : Ledger Pubkey} {s s' : Ledger Pubkey × List Event}

theorem Custodial.step (hc : Custodial P known s) (hlaw : Lawful P known)
    (hfree : P.CollisionFree (seedsInUse P known)) (hbytes : Set.InjOn P.toBytes known) {input : Input Pubkey}
    (hok : input.Allowed P known s.1) (hnft : input.NonFungible P s.1)
    (h : logging (NftBridge.step P) (events P) s input = some s') :
    Custodial P known s' := by
  obtain ⟨hstep, hlog⟩ := logging_eq_some.mp h
  obtain ⟨L, log⟩ := s
  obtain ⟨L', log'⟩ := s'
  have hexec := Failing.toOption_eq_some hstep
  cases input with
  | transferNative accs data =>
    have hexec : NftBridge.transferNative P L accs data = .ok L' := hexec
    obtain ⟨-, -, -, -, -, -, -, -, -, -, -, -, -, htoken⟩ := transferNative_eq_ok hlaw hexec
    have hevents : events P L (.transferNative accs data) = [.transferred (mintToken P accs.mint.key)] := by
      rw [events, hexec, Failing.ok_bind, htoken]
    obtain rfl : log' = log ++ events P L (.transferNative accs data) := hlog
    rw [hevents]
    exact hc.transferNative hlaw hfree hbytes hok.1 hok.2 hnft hexec
  | completeNative accs =>
    have hexec : NftBridge.completeNative P L accs = .ok L' := hexec
    have hevents : events P L (.completeNative accs) = [.completed (mintToken P accs.mint.key)] := by
      rw [events, (completeNative_eq_ok hlaw hexec).2.1]
    obtain rfl : log' = log ++ events P L (.completeNative accs) := hlog
    rw [hevents]
    exact hc.completeNative hlaw hok hexec
  | others L₁ =>
    obtain rfl := Except.ok.inj hexec
    obtain rfl : log' = log := hlog.trans (List.append_nil log)
    have hsame : ∀ mint ∈ known, held P L₁ mint = held P L mint :=
      fun _ hknown => (hok _ (custodyKey_isDerived hknown)).balance
    refine ⟨hc.toSealed.of_same hok, ?_, ?_, hc.published⟩
    · intro mint hknown
      exact (hsame mint hknown).trans_le (hc.single mint hknown)
    · intro mint hknown
      show log'.count _ ≤ held P L₁ mint + _
      rw [hsame mint hknown]
      exact hc.outside mint hknown
  | _ => exact absurd hok id

/-- **An NFT is outside at most once**, in every run in which each mint has at most one unit when it is
transferred. -/
theorem unique_run (hlaw : Lawful P known) (hfree : P.CollisionFree (seedsInUse P known))
    (hbytes : Set.InjOn P.toBytes known)
    (hfresh : ∀ mint ∈ known, Spl.account P.toTokenProgram L₀ (custodyKey P mint) = none)
    (hrun : Run (logging (step P) (events P))
      (fun s input => input.Allowed P known s.1 ∧ input.NonFungible P s.1) (L₀, []) s) :
    Unique P known s := by
  have hzero : ∀ mint ∈ known, held P L₀ mint = 0 := by
    intro mint hknown
    rw [held, Spl.balance, hfresh mint hknown]
    rfl
  have hstart : Custodial P known (L₀, []) := by
    refine ⟨⟨?_, ?_⟩, ?_, ?_, ?_⟩
    · intro mint hknown a ha
      cases (hfresh mint hknown).symm.trans ha
    · intro mint hknown a ha
      cases (hfresh mint hknown).symm.trans ha
    · intro mint hknown
      exact (hzero mint hknown).trans_le (Nat.zero_le 1)
    · intro mint hknown
      exact Nat.zero_le _
    · intro token htoken
      cases htoken
  exact (hrun.invariant (fun _ _ _ hc hok h => hc.step hlaw hfree hbytes hok.1 hok.2 h) hstart).unique

end Runs

/-! ## An NFT and a coin -/

section Samples

open PlainTokens

/-- Posting a message moves no tokens. -/
theorem postMessage_sameTokens {S : Spl.TokenProgram Pubkey} (hS : Spl.Lawful S) {C : CoreProgram Pubkey}
    (hprogram : C.programId ≠ S.tokenProgram) (hsystem : C.systemProgram ≠ S.tokenProgram)
    {accs : PostMessage Pubkey} {clock : Int} {data : PostMessageData}
    (h : Core.postMessage C L accs clock data = .ok L') (k : Pubkey) : Spl.SameTokens S L L' k := by
  iterate 17 obtain ⟨_, -, h⟩ := Failing.bind_eq_ok.mp h
  obtain ⟨L₁, hopen, h⟩ := Failing.bind_eq_ok.mp h
  obtain ⟨L₂, hcreate, h⟩ := Failing.bind_eq_ok.mp h
  obtain ⟨L₃, hbridge, h⟩ := Failing.bind_eq_ok.mp h
  obtain ⟨L₄, hmessage, hsequence⟩ := Failing.bind_eq_ok.mp h
  have hopened : Spl.SameTokens S L L₁ k := by
    unfold Core.openSequence at hopen
    split at hopen
    · rw [← Except.ok.inj hopen]
      exact .of_eq rfl
    · exact Spl.createAccount_sameTokens hS hsystem hopen k
  exact (((hopened.trans (Spl.createAccount_sameTokens hS hsystem hcreate k)).trans
    (Spl.persist_sameTokens hprogram hbridge k)).trans (Spl.persist_sameTokens hprogram hmessage k)).trans
      (Spl.persist_sameTokens hprogram hsequence k)

theorem nftNumber_length (n : Nat) : (beBytes 32 n).length = 32 := beBytes_length 32 n

theorem nftSeeds_length (l : List UInt8) : ((l ++ List.replicate 32 0).take 32).length = 32 := by simp

def nftBytes : Key → FixedBytes 32
  | .inl n => ⟨beBytes 32 n, nftNumber_length n⟩
  | .inr l => ⟨(l ++ List.replicate 32 0).take 32, nftSeeds_length l⟩

/-- Addresses of the program with the number 0, and of others. -/
def nftAddress (seeds : List (List UInt8)) : Key → Key × UInt8
  | .inl 0 => (.inr seeds.flatten, 255)
  | .inl n => (.inr (UInt8.ofNat n :: seeds.flatten), 255)
  | .inr _ => (.inr [], 255)

def nftCore : CoreProgram Key where
  programId := .inl 6
  systemProgram := .inl 1
  clock := .inl 4
  instructions := .inl 5
  toBytes := nftBytes
  findProgramAddress := nftAddress
  programId_ne_system := by decide
  rent := .inl 7
  secp256k1Program := .inl 8
  keccak256 := fun _ => zeros 32
  EMITTER_ADDRESS := none

theorem nftProgram_ne_system : (.inl 0 : Key) ≠ .inl 1 := by decide

theorem nftProgram_ne_token : (.inl 0 : Key) ≠ plainTokens.tokenProgram := by decide

theorem nftSystem_ne_token : (.inl 1 : Key) ≠ plainTokens.tokenProgram := by decide

/-- No associated accounts and no metadata are created; posting a message is what the core program does. -/
def nftProgram : NftBridgeProgram Key where
  programId := .inl 0
  systemProgram := .inl 1
  clock := .inl 4
  instructions := .inl 5
  toBytes := nftBytes
  findProgramAddress := nftAddress
  programId_ne_system := nftProgram_ne_system
  toTokenProgram := plainTokens
  bridgeAddress := .inl 6
  tokenMetadataProgram := .inl 2
  EMITTER_ADDRESS := zeros 32
  unpackMetadata := fun _ => some ⟨['N'], ['N'], ['u'], 0, []⟩
  chars := fun bytes => bytes.map fun b => Char.ofNat b.toNat
  associatedAddress := fun _ _ => .inl 30
  createAssociated := fun _ _ _ _ => .error .invokeFailed
  createMetadata := fun _ _ _ => .error .invokeFailed
  invokePostMessage := fun L program accs data signed => do
    ensure (program = nftBytes (.inl 6) ∧ accs.emitter.key = signed) .invokeFailed
    Core.postMessage nftCore L accs 1600000000 data
  programId_ne_token := nftProgram_ne_token
  systemProgram_ne_token := nftSystem_ne_token

/-- The mint of an NFT, and that of a coin with two units. -/
def nftMints : Set Key := {.inl 10, .inl 11}

def nftMetadata (mint : Key) : Key := (nftAddress (splTokenMetaSeeds (nftBytes (.inl 2)) (nftBytes mint)) (.inl 2)).1

/-- Both mints have metadata, and a user has all the units. -/
def nftLedger (k : Key) : Account Key :=
  if k = .inl 10 then ⟨1, tokenKey, packMint ⟨none, 1, 0⟩⟩
  else if k = .inl 11 then ⟨1, tokenKey, packMint ⟨none, 2, 0⟩⟩
  else if k = .inl 12 then ⟨10 ^ 10, .inl 1, []⟩
  else if k = .inl 13 then
    ⟨1, tokenKey, packAccount ⟨.inl 10, .inl 20, some (nftProgram.derive [authoritySignerSeed]), 1⟩⟩
  else if k = .inl 14 then
    ⟨1, tokenKey, packAccount ⟨.inl 11, .inl 20, some (nftProgram.derive [authoritySignerSeed]), 2⟩⟩
  else if k = nftMetadata (.inl 10) ∨ k = nftMetadata (.inl 11) then ⟨1, .inl 2, [0x04]⟩
  else if k = nftProgram.derive [configSeed] then
    ⟨1, .inl 0, AccountData.serialize (T := Config) ⟨nftBytes (.inl 6)⟩⟩
  else if k = nftCore.derive [bridgeSeed] then
    ⟨1, .inl 6, AccountData.serialize (T := BridgeData) ⟨0, 890880, ⟨86400, 10⟩⟩⟩
  else if k = nftCore.derive [feeCollectorSeed] then ⟨890880, .inl 1, []⟩
  else ⟨0, .inl 1, []⟩

/-- A transfer of a unit of `mint` from the account `source`, with the message in the account `message`. -/
def nftTransfer (mint source message : Nat) : Input Key :=
  .transferNative
    { payer := ⟨.inl 12, true, true⟩
      config := ⟨nftProgram.derive [configSeed], false, false⟩
      from' := ⟨.inl source, false, true⟩
      mint := ⟨.inl mint, false, true⟩
      splMetadata := ⟨nftMetadata (.inl mint), false, false⟩
      custody := ⟨custodyKey nftProgram (.inl mint), false, true⟩
      authoritySigner := ⟨nftProgram.derive [authoritySignerSeed], false, false⟩
      custodySigner := ⟨custodySigner nftProgram, false, false⟩
      core :=
        { bridge := ⟨nftCore.derive [bridgeSeed], false, true⟩
          message := ⟨.inl message, true, true⟩
          emitter := ⟨nftProgram.derive [emitterSeed], false, false⟩
          sequence := ⟨nftCore.derive (sequenceSeeds (nftBytes (nftProgram.derive [emitterSeed]))), false, true⟩
          feeCollector := ⟨nftCore.derive [feeCollectorSeed], false, true⟩
          clock := ⟨.inl 4, false, false⟩ } }
    { nonce := 0
      targetAddress := zeros 32
      targetChain := 2 }

/-- The NFT is transferred. -/
def nftTransferred : Ledger Key × List Event :=
  attempt (logging (step nftProgram) (events nftProgram)) (nftLedger, []) (nftTransfer 10 13 15)

/-- A unit of the coin is transferred. -/
def coinTransferred : Ledger Key × List Event :=
  attempt (logging (step nftProgram) (events nftProgram)) (nftLedger, []) (nftTransfer 11 14 15)

/-- And the other one. -/
def coinsTransferred : Ledger Key × List Event :=
  attempt (logging (step nftProgram) (events nftProgram)) coinTransferred (nftTransfer 11 14 16)

theorem nftProgram_lawful : Lawful nftProgram nftMints where
  spl := plainTokens_lawful
  mints := fun h _ _ ha => plainTokens_mints h ha
  sameMint := plainTokens_sameMint
  associated := by
    intro L payer wallet mint L' h
    cases h
  associated_foreign := by
    rintro wallet mint ⟨seeds, -, hseeds⟩
    cases hseeds
  post := by
    intro L program accs data signed L' h k
    obtain ⟨_, -, h⟩ := Failing.bind_eq_ok.mp h
    exact postMessage_sameTokens plainTokens_lawful (by decide) (by decide) h k
  posted := by
    intro L program accs data signed L' h
    obtain ⟨_, -, h⟩ := Failing.bind_eq_ok.mp h
    obtain ⟨p, hp, -, hpayload⟩ := Core.postMessage_publishes h
    refine ⟨p.message, ?_, hpayload⟩
    rw [← hp.account, hp.held.2]
    exact (MessageData.deserialize_serialize rfl).mpr rfl

theorem nftProgram_collisionFree : nftProgram.CollisionFree (seedsInUse nftProgram nftMints) :=
  ⟨fun _ _ _ _ h => Sum.inr.inj h⟩

theorem nftBytes_injOn : Set.InjOn nftProgram.toBytes nftMints := by
  rintro a (rfl | rfl) b (rfl | rfl) h
  all_goals first
    | rfl
    | exact absurd h (by decide)

/-- The token accounts are among those listed. -/
def Listed (L : Ledger Key) (ks : List Key) : Prop := ∀ k, k ∉ ks → accountAt L k = none

/-- Two accounts have no more than the supply. -/
def booked (L : Ledger Key) (k k' : Key) : Bool :=
  match accountAt L k, accountAt L k' with
  | some a, some b => match mintAt L a.mint with
    | some m => a.mint ≠ b.mint ∨ a.amount + b.amount ≤ m.supply
    | none => true
  | _, _ => true

theorem Listed.conserved {L : Ledger Key} {ks : List Key} (h : Listed L ks)
    (hbooked : ∀ k ∈ ks, ∀ k' ∈ ks, k = k' ∨ booked L k k' = true) : Conserved plainTokens L := by
  intro k k' a b m hne ha hb hof hm
  rw [account_eq] at ha hb
  rw [mint_eq] at hm
  have hlisted : ∀ k a, accountAt L k = some a → k ∈ ks := by
    intro k a ha
    by_contra hk
    cases (h k hk).symm.trans ha
  rcases hbooked k (hlisted k a ha) k' (hlisted k' b hb) with heq | hok
  · exact absurd heq hne
  · rw [booked, ha, hb] at hok
    dsimp only at hok
    rw [hm] at hok
    rcases of_decide_eq_true hok with hother | hle
    · exact absurd hof hother
    · exact hle

theorem nftLedger_listed : Listed nftLedger [.inl 13, .inl 14] := by
  intro k hk
  simp only [List.mem_cons, List.not_mem_nil, or_false, not_or] at hk
  unfold accountAt nftLedger
  rw [if_neg hk.1, if_neg hk.2]
  split_ifs <;> rfl

/-- A transfer adds the custody account. -/
theorem Listed.transferNative {L L' : Ledger Key} {ks : List Key} (h : Listed L ks) {accs : TransferNative Key}
    {data : TransferData} (hok : NftBridge.transferNative nftProgram L accs data = .ok L') :
    Listed L' (accs.custody.key :: ks) := by
  obtain ⟨-, -, -, -, -, L₁, L₂, -, -, -, hopen, hinvoke, hsame, -⟩ := transferNative_eq_ok nftProgram_lawful hok
  intro k hk
  rw [List.mem_cons, not_or] at hk
  cases ha : accountAt L' k with
  | none => rfl
  | some a =>
    have hlast : Spl.account plainTokens L₂ k = some a := (hsame k).1.symm.trans (account_eq.trans ha)
    rcases plainTokens_mints hinvoke hlast with ⟨a', ha', -⟩ | ⟨_, hix⟩
    swap
    · cases hix
    rcases (openCustody_eq_ok nftProgram_lawful hopen).2 k a' ha' with hold | ⟨hkey, -⟩
    · cases (h k hk.2).symm.trans (account_eq.symm.trans hold)
    · exact absurd hkey hk.1

theorem nftLedger_conserved : Conserved plainTokens nftLedger := nftLedger_listed.conserved (by decide +kernel)

theorem coinTransferred_conserved : Conserved plainTokens coinTransferred.1 := by
  have hstep : (step nftProgram nftLedger (nftTransfer 11 14 15)).isSome = true := by decide +kernel
  obtain ⟨L, hL⟩ := Option.isSome_iff_exists.mp hstep
  have heq : coinTransferred.1 = L := by
    have hlog : logging (step nftProgram) (events nftProgram) (nftLedger, []) (nftTransfer 11 14 15) =
        some (L, [] ++ events nftProgram nftLedger (nftTransfer 11 14 15)) := logging_eq_some.mpr ⟨hL, rfl⟩
    rw [coinTransferred, attempt_eq_of_some hlog]
  have hlisted : Listed coinTransferred.1 [custodyKey nftProgram (.inl 11), .inl 13, .inl 14] := by
    rw [heq]
    exact nftLedger_listed.transferNative (Failing.toOption_eq_some hL)
  exact hlisted.conserved (by decide +kernel)

/-- The NFT is outside once. -/
theorem nftTransferred_unique : Unique nftProgram nftMints nftTransferred := by
  have hmint : (.inl 10 : Key) ∈ nftMints := .inl rfl
  have hsupply : Spl.supply plainTokens nftLedger (.inl 10) ≤ 1 := by decide +kernel
  have hfresh : ∀ mint ∈ nftMints, Spl.account plainTokens nftLedger (custodyKey nftProgram mint) = none := by
    rintro mint (rfl | rfl)
    · rfl
    · rfl
  apply unique_run nftProgram_lawful nftProgram_collisionFree nftBytes_injOn hfresh
  exact (Run.refl (nftLedger, [])).attempt (nftTransfer 10 13 15) ⟨⟨hmint, nftLedger_conserved⟩, hsupply⟩

/-- The coin is outside twice under one token id, and its custody account holds both units. -/
theorem coinsTransferred_twice :
    Run (logging (step nftProgram) (events nftProgram)) (fun s input => input.Allowed nftProgram nftMints s.1)
      (nftLedger, []) coinsTransferred ∧
    coinsTransferred.2 = [.transferred (nativeAddress, 11), .transferred (nativeAddress, 11)] ∧
    held nftProgram coinsTransferred.1 (.inl 11) = 2 ∧ ¬Unique nftProgram nftMints coinsTransferred := by
  have hmint : (.inl 11 : Key) ∈ nftMints := .inr rfl
  have htwo : held nftProgram coinsTransferred.1 (.inl 11) = 2 := by decide +kernel
  refine ⟨?_, by decide +kernel, htwo, ?_⟩
  · have hfirst : Run (logging (step nftProgram) (events nftProgram))
        (fun s input => input.Allowed nftProgram nftMints s.1) (nftLedger, []) coinTransferred :=
      (Run.refl (nftLedger, [])).attempt (nftTransfer 11 14 15) ⟨hmint, nftLedger_conserved⟩
    exact hfirst.attempt (nftTransfer 11 14 16) ⟨hmint, coinTransferred_conserved⟩
  · intro h
    have hone := h.custody _ hmint
    rw [htwo] at hone
    exact absurd hone (by decide)

end Samples

end Wormhole.Solana.NftBridge

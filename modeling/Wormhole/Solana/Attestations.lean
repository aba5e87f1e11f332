/-
# Wormhole.Solana.Attestations — the metadata of wrapped tokens on Solana.

`create_wrapped` takes an attestation, creates the mint of a token with its metadata, or updates the metadata of
a mint that is there.  Each attestation is taken once, in any order: nothing is kept of their sequences.  So
the metadata of a mint are those of the attestation that was taken last, and they are those of the newest one
exactly if no attestation that came late says anything else (`newestMetadata_iff`).

The metadata program is a parameter, and what is assumed of it is `MetadataLawful`: it writes what it is given
and pads it with zeros, and it changes no account but the one that it is called for.
-/
import Mathlib
import Wormhole.Lib.Bytes
import Wormhole.Lib.Failing
import Wormhole.Lib.Newest
import Wormhole.Lib.Transition
import Wormhole.Lib.Utf8
import Wormhole.Solana.Payloads
import Wormhole.Solana.Solitaire
import Wormhole.Solana.Accounts
import Wormhole.Solana.Core
import Wormhole.Solana.Instructions
import Wormhole.Solana.TokenBridge
import Wormhole.Solana.Endpoints

namespace Wormhole.Solana.TokenBridge

open Wormhole.Lib Wormhole.Lib.Bytes Wormhole.Lib.Transition

variable {Pubkey : Type}

/-! ## Metadata -/

/-- A token of another chain, by its chain and its address there. -/
abbrev ForeignToken := UInt16 × FixedBytes 32

def PayloadAssetMeta.token (vaa : PayloadAssetMeta) : ForeignToken :=
  (UInt16.ofNat vaa.tokenChain, vaa.tokenAddress)

/-- A text without the zeros that fill its field. -/
def unpadded (s : List Char) : List Char := s.rdropWhile (· = '\x00')

/-- The account that an instruction of the metadata program is called for. -/
def SplInstruction.metadata : SplInstruction Pubkey → Option Pubkey
  | .createMetadataAccounts metadata .. => some metadata
  | .updateMetadataAccounts metadata .. => some metadata
  | _ => none

section Program

variable (P : TokenBridgeProgram Pubkey)

/-- The mint of a token. -/
def mintKey (token : ForeignToken) : Pubkey := P.derive (wrappedSeeds token.1 token.2)

/-- The metadata account of a mint, which is the metadata program's. -/
def metadataKey (mint : Pubkey) : Pubkey :=
  (P.findProgramAddress (splTokenMetaSeeds (P.toBytes P.tokenMetadataProgram) (P.toBytes mint))
    P.tokenMetadataProgram).1

/-- The name and the symbol in an account of the metadata program. -/
def metadataAt [DecidableEq Pubkey] (L : Ledger Pubkey) (k : Pubkey) : Option (List Char × List Char) :=
  if (L k).owner = P.tokenMetadataProgram then
    (P.unpackMetadata (L k).data).map fun d => (unpadded d.name, unpadded d.symbol)
  else none

/-- The metadata of a token's mint. -/
def shownMetadata [DecidableEq Pubkey] (token : ForeignToken) (L : Ledger Pubkey) :
    Option (List Char × List Char) := metadataAt P L (metadataKey P (mintKey P token))

/-- The name and the symbol that an attestation gives to the mint. -/
def writtenMetadata (vaa : PayloadAssetMeta) : List Char × List Char :=
  (unpadded (normalizedName P vaa), unpadded (normalizedSymbol P vaa))

/-- An account of the metadata program stays as it is. -/
def MetadataKept (L L' : Ledger Pubkey) (k : Pubkey) : Prop :=
  (L k).owner = P.tokenMetadataProgram →
    (L' k).owner = P.tokenMetadataProgram ∧ (L' k).data = (L k).data

/-- What the SPL programs do to accounts of metadata. -/
structure MetadataLawful : Prop where
  ne_program : P.tokenMetadataProgram ≠ P.programId
  ne_system : P.tokenMetadataProgram ≠ P.systemProgram
  created : ∀ L metadata mint mintAuthority payer updateAuthority name symbol signed L',
    P.invoke L (.createMetadataAccounts metadata mint mintAuthority payer updateAuthority name symbol) signed =
      .ok L' →
    (L' metadata).owner = P.tokenMetadataProgram ∧ ∃ d, P.unpackMetadata (L' metadata).data = some d ∧
      unpadded d.name = unpadded name ∧ unpadded d.symbol = unpadded symbol
  updated : ∀ L metadata updateAuthority data signed L',
    P.invoke L (.updateMetadataAccounts metadata updateAuthority data) signed = .ok L' →
    (L' metadata).owner = P.tokenMetadataProgram ∧ ∃ d, P.unpackMetadata (L' metadata).data = some d ∧
      unpadded d.name = unpadded data.name ∧ unpadded d.symbol = unpadded data.symbol
  kept : ∀ L ix signed L', P.invoke L ix signed = .ok L' →
    ∀ k, ix.metadata ≠ some k → MetadataKept P L L' k

end Program

variable [DecidableEq Pubkey] {P : TokenBridgeProgram Pubkey} {L L' L'' : Ledger Pubkey} {k : Pubkey}

omit [DecidableEq Pubkey] in
theorem MetadataKept.refl (L : Ledger Pubkey) (k : Pubkey) : MetadataKept P L L k := fun h => ⟨h, rfl⟩

omit [DecidableEq Pubkey] in
theorem MetadataKept.trans (h : MetadataKept P L L' k) (h' : MetadataKept P L' L'' k) : MetadataKept P L L'' k := by
  intro howner
  obtain ⟨howner', hdata⟩ := h howner
  obtain ⟨howner'', hdata'⟩ := h' howner'
  exact ⟨howner'', hdata'.trans hdata⟩

/-- What was shown is shown. -/
theorem MetadataKept.metadataAt {shown : List Char × List Char} (h : MetadataKept P L L' k)
    (hshown : TokenBridge.metadataAt P L k = some shown) : TokenBridge.metadataAt P L' k = some shown := by
  unfold TokenBridge.metadataAt at hshown ⊢
  split at hshown
  · rename_i howner
    obtain ⟨howner', hdata⟩ := h howner
    rwa [if_pos howner', hdata]
  · cases hshown

theorem metadataAt_eq_some {d : SplData} (howner : (L k).owner = P.tokenMetadataProgram)
    (hread : P.unpackMetadata (L k).data = some d) :
    metadataAt P L k = some (unpadded d.name, unpadded d.symbol) := by
  rw [metadataAt, if_pos howner, hread]
  rfl

/-! ## What the program keeps -/

namespace MetadataLawful

variable (hlawful : MetadataLawful P) {m payer : AccountMeta Pubkey}

include hlawful

/-- An account is created where there is none. -/
theorem createAccount {signed : Option Pubkey} {lamports space : Nat} {owner : Pubkey}
    (h : createAccount P.toProgram L payer m signed lamports space owner = .ok L') (k : Pubkey) :
    MetadataKept P L L' k := by
  intro howner
  have hk : k ≠ m.key := by
    rintro rfl
    exact hlawful.ne_system (howner.symm.trans (createAccount_eq_ok h).free)
  obtain ⟨howner', hdata⟩ := createAccount_same h hk
  exact ⟨howner'.trans howner, hdata⟩

theorem create {T : Type} [AccountData T] {seeds : List (List UInt8)} {t : T}
    (h : create P.toProgram L payer m seeds t = .ok L') (k : Pubkey) : MetadataKept P L L' k :=
  hlawful.createAccount h k

theorem claimIt {v : ClaimableVAA Pubkey} {message : MessageData} {claim : ClaimData}
    {r : Ledger Pubkey × ClaimData} (h : v.claimIt P.toProgram L payer message claim = .ok r) (k : Pubkey) :
    MetadataKept P L r.1 k := by
  obtain ⟨_, -, h⟩ := Failing.bind_eq_ok.mp h
  obtain ⟨L₁, hcreate, h⟩ := Failing.bind_eq_ok.mp h
  rw [← Except.ok.inj h]
  exact hlawful.create hcreate k

/-- The program writes its own accounts. -/
theorem persist {T : Type} [AccountData T] {t : T} (h : persist P.toProgram L m t = .ok L') (k : Pubkey) :
    MetadataKept P L L' k := by
  have hpersisted := persist_eq_ok h
  intro howner
  have hsame : L' k = L k := by
    by_cases hk : k = m.key
    · subst hk
      rw [hpersisted.foreign (.inl fun hprogram => hlawful.ne_program (howner.symm.trans hprogram))]
    · exact hpersisted.others k hk
  rw [hsame]
  exact ⟨howner, rfl⟩

theorem initializeConfig {accs : Initialize Pubkey} {data : InitializeData}
    (h : initializeConfig P L accs data = .ok L') (k : Pubkey) : MetadataKept P L L' k := by
  iterate 5 obtain ⟨_, -, h⟩ := Failing.bind_eq_ok.mp h
  obtain ⟨L₁, hcreate, h⟩ := Failing.bind_eq_ok.mp h
  exact (hlawful.create hcreate k).trans (hlawful.persist h k)

theorem registerChain {accs : RegisterChain Pubkey} (h : registerChain P L accs = .ok L') (k : Pubkey) :
    MetadataKept P L L' k := by
  iterate 9 obtain ⟨_, -, h⟩ := Failing.bind_eq_ok.mp h
  obtain ⟨claimed, hclaim, h⟩ := Failing.bind_eq_ok.mp h
  obtain ⟨L₁, hcreate, h⟩ := Failing.bind_eq_ok.mp h
  obtain ⟨L₂, hpersist, h⟩ := Failing.bind_eq_ok.mp h
  have hcreated := (hlawful.claimIt hclaim k).trans (hlawful.create hcreate k)
  exact (hcreated.trans (hlawful.persist hpersist k)).trans (hlawful.persist h k)

theorem completeNative {accs : CompleteNative Pubkey} (h : completeNative P L accs = .ok L') (k : Pubkey) :
    MetadataKept P L L' k := by
  iterate 22 obtain ⟨_, -, h⟩ := Failing.bind_eq_ok.mp h
  obtain ⟨claimed, hclaim, h⟩ := Failing.bind_eq_ok.mp h
  iterate 3 obtain ⟨_, -, h⟩ := Failing.bind_eq_ok.mp h
  obtain ⟨L₁, hpay, h⟩ := Failing.bind_eq_ok.mp h
  obtain ⟨L₂, hfee, h⟩ := Failing.bind_eq_ok.mp h
  have hpaid := (hlawful.claimIt hclaim k).trans (hlawful.kept _ _ _ _ hpay k nofun)
  exact (hpaid.trans (hlawful.kept _ _ _ _ hfee k nofun)).trans (hlawful.persist h k)

theorem completeWrapped {accs : CompleteWrapped Pubkey} (h : completeWrapped P L accs = .ok L') (k : Pubkey) :
    MetadataKept P L L' k := by
  iterate 20 obtain ⟨_, -, h⟩ := Failing.bind_eq_ok.mp h
  obtain ⟨claimed, hclaim, h⟩ := Failing.bind_eq_ok.mp h
  iterate 3 obtain ⟨_, -, h⟩ := Failing.bind_eq_ok.mp h
  obtain ⟨L₁, hpay, h⟩ := Failing.bind_eq_ok.mp h
  obtain ⟨L₂, hfee, h⟩ := Failing.bind_eq_ok.mp h
  have hpaid := (hlawful.claimIt hclaim k).trans (hlawful.kept _ _ _ _ hpay k nofun)
  exact (hpaid.trans (hlawful.kept _ _ _ _ hfee k nofun)).trans (hlawful.persist h k)

end MetadataLawful

/-! ## Attestations -/

/-- Creating the accounts of a token, and updating them, writes the same metadata. -/
theorem createOrUpdate_metadata (hlawful : MetadataLawful P) {accs : CreateWrapped Pubkey} {vaa : PayloadAssetMeta}
    {wrapped : WrappedMeta} {r : Ledger Pubkey × WrappedMeta}
    (h : createOrUpdate P L accs vaa wrapped = .ok r) :
    metadataAt P r.1 (metadataKey P accs.mint.key) = some (writtenMetadata P vaa) ∧
      ∀ k, k ≠ metadataKey P accs.mint.key → MetadataKept P L r.1 k := by
  unfold createOrUpdate at h
  split at h
  · obtain ⟨_, hkey, h⟩ := Failing.bind_eq_ok.mp h
    obtain ⟨data, -, h⟩ := Failing.bind_eq_ok.mp h
    obtain ⟨L₁, hinvoke, h⟩ := Failing.bind_eq_ok.mp h
    rw [verifySplMetadata, ensure_eq_ok] at hkey
    rw [← Except.ok.inj h, metadataKey, hkey]
    obtain ⟨howner, d, hread, hname, hsymbol⟩ := hlawful.updated _ _ _ _ _ _ hinvoke
    refine ⟨?_, fun k hk => hlawful.kept _ _ _ _ hinvoke k fun heq => hk (Option.some.inj heq).symm⟩
    rw [metadataAt_eq_some howner hread, hname, hsymbol]
    rfl
  · obtain ⟨L₁, hmint, h⟩ := Failing.bind_eq_ok.mp h
    obtain ⟨L₂, hinit, h⟩ := Failing.bind_eq_ok.mp h
    obtain ⟨L₃, hcreate, h⟩ := Failing.bind_eq_ok.mp h
    obtain ⟨_, hkey, h⟩ := Failing.bind_eq_ok.mp h
    obtain ⟨L₄, hinvoke, h⟩ := Failing.bind_eq_ok.mp h
    rw [verifySplMetadata, ensure_eq_ok] at hkey
    rw [← Except.ok.inj h, metadataKey, hkey]
    obtain ⟨howner, d, hread, hname, hsymbol⟩ := hlawful.created _ _ _ _ _ _ _ _ _ _ hinvoke
    refine ⟨?_, ?_⟩
    · rw [metadataAt_eq_some howner hread, hname, hsymbol]
      rfl
    · intro k hk
      have hopened := (hlawful.createAccount hmint k).trans (hlawful.kept _ _ _ _ hinit k nofun)
      have hkept := hlawful.kept _ _ _ _ hinvoke k fun heq => hk (Option.some.inj heq).symm
      exact (hopened.trans (hlawful.create hcreate k)).trans hkept

/-- What `create_wrapped` does to the metadata: those of the token are the attested ones. -/
structure MetadataWritten (P : TokenBridgeProgram Pubkey) (L L' : Ledger Pubkey) (vaa : PayloadAssetMeta) :
    Prop where
  shown : shownMetadata P vaa.token L' = some (writtenMetadata P vaa)
  others : ∀ k, k ≠ metadataKey P (mintKey P vaa.token) → MetadataKept P L L' k

theorem createWrapped_metadata (hlawful : MetadataLawful P) {accs : CreateWrapped Pubkey}
    (h : createWrapped P L accs = .ok L') :
    ∃ m vaa, MessageData.deserialize (L accs.vaa.message.key).data = .ok m ∧
      PayloadAssetMeta.deserialize P m.payload.val = .ok vaa ∧ MetadataWritten P L L' vaa := by
  iterate 4 obtain ⟨_, -, h⟩ := Failing.bind_eq_ok.mp h
  obtain ⟨vaa, hvaa, h⟩ := Failing.bind_eq_ok.mp h
  iterate 8 obtain ⟨_, -, h⟩ := Failing.bind_eq_ok.mp h
  obtain ⟨_, hmintKey, h⟩ := Failing.bind_eq_ok.mp h
  iterate 3 obtain ⟨_, -, h⟩ := Failing.bind_eq_ok.mp h
  obtain ⟨claimed, hclaim, h⟩ := Failing.bind_eq_ok.mp h
  obtain ⟨done, hdone, h⟩ := Failing.bind_eq_ok.mp h
  obtain ⟨L₁, hpersist, h⟩ := Failing.bind_eq_ok.mp h
  rw [verifyDerivation, ensure_eq_ok] at hmintKey
  obtain ⟨⟨posted, hposted, hmessage⟩, -, hpayload, -, -⟩ := ClaimableVAA.peel_eq_ok hvaa
  obtain ⟨message, hread, rfl⟩ := Failing.map_eq_ok.mp hposted
  obtain rfl : message = vaa.1 := hmessage
  obtain ⟨hshown, hothers⟩ := createOrUpdate_metadata hlawful hdone
  have hmint : mintKey P vaa.2.1.token = accs.mint.key := hmintKey
  have hwritten : ∀ k, MetadataKept P done.1 L' k := fun k =>
    (hlawful.persist hpersist k).trans (hlawful.persist h k)
  refine ⟨vaa.1, vaa.2.1, hread, hpayload, ?_, ?_⟩
  · rw [shownMetadata, hmint]
    exact (hwritten _).metadataAt hshown
  · rw [hmint]
    intro k hk
    exact ((hlawful.claimIt hclaim k).trans (hothers k hk)).trans (hwritten k)

/-! ## Steps -/

/-- An attestation that has been taken. -/
structure Attestation where
  sequence : UInt64
  vaa : PayloadAssetMeta
  deriving DecidableEq

def Attestation.number (a : Attestation) : Nat := a.sequence.toNat

section Steps

variable (P) (token : ForeignToken)

omit [DecidableEq Pubkey] in
/-- The attestations of the token that an instruction takes, if it succeeds. -/
def attestations (L : Ledger Pubkey) : Input Pubkey → List Attestation
  | .createWrapped accs =>
    match MessageData.deserialize (L accs.vaa.message.key).data with
    | .error _ => []
    | .ok m =>
      match PayloadAssetMeta.deserialize P m.payload.val with
      | .error _ => []
      | .ok vaa => if vaa.token = token then [⟨m.sequence, vaa⟩] else []
  | _ => []

/-- The program and the attestations of the token that it has taken. -/
abbrev attesting : Ledger Pubkey × List Attestation → Input Pubkey → Option (Ledger Pubkey × List Attestation) :=
  logging (step P) (attestations P token)

/-- The token's metadata are those of the newest attestation that has been taken. -/
def NewestShown (s : Ledger Pubkey × List Attestation) : Prop :=
  Shows Attestation.number (fun a => some (writtenMetadata P a.vaa)) s.2 (shownMetadata P token s.1)

/-- The sequences are pairwise different, and others do not change metadata: the mint's authority, which is the
program's, would have to sign. -/
def Permitted (s : Ledger Pubkey × List Attestation) : Input Pubkey → Prop
  | .others L' => shownMetadata P token s.1 = none ∨ shownMetadata P token L' = shownMetadata P token s.1
  | input => ∀ new ∈ attestations P token s.1 input, ∀ a ∈ s.2, a.number ≠ new.number

/-- An attestation that is taken after a newer one says what the newest one says. -/
def Agrees (s : Ledger Pubkey × List Attestation) (input : Input Pubkey) : Prop :=
  ∀ new ∈ attestations P token s.1 input, ∀ a ∈ s.2, Newest Attestation.number s.2 a →
    new.number < a.number → writtenMetadata P new.vaa = writtenMetadata P a.vaa

instance (s : Ledger Pubkey × List Attestation) : Decidable (NewestShown P token s) :=
  inferInstanceAs (Decidable (Shows _ _ _ _))

instance (s : Ledger Pubkey × List Attestation) (input : Input Pubkey) : Decidable (Agrees P token s input) :=
  inferInstanceAs (Decidable (∀ new ∈ _, ∀ a ∈ _, _ → _ → _))

instance (s : Ledger Pubkey × List Attestation) : (input : Input Pubkey) → Decidable (Permitted P token s input)
  | .others _ => inferInstanceAs (Decidable (_ ∨ _))
  | .initializeConfig .. => inferInstanceAs (Decidable (∀ new ∈ _, ∀ a ∈ _, _))
  | .registerChain _ => inferInstanceAs (Decidable (∀ new ∈ _, ∀ a ∈ _, _))
  | .completeNative _ => inferInstanceAs (Decidable (∀ new ∈ _, ∀ a ∈ _, _))
  | .completeWrapped _ => inferInstanceAs (Decidable (∀ new ∈ _, ∀ a ∈ _, _))
  | .createWrapped _ => inferInstanceAs (Decidable (∀ new ∈ _, ∀ a ∈ _, _))

end Steps

/-- **A step** takes an attestation of the token and shows it, or leaves the metadata as they are. -/
theorem attesting_step (hlawful : MetadataLawful P) {token : ForeignToken}
    (hmint : ∀ other, metadataKey P (mintKey P other) = metadataKey P (mintKey P token) → other = token)
    {s : Ledger Pubkey × List Attestation} {input : Input Pubkey} (hok : Permitted P token s input)
    (h : step P s.1 input = some L') :
    (∃ new, attestations P token s.1 input = [new] ∧ (∀ a ∈ s.2, a.number ≠ new.number) ∧
        shownMetadata P token L' = some (writtenMetadata P new.vaa)) ∨
      attestations P token s.1 input = [] ∧
        (shownMetadata P token s.1 = none ∨ shownMetadata P token L' = shownMetadata P token s.1) := by
  have hexecute : execute P s.1 input = .ok L' := Failing.toOption_eq_some h
  have hkept : ∀ {L'}, MetadataKept P s.1 L' (metadataKey P (mintKey P token)) →
      shownMetadata P token s.1 = none ∨ shownMetadata P token L' = shownMetadata P token s.1 := by
    intro L' hkept
    cases hshown : shownMetadata P token s.1 with
    | none => exact .inl rfl
    | some shown => exact .inr (hkept.metadataAt hshown)
  cases input with
  | initializeConfig accs data => exact .inr ⟨rfl, hkept (hlawful.initializeConfig hexecute _)⟩
  | registerChain accs => exact .inr ⟨rfl, hkept (hlawful.registerChain hexecute _)⟩
  | completeNative accs => exact .inr ⟨rfl, hkept (hlawful.completeNative hexecute _)⟩
  | completeWrapped accs => exact .inr ⟨rfl, hkept (hlawful.completeWrapped hexecute _)⟩
  | others L₁ =>
    obtain rfl := Except.ok.inj hexecute
    exact .inr ⟨rfl, hok⟩
  | createWrapped accs =>
    obtain ⟨m, vaa, hread, hpayload, hwritten⟩ := createWrapped_metadata hlawful hexecute
    have hreport : attestations P token s.1 (.createWrapped accs) =
        if vaa.token = token then [⟨m.sequence, vaa⟩] else [] := by
      simp only [attestations, hread, hpayload]
    by_cases htoken : vaa.token = token
    · rw [if_pos htoken] at hreport
      refine .inl ⟨_, hreport, ?_, ?_⟩
      · exact hok _ (hreport ▸ List.mem_singleton_self _)
      · rw [← htoken]
        exact hwritten.shown
    · rw [if_neg htoken] at hreport
      exact .inr ⟨hreport, hkept (hwritten.others _ fun heq => htoken (hmint _ heq.symm))⟩

/-! ## Runs -/

/-- **Which runs show the newest attestation.** In every state of a run the metadata of the token are those of
the attestation with the largest sequence, exactly if every attestation that is taken after a newer one says
the same. -/
theorem newestMetadata_iff (hlawful : MetadataLawful P) {token : ForeignToken}
    (hmint : ∀ other, metadataKey P (mintKey P other) = metadataKey P (mintKey P token) → other = token)
    {L₀ : Ledger Pubkey} {inputs : List (Input Pubkey)} {final : Ledger Pubkey × List Attestation}
    (hok : Along (attesting P token) (Permitted P token) (L₀, []) inputs)
    (hrun : inputs.foldlM (attesting P token) (L₀, []) = some final) :
    Along (attesting P token) (fun s input => ∀ t, attesting P token s input = some t → NewestShown P token t)
        (L₀, []) inputs ↔
      Along (attesting P token) (Agrees P token) (L₀, []) inputs := by
  have hstart : NewestShown P token (L₀, []) := fun a ha => absurd ha.mem List.not_mem_nil
  refine along_iff_of_ok hstart hok ?_ hrun
  intro s input t hs hok hstep
  refine ⟨?_, fun h => h t hstep⟩
  have honly : (∀ t', attesting P token s input = some t' → NewestShown P token t') ↔ NewestShown P token t :=
    ⟨fun h => h t hstep, fun h t' ht' => Option.some.inj (hstep.symm.trans ht') ▸ h⟩
  rw [honly]
  obtain ⟨hmove, hlog⟩ := logging_eq_some.mp hstep
  rcases attesting_step hlawful hmint hok hmove with ⟨new, hnew, hfresh, hshown⟩ | ⟨hnone, hshown⟩
  · rw [NewestShown, hlog, hnew, hshown, shows_snoc_iff hfresh]
    constructor
    · intro h new' hnew' a ha hnewest hlt
      rw [hnew] at hnew'
      obtain rfl := List.mem_singleton.mp hnew'
      exact Option.some.inj (h a hnewest hlt)
    · intro h a hnewest hlt
      exact congrArg some (h new (hnew ▸ List.mem_singleton_self new) a hnewest.mem hnewest hlt)
  · refine iff_of_true ?_ ?_
    · intro a ha
      rw [hlog, hnone, List.append_nil] at ha
      have hbefore := hs a ha
      rcases hshown with hshown | hshown
      · rw [hshown] at hbefore
        cases hbefore
      · rw [hshown, hbefore]
    · intro new hnew
      rw [hnone] at hnew
      cases hnew

/-! ## A sample run -/

section Samples

/-- The attested token, of the chain 2. -/
def attestedToken : ForeignToken := (2, sampleBytes (.inl 60))

/-- The mint has bytes of its own. -/
def attestedBytes : SampleKey → FixedBytes 32
  | .inl n => sampleBytes (.inl n)
  | .inr seeds => if seeds = (wrappedSeeds 2 (sampleBytes (.inl 60))).flatten then sampleBytes (.inl 61) else zeros 32

/-- A text in a field. -/
def metadataField (s : List Char) (len : Nat) : Result (List UInt8) :=
  if (Utf8.encode s).length ≤ len then .ok (Utf8.encode s ++ List.replicate (len - (Utf8.encode s).length) 0x00)
  else .error .invokeFailed

/-- A metadata account with the name and the symbol in its fields. -/
def writeMetadata (L : Ledger SampleKey) (k : SampleKey) (name symbol : List Char) : Result (Ledger SampleKey) := do
  let nameField ← metadataField name 32
  let symbolField ← metadataField symbol 10
  return Function.update L k ⟨1, .inl 8, [0x04] ++ nameField ++ symbolField⟩

/-- Metadata are created where there are none, and updated by their authority. -/
def metadataInvoke (L : Ledger SampleKey) : SplInstruction SampleKey → Option SampleKey → Result (Ledger SampleKey)
  | .createMetadataAccounts metadata _ _ _ _ name symbol, _ => do
    ensure ((L metadata).lamports = 0) .invokeFailed
    writeMetadata L metadata name symbol
  | .updateMetadataAccounts metadata authority data, signed => do
    ensure ((L metadata).owner = .inl 8 ∧ signed = some authority) .invokeFailed
    writeMetadata L metadata data.name data.symbol
  | _, _ => .ok L

/-- The fields of a metadata account. -/
def readFields (data : List UInt8) : Option SplData := do
  let name ← Utf8.decode? ((data.drop 1).take 32)
  let symbol ← Utf8.decode? (data.drop 33)
  return ⟨name, symbol, [], 0, []⟩

def metadataProgram : TokenBridgeProgram SampleKey where
  toProgram := { sampleProgram.toProgram with toBytes := attestedBytes }
  bridgeAddress := sampleProgram.bridgeAddress
  tokenProgram := sampleProgram.tokenProgram
  tokenMetadataProgram := sampleProgram.tokenMetadataProgram
  EMITTER_ADDRESS := sampleProgram.EMITTER_ADDRESS
  unpackMint := sampleProgram.unpackMint
  unpackAccount := sampleProgram.unpackAccount
  unpackMetadata := readFields
  chars := Utf8.lossy
  invoke := metadataInvoke
  programId_ne_token := by decide

theorem unpadded_pad (s : List Char) (n : Nat) : unpadded (s ++ List.replicate n '\x00') = unpadded s := by
  induction n with
  | zero => rw [List.replicate_zero, List.append_nil]
  | succ n ih =>
    rw [List.replicate_succ', ← List.append_assoc, unpadded, List.rdropWhile_concat_pos _ _ _ (by rfl)]
    exact ih

theorem encode_pad (s : List Char) (n : Nat) :
    Utf8.encode (s ++ List.replicate n '\x00') = Utf8.encode s ++ List.replicate n 0x00 := by
  have hzeros : Utf8.encode (List.replicate n '\x00') = List.replicate n 0x00 := by
    induction n with
    | zero => rfl
    | succ n ih =>
      rw [List.replicate_succ, Utf8.encode_cons, ih]
      rfl
  rw [← hzeros]
  exact List.flatMap_append

theorem metadataField_eq_ok {s : List Char} {len : Nat} {field : List UInt8} (h : metadataField s len = .ok field) :
    field.length = len ∧ ∃ text, Utf8.decode? field = some text ∧ unpadded text = unpadded s := by
  unfold metadataField at h
  split at h
  · rename_i hle
    obtain rfl := Except.ok.inj h
    refine ⟨?_, _, Utf8.decode?_eq_some.mpr (encode_pad s _), unpadded_pad s _⟩
    rw [List.length_append, List.length_replicate]
    omega
  · cases h

theorem writeMetadata_eq_ok {L L' : Ledger SampleKey} {k : SampleKey} {name symbol : List Char}
    (h : writeMetadata L k name symbol = .ok L') :
    ((L' k).owner = .inl 8 ∧ ∃ d, readFields (L' k).data = some d ∧ unpadded d.name = unpadded name ∧
      unpadded d.symbol = unpadded symbol) ∧ ∀ k', k' ≠ k → L' k' = L k' := by
  obtain ⟨nameField, hname, h⟩ := Failing.bind_eq_ok.mp h
  obtain ⟨symbolField, hsymbol, h⟩ := Failing.bind_eq_ok.mp h
  obtain ⟨hnameLength, nameText, hnameRead, hname⟩ := metadataField_eq_ok hname
  obtain ⟨-, symbolText, hsymbolRead, hsymbol⟩ := metadataField_eq_ok hsymbol
  rw [← Except.ok.inj h, Function.update_self]
  refine ⟨⟨rfl, ⟨nameText, symbolText, [], 0, []⟩, ?_, hname, hsymbol⟩, fun k' hk' => Function.update_of_ne hk' _ _⟩
  have hfirst : (([0x04] ++ nameField ++ symbolField).drop 1).take 32 = nameField :=
    List.take_left' hnameLength
  have hsecond : ([0x04] ++ nameField ++ symbolField).drop 33 = symbolField := by
    apply List.drop_left'
    rw [List.length_append, hnameLength]
    rfl
  rw [readFields, hfirst, hsecond, hnameRead, hsymbolRead]
  rfl

theorem metadataProgram_lawful : MetadataLawful metadataProgram where
  ne_program := by decide
  ne_system := by decide
  created := by
    intro L metadata mint mintAuthority payer updateAuthority name symbol signed L' h
    obtain ⟨_, -, h⟩ := Failing.bind_eq_ok.mp h
    exact (writeMetadata_eq_ok h).1
  updated := by
    intro L metadata updateAuthority data signed L' h
    obtain ⟨_, -, h⟩ := Failing.bind_eq_ok.mp h
    exact (writeMetadata_eq_ok h).1
  kept := by
    intro L ix signed L' h k hk
    have hsame : L' k = L k := by
      cases ix with
      | createMetadataAccounts metadata =>
        obtain ⟨_, -, h⟩ := Failing.bind_eq_ok.mp h
        exact (writeMetadata_eq_ok h).2 k fun heq => hk (congrArg some heq.symm)
      | updateMetadataAccounts metadata =>
        obtain ⟨_, -, h⟩ := Failing.bind_eq_ok.mp h
        exact (writeMetadata_eq_ok h).2 k fun heq => hk (congrArg some heq.symm)
      | _ => rw [← Except.ok.inj h]
    intro howner
    rw [hsame]
    exact ⟨howner, rfl⟩

theorem metadataProgram_mint (other : ForeignToken)
    (h : metadataKey metadataProgram (mintKey metadataProgram other) =
      metadataKey metadataProgram (mintKey metadataProgram attestedToken)) : other = attestedToken := by
  have hbytes := List.append_cancel_left (List.append_cancel_left (Sum.inr.inj h))
  rw [List.flatten_singleton, List.flatten_singleton] at hbytes
  by_cases hother : (wrappedSeeds other.1 other.2).flatten = (wrappedSeeds 2 (sampleBytes (.inl 60))).flatten
  · have hrest : beBytes 2 other.1.toNat ++ [other.2.val].flatten =
        beBytes 2 2 ++ [(sampleBytes (.inl 60)).val].flatten :=
      (List.append_right_inj [0x77, 0x72, 0x61, 0x70, 0x70, 0x65, 0x64]).mp hother
    obtain ⟨hchain, haddress⟩ := List.append_inj hrest (by rw [beBytes_length, beBytes_length])
    rw [List.flatten_singleton, List.flatten_singleton] at haddress
    exact Prod.ext (UInt16.toNat_inj.mp (beBytes_injective other.1.toNat_lt (by decide) hchain))
      (Subtype.ext haddress)
  · have hzero : attestedBytes (mintKey metadataProgram other) = zeros 32 := if_neg hother
    have hmint : attestedBytes (mintKey metadataProgram attestedToken) = sampleBytes (.inl 61) := by
      show attestedBytes (.inr (wrappedSeeds 2 (sampleBytes (.inl 60))).flatten) = _
      rw [attestedBytes, if_pos rfl]
    have hfalse : zeros 32 = sampleBytes (.inl 61) := (hzero.symm.trans (Subtype.ext hbytes)).trans hmint
    exact absurd hfalse (by decide)

/-- An attestation of the token, with a name of one letter. -/
def samplePayload (name : UInt8) : Vec UInt8 :=
  ⟨[0x02] ++ attestedToken.2.val ++ beBytes 2 2 ++ [0x08] ++ ([0x54] ++ List.replicate 31 0x00) ++
    ([name] ++ List.replicate 31 0x00), by
    simp [attestedToken, (sampleBytes (.inl 60)).property]⟩

/-- The emitter 50 of the chain 2 has attested the token as "A", and later as "B". -/
def attestedLedger : Ledger SampleKey
  | .inl 34 => samplePostedVaa 2 (.inl 50) 7 (samplePayload 0x41)
  | .inl 35 => samplePostedVaa 2 (.inl 50) 8 (samplePayload 0x42)
  | k => sampleLedger k

def sampleAttest (message sequence : Nat) : Input SampleKey :=
  let mint := mintKey metadataProgram attestedToken
  .createWrapped
    { payer := samplePayer
      config := sampleReadonly (.inr configSeed)
      chainRegistration := sampleReadonly (.inr (endpointSeeds 2 (sampleBytes (.inl 50))).flatten)
      vaa := sampleVaa message 2 (.inl 50) sequence
      mint := ⟨mint, false, true⟩
      wrappedMeta := sampleWritable (wrappedMetaSeeds (attestedBytes mint))
      splMetadata := ⟨metadataKey metadataProgram mint, false, true⟩
      mintAuthority := sampleReadonly (.inr mintSignerSeed) }

/-- The program with the bridge of the chain 2, and the attestations in an order. -/
def attestingRun (order : List (Input SampleKey)) : List (Input SampleKey) :=
  [sampleInitialize, sampleRegister 30 1 (.inl 50)] ++ order

/-- The attestations in the order of their sequences. -/
theorem orderedAttestations_shown :
    Along (attesting metadataProgram attestedToken)
      (fun s input => ∀ t, attesting metadataProgram attestedToken s input = some t →
        NewestShown metadataProgram attestedToken t)
      (attestedLedger, []) (attestingRun [sampleAttest 34 7, sampleAttest 35 8]) := by
  have hrun : ((attestingRun [sampleAttest 34 7, sampleAttest 35 8]).foldlM
      (attesting metadataProgram attestedToken) (attestedLedger, [])).isSome = true := by decide +kernel
  obtain ⟨final, hfinal⟩ := Option.isSome_iff_exists.mp hrun
  exact (newestMetadata_iff metadataProgram_lawful metadataProgram_mint (by decide +kernel) hfinal).mpr
    (by decide +kernel)

/-- **The old attestation, taken late**: both are taken, and the metadata are those of the old one. -/
theorem lateAttestation_shown :
    ∃ final, (attestingRun [sampleAttest 35 8, sampleAttest 34 7]).foldlM
        (attesting metadataProgram attestedToken) (attestedLedger, []) = some final ∧
      final.2.map Attestation.sequence = [8, 7] ∧ ¬NewestShown metadataProgram attestedToken final := by
  have hrun : ((attestingRun [sampleAttest 35 8, sampleAttest 34 7]).foldlM
      (attesting metadataProgram attestedToken) (attestedLedger, [])).any (fun final =>
        final.2.map Attestation.sequence = [8, 7] ∧ ¬NewestShown metadataProgram attestedToken final) = true := by
    decide +kernel
  obtain ⟨final, hfinal, hlate⟩ := (Option.any_eq_true _ _).mp hrun
  exact ⟨final, hfinal, of_decide_eq_true hlate⟩

end Samples

end Wormhole.Solana.TokenBridge

/-
# Wormhole.Solana.Endpoints — the emitters that the token bridge on Solana accepts.

`register_chain` records an endpoint in an account whose address is derived from the chain and the emitter
together; transfers and attestations are accepted from an emitter if there is an account for it.  So another
emitter of the same chain has another account, and nothing in `register_chain` looks for one.

`Executed` says once what an instruction that executes a VAA does to the accounts of the program.  Over a run,
the emitters with an account are exactly those that have been registered (`registered_iff`).  There is one
for each chain exactly if no two VAAs that were executed name different ones: `oneEmitter_iff`.
-/
import Mathlib
import Wormhole.Lib.Bytes
import Wormhole.Lib.Failing
import Wormhole.Lib.Codec
import Wormhole.Lib.Transition
import Wormhole.Solana.Payloads
import Wormhole.Solana.Solitaire
import Wormhole.Solana.Accounts
import Wormhole.Solana.Core
import Wormhole.Solana.Instructions
import Wormhole.Solana.TokenBridge

namespace Wormhole.Solana.TokenBridge

open Wormhole.Lib Wormhole.Lib.Bytes Wormhole.Lib.Transition

variable {Pubkey : Type}

/-! ## Addresses -/

section Addresses

variable {P : TokenBridgeProgram Pubkey} {used : Set (List (List UInt8))} {L : Ledger Pubkey}

/-- The account of an endpoint. -/
abbrev endpointKey (P : TokenBridgeProgram Pubkey) (chain : UInt16) (address : FixedBytes 32) : Pubkey :=
  P.derive (endpointSeeds chain address)

theorem endpointSeeds_length (chain : UInt16) (address : FixedBytes 32) :
    (endpointSeeds chain address).flatten.length = 34 := by
  simp [endpointSeeds, address.property]

theorem wrappedMetaSeeds_length (mint : FixedBytes 32) : (wrappedMetaSeeds mint).flatten.length = 36 := by
  simp [wrappedMetaSeeds, mint.property]

variable (P) in
/-- Among the seeds in use are those of the config. -/
structure TokenBridgeProgram.CollisionFree (used : Set (List (List UInt8))) : Prop
    extends P.toProgram.CollisionFree used where
  config : [configSeed] ∈ used

/-- **An endpoint's account tells the chain and the address**, among the seeds in use. -/
theorem endpoint_injective (hfree : P.CollisionFree used) {chain chain' : UInt16} {address address' : FixedBytes 32}
    (hused : endpointSeeds chain address ∈ used) (hused' : endpointSeeds chain' address' ∈ used)
    (h : endpointKey P chain address = endpointKey P chain' address') : chain = chain' ∧ address = address' := by
  have hflat := hfree.derive _ hused _ hused' h
  simp only [endpointSeeds, List.flatten_cons, List.flatten_nil, List.append_nil] at hflat
  obtain ⟨hchain, haddress⟩ := List.append_inj hflat (by rw [beBytes_length, beBytes_length])
  exact ⟨UInt16.toNat_inj.mp (beBytes_injective chain.toNat_lt chain'.toNat_lt hchain), Subtype.ext haddress⟩

/-- There is an endpoint account for the emitter. -/
def Registered (P : TokenBridgeProgram Pubkey) (L : Ledger Pubkey) (chain : UInt16)
    (address : FixedBytes 32) : Prop :=
  ∃ e : EndpointRegistration,
    Holds P.toProgram L (endpointKey P chain address) (EndpointRegistration.codec.write e)

end Addresses

variable [DecidableEq Pubkey] {P : TokenBridgeProgram Pubkey} {used : Set (List (List UInt8))}
  {L L' : Ledger Pubkey} {input : Input Pubkey}

/-- An endpoint that an instruction has checked is registered for the emitter of its VAA. -/
theorem registered_of_peel {m : AccountMeta Pubkey} {e : EndpointRegistration} {chain : UInt16}
    {address : FixedBytes 32} {u : Unit} (h : peelEndpoint P L m = .ok e)
    (hkey : verifyDerivation P.toProgram (endpointSeeds chain address) m = .ok u) :
    Registered P L chain address := by
  obtain ⟨-, hread, howner⟩ := peelData_initialized.mp h
  rw [verifyDerivation, ensure_eq_ok] at hkey
  refine ⟨e, ?_⟩
  rw [endpointKey, hkey]
  exact ⟨howner, Codec.decode_eq_ok.mp hread⟩

/-! ## Executing a VAA -/

/-- A VAA is executed: its claim is made, and the other accounts of the program are kept but for those that are
touched. -/
structure Executed (P : TokenBridgeProgram Pubkey) (L L' : Ledger Pubkey) (m : MessageData)
    (touched : Pubkey → Prop) : Prop where
  newClaim : (L (P.derive (claimSeeds m))).owner ≠ P.programId
  claim : Holds P.toProgram L' (P.derive (claimSeeds m)) (ClaimData.codec.write ⟨true⟩)
  others : ∀ k, k ≠ P.derive (claimSeeds m) → ¬touched k → Kept P.toProgram L L' k

/-- The claim is made first and persisted later; in between, the claim's account is not touched. -/
theorem executed_of {v : ClaimableVAA Pubkey} {payer : AccountMeta Pubkey} {m : MessageData} {claim : ClaimData}
    {r : Ledger Pubkey × ClaimData} {L₂ L₃ : Ledger Pubkey} {touched : Pubkey → Prop} {u : Unit}
    (hverify : v.verify P.toProgram m = .ok u) (hmut : v.claim.isWritable = true)
    (hclaim : v.claimIt P.toProgram L payer m claim = .ok r)
    (hmiddle : ∀ k, k = P.derive (claimSeeds m) ∨ ¬touched k → Kept P.toProgram r.1 L₂ k)
    (hpersist : persist P.toProgram L₂ v.claim r.2 = .ok L₃)
    (hrest : ∀ k, k = P.derive (claimSeeds m) ∨ ¬touched k → Kept P.toProgram L₃ L' k) :
    Executed P L L' m touched := by
  rw [ClaimableVAA.verify, verifyDerivation, ensure_eq_ok] at hverify
  have hcreated := ClaimableVAA.claimIt_eq_ok hclaim
  have hpersisted := persist_eq_ok hpersist
  have hdone : r.2 = ⟨true⟩ := by
    obtain ⟨_, -, hclaim⟩ := Failing.bind_eq_ok.mp hclaim
    obtain ⟨L₁, -, hclaim⟩ := Failing.bind_eq_ok.mp hclaim
    rw [← Except.ok.inj hclaim]
  rw [hdone] at hpersisted
  constructor
  · rw [hverify]
    exact hcreated.not_owned
  · refine (hrest _ (.inl rfl)).holds ?_
    have hafter := (hmiddle _ (.inl hverify.symm)).holds hcreated.holds
    rw [hverify]
    exact hpersisted.holds hmut hafter (List.length_replicate.trans (ClaimData.write_length _).symm)
  · intro k hk htouched
    have hkept := (hcreated.kept k (hverify ▸ hk)).trans (hmiddle k (.inr htouched))
    exact (hkept.trans (hpersisted.kept (hverify ▸ hk))).trans (hrest k (.inr htouched))

/-! ## The instructions -/

/-- What `register_chain` does. -/
structure ChainRegistered (P : TokenBridgeProgram Pubkey) (L L' : Ledger Pubkey) (m : MessageData)
    (chain : UInt16) (address : FixedBytes 32) : Prop where
  newEndpoint : (L (endpointKey P chain address)).owner ≠ P.programId
  endpoint : Holds P.toProgram L' (endpointKey P chain address)
    (EndpointRegistration.codec.write ⟨chain, address⟩)
  executed : Executed P L L' m (· = endpointKey P chain address)

/-- A chain of two bytes and an address of 32. -/
theorem EndpointRegistration.write_length (e : EndpointRegistration) :
    (EndpointRegistration.codec.write e).length = 34 := by
  have hcontract : ((Borsh.array 32).write e.contract).length = 32 := e.contract.property
  show (Borsh.u16.write e.chain ++ (Borsh.array 32).write e.contract).length = 34
  rw [List.length_append, hcontract, Borsh.u16, Codec.uint16_write, List.length_reverse, beBytes_length]

/-- **A registration** creates an endpoint that was not there, as the VAA says. -/
theorem registerChain_eq_ok (hfree : P.CollisionFree used) {accs : RegisterChain Pubkey}
    (hused : ∀ seeds, Input.Derives P L (.registerChain accs) seeds → seeds ∈ used)
    (h : registerChain P L accs = .ok L') :
    ∃ m p, MessageData.deserialize (L accs.vaa.message.key).data = .ok m ∧
      PayloadGovernanceRegisterChain.deserialize m.payload.val = .ok p ∧
      ChainRegistered P L L' m (UInt16.ofNat p.chain) p.endpointAddress := by
  iterate 3 obtain ⟨_, -, h⟩ := Failing.bind_eq_ok.mp h
  obtain ⟨_, hmut, h⟩ := Failing.bind_eq_ok.mp h
  obtain ⟨endpoint, hendpoint, h⟩ := Failing.bind_eq_ok.mp h
  obtain ⟨vaa, hvaa, h⟩ := Failing.bind_eq_ok.mp h
  obtain ⟨_, hendpointKey, h⟩ := Failing.bind_eq_ok.mp h
  obtain ⟨_, -, h⟩ := Failing.bind_eq_ok.mp h
  obtain ⟨_, hverify, h⟩ := Failing.bind_eq_ok.mp h
  obtain ⟨claimed, hclaim, h⟩ := Failing.bind_eq_ok.mp h
  obtain ⟨L₁, hcreate, h⟩ := Failing.bind_eq_ok.mp h
  obtain ⟨L₂, hpersist, h⟩ := Failing.bind_eq_ok.mp h
  rw [peelMut, ensure_eq_ok] at hmut
  rw [verifyDerivation, ensure_eq_ok] at hendpointKey
  obtain ⟨⟨posted, hposted, hmessage⟩, -, hpayload, -, hmutClaim⟩ := ClaimableVAA.peel_eq_ok hvaa
  obtain ⟨message, hread, rfl⟩ := Failing.map_eq_ok.mp hposted
  obtain rfl : message = vaa.1 := hmessage
  have hcreated := create_eq_ok hcreate
  have hpersisted := persist_eq_ok hpersist
  have hne : P.derive (claimSeeds vaa.1) ≠ accs.endpoint.key := by
    rw [← hendpointKey]
    refine hfree.ne (hused _ (.inl ⟨_, hread, rfl⟩)) (hused _ (.inr ⟨_, _, hread, hpayload, rfl⟩)) ?_
    rw [claimSeeds_length, endpointSeeds_length]
    decide
  have hexecuted : Executed P L L' vaa.1 (· = accs.endpoint.key) := by
    refine executed_of hverify hmutClaim hclaim ?_ h (fun k _ => Kept.refl L' k)
    intro k hk
    have hk' : k ≠ accs.endpoint.key := by
      rcases hk with rfl | hk
      · exact hne
      · exact hk
    exact (hcreated.kept k hk').trans (hpersisted.kept hk')
  have hclaimed := ClaimableVAA.claimIt_eq_ok hclaim
  rw [ClaimableVAA.verify, verifyDerivation, ensure_eq_ok] at hverify
  refine ⟨vaa.1, vaa.2.1, hread, hpayload, ?_⟩
  constructor
  · rw [endpointKey, hendpointKey]
    intro howner
    refine hcreated.not_owned ?_
    exact (hclaimed.kept _ (hverify ▸ hne.symm)).1.mpr howner
  · rw [endpointKey, hendpointKey]
    have hlength : (AccountData.serialize endpoint).length =
        (EndpointRegistration.codec.write ⟨UInt16.ofNat vaa.2.1.chain, vaa.2.1.endpointAddress⟩).length := by
      show (EndpointRegistration.codec.write endpoint).length = _
      rw [EndpointRegistration.write_length, EndpointRegistration.write_length]
    have hafter := hpersisted.holds hmut hcreated.holds (List.length_replicate.trans hlength)
    exact ((persist_eq_ok h).kept (hverify ▸ hne.symm)).holds hafter
  · rw [endpointKey, hendpointKey]
    exact hexecuted

/-- What the execution of a transfer or an attestation does: its emitter is registered. -/
structure VaaExecuted (P : TokenBridgeProgram Pubkey) (L L' : Ledger Pubkey) (message : AccountMeta Pubkey)
    (touched : Pubkey → Prop) (m : MessageData) : Prop where
  read : MessageData.deserialize (L message.key).data = .ok m
  registered : Registered P L m.emitterChain m.emitterAddress
  executed : Executed P L L' m touched

/-- A transfer is completed for a registered emitter, and touches no account of the bridge but the claim, -/
theorem completeNative_eq_ok (hspl : SplKeeps P) {accs : CompleteNative Pubkey}
    (h : completeNative P L accs = .ok L') : ∃ m, VaaExecuted P L L' accs.vaa.message (fun _ => False) m := by
  iterate 3 obtain ⟨_, -, h⟩ := Failing.bind_eq_ok.mp h
  obtain ⟨vaa, hvaa, h⟩ := Failing.bind_eq_ok.mp h
  obtain ⟨endpoint, hendpoint, h⟩ := Failing.bind_eq_ok.mp h
  iterate 6 obtain ⟨_, -, h⟩ := Failing.bind_eq_ok.mp h
  obtain ⟨_, hendpointKey, h⟩ := Failing.bind_eq_ok.mp h
  iterate 9 obtain ⟨_, -, h⟩ := Failing.bind_eq_ok.mp h
  obtain ⟨_, hverify, h⟩ := Failing.bind_eq_ok.mp h
  obtain ⟨claimed, hclaim, h⟩ := Failing.bind_eq_ok.mp h
  iterate 3 obtain ⟨_, -, h⟩ := Failing.bind_eq_ok.mp h
  obtain ⟨L₁, hpay, h⟩ := Failing.bind_eq_ok.mp h
  obtain ⟨L₂, hfee, h⟩ := Failing.bind_eq_ok.mp h
  obtain ⟨⟨posted, hposted, hmessage⟩, -, -, -, hmutClaim⟩ := ClaimableVAA.peel_eq_ok hvaa
  obtain ⟨message, hread, rfl⟩ := Failing.map_eq_ok.mp hposted
  obtain rfl : message = vaa.1 := hmessage
  refine ⟨vaa.1, hread, registered_of_peel hendpoint hendpointKey, ?_⟩
  refine executed_of hverify hmutClaim hclaim ?_ h (fun k _ => Kept.refl L' k)
  intro k _
  exact (hspl _ _ _ _ hpay k).trans (hspl _ _ _ _ hfee k)

/-- and so is one of wrapped tokens. -/
theorem completeWrapped_eq_ok (hspl : SplKeeps P) {accs : CompleteWrapped Pubkey}
    (h : completeWrapped P L accs = .ok L') : ∃ m, VaaExecuted P L L' accs.vaa.message (fun _ => False) m := by
  iterate 3 obtain ⟨_, -, h⟩ := Failing.bind_eq_ok.mp h
  obtain ⟨vaa, hvaa, h⟩ := Failing.bind_eq_ok.mp h
  obtain ⟨endpoint, hendpoint, h⟩ := Failing.bind_eq_ok.mp h
  iterate 7 obtain ⟨_, -, h⟩ := Failing.bind_eq_ok.mp h
  obtain ⟨_, hendpointKey, h⟩ := Failing.bind_eq_ok.mp h
  iterate 6 obtain ⟨_, -, h⟩ := Failing.bind_eq_ok.mp h
  obtain ⟨_, hverify, h⟩ := Failing.bind_eq_ok.mp h
  obtain ⟨claimed, hclaim, h⟩ := Failing.bind_eq_ok.mp h
  iterate 3 obtain ⟨_, -, h⟩ := Failing.bind_eq_ok.mp h
  obtain ⟨L₁, hpay, h⟩ := Failing.bind_eq_ok.mp h
  obtain ⟨L₂, hfee, h⟩ := Failing.bind_eq_ok.mp h
  obtain ⟨⟨posted, hposted, hmessage⟩, -, -, -, hmutClaim⟩ := ClaimableVAA.peel_eq_ok hvaa
  obtain ⟨message, hread, rfl⟩ := Failing.map_eq_ok.mp hposted
  obtain rfl : message = vaa.1 := hmessage
  refine ⟨vaa.1, hread, registered_of_peel hendpoint hendpointKey, ?_⟩
  refine executed_of hverify hmutClaim hclaim ?_ h (fun k _ => Kept.refl L' k)
  intro k _
  exact (hspl _ _ _ _ hpay k).trans (hspl _ _ _ _ hfee k)

/-- Creating or updating the accounts of a wrapped token touches its meta account only. -/
theorem createOrUpdate_kept (hspl : SplKeeps P) {accs : CreateWrapped Pubkey} {vaa : PayloadAssetMeta}
    {wrapped : WrappedMeta} {r : Ledger Pubkey × WrappedMeta}
    (h : createOrUpdate P L accs vaa wrapped = .ok r) {k : Pubkey} (hk : k ≠ accs.wrappedMeta.key) :
    Kept P.toProgram L r.1 k := by
  unfold createOrUpdate at h
  split at h
  · obtain ⟨_, -, h⟩ := Failing.bind_eq_ok.mp h
    obtain ⟨_, -, h⟩ := Failing.bind_eq_ok.mp h
    obtain ⟨L₁, hinvoke, h⟩ := Failing.bind_eq_ok.mp h
    rw [← Except.ok.inj h]
    exact hspl _ _ _ _ hinvoke k
  · obtain ⟨L₁, hmint, h⟩ := Failing.bind_eq_ok.mp h
    obtain ⟨L₂, hinit, h⟩ := Failing.bind_eq_ok.mp h
    obtain ⟨L₃, hcreate, h⟩ := Failing.bind_eq_ok.mp h
    obtain ⟨_, -, h⟩ := Failing.bind_eq_ok.mp h
    obtain ⟨L₄, hinvoke, h⟩ := Failing.bind_eq_ok.mp h
    rw [← Except.ok.inj h]
    have hmintKept := (createAccount_eq_ok hmint).kept_foreign P.programId_ne_token.symm k
    have hmetaKept := (create_eq_ok hcreate).kept k hk
    exact ((hmintKept.trans (hspl _ _ _ _ hinit k)).trans hmetaKept).trans (hspl _ _ _ _ hinvoke k)

/-- An attestation is taken from a registered emitter too, and touches the meta account besides. -/
theorem createWrapped_eq_ok (hfree : P.CollisionFree used) (hspl : SplKeeps P) {accs : CreateWrapped Pubkey}
    (hused : ∀ seeds, Input.Derives P L (.createWrapped accs) seeds → seeds ∈ used)
    (h : createWrapped P L accs = .ok L') : ∃ m, VaaExecuted P L L' accs.vaa.message
      (· = P.derive (wrappedMetaSeeds (P.toBytes accs.mint.key))) m := by
  iterate 3 obtain ⟨_, -, h⟩ := Failing.bind_eq_ok.mp h
  obtain ⟨endpoint, hendpoint, h⟩ := Failing.bind_eq_ok.mp h
  obtain ⟨vaa, hvaa, h⟩ := Failing.bind_eq_ok.mp h
  iterate 9 obtain ⟨_, -, h⟩ := Failing.bind_eq_ok.mp h
  obtain ⟨_, hmetaKey, h⟩ := Failing.bind_eq_ok.mp h
  obtain ⟨_, hendpointKey, h⟩ := Failing.bind_eq_ok.mp h
  obtain ⟨_, hverify, h⟩ := Failing.bind_eq_ok.mp h
  obtain ⟨claimed, hclaim, h⟩ := Failing.bind_eq_ok.mp h
  obtain ⟨done, hdone, h⟩ := Failing.bind_eq_ok.mp h
  obtain ⟨L₁, hpersistClaim, h⟩ := Failing.bind_eq_ok.mp h
  rw [verifyDerivation, ensure_eq_ok] at hmetaKey
  obtain ⟨⟨posted, hposted, hmessage⟩, -, -, -, hmutClaim⟩ := ClaimableVAA.peel_eq_ok hvaa
  obtain ⟨message, hread, rfl⟩ := Failing.map_eq_ok.mp hposted
  obtain rfl : message = vaa.1 := hmessage
  refine ⟨vaa.1, hread, registered_of_peel hendpoint hendpointKey, ?_⟩
  rw [hmetaKey]
  have hne : ∀ k, k = P.derive (claimSeeds vaa.1) ∨ ¬k = accs.wrappedMeta.key → k ≠ accs.wrappedMeta.key := by
    rintro k (rfl | hk)
    · rw [← hmetaKey]
      refine hfree.ne (hused _ (.inl ⟨_, hread, rfl⟩)) (hused _ (.inr (.inr rfl))) ?_
      rw [claimSeeds_length, wrappedMetaSeeds_length]
      decide
    · exact hk
  refine executed_of hverify hmutClaim hclaim ?_ hpersistClaim ?_
  · intro k hk
    exact createOrUpdate_kept hspl hdone (hne k hk)
  · intro k hk
    exact (persist_eq_ok h).kept (hne k hk)

/-- The initialisation touches the configuration only. -/
theorem initializeConfig_eq_ok {accs : Initialize Pubkey} {data : InitializeData}
    (h : initializeConfig P L accs data = .ok L') {k : Pubkey} (hk : k ≠ P.derive [configSeed]) :
    Kept P.toProgram L L' k := by
  iterate 3 obtain ⟨_, -, h⟩ := Failing.bind_eq_ok.mp h
  obtain ⟨_, hkey, h⟩ := Failing.bind_eq_ok.mp h
  obtain ⟨config, -, h⟩ := Failing.bind_eq_ok.mp h
  obtain ⟨L₁, hcreate, h⟩ := Failing.bind_eq_ok.mp h
  rw [peelDerive, ensure_eq_ok] at hkey
  rw [hkey] at hk
  exact ((create_eq_ok hcreate).kept k hk).trans ((persist_eq_ok h).kept hk)

/-! ## Steps -/

omit [DecidableEq Pubkey] in
/-- The emitters that an instruction registers, if it succeeds. -/
def registrations (L : Ledger Pubkey) : Input Pubkey → List (UInt16 × FixedBytes 32)
  | .registerChain accs =>
    match MessageData.deserialize (L accs.vaa.message.key).data with
    | .error _ => []
    | .ok m =>
      match PayloadGovernanceRegisterChain.deserialize m.payload.val with
      | .error _ => []
      | .ok p => [(UInt16.ofNat p.chain, p.endpointAddress)]
  | _ => []

omit [DecidableEq Pubkey] in
/-- The account of the VAA of a transfer or an attestation. -/
def Input.executes : Input Pubkey → Option (AccountMeta Pubkey)
  | .completeNative accs => some accs.vaa.message
  | .completeWrapped accs => some accs.vaa.message
  | .createWrapped accs => some accs.vaa.message
  | _ => none

/-- A transfer or an attestation of the emitter is accepted. -/
def Accepts (P : TokenBridgeProgram Pubkey) (used : Set (List (List UInt8))) (L : Ledger Pubkey) (chain : UInt16)
    (address : FixedBytes 32) : Prop :=
  ∃ input message m L', Input.executes input = some message ∧ (∀ seeds, input.Derives P L seeds → seeds ∈ used) ∧
    MessageData.deserialize (L message.key).data = .ok m ∧ m.emitterChain = chain ∧ m.emitterAddress = address ∧
    step P L input = some L'

/-- **Only registered emitters are accepted.** -/
theorem Accepts.registered (hfree : P.CollisionFree used) (hspl : SplKeeps P) {chain : UInt16}
    {address : FixedBytes 32} (h : Accepts P used L chain address) :
    endpointSeeds chain address ∈ used ∧ Registered P L chain address := by
  obtain ⟨input, message, m, L', hmessage, hused, hread, rfl, rfl, hstep⟩ := h
  have hexecute : execute P L input = .ok L' := Failing.toOption_eq_some hstep
  have hsame : ∀ {touched : Pubkey → Prop}, (∃ m', VaaExecuted P L L' message touched m') →
      Registered P L m.emitterChain m.emitterAddress := by
    rintro touched ⟨m', hdone⟩
    obtain rfl : m = m' := Except.ok.inj (hread.symm.trans hdone.read)
    exact hdone.registered
  cases input with
  | completeNative accs =>
    obtain rfl := Option.some.inj hmessage
    exact ⟨hused _ (.inr ⟨m, hread, rfl⟩), hsame (completeNative_eq_ok hspl hexecute)⟩
  | completeWrapped accs =>
    obtain rfl := Option.some.inj hmessage
    exact ⟨hused _ (.inr ⟨m, hread, rfl⟩), hsame (completeWrapped_eq_ok hspl hexecute)⟩
  | createWrapped accs =>
    obtain rfl := Option.some.inj hmessage
    exact ⟨hused _ (.inr (.inl ⟨m, hread, rfl⟩)), hsame (createWrapped_eq_ok hfree hspl hused hexecute)⟩
  | initializeConfig accs data => cases hmessage
  | registerChain accs => cases hmessage
  | others L' => cases hmessage

omit [DecidableEq Pubkey] in
/-- An instruction that touches other addresses keeps the endpoints. -/
theorem Executed.endpoint_kept (hfree : P.CollisionFree used) {m : MessageData} {touched : Pubkey → Prop}
    (h : Executed P L L' m touched) (hm : claimSeeds m ∈ used) {chain : UInt16} {address : FixedBytes 32}
    (hused : endpointSeeds chain address ∈ used)
    (htouched : ¬touched (endpointKey P chain address)) :
    Kept P.toProgram L L' (endpointKey P chain address) := by
  refine h.others _ (hfree.ne hused hm ?_) htouched
  rw [endpointSeeds_length, claimSeeds_length]
  decide

/-- What a step does to the account of an emitter. -/
theorem endpoint_step (hfree : P.CollisionFree used) (hspl : SplKeeps P)
    (hadmissible : input.Admissible P used L) (hstep : step P L input = some L') {chain : UInt16}
    {address : FixedBytes 32} (hused : endpointSeeds chain address ∈ used) :
    ((chain, address) ∈ registrations L input ∧ Holds P.toProgram L' (endpointKey P chain address)
        (EndpointRegistration.codec.write ⟨chain, address⟩)) ∨
      ((chain, address) ∉ registrations L input ∧
        Kept P.toProgram L L' (endpointKey P chain address)) := by
  have h : execute P L input = .ok L' := Failing.toOption_eq_some hstep
  have hseeds := hadmissible.seeds
  cases input with
  | registerChain accs =>
    obtain ⟨m, p, hread, hpayload, hdone⟩ := registerChain_eq_ok hfree hseeds h
    have hregistrations : registrations L (.registerChain accs) =
        [(UInt16.ofNat p.chain, p.endpointAddress)] := by
      simp only [registrations, hread, hpayload]
    rw [hregistrations, List.mem_singleton]
    by_cases hsame : (chain, address) = (UInt16.ofNat p.chain, p.endpointAddress)
    · obtain ⟨rfl, rfl⟩ := Prod.mk.inj hsame
      exact .inl ⟨rfl, hdone.endpoint⟩
    · refine .inr ⟨hsame, hdone.executed.endpoint_kept hfree (hseeds _ (.inl ⟨m, hread, rfl⟩)) hused ?_⟩
      intro hkey
      obtain ⟨hchain, haddress⟩ :=
        endpoint_injective hfree hused (hseeds _ (.inr ⟨m, p, hread, hpayload, rfl⟩)) hkey
      exact hsame (Prod.ext hchain haddress)
  | completeNative accs =>
    obtain ⟨m, hdone⟩ := completeNative_eq_ok hspl h
    have hclaim := hseeds _ (.inl ⟨m, hdone.read, rfl⟩)
    exact .inr ⟨List.not_mem_nil, hdone.executed.endpoint_kept hfree hclaim hused not_false⟩
  | completeWrapped accs =>
    obtain ⟨m, hdone⟩ := completeWrapped_eq_ok hspl h
    have hclaim := hseeds _ (.inl ⟨m, hdone.read, rfl⟩)
    exact .inr ⟨List.not_mem_nil, hdone.executed.endpoint_kept hfree hclaim hused not_false⟩
  | createWrapped accs =>
    obtain ⟨m, hdone⟩ := createWrapped_eq_ok hfree hspl hseeds h
    have hclaim := hseeds _ (.inl ⟨m, hdone.read, rfl⟩)
    have hmeta := hseeds _ (.inr (.inr rfl))
    refine .inr ⟨List.not_mem_nil, hdone.executed.endpoint_kept hfree hclaim hused (hfree.ne hused hmeta ?_)⟩
    rw [endpointSeeds_length, wrappedMetaSeeds_length]
    decide
  | initializeConfig accs data =>
    refine .inr ⟨List.not_mem_nil, initializeConfig_eq_ok h (hfree.ne hused hfree.config ?_)⟩
    rw [endpointSeeds_length]
    decide
  | others Ln =>
    obtain rfl := Except.ok.inj h
    rcases hadmissible.others Ln rfl (endpointKey P chain address) with hkept | ⟨hfresh, -, -⟩
    · exact .inr ⟨List.not_mem_nil, hkept⟩
    · exact absurd ⟨_, hused, rfl⟩ hfresh

/-! ## Runs -/

omit [DecidableEq Pubkey] in
/-- The seeds of what an instruction registers come up in it. -/
theorem derives_of_registrations {chain : UInt16} {address : FixedBytes 32}
    (h : (chain, address) ∈ registrations L input) : input.Derives P L (endpointSeeds chain address) := by
  cases input with
  | registerChain accs =>
    simp only [registrations] at h
    split at h
    · cases h
    · rename_i m hread
      split at h
      · cases h
      · rename_i p hpayload
        obtain ⟨rfl, rfl⟩ := Prod.mk.inj (List.mem_singleton.mp h)
        exact .inr ⟨m, p, hread, hpayload, rfl⟩
  | _ => cases h

/-- The accounts of emitters are those that the log has. -/
structure Recorded (P : TokenBridgeProgram Pubkey) (used : Set (List (List UInt8)))
    (s : Ledger Pubkey × List (UInt16 × FixedBytes 32)) : Prop where
  seeds : ∀ chain address, (chain, address) ∈ s.2 → endpointSeeds chain address ∈ used
  owned : ∀ chain address, endpointSeeds chain address ∈ used →
    (s.1 (endpointKey P chain address)).owner = P.programId → (chain, address) ∈ s.2
  logged : ∀ chain address, (chain, address) ∈ s.2 → Registered P s.1 chain address

/-- **Step lemma.**  A registration adds an endpoint and its entry in the log, and nothing else adds either. -/
theorem Recorded.of_step (hfree : P.CollisionFree used) (hspl : SplKeeps P)
    {s t : Ledger Pubkey × List (UInt16 × FixedBytes 32)} (h : Recorded P used s)
    (hadmissible : input.Admissible P used s.1) (hstep : logging (step P) registrations s input = some t) :
    Recorded P used t := by
  obtain ⟨hmove, hlog⟩ := logging_eq_some.mp hstep
  have hregistered : ∀ chain address, (chain, address) ∈ t.2 → endpointSeeds chain address ∈ used := by
    intro chain address hmem
    rw [hlog] at hmem
    rcases List.mem_append.mp hmem with hold | hnew
    · exact h.seeds chain address hold
    · exact hadmissible.seeds _ (derives_of_registrations hnew)
  refine ⟨hregistered, ?_, ?_⟩
  · intro chain address hused howner
    rw [hlog, List.mem_append]
    rcases endpoint_step hfree hspl hadmissible hmove hused with ⟨hnew, -⟩ | ⟨-, hkept⟩
    · exact .inr hnew
    · exact .inl (h.owned chain address hused (hkept.1.mp howner))
  · intro chain address hmem
    rcases endpoint_step hfree hspl hadmissible hmove (hregistered chain address hmem)
      with ⟨-, hholds⟩ | ⟨hnone, hkept⟩
    · exact ⟨_, hholds⟩
    · rw [hlog] at hmem
      rcases List.mem_append.mp hmem with hold | hnew
      · obtain ⟨e, he⟩ := h.logged chain address hold
        exact ⟨e, hkept.holds he⟩
      · exact absurd hnew hnone

/-- Before the program is initialized it owns nothing. -/
def Undeployed (P : TokenBridgeProgram Pubkey) (L : Ledger Pubkey) : Prop := ∀ k, (L k).owner ≠ P.programId

section Runs

variable {L₀ : Ledger Pubkey} {log : List (UInt16 × FixedBytes 32)}

/-- **Run lemma.**  The log of a run says what is registered. -/
theorem recorded_run (hfree : P.CollisionFree used) (hspl : SplKeeps P) (h₀ : Undeployed P L₀)
    (hrun : Run (logging (step P) registrations) (fun s input => input.Admissible P used s.1) (L₀, []) (L, log)) :
    Recorded P used (L, log) := by
  have hstart : Recorded P used (L₀, []) := by
    refine ⟨?_, fun _ _ _ howner => absurd howner (h₀ _), ?_⟩
    · intro chain address hmem
      exact absurd hmem List.not_mem_nil
    · intro chain address hmem
      exact absurd hmem List.not_mem_nil
  refine hrun.invariant ?_ hstart
  intro s input t hs hok hstep
  exact hs.of_step hfree hspl hok hstep

/-- **The registered emitters** are those that a governance VAA has registered. -/
theorem registered_iff (hfree : P.CollisionFree used) (hspl : SplKeeps P) (h₀ : Undeployed P L₀)
    (hrun : Run (logging (step P) registrations) (fun s input => input.Admissible P used s.1) (L₀, []) (L, log))
    {chain : UInt16} {address : FixedBytes 32} (hused : endpointSeeds chain address ∈ used) :
    Registered P L chain address ↔ (chain, address) ∈ log := by
  have hrecorded := recorded_run hfree hspl h₀ hrun
  constructor
  · rintro ⟨e, he⟩
    exact hrecorded.owned chain address hused he.1
  · exact hrecorded.logged chain address

/-- Each chain has at most one emitter that is registered, and at most one that is accepted, among those whose
endpoints have seeds in use. -/
structure OneEmitter (P : TokenBridgeProgram Pubkey) (used : Set (List (List UInt8))) (L : Ledger Pubkey) :
    Prop where
  registered : ∀ chain a b, endpointSeeds chain a ∈ used → endpointSeeds chain b ∈ used →
    Registered P L chain a → Registered P L chain b → a = b
  accepts : ∀ chain a b, Accepts P used L chain a → Accepts P used L chain b → a = b

/-- **There is one emitter for each chain exactly if no two governance VAAs have registered different ones**, in
every state of every run. -/
theorem oneEmitter_iff (hfree : P.CollisionFree used) (hspl : SplKeeps P) (h₀ : Undeployed P L₀)
    (hrun : Run (logging (step P) registrations) (fun s input => input.Admissible P used s.1) (L₀, []) (L, log)) :
    OneEmitter P used L ↔ ∀ chain a b, (chain, a) ∈ log → (chain, b) ∈ log → a = b := by
  have hrecorded := recorded_run hfree hspl h₀ hrun
  constructor
  · intro h chain a b ha hb
    exact h.registered chain a b (hrecorded.seeds chain a ha) (hrecorded.seeds chain b hb)
      (hrecorded.logged chain a ha) (hrecorded.logged chain b hb)
  · intro h
    have hone : ∀ chain a b, endpointSeeds chain a ∈ used → endpointSeeds chain b ∈ used →
        Registered P L chain a → Registered P L chain b → a = b := by
      intro chain a b husedA husedB ha hb
      exact h chain a b ((registered_iff hfree hspl h₀ hrun husedA).mp ha)
        ((registered_iff hfree hspl h₀ hrun husedB).mp hb)
    refine ⟨hone, ?_⟩
    intro chain a b ha hb
    obtain ⟨husedA, hregisteredA⟩ := ha.registered hfree hspl
    obtain ⟨husedB, hregisteredB⟩ := hb.registered hfree hspl
    exact hone chain a b husedA husedB hregisteredA hregisteredB

end Runs

/-! ## Inputs -/

section Samples

/-- Addresses: those that sign, and those that are derived from seeds. -/
abbrev SampleKey := Nat ⊕ List UInt8

theorem sampleBytes_length (n : Nat) : (beBytes 32 n).length = 32 := beBytes_length 32 n

/-- The bytes of the address of a key. -/
def sampleBytes : SampleKey → FixedBytes 32
  | .inl n => ⟨beBytes 32 n, sampleBytes_length n⟩
  | .inr _ => zeros 32

/-- The address with these bytes, among those of the accounts below. -/
def sampleAddress (bytes : List UInt8) : SampleKey :=
  if bytes = (zeros 32).val then .inr custodySignerSeed else .inl (beNat bytes)

/-- Nothing that is invoked below moves an amount. -/
def sampleProgram : TokenBridgeProgram SampleKey where
  programId := .inl 0
  systemProgram := .inl 1
  clock := .inl 2
  instructions := .inl 3
  toBytes := sampleBytes
  findProgramAddress := fun seeds _ => (.inr seeds.flatten, 255)
  programId_ne_system := by decide
  bridgeAddress := .inl 6
  tokenProgram := .inl 7
  tokenMetadataProgram := .inl 8
  EMITTER_ADDRESS := sampleBytes (.inl 4)
  unpackMint := fun data =>
    if data.length = MINT_LEN then .ok ⟨data.getD 44 0x00⟩ else .error .ioError
  unpackAccount := fun data =>
    if data.length = 165 then
      .ok { mint := sampleAddress (data.take 32)
            owner := sampleAddress ((data.drop 32).take 32) }
    else .error .ioError
  unpackMetadata := fun _ => none
  chars := fun data => data.map fun b => Char.ofNat b.toNat
  invoke := fun L _ _ => .ok L
  programId_ne_token := by decide

/-- A posted VAA. -/
def samplePostedVaa (chain : UInt16) (emitter : SampleKey) (sequence : UInt64) (payload : Vec UInt8) :
    Account SampleKey where
  lamports := 1
  owner := .inl 6
  data := AccountData.serialize (PostedVAAData.mk { MessageData.new with
    emitterChain := chain
    emitterAddress := sampleBytes emitter
    sequence
    payload })

/-- The registration of an emitter of the chain 2. -/
def sampleRegistration (emitter : SampleKey) : Vec UInt8 :=
  ⟨padModule MODULE ++ [0x01] ++ beBytes 2 0 ++ beBytes 2 2 ++ (sampleBytes emitter).val, by
    simp [(sampleBytes emitter).property, padModule, MODULE]⟩

/-- A transfer of nothing, of the mint 20 to the account 21. -/
def sampleTransfer : Vec UInt8 :=
  ⟨PayloadTransfer.serialize
    { amount := 0
      tokenAddress := sampleBytes (.inl 20)
      tokenChain := 1
      to' := sampleBytes (.inl 21)
      toChain := 1
      fee := 0 }, by decide +kernel⟩

/-- A token account of the mint 20. -/
def sampleTokenAccount : Account SampleKey where
  lamports := 1
  owner := .inl 7
  data := (sampleBytes (.inl 20)).val ++ List.replicate 133 0x00

/-- Governance has registered the emitters 50 and 51 of the chain 2, and each has sent a transfer. -/
def sampleLedger : Ledger SampleKey
  | .inl 10 => ⟨10 ^ 12, .inl 1, []⟩
  | .inl 20 => ⟨1, .inl 7, List.replicate MINT_LEN 0x00⟩
  | .inl 21 => sampleTokenAccount
  | .inl 30 => samplePostedVaa 1 (.inl 4) 1 (sampleRegistration (.inl 50))
  | .inl 31 => samplePostedVaa 1 (.inl 4) 2 (sampleRegistration (.inl 51))
  | .inl 32 => samplePostedVaa 2 (.inl 50) 7 sampleTransfer
  | .inl 33 => samplePostedVaa 2 (.inl 51) 7 sampleTransfer
  | k => if k = .inr (custodySeeds (sampleBytes (.inl 20))).flatten then sampleTokenAccount else ⟨0, .inl 1, []⟩

/-- Who pays and signs. -/
def samplePayer : AccountMeta SampleKey := ⟨.inl 10, true, true⟩

def sampleWritable (seeds : List (List UInt8)) : AccountMeta SampleKey := ⟨.inr seeds.flatten, false, true⟩

def sampleReadonly (k : SampleKey) : AccountMeta SampleKey := ⟨k, false, false⟩

/-- A VAA in the account `message`, with the claim that belongs to it. -/
def sampleVaa (message : Nat) (chain : Nat) (emitter : SampleKey) (sequence : Nat) : ClaimableVAA SampleKey where
  message := sampleReadonly (.inl message)
  claim := sampleWritable [(sampleBytes emitter).val, beBytes 2 chain, beBytes 8 sequence]

/-- The bridge is initialized. -/
def sampleInitialize : Input SampleKey :=
  .initializeConfig
    { payer := samplePayer
      config := sampleWritable [configSeed] }
    { bridge := sampleBytes (.inl 6) }

/-- An emitter of the chain 2 is registered. -/
def sampleRegister (message sequence : Nat) (emitter : SampleKey) : Input SampleKey :=
  .registerChain
    { payer := samplePayer
      config := sampleReadonly (.inr configSeed)
      endpoint := sampleWritable (endpointSeeds 2 (sampleBytes emitter))
      vaa := sampleVaa message 1 (.inl 4) sequence }

/-- A transfer of that emitter is completed. -/
def sampleComplete (message : Nat) (emitter : SampleKey) : Input SampleKey :=
  .completeNative
    { payer := samplePayer
      config := sampleReadonly (.inr configSeed)
      vaa := sampleVaa message 2 emitter 7
      chainRegistration := sampleReadonly (.inr (endpointSeeds 2 (sampleBytes emitter)).flatten)
      to' := ⟨.inl 21, false, true⟩
      toFees := ⟨.inl 21, false, true⟩
      custody := sampleWritable (custodySeeds (sampleBytes (.inl 20)))
      mint := sampleReadonly (.inl 20)
      custodySigner := sampleReadonly (.inr custodySignerSeed) }

/-- The ledger and the log after the first registration. -/
def registeredOnce : Ledger SampleKey × List (UInt16 × FixedBytes 32) :=
  attempts (logging (step sampleProgram) registrations) (sampleLedger, [])
    [sampleInitialize, sampleRegister 30 1 (.inl 50)]

/-- The ledger and the log after both registrations. -/
def sampleRegistered : Ledger SampleKey × List (UInt16 × FixedBytes 32) :=
  attempts (logging (step sampleProgram) registrations) (sampleLedger, [])
    [sampleInitialize, sampleRegister 30 1 (.inl 50), sampleRegister 31 2 (.inl 51)]

/-- The addresses are the seeds here. -/
theorem sampleProgram_collisionFree : TokenBridgeProgram.CollisionFree sampleProgram Set.univ where
  derive _ _ _ _ h := Sum.inr.inj h
  config := Set.mem_univ _

/-- The token program does nothing here. -/
theorem sampleProgram_splKeeps : SplKeeps sampleProgram := by
  intro L ix signed L' h k
  rw [← Except.ok.inj h]
  exact Kept.refl L k

/-- The bridge has nothing yet. -/
theorem sampleLedger_undeployed : Undeployed sampleProgram sampleLedger := by
  intro k
  show (sampleLedger k).owner ≠ .inl 0
  unfold sampleLedger
  split
  case h_8 =>
    split
    · decide
    · decide
  all_goals decide

/-- Of the accounts below only the payer signs. -/
theorem sample_admissible {L : Ledger SampleKey} {input : Input SampleKey}
    (hsigners : ∀ m ∈ input.metas, m.isSigner = true → m.key.isLeft = true)
    (hothers : ∀ L', input ≠ .others L') : input.Admissible sampleProgram Set.univ L := by
  refine ⟨?_, fun L' h => absurd h (hothers L'), fun _ _ => Set.mem_univ _⟩
  rintro m hm hsigner ⟨seeds, -, hkey⟩
  have hleft := hsigners m hm hsigner
  rw [hkey] at hleft
  cases hleft

/-- To initialize and to register once is a run, -/
theorem registeredOnce_run :
    Run (logging (step sampleProgram) registrations) (fun s input => input.Admissible sampleProgram Set.univ s.1)
      (sampleLedger, []) registeredOnce := by
  rw [registeredOnce, attempts_cons, attempts_cons, attempts_nil]
  refine ((Run.refl _).attempt sampleInitialize ?_).attempt (sampleRegister 30 1 (.inl 50)) ?_
  · exact sample_admissible (by decide) (by rintro L' ⟨⟩)
  · exact sample_admissible (by decide) (by rintro L' ⟨⟩)

/-- The second registration comes behind the first. -/
theorem sampleRegistered_eq :
    attempt (logging (step sampleProgram) registrations) registeredOnce (sampleRegister 31 2 (.inl 51)) =
      sampleRegistered := by
  rw [sampleRegistered, registeredOnce]
  simp only [attempts_cons, attempts_nil]

/-- and so is to register both. -/
theorem sampleRegistered_run :
    Run (logging (step sampleProgram) registrations) (fun s input => input.Admissible sampleProgram Set.univ s.1)
      (sampleLedger, []) sampleRegistered := by
  rw [← sampleRegistered_eq]
  exact registeredOnce_run.attempt _ (sample_admissible (by decide) (by rintro L' ⟨⟩))

/-- A transfer that succeeds is one that is accepted. -/
theorem accepts_of_complete {L : Ledger SampleKey} {message : Nat} {emitter : SampleKey}
    (hread : MessageData.deserialize (L (.inl message)).data = .ok { MessageData.new with
      emitterChain := 2
      emitterAddress := sampleBytes emitter
      sequence := 7
      payload := sampleTransfer })
    (h : (step sampleProgram L (sampleComplete message emitter)).isSome = true) :
    Accepts sampleProgram Set.univ L 2 (sampleBytes emitter) := by
  obtain ⟨L', hL'⟩ := Option.isSome_iff_exists.mp h
  exact ⟨_, _, _, L', rfl, fun _ _ => Set.mem_univ _, hread, rfl, rfl, hL'⟩

/-- Transfers of two emitters of the chain 2 are accepted. -/
theorem sampleRegistered_accepts :
    Accepts sampleProgram Set.univ sampleRegistered.1 2 (sampleBytes (.inl 50)) ∧
      Accepts sampleProgram Set.univ sampleRegistered.1 2 (sampleBytes (.inl 51)) := by
  have hfirst : (step sampleProgram sampleRegistered.1 (sampleComplete 32 (.inl 50))).isSome = true := by
    decide +kernel
  have hsecond : (step sampleProgram sampleRegistered.1 (sampleComplete 33 (.inl 51))).isSome = true := by
    decide +kernel
  exact ⟨accepts_of_complete (by decide +kernel) hfirst, accepts_of_complete (by decide +kernel) hsecond⟩

/-- Then two emitters of one chain are accepted. -/
theorem sampleRegistered_not_one :
    Run (logging (step sampleProgram) registrations) (fun s input => input.Admissible sampleProgram Set.univ s.1)
      (sampleLedger, []) sampleRegistered ∧ ¬OneEmitter sampleProgram Set.univ sampleRegistered.1 := by
  refine ⟨sampleRegistered_run, ?_⟩
  intro h
  have hsame := h.accepts 2 _ _ sampleRegistered_accepts.1 sampleRegistered_accepts.2
  exact absurd hsame (by decide)

/-- One emitter has been registered. -/
theorem registeredOnce_log : registeredOnce.2 = [(2, sampleBytes (.inl 50))] := by decide +kernel

/-- With one registration there is one emitter, whose transfer is accepted. -/
theorem registeredOnce_oneEmitter : OneEmitter sampleProgram Set.univ registeredOnce.1 ∧
    Accepts sampleProgram Set.univ registeredOnce.1 2 (sampleBytes (.inl 50)) := by
  have hcomplete : (step sampleProgram registeredOnce.1 (sampleComplete 32 (.inl 50))).isSome = true := by
    decide +kernel
  have haccepts := accepts_of_complete (by decide +kernel) hcomplete
  have hrun := registeredOnce_run
  have hlog := registeredOnce_log
  generalize registeredOnce = s at hrun hlog haccepts ⊢
  refine ⟨?_, haccepts⟩
  refine (oneEmitter_iff sampleProgram_collisionFree sampleProgram_splKeeps sampleLedger_undeployed hrun).mpr ?_
  rw [hlog]
  intro chain a b ha hb
  rw [List.mem_singleton] at ha hb
  exact (Prod.mk.inj (ha.trans hb.symm)).2

end Samples

end Wormhole.Solana.TokenBridge

/-
# Wormhole.Solana.Instructions — what the instructions of the core program do to its accounts.

One lemma for each instruction: what it has read of the ledger, which accounts of the program it has created
or written, with which data, and that the other accounts of the program are kept.  Nothing of a handler is
needed behind these lemmas.
-/
import Mathlib
import Wormhole.Lib.Bytes
import Wormhole.Lib.Failing
import Wormhole.Lib.Codec
import Wormhole.Solana.Payloads
import Wormhole.Solana.Solitaire
import Wormhole.Solana.Accounts
import Wormhole.Solana.Core

namespace Wormhole.Solana

open Wormhole.Lib Wormhole.Lib.Bytes

variable {Pubkey : Type} [DecidableEq Pubkey]

/-! ## Numbers and lists -/

/-- A 256-bit number that is read as one of 64 bits is the same. -/
theorem asU64_eq_ok {n : Nat} {a : UInt64} (h : asU64 n = .ok a) : a.toNat = n := by
  unfold asU64 at h
  split at h
  · rw [← Except.ok.inj h]
    exact UInt64.toNat_ofNat_of_lt' ‹_›
  · cases h

theorem toVec_eq_ok {α : Type} {l : List α} {v : Vec α} (h : toVec l = .ok v) : v.val = l := by
  unfold toVec at h
  split at h
  · rw [← Except.ok.inj h]
  · cases h

/-! ## Claims -/

section Claims

variable {P : Program Pubkey} {L L' : Ledger Pubkey} {v : ClaimableVAA Pubkey}

theorem ClaimableVAA.peel_eq_ok {T : Type} {bridge : Pubkey} {deserialize : List UInt8 → Result T}
    {r : MessageData × T × ClaimData} (h : v.peel P bridge L deserialize = .ok r) :
    (∃ posted : PostedVAAData, AccountData.deserialize (L v.message.key).data = .ok posted ∧
      posted.message = r.1) ∧ (L v.message.key).owner = bridge ∧
      deserialize r.1.payload.val = .ok r.2.1 ∧ r.2.2.claimed = false ∧ v.claim.isWritable = true := by
  obtain ⟨posted, hposted, h⟩ := Failing.bind_eq_ok.mp h
  obtain ⟨payload, hpayload, h⟩ := Failing.bind_eq_ok.mp h
  obtain ⟨_, hmut, h⟩ := Failing.bind_eq_ok.mp h
  obtain ⟨claim, hclaim, h⟩ := Failing.bind_eq_ok.mp h
  rw [← Except.ok.inj h]
  obtain ⟨-, hread, howner⟩ := peelData_initialized.mp hposted
  obtain ⟨-, -, hdefault⟩ := peelData_uninitialized.mp hclaim
  refine ⟨⟨posted, hread, rfl⟩, howner, hpayload, ?_, ensure_eq_ok.mp hmut⟩
  rw [← hdefault]
  rfl

/-- The message that has been peeled. -/
theorem ClaimableVAA.peel_read {T : Type} {bridge : Pubkey} {deserialize : List UInt8 → Result T}
    {r : MessageData × T × ClaimData} (h : v.peel P bridge L deserialize = .ok r) :
    MessageData.deserialize (L v.message.key).data = .ok r.1 := by
  obtain ⟨⟨posted, hposted, hmessage⟩, -⟩ := ClaimableVAA.peel_eq_ok h
  obtain ⟨message, hread, rfl⟩ := Failing.map_eq_ok.mp hposted
  rw [hread]
  exact congrArg Except.ok hmessage

/-- The account of a claim comes into being at its address. -/
theorem ClaimableVAA.claimIt_eq_ok {payer : AccountMeta Pubkey} {m : MessageData} {claim : ClaimData}
    {r : Ledger Pubkey × ClaimData} (h : v.claimIt P L payer m claim = .ok r) :
    Created P L r.1 v.claim (some (P.derive (claimSeeds m))) 1 P.programId := by
  obtain ⟨_, -, h⟩ := Failing.bind_eq_ok.mp h
  obtain ⟨L₁, hcreate, h⟩ := Failing.bind_eq_ok.mp h
  rw [← Except.ok.inj h]
  have hcreated := create_eq_ok hcreate
  rwa [show (AccountData.serialize claim).length = 1 from claim.write_length] at hcreated

end Claims

namespace Core

variable {P : CoreProgram Pubkey} {L L' : Ledger Pubkey} {used : Set (List (List UInt8))}

/-- The address of a guardian set. -/
abbrev guardianSetKey (P : CoreProgram Pubkey) (index : UInt32) : Pubkey :=
  P.derive (guardianSetSeeds index)

/-- The address of a posted VAA. -/
abbrev postedVaaKey (P : CoreProgram Pubkey) (hash : FixedBytes 32) : Pubkey :=
  P.derive (postedVaaSeeds hash)

abbrev bridgeKey (P : CoreProgram Pubkey) : Pubkey := P.derive [bridgeSeed]

theorem peelGuardianSet {immutable : Bool} {m : AccountMeta Pubkey} {g : GuardianSetData}
    (h : peelData GuardianSetData .initialized P.programId L immutable m = .ok g) :
    Holds P.toProgram L m.key (GuardianSetData.codec.write g) := by
  obtain ⟨-, hread, howner⟩ := peelData_initialized.mp h
  exact ⟨howner, Codec.decode_eq_ok.mp hread⟩

theorem peelBridge {immutable : Bool} {m : AccountMeta Pubkey} {b : BridgeData}
    (h : peelData BridgeData .initialized P.programId L immutable m = .ok b) :
    Holds P.toProgram L m.key (BridgeData.codec.write b) := by
  obtain ⟨-, hread, howner⟩ := peelData_initialized.mp h
  exact ⟨howner, Codec.decode_eq_ok.mp hread⟩

theorem peelSignatureSet {immutable : Bool} {m : AccountMeta Pubkey} {s : SignatureSetData}
    (h : peelData SignatureSetData .initialized P.programId L immutable m = .ok s) :
    Holds P.toProgram L m.key (SignatureSetData.codec.write s) := by
  obtain ⟨-, hread, howner⟩ := peelData_initialized.mp h
  exact ⟨howner, Codec.decode_eq_ok.mp hread⟩

/-! ## initialize -/

/-- What `initialize` does. -/
structure Initialized (P : CoreProgram Pubkey) (L L' : Ledger Pubkey) (accs : Initialize Pubkey) (clock : Int)
    (data : InitializeData) : Prop where
  keys : data.initialGuardians.val.length ≤ MAX_LEN_GUARDIAN_KEYS
  signed : accs.guardianSet.isSigner = true ∨ accs.guardianSet.key = guardianSetKey P 0
  newGuardianSet : (L accs.guardianSet.key).owner ≠ P.programId
  newBridge : (L (bridgeKey P)).owner ≠ P.programId
  guardianSet : Holds P.toProgram L' accs.guardianSet.key
    (GuardianSetData.codec.write ⟨0, data.initialGuardians, asU32 clock, 0⟩)
  bridge : ∃ b : BridgeData, b.guardianSetIndex = 0 ∧
    Holds P.toProgram L' (bridgeKey P) (BridgeData.codec.write b)
  others : ∀ k, k ≠ accs.guardianSet.key → k ≠ bridgeKey P → Kept P.toProgram L L' k

theorem initializeBridge_eq_ok {accs : Initialize Pubkey} {clock : Int} {data : InitializeData}
    (h : initializeBridge P L accs clock data = .ok L') : Initialized P L L' accs clock data := by
  obtain ⟨_, hmutBridge, h⟩ := Failing.bind_eq_ok.mp h
  obtain ⟨_, hbridgeKey, h⟩ := Failing.bind_eq_ok.mp h
  obtain ⟨bridge, hbridge, h⟩ := Failing.bind_eq_ok.mp h
  obtain ⟨_, hmutGs, h⟩ := Failing.bind_eq_ok.mp h
  obtain ⟨gs, hgs, h⟩ := Failing.bind_eq_ok.mp h
  obtain ⟨_, -, h⟩ := Failing.bind_eq_ok.mp h
  obtain ⟨_, -, h⟩ := Failing.bind_eq_ok.mp h
  obtain ⟨_, -, h⟩ := Failing.bind_eq_ok.mp h
  obtain ⟨_, -, h⟩ := Failing.bind_eq_ok.mp h
  obtain ⟨_, -, h⟩ := Failing.bind_eq_ok.mp h
  obtain ⟨_, hkeys, h⟩ := Failing.bind_eq_ok.mp h
  obtain ⟨L₁, hcreateGs, h⟩ := Failing.bind_eq_ok.mp h
  obtain ⟨L₂, hcreateBridge, h⟩ := Failing.bind_eq_ok.mp h
  obtain ⟨L₃, hcreateFee, h⟩ := Failing.bind_eq_ok.mp h
  obtain ⟨L₄, hpersistBridge, h⟩ := Failing.bind_eq_ok.mp h
  rw [peelDerive, ensure_eq_ok] at hbridgeKey
  rw [peelMut, ensure_eq_ok] at hmutBridge hmutGs
  rw [ensure_eq_ok] at hkeys
  obtain ⟨-, -, hgsDefault⟩ := peelData_uninitialized.mp hgs
  have hgsCreated := create_eq_ok hcreateGs
  have hbridgeCreated := create_eq_ok hcreateBridge
  have hfeeCreated := createAccount_eq_ok hcreateFee
  have hbridgePersisted := persist_eq_ok hpersistBridge
  have hgsPersisted := persist_eq_ok h
  -- the accounts that are created are different ones
  have hgsAfter := hgsCreated.holds
  have hne : accs.guardianSet.key ≠ accs.bridge.key := hbridgeCreated.ne_of_holds hgsAfter
  have hgsAfter := (hbridgeCreated.kept _ hne).holds hgsAfter
  have hbridgeAfter := hbridgeCreated.holds
  have hgsAfter := (hfeeCreated.kept _ (hfeeCreated.ne_of_holds hgsAfter)).holds hgsAfter
  have hbridgeAfter := (hfeeCreated.kept _ (hfeeCreated.ne_of_holds hbridgeAfter)).holds hbridgeAfter
  -- and their data are written
  have hbridgeAfter := hbridgePersisted.holds hmutBridge hbridgeAfter (by
    rw [List.length_replicate]
    exact (BridgeData.write_length _).trans (BridgeData.write_length _).symm)
  have hgsAfter := (hbridgePersisted.kept hne).holds hgsAfter
  have hgsAfter := hgsPersisted.holds hmutGs hgsAfter List.length_replicate
  have hbridgeAfter := (hgsPersisted.kept hne.symm).holds hbridgeAfter
  subst hgsDefault
  refine ⟨hkeys, ?_, hgsCreated.not_owned, ?_, hgsAfter, ?_, ?_⟩
  · refine hgsCreated.signed.imp_right ?_
    intro hsigned
    exact (Option.some.inj hsigned).symm
  · rw [bridgeKey, hbridgeKey]
    intro howner
    exact hbridgeCreated.not_owned ((hgsCreated.kept _ hne.symm).1.mpr howner)
  · rw [bridgeKey, hbridgeKey]
    exact ⟨{ bridge with
      guardianSetIndex := 0
      config := ⟨data.guardianSetExpirationTime, data.fee⟩
      lastLamports := UInt64.ofNat (L₃ accs.feeCollector.key).lamports }, rfl, hbridgeAfter⟩
  · intro k hkGs hkBridge
    rw [bridgeKey, hbridgeKey] at hkBridge
    have hfee : Kept P.toProgram L₂ L₃ k := hfeeCreated.kept_foreign P.programId_ne_system.symm k
    exact ((((hgsCreated.kept k hkGs).trans (hbridgeCreated.kept k hkBridge)).trans hfee).trans
      (hbridgePersisted.kept hkBridge)).trans (hgsPersisted.kept hkGs)

/-! ## post_message -/

/-- What `post_message` does. -/
structure MessagePosted (P : CoreProgram Pubkey) (L L' : Ledger Pubkey) (accs : PostMessage Pubkey) :
    Prop where
  bridge : ∃ b b' : BridgeData, b'.guardianSetIndex = b.guardianSetIndex ∧ b'.config = b.config ∧
    Holds P.toProgram L (bridgeKey P) (BridgeData.codec.write b) ∧
      Holds P.toProgram L' (bridgeKey P) (BridgeData.codec.write b')
  signer : accs.message.isSigner = true
  newMessage : (L accs.message.key).owner ≠ P.programId
  message : ∃ m : MessageData,
    (m.serialize PostedMessageData.magic).length ≤ MAX_PERMITTED_DATA_INCREASE ∧
      Holds P.toProgram L' accs.message.key (m.serialize PostedMessageData.magic)
  sequence : ∃ t : SequenceTracker,
    Holds P.toProgram L' (P.derive (sequenceSeeds (P.toBytes accs.emitter.key)))
      (SequenceTracker.codec.write t)
  others : ∀ k, k ≠ bridgeKey P → k ≠ accs.message.key →
    k ≠ P.derive (sequenceSeeds (P.toBytes accs.emitter.key)) → Kept P.toProgram L L' k

/-- The tracker is there, or it is created; the bridge is another account. -/
theorem openSequence_eq_ok {accs : PostMessage Pubkey} {sequence : SequenceTracker} {b : BridgeData}
    (hsequence : peelData SequenceTracker .maybeInitialized P.programId L false accs.sequence = .ok sequence)
    (hb : Holds P.toProgram L accs.bridge.key (BridgeData.codec.write b))
    (h : openSequence P L accs sequence = .ok L') :
    (∀ k, k ≠ accs.sequence.key → Kept P.toProgram L L' k) ∧ accs.sequence.key ≠ accs.bridge.key ∧
      ∃ t : SequenceTracker, ∃ bytes : List UInt8, bytes.length = (SequenceTracker.codec.write t).length ∧
        Holds P.toProgram L' accs.sequence.key bytes := by
  unfold openSequence at h
  rcases peelData_maybeInitialized hsequence with ⟨hnew, -⟩ | ⟨hold, hread, howner⟩
  · rw [if_neg hnew] at h
    have hcreated := create_eq_ok h
    refine ⟨hcreated.kept, (hcreated.ne_of_holds hb).symm, sequence, _, ?_, hcreated.holds⟩
    rw [List.length_replicate]
    rfl
  · rw [if_pos hold] at h
    rw [← Except.ok.inj h]
    have hdata : (L accs.sequence.key).data = SequenceTracker.codec.write sequence :=
      Codec.decode_eq_ok.mp hread
    refine ⟨fun k _ => Kept.refl L k, ?_, sequence, _, congrArg List.length hdata, howner, rfl⟩
    intro heq
    have hlen := congrArg List.length (hdata.symm.trans (heq ▸ hb.2))
    rw [SequenceTracker.write_length, BridgeData.write_length] at hlen
    cases hlen

theorem postMessage_eq_ok {accs : PostMessage Pubkey} {clock : Int} {data : PostMessageData}
    (h : postMessage P L accs clock data = .ok L') : MessagePosted P L L' accs := by
  obtain ⟨_, hmutBridge, h⟩ := Failing.bind_eq_ok.mp h
  obtain ⟨_, hbridgeKey, h⟩ := Failing.bind_eq_ok.mp h
  obtain ⟨bridge, hbridge, h⟩ := Failing.bind_eq_ok.mp h
  obtain ⟨_, hsigner, h⟩ := Failing.bind_eq_ok.mp h
  obtain ⟨_, hmutMessage, h⟩ := Failing.bind_eq_ok.mp h
  obtain ⟨message, -, h⟩ := Failing.bind_eq_ok.mp h
  obtain ⟨_, -, h⟩ := Failing.bind_eq_ok.mp h
  obtain ⟨_, hmutSequence, h⟩ := Failing.bind_eq_ok.mp h
  obtain ⟨sequence, hsequence, h⟩ := Failing.bind_eq_ok.mp h
  obtain ⟨_, -, h⟩ := Failing.bind_eq_ok.mp h
  obtain ⟨_, -, h⟩ := Failing.bind_eq_ok.mp h
  obtain ⟨_, -, h⟩ := Failing.bind_eq_ok.mp h
  obtain ⟨_, -, h⟩ := Failing.bind_eq_ok.mp h
  obtain ⟨_, -, h⟩ := Failing.bind_eq_ok.mp h
  obtain ⟨_, hsequenceKey, h⟩ := Failing.bind_eq_ok.mp h
  obtain ⟨_, -, h⟩ := Failing.bind_eq_ok.mp h
  obtain ⟨_, -, h⟩ := Failing.bind_eq_ok.mp h
  obtain ⟨L₁, hopen, h⟩ := Failing.bind_eq_ok.mp h
  obtain ⟨L₂, hcreate, h⟩ := Failing.bind_eq_ok.mp h
  obtain ⟨L₃, hpersistBridge, h⟩ := Failing.bind_eq_ok.mp h
  obtain ⟨L₄, hpersistMessage, h⟩ := Failing.bind_eq_ok.mp h
  rw [peelMut, ensure_eq_ok] at hmutBridge hmutMessage hmutSequence
  rw [peelDerive, ensure_eq_ok] at hbridgeKey
  rw [peelSigner, ensure_eq_ok] at hsigner
  rw [verifyDerivation, ensure_eq_ok] at hsequenceKey
  have hbridgeHolds := peelBridge hbridge
  obtain ⟨hkept₁, hneSequence, t, bytes, hbytes, hsequenceHolds⟩ :=
    openSequence_eq_ok hsequence hbridgeHolds hopen
  have hcreated := createAccount_eq_ok hcreate
  have hbridgePersisted := persist_eq_ok hpersistBridge
  have hmessagePersisted := persist_eq_ok hpersistMessage
  have hsequencePersisted := persist_eq_ok h
  have hbridgeHolds₁ := (hkept₁ _ hneSequence.symm).holds hbridgeHolds
  have hneBridge : accs.bridge.key ≠ accs.message.key := hcreated.ne_of_holds hbridgeHolds₁
  have hneMessage : accs.sequence.key ≠ accs.message.key := hcreated.ne_of_holds hsequenceHolds
  have hbridgeAfter := (hcreated.kept _ hneBridge).holds hbridgeHolds₁
  have hsequenceAfter := (hcreated.kept _ hneMessage).holds hsequenceHolds
  have hmessageAfter := hcreated.holds
  have hbridgeAfter := hbridgePersisted.holds hmutBridge hbridgeAfter
    ((BridgeData.write_length _).trans (BridgeData.write_length _).symm)
  have hsequenceAfter := (hbridgePersisted.kept hneSequence).holds hsequenceAfter
  have hmessageAfter := (hbridgePersisted.kept hneBridge.symm).holds hmessageAfter
  have hbridgeAfter := (hmessagePersisted.kept hneBridge).holds hbridgeAfter
  have hsequenceAfter := (hmessagePersisted.kept hneMessage).holds hsequenceAfter
  have hmessageAfter := hmessagePersisted.holds hmutMessage hmessageAfter List.length_replicate
  have hbridgeAfter := (hsequencePersisted.kept hneSequence.symm).holds hbridgeAfter
  have hmessageAfter := (hsequencePersisted.kept hneMessage.symm).holds hmessageAfter
  have hsequenceAfter := hsequencePersisted.holds hmutSequence hsequenceAfter
    (hbytes.trans ((SequenceTracker.write_length _).trans (SequenceTracker.write_length _).symm))
  refine ⟨?_, hsigner, ?_, ⟨_, hcreated.bounded, hmessageAfter⟩, ?_, ?_⟩
  · rw [bridgeKey, hbridgeKey]
    exact ⟨bridge, { bridge with lastLamports := UInt64.ofNat (L accs.feeCollector.key).lamports },
      rfl, rfl, hbridgeHolds, hbridgeAfter⟩
  · intro howner
    exact hcreated.not_owned ((hkept₁ _ hneMessage.symm).1.mpr howner)
  · refine ⟨⟨sequence.sequence + 1⟩, ?_⟩
    rw [hsequenceKey]
    exact hsequenceAfter
  · intro k hkBridge hkMessage hkSequence
    rw [bridgeKey, hbridgeKey] at hkBridge
    rw [hsequenceKey] at hkSequence
    exact ((((hkept₁ k hkSequence).trans (hcreated.kept k hkMessage)).trans
      (hbridgePersisted.kept hkBridge)).trans (hmessagePersisted.kept hkMessage)).trans
      (hsequencePersisted.kept hkSequence)

/-! ## Fees -/

/-- What `set_fees` does. -/
structure FeesSet (P : CoreProgram Pubkey) (L L' : Ledger Pubkey) (m : MessageData) : Prop where
  bridge : ∃ b b' : BridgeData, b'.guardianSetIndex = b.guardianSetIndex ∧
    b'.config.guardianSetExpirationTime = b.config.guardianSetExpirationTime ∧
      Holds P.toProgram L (bridgeKey P) (BridgeData.codec.write b) ∧
        Holds P.toProgram L' (bridgeKey P) (BridgeData.codec.write b')
  newClaim : (L (P.derive (claimSeeds m))).owner ≠ P.programId
  claim : ∃ c : ClaimData, Holds P.toProgram L' (P.derive (claimSeeds m)) (ClaimData.codec.write c)
  others : ∀ k, k ≠ bridgeKey P → k ≠ P.derive (claimSeeds m) → Kept P.toProgram L L' k

/-- The fee of the bridge is another one, and nothing else of its data. -/
theorem setFees_bridge {accs : SetFees Pubkey} (h : setFees P L accs = .ok L') :
    ∃ (b : BridgeData) (fee : UInt64), Holds P.toProgram L (bridgeKey P) (BridgeData.codec.write b) ∧
      Holds P.toProgram L' (bridgeKey P)
        (BridgeData.codec.write { b with config := { b.config with fee } }) := by
  obtain ⟨_, -, h⟩ := Failing.bind_eq_ok.mp h
  obtain ⟨_, -, h⟩ := Failing.bind_eq_ok.mp h
  obtain ⟨_, hmutBridge, h⟩ := Failing.bind_eq_ok.mp h
  obtain ⟨_, hbridgeKey, h⟩ := Failing.bind_eq_ok.mp h
  obtain ⟨bridge, hbridge, h⟩ := Failing.bind_eq_ok.mp h
  iterate 3 obtain ⟨_, -, h⟩ := Failing.bind_eq_ok.mp h
  obtain ⟨claimed, hclaim, h⟩ := Failing.bind_eq_ok.mp h
  obtain ⟨fee, -, h⟩ := Failing.bind_eq_ok.mp h
  obtain ⟨L₁, hpersistBridge, h⟩ := Failing.bind_eq_ok.mp h
  rw [peelMut, ensure_eq_ok] at hmutBridge
  rw [peelDerive, ensure_eq_ok] at hbridgeKey
  have hbridgeHolds := peelBridge hbridge
  have hcreated := ClaimableVAA.claimIt_eq_ok hclaim
  have hne : accs.bridge.key ≠ accs.vaa.claim.key := hcreated.ne_of_holds hbridgeHolds
  have hbridgeAfter := (hcreated.kept _ hne).holds hbridgeHolds
  have hbridgeAfter := (persist_eq_ok hpersistBridge).holds hmutBridge hbridgeAfter
    ((BridgeData.write_length _).trans (BridgeData.write_length _).symm)
  have hbridgeAfter := ((persist_eq_ok h).kept hne).holds hbridgeAfter
  rw [bridgeKey, hbridgeKey]
  exact ⟨bridge, fee, hbridgeHolds, hbridgeAfter⟩

theorem setFees_eq_ok {accs : SetFees Pubkey} (h : setFees P L accs = .ok L') :
    ∃ m, MessageData.deserialize (L accs.vaa.message.key).data = .ok m ∧ FeesSet P L L' m := by
  obtain ⟨b, fee, hb, hb'⟩ := setFees_bridge h
  iterate 3 obtain ⟨_, -, h⟩ := Failing.bind_eq_ok.mp h
  obtain ⟨_, hbridgeKey, h⟩ := Failing.bind_eq_ok.mp h
  obtain ⟨bridge, hbridge, h⟩ := Failing.bind_eq_ok.mp h
  obtain ⟨vaa, hvaa, h⟩ := Failing.bind_eq_ok.mp h
  obtain ⟨_, -, h⟩ := Failing.bind_eq_ok.mp h
  obtain ⟨_, hclaimKey, h⟩ := Failing.bind_eq_ok.mp h
  obtain ⟨claimed, hclaim, h⟩ := Failing.bind_eq_ok.mp h
  obtain ⟨_, -, h⟩ := Failing.bind_eq_ok.mp h
  obtain ⟨L₁, hpersistBridge, h⟩ := Failing.bind_eq_ok.mp h
  rw [peelDerive, ensure_eq_ok] at hbridgeKey
  rw [ClaimableVAA.verify, verifyDerivation, ensure_eq_ok] at hclaimKey
  obtain ⟨-, -, -, -, hmutClaim⟩ := ClaimableVAA.peel_eq_ok hvaa
  have hcreated := ClaimableVAA.claimIt_eq_ok hclaim
  have hbridgePersisted := persist_eq_ok hpersistBridge
  have hclaimPersisted := persist_eq_ok h
  have hne : accs.bridge.key ≠ accs.vaa.claim.key := hcreated.ne_of_holds (peelBridge hbridge)
  have hclaimAfter := (hbridgePersisted.kept hne.symm).holds hcreated.holds
  have hclaimAfter := hclaimPersisted.holds hmutClaim hclaimAfter
    (List.length_replicate.trans (ClaimData.write_length _).symm)
  refine ⟨vaa.1, ClaimableVAA.peel_read hvaa, ⟨b, { b with config := { b.config with fee } }, rfl, rfl, hb, hb'⟩,
    ?_, ?_, ?_⟩
  · rw [hclaimKey]
    exact hcreated.not_owned
  · rw [hclaimKey]
    exact ⟨_, hclaimAfter⟩
  · intro k hkBridge hkClaim
    rw [bridgeKey, hbridgeKey] at hkBridge
    rw [hclaimKey] at hkClaim
    exact ((hcreated.kept k hkClaim).trans (hbridgePersisted.kept hkBridge)).trans
      (hclaimPersisted.kept hkClaim)

/-- What `transfer_fees` does. -/
structure FeesTransferred (P : CoreProgram Pubkey) (L L' : Ledger Pubkey) (m : MessageData) : Prop where
  newClaim : (L (P.derive (claimSeeds m))).owner ≠ P.programId
  claim : ∃ c : ClaimData, Holds P.toProgram L' (P.derive (claimSeeds m)) (ClaimData.codec.write c)
  others : ∀ k, k ≠ P.derive (claimSeeds m) → Kept P.toProgram L L' k

theorem transferFees_eq_ok {accs : TransferFees Pubkey} (h : transferFees P L accs = .ok L') :
    ∃ m, MessageData.deserialize (L accs.vaa.message.key).data = .ok m ∧ FeesTransferred P L L' m := by
  obtain ⟨_, -, h⟩ := Failing.bind_eq_ok.mp h
  obtain ⟨_, -, h⟩ := Failing.bind_eq_ok.mp h
  obtain ⟨_, -, h⟩ := Failing.bind_eq_ok.mp h
  obtain ⟨_, -, h⟩ := Failing.bind_eq_ok.mp h
  obtain ⟨vaa, hvaa, h⟩ := Failing.bind_eq_ok.mp h
  obtain ⟨_, -, h⟩ := Failing.bind_eq_ok.mp h
  obtain ⟨_, -, h⟩ := Failing.bind_eq_ok.mp h
  obtain ⟨_, -, h⟩ := Failing.bind_eq_ok.mp h
  obtain ⟨_, -, h⟩ := Failing.bind_eq_ok.mp h
  obtain ⟨_, -, h⟩ := Failing.bind_eq_ok.mp h
  obtain ⟨_, -, h⟩ := Failing.bind_eq_ok.mp h
  obtain ⟨_, hclaimKey, h⟩ := Failing.bind_eq_ok.mp h
  obtain ⟨_, -, h⟩ := Failing.bind_eq_ok.mp h
  obtain ⟨_, -, h⟩ := Failing.bind_eq_ok.mp h
  obtain ⟨claimed, hclaim, h⟩ := Failing.bind_eq_ok.mp h
  obtain ⟨L₁, htransfer, h⟩ := Failing.bind_eq_ok.mp h
  rw [ClaimableVAA.verify, verifyDerivation, ensure_eq_ok] at hclaimKey
  obtain ⟨-, -, -, -, hmutClaim⟩ := ClaimableVAA.peel_eq_ok hvaa
  have hcreated := ClaimableVAA.claimIt_eq_ok hclaim
  have hclaimPersisted := persist_eq_ok h
  have hclaimAfter := (transfer_eq_ok htransfer _).holds hcreated.holds
  have hclaimAfter := hclaimPersisted.holds hmutClaim hclaimAfter
    (List.length_replicate.trans (ClaimData.write_length _).symm)
  refine ⟨vaa.1, ClaimableVAA.peel_read hvaa, ?_, ?_, ?_⟩
  · rw [hclaimKey]
    exact hcreated.not_owned
  · rw [hclaimKey]
    exact ⟨_, hclaimAfter⟩
  · intro k hkClaim
    rw [hclaimKey] at hkClaim
    exact ((hcreated.kept k hkClaim).trans (transfer_eq_ok htransfer k)).trans
      (hclaimPersisted.kept hkClaim)

/-! ## verify_signatures -/

/-- A part of the loop: an entry whose offsets all point into its own instruction, and are those of the first
part's message. -/
structure PartOf (data : List UInt8) (secpIxIndex : UInt8) (sigLen : UInt8)
    (secpIxs : List SecpInstructionPart) (part : SecpInstructionPart) : Prop where
  entry : ∃ i < sigLen.toNat, ∃ e, secpEntry data (1 + 11 * i) = .ok e ∧ e.addressIx = secpIxIndex ∧
    e.msgIx = secpIxIndex ∧
    slice? data e.addressOffset.toNat (e.addressOffset.toNat + 20) = some part.address ∧
    part.msgOffset = e.msgOffset ∧ part.msgSize = e.msgSize
  message : ∀ first, secpIxs.head? = some first →
    part.msgOffset = first.msgOffset ∧ part.msgSize = first.msgSize

theorem secpParts_eq_ok {data : List UInt8} {secpIxIndex sigLen : UInt8}
    {secpIxs : List SecpInstructionPart} (h : secpParts data secpIxIndex sigLen = .ok secpIxs) :
    ∀ part ∈ secpIxs, PartOf data secpIxIndex sigLen secpIxs part := by
  refine Failing.foldlM_invariant
    (fun parts => ∀ part ∈ parts, PartOf data secpIxIndex sigLen parts part) ?_ h nofun
  intro parts i parts' hi hparts hround
  obtain ⟨e, he, hround⟩ := Failing.bind_eq_ok.mp hround
  obtain ⟨_, hix, hround⟩ := Failing.bind_eq_ok.mp hround
  obtain ⟨address, haddress, hround⟩ := Failing.bind_eq_ok.mp hround
  obtain ⟨_, hsame, hround⟩ := Failing.bind_eq_ok.mp hround
  rw [ensure_eq_ok] at hix hsame
  rw [unwrap_eq_ok] at haddress
  rw [← Except.ok.inj hround]
  -- the first part stays the first
  have hhead : ∀ first, (parts ++ [SecpInstructionPart.mk address e.msgOffset e.msgSize]).head? = some first →
      parts.head? = some first ∨ (parts = [] ∧ first = ⟨address, e.msgOffset, e.msgSize⟩) := by
    intro first hfirst
    cases parts with
    | nil => exact .inr ⟨rfl, (Option.some.inj hfirst).symm⟩
    | cons p ps => exact .inl hfirst
  intro part hpart
  rcases List.mem_append.mp hpart with hold | hnew
  · refine ⟨(hparts part hold).entry, ?_⟩
    intro first hfirst
    rcases hhead first hfirst with hfirst | ⟨rfl, -⟩
    · exact (hparts part hold).message first hfirst
    · cases hold
  · rw [List.mem_singleton] at hnew
    subst hnew
    refine ⟨⟨i, List.mem_range.mp hi, e, he, hix.1, hix.2.1, haddress, rfl, rfl⟩, ?_⟩
    intro first hfirst
    rcases hhead first hfirst with hfirst | ⟨-, rfl⟩
    · exact hsame first hfirst
    · exact ⟨rfl, rfl⟩

/-- The message is not read across the wrap of the offsets. -/
theorem slice?_u16 {data message : List UInt8} {offset size : UInt16}
    (h : slice? data offset.toNat (offset + size).toNat = some message) :
    slice? data offset.toNat (offset.toNat + size.toNat) = some message := by
  have hle : offset.toNat ≤ (offset + size).toNat := (slice?_eq_some.mp h).1
  have hsum : (offset + size).toNat = offset.toNat + size.toNat := by
    have hmod : (offset + size).toNat = (offset.toNat + size.toNat) % 2 ^ 16 := UInt16.toNat_add _ _
    have h₁ := offset.toNat_lt
    have h₂ := size.toNat_lt
    omega
  rwa [hsum] at h

theorem secpInstruction_eq_ok {tx : List (Instruction Pubkey)} {secpIxIndex : UInt8}
    {secpIx : Instruction Pubkey} (h : secpInstruction P tx secpIxIndex = .ok secpIx) :
    tx[secpIxIndex.toNat]? = some secpIx ∧ secpIx.programId = P.secp256k1Program := by
  unfold secpInstruction at h
  split at h
  · cases h
  · rename_i ix hix
    obtain ⟨_, hprogram, h⟩ := Failing.bind_eq_ok.mp h
    obtain ⟨_, -, h⟩ := Failing.bind_eq_ok.mp h
    rw [← Except.ok.inj h]
    exact ⟨hix, ensure_eq_ok.mp hprogram⟩

omit [DecidableEq Pubkey] in
/-- **What the parts are about.** With the secp256k1 instruction verified, each part's address has signed
the hash. -/
theorem signed_of_parts {Signed : List UInt8 → List UInt8 → Prop} {tx : List (Instruction Pubkey)}
    {secpIxIndex sigLen : UInt8} {secpIx : Instruction Pubkey} {secpIxs : List SecpInstructionPart}
    {msgHash : FixedBytes 32} (hix : tx[secpIxIndex.toNat]? = some secpIx)
    (hverifies : SecpVerifies Signed tx secpIx.data) (hlen : readU8At secpIx.data 0 = .ok sigLen)
    (hparts : secpParts secpIx.data secpIxIndex sigLen = .ok secpIxs)
    (hmessage : secpMessage secpIx.data secpIxs = .ok msgHash) :
    ∀ part ∈ secpIxs, Signed part.address msgHash.val := by
  intro part hpart
  obtain ⟨⟨i, hi, e, he, haddressIx, hmsgIx, haddress, hoffset, hsize⟩, hsame⟩ :=
    secpParts_eq_ok hparts part hpart
  -- the message is the first part's
  obtain ⟨first, hfirst, hmessage⟩ := Failing.bind_eq_ok.mp hmessage
  obtain ⟨_, -, hmessage⟩ := Failing.bind_eq_ok.mp hmessage
  obtain ⟨message, hslice, hmessage⟩ := Failing.bind_eq_ok.mp hmessage
  rw [unwrap_eq_ok] at hfirst hslice
  have hval : message = msgHash.val := by
    split at hmessage
    · rw [← Except.ok.inj hmessage]
    · cases hmessage
  obtain ⟨hoffset', hsize'⟩ := hsame first hfirst
  -- and the one that the entry was verified for
  obtain ⟨e', addressIx, msgIx, address, message', he', haddressIx', hmsgIx', haddress', hmessage', hsigned⟩ :=
    hverifies sigLen (unwrap_eq_ok.mp hlen) i hi
  obtain rfl : e = e' := Except.ok.inj (he.symm.trans he')
  rw [haddressIx, hix] at haddressIx'
  rw [hmsgIx, hix] at hmsgIx'
  obtain rfl := Option.some.inj haddressIx'
  obtain rfl := Option.some.inj hmsgIx'
  have hslice' := slice?_u16 hslice
  rw [← hoffset', ← hsize', hoffset, hsize, hmessage'] at hslice'
  rw [haddress] at haddress'
  rw [Option.some.inj haddress', ← hval, ← Option.some.inj hslice']
  exact hsigned

/-- Marking keeps what the set is about, and marks guardians whose key is among the addresses. -/
structure Marked (guardianSet : GuardianSetData) (secpIxs : List SecpInstructionPart)
    (s s' : SignatureSetData) : Prop where
  hash : s'.hash = s.hash
  guardianSetIndex : s'.guardianSetIndex = s.guardianSetIndex
  length : s'.signatures.val.length = s.signatures.val.length
  marks : ∀ i : Nat, s'.signatures.val[i]? = some true → s.signatures.val[i]? = some true ∨
    ∃ key, guardianSet.keys.val[i]? = some key ∧ ∃ part ∈ secpIxs, key.val = part.address

theorem markSigners_eq_ok {guardianSet : GuardianSetData} {secpIxs : List SecpInstructionPart}
    {sigLen : UInt8} {s s' : SignatureSetData} {infos : List SigInfo}
    (h : infos.foldlM (markSigner guardianSet secpIxs sigLen) s = .ok s') :
    Marked guardianSet secpIxs s s' := by
  refine Failing.foldlM_invariant (fun t => Marked guardianSet secpIxs s t) ?_ h
    ⟨rfl, rfl, rfl, fun i hi => .inl hi⟩
  intro t info t' _ ht hmark
  obtain ⟨_, -, hmark⟩ := Failing.bind_eq_ok.mp hmark
  obtain ⟨_, -, hmark⟩ := Failing.bind_eq_ok.mp hmark
  obtain ⟨key, hkey, hmark⟩ := Failing.bind_eq_ok.mp hmark
  obtain ⟨part, hpart, hmark⟩ := Failing.bind_eq_ok.mp hmark
  obtain ⟨_, heq, hmark⟩ := Failing.bind_eq_ok.mp hmark
  obtain ⟨_, -, hmark⟩ := Failing.bind_eq_ok.mp hmark
  rw [unwrap_eq_ok] at hkey hpart
  rw [ensure_eq_ok] at heq
  rw [← Except.ok.inj hmark]
  refine ⟨ht.hash, ht.guardianSetIndex, List.length_set.trans ht.length, ?_⟩
  intro i hi
  replace hi : (t.signatures.val.set info.signerIndex.toNat true)[i]? = some true := hi
  by_cases hset : info.signerIndex.toNat = i
  · exact .inr ⟨key, hset ▸ hkey, part, List.mem_of_getElem? hpart, heq⟩
  · rw [List.getElem?_set_ne hset] at hi
    exact ht.marks i hi

/-- What `verify_signatures` does, for the hash and the addresses that it has read. -/
structure SignaturesVerified (P : CoreProgram Pubkey) (L L' : Ledger Pubkey)
    (accs : VerifySignatures Pubkey) (g : GuardianSetData) (msgHash : FixedBytes 32)
    (secpIxs : List SecpInstructionPart) : Prop where
  guardianSet : Holds P.toProgram L (guardianSetKey P g.index) (GuardianSetData.codec.write g)
  signer : accs.signatureSet.isSigner = true
  /-- the set is new and empty, or is of the same guardian set and the same hash -/
  marked : ∃ s s' : SignatureSetData, s.guardianSetIndex = g.index ∧ s.hash = msgHash ∧
    (true ∈ s.signatures.val →
      Holds P.toProgram L accs.signatureSet.key (SignatureSetData.codec.write s)) ∧
    Marked g secpIxs s s' ∧
    Holds P.toProgram L' accs.signatureSet.key (SignatureSetData.codec.write s')
  others : ∀ k, k ≠ accs.signatureSet.key → Kept P.toProgram L L' k

theorem verifySignatures_eq_ok {accs : VerifySignatures Pubkey} {tx : List (Instruction Pubkey)}
    {current : UInt16} {data : VerifySignaturesData}
    (h : verifySignatures P L accs tx current data = .ok L') :
    ∃ g msgHash secpIxs, SignaturesVerified P L L' accs g msgHash secpIxs ∧
      ∀ Signed, (∀ ix ∈ tx, ix.programId = P.secp256k1Program → SecpVerifies Signed tx ix.data) →
        ∀ part ∈ secpIxs, Signed part.address msgHash.val := by
  obtain ⟨_, -, h⟩ := Failing.bind_eq_ok.mp h
  obtain ⟨_, -, h⟩ := Failing.bind_eq_ok.mp h
  obtain ⟨g, hg, h⟩ := Failing.bind_eq_ok.mp h
  obtain ⟨_, hmut, h⟩ := Failing.bind_eq_ok.mp h
  obtain ⟨_, hsigner, h⟩ := Failing.bind_eq_ok.mp h
  obtain ⟨s₀, hs₀, h⟩ := Failing.bind_eq_ok.mp h
  obtain ⟨_, -, h⟩ := Failing.bind_eq_ok.mp h
  obtain ⟨_, hgKey, h⟩ := Failing.bind_eq_ok.mp h
  obtain ⟨_, -, h⟩ := Failing.bind_eq_ok.mp h
  obtain ⟨_, -, h⟩ := Failing.bind_eq_ok.mp h
  obtain ⟨secpIx, hsecpIx, h⟩ := Failing.bind_eq_ok.mp h
  obtain ⟨sigLen, hsigLen, h⟩ := Failing.bind_eq_ok.mp h
  obtain ⟨secpIxs, hsecpIxs, h⟩ := Failing.bind_eq_ok.mp h
  obtain ⟨_, -, h⟩ := Failing.bind_eq_ok.mp h
  obtain ⟨msgHash, hmsgHash, h⟩ := Failing.bind_eq_ok.mp h
  obtain ⟨opened, hopened, h⟩ := Failing.bind_eq_ok.mp h
  obtain ⟨marked, hmarked, h⟩ := Failing.bind_eq_ok.mp h
  rw [peelMut, ensure_eq_ok] at hmut
  rw [peelSigner, ensure_eq_ok] at hsigner
  rw [verifyDerivation, ensure_eq_ok] at hgKey
  have hpersisted := persist_eq_ok h
  have hmark := markSigners_eq_ok hmarked
  -- the set before its signers are marked
  have hopen : opened.2.guardianSetIndex = g.index ∧ opened.2.hash = msgHash ∧
      (true ∈ opened.2.signatures.val →
        Holds P.toProgram L accs.signatureSet.key (SignatureSetData.codec.write opened.2)) ∧
      (∀ k, k ≠ accs.signatureSet.key → Kept P.toProgram L opened.1 k) ∧
      ∃ bytes : List UInt8, bytes.length = (SignatureSetData.codec.write opened.2).length ∧
        Holds P.toProgram opened.1 accs.signatureSet.key bytes := by
    unfold openSignatureSet at hopened
    rcases peelData_maybeInitialized hs₀ with ⟨hnew, -⟩ | ⟨hold, hread, howner⟩
    · rw [if_neg hnew] at hopened
      obtain ⟨L₁, hcreate, hopened⟩ := Failing.bind_eq_ok.mp hopened
      have hcreated := createAccount_eq_ok hcreate
      rw [← Except.ok.inj hopened]
      refine ⟨rfl, rfl, ?_, hcreated.kept, _, List.length_replicate, hcreated.holds⟩
      intro hmem
      cases List.eq_of_mem_replicate hmem
    · rw [if_pos hold] at hopened
      obtain ⟨_, hindex, hopened⟩ := Failing.bind_eq_ok.mp hopened
      obtain ⟨_, hhash, hopened⟩ := Failing.bind_eq_ok.mp hopened
      rw [ensure_eq_ok] at hindex hhash
      have hholds : Holds P.toProgram L accs.signatureSet.key (SignatureSetData.codec.write s₀) :=
        ⟨howner, Codec.decode_eq_ok.mp hread⟩
      rw [← Except.ok.inj hopened]
      exact ⟨hindex, hhash, fun _ => hholds, fun k _ => Kept.refl L k, _, rfl, hholds⟩
  obtain ⟨hindex, hhash, hbefore, hkept, bytes, hbytes, hholds⟩ := hopen
  have hafter : Holds P.toProgram L' accs.signatureSet.key (SignatureSetData.codec.write marked) := by
    refine hpersisted.holds hmut hholds ?_
    show bytes.length = (SignatureSetData.codec.write marked).length
    rw [hbytes, SignatureSetData.write_length, SignatureSetData.write_length, hmark.length]
  refine ⟨g, msgHash, secpIxs, ⟨?_, hsigner, ?_, ?_⟩, ?_⟩
  · rw [guardianSetKey, hgKey]
    exact peelGuardianSet hg
  · exact ⟨opened.2, marked, hindex, hhash, hbefore, hmark, hafter⟩
  · intro k hk
    exact (hkept k hk).trans (hpersisted.kept hk)
  · intro Signed hverifies
    obtain ⟨hix, hprogram⟩ := secpInstruction_eq_ok hsecpIx
    exact signed_of_parts hix (hverifies secpIx (List.mem_of_getElem? hix) hprogram) hsigLen hsecpIxs
      hmsgHash

/-! ## post_vaa -/

/-- What `post_vaa` does with a VAA that is not posted yet. -/
structure VaaPosted (P : CoreProgram Pubkey) (L L' : Ledger Pubkey) (accs : PostVAA Pubkey) (clock : Int)
    (vaa : PostVAAData) (g : GuardianSetData) (s : SignatureSetData) : Prop where
  guardianSet : Holds P.toProgram L (guardianSetKey P vaa.guardianSetIndex) (GuardianSetData.codec.write g)
  signatureSet : Holds P.toProgram L accs.signatureSet.key (SignatureSetData.codec.write s)
  messageKey : accs.message.key = postedVaaKey P s.hash
  active : checkActive g clock = .ok ()
  index : s.guardianSetIndex = g.index
  hash : s.hash = P.keccak256 vaa.body
  quorum : requiredConsensusCount g.keys.val.length ≤ s.signatures.val.count true
  newMessage : (L (postedVaaKey P s.hash)).owner ≠ P.programId
  message : ∃ m : PostedVAAData, m = postedOf ⟨MessageData.new⟩ vaa (P.toBytes accs.signatureSet.key) ∧
    (m.message.serialize PostedVAAData.magic).length ≤ MAX_PERMITTED_DATA_INCREASE ∧
    Holds P.toProgram L' (postedVaaKey P s.hash) (m.message.serialize PostedVAAData.magic)
  others : ∀ k, k ≠ postedVaaKey P s.hash → Kept P.toProgram L L' k

/-- What `post_vaa` does with one that is posted: it is written once more. -/
structure VaaRewritten (P : CoreProgram Pubkey) (L L' : Ledger Pubkey) (accs : PostVAA Pubkey) : Prop where
  messageKey : ∃ s : SignatureSetData, Holds P.toProgram L accs.signatureSet.key (SignatureSetData.codec.write s) ∧
    accs.message.key = postedVaaKey P s.hash
  message : ∃ m : MessageData, MessageData.deserialize (L accs.message.key).data = .ok m ∧
    Persisted P.toProgram L L' accs.message (m.serialize PostedVAAData.magic)

theorem postVaa_eq_ok {accs : PostVAA Pubkey} {clock : Int} {vaa : PostVAAData}
    (h : postVaa P L accs clock vaa = .ok L') :
    (isInitialized L accs.message ∧ VaaRewritten P L L' accs) ∨
      (¬isInitialized L accs.message ∧ ∃ g s, VaaPosted P L L' accs clock vaa g s) := by
  obtain ⟨g, hg, h⟩ := Failing.bind_eq_ok.mp h
  obtain ⟨_, -, h⟩ := Failing.bind_eq_ok.mp h
  obtain ⟨_, -, h⟩ := Failing.bind_eq_ok.mp h
  obtain ⟨s, hs, h⟩ := Failing.bind_eq_ok.mp h
  obtain ⟨_, hmut, h⟩ := Failing.bind_eq_ok.mp h
  obtain ⟨message, hmessage, h⟩ := Failing.bind_eq_ok.mp h
  obtain ⟨_, -, h⟩ := Failing.bind_eq_ok.mp h
  obtain ⟨_, -, h⟩ := Failing.bind_eq_ok.mp h
  obtain ⟨_, -, h⟩ := Failing.bind_eq_ok.mp h
  obtain ⟨_, hmessageKey, h⟩ := Failing.bind_eq_ok.mp h
  obtain ⟨_, hgKey, h⟩ := Failing.bind_eq_ok.mp h
  rw [peelMut, ensure_eq_ok] at hmut
  rw [verifyDerivation, ensure_eq_ok] at hmessageKey hgKey
  rcases peelData_maybeInitialized hmessage with ⟨hnew, hdefault⟩ | ⟨hold, hread, -⟩
  · rw [if_neg hnew] at h
    obtain ⟨_, hactive, h⟩ := Failing.bind_eq_ok.mp h
    obtain ⟨_, hindex, h⟩ := Failing.bind_eq_ok.mp h
    obtain ⟨_, hhash, h⟩ := Failing.bind_eq_ok.mp h
    obtain ⟨_, hquorum, h⟩ := Failing.bind_eq_ok.mp h
    obtain ⟨L₁, hcreate, h⟩ := Failing.bind_eq_ok.mp h
    rw [checkValidSigs, ensure_eq_ok] at hindex
    rw [checkIntegrity, ensure_eq_ok] at hhash
    rw [ensure_eq_ok] at hquorum
    have hcreated := create_eq_ok hcreate
    have hpersisted := persist_eq_ok h
    have hafter := hpersisted.holds hmut hcreated.holds List.length_replicate
    refine .inr ⟨hnew, g, s, ?_, peelSignatureSet hs, hmessageKey.symm, hactive, hindex, hhash, hquorum,
      ?_, ?_, ?_⟩
    · rw [guardianSetKey, hgKey]
      exact peelGuardianSet hg
    · rw [postedVaaKey, hmessageKey]
      exact hcreated.not_owned
    · rw [postedVaaKey, hmessageKey]
      subst hdefault
      exact ⟨_, rfl, hcreated.bounded, hafter⟩
    · intro k hk
      rw [postedVaaKey, hmessageKey] at hk
      exact (hcreated.kept k hk).trans (hpersisted.kept hk)
  · rw [if_pos hold] at h
    refine .inl ⟨hold, ⟨s, peelSignatureSet hs, hmessageKey.symm⟩, message.message, ?_, persist_eq_ok h⟩
    obtain ⟨m, hm, heq⟩ := Failing.map_eq_ok.mp hread
    rw [← heq]
    exact hm

/-! ## upgrade_guardian_set -/

/-- What `upgrade_guardian_set` does: `old` is replaced by `new`, as the message `m` says. -/
structure Upgraded (P : CoreProgram Pubkey) (L L' : Ledger Pubkey) (m : MessageData) (bridge : BridgeData)
    (old new : GuardianSetData) : Prop where
  bridgeBefore : Holds P.toProgram L (bridgeKey P) (BridgeData.codec.write bridge)
  oldBefore : Holds P.toProgram L (guardianSetKey P old.index) (GuardianSetData.codec.write old)
  current : bridge.guardianSetIndex = old.index
  next : new.index = old.index + 1
  keys : new.keys.val.length ≤ 255
  created : new.creationTime = m.vaaTime ∧ new.expirationTime = 0
  newGuardianSet : (L (guardianSetKey P new.index)).owner ≠ P.programId
  newClaim : (L (P.derive (claimSeeds m))).owner ≠ P.programId
  claim : ∃ c : ClaimData, Holds P.toProgram L' (P.derive (claimSeeds m)) (ClaimData.codec.write c)
  bridgeAfter : Holds P.toProgram L' (bridgeKey P)
    (BridgeData.codec.write { bridge with guardianSetIndex := new.index })
  oldAfter : Holds P.toProgram L' (guardianSetKey P old.index) (GuardianSetData.codec.write
    { old with expirationTime := m.vaaTime + bridge.config.guardianSetExpirationTime })
  newAfter : Holds P.toProgram L' (guardianSetKey P new.index) (GuardianSetData.codec.write new)
  others : ∀ k, k ≠ bridgeKey P → k ≠ P.derive (claimSeeds m) → k ≠ guardianSetKey P old.index →
    k ≠ guardianSetKey P new.index → Kept P.toProgram L L' k

/-- A key list has one count byte. -/
theorem guardianSetChange_length {bs : List UInt8} {c : GovernancePayloadGuardianSetChange}
    (h : GovernancePayloadGuardianSetChange.deserialize bs = .ok c) : c.newGuardianSet.length ≤ 255 := by
  have hreplicate : ∀ {n : Nat} {bs : List UInt8} {keys : List (FixedBytes 20)} {rest : List UInt8},
      (Reader.replicate (read 20) n).run bs = .ok (keys, rest) → keys.length = n := by
    intro n
    induction n with
    | zero =>
      intro bs keys rest h
      obtain ⟨rfl, -⟩ := Reader.pure_eq_ok.mp h
      rfl
    | succ n ih =>
      intro bs keys rest h
      obtain ⟨key, mid, -, h⟩ := Reader.bind_eq_ok.mp h
      obtain ⟨keys', mid', hkeys, h⟩ := Reader.bind_eq_ok.mp h
      obtain ⟨rfl, -⟩ := Reader.pure_eq_ok.mp h
      rw [List.length_cons, ih hkeys]
  obtain ⟨rest, h⟩ := Reader.decode_eq_ok.mp h
  obtain ⟨_, _, -, h⟩ := Reader.bind_eq_ok.mp h
  obtain ⟨_, _, -, h⟩ := Reader.bind_eq_ok.mp h
  obtain ⟨count, mid, hcount, h⟩ := Reader.bind_eq_ok.mp h
  obtain ⟨keys, _, hkeys, h⟩ := Reader.bind_eq_ok.mp h
  obtain ⟨_, _, -, h⟩ := Reader.bind_eq_ok.mp h
  obtain ⟨rfl, -⟩ := Reader.pure_eq_ok.mp h
  show keys.length ≤ 255
  rw [hreplicate hkeys]
  obtain ⟨bytes, mid', -, hpure⟩ := Reader.bind_eq_ok.mp hcount
  obtain ⟨rfl, -⟩ := Reader.pure_eq_ok.mp hpure
  have hlt := beNat_lt bytes.val
  rw [bytes.property] at hlt
  omega

/-- The way of `upgrade_guardian_set` through the ledgers: the claim and the new set are created, and then the bridge,
the claim, the old set and the new one are written, in this order. -/
structure UpgradeWrites (P : CoreProgram Pubkey) (L L' : Ledger Pubkey) (accs : UpgradeGuardianSet Pubkey)
    (m : MessageData) (claimed : ClaimData) (bridge : BridgeData) (old new : GuardianSetData)
    (L₁ L₂ L₃ L₄ L₅ : Ledger Pubkey) : Prop where
  mutBridge : accs.bridge.isWritable = true
  mutClaim : accs.vaa.claim.isWritable = true
  mutOld : accs.guardianSetOld.isWritable = true
  mutNew : accs.guardianSetNew.isWritable = true
  keyBridge : bridgeKey P = accs.bridge.key
  keyClaim : P.derive (claimSeeds m) = accs.vaa.claim.key
  keyOld : guardianSetKey P old.index = accs.guardianSetOld.key
  keyNew : guardianSetKey P new.index = accs.guardianSetNew.key
  bridgeBefore : Holds P.toProgram L accs.bridge.key (BridgeData.codec.write bridge)
  oldBefore : Holds P.toProgram L accs.guardianSetOld.key (GuardianSetData.codec.write old)
  claimCreated : Created P.toProgram L L₁ accs.vaa.claim (some (P.derive (claimSeeds m))) 1 P.programId
  newCreated : Created P.toProgram L₁ L₂ accs.guardianSetNew (some (guardianSetKey P new.index))
    (GuardianSetData.codec.write new).length P.programId
  bridgePersisted : Persisted P.toProgram L₂ L₃ accs.bridge
    (BridgeData.codec.write { bridge with guardianSetIndex := new.index })
  claimPersisted : Persisted P.toProgram L₃ L₄ accs.vaa.claim (ClaimData.codec.write claimed)
  oldPersisted : Persisted P.toProgram L₄ L₅ accs.guardianSetOld (GuardianSetData.codec.write
    { old with expirationTime := m.vaaTime + bridge.config.guardianSetExpirationTime })
  newPersisted : Persisted P.toProgram L₅ L' accs.guardianSetNew (GuardianSetData.codec.write new)

/-- The update as the instruction has read and checked it. -/
structure UpgradeChecked (m : MessageData) (bridge : BridgeData) (old new : GuardianSetData) : Prop where
  current : bridge.guardianSetIndex = old.index
  next : new.index = old.index + 1
  keys : new.keys.val.length ≤ 255
  created : new.creationTime = m.vaaTime ∧ new.expirationTime = 0

theorem upgradeGuardianSet_writes {accs : UpgradeGuardianSet Pubkey} (h : upgradeGuardianSet P L accs = .ok L') :
    ∃ m claimed bridge old new L₁ L₂ L₃ L₄ L₅, MessageData.deserialize (L accs.vaa.message.key).data = .ok m ∧
      UpgradeChecked m bridge old new ∧ UpgradeWrites P L L' accs m claimed bridge old new L₁ L₂ L₃ L₄ L₅ := by
  obtain ⟨_, -, h⟩ := Failing.bind_eq_ok.mp h
  obtain ⟨_, -, h⟩ := Failing.bind_eq_ok.mp h
  obtain ⟨_, hmutBridge, h⟩ := Failing.bind_eq_ok.mp h
  obtain ⟨_, hbridgeKey, h⟩ := Failing.bind_eq_ok.mp h
  obtain ⟨bridge, hbridge, h⟩ := Failing.bind_eq_ok.mp h
  obtain ⟨vaa, hvaa, h⟩ := Failing.bind_eq_ok.mp h
  obtain ⟨_, hmutOld, h⟩ := Failing.bind_eq_ok.mp h
  obtain ⟨old, hold, h⟩ := Failing.bind_eq_ok.mp h
  obtain ⟨_, hmutNew, h⟩ := Failing.bind_eq_ok.mp h
  obtain ⟨new, hnew, h⟩ := Failing.bind_eq_ok.mp h
  obtain ⟨_, holdIndex, h⟩ := Failing.bind_eq_ok.mp h
  obtain ⟨_, hcurrent, h⟩ := Failing.bind_eq_ok.mp h
  obtain ⟨_, -, h⟩ := Failing.bind_eq_ok.mp h
  obtain ⟨_, hclaimKey, h⟩ := Failing.bind_eq_ok.mp h
  obtain ⟨_, holdKey, h⟩ := Failing.bind_eq_ok.mp h
  obtain ⟨_, hnewKey, h⟩ := Failing.bind_eq_ok.mp h
  obtain ⟨claimed, hclaim, h⟩ := Failing.bind_eq_ok.mp h
  obtain ⟨keys, hkeys, h⟩ := Failing.bind_eq_ok.mp h
  obtain ⟨L₂, hcreate, h⟩ := Failing.bind_eq_ok.mp h
  obtain ⟨L₃, hpersistBridge, h⟩ := Failing.bind_eq_ok.mp h
  obtain ⟨L₄, hpersistClaim, h⟩ := Failing.bind_eq_ok.mp h
  obtain ⟨L₅, hpersistOld, h⟩ := Failing.bind_eq_ok.mp h
  rw [peelMut, ensure_eq_ok] at hmutBridge hmutOld hmutNew
  rw [peelDerive, ensure_eq_ok] at hbridgeKey
  rw [ClaimableVAA.verify, verifyDerivation, ensure_eq_ok] at hclaimKey
  rw [verifyDerivation, ensure_eq_ok] at holdKey hnewKey
  rw [ensure_eq_ok] at holdIndex hcurrent
  obtain ⟨-, -, hpayload, -, hmutClaim⟩ := ClaimableVAA.peel_eq_ok hvaa
  obtain ⟨-, -, hdefault⟩ := peelData_uninitialized.mp hnew
  subst hdefault
  have hkeysVal := toVec_eq_ok hkeys
  refine ⟨vaa.1, claimed.2, bridge, old, ⟨UInt32.ofNat vaa.2.1.newGuardianSetIndex, keys, vaa.1.vaaTime, 0⟩,
    claimed.1, L₂, L₃, L₄, L₅, ClaimableVAA.peel_read hvaa, ⟨?_, ?_, ?_, rfl, rfl⟩, ?_⟩
  · rw [hcurrent, holdIndex]
  · rw [holdIndex, UInt32.sub_add_cancel]
  · show keys.val.length ≤ 255
    rw [hkeysVal]
    exact guardianSetChange_length hpayload
  · refine ⟨hmutBridge, hmutClaim, hmutOld, hmutNew, hbridgeKey, hclaimKey, ?_, hnewKey, peelBridge hbridge,
      peelGuardianSet hold, ClaimableVAA.claimIt_eq_ok hclaim, create_eq_ok hcreate, persist_eq_ok hpersistBridge,
      persist_eq_ok hpersistClaim, persist_eq_ok hpersistOld, persist_eq_ok h⟩
    rw [guardianSetKey, holdIndex, holdKey]

namespace UpgradeWrites

variable {accs : UpgradeGuardianSet Pubkey} {m : MessageData} {claimed : ClaimData} {bridge : BridgeData}
  {old new : GuardianSetData} {L₁ L₂ L₃ L₄ L₅ : Ledger Pubkey}

omit [DecidableEq Pubkey] in
theorem bridge_ne_claim (h : UpgradeWrites P L L' accs m claimed bridge old new L₁ L₂ L₃ L₄ L₅) :
    accs.bridge.key ≠ accs.vaa.claim.key := h.claimCreated.ne_of_holds h.bridgeBefore

omit [DecidableEq Pubkey] in
theorem old_ne_claim (h : UpgradeWrites P L L' accs m claimed bridge old new L₁ L₂ L₃ L₄ L₅) :
    accs.guardianSetOld.key ≠ accs.vaa.claim.key := h.claimCreated.ne_of_holds h.oldBefore

/-- What the four accounts are when all is there: the claim and the new set have just been created. -/
structure Opened (P : CoreProgram Pubkey) (L : Ledger Pubkey) (accs : UpgradeGuardianSet Pubkey)
    (bridge : BridgeData) (old new : GuardianSetData) : Prop where
  bridgeHolds : Holds P.toProgram L accs.bridge.key (BridgeData.codec.write bridge)
  claimHolds : Holds P.toProgram L accs.vaa.claim.key (List.replicate 1 0x00)
  oldHolds : Holds P.toProgram L accs.guardianSetOld.key (GuardianSetData.codec.write old)
  newHolds : Holds P.toProgram L accs.guardianSetNew.key
    (List.replicate (GuardianSetData.codec.write new).length 0x00)
  bridge_ne_new : accs.bridge.key ≠ accs.guardianSetNew.key
  claim_ne_new : accs.vaa.claim.key ≠ accs.guardianSetNew.key
  old_ne_new : accs.guardianSetOld.key ≠ accs.guardianSetNew.key

omit [DecidableEq Pubkey] in
theorem opened (h : UpgradeWrites P L L' accs m claimed bridge old new L₁ L₂ L₃ L₄ L₅) :
    Opened P L₂ accs bridge old new := by
  have hbridge := (h.claimCreated.kept _ h.bridge_ne_claim).holds h.bridgeBefore
  have hold := (h.claimCreated.kept _ h.old_ne_claim).holds h.oldBefore
  have hclaim := h.claimCreated.holds
  have hBridgeNew := h.newCreated.ne_of_holds hbridge
  have hOldNew := h.newCreated.ne_of_holds hold
  have hClaimNew := h.newCreated.ne_of_holds hclaim
  exact ⟨(h.newCreated.kept _ hBridgeNew).holds hbridge, (h.newCreated.kept _ hClaimNew).holds hclaim,
    (h.newCreated.kept _ hOldNew).holds hold, h.newCreated.holds, hBridgeNew, hClaimNew, hOldNew⟩

omit [DecidableEq Pubkey] in
/-- The bridge and the replaced set have different addresses. -/
theorem bridge_ne_old (hfree : P.CollisionFree used)
    (h : UpgradeWrites P L L' accs m claimed bridge old new L₁ L₂ L₃ L₄ L₅) :
    accs.bridge.key ≠ accs.guardianSetOld.key := by
  rw [← h.keyBridge, ← h.keyOld]
  refine hfree.ne hfree.bridge (hfree.guardianSet _) ?_
  rw [guardianSetSeeds_length]
  decide

omit [DecidableEq Pubkey] in
theorem bridgeAfter (hfree : P.CollisionFree used)
    (h : UpgradeWrites P L L' accs m claimed bridge old new L₁ L₂ L₃ L₄ L₅) :
    Holds P.toProgram L' accs.bridge.key
      (BridgeData.codec.write { bridge with guardianSetIndex := new.index }) := by
  have hafter := h.bridgePersisted.holds h.mutBridge h.opened.bridgeHolds
    ((BridgeData.write_length _).trans (BridgeData.write_length _).symm)
  have hafter := (h.claimPersisted.kept h.bridge_ne_claim).holds hafter
  have hafter := (h.oldPersisted.kept (h.bridge_ne_old hfree)).holds hafter
  exact (h.newPersisted.kept h.opened.bridge_ne_new).holds hafter

omit [DecidableEq Pubkey] in
theorem claimAfter (h : UpgradeWrites P L L' accs m claimed bridge old new L₁ L₂ L₃ L₄ L₅) :
    Holds P.toProgram L' accs.vaa.claim.key (ClaimData.codec.write claimed) := by
  have hafter := (h.bridgePersisted.kept h.bridge_ne_claim.symm).holds h.opened.claimHolds
  have hafter := h.claimPersisted.holds h.mutClaim hafter
    (List.length_replicate.trans (ClaimData.write_length _).symm)
  have hafter := (h.oldPersisted.kept h.old_ne_claim.symm).holds hafter
  exact (h.newPersisted.kept h.opened.claim_ne_new).holds hafter

omit [DecidableEq Pubkey] in
theorem oldAfter (hfree : P.CollisionFree used)
    (h : UpgradeWrites P L L' accs m claimed bridge old new L₁ L₂ L₃ L₄ L₅) :
    Holds P.toProgram L' accs.guardianSetOld.key (GuardianSetData.codec.write
      { old with expirationTime := m.vaaTime + bridge.config.guardianSetExpirationTime }) := by
  have hafter := (h.bridgePersisted.kept (h.bridge_ne_old hfree).symm).holds h.opened.oldHolds
  have hafter := (h.claimPersisted.kept h.old_ne_claim).holds hafter
  have hafter := h.oldPersisted.holds h.mutOld hafter
    (by rw [GuardianSetData.write_length, GuardianSetData.write_length])
  exact (h.newPersisted.kept h.opened.old_ne_new).holds hafter

omit [DecidableEq Pubkey] in
theorem newAfter (h : UpgradeWrites P L L' accs m claimed bridge old new L₁ L₂ L₃ L₄ L₅) :
    Holds P.toProgram L' accs.guardianSetNew.key (GuardianSetData.codec.write new) := by
  have hafter := (h.bridgePersisted.kept h.opened.bridge_ne_new.symm).holds h.opened.newHolds
  have hafter := (h.claimPersisted.kept h.opened.claim_ne_new.symm).holds hafter
  have hafter := (h.oldPersisted.kept h.opened.old_ne_new.symm).holds hafter
  exact h.newPersisted.holds h.mutNew hafter List.length_replicate

omit [DecidableEq Pubkey] in
/-- The other accounts are left alone. -/
theorem others (h : UpgradeWrites P L L' accs m claimed bridge old new L₁ L₂ L₃ L₄ L₅) {k : Pubkey}
    (hbridge : k ≠ accs.bridge.key) (hclaim : k ≠ accs.vaa.claim.key) (hold : k ≠ accs.guardianSetOld.key)
    (hnew : k ≠ accs.guardianSetNew.key) : Kept P.toProgram L L' k :=
  (((((h.claimCreated.kept k hclaim).trans (h.newCreated.kept k hnew)).trans
    (h.bridgePersisted.kept hbridge)).trans (h.claimPersisted.kept hclaim)).trans
    (h.oldPersisted.kept hold)).trans (h.newPersisted.kept hnew)

omit [DecidableEq Pubkey] in
/-- Neither the new set nor the claim has been there. -/
theorem not_owned (h : UpgradeWrites P L L' accs m claimed bridge old new L₁ L₂ L₃ L₄ L₅) :
    (L accs.guardianSetNew.key).owner ≠ P.programId ∧ (L accs.vaa.claim.key).owner ≠ P.programId := by
  refine ⟨?_, h.claimCreated.not_owned⟩
  intro howner
  exact h.newCreated.not_owned ((h.claimCreated.kept _ h.opened.claim_ne_new.symm).1.mpr howner)

end UpgradeWrites

theorem upgradeGuardianSet_eq_ok (hfree : P.CollisionFree used) {accs : UpgradeGuardianSet Pubkey}
    (h : upgradeGuardianSet P L accs = .ok L') :
    ∃ m bridge old new, MessageData.deserialize (L accs.vaa.message.key).data = .ok m ∧
      Upgraded P L L' m bridge old new := by
  obtain ⟨m, claimed, bridge, old, new, L₁, L₂, L₃, L₄, L₅, hread, hchecked, hwrites⟩ := upgradeGuardianSet_writes h
  have hbridgeAfter := hwrites.bridgeAfter hfree
  have holdAfter := hwrites.oldAfter hfree
  obtain ⟨hnewOwner, hclaimOwner⟩ := hwrites.not_owned
  have hbridge := hwrites.bridgeBefore
  have hold := hwrites.oldBefore
  have hclaimAfter := hwrites.claimAfter
  have hnewAfter := hwrites.newAfter
  rw [← hwrites.keyBridge] at hbridge hbridgeAfter
  rw [← hwrites.keyClaim] at hclaimOwner hclaimAfter
  rw [← hwrites.keyOld] at hold holdAfter
  rw [← hwrites.keyNew] at hnewOwner hnewAfter
  refine ⟨m, bridge, old, new, hread, hbridge, hold, hchecked.current, hchecked.next, hchecked.keys,
    hchecked.created, hnewOwner, hclaimOwner, ⟨claimed, hclaimAfter⟩, hbridgeAfter, holdAfter, hnewAfter, ?_⟩
  intro k hkBridge hkClaim hkOld hkNew
  rw [hwrites.keyBridge] at hkBridge
  rw [hwrites.keyClaim] at hkClaim
  rw [hwrites.keyOld] at hkOld
  rw [hwrites.keyNew] at hkNew
  exact hwrites.others hkBridge hkClaim hkOld hkNew

end Core

end Wormhole.Solana

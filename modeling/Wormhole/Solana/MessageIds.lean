/-
# Wormhole.Solana.MessageIds — the messages of the core program.

The guardians read a message from its account.  `post_message` creates the account, with the number from the
emitter's sequence tracker, and counts the tracker on; its 64 bits wrap.  `Published` is the invariant of a
run of the program, with whatever accounts its callers supply: the messages of an emitter are numbered one
after another, the tracker shows how many there are, and each message still stands in its account, which
nothing else the program does can write.
-/
import Mathlib
import Wormhole.Lib.Bytes
import Wormhole.Lib.Codec
import Wormhole.Lib.Counters
import Wormhole.Lib.Failing
import Wormhole.Lib.Transition
import Wormhole.Solana.Solitaire
import Wormhole.Solana.Accounts
import Wormhole.Solana.Core
import Wormhole.Solana.Instructions
import Wormhole.Solana.PostedVaa
import Wormhole.Solana.MessageFees

namespace Wormhole.Solana.Core

open Wormhole.Lib Wormhole.Lib.Bytes Wormhole.Lib.Counters Wormhole.Lib.Transition

variable {Pubkey : Type} {P : CoreProgram Pubkey} {used : Set (List (List UInt8))} {L L' : Ledger Pubkey}
  {Signed : List UInt8 → List UInt8 → Prop} {input : Input Pubkey}

/-! ## What the guardians read -/

/-- A message and its account. -/
structure Publication (Pubkey : Type) where
  account : Pubkey
  message : MessageData
  deriving DecidableEq

/-- What is read from the account of a message, when the input has led to the ledger `L'`. -/
def publications (L' : Ledger Pubkey) : Input Pubkey → List (Publication Pubkey)
  | .postMessage accs _ _ =>
    match (AccountData.deserialize (L' accs.message.key).data : Result PostedMessageData) with
    | .ok posted => [⟨accs.message.key, posted.message⟩]
    | .error _ => []
  | _ => []

/-- The address of the sequence tracker of an emitter. -/
abbrev sequenceKey (P : CoreProgram Pubkey) (emitter : FixedBytes 32) : Pubkey :=
  P.derive (sequenceSeeds emitter)

/-- The account holds the message. -/
def HoldsMessage (P : CoreProgram Pubkey) (L : Ledger Pubkey) (p : Publication Pubkey) : Prop :=
  Holds P.toProgram L p.account (p.message.serialize PostedMessageData.magic)

/-- The tracker shows `n`; there is none before the first message. -/
structure Tracks (P : CoreProgram Pubkey) (L : Ledger Pubkey) (emitter : FixedBytes 32) (n : ℕ) : Prop where
  absent : (L (sequenceKey P emitter)).owner ≠ P.programId → n = 0
  shown : (L (sequenceKey P emitter)).owner = P.programId →
    Holds P.toProgram L (sequenceKey P emitter) (SequenceTracker.codec.write ⟨UInt64.ofNat n⟩)

theorem Tracks.kept {emitter : FixedBytes 32} {n : ℕ} (h : Tracks P L emitter n)
    (hkept : Kept P.toProgram L L' (sequenceKey P emitter)) : Tracks P L' emitter n where
  absent hforeign := h.absent fun howner => hforeign (hkept.1.mpr howner)
  shown howner := hkept.holds (h.shown (hkept.1.mp howner))

section Instructions

variable [DecidableEq Pubkey]

/-- The program and the messages read so far. -/
def publishing (P : CoreProgram Pubkey) (s : Ledger Pubkey × List (Publication Pubkey)) (input : Input Pubkey) :
    Option (Ledger Pubkey × List (Publication Pubkey)) :=
  (step P s.1 input).map fun L' => (L', s.2 ++ publications L' input)

/-! ## Posting -/

/-- **What a post publishes**: a message in a new account, with the number that the tracker showed. -/
structure Publishes (P : CoreProgram Pubkey) (L L' : Ledger Pubkey) (accs : PostMessage Pubkey)
    (p : Publication Pubkey) : Prop where
  account : p.account = accs.message.key
  emitter : p.message.emitterAddress = P.toBytes accs.emitter.key
  chain : p.message.emitterChain = UInt16.ofNat CHAIN_ID_SOLANA
  bounded : (p.message.serialize PostedMessageData.magic).length ≤ MAX_PERMITTED_DATA_INCREASE
  held : HoldsMessage P L' p
  before : (L (sequenceKey P p.message.emitterAddress)).owner ≠ P.programId ∧ p.message.sequence = 0 ∨
    Holds P.toProgram L (sequenceKey P p.message.emitterAddress)
      (SequenceTracker.codec.write ⟨p.message.sequence⟩)
  after : Holds P.toProgram L' (sequenceKey P p.message.emitterAddress)
    (SequenceTracker.codec.write ⟨p.message.sequence + 1⟩)

theorem postMessage_publishes {accs : PostMessage Pubkey} {clock : Int} {data : PostMessageData}
    (h : postMessage P L accs clock data = .ok L') :
    ∃ p : Publication Pubkey, Publishes P L L' accs p ∧ p.message.nonce = data.nonce ∧
      p.message.payload = data.payload := by
  obtain ⟨_, -, h⟩ := Failing.bind_eq_ok.mp h
  obtain ⟨_, -, h⟩ := Failing.bind_eq_ok.mp h
  obtain ⟨bridge, hbridge, h⟩ := Failing.bind_eq_ok.mp h
  obtain ⟨_, -, h⟩ := Failing.bind_eq_ok.mp h
  obtain ⟨_, hmutMessage, h⟩ := Failing.bind_eq_ok.mp h
  obtain ⟨message, -, h⟩ := Failing.bind_eq_ok.mp h
  obtain ⟨_, -, h⟩ := Failing.bind_eq_ok.mp h
  obtain ⟨_, hmutSequence, h⟩ := Failing.bind_eq_ok.mp h
  obtain ⟨sequence, hsequence, h⟩ := Failing.bind_eq_ok.mp h
  iterate 5 obtain ⟨_, -, h⟩ := Failing.bind_eq_ok.mp h
  obtain ⟨_, hsequenceKey, h⟩ := Failing.bind_eq_ok.mp h
  obtain ⟨_, -, h⟩ := Failing.bind_eq_ok.mp h
  obtain ⟨_, -, h⟩ := Failing.bind_eq_ok.mp h
  obtain ⟨L₁, hopen, h⟩ := Failing.bind_eq_ok.mp h
  obtain ⟨L₂, hcreate, h⟩ := Failing.bind_eq_ok.mp h
  obtain ⟨L₃, hpersistBridge, h⟩ := Failing.bind_eq_ok.mp h
  obtain ⟨L₄, hpersistMessage, h⟩ := Failing.bind_eq_ok.mp h
  rw [peelMut, ensure_eq_ok] at hmutMessage hmutSequence
  rw [verifyDerivation, ensure_eq_ok] at hsequenceKey
  obtain ⟨hkept, hneSequence, t, bytes, hbytes, hsequenceHolds⟩ :=
    openSequence_eq_ok hsequence (peelBridge hbridge) hopen
  have hcreated := createAccount_eq_ok hcreate
  have hbridgePersisted := persist_eq_ok hpersistBridge
  have hmessagePersisted := persist_eq_ok hpersistMessage
  have hsequencePersisted := persist_eq_ok h
  have hneMessage : accs.sequence.key ≠ accs.message.key := hcreated.ne_of_holds hsequenceHolds
  have hneBridge : accs.bridge.key ≠ accs.message.key :=
    hcreated.ne_of_holds ((hkept _ hneSequence.symm).holds (peelBridge hbridge))
  -- the tracker through the three writes
  have hsequenceAfter := (hcreated.kept _ hneMessage).holds hsequenceHolds
  have hsequenceAfter := (hbridgePersisted.kept hneSequence).holds hsequenceAfter
  have hsequenceAfter := (hmessagePersisted.kept hneMessage).holds hsequenceAfter
  have hsequenceAfter := hsequencePersisted.holds hmutSequence hsequenceAfter
    (hbytes.trans ((SequenceTracker.write_length _).trans (SequenceTracker.write_length _).symm))
  -- and the message
  have hmessageAfter := (hbridgePersisted.kept hneBridge.symm).holds hcreated.holds
  have hmessageAfter := hmessagePersisted.holds hmutMessage hmessageAfter List.length_replicate
  have hmessageAfter := (hsequencePersisted.kept hneMessage.symm).holds hmessageAfter
  refine ⟨⟨accs.message.key, _⟩, ⟨rfl, rfl, rfl, hcreated.bounded, hmessageAfter, ?_, ?_⟩, rfl, rfl⟩
  · show (L (sequenceKey P (P.toBytes accs.emitter.key))).owner ≠ P.programId ∧ sequence.sequence = 0 ∨
      Holds P.toProgram L (sequenceKey P (P.toBytes accs.emitter.key)) (SequenceTracker.codec.write sequence)
    rw [sequenceKey, hsequenceKey]
    rcases peelData_maybeInitialized hsequence with ⟨hnew, hdefault⟩ | ⟨-, hread, howner⟩
    · rw [openSequence, if_neg hnew] at hopen
      exact .inl ⟨(create_eq_ok hopen).not_owned, by rw [← hdefault]; rfl⟩
    · exact .inr ⟨howner, Codec.decode_eq_ok.mp hread⟩
  · show Holds P.toProgram L' (sequenceKey P (P.toBytes accs.emitter.key))
      (SequenceTracker.codec.write ⟨sequence.sequence + 1⟩)
    rw [sequenceKey, hsequenceKey]
    exact hsequenceAfter

/-! ## What the other instructions leave alone -/

/-- A tracker is written by the posts of its emitter and by nothing else. -/
theorem sequence_kept (hfree : P.CollisionFree used) (hadmissible : input.Admissible P used Signed L)
    (hstep : step P L input = some L') {emitter : FixedBytes 32} (hused : sequenceSeeds emitter ∈ used)
    (hothers : ∀ accs clock data, input = .postMessage accs clock data →
      P.toBytes accs.emitter.key ≠ emitter) :
    Kept P.toProgram L L' (sequenceKey P emitter) := by
  have h : execute P L input = .ok L' := Failing.toOption_eq_some hstep
  have hderived : P.IsDerived used (sequenceKey P emitter) := ⟨_, hused, rfl⟩
  have hne : ∀ {seeds : List (List UInt8)}, seeds ∈ used → seeds.flatten.length ≠ 40 →
      sequenceKey P emitter ≠ P.derive seeds := by
    intro seeds hseeds hlength
    refine hfree.ne hused hseeds ?_
    rw [sequenceSeeds_length]
    exact hlength.symm
  have hclaim : ∀ {m}, claimSeeds m ∈ used → sequenceKey P emitter ≠ P.derive (claimSeeds m) := by
    intro m hm
    refine hne hm ?_
    rw [claimSeeds_length]
    decide
  have hset : ∀ index, sequenceKey P emitter ≠ guardianSetKey P index := by
    intro index
    refine hne (hfree.guardianSet index) ?_
    rw [guardianSetSeeds_length]
    decide
  have hvaa : ∀ {hash}, postedVaaSeeds hash ∈ used → sequenceKey P emitter ≠ postedVaaKey P hash := by
    intro hash hhash
    refine hne hhash ?_
    rw [postedVaaSeeds_length]
    decide
  have hbridge : sequenceKey P emitter ≠ bridgeKey P := hne hfree.bridge (by decide)
  have hunsigned : ∀ m ∈ input.metas, m.isSigner = true → sequenceKey P emitter ≠ m.key := by
    intro m hm hsigner heq
    exact hadmissible.signers m hm hsigner (heq ▸ hderived)
  cases input with
  | initializeBridge accs clock data =>
    have hdone := initializeBridge_eq_ok h
    refine hdone.others _ ?_ hbridge
    rcases hdone.signed with hsigner | hkey
    · exact hunsigned _ (by simp [Input.metas]) hsigner
    · rw [hkey]
      exact hset 0
  | postMessage accs clock data =>
    have hdone := postMessage_eq_ok h
    refine hdone.others _ hbridge (hunsigned _ (by simp [Input.metas]) hdone.signer) ?_
    intro heq
    have hseeds := hfree.derive _ hused _ (hadmissible.seeds _ rfl) heq
    simp only [sequenceSeeds, List.flatten_cons, List.flatten_nil, List.append_nil] at hseeds
    exact hothers accs clock data rfl (Subtype.ext (List.append_cancel_left hseeds).symm)
  | verifySignatures accs tx current data =>
    obtain ⟨g, msgHash, secpIxs, hdone, -⟩ := verifySignatures_eq_ok h
    exact hdone.others _ (hunsigned _ (by simp [Input.metas]) hdone.signer)
  | postVaa accs clock vaa =>
    rcases postVaa_eq_ok h with ⟨-, hdone⟩ | ⟨-, g, s, hdone⟩
    · obtain ⟨s, hs, hkey⟩ := hdone.messageKey
      obtain ⟨m, -, hpersisted⟩ := hdone.message
      refine hpersisted.kept ?_
      rw [hkey]
      exact hvaa (hadmissible.seeds _ ⟨s, hs, rfl⟩)
    · exact hdone.others _ (hvaa (hadmissible.seeds _ ⟨s, hdone.signatureSet, rfl⟩))
  | upgradeGuardianSet accs clock =>
    obtain ⟨m, bridge, old, new, hm, hdone⟩ := upgradeGuardianSet_eq_ok hfree h
    exact hdone.others _ hbridge (hclaim (hadmissible.seeds _ ⟨m, hm, rfl⟩)) (hset _) (hset _)
  | setFees accs =>
    obtain ⟨m, hm, hdone⟩ := setFees_eq_ok h
    exact hdone.others _ hbridge (hclaim (hadmissible.seeds _ ⟨m, hm, rfl⟩))
  | transferFees accs =>
    obtain ⟨m, hm, hdone⟩ := transferFees_eq_ok h
    exact hdone.others _ (hclaim (hadmissible.seeds _ ⟨m, hm, rfl⟩))
  | others Ln =>
    obtain rfl := Except.ok.inj h
    rcases hadmissible.others Ln rfl (sequenceKey P emitter) with hkept | ⟨hfresh, -⟩
    · exact hkept
    · exact absurd hderived hfresh

/-- The account of the signature set is new, and has the size of a new account, or it has held one of the size. -/
theorem verifySignatures_set {accs : VerifySignatures Pubkey} {tx : List (Instruction Pubkey)}
    {current : UInt16} {data : VerifySignaturesData} (h : verifySignatures P L accs tx current data = .ok L') :
    IsSignatureSet (L' accs.signatureSet.key).data ∧
      ((L accs.signatureSet.key).owner ≠ P.programId ∧
          (L' accs.signatureSet.key).data.length ≤ MAX_PERMITTED_DATA_INCREASE ∨
        (L accs.signatureSet.key).owner = P.programId ∧ IsSignatureSet (L accs.signatureSet.key).data ∧
          (L' accs.signatureSet.key).data.length = (L accs.signatureSet.key).data.length) := by
  iterate 3 obtain ⟨_, -, h⟩ := Failing.bind_eq_ok.mp h
  obtain ⟨_, hmut, h⟩ := Failing.bind_eq_ok.mp h
  obtain ⟨_, -, h⟩ := Failing.bind_eq_ok.mp h
  obtain ⟨s₀, hs₀, h⟩ := Failing.bind_eq_ok.mp h
  iterate 9 obtain ⟨_, -, h⟩ := Failing.bind_eq_ok.mp h
  obtain ⟨opened, hopened, h⟩ := Failing.bind_eq_ok.mp h
  obtain ⟨marked, hmarked, h⟩ := Failing.bind_eq_ok.mp h
  rw [peelMut, ensure_eq_ok] at hmut
  have hpersisted := persist_eq_ok h
  have hlength : (SignatureSetData.codec.write marked).length = (SignatureSetData.codec.write opened.2).length := by
    rw [SignatureSetData.write_length, SignatureSetData.write_length, (markSigners_eq_ok hmarked).length]
  unfold openSignatureSet at hopened
  rcases peelData_maybeInitialized hs₀ with ⟨hnew, -⟩ | ⟨hold, hread, howner⟩
  · rw [if_neg hnew] at hopened
    obtain ⟨L₁, hcreate, hopened⟩ := Failing.bind_eq_ok.mp hopened
    have hcreated := createAccount_eq_ok hcreate
    obtain rfl := Except.ok.inj hopened
    have hafter := hpersisted.holds hmut hcreated.holds (List.length_replicate.trans hlength.symm)
    refine ⟨⟨marked, hafter.2⟩, .inl ⟨hcreated.not_owned, ?_⟩⟩
    rw [hafter.2]
    exact hlength.le.trans hcreated.bounded
  · rw [if_pos hold] at hopened
    iterate 2 obtain ⟨_, -, hopened⟩ := Failing.bind_eq_ok.mp hopened
    obtain rfl := Except.ok.inj hopened
    have hbefore : Holds P.toProgram L accs.signatureSet.key (SignatureSetData.codec.write s₀) :=
      ⟨howner, Codec.decode_eq_ok.mp hread⟩
    have hafter := hpersisted.holds hmut hbefore hlength.symm
    refine ⟨⟨marked, hafter.2⟩, .inr ⟨howner, ⟨s₀, hbefore.2⟩, ?_⟩⟩
    rw [hafter.2, hbefore.2]
    exact hlength

omit [DecidableEq Pubkey] in
/-- A posted VAA that is written once more stays as it is. -/
theorem VaaRewritten.kept {accs : PostVAA Pubkey} {clock : Int} {vaa : PostVAAData}
    (hsound : Sound P used Signed L)
    (hused : ∀ seeds, (Input.postVaa accs clock vaa).Derives P L seeds → seeds ∈ used)
    (h : VaaRewritten P L L' accs) (k : Pubkey) : Kept P.toProgram L L' k := by
  obtain ⟨s, hs, hkey⟩ := h.messageKey
  obtain ⟨m, hread, hpersisted⟩ := h.message
  by_cases howner : (L accs.message.key).owner = P.programId
  · rw [hkey] at howner
    obtain ⟨m', -, hheld⟩ := hsound.postedVaas s.hash (hused _ ⟨s, hs, rfl⟩) howner
    rw [hkey, hheld.2] at hread
    obtain rfl := (MessageData.deserialize_serialize rfl).mp hread
    rw [← hkey] at hheld
    exact hpersisted.kept_same hheld.2
  · rw [hpersisted.foreign (.inl howner)]
    exact Kept.refl L k

/-- **A message is never written again.** -/
theorem message_kept (hfree : P.CollisionFree used) (hadmissible : input.Admissible P used Signed L)
    (hstep : step P L input = some L') {p : Publication Pubkey} (hkey : ¬P.IsDerived used p.account)
    (hbounded : (p.message.serialize PostedMessageData.magic).length ≤ MAX_PERMITTED_DATA_INCREASE)
    (hheld : HoldsMessage P L p) : Kept P.toProgram L L' p.account := by
  have h : execute P L input = .ok L' := Failing.toOption_eq_some hstep
  have hderive : ∀ seeds ∈ used, p.account ≠ P.derive seeds := fun seeds hused heq => hkey ⟨seeds, hused, heq⟩
  have hforeign : ∀ k, (L k).owner ≠ P.programId → p.account ≠ k := by
    rintro k hk rfl
    exact hk hheld.1
  cases input with
  | initializeBridge accs clock data =>
    have hdone := initializeBridge_eq_ok h
    exact hdone.others _ (hforeign _ hdone.newGuardianSet) (hderive _ hfree.bridge)
  | postMessage accs clock data =>
    have hdone := postMessage_eq_ok h
    exact hdone.others _ (hderive _ hfree.bridge) (hforeign _ hdone.newMessage)
      (hderive _ (hadmissible.seeds _ rfl))
  | verifySignatures accs tx current data =>
    obtain ⟨g, msgHash, secpIxs, hdone, -⟩ := verifySignatures_eq_ok h
    refine hdone.others _ ?_
    rcases (verifySignatures_set h).2 with ⟨hnew, -⟩ | ⟨-, hset, -⟩
    · exact hforeign _ hnew
    · intro heq
      rw [← heq, hheld.2] at hset
      exact MessageData.not_signatureSet 0x6d 0x73 0x67 rfl (by decide) hbounded hset
  | postVaa accs clock vaa =>
    rcases postVaa_eq_ok h with ⟨-, hdone⟩ | ⟨-, g, s, hdone⟩
    · obtain ⟨s, hs, hmessageKey⟩ := hdone.messageKey
      obtain ⟨m, -, hpersisted⟩ := hdone.message
      refine hpersisted.kept ?_
      rw [hmessageKey]
      exact hderive _ (hadmissible.seeds _ ⟨s, hs, rfl⟩)
    · exact hdone.others _ (hderive _ (hadmissible.seeds _ ⟨s, hdone.signatureSet, rfl⟩))
  | upgradeGuardianSet accs clock =>
    obtain ⟨m, bridge, old, new, hm, hdone⟩ := upgradeGuardianSet_eq_ok hfree h
    have hclaim := hderive _ (hadmissible.seeds _ ⟨m, hm, rfl⟩)
    have hset := fun index => hderive _ (hfree.guardianSet index)
    exact hdone.others _ (hderive _ hfree.bridge) hclaim (hset _) (hset _)
  | setFees accs =>
    obtain ⟨m, hm, hdone⟩ := setFees_eq_ok h
    exact hdone.others _ (hderive _ hfree.bridge) (hderive _ (hadmissible.seeds _ ⟨m, hm, rfl⟩))
  | transferFees accs =>
    obtain ⟨m, hm, hdone⟩ := transferFees_eq_ok h
    exact hdone.others _ (hderive _ (hadmissible.seeds _ ⟨m, hm, rfl⟩))
  | others Ln =>
    obtain rfl := Except.ok.inj h
    rcases hadmissible.others Ln rfl p.account with hkept | ⟨-, hnew, -⟩
    · exact hkept
    · exact absurd hheld.1 hnew

/-! ## Runs -/

/-- **The invariant**, for the numbers of messages `count`. -/
structure Published (P : CoreProgram Pubkey) (used : Set (List (List UInt8))) (count : FixedBytes 32 → ℕ)
    (s : Ledger Pubkey × List (Publication Pubkey)) : Prop where
  numbered : Numbered UInt64.ofNat (fun p : Publication Pubkey => p.message.emitterAddress)
    (fun p => p.message.sequence) count s.2
  trackers : ∀ emitter, sequenceSeeds emitter ∈ used → Tracks P s.1 emitter (count emitter)
  keys : ∀ p ∈ s.2, ¬P.IsDerived used p.account
  chains : ∀ p ∈ s.2, p.message.emitterChain = UInt16.ofNat CHAIN_ID_SOLANA
  bounded : ∀ p ∈ s.2, (p.message.serialize PostedMessageData.magic).length ≤ MAX_PERMITTED_DATA_INCREASE
  held : ∀ p ∈ s.2, HoldsMessage P s.1 p
  accounts : (s.2.map Publication.account).Nodup

omit [DecidableEq Pubkey] in
theorem Published.of_undeployed (h : Undeployed P L) : Published P used (fun _ => 0) (L, []) where
  numbered := Numbered.nil
  trackers _ _ := ⟨fun _ => rfl, fun howner => absurd howner (h _)⟩
  keys := by simp
  chains := by simp
  bounded := by simp
  held := by simp
  accounts := List.nodup_nil

omit [DecidableEq Pubkey] in
/-- What a post is seen to publish. -/
theorem publications_eq {accs : PostMessage Pubkey} {clock : Int} {data : PostMessageData}
    {p : Publication Pubkey} (haccount : p.account = accs.message.key) (hheld : HoldsMessage P L' p) :
    publications L' (.postMessage accs clock data) = [p] := by
  have hread : (AccountData.deserialize (L' accs.message.key).data : Result PostedMessageData) =
      .ok ⟨p.message⟩ := by
    rw [← haccount, hheld.2]
    exact Failing.map_eq_ok.mpr ⟨p.message, (MessageData.deserialize_serialize rfl).mpr rfl, rfl⟩
  rw [publications, hread, ← haccount]

omit [DecidableEq Pubkey] in
/-- The tracker gives a post its number, and is counted on. -/
theorem Publishes.number {accs : PostMessage Pubkey} {p : Publication Pubkey} {n : ℕ}
    (h : Publishes P L L' accs p) (htracks : Tracks P L p.message.emitterAddress n) :
    p.message.sequence = UInt64.ofNat n ∧ Tracks P L' p.message.emitterAddress (n + 1) := by
  have hnumber : p.message.sequence = UInt64.ofNat n := by
    rcases h.before with ⟨hnew, hzero⟩ | hshown
    · rw [hzero, htracks.absent hnew]
      rfl
    · exact congrArg SequenceTracker.sequence (codec_inj hshown (htracks.shown hshown.1))
  refine ⟨hnumber, fun hforeign => absurd h.after.1 hforeign, ?_⟩
  intro _
  have hafter := h.after
  rwa [hnumber, show UInt64.ofNat n + 1 = UInt64.ofNat (n + 1) from (UInt64.ofNat_add n 1).symm] at hafter

/-- **Step.** -/
theorem Published.step (hfree : P.CollisionFree used) {count : FixedBytes 32 → ℕ}
    {s s' : Ledger Pubkey × List (Publication Pubkey)} (hs : Published P used count s)
    (hadmissible : input.Admissible P used Signed s.1) (h : publishing P s input = some s') :
    ∃ count', Published P used count' s' := by
  obtain ⟨L', hstep, rfl⟩ := Option.map_eq_some_iff.mp h
  have hold : ∀ p ∈ s.2, HoldsMessage P L' p := by
    intro p hp
    exact (message_kept hfree hadmissible hstep (hs.keys p hp) (hs.bounded p hp) (hs.held p hp)).holds (hs.held p hp)
  by_cases hpost : ∃ accs clock data, input = .postMessage accs clock data
  swap
  · have hnone : publications L' input = [] := by
      cases input with
      | postMessage accs clock data => exact absurd ⟨accs, clock, data, rfl⟩ hpost
      | _ => rfl
    refine ⟨count, ?_⟩
    rw [hnone, List.append_nil]
    refine ⟨hs.numbered, ?_, hs.keys, hs.chains, hs.bounded, hold, hs.accounts⟩
    intro emitter hused
    exact (hs.trackers emitter hused).kept (sequence_kept hfree hadmissible hstep hused
      fun accs clock data heq => absurd ⟨accs, clock, data, heq⟩ hpost)
  · obtain ⟨accs, clock, data, rfl⟩ := hpost
    have hexecute : postMessage P s.1 accs clock data = .ok L' := Failing.toOption_eq_some hstep
    have hdone := postMessage_eq_ok hexecute
    obtain ⟨p, hp, -⟩ := postMessage_publishes hexecute
    have hposted : sequenceSeeds p.message.emitterAddress ∈ used := by
      rw [hp.emitter]
      exact hadmissible.seeds _ rfl
    obtain ⟨hnumber, htracks⟩ := hp.number (hs.trackers _ hposted)
    rw [publications_eq hp.account hp.held]
    refine ⟨_, hs.numbered.append hnumber, ?_, ?_, ?_, ?_, ?_, ?_⟩
    · intro emitter hused
      by_cases hemitter : emitter = p.message.emitterAddress
      · rw [hemitter, Function.update_self]
        exact htracks
      · rw [Function.update_of_ne hemitter]
        refine (hs.trackers emitter hused).kept (sequence_kept hfree hadmissible hstep hused ?_)
        intro accs' clock' data' heq hsame
        obtain ⟨rfl, -, -⟩ := Input.postMessage.inj heq
        exact hemitter (hsame.symm.trans hp.emitter.symm)
    · refine List.forall_mem_append.mpr ⟨hs.keys, List.forall_mem_singleton.mpr ?_⟩
      rw [hp.account]
      exact hadmissible.signers _ (by simp [Input.metas]) hdone.signer
    · exact List.forall_mem_append.mpr ⟨hs.chains, List.forall_mem_singleton.mpr hp.chain⟩
    · exact List.forall_mem_append.mpr ⟨hs.bounded, List.forall_mem_singleton.mpr hp.bounded⟩
    · exact List.forall_mem_append.mpr ⟨hold, List.forall_mem_singleton.mpr hp.held⟩
    · rw [List.map_append, List.map_singleton]
      refine hs.accounts.append (List.nodup_singleton _) ?_
      rw [List.disjoint_singleton]
      intro hmem
      obtain ⟨q, hq, heq⟩ := List.mem_map.mp hmem
      refine hdone.newMessage ?_
      rw [← hp.account, ← heq]
      exact (hs.held q hq).1

omit [DecidableEq Pubkey] in
/-- As long as the numbers do not come round, an emitter does not use one twice. -/
theorem Published.ids_nodup {count : FixedBytes 32 → ℕ} {s : Ledger Pubkey × List (Publication Pubkey)}
    (h : Published P used count s)
    (hfew : ∀ emitter, (s.2.filter fun p => p.message.emitterAddress = emitter).length ≤ 2 ^ 64) :
    (s.2.map fun p => (p.message.emitterAddress, p.message.sequence)).Nodup := by
  refine h.numbered.nodup ?_
  intro emitter i hi j hj heq
  have hcount : count emitter ≤ 2 ^ 64 := h.numbered.length emitter ▸ hfew emitter
  have hlt : i < 2 ^ 64 ∧ j < 2 ^ 64 := ⟨lt_of_lt_of_le hi hcount, lt_of_lt_of_le hj hcount⟩
  have hnat := congrArg UInt64.toNat heq
  rwa [UInt64.toNat_ofNat', UInt64.toNat_ofNat', Nat.mod_eq_of_lt hlt.1, Nat.mod_eq_of_lt hlt.2] at hnat

/-- **Message ids.** In every state that the core program reaches, whatever accounts its callers name: the
messages of an emitter carry the sequence numbers `0, 1, 2, …`, cut to 64 bits, in the order in which they
were posted, and so an emitter with at most `2 ^ 64` messages has none with the id of another; and every
message still stands, byte for byte, in the account where the guardians have read it, which is its own. -/
theorem messages_permanent (hfree : P.CollisionFree used) (h₀ : Undeployed P L)
    {s : Ledger Pubkey × List (Publication Pubkey)}
    (hrun : Run (publishing P) (fun s input => input.Admissible P used Signed s.1) (L, []) s) :
    (∀ emitter, ((s.2.filter fun p => p.message.emitterAddress = emitter).map fun p => p.message.sequence) =
      (List.range (s.2.filter fun p => p.message.emitterAddress = emitter).length).map UInt64.ofNat) ∧
    ((∀ emitter, (s.2.filter fun p => p.message.emitterAddress = emitter).length ≤ 2 ^ 64) →
      (s.2.map fun p => (p.message.emitterAddress, p.message.sequence)).Nodup) ∧
    (∀ p ∈ s.2, p.message.emitterChain = UInt16.ofNat CHAIN_ID_SOLANA ∧ HoldsMessage P s.1 p) ∧
    (s.2.map Publication.account).Nodup := by
  obtain ⟨count, hs⟩ : ∃ count, Published P used count s := by
    refine hrun.invariant (I := fun s => ∃ count, Published P used count s) ?_ ⟨_, Published.of_undeployed h₀⟩
    rintro s input s' ⟨count, hs⟩ hadmissible hstep
    exact hs.step hfree hadmissible hstep
  refine ⟨?_, ?_, fun p hp => ⟨hs.chains p hp, hs.held p hp⟩, hs.accounts⟩
  · intro emitter
    rw [hs.numbered.length emitter]
    exact hs.numbered emitter
  · exact hs.ids_nodup

end Instructions

/-! ## Inputs -/

section Samples

def publishReady : Ledger SampleKey × List (Publication SampleKey) :=
  attempt (publishing feeProgram) (sampleLedger, []) feeInitialize

/-- The program is set up and the first message is paid for. -/
def publishPaid : Ledger SampleKey × List (Publication SampleKey) :=
  attempt (publishing feeProgram) publishReady (.others (pay publishReady.1 100))

def publishFirst : Ledger SampleKey × List (Publication SampleKey) :=
  attempt (publishing feeProgram) publishPaid (.postMessage (feeMessageAccounts 13) 1600000000 feeMessageData)

/-- A second message of the same emitter, with the same content, into another account. -/
def publishSecond : Ledger SampleKey × List (Publication SampleKey) :=
  let s := attempt (publishing feeProgram) publishFirst (.others (pay publishFirst.1 100))
  attempt (publishing feeProgram) s (.postMessage (feeMessageAccounts 15) 1600000000 feeMessageData)

theorem posting_admissible (L : Ledger SampleKey) {n : Nat} :
    Input.Admissible feeProgram Set.univ FeeSigned L
      (.postMessage (feeMessageAccounts n) 1600000000 feeMessageData) := by
  refine ⟨fee_signers ?_, fun _ _ _ _ h => (by cases h), fun _ h => (by cases h), fun _ _ => Set.mem_univ _⟩
  simp [Input.metas, feeMessageAccounts, sampleSigner, sampleWritable, sampleReadonly]

theorem publishSecond_run :
    Run (publishing feeProgram) (fun s input => input.Admissible feeProgram Set.univ FeeSigned s.1)
      (sampleLedger, []) publishSecond := by
  have hinitialize : feeInitialize.Admissible feeProgram Set.univ FeeSigned sampleLedger :=
    ⟨fee_signers (by decide), fun _ _ _ _ h => (by cases h), fun _ h => (by cases h), fun _ _ => Set.mem_univ _⟩
  have hready : Run (publishing feeProgram) (fun s input => input.Admissible feeProgram Set.univ FeeSigned s.1)
      (sampleLedger, []) publishReady :=
    (Run.refl (sampleLedger, [])).attempt feeInitialize hinitialize
  have hpaid := hready.attempt _ (pay_admissible publishReady.1 100)
  have hfirst := hpaid.attempt _ (posting_admissible publishPaid.1 (n := 13))
  exact (hfirst.attempt _ (pay_admissible _ _)).attempt _ (posting_admissible _ (n := 15))

/-- The equal messages are read from two accounts, with the sequences 0 and 1. -/
theorem publishSecond_permanent :
    publishSecond.2.map (fun p => (p.message.payload.val, p.message.sequence)) = [([0x01], 0), ([0x01], 1)] ∧
      (publishSecond.2.map Publication.account).Nodup :=
  ⟨by decide +kernel,
    (messages_permanent feeProgram_collisionFree sampleLedger_undeployed publishSecond_run).2.2.2⟩

end Samples

end Wormhole.Solana.Core

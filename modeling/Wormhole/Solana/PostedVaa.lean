/-
# Wormhole.Solana.PostedVaa — a posted VAA rests on a quorum.

`verify_signatures` marks the signers of a hash in a signature set, over several transactions; `post_vaa`
counts the marks.  `Sound` is what holds of every ledger that a run of the program reaches: a mark stands for
a signature, of the hash of the set, by the key of that guardian in the guardian set that the signature set
names.  What the signature sets say is safe because nothing else the program owns can be read as one, and
because a guardian set keeps its keys.

`Writes` says once what an instruction can write to an account of the program.  `Sound` is preserved by
whatever writes no more than that.
-/
import Mathlib
import Wormhole.Lib.Bytes
import Wormhole.Lib.Failing
import Wormhole.Lib.Bitmap
import Wormhole.Lib.Codec
import Wormhole.Lib.Transition
import Wormhole.Solana.Payloads
import Wormhole.Solana.Solitaire
import Wormhole.Solana.Accounts
import Wormhole.Solana.Core
import Wormhole.Solana.Instructions

namespace Wormhole.Solana.Core

open Wormhole.Lib Wormhole.Lib.Bytes Wormhole.Lib.Bitmap Wormhole.Lib.Transition

variable {Pubkey : Type} {P : CoreProgram Pubkey} {L L' : Ledger Pubkey}
  {used : Set (List (List UInt8))} {Signed : List UInt8 → List UInt8 → Prop} {input : Input Pubkey}

/-! ## What is written -/

/-- Guardian `i` of the guardian set with this index has signed the hash. -/
def Attests (P : CoreProgram Pubkey) (Signed : List UInt8 → List UInt8 → Prop) (L : Ledger Pubkey)
    (index : UInt32) (hash : FixedBytes 32) (i : Nat) : Prop :=
  ∃ (g : GuardianSetData) (key : FixedBytes 20),
    Holds P.toProgram L (guardianSetKey P index) (GuardianSetData.codec.write g) ∧
      g.keys.val[i]? = some key ∧ Signed key.val hash.val

/-- An update replaces the guardian set `old`, which is `expired` then. -/
structure Expires (P : CoreProgram Pubkey) (L L' : Ledger Pubkey) (input : Input Pubkey)
    (old expired : GuardianSetData) : Prop where
  update : ∃ accs clock m bridge new, input = .upgradeGuardianSet accs clock ∧
    Upgraded P L L' m bridge old new
  index : expired.index = old.index
  keys : expired.keys = old.keys

/-- What an instruction can write to an account of the program, by kind. -/
inductive Writes (P : CoreProgram Pubkey) (used : Set (List (List UInt8)))
    (Signed : List UInt8 → List UInt8 → Prop) (L L' : Ledger Pubkey) (input : Input Pubkey) (k : Pubkey) : Prop where
  /-- a guardian set that is new or is replaced -/
  | guardianSet (g : GuardianSetData) (hkey : ¬P.IsDerived used k ∨ k = guardianSetKey P g.index)
      (hkeys : g.keys.val.length ≤ 255)
      (hold : ∀ g₀, Holds P.toProgram L k (GuardianSetData.codec.write g₀) → Expires P L L' input g₀ g)
      (hafter : Holds P.toProgram L' k (GuardianSetData.codec.write g))
  | postedVaa (accs : PostVAA Pubkey) (clock : Int) (vaa : PostVAAData) (g : GuardianSetData)
      (s : SignatureSetData) (hinput : input = .postVaa accs clock vaa)
      (hposted : VaaPosted P L L' accs clock vaa g s) (hkey : k = postedVaaKey P s.hash)
      (hused : postedVaaSeeds s.hash ∈ used)
  | message (m : MessageData) (hkey : ¬P.IsDerived used k)
      (hlen : (m.serialize PostedMessageData.magic).length ≤ MAX_PERMITTED_DATA_INCREASE)
      (hafter : Holds P.toProgram L' k (m.serialize PostedMessageData.magic))
  | signatureSet (s : SignatureSetData) (hkey : ¬P.IsDerived used k)
      (hmarks : ∀ i : Nat, s.signatures.val[i]? = some true →
        Attests P Signed L s.guardianSetIndex s.hash i)
      (hafter : Holds P.toProgram L' k (SignatureSetData.codec.write s))
  | zeros (n : Nat) (hkey : ¬P.IsDerived used k) (hafter : (L' k).data = List.replicate n 0x00)
  /-- the bridge, a claim or a sequence -/
  | other (seeds : List (List UInt8)) (bytes : List UInt8) (hkey : k = P.derive seeds) (hused : seeds ∈ used)
      (hguardianSet : seeds.flatten.length ≠ 15) (hpostedVaa : seeds.flatten.length ≠ 41)
      (hlen : bytes.length < 40) (hafter : Holds P.toProgram L' k bytes)

/-- Every account of the program is kept or written. -/
def Effect (P : CoreProgram Pubkey) (used : Set (List (List UInt8))) (Signed : List UInt8 → List UInt8 → Prop)
    (L L' : Ledger Pubkey) (input : Input Pubkey) : Prop :=
  ∀ k, Kept P.toProgram L L' k ∨ Writes P used Signed L L' input k

/-- What holds of the accounts of the program in every ledger of a run. -/
structure Sound (P : CoreProgram Pubkey) (used : Set (List (List UInt8)))
    (Signed : List UInt8 → List UInt8 → Prop) (L : Ledger Pubkey) : Prop where
  guardianSets : ∀ index, (L (guardianSetKey P index)).owner = P.programId →
    ∃ g : GuardianSetData, g.index = index ∧ g.keys.val.length ≤ 255 ∧
      Holds P.toProgram L (guardianSetKey P index) (GuardianSetData.codec.write g)
  postedVaas : ∀ hash, postedVaaSeeds hash ∈ used → (L (postedVaaKey P hash)).owner = P.programId →
    ∃ m : MessageData, (m.serialize PostedVAAData.magic).length ≤ MAX_PERMITTED_DATA_INCREASE ∧
      Holds P.toProgram L (postedVaaKey P hash) (m.serialize PostedVAAData.magic)
  signatureSets : ∀ k (s : SignatureSetData), Holds P.toProgram L k (SignatureSetData.codec.write s) →
    ∀ i : Nat, s.signatures.val[i]? = some true → Attests P Signed L s.guardianSetIndex s.hash i

/-! ## Writing keeps it sound -/

section Effects

theorem codec_inj {T : Type} {c : Borsh T} {k : Pubkey} {a b : T}
    (ha : Holds P.toProgram L k (c.write a)) (hb : Holds P.toProgram L k (c.write b)) : a = b := by
  have heq : c.write a ++ [] = c.write b ++ [] := by
    rw [← ha.2, ← hb.2]
  exact (Codec.write_append_inj heq).1

/-- At the address of a guardian set. -/
theorem Effect.guardianSet (hfree : P.CollisionFree used) (h : Effect P used Signed L L' input) (index : UInt32) :
    Kept P.toProgram L L' (guardianSetKey P index) ∨ ∃ g : GuardianSetData, g.index = index ∧
      g.keys.val.length ≤ 255 ∧
      (∀ g₀, Holds P.toProgram L (guardianSetKey P index) (GuardianSetData.codec.write g₀) →
        Expires P L L' input g₀ g) ∧
      Holds P.toProgram L' (guardianSetKey P index) (GuardianSetData.codec.write g) := by
  have hderived : P.IsDerived used (guardianSetKey P index) := ⟨_, hfree.guardianSet index, rfl⟩
  rcases h (guardianSetKey P index) with hkept | hwrites
  · exact .inl hkept
  right
  cases hwrites with
  | guardianSet g hkey hkeys hold hafter =>
    rcases hkey with hkey | hkey
    · exact absurd hderived hkey
    · exact ⟨g, (guardianSet_injective hfree.toCollisionFree hfree.guardianSet hkey).symm, hkeys, hold, hafter⟩
  | postedVaa accs clock vaa g s hinput hposted hkey hused =>
    refine absurd hkey (hfree.ne (hfree.guardianSet index) hused ?_)
    rw [guardianSetSeeds_length, postedVaaSeeds_length]
    decide
  | message m hkey hlen hafter => exact absurd hderived hkey
  | signatureSet s hkey hmarks hafter => exact absurd hderived hkey
  | zeros n hkey hafter => exact absurd hderived hkey
  | other seeds bytes hkey hused hguardianSet hpostedVaa hlen hafter =>
    refine absurd hkey (hfree.ne (hfree.guardianSet index) hused ?_)
    rw [guardianSetSeeds_length]
    exact hguardianSet.symm

/-- At the address of a posted VAA. -/
theorem Effect.postedVaa (hfree : P.CollisionFree used) (h : Effect P used Signed L L' input) {hash : FixedBytes 32}
    (hhash : postedVaaSeeds hash ∈ used) :
    Kept P.toProgram L L' (postedVaaKey P hash) ∨ ∃ accs clock vaa g s, input = .postVaa accs clock vaa ∧
      VaaPosted P L L' accs clock vaa g s ∧ s.hash = hash := by
  have hderived : P.IsDerived used (postedVaaKey P hash) := ⟨_, hhash, rfl⟩
  rcases h (postedVaaKey P hash) with hkept | hwrites
  · exact .inl hkept
  right
  cases hwrites with
  | guardianSet g hkey hkeys hold hafter =>
    rcases hkey with hkey | hkey
    · exact absurd hderived hkey
    · refine absurd hkey (hfree.ne hhash (hfree.guardianSet _) ?_)
      rw [guardianSetSeeds_length, postedVaaSeeds_length]
      decide
  | postedVaa accs clock vaa g s hinput hposted hkey hused =>
    exact ⟨accs, clock, vaa, g, s, hinput, hposted,
      (postedVaa_injective hfree.toCollisionFree hhash hused hkey).symm⟩
  | message m hkey hlen hafter => exact absurd hderived hkey
  | signatureSet s hkey hmarks hafter => exact absurd hderived hkey
  | zeros n hkey hafter => exact absurd hderived hkey
  | other seeds bytes hkey hused hguardianSet hpostedVaa hlen hafter =>
    refine absurd hkey (hfree.ne hhash hused ?_)
    rw [postedVaaSeeds_length]
    exact hpostedVaa.symm

/-- What a guardian has signed stays signed. -/
theorem Attests.effect (hfree : P.CollisionFree used) (h : Effect P used Signed L L' input) {index : UInt32}
    {hash : FixedBytes 32} {i : Nat} (hattests : Attests P Signed L index hash i) :
    Attests P Signed L' index hash i := by
  obtain ⟨g, key, hg, hkey, hsigned⟩ := hattests
  rcases h.guardianSet hfree index with hkept | ⟨g', -, -, hold, hafter⟩
  · exact ⟨g, key, hkept.holds hg, hkey, hsigned⟩
  · refine ⟨g', key, hafter, ?_, hsigned⟩
    rw [(hold g hg).keys]
    exact hkey

/-- **What can be read as a marked signature set** is one that was there, or one that was written. -/
theorem Writes.signatureSet_inv {k : Pubkey} {s : SignatureSetData} {i : Nat}
    (h : Writes P used Signed L L' input k) (hs : Holds P.toProgram L' k (SignatureSetData.codec.write s))
    (hi : s.signatures.val[i]? = some true) : Attests P Signed L s.guardianSetIndex s.hash i := by
  cases h with
  | guardianSet g hkey hkeys hold hafter =>
    exact absurd ⟨s, hafter.2.symm.trans hs.2⟩ (GuardianSetData.not_signatureSet hkeys)
  | postedVaa accs clock vaa g s' hinput hposted hkey hused =>
    obtain ⟨m, -, hlen, hafter⟩ := hposted.message
    rw [← hkey] at hafter
    exact absurd ⟨s, hafter.2.symm.trans hs.2⟩
      (MessageData.not_signatureSet 0x76 0x61 0x61 rfl (by decide) hlen)
  | message m hkey hlen hafter =>
    exact absurd ⟨s, hafter.2.symm.trans hs.2⟩
      (MessageData.not_signatureSet 0x6d 0x73 0x67 rfl (by decide) hlen)
  | signatureSet s' hkey hmarks hafter =>
    obtain rfl := codec_inj hafter hs
    exact hmarks i hi
  | zeros n hkey hafter =>
    rw [SignatureSetData.signatures_of_zeros (hafter.symm.trans hs.2)] at hi
    cases hi
  | other seeds bytes hkey hused hguardianSet hpostedVaa hlen hafter =>
    exact absurd ⟨s, hafter.2.symm.trans hs.2⟩ (not_signatureSet_of_length hlen)

theorem Sound.effect (hfree : P.CollisionFree used) (hsound : Sound P used Signed L)
    (h : Effect P used Signed L L' input) : Sound P used Signed L' where
  guardianSets index howner := by
    rcases h.guardianSet hfree index with hkept | ⟨g, hindex, hkeys, -, hafter⟩
    · obtain ⟨g, hindex, hkeys, hg⟩ := hsound.guardianSets index (hkept.1.mp howner)
      exact ⟨g, hindex, hkeys, hkept.holds hg⟩
    · exact ⟨g, hindex, hkeys, hafter⟩
  postedVaas hash hhash howner := by
    rcases h.postedVaa hfree hhash with hkept | ⟨accs, clock, vaa, g, s, -, hposted, rfl⟩
    · obtain ⟨m, hlen, hm⟩ := hsound.postedVaas hash hhash (hkept.1.mp howner)
      exact ⟨m, hlen, hkept.holds hm⟩
    · obtain ⟨m, -, hlen, hm⟩ := hposted.message
      exact ⟨m.message, hlen, hm⟩
  signatureSets k s hs i hi := by
    apply Attests.effect hfree h
    rcases h k with hkept | hwrites
    · exact hsound.signatureSets k s (hkept.holds_iff.mp hs) i hi
    · exact hwrites.signatureSet_inv hs hi

end Effects

/-! ## What the instructions write -/

section Instructions

theorem writes_claim {m : MessageData} {c : ClaimData} (hused : claimSeeds m ∈ used)
    (hc : Holds P.toProgram L' (P.derive (claimSeeds m)) (ClaimData.codec.write c)) :
    Writes P used Signed L L' input (P.derive (claimSeeds m)) := by
  refine .other _ _ rfl hused ?_ ?_ ?_ hc
  · rw [claimSeeds_length]
    decide
  · rw [claimSeeds_length]
    decide
  · rw [ClaimData.write_length]
    decide

theorem writes_bridge (hfree : P.CollisionFree used) {b : BridgeData}
    (hb : Holds P.toProgram L' (bridgeKey P) (BridgeData.codec.write b)) :
    Writes P used Signed L L' input (bridgeKey P) := by
  refine .other [bridgeSeed] _ rfl hfree.bridge (by decide) (by decide) ?_ hb
  rw [BridgeData.write_length]
  decide

variable [DecidableEq Pubkey]

theorem effect_initializeBridge (hfree : P.CollisionFree used) {accs : Initialize Pubkey} {clock : Int}
    {data : InitializeData} (hsigners : ∀ m ∈ (Input.initializeBridge accs clock data).metas, m.isSigner = true →
      ¬P.IsDerived used m.key)
    (h : initializeBridge P L accs clock data = .ok L') :
    Effect P used Signed L L' (.initializeBridge accs clock data) := by
  intro k
  have hdone := initializeBridge_eq_ok h
  by_cases hguardianSet : k = accs.guardianSet.key
  · subst hguardianSet
    refine .inr (.guardianSet _ ?_ ?_ ?_ hdone.guardianSet)
    · rcases hdone.signed with hsigner | hkey
      · exact .inl (hsigners _ (by simp [Input.metas]) hsigner)
      · exact .inr hkey
    · exact hdone.keys.trans (by decide)
    · intro g₀ hg₀
      exact absurd hg₀.1 hdone.newGuardianSet
  by_cases hbridge : k = bridgeKey P
  · obtain ⟨b, -, hb⟩ := hdone.bridge
    exact .inr (hbridge ▸ writes_bridge hfree hb)
  · exact .inl (hdone.others k hguardianSet hbridge)

theorem effect_postMessage (hfree : P.CollisionFree used) {accs : PostMessage Pubkey} {clock : Int}
    {data : PostMessageData} (hadmissible : Input.Admissible P used Signed L (.postMessage accs clock data))
    (h : postMessage P L accs clock data = .ok L') :
    Effect P used Signed L L' (.postMessage accs clock data) := by
  intro k
  have hdone := postMessage_eq_ok h
  by_cases hbridge : k = bridgeKey P
  · obtain ⟨-, b, -, -, -, hb⟩ := hdone.bridge
    exact .inr (hbridge ▸ writes_bridge hfree hb)
  by_cases hmessage : k = accs.message.key
  · obtain ⟨m, hlen, hm⟩ := hdone.message
    refine .inr (.message m ?_ hlen (hmessage ▸ hm))
    rw [hmessage]
    exact hadmissible.signers _ (by simp [Input.metas]) hdone.signer
  by_cases hsequence : k = P.derive (sequenceSeeds (P.toBytes accs.emitter.key))
  · obtain ⟨t, ht⟩ := hdone.sequence
    refine .inr (.other _ _ hsequence (hadmissible.seeds _ rfl) ?_ ?_ ?_ (hsequence ▸ ht))
    · rw [sequenceSeeds_length]
      decide
    · rw [sequenceSeeds_length]
      decide
    · rw [SequenceTracker.write_length]
      decide
  · exact .inl (hdone.others k hbridge hmessage hsequence)

theorem effect_setFees (hfree : P.CollisionFree used) {accs : SetFees Pubkey}
    (hadmissible : Input.Admissible P used Signed L (.setFees accs)) (h : setFees P L accs = .ok L') :
    Effect P used Signed L L' (.setFees accs) := by
  intro k
  obtain ⟨m, hm, hdone⟩ := setFees_eq_ok h
  by_cases hbridge : k = bridgeKey P
  · obtain ⟨-, b, -, -, -, hb⟩ := hdone.bridge
    exact .inr (hbridge ▸ writes_bridge hfree hb)
  by_cases hclaim : k = P.derive (claimSeeds m)
  · obtain ⟨c, hc⟩ := hdone.claim
    exact .inr (hclaim ▸ writes_claim (hadmissible.seeds _ ⟨m, hm, rfl⟩) hc)
  · exact .inl (hdone.others k hbridge hclaim)

theorem effect_transferFees {accs : TransferFees Pubkey}
    (hadmissible : Input.Admissible P used Signed L (.transferFees accs)) (h : transferFees P L accs = .ok L') :
    Effect P used Signed L L' (.transferFees accs) := by
  intro k
  obtain ⟨m, hm, hdone⟩ := transferFees_eq_ok h
  by_cases hclaim : k = P.derive (claimSeeds m)
  · obtain ⟨c, hc⟩ := hdone.claim
    exact .inr (hclaim ▸ writes_claim (hadmissible.seeds _ ⟨m, hm, rfl⟩) hc)
  · exact .inl (hdone.others k hclaim)

theorem effect_upgradeGuardianSet (hfree : P.CollisionFree used) (hsound : Sound P used Signed L)
    {accs : UpgradeGuardianSet Pubkey} {clock : Int}
    (hadmissible : Input.Admissible P used Signed L (.upgradeGuardianSet accs clock))
    (h : upgradeGuardianSet P L accs = .ok L') :
    Effect P used Signed L L' (.upgradeGuardianSet accs clock) := by
  intro k
  obtain ⟨m, bridge, old, new, hm, hdone⟩ := upgradeGuardianSet_eq_ok hfree h
  by_cases hbridge : k = bridgeKey P
  · exact .inr (hbridge ▸ writes_bridge hfree hdone.bridgeAfter)
  by_cases hclaim : k = P.derive (claimSeeds m)
  · obtain ⟨c, hc⟩ := hdone.claim
    exact .inr (hclaim ▸ writes_claim (hadmissible.seeds _ ⟨m, hm, rfl⟩) hc)
  by_cases hold : k = guardianSetKey P old.index
  · subst hold
    obtain ⟨g, -, hkeys, hg⟩ := hsound.guardianSets old.index hdone.oldBefore.1
    obtain rfl := codec_inj hg hdone.oldBefore
    let expired := { g with expirationTime := m.vaaTime + bridge.config.guardianSetExpirationTime }
    refine .inr (.guardianSet expired (.inr rfl) hkeys ?_ hdone.oldAfter)
    intro g₀ hg₀
    obtain rfl := codec_inj hg₀ hg
    exact ⟨⟨accs, clock, m, bridge, new, rfl, hdone⟩, rfl, rfl⟩
  by_cases hnew : k = guardianSetKey P new.index
  · subst hnew
    refine .inr (.guardianSet new (.inr rfl) hdone.keys ?_ hdone.newAfter)
    intro g₀ hg₀
    exact absurd hg₀.1 hdone.newGuardianSet
  · exact .inl (hdone.others k hbridge hclaim hold hnew)

/-- A mark is an old one, or the guardian's signature has just been verified. -/
theorem effect_verifySignatures (hsound : Sound P used Signed L) {accs : VerifySignatures Pubkey}
    {tx : List (Instruction Pubkey)} {current : UInt16} {data : VerifySignaturesData}
    (hadmissible : Input.Admissible P used Signed L (.verifySignatures accs tx current data))
    (h : verifySignatures P L accs tx current data = .ok L') :
    Effect P used Signed L L' (.verifySignatures accs tx current data) := by
  intro k
  obtain ⟨g, msgHash, secpIxs, hdone, hsigned⟩ := verifySignatures_eq_ok h
  by_cases hset : k = accs.signatureSet.key
  swap
  · exact .inl (hdone.others k hset)
  subst hset
  obtain ⟨s, s', hindex, hhash, hbefore, hmarked, hafter⟩ := hdone.marked
  refine .inr (.signatureSet s' ?_ ?_ hafter)
  · exact hadmissible.signers _ (by simp [Input.metas]) hdone.signer
  intro i hi
  rw [hmarked.guardianSetIndex, hmarked.hash]
  rcases hmarked.marks i hi with hs | ⟨key, hkey, part, hpart, heq⟩
  · exact hsound.signatureSets _ s (hbefore (List.mem_of_getElem? hs)) i hs
  · rw [hindex, hhash]
    refine ⟨g, key, hdone.guardianSet, hkey, ?_⟩
    rw [heq]
    exact hsigned Signed (hadmissible.secp accs tx current data rfl) part hpart

theorem effect_postVaa (hsound : Sound P used Signed L) {accs : PostVAA Pubkey} {clock : Int} {vaa : PostVAAData}
    (hadmissible : Input.Admissible P used Signed L (.postVaa accs clock vaa))
    (h : postVaa P L accs clock vaa = .ok L') : Effect P used Signed L L' (.postVaa accs clock vaa) := by
  intro k
  rcases postVaa_eq_ok h with ⟨-, hdone⟩ | ⟨-, g, s, hdone⟩
  · left
    by_cases howner : (L accs.message.key).owner = P.programId
    · obtain ⟨s, hs, hkey⟩ := hdone.messageKey
      obtain ⟨m, hread, hpersisted⟩ := hdone.message
      -- what is written once more is what was there
      rw [hkey] at howner
      obtain ⟨m', -, hm'⟩ := hsound.postedVaas s.hash (hadmissible.seeds _ ⟨s, hs, rfl⟩) howner
      rw [hkey, hm'.2] at hread
      obtain rfl := (MessageData.deserialize_serialize rfl).mp hread
      rw [← hkey] at hm'
      exact hpersisted.kept_same hm'.2
    · obtain ⟨m, -, hpersisted⟩ := hdone.message
      rw [hpersisted.foreign (.inl howner)]
      exact Kept.refl L k
  · by_cases hkey : k = postedVaaKey P s.hash
    · exact .inr (.postedVaa accs clock vaa g s rfl hdone hkey
        (hadmissible.seeds _ ⟨s, hdone.signatureSet, rfl⟩))
    · exact .inl (hdone.others k hkey)

/-- **What a step writes.** -/
theorem effect_step (hfree : P.CollisionFree used) (hsound : Sound P used Signed L)
    (hadmissible : input.Admissible P used Signed L) (hstep : step P L input = some L') :
    Effect P used Signed L L' input := by
  have h : execute P L input = .ok L' := Failing.toOption_eq_some hstep
  cases input with
  | initializeBridge accs clock data => exact effect_initializeBridge hfree hadmissible.signers h
  | postMessage accs clock data => exact effect_postMessage hfree hadmissible h
  | verifySignatures accs tx current data => exact effect_verifySignatures hsound hadmissible h
  | postVaa accs clock vaa => exact effect_postVaa hsound hadmissible h
  | upgradeGuardianSet accs clock => exact effect_upgradeGuardianSet hfree hsound hadmissible h
  | setFees accs => exact effect_setFees hfree hadmissible h
  | transferFees accs => exact effect_transferFees hadmissible h
  | others Ln =>
    intro k
    obtain rfl := Except.ok.inj h
    rcases hadmissible.others Ln rfl k with hkept | ⟨hkey, -, n, hdata⟩
    · exact .inl hkept
    · exact .inr (.zeros n hkey hdata)

end Instructions

/-! ## What a posted VAA rests on -/

/-- The body that a posted message is of. -/
def bodyOf (m : MessageData) : List UInt8 :=
  PostVAAData.body
    { version := m.vaaVersion
      guardianSetIndex := 0
      timestamp := m.vaaTime
      nonce := m.nonce
      emitterChain := m.emitterChain
      emitterAddress := m.emitterAddress
      sequence := m.sequence
      consistencyLevel := m.consistencyLevel
      payload := m.payload }

theorem bodyOf_postedOf (message : PostedVAAData) (vaa : PostVAAData) (signatureAccount : FixedBytes 32) :
    bodyOf (postedOf message vaa signatureAccount).message = vaa.body := rfl

/-- The hash is of the body, and a quorum of a guardian set that has not expired has signed it: more than two
thirds of `n` guardians are a third of `2 * n` and one. -/
structure Attested (P : CoreProgram Pubkey) (Signed : List UInt8 → List UInt8 → Prop) (L : Ledger Pubkey)
    (clock : Int) (index : UInt32) (g : GuardianSetData) (hash : FixedBytes 32) : Prop where
  named : g.index = index
  guardianSet : Holds P.toProgram L (guardianSetKey P index) (GuardianSetData.codec.write g)
  active : g.expirationTime = 0 ∨ clock ≤ g.expirationTime.toNat
  quorum : ∃ signers : Finset Nat, 2 * g.keys.val.length / 3 + 1 ≤ signers.card ∧
    ∀ i ∈ signers, ∃ key, g.keys.val[i]? = some key ∧ Signed key.val hash.val

section Quorum

theorem requiredConsensusCount_eq (n : Nat) : requiredConsensusCount n = 2 * n / 3 + 1 := by
  rw [requiredConsensusCount]
  omega

theorem checkActive_eq_ok {g : GuardianSetData} {clock : Int} :
    checkActive g clock = .ok () ↔ ¬(g.index = 0 ∧ g.creationTime = 1628099186) ∧
      (g.expirationTime = 0 ∨ clock ≤ g.expirationTime.toNat) := by
  rw [checkActive, Failing.bind_eq_ok]
  simp only [ensure_eq_ok, exists_const, ne_eq, not_and_or, not_not, not_lt]

theorem VaaPosted.attested (hsound : Sound P used Signed L) {accs : PostVAA Pubkey} {clock : Int}
    {vaa : PostVAAData} {g : GuardianSetData} {s : SignatureSetData}
    (h : VaaPosted P L L' accs clock vaa g s) : Attested P Signed L clock vaa.guardianSetIndex g s.hash := by
  obtain ⟨g', hindex, -, hg'⟩ := hsound.guardianSets _ h.guardianSet.1
  obtain rfl := codec_inj hg' h.guardianSet
  refine ⟨hindex, h.guardianSet, (checkActive_eq_ok.mp h.active).2, marked s.signatures.val, ?_, ?_⟩
  · rw [card_marked, ← requiredConsensusCount_eq]
    exact h.quorum
  · intro i hi
    obtain ⟨g₀, key, hg₀, hkey, hsigned⟩ :=
      hsound.signatureSets _ s h.signatureSet i (getElem?_of_mem_marked hi)
    rw [h.index, hindex] at hg₀
    obtain rfl := codec_inj hg₀ h.guardianSet
    exact ⟨key, hkey, hsigned⟩

end Quorum

/-! ## Runs -/

section Runs

variable {L₀ : Ledger Pubkey}

/-- Before the program is initialized it owns nothing. -/
def Undeployed (P : CoreProgram Pubkey) (L : Ledger Pubkey) : Prop := ∀ k, (L k).owner ≠ P.programId

theorem Undeployed.sound (h : Undeployed P L) : Sound P used Signed L where
  guardianSets _ howner := absurd howner (h _)
  postedVaas _ _ howner := absurd howner (h _)
  signatureSets k _ hs := absurd hs.1 (h k)

variable [DecidableEq Pubkey]

theorem sound_run (hfree : P.CollisionFree used) (h₀ : Undeployed P L₀)
    (hrun : Run (step P) (fun L input => input.Admissible P used Signed L) L₀ L) : Sound P used Signed L := by
  refine hrun.invariant ?_ h₀.sound
  intro s input t hs hok hstep
  exact hs.effect hfree (effect_step hfree hs hok hstep)

/-- **Every posted VAA rests on a quorum.** The account of a posted VAA has been created by a `post_vaa` of
the run.  Since then it holds the body of that VAA, whose hash it is derived from, and which a quorum of the
VAA's own guardian set had signed. -/
theorem postedVaa_attested (hfree : P.CollisionFree used) (h₀ : Undeployed P L₀)
    (hrun : Run (step P) (fun L input => input.Admissible P used Signed L) L₀ L) {hash : FixedBytes 32}
    (hhash : postedVaaSeeds hash ∈ used) (howner : (L (postedVaaKey P hash)).owner = P.programId) :
    ∃ Lm Ln accs clock vaa g, Run (step P) (fun L input => input.Admissible P used Signed L) L₀ Lm ∧
      step P Lm (.postVaa accs clock vaa) = some Ln ∧
      Run (step P) (fun L input => input.Admissible P used Signed L) Ln L ∧
      (Lm (postedVaaKey P hash)).owner ≠ P.programId ∧
      (∃ m : MessageData, bodyOf m = vaa.body ∧ hash = P.keccak256 (bodyOf m) ∧
        Holds P.toProgram L (postedVaaKey P hash) (m.serialize PostedVAAData.magic)) ∧
      Attested P Signed Lm clock vaa.guardianSetIndex g hash := by
  induction hrun with
  | refl => exact absurd howner (h₀ _)
  | @tail Lm Ln hrun hlast ih =>
    obtain ⟨input, hok, hstep⟩ := hlast
    have hsound : Sound P used Signed Lm := sound_run hfree h₀ hrun
    have heffect := effect_step hfree hsound hok hstep
    rcases heffect.postedVaa hfree hhash with hkept | ⟨accs, clock, vaa, g, s, rfl, hposted, rfl⟩
    · obtain ⟨La, Lb, accs, clock, vaa, g, hbefore, hpost, hafter, hnew, ⟨m, hbody, hhash, hm⟩, hattested⟩ :=
        ih (hkept.1.mp howner)
      exact ⟨La, Lb, accs, clock, vaa, g, hbefore, hpost, hafter.snoc hok hstep, hnew,
        ⟨m, hbody, hhash, hkept.holds hm⟩, hattested⟩
    · obtain ⟨m, rfl, -, hm⟩ := hposted.message
      exact ⟨Lm, Ln, accs, clock, vaa, g, hrun, hstep, Run.refl Ln, hposted.newMessage,
        ⟨_, bodyOf_postedOf _ _ _, hposted.hash, hm⟩, hposted.attested hsound⟩

end Runs

/-! ## Inputs -/

section Samples

/-- Addresses: those that sign, and those that are derived from seeds. -/
abbrev SampleKey := Nat ⊕ List UInt8

theorem sampleKey_length (b : UInt8) : (List.replicate 20 b).length = 20 := List.length_replicate

/-- The key of the first guardian. -/
def sampleGuardian : FixedBytes 20 := ⟨List.replicate 20 0x07, sampleKey_length 0x07⟩

/-- Four guardians, three of which are a quorum. -/
def sampleGuardians : List (FixedBytes 20) :=
  sampleGuardian :: [0x09, 0x0a, 0x0b].map fun b => ⟨List.replicate 20 b, sampleKey_length b⟩

theorem samplePayload_length : (padModule MODULE ++ [0x02] ++ beBytes 2 0 ++ beBytes 4 1 ++ [0x01] ++
    List.replicate 20 0x08).length < 2 ^ 32 := by decide

/-- Governance of Solana at `0x04`: the guardian set 1, of one other guardian. -/
def sampleVaa (timestamp : UInt32) : PostVAAData where
  version := 1
  guardianSetIndex := 0
  timestamp
  nonce := 0
  emitterChain := 1
  emitterAddress := ⟨beBytes 32 4, beBytes_length 32 4⟩
  sequence := 1
  consistencyLevel := 32
  payload := ⟨padModule MODULE ++ [0x02] ++ beBytes 2 0 ++ beBytes 4 1 ++ [0x01] ++ List.replicate 20 0x08,
    samplePayload_length⟩

/-- The hash of the one with the time 0, which the node makes. -/
def sampleHash : FixedBytes 32 :=
  ⟨beBytes 32 0x753d061f4abf0f299db56fd8008252b4d2520188f6899c7c1135413d4a4c7d82, beBytes_length 32 _⟩

/-- The hash of one that carries its time. -/
def timelyHash : FixedBytes 32 :=
  ⟨beBytes 32 0x34292ef3967dfe1edbeb9b00a6ec703fb44e9a6f39daf419e87990036fff5b33, beBytes_length 32 _⟩

def sampleProgram : CoreProgram SampleKey where
  programId := .inl 0
  systemProgram := .inl 1
  clock := .inl 2
  instructions := .inl 3
  toBytes := fun _ => zeros 32
  findProgramAddress := fun seeds _ => (.inr seeds.flatten, 255)
  programId_ne_system := by decide
  rent := .inl 4
  secp256k1Program := .inl 5
  keccak256 := fun bs =>
    if bs = (sampleVaa 0).body then sampleHash
    else if bs = (sampleVaa 1600000000).body then timelyHash
    else zeros 32
  EMITTER_ADDRESS := some (sampleVaa 0).emitterAddress

/-- The guardians have signed the hashes. -/
def SampleSigned (address message : List UInt8) : Prop :=
  address ∈ sampleGuardians.map Subtype.val ∧ (message = sampleHash.val ∨ message = timelyHash.val)

/-- One account with lamports. -/
def sampleLedger : Ledger SampleKey := fun k =>
  { lamports := if k = .inl 10 then 10 ^ 12 else 0
    owner := .inl 1
    data := [] }

def sampleSigner (k : SampleKey) : AccountMeta SampleKey := ⟨k, true, true⟩

def sampleWritable (seeds : List (List UInt8)) : AccountMeta SampleKey := ⟨.inr seeds.flatten, false, true⟩

def sampleReadonly (k : SampleKey) : AccountMeta SampleKey := ⟨k, false, false⟩

theorem sampleGuardians_length : sampleGuardians.length < 2 ^ 32 := by decide

/-- Four guardians, and a day to the expiration of a set. -/
def sampleInitialize : Input SampleKey :=
  .initializeBridge
    { bridge := sampleWritable [bridgeSeed]
      guardianSet := sampleWritable (guardianSetSeeds 0)
      feeCollector := sampleWritable [feeCollectorSeed]
      payer := sampleSigner (.inl 10)
      clock := sampleReadonly (.inl 2) }
    1600000000
    { guardianSetExpirationTime := 86400
      fee := 0
      initialGuardians := ⟨sampleGuardians, sampleGuardians_length⟩ }

/-- An entry of a secp256k1 instruction for `n` guardians. -/
def sampleEntry (n i : Nat) : List UInt8 :=
  (beBytes 2 (33 + 31 * n + 65 * i)).reverse ++ [0x00] ++ (beBytes 2 (1 + 11 * n + 20 * i)).reverse ++ [0x00] ++
    (beBytes 2 (1 + 31 * n)).reverse ++ [0x20, 0x00, 0x00]

/-- The entries, then the addresses, the hash, and the signatures. -/
def sampleSecp (guardians : List (FixedBytes 20)) (hash : FixedBytes 32) : Instruction SampleKey where
  programId := .inl 5
  data := beBytes 1 guardians.length ++ (List.range guardians.length).flatMap (sampleEntry guardians.length) ++
    guardians.flatMap Subtype.val ++ hash.val ++ List.replicate (65 * guardians.length) 0x00

/-- The second guardian's signature comes before the first one's. -/
def firstSigners : List Int8 := 1 :: 0 :: List.replicate 17 (-1)

theorem firstSigners_length : firstSigners.length = MAX_LEN_GUARDIAN_KEYS := by decide

/-- The fourth guardian. -/
def secondSigners : List Int8 := -1 :: -1 :: -1 :: 0 :: List.replicate 15 (-1)

theorem secondSigners_length : secondSigners.length = MAX_LEN_GUARDIAN_KEYS := by decide

def sampleVerifyAccounts : VerifySignatures SampleKey where
  payer := sampleSigner (.inl 10)
  guardianSet := sampleReadonly (.inr (guardianSetSeeds 0).flatten)
  signatureSet := sampleSigner (.inl 11)
  instructionAcc := sampleReadonly (.inl 3)

/-- The secp256k1 instructions: of the first two guardians, and of the fourth. -/
def firstSecp (hash : FixedBytes 32) : Instruction SampleKey := sampleSecp (sampleGuardians.take 2).reverse hash

def secondSecp (hash : FixedBytes 32) : Instruction SampleKey := sampleSecp (sampleGuardians.drop 3) hash

def firstVerify (hash : FixedBytes 32) : Input SampleKey :=
  .verifySignatures sampleVerifyAccounts [firstSecp hash] 1 { signers := ⟨firstSigners, firstSigners_length⟩ }

def secondVerify (hash : FixedBytes 32) : Input SampleKey :=
  .verifySignatures sampleVerifyAccounts [secondSecp hash] 1 { signers := ⟨secondSigners, secondSigners_length⟩ }

def samplePost (vaa : PostVAAData) (hash : FixedBytes 32) : Input SampleKey :=
  .postVaa
    { guardianSet := sampleReadonly (.inr (guardianSetSeeds 0).flatten)
      bridgeInfo := sampleReadonly (.inr bridgeSeed)
      signatureSet := sampleReadonly (.inl 11)
      message := sampleWritable (postedVaaSeeds hash)
      payer := sampleSigner (.inl 10)
      clock := sampleReadonly (.inl 2) }
    1600000000 vaa

/-- The ledger with a VAA posted, which three of the guardians have signed in two instructions. -/
def postedLedger (vaa : PostVAAData) (hash : FixedBytes 32) : Ledger SampleKey :=
  attempts (step sampleProgram) sampleLedger
    [sampleInitialize, firstVerify hash, secondVerify hash, samplePost vaa hash]

def samplePosted : Ledger SampleKey := postedLedger (sampleVaa 0) sampleHash

theorem sampleProgram_collisionFree : sampleProgram.CollisionFree Set.univ where
  derive _ _ _ _ h := Sum.inr.inj h
  bridge := Set.mem_univ _
  feeCollector := Set.mem_univ _
  guardianSet _ := Set.mem_univ _

theorem sampleLedger_undeployed : Undeployed sampleProgram sampleLedger := by
  intro k
  show (.inl 1 : SampleKey) ≠ .inl 0
  decide

theorem sample_signers {ms : List (AccountMeta SampleKey)}
    (h : ∀ m ∈ ms, m.isSigner = true → m.key.isLeft = true) :
    ∀ m ∈ ms, m.isSigner = true → ¬sampleProgram.IsDerived Set.univ m.key := by
  rintro m hm hsigner ⟨seeds, -, hkey⟩
  have hleft := h m hm hsigner
  rw [hkey] at hleft
  cases hleft

/-- An input that is not a change by others, nor a verification of signatures. -/
theorem sample_admissible {L : Ledger SampleKey} {input : Input SampleKey}
    (hsigners : ∀ m ∈ input.metas, m.isSigner = true → m.key.isLeft = true)
    (hverify : ∀ accs tx current data, input ≠ .verifySignatures accs tx current data)
    (hothers : ∀ L', input ≠ .others L') : input.Admissible sampleProgram Set.univ SampleSigned L :=
  ⟨sample_signers hsigners, fun _ _ _ _ h => absurd h (hverify _ _ _ _), fun _ h => absurd h (hothers _),
    fun _ _ => Set.mem_univ _⟩

/-- The signers of the samples have signed both hashes. -/
theorem sampleSigned_of_mem {hash : FixedBytes 32} (hhash : hash = sampleHash ∨ hash = timelyHash) {g : FixedBytes 20}
    (hg : g ∈ sampleGuardians) : SampleSigned g.val hash.val :=
  ⟨List.mem_map_of_mem hg, hhash.imp (congrArg Subtype.val) (congrArg Subtype.val)⟩

theorem firstSecp_verifies {hash : FixedBytes 32} (hhash : hash = sampleHash ∨ hash = timelyHash) :
    SecpVerifies SampleSigned [firstSecp hash] (firstSecp hash).data := by
  have hsigned := @sampleSigned_of_mem hash hhash
  intro count hcount i hi
  obtain rfl : count = 2 := (Option.some.inj hcount).symm
  obtain rfl | rfl : i = 0 ∨ i = 1 := by
    have hlt : i < 2 := hi
    omega
  · refine ⟨⟨0, 23, 0, 63, 32, 0⟩, firstSecp hash, firstSecp hash, List.replicate 20 0x09, hash.val, ?_, rfl, rfl, ?_,
      ?_, hsigned (g := ⟨List.replicate 20 0x09, sampleKey_length 0x09⟩) (by decide)⟩
    all_goals
      rcases hhash with rfl | rfl
      · decide +kernel
      · decide +kernel
  · refine ⟨⟨0, 43, 0, 63, 32, 0⟩, firstSecp hash, firstSecp hash, sampleGuardian.val, hash.val, ?_, rfl, rfl, ?_, ?_,
      hsigned (g := sampleGuardian) (by decide)⟩
    all_goals
      rcases hhash with rfl | rfl
      · decide +kernel
      · decide +kernel

theorem secondSecp_verifies {hash : FixedBytes 32} (hhash : hash = sampleHash ∨ hash = timelyHash) :
    SecpVerifies SampleSigned [secondSecp hash] (secondSecp hash).data := by
  have hsigned := @sampleSigned_of_mem hash hhash
  intro count hcount i hi
  obtain rfl : count = 1 := (Option.some.inj hcount).symm
  obtain rfl : i = 0 := Nat.lt_one_iff.mp hi
  refine ⟨⟨0, 12, 0, 32, 32, 0⟩, secondSecp hash, secondSecp hash, List.replicate 20 0x0b, hash.val, ?_, rfl, rfl, ?_,
    ?_, hsigned (g := ⟨List.replicate 20 0x0b, sampleKey_length 0x0b⟩) (by decide)⟩
  all_goals
    rcases hhash with rfl | rfl
    · decide +kernel
    · decide +kernel

/-- A verification of the one secp256k1 instruction of its transaction. -/
theorem verify_admissible {L : Ledger SampleKey} {secp : Instruction SampleKey} {data : VerifySignaturesData}
    (hverifies : SecpVerifies SampleSigned [secp] secp.data) :
    Input.Admissible sampleProgram Set.univ SampleSigned L
      (.verifySignatures sampleVerifyAccounts [secp] 1 data) := by
  refine ⟨sample_signers ?_, ?_, (fun _ h => by cases h), fun _ _ => Set.mem_univ _⟩
  · simp [Input.metas, sampleVerifyAccounts, sampleReadonly, sampleSigner]
  intro accs tx current data' h ix hix hprogram
  obtain ⟨-, rfl, -, -⟩ := Input.verifySignatures.inj h
  rw [List.mem_singleton.mp hix]
  exact hverifies

theorem postedLedger_run (vaa : PostVAAData) {hash : FixedBytes 32} (hhash : hash = sampleHash ∨ hash = timelyHash) :
    Run (step sampleProgram) (fun L input => input.Admissible sampleProgram Set.univ SampleSigned L) sampleLedger
      (postedLedger vaa hash) := by
  rw [postedLedger, attempts_cons, attempts_cons, attempts_cons, attempts_cons, attempts_nil]
  refine ((((Run.refl sampleLedger).attempt sampleInitialize ?_).attempt (firstVerify hash) ?_).attempt
    (secondVerify hash) ?_).attempt (samplePost vaa hash) ?_
  · exact sample_admissible (by decide) (by rintro _ _ _ _ ⟨⟩) (by rintro _ ⟨⟩)
  · exact verify_admissible (firstSecp_verifies hhash)
  · exact verify_admissible (secondSecp_verifies hhash)
  · refine sample_admissible ?_ (by rintro _ _ _ _ ⟨⟩) (by rintro _ ⟨⟩)
    simp [samplePost, Input.metas, sampleReadonly, sampleWritable, sampleSigner]

theorem samplePosted_run :
    Run (step sampleProgram) (fun L input => input.Admissible sampleProgram Set.univ SampleSigned L) sampleLedger
      samplePosted := postedLedger_run _ (.inl rfl)

theorem samplePosted_owner :
    (samplePosted (postedVaaKey sampleProgram sampleHash)).owner = sampleProgram.programId := by
  decide +kernel

/-- The VAA that three of four guardians have signed is posted. -/
theorem samplePosted_attested : ∃ Lm clock vaa g,
    Attested sampleProgram SampleSigned Lm clock (PostVAAData.guardianSetIndex vaa) g sampleHash := by
  obtain ⟨Lm, _, _, clock, vaa, g, -, -, -, -, -, h⟩ :=
    postedVaa_attested sampleProgram_collisionFree sampleLedger_undeployed samplePosted_run (Set.mem_univ _)
      samplePosted_owner
  exact ⟨Lm, clock, vaa, g, h⟩

end Samples

end Wormhole.Solana.Core

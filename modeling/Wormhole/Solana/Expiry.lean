/-
# Wormhole.Solana.Expiry — how long a guardian set that has been replaced is used.

`upgrade_guardian_set` adds the grace period to the time that the governance VAA carries, with 32 bits, and
stores the sum in the account of the replaced set; zero there means that the set does not expire.
`post_vaa` compares it with the clock.  What the update's own clock says is not read, and the node makes
its governance VAAs with the time 0.

From its replacement on a set's account stays as it is, since the index of the bridge has moved on
(`Replaced`).  So the set has its grace period exactly if the VAA carries the time of the update and the sum
fits: `grace_iff`.
-/
import Mathlib
import Wormhole.Lib.Bytes
import Wormhole.Lib.Failing
import Wormhole.Lib.Codec
import Wormhole.Lib.Transition
import Wormhole.Solana.Payloads
import Wormhole.Solana.Solitaire
import Wormhole.Solana.Accounts
import Wormhole.Solana.Core
import Wormhole.Solana.Instructions
import Wormhole.Solana.PostedVaa

namespace Wormhole.Solana.Core

open Wormhole.Lib Wormhole.Lib.Bytes Wormhole.Lib.Transition

variable {Pubkey : Type} {P : CoreProgram Pubkey} {L L' : Ledger Pubkey}
  {used : Set (List (List UInt8))} {Signed : List UInt8 → List UInt8 → Prop} {input : Input Pubkey}

/-! ## Acceptance -/

/-- The guardian set with this index has not expired. -/
def Accepted (P : CoreProgram Pubkey) (L : Ledger Pubkey) (index : UInt32) (clock : Int) : Prop :=
  ∃ g : GuardianSetData, Holds P.toProgram L (guardianSetKey P index) (GuardianSetData.codec.write g) ∧
    checkActive g clock = .ok ()

theorem accepted_iff {index : UInt32} {g : GuardianSetData}
    (hg : Holds P.toProgram L (guardianSetKey P index) (GuardianSetData.codec.write g)) (clock : Int) :
    Accepted P L index clock ↔ checkActive g clock = .ok () := by
  constructor
  · rintro ⟨g', hg', hactive⟩
    rwa [codec_inj hg hg']
  · intro hactive
    exact ⟨g, hg, hactive⟩

section Posting

variable [DecidableEq Pubkey]

/-- `post_vaa` posts the VAA at this time. -/
def Posts (P : CoreProgram Pubkey) (L : Ledger Pubkey) (accs : PostVAA Pubkey) (vaa : PostVAAData)
    (clock : Int) : Prop :=
  ¬isInitialized L accs.message ∧ ∃ L', postVaa P L accs clock vaa = .ok L'

/-- **The time matters only to the guardian set.** A VAA that can be posted at one time can be posted when its
guardian set has not expired. -/
theorem Posts.iff_accepted {accs : PostVAA Pubkey} {vaa : PostVAAData} {clock : Int}
    (h : Posts P L accs vaa clock) (clock' : Int) :
    Posts P L accs vaa clock' ↔ Accepted P L vaa.guardianSetIndex clock' := by
  obtain ⟨hnew, L', h⟩ := h
  obtain ⟨g, hg, h⟩ := Failing.bind_eq_ok.mp h
  obtain ⟨_, hbridgeKey, h⟩ := Failing.bind_eq_ok.mp h
  obtain ⟨bridge, hbridge, h⟩ := Failing.bind_eq_ok.mp h
  obtain ⟨s, hs, h⟩ := Failing.bind_eq_ok.mp h
  obtain ⟨_, hmut, h⟩ := Failing.bind_eq_ok.mp h
  obtain ⟨message, hmessage, h⟩ := Failing.bind_eq_ok.mp h
  obtain ⟨_, hmutPayer, h⟩ := Failing.bind_eq_ok.mp h
  obtain ⟨_, hsigner, h⟩ := Failing.bind_eq_ok.mp h
  obtain ⟨_, hclock, h⟩ := Failing.bind_eq_ok.mp h
  obtain ⟨_, hmessageKey, h⟩ := Failing.bind_eq_ok.mp h
  obtain ⟨_, hgKey, h⟩ := Failing.bind_eq_ok.mp h
  rw [if_neg hnew] at h
  obtain ⟨_, -, h⟩ := Failing.bind_eq_ok.mp h
  have hkey : P.derive (guardianSetSeeds vaa.guardianSetIndex) = accs.guardianSet.key := ensure_eq_ok.mp hgKey
  have hholds : Holds P.toProgram L (guardianSetKey P vaa.guardianSetIndex) (GuardianSetData.codec.write g) := by
    rw [guardianSetKey, hkey]
    exact peelGuardianSet hg
  rw [accepted_iff hholds]
  -- everything before and behind the check is the same
  have hrest : ∀ {u : Unit}, checkActive g clock' = .ok u → postVaa P L accs clock' vaa = .ok L' := by
    intro u hactive
    refine Failing.bind_eq_ok.mpr ⟨g, hg, ?_⟩
    refine Failing.bind_eq_ok.mpr ⟨_, hbridgeKey, ?_⟩
    refine Failing.bind_eq_ok.mpr ⟨bridge, hbridge, ?_⟩
    refine Failing.bind_eq_ok.mpr ⟨s, hs, ?_⟩
    refine Failing.bind_eq_ok.mpr ⟨_, hmut, ?_⟩
    refine Failing.bind_eq_ok.mpr ⟨message, hmessage, ?_⟩
    refine Failing.bind_eq_ok.mpr ⟨_, hmutPayer, ?_⟩
    refine Failing.bind_eq_ok.mpr ⟨_, hsigner, ?_⟩
    refine Failing.bind_eq_ok.mpr ⟨_, hclock, ?_⟩
    refine Failing.bind_eq_ok.mpr ⟨_, hmessageKey, ?_⟩
    refine Failing.bind_eq_ok.mpr ⟨_, hgKey, ?_⟩
    rw [if_neg hnew]
    exact Failing.bind_eq_ok.mpr ⟨_, hactive, h⟩
  constructor
  · rintro ⟨-, L'', h'⟩
    rcases postVaa_eq_ok h' with ⟨hold, -⟩ | ⟨-, g', s', hposted⟩
    · exact absurd hold hnew
    · rw [codec_inj hholds hposted.guardianSet]
      exact hposted.active
  · intro hactive
    exact ⟨hnew, L', hrest hactive⟩

/-- What a guardian set that is replaced at `now` is to have: its VAAs are accepted for the grace period and no
longer. -/
structure HasGrace (P : CoreProgram Pubkey) (L : Ledger Pubkey) (index : UInt32) (now grace : Int) : Prop where
  accepted : ∀ clock, now ≤ clock → (Accepted P L index clock ↔ clock ≤ now + grace)
  posts : ∀ accs (vaa : PostVAAData) clock₀, vaa.guardianSetIndex = index → Posts P L accs vaa clock₀ →
    ∀ clock, now ≤ clock → (Posts P L accs vaa clock ↔ clock ≤ now + grace)

theorem hasGrace_iff {index : UInt32} {now grace : Int} :
    HasGrace P L index now grace ↔
      ∀ clock, now ≤ clock → (Accepted P L index clock ↔ clock ≤ now + grace) := by
  refine ⟨HasGrace.accepted, fun h => ⟨h, ?_⟩⟩
  rintro accs vaa clock₀ rfl hposts clock hclock
  exact (hposts.iff_accepted clock).trans (h clock hclock)

end Posting

/-! ## The condition -/

/-- The update is timely: the VAA carries the time of the update, and with the grace period the time fits.  The
set is not the one that is blocked. -/
structure Timely (m : MessageData) (grace : UInt32) (old : GuardianSetData) (now : Int) : Prop where
  time : m.vaaTime = asU32 now
  positive : 0 < now + grace.toNat
  fits : now + grace.toNat < 2 ^ 32
  unblocked : ¬(old.index = 0 ∧ old.creationTime = 1628099186)

theorem asU32_toNat (now : Int) : ((asU32 now).toNat : Int) = now % 2 ^ 32 := by
  rw [asU32, UInt32.toNat_ofNat']
  omega

/-- A sum with 32 bits is the one without exactly if its summand is the time and it fits. -/
theorem sum_eq_iff {time grace : UInt32} {now : Int} :
    ((time + grace).toNat : Int) = now + grace.toNat ↔
      time = asU32 now ∧ 0 ≤ now + grace.toNat ∧ now + grace.toNat < 2 ^ 32 := by
  have htime := time.toNat_lt
  have hgrace := grace.toNat_lt
  rw [← UInt32.toNat_inj, ← Int.ofNat_inj, asU32_toNat, UInt32.toNat_add]
  omega

/-- An expiration gives the grace period exactly if it is the end of the period, and not zero. -/
theorem expiration_iff {expiration : Nat} {now grace : Int} (hgrace : 0 ≤ grace) :
    (∀ clock, now ≤ clock → (expiration = 0 ∨ clock ≤ expiration ↔ clock ≤ now + grace)) ↔
      expiration ≠ 0 ∧ (expiration : Int) = now + grace := by
  constructor
  · intro h
    have hafter := h (now + grace + 1) (by omega)
    have hend := h (now + grace) (by omega)
    have hexpiration := h (max now expiration) (by omega)
    omega
  · rintro ⟨hne, heq⟩ clock -
    omega

theorem timely_iff {m : MessageData} {grace : UInt32} {old : GuardianSetData} {now : Int} :
    (∀ clock, now ≤ clock →
      (checkActive { old with expirationTime := m.vaaTime + grace } clock = .ok () ↔
        clock ≤ now + grace.toNat)) ↔ Timely m grace old now := by
  have hzero : m.vaaTime + grace = 0 ↔ (m.vaaTime + grace).toNat = 0 := by
    rw [← UInt32.toNat_inj, UInt32.toNat_zero]
  have hgrace : (0 : Int) ≤ grace.toNat := Int.natCast_nonneg _
  constructor
  · intro h
    have hopen : ¬(old.index = 0 ∧ old.creationTime = 1628099186) := by
      have hnow := (h now le_rfl).mpr (by omega)
      exact (checkActive_eq_ok.mp hnow).1
    have hexpiration : ∀ clock, now ≤ clock → ((m.vaaTime + grace).toNat = 0 ∨
        clock ≤ (m.vaaTime + grace).toNat ↔ clock ≤ now + grace.toNat) := by
      intro clock hclock
      rw [← h clock hclock, checkActive_eq_ok, ← hzero]
      exact (and_iff_right hopen).symm
    obtain ⟨hne, heq⟩ := (expiration_iff hgrace).mp hexpiration
    obtain ⟨htime, -, hfits⟩ := sum_eq_iff.mp heq
    exact ⟨htime, by omega, hfits, hopen⟩
  · rintro ⟨htime, hpositive, hfits, hopen⟩ clock hclock
    have heq := sum_eq_iff.mpr ⟨htime, hpositive.le, hfits⟩
    have hne : (m.vaaTime + grace).toNat ≠ 0 := by omega
    rw [checkActive_eq_ok, ← (expiration_iff hgrace).mpr ⟨hne, heq⟩ clock hclock, ← hzero]
    exact and_iff_right hopen

/-! ## Runs -/

section Runs

variable [DecidableEq Pubkey]

/-- The guardian set has been replaced, and is `g` now. -/
structure Replaced (P : CoreProgram Pubkey) (L : Ledger Pubkey) (g : GuardianSetData) : Prop where
  guardianSet : Holds P.toProgram L (guardianSetKey P g.index) (GuardianSetData.codec.write g)
  bridge : ∃ b : BridgeData, Holds P.toProgram L (bridgeKey P) (BridgeData.codec.write b) ∧
    b.guardianSetIndex ≠ g.index

omit [DecidableEq Pubkey] in
theorem bridgeKey_ne (hfree : P.CollisionFree used) {seeds : List (List UInt8)} (hused : seeds ∈ used)
    (h : 6 ≠ seeds.flatten.length) : bridgeKey P ≠ P.derive seeds := hfree.ne hfree.bridge hused h

/-- What a step does to the index of the bridge. -/
theorem bridge_step (hfree : P.CollisionFree used) (hadmissible : input.Admissible P used Signed L)
    (hstep : step P L input = some L') {b : BridgeData}
    (hb : Holds P.toProgram L (bridgeKey P) (BridgeData.codec.write b)) :
    ∃ b' : BridgeData, Holds P.toProgram L' (bridgeKey P) (BridgeData.codec.write b') ∧
      (b'.guardianSetIndex = b.guardianSetIndex ∨
        ∃ m bridge old new, Upgraded P L L' m bridge old new ∧ b'.guardianSetIndex = new.index) := by
  have hderived : P.IsDerived used (bridgeKey P) := ⟨_, hfree.bridge, rfl⟩
  have h : execute P L input = .ok L' := Failing.toOption_eq_some hstep
  cases input with
  | initializeBridge accs clock data =>
    exact absurd hb.1 (initializeBridge_eq_ok h).newBridge
  | postMessage accs clock data =>
    obtain ⟨b₀, b', hindex, -, hb₀, hb'⟩ := (postMessage_eq_ok h).bridge
    obtain rfl := codec_inj hb hb₀
    exact ⟨b', hb', .inl hindex⟩
  | verifySignatures accs tx current data =>
    obtain ⟨g, msgHash, secpIxs, hdone, -⟩ := verifySignatures_eq_ok h
    have hne : bridgeKey P ≠ accs.signatureSet.key := by
      intro heq
      refine hadmissible.signers accs.signatureSet (by simp [Input.metas]) hdone.signer ?_
      rw [← heq]
      exact hderived
    exact ⟨b, (hdone.others _ hne).holds hb, .inl rfl⟩
  | postVaa accs clock vaa =>
    rcases postVaa_eq_ok h with ⟨-, hdone⟩ | ⟨-, g, s, hdone⟩
    · obtain ⟨s, hs, hkey⟩ := hdone.messageKey
      obtain ⟨m, -, hpersisted⟩ := hdone.message
      have hne : bridgeKey P ≠ accs.message.key := by
        rw [hkey]
        refine bridgeKey_ne hfree (hadmissible.seeds _ ⟨s, hs, rfl⟩) ?_
        rw [postedVaaSeeds_length]
        decide
      exact ⟨b, (hpersisted.kept hne).holds hb, .inl rfl⟩
    · have hne : bridgeKey P ≠ postedVaaKey P s.hash := by
        refine bridgeKey_ne hfree (hadmissible.seeds _ ⟨s, hdone.signatureSet, rfl⟩) ?_
        rw [postedVaaSeeds_length]
        decide
      exact ⟨b, (hdone.others _ hne).holds hb, .inl rfl⟩
  | upgradeGuardianSet accs clock =>
    obtain ⟨m, bridge, old, new, -, hdone⟩ := upgradeGuardianSet_eq_ok hfree h
    exact ⟨_, hdone.bridgeAfter, .inr ⟨m, bridge, old, new, hdone, rfl⟩⟩
  | setFees accs =>
    obtain ⟨m, -, hdone⟩ := setFees_eq_ok h
    obtain ⟨b₀, b', hindex, -, hb₀, hb'⟩ := hdone.bridge
    obtain rfl := codec_inj hb hb₀
    exact ⟨b', hb', .inl hindex⟩
  | transferFees accs =>
    obtain ⟨m, hm, hdone⟩ := transferFees_eq_ok h
    have hne : bridgeKey P ≠ P.derive (claimSeeds m) := by
      refine bridgeKey_ne hfree (hadmissible.seeds _ ⟨m, hm, rfl⟩) ?_
      rw [claimSeeds_length]
      decide
    exact ⟨b, (hdone.others _ hne).holds hb, .inl rfl⟩
  | others Ln =>
    obtain rfl := Except.ok.inj h
    rcases hadmissible.others Ln rfl (bridgeKey P) with hkept | ⟨hfresh, -, -⟩
    · exact ⟨b, hkept.holds hb, .inl rfl⟩
    · exact absurd hderived hfresh

/-- A set that has been replaced is written no more. -/
theorem Replaced.of_step (hfree : P.CollisionFree used) (hsound : Sound P used Signed L)
    (hadmissible : input.Admissible P used Signed L) (hstep : step P L input = some L') {g : GuardianSetData}
    (h : Replaced P L g) : Replaced P L' g := by
  obtain ⟨b, hb, hindex⟩ := h.bridge
  constructor
  · rcases (effect_step hfree hsound hadmissible hstep).guardianSet hfree g.index with hkept | hwrites
    · exact hkept.holds h.guardianSet
    -- only an update of the current set writes it
    · obtain ⟨g', -, -, hold, -⟩ := hwrites
      obtain ⟨_, _, m, bridge, new, -, hupgraded⟩ := (hold g h.guardianSet).update
      obtain rfl := codec_inj hb hupgraded.bridgeBefore
      exact absurd hupgraded.current hindex
  · obtain ⟨b', hb', hsame | ⟨m, bridge, old, new, hupgraded, hnew⟩⟩ := bridge_step hfree hadmissible hstep hb
    · rw [← hsame] at hindex
      exact ⟨b', hb', hindex⟩
    · refine ⟨b', hb', ?_⟩
      intro heq
      rw [hnew] at heq
      refine hupgraded.newGuardianSet ?_
      rw [heq]
      exact h.guardianSet.1

theorem Replaced.of_run (hfree : P.CollisionFree used) {g : GuardianSetData}
    (hrun : Run (step P) (fun L input => input.Admissible P used Signed L) L L') (hsound : Sound P used Signed L)
    (h : Replaced P L g) : Replaced P L' g := by
  suffices hboth : Sound P used Signed L' ∧ Replaced P L' g from hboth.2
  refine hrun.invariant (I := fun L => Sound P used Signed L ∧ Replaced P L g) ?_ ⟨hsound, h⟩
  rintro s input t ⟨hs, hg⟩ hok hstep
  exact ⟨hs.effect hfree (effect_step hfree hs hok hstep), hg.of_step hfree hs hok hstep⟩

omit [DecidableEq Pubkey] in
theorem Upgraded.replaced {m : MessageData} {bridge : BridgeData} {old new : GuardianSetData}
    (h : Upgraded P L L' m bridge old new) :
    Replaced P L' { old with expirationTime := m.vaaTime + bridge.config.guardianSetExpirationTime } := by
  refine ⟨h.oldAfter, _, h.bridgeAfter, ?_⟩
  show new.index ≠ old.index
  rw [h.next]
  intro heq
  have htwice : old.index + 1 = old.index + 0 := by rw [heq, UInt32.add_zero]
  exact absurd (UInt32.add_right_inj old.index |>.mp htwice) (by decide)

/-- **A replaced guardian set has its grace period exactly if the update is timely**, in every state of every
run after the update. -/
theorem grace_iff (hfree : P.CollisionFree used) {L₀ Lm Ln : Ledger Pubkey} (h₀ : Undeployed P L₀)
    (hbefore : Run (step P) (fun L input => input.Admissible P used Signed L) L₀ Lm)
    {accs : UpgradeGuardianSet Pubkey} {now : Int}
    (hadmissible : Input.Admissible P used Signed Lm (.upgradeGuardianSet accs now))
    (hstep : step P Lm (.upgradeGuardianSet accs now) = some Ln)
    (hafter : Run (step P) (fun L input => input.Admissible P used Signed L) Ln L) {m : MessageData}
    (hm : MessageData.deserialize (Lm accs.vaa.message.key).data = .ok m) {bridge : BridgeData}
    (hbridge : Holds P.toProgram Lm (bridgeKey P) (BridgeData.codec.write bridge)) {old : GuardianSetData}
    (hold : Holds P.toProgram Lm (guardianSetKey P bridge.guardianSetIndex) (GuardianSetData.codec.write old)) :
    HasGrace P L bridge.guardianSetIndex now bridge.config.guardianSetExpirationTime.toNat ↔
      Timely m bridge.config.guardianSetExpirationTime old now := by
  have hsound : Sound P used Signed Lm := sound_run hfree h₀ hbefore
  obtain ⟨m', bridge', old', new, hm', hupgraded⟩ :=
    upgradeGuardianSet_eq_ok hfree (Failing.toOption_eq_some hstep)
  obtain rfl : m = m' := Except.ok.inj (hm.symm.trans hm')
  obtain rfl := codec_inj hbridge hupgraded.bridgeBefore
  rw [hupgraded.current] at hold ⊢
  obtain rfl := codec_inj hold hupgraded.oldBefore
  have hreplaced : Replaced P L _ :=
    hupgraded.replaced.of_run hfree hafter (hsound.effect hfree (effect_step hfree hsound hadmissible hstep))
  rw [hasGrace_iff, ← timely_iff]
  apply forall_congr'
  intro clock
  apply imp_congr_right
  intro _
  rw [accepted_iff hreplaced.guardianSet]

end Runs

/-! ## Inputs -/

section Samples

/-- The update to the guardian set 1, as a posted VAA says. -/
def sampleUpgradeAccounts (vaa : PostVAAData) (hash : FixedBytes 32) : UpgradeGuardianSet SampleKey where
  payer := sampleSigner (.inl 10)
  bridge := sampleWritable [bridgeSeed]
  vaa :=
    { message := sampleReadonly (.inr (postedVaaSeeds hash).flatten)
      claim := sampleWritable (claimSeeds (postedOf ⟨MessageData.new⟩ vaa (zeros 32)).message) }
  guardianSetOld := sampleWritable (guardianSetSeeds 0)
  guardianSetNew := sampleWritable (guardianSetSeeds 1)

/-- The ledger after the update, which is made at the time 1600000000. -/
def upgradedLedger (vaa : PostVAAData) (hash : FixedBytes 32) : Ledger SampleKey :=
  attempt (step sampleProgram) (postedLedger vaa hash)
    (.upgradeGuardianSet (sampleUpgradeAccounts vaa hash) 1600000000)

def sampleUpgraded : Ledger SampleKey := upgradedLedger (sampleVaa 0) sampleHash

/-- The guardian set 0, with its expiration time. -/
def sampleGuardianSet (expirationTime : UInt32) : GuardianSetData where
  index := 0
  keys := ⟨sampleGuardians, sampleGuardians_length⟩
  creationTime := 1600000000
  expirationTime := expirationTime

/-- A grace period of a day. -/
def sampleBridge : BridgeData where
  guardianSetIndex := 0
  lastLamports := 890880
  config := ⟨86400, 0⟩

/-- The replaced set is rejected from the moment of its replacement: it has expired a day after the time 0. -/
theorem sampleUpgraded_expired :
    ¬HasGrace sampleProgram sampleUpgraded 0 1600000000 86400 ∧
      ¬Accepted sampleProgram sampleUpgraded 0 1600000000 := by
  have hholds : Holds sampleProgram.toProgram sampleUpgraded (guardianSetKey sampleProgram 0)
      (GuardianSetData.codec.write (sampleGuardianSet 86400)) := by
    constructor
    · decide +kernel
    · decide +kernel
  have hrejected : ¬Accepted sampleProgram sampleUpgraded 0 1600000000 := by
    rw [accepted_iff hholds]
    decide
  exact ⟨fun h => hrejected ((h.accepted 1600000000 le_rfl).mpr (by decide)), hrejected⟩

/-- Of a VAA that carries the time of the update. -/
def timelyPosted : Ledger SampleKey := postedLedger (sampleVaa 1600000000) timelyHash

def timelyUpgraded : Ledger SampleKey := upgradedLedger (sampleVaa 1600000000) timelyHash

theorem timelyUpgraded_eq : step sampleProgram timelyPosted
    (.upgradeGuardianSet (sampleUpgradeAccounts (sampleVaa 1600000000) timelyHash) 1600000000) =
      some timelyUpgraded := by
  have hsome : (step sampleProgram timelyPosted (.upgradeGuardianSet
      (sampleUpgradeAccounts (sampleVaa 1600000000) timelyHash) 1600000000)).isSome = true := by
    decide +kernel
  obtain ⟨L, hL⟩ := Option.isSome_iff_exists.mp hsome
  rw [hL]
  exact (congrArg some (attempt_eq_of_some hL)).symm

/-- A replaced set is accepted for a day, to the second, when the VAA of its update carries the time. -/
theorem timelyUpgraded_grace : HasGrace sampleProgram timelyUpgraded 0 1600000000 86400 ∧
    Accepted sampleProgram timelyUpgraded 0 1600086400 ∧ ¬Accepted sampleProgram timelyUpgraded 0 1600086401 := by
  have hbridge : Holds sampleProgram.toProgram timelyPosted (bridgeKey sampleProgram)
      (BridgeData.codec.write sampleBridge) := by
    constructor
    · decide +kernel
    · decide +kernel
  have hold : Holds sampleProgram.toProgram timelyPosted (guardianSetKey sampleProgram 0)
      (GuardianSetData.codec.write (sampleGuardianSet 0)) := by
    constructor
    · decide +kernel
    · decide +kernel
  have hmessage : MessageData.deserialize (timelyPosted (.inr (postedVaaSeeds timelyHash).flatten)).data =
      .ok (postedOf ⟨MessageData.new⟩ (sampleVaa 1600000000) (zeros 32)).message := by decide +kernel
  have htimely : Timely (postedOf ⟨MessageData.new⟩ (sampleVaa 1600000000) (zeros 32)).message 86400
      (sampleGuardianSet 0) 1600000000 := ⟨by decide, by decide, by decide, by decide⟩
  have hgrace : HasGrace sampleProgram timelyUpgraded 0 1600000000 86400 :=
    (grace_iff sampleProgram_collisionFree sampleLedger_undeployed (postedLedger_run _ (.inr rfl))
      (sample_admissible (by decide) (by rintro _ _ _ _ ⟨⟩) (by rintro _ ⟨⟩)) timelyUpgraded_eq (Run.refl _)
      hmessage hbridge hold).mpr htimely
  refine ⟨hgrace, (hgrace.accepted _ (by decide)).mpr (by decide), ?_⟩
  intro haccepted
  exact absurd ((hgrace.accepted _ (by decide)).mp haccepted) (by decide)

end Samples

end Wormhole.Solana.Core

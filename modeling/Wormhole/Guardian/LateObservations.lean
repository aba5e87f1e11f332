/-
# Wormhole.Guardian.LateObservations — messages that are observed again, and how late.

`handleMessage` looks up the VAA of a message in the store.  An observation that is late is to be ignored, one
within the settlement time of 30 seconds is to be signed again, so that other nodes do not consider it a miss.
What the code compares is the time of the message with the time in the stored VAA.  The VAA is that of the
message, so the two differ by what is lost when the VAA is written: less than a second, or a multiple of 2^32
seconds.  When the VAA was stored plays no part.

Here a node runs on a clock, and the store after each event is kept, so that it can be said since when the VAA
of a message is stored.  `lateObservation_iff` says when the message is treated as it should be.
-/
import Mathlib
import Wormhole.Lib.Go
import Wormhole.Lib.Transition
import Wormhole.Guardian.Codec
import Wormhole.Guardian.Aggregation
import Wormhole.Guardian.SubmittedVaa
import Wormhole.Guardian.Cleanup
import Wormhole.Guardian.Reobservation

namespace Wormhole.Guardian

open Wormhole.Lib Wormhole.Lib.Transition

/-! ## A node on a clock -/

/-- The store has a VAA for the message, with a quorum of signatures. -/
def HasQuorumVaa (d : Database) (k : MessagePublication) : Prop :=
  ∃ (gs : GuardianSet) (sigs : List Signature), calculateQuorum gs.Keys.length ≤ sigs.length ∧
    sigs.length ≤ 255 ∧ d (vaaIDFromVAA (vaaOfMessage gs k)).bytes =
      some (marshal { vaaOfMessage gs k with signatures := sigs })

structure Clocked where
  node : Aggregator
  clock : Int
  /-- the times of the events, and the store after each; the last comes first -/
  history : List (Int × Database)

namespace Clocked

/-- A node on an empty store. -/
def start (now : Int) : Clocked := ⟨newProcessor fun _ => none, now, []⟩

/-- An event at a time. -/
def step (crypto : Crypto) (gk : GuardianKey) (c : Clocked) (e : Int × NodeEvent) : Option Clocked :=
  (life crypto gk c.node e.2).map fun p => ⟨p, e.1, (e.1, p.db) :: c.history⟩

end Clocked

/-- The time that a handler reads is the time of the event. -/
def NodeEvent.At (time : Int) : NodeEvent → Prop
  | .event (.message _ now _) => now = time
  | .event (.injection _ now) => now = time
  | .event (.observation _ now _) => now = time
  | .event (.cleanup _ now _) => now = time
  | _ => True

/-- Time does not go back. -/
structure Clocked.Admissible (c : Clocked) (e : Int × NodeEvent) : Prop where
  clock : c.clock ≤ e.1
  time : e.2.At e.1
  event : e.2.Admissible c.node

/-- The VAA of the message has been in the store since then, without interruption. -/
def StoredSince (k : MessagePublication) (since : Int) : List (Int × Database) → Prop
  | [] => False
  | (time, d) :: older => HasQuorumVaa d k ∧
      (StoredSince k since older ∨ time = since ∧ ∀ e ∈ older.head?, ¬HasQuorumVaa e.2 k)

/-! ## Signing again -/

section Signing

variable (crypto : Crypto) (gk : GuardianKey) (p : Aggregator) (k : MessagePublication)

/-- Our signature of the message is sent. -/
def Broadcasts (now : Int) (fails : Bool) : Prop :=
  ∃ p' obsv, handleMessage crypto gk p k now fails = .ok p' ∧
    p'.sendC = p.sendC ++ [.signedObservation obsv]

/-- Nothing keeps the node from signing the message again. -/
structure Signs (fails : Bool) : Prop where
  signed : ∃ gs, p.gs = some gs ∧ (gk.Sign (signingMsg crypto (vaaOfMessage gs k))).isSome
  emitter : ¬(k.emitterAddress = governanceEmitter ∧ k.emitterChain = governanceChain)
  stored : fails = true ∨ k.payload ≠ [] ∧ k.timestamp.unix < 2 ^ 32

end Signing

variable {crypto : Crypto} {gk : GuardianKey} {p p' : Aggregator} {k : MessagePublication} {gs : GuardianSet}
  {sigs : List Signature} {fails : Bool} {now : Int}

/-! ## The stored VAA -/

/-- What is left of a time when it has been written. -/
def Time.written (t : Time) : Time := ⟨t.unix32, 0⟩

theorem Time.written_whole (t : Time) : t.written.Whole := by
  refine ⟨rfl, Int.natCast_nonneg _, ?_⟩
  show (t.unix32 : Int) < 2 ^ 32
  exact_mod_cast t.unix32_lt

theorem Time.written_unix32 (t : Time) : t.written.unix32 = t.unix32 :=
  Int.natCast_inj.mp t.written_whole.unix32

/-- **The time of a message is more than the settlement time after the time in its VAA** only if it cannot be
written. -/
theorem settlementTime_lt_sub_iff {t : Time} (hnano : t.nanosecond < 10 ^ 9) :
    settlementTime < t.sub t.written ↔ 2 ^ 32 ≤ t.unix := by
  have hmod : (t.unix32 : Int) = t.unix % 2 ^ 32 :=
    Int.toNat_of_nonneg (Int.emod_nonneg _ (by decide))
  unfold settlementTime Time.sub Time.written second
  dsimp only
  rw [hmod]
  omega

theorem unmarshal_message (hsigned : sigs ≠ []) (hle : sigs.length ≤ 255) (hpayload : k.payload ≠ []) :
    ∃ v, unmarshal (marshal { vaaOfMessage gs k with signatures := sigs }) = .ok v ∧
      v.timestamp = k.timestamp.written := by
  refine ⟨{ vaaOfMessage gs k with
    signatures := sigs, timestamp := k.timestamp.written, payload := k.payload.take 1000 }, ?_, rfl⟩
  refine unmarshal_eq_ok.mpr ⟨k.payload, ⟨rfl, hle, k.timestamp.written_whole, hpayload, ?_, ?_⟩, rfl⟩
  · simp only [marshal, serializeBody, Time.written_unix32]
    rfl
  · rw [marshal_length]
    exact minVAALength_le hsigned

theorem unmarshal_empty_message (hle : sigs.length ≤ 255) (hpayload : k.payload = []) :
    ∃ err, unmarshal (marshal { vaaOfMessage gs k with signatures := sigs }) = .error err := by
  cases hread : unmarshal (marshal { vaaOfMessage gs k with signatures := sigs }) with
  | error err => exact ⟨err, rfl⟩
  | ok v =>
    obtain ⟨payload, hencodes, -⟩ := unmarshal_eq_ok.mp hread
    have hsame := hencodes.payloadOf
    rw [payloadOf, bodyOf_marshal hle, serializeBody_drop] at hsame
    exact absurd (hsame.symm.trans hpayload) hencodes.nonempty

/-- **What the store says** about a message whose VAA it has. -/
theorem alreadyStored_eq_false_iff (h : HasQuorumVaa p.db k) (hnano : k.timestamp.nanosecond < 10 ^ 9)
    (gs : GuardianSet) : alreadyStored p k (vaaOfMessage gs k) fails = .ok false ↔
      fails = true ∨ k.payload ≠ [] ∧ k.timestamp.unix < 2 ^ 32 := by
  obtain ⟨gs', sigs, hquorum, hle, hdb⟩ := h
  have hsigned : sigs ≠ [] := by
    rintro rfl
    have hpos := calculateQuorum_pos gs'.Keys.length
    rw [List.length_nil] at hquorum
    omega
  unfold alreadyStored getSignedVAABytes
  cases fails with
  | true => exact iff_of_true rfl (.inl rfl)
  | false =>
    have hkey : p.db (vaaIDFromVAA (vaaOfMessage gs k)).bytes = _ := hdb
    rw [if_neg Bool.false_ne_true, hkey]
    dsimp only
    by_cases hpayload : k.payload = []
    · obtain ⟨err, herr⟩ := @unmarshal_empty_message k gs' sigs hle hpayload
      rw [herr]
      simp [hpayload]
    · obtain ⟨v, hread, htime⟩ := @unmarshal_message k gs' sigs hsigned hle hpayload
      rw [hread]
      dsimp only
      rw [htime, Go.ok.injEq, decide_eq_false_iff_not, settlementTime_lt_sub_iff hnano, not_le]
      simp [hpayload]

/-! ## What is sent -/

/-- A message that changes nothing is not sent. -/
theorem not_broadcasts (h : handleMessage crypto gk p k now fails = .ok p) :
    ¬Broadcasts crypto gk p k now fails := by
  rintro ⟨p', obsv, hok, hsent⟩
  rw [← Go.ok.inj (h.symm.trans hok)] at hsent
  have hlength := congrArg List.length hsent
  rw [List.length_append, List.length_singleton] at hlength
  omega

/-- What a node that has a guardian set sends. -/
theorem broadcasts_iff_of_set (hgs : p.gs = some gs) : Broadcasts crypto gk p k now fails ↔
    ¬(k.emitterAddress = governanceEmitter ∧ k.emitterChain = governanceChain) ∧
      alreadyStored p k (vaaOfMessage gs k) fails = .ok false ∧
      (gk.Sign (signingMsg crypto (vaaOfMessage gs k))).isSome := by
  by_cases hgovernance : k.emitterAddress = governanceEmitter ∧ k.emitterChain = governanceChain
  · refine iff_of_false (not_broadcasts ?_) (fun h => h.1 hgovernance)
    unfold handleMessage
    rw [hgs]
    exact if_pos hgovernance
  · have hhandle : handleMessage crypto gk p k now fails = (do
        if ← alreadyStored p k (vaaOfMessage gs k) fails then return p
        else
          (gk.Sign (signingMsg crypto (vaaOfMessage gs k))).elim (.panic "crypto.Sign") fun s =>
            let p := { p with publications := p.publications ++ [(vaaOfMessage gs k, k.txHash)] }
            return broadcastSignature crypto gk p (vaaOfMessage gs k) s.val k.txHash.val now) := by
      conv_lhs => unfold handleMessage
      rw [hgs]
      refine (if_neg hgovernance).trans ?_
      cases gk.Sign (signingMsg crypto (vaaOfMessage gs k)) <;> rfl
    cases hstored : alreadyStored p k (vaaOfMessage gs k) fails with
    | panic reason =>
      rw [hstored] at hhandle
      refine iff_of_false ?_ (fun h => by cases h.2.1)
      rintro ⟨p', obsv, hok, -⟩
      cases hhandle.symm.trans hok
    | error reason =>
      rw [hstored] at hhandle
      refine iff_of_false ?_ (fun h => by cases h.2.1)
      rintro ⟨p', obsv, hok, -⟩
      cases hhandle.symm.trans hok
    | ok ignored =>
      rw [hstored, Go.ok_bind] at hhandle
      cases ignored with
      | true => exact iff_of_false (not_broadcasts hhandle) (fun h => by cases h.2.1)
      | false =>
        cases hsign : gk.Sign (signingMsg crypto (vaaOfMessage gs k)) with
        | none =>
          rw [hsign] at hhandle
          refine iff_of_false ?_ (fun h => Bool.false_ne_true h.2.2)
          rintro ⟨p', obsv, hok, -⟩
          cases hhandle.symm.trans hok
        | some s =>
          rw [hsign] at hhandle
          exact iff_of_true ⟨_, _, hhandle, rfl⟩ ⟨hgovernance, rfl, rfl⟩

/-- **A message whose VAA is stored** is signed again unless something keeps the node from it. -/
theorem broadcasts_iff (h : HasQuorumVaa p.db k) (hnano : k.timestamp.nanosecond < 10 ^ 9) :
    Broadcasts crypto gk p k now fails ↔ Signs crypto gk p k fails := by
  cases hgs : p.gs with
  | none =>
    refine iff_of_false (not_broadcasts ?_) ?_
    · rw [handleMessage, hgs]
    · rintro ⟨⟨gs, hset, -⟩, -, -⟩
      cases hgs.symm.trans hset
  | some gs =>
    rw [broadcasts_iff_of_set hgs, alreadyStored_eq_false_iff h hnano]
    constructor
    · rintro ⟨hemitter, hstored, hsigned⟩
      exact ⟨⟨gs, hgs, hsigned⟩, hemitter, hstored⟩
    · rintro ⟨⟨gs', hset, hsigned⟩, hemitter, hstored⟩
      obtain rfl := Option.some.inj (hgs.symm.trans hset)
      exact ⟨hemitter, hstored, hsigned⟩

/-! ## Every run -/

variable {c : Clocked} {start since : Int}

theorem StoredSince.hasQuorumVaa {history : List (Int × Database)} (h : StoredSince k since history) :
    ∃ time d older, history = (time, d) :: older ∧ HasQuorumVaa d k := by
  cases history with
  | nil => cases h
  | cons e older => exact ⟨e.1, e.2, older, rfl, h.1⟩

/-- **In every run** the store that is kept last is that of the node. -/
theorem Clocked.last_store
    (hrun : Run (Clocked.step crypto gk) Clocked.Admissible (Clocked.start start) c) :
    ∀ e ∈ c.history.head?, e.2 = c.node.db := by
  refine hrun.invariant (I := fun c => ∀ e ∈ c.history.head?, e.2 = c.node.db) ?_ nofun
  intro c event c' _ _ hstep e he
  obtain ⟨p, -, rfl⟩ := Option.map_eq_some_iff.mp hstep
  rw [← Option.some.inj he]

/-- **Late observations.** In every run, for a message whose VAA has been in the store since some time: it is
not signed again after the settlement time, and is signed again within it, if and only if it is within it
exactly when nothing keeps the node from signing it. -/
theorem lateObservation_iff
    (hrun : Run (Clocked.step crypto gk) Clocked.Admissible (Clocked.start start) c)
    (hsince : StoredSince k since c.history) (hnano : k.timestamp.nanosecond < 10 ^ 9) (now : Int)
    (fails : Bool) :
    ((settlementTime < now - since → ¬Broadcasts crypto gk c.node k now fails) ∧
      (now - since ≤ settlementTime → Broadcasts crypto gk c.node k now fails)) ↔
      (now - since ≤ settlementTime ↔ Signs crypto gk c.node k fails) := by
  obtain ⟨time, d, older, hhistory, hquorum⟩ := hsince.hasQuorumVaa
  have hlast := Clocked.last_store hrun (time, d) (by rw [hhistory]; rfl)
  rw [show d = c.node.db from hlast] at hquorum
  rw [broadcasts_iff hquorum hnano, ← not_le]
  constructor
  · rintro ⟨hlate, hearly⟩
    exact ⟨hearly, fun hsigns => not_not.mp fun h => hlate h hsigns⟩
  · intro h
    exact ⟨fun hlate hsigns => hlate (h.mpr hsigns), h.mp⟩

/-! ## Half a minute later -/

/-- The only guardian observes the message and submits its VAA, at the time 0. -/
def clockedNode : Clocked :=
  attempts (Clocked.step Crypto.sample sampleGuardianKey) (Clocked.start 0)
    ((quorumEvents [0x01]).map fun event => (0, event))

theorem clockedNode_run :
    Run (Clocked.step Crypto.sample sampleGuardianKey) Clocked.Admissible (Clocked.start 0) clockedNode := by
  have hstart : Run (Clocked.step Crypto.sample sampleGuardianKey) Clocked.Admissible (Clocked.start 0)
      (Clocked.start 0) := Run.refl _
  have hset := hstart.attempt (0, .event (.guardianSet oneGuardian))
    ⟨le_refl _, trivial, by decide, by decide⟩
  have hmessage := hset.attempt (0, .event (.message (samplePublication [0x01]) 0 false))
    ⟨by decide +kernel, rfl, trivial⟩
  exact hmessage.attempt (0, .event (.observation (ownObservationOf [0x01]) 0 false))
    ⟨by decide +kernel, rfl, trivial⟩

/-- What the only guardian has signed. -/
def sampleQuorumVaa : VAA :=
  { vaaOfMessage oneGuardian sampleMessage with signatures := [⟨0, ⟨List.replicate 65 0x01, sampleSignature_length⟩⟩] }

theorem clockedNode_storedSince : StoredSince sampleMessage 0 clockedNode.history := by
  have hstores : clockedNode.history.map (fun e => (e.1, e.2 (vaaIDFromVAA sampleQuorumVaa).bytes)) =
      [(0, some (marshal sampleQuorumVaa)), (0, none), (0, none)] := by decide +kernel
  obtain ⟨last, older, hhistory, hlast, holder⟩ := List.map_eq_cons_iff.mp hstores
  obtain ⟨before, first, rfl, hbefore, -⟩ := List.map_eq_cons_iff.mp holder
  rw [hhistory]
  refine ⟨⟨oneGuardian, _, le_refl _, by decide, (Prod.mk.inj hlast).2⟩, .inr ⟨(Prod.mk.inj hlast).1, ?_⟩⟩
  rintro e he ⟨gs, sigs, -, -, hstored⟩
  obtain rfl := Option.some.inj he
  cases (Prod.mk.inj hbefore).2.symm.trans hstored

theorem sampleMessage_signs (fails : Bool) :
    Signs Crypto.sample sampleGuardianKey clockedNode.node sampleMessage fails := by
  refine ⟨⟨oneGuardian, ?_, rfl⟩, by decide, .inr ⟨by decide, by decide⟩⟩
  rfl

/-- Ten seconds later the message is treated as it should be. -/
theorem sampleMessage_early : Broadcasts Crypto.sample sampleGuardianKey clockedNode.node sampleMessage
    (10 * second) false :=
  ((lateObservation_iff clockedNode_run clockedNode_storedSince (by decide) (10 * second) false).mpr
    (iff_of_true (by decide) (sampleMessage_signs false))).2 (by decide)

/-- **A late observation is signed again.** The VAA of the message has been stored for 31 seconds, and the node
broadcasts its signature. -/
theorem sampleMessage_late :
    Run (Clocked.step Crypto.sample sampleGuardianKey) Clocked.Admissible (Clocked.start 0) clockedNode ∧
    StoredSince sampleMessage 0 clockedNode.history ∧ settlementTime < 31 * second - 0 ∧
    Broadcasts Crypto.sample sampleGuardianKey clockedNode.node sampleMessage (31 * second) false :=
  ⟨clockedNode_run, clockedNode_storedSince, by decide,
    (broadcasts_iff (k := sampleMessage) ⟨oneGuardian, sampleQuorumVaa.signatures, le_refl _, by decide,
      by decide +kernel⟩ (by decide)).mpr (sampleMessage_signs false)⟩

end Wormhole.Guardian

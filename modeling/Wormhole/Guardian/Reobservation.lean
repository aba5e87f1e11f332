/-
# Wormhole.Guardian.Reobservation — messages the store already has a VAA for.

`handleMessage` reads the stored VAA of a message it meets again, and panics when it cannot be decoded.
What `StoreSignedVAA` writes comes from two places: a VAA received from the network has been decoded
before, and is decoded again; the node's own VAA has the payload and the time stamp that were observed or
injected, and is decoded only when these are ones that the codec reads back.  When all of them are, every
stored VAA is decoded to the VAA that was stored, in every state the node reaches (`stored_decodes`).

A node that has died starts again on the same store.
-/
import Mathlib
import Wormhole.Lib.Go
import Wormhole.Lib.Mapping
import Wormhole.Lib.Transition
import Wormhole.Lib.Entries
import Wormhole.Guardian.Codec
import Wormhole.Guardian.Aggregation
import Wormhole.Guardian.SubmittedVaa
import Wormhole.Guardian.Cleanup

namespace Wormhole.Guardian

open Wormhole.Lib Wormhole.Lib.Bytes Wormhole.Lib.Transition

/-! ## The lives of a node -/

/-- An event, or the end of the process and a new start. -/
inductive NodeEvent where
  | event (input : Input)
  | restart

def life (crypto : Crypto) (gk : GuardianKey) (p : Aggregator) : NodeEvent → Option Aggregator
  | .event input => step crypto gk p input
  | .restart => some (newProcessor p.db)

/-! ## The condition -/

/-- The codec reads back what the node writes of it. -/
structure Payload.Fits (payload : List UInt8) : Prop where
  nonempty : payload ≠ []
  buffer : payload.length ≤ 1000

/-- Our own VAA, without its signatures. -/
structure VAA.Fits (v : VAA) : Prop where
  version : v.version = SupportedVAAVersion
  timestamp : v.timestamp.Whole
  payload : Payload.Fits v.payload

/-- What is observed and injected has a payload and a time stamp that the codec reads back. -/
def Input.Fits : Input → Prop
  | .message k _ _ => k.timestamp.Whole ∧ Payload.Fits k.payload
  | .injection v _ => v.Fits
  | _ => True

def NodeEvent.Admissible (p : Aggregator) : NodeEvent → Prop
  | .event input => input.Admissible p
  | .restart => True

def NodeEvent.Fits : NodeEvent → Prop
  | .event input => input.Fits
  | .restart => True

/-! ## The invariant -/

/-- Everything in the store is a VAA under its key, and is decoded to that VAA. -/
def StoreDecodes (d : Database) : Prop :=
  ∀ key b, d key = some b → ∃ v, key = (vaaIDFromVAA v).bytes ∧ b = marshal v ∧ unmarshal b = .ok v

/-- An entry's VAA can be decoded once it is signed, by at most 255 guardians. -/
structure EntryFits (s : VaaState) : Prop where
  own : ∀ v, s.ourVAA = some v → v.Fits
  gs : ∀ gs, s.gs = some gs → gs.Keys.length ≤ 255

structure Decodes (p : Aggregator) : Prop where
  gs : ∀ gs, p.gs = some gs → gs.Keys.length ≤ 255
  entries : Entries (fun _ s => EntryFits s) p.vaaSignatures
  db : StoreDecodes p.db

variable {crypto : Crypto} {gk : GuardianKey} {p p' : Aggregator}

theorem StoreDecodes.update {d : Database} {v : VAA} (h : StoreDecodes d)
    (hv : unmarshal (marshal v) = .ok v) :
    StoreDecodes (Function.update d (vaaIDFromVAA v).bytes (some (marshal v))) := by
  intro key b hb
  rcases Mapping.update_eq_some hb with ⟨rfl, rfl⟩ | hold
  · exact ⟨v, rfl, rfl, hv⟩
  · exact h key b hold

/-- One signature makes a VAA long enough. -/
theorem minVAALength_le {v : VAA} (h : v.signatures ≠ []) :
    minVAALength ≤ 57 + 66 * v.signatures.length + v.payload.length := by
  have := List.length_pos_iff.mpr h
  unfold minVAALength
  omega

/-- Our own VAA, signed, is decoded. -/
theorem VAA.Fits.unmarshal {v : VAA} {sigs : List Signature} (h : v.Fits) (hsigned : sigs ≠ [])
    (hle : sigs.length ≤ 255) :
    Guardian.unmarshal (marshal { v with signatures := sigs }) = .ok { v with signatures := sigs } := by
  refine (unmarshal_marshal_iff (v := { v with signatures := sigs }) hle h.timestamp).mpr ?_
  exact ⟨h.version, h.payload.nonempty, h.payload.buffer, minVAALength_le hsigned⟩

/-- A VAA that was decoded once is decoded again. -/
theorem unmarshal_again {data : List UInt8} {v : VAA} (h : unmarshal data = .ok v)
    (hsigned : v.signatures ≠ []) : unmarshal (marshal v) = .ok v := by
  obtain ⟨payload, hencodes, hpayload⟩ := unmarshal_eq_ok.mp h
  refine (unmarshal_marshal_iff hencodes.signatures hencodes.timestamp).mpr ?_
  refine ⟨hencodes.version, ?_, ?_, minVAALength_le hsigned⟩
  · rw [hpayload]
    intro hnil
    rcases List.take_eq_nil_iff.mp hnil with hzero | hnil
    · cases hzero
    · exact hencodes.nonempty hnil
  · rw [hpayload, List.length_take]
    omega

/-- There is at most one signature for each key. -/
theorem aggregate_length_le {signatures : EthAddress → Option (List UInt8)} {i : Nat}
    {keys : List EthAddress} {sigs : List Signature} (h : aggregate signatures i keys = .ok sigs) :
    sigs.length ≤ keys.length := by
  induction keys generalizing i sigs with
  | nil =>
    rw [← Go.ok.inj h]
    exact le_rfl
  | cons a keys ih =>
    unfold aggregate at h
    split at h
    · exact (ih h).trans (Nat.le_succ _)
    · split at h
      · obtain ⟨rest, hrest, heq⟩ := Go.bind_eq_ok.mp h
        rw [← Go.ok.inj heq]
        exact Nat.succ_le_succ (ih hrest)
      · cases h

/-- What an inbound VAA does to the store. -/
theorem handleInbound_db {q q' : Processor} {m : List UInt8} {faults : DbFaults}
    (h : handleInboundSignedVAAWithQuorum crypto q m faults = .ok q') :
    q'.db = q.db ∨ ∃ v, unmarshal m = .ok v ∧ v.signatures ≠ [] ∧
      q'.db = Function.update q.db (vaaIDFromVAA v).bytes (some (marshal v)) := by
  unfold handleInboundSignedVAAWithQuorum at h
  split at h
  · exact .inl (by rw [← Except.ok.inj h])
  · rename_i v hv
    split at h
    · exact .inl (by rw [← Except.ok.inj h])
    · split at h
      · exact .inl (by rw [← Except.ok.inj h])
      · split at h
        · exact .inl (by rw [← Except.ok.inj h])
        · split at h
          · exact .inl (by rw [← Except.ok.inj h])
          · exact .inl (by rw [← Except.ok.inj h])
          · split at h
            · cases h
            · exact .inl (by rw [← Except.ok.inj h])
            · rename_i db hstore
              obtain ⟨hsigned, hdb⟩ := storeSignedVAA_eq_done hstore
              refine .inr ⟨v, hv, hsigned, ?_⟩
              rw [← Except.ok.inj h]
              exact hdb

/-! ## Events -/

namespace Decodes

theorem start {d : Database} (h : StoreDecodes d) : Decodes (newProcessor d) := ⟨nofun, Entries.empty, h⟩

theorem entryOf (h : Decodes p) (hash : List UInt8) (now : Int) : EntryFits (p.entryOf hash now) := by
  unfold Aggregator.entryOf
  cases hs : p.vaaSignatures.lookup hash with
  | none => exact ⟨nofun, nofun⟩
  | some s => exact h.entries hash s hs

/-- Our own observation. -/
theorem broadcastSignature {v : VAA} {signature txhash : List UInt8} {now : Int} (h : Decodes p)
    (hv : v.Fits) : Decodes (Guardian.broadcastSignature crypto gk p v signature txhash now) := by
  refine ⟨h.gs, h.entries.insert ⟨?_, h.gs⟩, h.db⟩
  intro v' hv'
  obtain rfl : v = v' := Option.some.inj hv'
  exact hv

/-- The guardian set of an observation has at most 255 keys. -/
theorem guardianSetFor {hash : List UInt8} {gs : GuardianSet} (h : Decodes p)
    (hgs : p.guardianSetFor hash = some gs) : gs.Keys.length ≤ 255 := by
  unfold Aggregator.guardianSetFor at hgs
  split at hgs
  · rename_i s hs
    rcases Option.or_eq_some_iff.mp hgs with hown | ⟨-, hcurrent⟩
    · exact (h.entries hash s hs).gs gs hown
    · exact h.gs gs hcurrent
  · exact h.gs gs hgs

theorem handleMessage {k : MessagePublication} {now : Int} {fails : Bool} (h : Decodes p)
    (hk : k.timestamp.Whole ∧ Payload.Fits k.payload)
    (hhandle : Guardian.handleMessage crypto gk p k now fails = .ok p') : Decodes p' := by
  rcases handleMessage_cases hhandle with rfl | ⟨gs, s, -, rfl⟩
  · exact h
  · have hpublished : Decodes { p with publications := p.publications ++ [(vaaOfMessage gs k, k.txHash)] } :=
      ⟨h.gs, h.entries, h.db⟩
    exact hpublished.broadcastSignature ⟨rfl, hk.1, hk.2⟩

theorem handleObservation {m : SignedObservation} {now : Int} {fails : Bool} (h : Decodes p)
    (hhandle : Guardian.handleObservation crypto p m now fails = .ok p') : Decodes p' := by
  rcases handleObservation_cases hhandle with rfl | ⟨gs, addr, -, hgs, rfl | hsubmits⟩
  · exact h
  · have hentry := h.entryOf m.Hash now
    exact ⟨h.gs, h.entries.insert ⟨hentry.own, hentry.gs⟩, h.db⟩
  · obtain ⟨v, sigs, hv, -, haggregate, hquorum, hsubmits⟩ := hsubmits
    have hentry := h.entryOf m.Hash now
    refine ⟨?_, ?_, ?_⟩
    · rw [hsubmits.gs]
      exact h.gs
    · rw [hsubmits.vaaSignatures]
      exact h.entries.insert ⟨hentry.own, hentry.gs⟩
    · rcases hsubmits.db with hsame | hstored
      · rw [hsame]
        exact h.db
      · rw [hstored]
        have hsigned : sigs ≠ [] := by
          have := calculateQuorum_pos gs.Keys.length
          rintro rfl
          simp only [List.length_nil] at hquorum
          omega
        have hle : sigs.length ≤ 255 := (aggregate_length_le haggregate).trans (h.guardianSetFor hgs)
        exact h.db.update ((hentry.own v hv).unmarshal hsigned hle)

theorem handleInbound {m : List UInt8} {faults : DbFaults} {q : Processor} (h : Decodes p)
    (hhandle : handleInboundSignedVAAWithQuorum crypto p.toProcessor m faults = .ok q) :
    Decodes { p with toProcessor := q } := by
  refine ⟨?_, h.entries, ?_⟩
  · show ∀ gs, q.gs = some gs → gs.Keys.length ≤ 255
    rw [handleInbound_gs hhandle]
    exact h.gs
  · show StoreDecodes q.db
    rcases handleInbound_db hhandle with hsame | ⟨v, hv, hsigned, hstored⟩
    · rw [hsame]
      exact h.db
    · rw [hstored]
      exact h.db.update (unmarshal_again hv hsigned)

theorem cleans {hash : List UInt8} {s : VaaState} (h : Entries (fun _ s => EntryFits s) p.vaaSignatures)
    (hs : p.vaaSignatures.lookup hash = some s) (hclean : Cleans p p' hash s) :
    Entries (fun _ s => EntryFits s) p'.vaaSignatures := by
  rcases hclean.vaaSignatures with hsame | herased | ⟨s', hobservation, hreplaced⟩
  · rw [hsame]
    exact h
  · rw [herased]
    exact h.erase hash
  · rw [hreplaced]
    have hentry := h hash s hs
    refine h.insert ⟨?_, ?_⟩
    · rw [hobservation.ourVAA]
      exact hentry.own
    · rw [hobservation.gs]
      exact hentry.gs

theorem handleCleanup {order : List (List UInt8)} {now : Int} {fails : List UInt8 → Bool} (h : Decodes p)
    (horder : order.Perm p.vaaSignatures.keys)
    (hhandle : Guardian.handleCleanup p order now fails = .ok p') : Decodes p' := by
  have hticked := handleCleanup_eq_ok (nodup_order horder) hhandle
  refine ⟨?_, ?_, ?_⟩
  · rw [hticked.gs]
    exact h.gs
  · exact handleCleanup_induction (I := fun q => Entries (fun _ s => EntryFits s) q.vaaSignatures)
      h.entries (fun _ _ _ _ hq hs hclean => cleans hq hs hclean) hhandle
  · rw [hticked.db]
    exact h.db

/-- **One event** keeps the store decodable. -/
theorem handle {input : Input} (h : Decodes p) (hadmissible : input.Admissible p) (hfits : input.Fits)
    (hhandle : Guardian.handle crypto gk p input = .ok p') : Decodes p' := by
  cases input with
  | guardianSet gs =>
    rw [← Go.ok.inj hhandle]
    refine ⟨?_, h.entries, h.db⟩
    intro gs' hgs'
    rw [← Option.some.inj hgs']
    exact hadmissible.2
  | message k now fails => exact h.handleMessage hfits hhandle
  | injection v now =>
    simp only [Guardian.handle, handleInjection] at hhandle
    split at hhandle
    · cases hhandle
    · rw [← Go.ok.inj hhandle]
      exact h.broadcastSignature hfits
  | observation m now fails => exact h.handleObservation hhandle
  | inbound m faults =>
    simp only [Guardian.handle] at hhandle
    split at hhandle
    · cases hhandle
    · rename_i q hq
      rw [← Go.ok.inj hhandle]
      exact h.handleInbound hq
  | cleanup order now fails => exact h.handleCleanup hadmissible hhandle

theorem life {event : NodeEvent} (h : Decodes p) (hadmissible : event.Admissible p) (hfits : event.Fits)
    (hlife : Guardian.life crypto gk p event = some p') : Decodes p' := by
  cases event with
  | event input => exact h.handle hadmissible hfits (step_eq_some.mp hlife)
  | restart =>
    rw [← Option.some.inj hlife]
    exact start h.db

end Decodes

/-! ## Every run -/

/-- What the panic branch says. -/
def undecodable : String := "failed to unmarshal VAA from db"

theorem StoreDecodes.alreadyStored (h : StoreDecodes p.db) (k : MessagePublication) (v : VAA)
    (fails : Bool) : ∃ ignored, Guardian.alreadyStored p k v fails = .ok ignored := by
  unfold Guardian.alreadyStored
  cases hlookup : getSignedVAABytes p.db (vaaIDFromVAA v) fails with
  | found b =>
    have hb : p.db (vaaIDFromVAA v).bytes = some b := by
      unfold getSignedVAABytes at hlookup
      split at hlookup
      · cases hlookup
      · split at hlookup
        · rename_i b' hb'
          rw [hb', Lookup.found.inj hlookup]
        · cases hlookup
    obtain ⟨existing, -, -, hread⟩ := h _ b hb
    dsimp only
    rw [hread]
    exact ⟨_, rfl⟩
  | ErrVAANotFound => exact ⟨false, rfl⟩
  | failed => exact ⟨false, rfl⟩

/-- **What is stored is decoded.** In every run of a node, on an empty store, of any events in any order
and with any restarts, in which what is observed and injected has a payload of 1 to 1000 bytes and a time
stamp that the codec writes: everything in the store is a VAA that is decoded to itself, under its key;
and no local message, whatever it is, makes the handler panic for a stored VAA. -/
theorem stored_decodes
    (hrun : Run (life crypto gk) (fun p event => event.Admissible p ∧ event.Fits)
      (newProcessor fun _ => none) p) :
    StoreDecodes p.db ∧ ∀ k now fails, handleMessage crypto gk p k now fails ≠ .panic undecodable := by
  have hstart : Decodes (newProcessor fun _ => none) := .start nofun
  have hdecodes : Decodes p :=
    hrun.invariant (fun _ _ _ h hok hlife => h.life hok.1 hok.2 hlife) hstart
  refine ⟨hdecodes.db, ?_⟩
  intro k now fails hpanic
  unfold handleMessage at hpanic
  split at hpanic
  · cases hpanic
  · rename_i gs hgs
    dsimp only at hpanic
    split at hpanic
    · cases hpanic
    · obtain ⟨ignored, hstored⟩ := hdecodes.db.alreadyStored k (vaaOfMessage gs k) fails
      rw [hstored, Go.ok_bind] at hpanic
      split at hpanic
      · cases hpanic
      · split at hpanic
        · simp [undecodable] at hpanic
        · cases hpanic

/-! ## Inputs -/

/-- The message `sampleMessage` with another payload. -/
def samplePublication (payload : List UInt8) : MessagePublication := { sampleMessage with payload }

/-- The node's own observation of it. -/
def ownObservationOf (payload : List UInt8) : SignedObservation where
  Addr := List.replicate 20 0x01
  Hash := (signingMsg Crypto.sample (vaaOfMessage oneGuardian (samplePublication payload))).val
  Signature := List.replicate 65 0x01
  TxHash := []
  MessageId := ""

/-- The only guardian observes the message and submits its VAA. -/
def quorumEvents (payload : List UInt8) : List NodeEvent :=
  [.event (.guardianSet oneGuardian), .event (.message (samplePublication payload) 0 false),
    .event (.observation (ownObservationOf payload) 0 false)]

def quorumNode (payload : List UInt8) : Aggregator :=
  attempts (life Crypto.sample sampleGuardianKey) (newProcessor fun _ => none) (quorumEvents payload)

/-- The panic of a call. -/
def panicReason : Go Aggregator → Option String
  | .panic reason => some reason
  | _ => none

theorem quorumNode_run (payload : List UInt8) {P : NodeEvent → Prop}
    (h : ∀ event ∈ quorumEvents payload, P event) :
    Run (life Crypto.sample sampleGuardianKey) (fun _ event => P event) (newProcessor fun _ => none)
      (quorumNode payload) := run_attempts _ _ h

/-- Messages with a payload can be observed again. -/
theorem quorumNode_decodes : (quorumNode [0x01]).db (vaaIDFromVAA (sampleInbound [])).bytes ≠ none ∧
    StoreDecodes (quorumNode [0x01]).db ∧
    handleMessage Crypto.sample sampleGuardianKey (quorumNode [0x01]) sampleMessage 1 false
      ≠ .panic undecodable := by
  have hrun := quorumNode_run [0x01] (P := fun event => event.Fits ∧
      ∀ p, event.Admissible p) (by
    simp only [quorumEvents, List.forall_mem_cons, List.not_mem_nil, false_imp_iff, implies_true, and_true]
    exact ⟨⟨trivial, fun _ => ⟨by decide, by decide⟩⟩,
      ⟨⟨by decide, by decide, by decide⟩, fun _ => trivial⟩, trivial, fun _ => trivial⟩)
  obtain ⟨hstore, hpanic⟩ := stored_decodes (hrun.mono fun p event h => ⟨h.2 p, h.1⟩)
  exact ⟨by decide +kernel, hstore, hpanic sampleMessage 1 false⟩

/-- **The second sight of an empty message is the end.** The only guardian observes a message without
a payload and stores its VAA; when the message is observed again, the handler panics. -/
theorem emptyMessage_panics :
    Run (life Crypto.sample sampleGuardianKey) (fun p event => event.Admissible p)
      (newProcessor fun _ => none) (quorumNode []) ∧
    handleMessage Crypto.sample sampleGuardianKey (quorumNode []) (samplePublication []) 1 false
      = .panic undecodable := by
  refine ⟨?_, ?_⟩
  · have hrun := quorumNode_run [] (P := fun event => ∀ p, event.Admissible p) (by
      simp only [quorumEvents, List.forall_mem_cons, List.not_mem_nil, false_imp_iff, implies_true,
        and_true]
      exact ⟨fun _ => ⟨by decide, by decide⟩, fun _ => trivial, fun _ => trivial⟩)
    exact hrun.mono fun p event h => h p
  · have hreason : panicReason (handleMessage Crypto.sample sampleGuardianKey (quorumNode [])
        (samplePublication []) 1 false) = some undecodable := by decide +kernel
    cases hhandle : handleMessage Crypto.sample sampleGuardianKey (quorumNode []) (samplePublication []) 1
        false with
    | ok p => simp [hhandle, panicReason] at hreason
    | error reason => simp [hhandle, panicReason] at hreason
    | panic reason =>
      rw [hhandle] at hreason
      rw [Option.some.inj hreason]

end Wormhole.Guardian

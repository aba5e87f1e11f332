/-
# Wormhole.Guardian.NilGuardianSet — the processor before its first guardian set.

`p.gs` is nil until the first guardian set arrives.  `handleMessage`, `handleObservation` and
`handleInboundSignedVAAWithQuorum` drop what they receive before that; `handleInjection` does not, and its
entry keeps the nil set.  `handleCleanup` takes the set of the entry or else the current one, so an entry
that outlives the settlement time before the first set arrives is settled with a nil set.
`nilGuardianSet_iff`: the node dereferences a nil guardian set at exactly these visits.
-/
import Mathlib
import Wormhole.Lib.Go
import Wormhole.Lib.Transition
import Wormhole.Guardian.Aggregation
import Wormhole.Guardian.SubmittedVaa
import Wormhole.Guardian.Cleanup

namespace Wormhole.Guardian

open Wormhole.Lib Wormhole.Lib.Bytes Wormhole.Lib.Transition

/-! ## What is asked of an event -/

/-- A cleanup visits every entry once. -/
def Input.VisitsAll (p : Aggregator) : Input → Prop
  | .cleanup order _ _ => order.Perm p.vaaSignatures.keys
  | _ => True

/-- The node handles the event by dereferencing a nil guardian set. -/
def DereferencesNil (crypto : Crypto) (gk : GuardianKey) (p : Aggregator) (input : Input) : Prop :=
  handle crypto gk p input = .panic nilDereference

/-- The entry is older than the settlement time and its VAA is not found in the store. -/
def Unsettled (p : Aggregator) (s : VaaState) (now : Int) (fails : Bool) : Prop :=
  settlementTime < now - s.firstObserved ∧ found p s fails = false

/-- A cleanup before the first guardian set that has such an entry to settle. -/
def SettlesEarly (p : Aggregator) : Input → Prop
  | .cleanup order now fails =>
    p.gs = none ∧ ∃ hash ∈ order, ∃ s, p.vaaSignatures.lookup hash = some s ∧ Unsettled p s now (fails hash)
  | _ => False

/-! ## Events other than a cleanup -/

variable {crypto : Crypto} {gk : GuardianKey} {p p' : Aggregator}

theorem handleInjection_ne_nil {v : VAA} {now : Int} :
    handleInjection crypto gk p v now ≠ .panic nilDereference := by
  unfold handleInjection
  split
  · intro h
    exact absurd (Go.panic.inj h) (by decide)
  · nofun

theorem alreadyStored_ne_nil {k : MessagePublication} {v : VAA} {fails : Bool} :
    alreadyStored p k v fails ≠ .panic nilDereference := by
  unfold alreadyStored
  split
  · split
    · intro h
      exact absurd (Go.panic.inj h) (by decide)
    · nofun
  · nofun
  · nofun

theorem handleMessage_ne_nil {k : MessagePublication} {now : Int} {fails : Bool} :
    handleMessage crypto gk p k now fails ≠ .panic nilDereference := by
  unfold handleMessage
  split
  · nofun
  · dsimp only
    split
    · nofun
    · intro h
      rcases Go.bind_eq_panic.mp h with h | ⟨stored, -, h⟩
      · exact alreadyStored_ne_nil h
      · split at h
        · cases h
        · split at h
          · exact absurd (Go.panic.inj h) (by decide)
          · cases h

theorem aggregate_ne_nil {signatures : EthAddress → Option (List UInt8)} {i : Nat}
    {keys : List EthAddress} : aggregate signatures i keys ≠ .panic nilDereference := by
  induction keys generalizing i with
  | nil => nofun
  | cons a keys ih =>
    unfold aggregate
    split
    · exact ih
    · split
      · intro h
        rcases Go.bind_eq_panic.mp h with h | ⟨sigs, -, h⟩
        · exact ih h
        · cases h
      · intro h
        exact absurd (Go.panic.inj h) (by decide)

theorem submitSigned_ne_nil {hash : List UInt8} {s : VaaState} {signed : VAA} {fails : Bool} :
    submitSigned p hash s signed fails ≠ .panic nilDereference := by
  unfold submitSigned
  dsimp only
  split
  · rename_i msg hstore
    unfold storeSignedVAA at hstore
    split at hstore
    · intro h
      rw [← Stored.panic.inj hstore] at h
      exact absurd (Go.panic.inj h) (by decide)
    · split at hstore <;> cases hstore
  · nofun
  · nofun

theorem handleObservation_ne_nil {m : SignedObservation} {now : Int} {fails : Bool} :
    handleObservation crypto p m now fails ≠ .panic nilDereference := by
  unfold handleObservation
  split
  · nofun
  · split
    · nofun
    · split
      · nofun
      · split
        · nofun
        · intro h
          rcases Go.bind_eq_panic.mp h with h | ⟨sigs, -, h⟩
          · exact aggregate_ne_nil h
          · split at h
            · cases h
            · split at h
              · exact submitSigned_ne_nil h
              · cases h

theorem inbound_ne_nil {m : List UInt8} {faults : DbFaults} :
    handle crypto gk p (.inbound m faults) ≠ .panic nilDereference := by
  obtain ⟨q, hq⟩ := handleInbound_no_panic crypto p.toProcessor m faults
  simp only [handle, hq]
  intro h
  cases h

/-! ## The invariant -/

/-- Before the first guardian set there are only entries of injected VAAs, which carry no set. -/
def NoSetYet (p : Aggregator) : Prop :=
  p.gs = none → ∀ hash s, p.vaaSignatures.lookup hash = some s → s.Pending ∧ s.gs = none

namespace NoSetYet

theorem of_newProcessor (db : Database) : NoSetYet (newProcessor db) := by
  intro _ hash s hs
  rw [newProcessor, AList.lookup_empty] at hs
  cases hs

/-- With a guardian set nothing is left to keep. -/
theorem of_some {gs : GuardianSet} (h : p.gs = some gs) : NoSetYet p := by
  intro hnone
  rw [h] at hnone
  cases hnone

theorem of_congr (h : NoSetYet p) (hgs : p'.gs = p.gs) (hentries : p'.vaaSignatures = p.vaaSignatures) :
    NoSetYet p' := by
  intro hnone
  rw [hentries]
  rw [hgs] at hnone
  exact h hnone

/-- An injection files a pending entry. -/
theorem broadcastSignature {v : VAA} {signature txhash : List UInt8} {now : Int} (h : NoSetYet p) :
    NoSetYet (broadcastSignature crypto gk p v signature txhash now) := by
  intro hnone hash s hs
  have hgs : p.gs = none := hnone
  change (p.vaaSignatures.insert _ _).lookup hash = some s at hs
  by_cases hhash : hash = (signingMsg crypto v).val
  · subst hhash
    rw [AList.lookup_insert] at hs
    rw [← Option.some.inj hs]
    refine ⟨⟨rfl, ?_⟩, hgs⟩
    show (p.entryOf _ now).submitted = false
    unfold Aggregator.entryOf
    cases hold : p.vaaSignatures.lookup (signingMsg crypto v).val with
    | none => rfl
    | some old => exact (h hgs _ old hold).1.2
  · rw [AList.lookup_insert_ne hhash] at hs
    exact h hgs hash s hs

/-- A cleanup changes neither the observations of the entries nor the guardian set. -/
theorem cleans {hash : List UInt8} {s : VaaState} (h : NoSetYet p)
    (hs : p.vaaSignatures.lookup hash = some s) (hclean : Cleans p p' hash s) : NoSetYet p' := by
  intro hnone hash' s' hs'
  rw [hclean.gs] at hnone
  rcases hclean.vaaSignatures with hsame | herase | ⟨s₁, hobservation, hinsert⟩
  · rw [hsame] at hs'
    exact h hnone hash' s' hs'
  · rw [herase] at hs'
    by_cases hhash : hash' = hash
    · subst hhash
      rw [AList.lookup_erase] at hs'
      cases hs'
    · rw [AList.lookup_erase_ne hhash] at hs'
      exact h hnone hash' s' hs'
  · rw [hinsert] at hs'
    by_cases hhash : hash' = hash
    · subst hhash
      rw [AList.lookup_insert] at hs'
      rw [← Option.some.inj hs']
      obtain ⟨⟨hown, hsubmitted⟩, hgs⟩ := h hnone hash' s hs
      refine ⟨⟨?_, hobservation.submitted.trans hsubmitted⟩, hobservation.gs.trans hgs⟩
      rw [hobservation.ourVAA]
      exact hown
    · rw [AList.lookup_insert_ne hhash] at hs'
      exact h hnone hash' s' hs'

/-- Without a guardian set an observation is dropped. -/
theorem observation {m : SignedObservation} {now : Int} {fails : Bool} (h : NoSetYet p)
    (hhandle : handleObservation crypto p m now fails = .ok p') : NoSetYet p' := by
  rcases handleObservation_cases hhandle with rfl | ⟨gs, addr, -, hgs, hfiled⟩
  · exact h
  · -- the set that is used is the current one, as the entry has none
    have hsome : p.gs ≠ none := by
      intro hnone
      unfold Aggregator.guardianSetFor at hgs
      split at hgs
      · rename_i s hs
        rw [(h hnone _ s hs).2, hnone] at hgs
        cases hgs
      · rw [hnone] at hgs
        cases hgs
    have hkept : p'.gs = p.gs := by
      rcases hfiled with rfl | ⟨v, sigs, -, -, -, -, hsubmits⟩
      · rfl
      · exact hsubmits.gs
    intro hnone
    rw [hkept] at hnone
    exact absurd hnone hsome

/-- **Step.** Every event keeps the invariant. -/
theorem of_handle {input : Input} (h : NoSetYet p) (hhandle : handle crypto gk p input = .ok p') :
    NoSetYet p' := by
  cases input with
  | guardianSet gs =>
    rw [← Go.ok.inj hhandle]
    exact of_some rfl
  | message k now fails =>
    rcases handleMessage_cases hhandle with rfl | ⟨gs, s, hgs, rfl⟩
    · exact h
    · exact of_some hgs
  | injection v now =>
    simp only [handle, handleInjection] at hhandle
    split at hhandle
    · cases hhandle
    · rw [← Go.ok.inj hhandle]
      exact h.broadcastSignature
  | observation m now fails => exact h.observation hhandle
  | inbound m faults =>
    simp only [handle] at hhandle
    split at hhandle
    · cases hhandle
    · rename_i q hq
      rw [← Go.ok.inj hhandle]
      exact h.of_congr (handleInbound_gs hq) rfl
  | cleanup order now fails =>
    exact handleCleanup_induction h (fun _ _ _ _ hq hs hclean => hq.cleans hs hclean) hhandle

end NoSetYet

/-! ## A cleanup without a guardian set -/

/-- The visit of a pending entry: it is kept or deleted, or settled with a nil set. -/
theorem visit_pending (hash : List UInt8) {s : VaaState} (now : Int) (fails : Bool) (hnone : p.gs = none)
    (hpending : s.Pending) (hgs : s.gs = none) :
    (Unsettled p s now fails ∧ cleanupEntry p hash s now fails = .panic nilDereference) ∨
    (¬Unsettled p s now fails ∧ (cleanupEntry p hash s now fails = .ok p ∨
      cleanupEntry p hash s now fails = .ok (p.expire hash))) := by
  rw [cleanupEntry_eq]
  unfold verdict
  by_cases hlate : settlementTime < now - s.firstObserved
  · rw [if_pos ⟨hpending, hlate⟩]
    cases hfound : found p s fails with
    | true =>
      refine .inr ⟨?_, .inr rfl⟩
      rintro ⟨-, hnot⟩
      rw [hfound] at hnot
      cases hnot
    | false =>
      refine .inl ⟨⟨hlate, hfound⟩, ?_⟩
      simp [execute, settle, hgs, hnone]
  · refine .inr ⟨fun h => hlate h.1, ?_⟩
    have hfive : ¬300 * second ≤ now - s.firstObserved := fun h => hlate (settlementTime_lt h)
    rw [if_neg fun h => hlate h.2, if_neg fun h => hlate h.2, if_neg (by simp [hpending.2])]
    by_cases hlimit : s.submitted = false ∧ s.AtLimit
    · rw [if_pos hlimit]
      exact .inr rfl
    · rw [if_neg hlimit, if_neg fun h => hfive h.2]
      exact .inl rfl

/-- **A cleanup before the first guardian set** panics at the first entry it settles; by induction on the
order of the visit. -/
theorem handleCleanup_eq_nil {order : List (List UInt8)} {now : Int} {fails : List UInt8 → Bool}
    (h : NoSetYet p) (hnone : p.gs = none) (hnodup : order.Nodup) :
    handleCleanup p order now fails = .panic nilDereference ↔
      ∃ hash ∈ order, ∃ s, p.vaaSignatures.lookup hash = some s ∧ Unsettled p s now (fails hash) := by
  induction order generalizing p with
  | nil => simp [handleCleanup]
  | cons first order ih =>
    obtain ⟨hfirst, hnodup⟩ := List.nodup_cons.mp hnodup
    unfold handleCleanup
    rw [List.foldlM_cons, List.exists_mem_cons_iff]
    -- after a visit that does not settle, the rest of the entries is as before
    have hrest : ∀ q : Aggregator, NoSetYet q → q.gs = none → q.db = p.db →
        (∀ hash, hash ≠ first → q.vaaSignatures.lookup hash = p.vaaSignatures.lookup hash) →
        (handleCleanup q order now fails = .panic nilDereference ↔ ∃ hash ∈ order, ∃ s,
          p.vaaSignatures.lookup hash = some s ∧ Unsettled p s now (fails hash)) := by
      intro q hq hqnone hdb hsame
      rw [ih hq hqnone hnodup]
      apply exists_congr
      intro hash
      apply and_congr_right
      intro hmem
      have hne : hash ≠ first := by
        rintro rfl
        exact hfirst hmem
      simp only [hsame hash hne, Unsettled, found_congr hdb]
    cases hlookup : p.vaaSignatures.lookup first with
    | none =>
      rw [or_iff_right (by simp)]
      exact hrest p h hnone rfl fun _ _ => rfl
    | some s =>
      obtain ⟨hpending, hgs⟩ := h hnone first s hlookup
      simp only [Option.some.injEq, exists_eq_left']
      rcases visit_pending first now (fails first) hnone hpending hgs with
        ⟨hunsettled, hpanic⟩ | ⟨hsettled, hkept | hexpired⟩
      · rw [hpanic]
        exact iff_of_true rfl (.inl hunsettled)
      · rw [hkept, or_iff_right hsettled]
        exact hrest p h hnone rfl fun _ _ => rfl
      · rw [hexpired, or_iff_right hsettled]
        exact hrest _ (h.cleans hlookup (Cleans.expire p)) hnone rfl fun _ hne => AList.lookup_erase_ne hne

/-- **One event.** -/
theorem dereferencesNil_iff {input : Input} (h : NoSetYet p) (hvisits : input.VisitsAll p) :
    DereferencesNil crypto gk p input ↔ SettlesEarly p input := by
  cases input with
  | guardianSet gs => exact iff_of_false nofun id
  | message k now fails => exact iff_of_false handleMessage_ne_nil id
  | injection v now => exact iff_of_false handleInjection_ne_nil id
  | observation m now fails => exact iff_of_false handleObservation_ne_nil id
  | inbound m faults => exact iff_of_false inbound_ne_nil id
  | cleanup order now fails =>
    show handleCleanup p order now fails = .panic nilDereference ↔ p.gs = none ∧ _
    cases hgs : p.gs with
    | none =>
      rw [handleCleanup_eq_nil h hgs (nodup_order hvisits)]
      simp
    | some gs =>
      obtain ⟨q, hq⟩ := handleCleanup_isOk (p := p) (by rw [hgs]; rfl) order now fails
      rw [hq]
      simp

/-- **The nil guardian set, exactly.** In every run of events from start-up, no event makes the node
dereference a nil guardian set if and only if no cleanup before the first guardian set finds an entry
older than the settlement time without a VAA in the store. -/
theorem nilGuardianSet_iff (crypto : Crypto) (gk : GuardianKey) (db : Database) (inputs : List Input)
    (hvisits : Along (step crypto gk) (fun p input => input.VisitsAll p) (newProcessor db) inputs) :
    Along (step crypto gk) (fun p input => ¬DereferencesNil crypto gk p input) (newProcessor db) inputs ↔
      Along (step crypto gk) (fun p input => ¬SettlesEarly p input) (newProcessor db) inputs := by
  have hinvariant := hvisits.invariant (I := NoSetYet)
    (fun _ _ _ h _ hstep => h.of_handle (step_eq_some.mp hstep)) (.of_newProcessor db)
  exact along_congr (fun _ _ h => not_congr (dereferencesNil_iff h.2 h.1)) hinvariant

/-! ## Inputs -/

/-- A governance VAA is injected, and the cleanup comes 31 seconds later. -/
def injectedCleanup : List Input :=
  [.injection (sampleGovernance 4) 0, .cleanup [ownObservation.Hash] (31 * second) fun _ => false]

theorem injectedCleanup_visitsAll :
    Along (step Crypto.sample sampleGuardianKey) (fun p input => input.VisitsAll p)
      (newProcessor fun _ => none) injectedCleanup := by
  refine ⟨trivial, ?_⟩
  intro p hp
  refine ⟨?_, fun _ _ => trivial⟩
  rw [← Option.some.inj hp]
  exact .refl _

/-- **A nil guardian set.** The cleanup settles the injected VAA before the first guardian set. -/
theorem injectedCleanup_nil :
    Along (step Crypto.sample sampleGuardianKey) (fun p input => input.VisitsAll p)
      (newProcessor fun _ => none) injectedCleanup ∧
    ¬Along (step Crypto.sample sampleGuardianKey)
      (fun p input => ¬DereferencesNil Crypto.sample sampleGuardianKey p input)
      (newProcessor fun _ => none) injectedCleanup := by
  refine ⟨injectedCleanup_visitsAll, ?_⟩
  rintro ⟨-, h⟩
  obtain ⟨hnot, -⟩ := h _ rfl
  exact hnot rfl

/-- With the guardian set in between, every event is handled. -/
theorem injectedCleanup_set :
    Along (step Crypto.sample sampleGuardianKey)
      (fun p input => ¬DereferencesNil Crypto.sample sampleGuardianKey p input)
      (newProcessor fun _ => none) [.injection (sampleGovernance 4) 0, .guardianSet oneGuardian,
        .cleanup [ownObservation.Hash] (31 * second) fun _ => false] := by
  apply (nilGuardianSet_iff Crypto.sample sampleGuardianKey (fun _ => none) _ ?_).mpr
  · refine ⟨id, ?_⟩
    intro p hp
    refine ⟨id, ?_⟩
    intro q hq
    refine ⟨?_, fun _ _ => trivial⟩
    rintro ⟨hnone, -⟩
    rw [← Option.some.inj hq] at hnone
    cases hnone
  · refine ⟨trivial, ?_⟩
    intro p hp
    refine ⟨trivial, ?_⟩
    intro q hq
    refine ⟨?_, fun _ _ => trivial⟩
    rw [← Option.some.inj hq, ← Option.some.inj hp]
    exact .refl _

end Wormhole.Guardian

/-
# Wormhole.Guardian.Collected — when a VAA is submitted.

The node submits a VAA while it handles an observation, and only then: when its own observation is there and a quorum
of the guardians has been heard.  Its own observation may come before the others' or after them, and those in any
order and any number of times.  `submitted_once`: as long as the guardian set stays and the entry is not deleted, none
of this matters.  Once an observation of the digest has been handled behind the node's own, the VAA has been broadcast
exactly once if a quorum of different guardians has been heard, and not at all otherwise.
-/
import Mathlib
import Wormhole.Lib.Entries
import Wormhole.Lib.Go
import Wormhole.Lib.Transition
import Wormhole.Guardian.Handled
import Wormhole.Guardian.Codec

namespace Wormhole.Guardian

open Wormhole.Lib Wormhole.Lib.Bytes Wormhole.Lib.Transition

/-! ## Who has been heard -/

section Heard

variable (crypto : Crypto) (gs : GuardianSet) (hash : List UInt8)

/-- The guardian of the set that an observation is from, if it verifies. -/
def observer (m : SignedObservation) : Option EthAddress :=
  (recoverSigner crypto m.Hash m.Signature).filter fun signer =>
    bytesToAddress m.Addr = signer ∧ signer ∈ gs.Keys

/-- The guardian that is heard about the digest. -/
def heardIn : Input → Option EthAddress
  | .observation m _ _ => if m.Hash = hash then observer crypto gs m else none
  | _ => none

/-- The guardians that are heard about the digest. -/
def heard (inputs : List Input) : Finset EthAddress := (inputs.filterMap (heardIn crypto gs hash)).toFinset

end Heard

/-- What has been broadcast of a digest. -/
def sentFor (crypto : Crypto) (hash : List UInt8) (sent : List GossipMessage) : List (List UInt8) :=
  sent.filterMap fun
    | .signedVAAWithQuorum bytes =>
      if (crypto.Keccak256 (crypto.Keccak256 (bodyOf bytes)).val).val = hash then some bytes else none
    | .signedObservation _ => none

variable {crypto : Crypto} {gk : GuardianKey} {gs : GuardianSet} {hash : List UInt8} {p p' : Aggregator}
  {input : Input} {inputs : List Input}

theorem observer_eq_some {m : SignedObservation} {addr : EthAddress} :
    observer crypto gs m = some addr ↔
      recoverSigner crypto m.Hash m.Signature = some addr ∧ bytesToAddress m.Addr = addr ∧ addr ∈ gs.Keys := by
  simp [observer, Option.filter_eq_some_iff]

@[simp]
theorem heard_nil : heard crypto gs hash [] = ∅ := rfl

theorem heard_concat : heard crypto gs hash (inputs ++ [input]) =
    heard crypto gs hash inputs ∪ (heardIn crypto gs hash input).toFinset := by
  cases h : heardIn crypto gs hash input <;> simp [heard, h]

theorem heard_subset (inputs : List Input) : heard crypto gs hash inputs ⊆ gs.Keys.toFinset := by
  intro a ha
  obtain ⟨input, -, hinput⟩ := List.mem_filterMap.mp (List.mem_toFinset.mp ha)
  cases input with
  | observation m now fails =>
    simp only [heardIn] at hinput
    split at hinput
    · exact List.mem_toFinset.mpr (observer_eq_some.mp hinput).2.2
    · cases hinput
  | guardianSet | message | injection | inbound | cleanup => cases hinput

/-! ## Collected signatures -/

/-- One signature for each key that has one. -/
theorem aggregate_length {signatures : EthAddress → Option (List UInt8)} {i : Nat} {keys : List EthAddress}
    {sigs : List Signature} (h : aggregate signatures i keys = .ok sigs) :
    sigs.length = (keys.filter fun a => (signatures a).isSome).length := by
  induction keys generalizing i sigs with
  | nil =>
    rw [← Go.ok.inj h]
    rfl
  | cons a keys ih =>
    unfold aggregate at h
    cases hs : signatures a with
    | none =>
      rw [hs] at h
      rw [List.filter_cons_of_neg (by simp [hs])]
      exact ih h
    | some s =>
      rw [hs] at h
      dsimp only at h
      split at h
      · obtain ⟨rest, htail, heq⟩ := Go.bind_eq_ok.mp h
        rw [← Go.ok.inj heq, List.filter_cons_of_pos (by simp [hs]), List.length_cons, List.length_cons, ih htail]
      · cases h

/-- The signatures of an entry that has one of each guardian in the set `A`. -/
theorem aggregate_length_of_mem {signatures : EthAddress → Option (List UInt8)} {A : Finset EthAddress}
    (hnodup : gs.Keys.Nodup) (hA : A ⊆ gs.Keys.toFinset) (hcollected : ∀ a, (signatures a).isSome ↔ a ∈ A)
    {sigs : List Signature} (h : aggregate signatures 0 gs.Keys = .ok sigs) : sigs.length = A.card := by
  rw [aggregate_length h, ← List.toFinset_card_of_nodup (hnodup.filter _)]
  congr 1
  ext a
  rw [List.mem_toFinset, List.mem_filter, hcollected]
  constructor
  · rintro ⟨-, ha⟩
    exact ha
  · intro ha
    exact ⟨List.mem_toFinset.mp (hA ha), ha⟩

/-- **An observation** that the current set or the one stored decides on. -/
theorem handleObservation_eq {m : SignedObservation} (now : Int) (fails : Bool)
    (hset : p.guardianSetFor m.Hash = some gs) :
    handleObservation crypto p m now fails =
      match observer crypto gs m with
      | some addr => addSignature p gs addr m now fails
      | none => .ok p := by
  unfold handleObservation observer
  cases hsigner : recoverSigner crypto m.Hash m.Signature with
  | none => rfl
  | some signer =>
    dsimp only
    by_cases haddr : bytesToAddress m.Addr = signer
    · rw [if_neg (not_not.mpr haddr), hset]
      dsimp only
      by_cases hmem : signer ∈ gs.Keys
      · have hindex : ∃ i, gs.keyIndex (bytesToAddress m.Addr) = some i := by
          rw [haddr, GuardianSet.keyIndex, ← Option.isSome_iff_exists, List.findIdx?_isSome, List.any_eq_true]
          exact ⟨signer, hmem, beq_self_eq_true signer⟩
        obtain ⟨i, hi⟩ := hindex
        rw [hi, Option.filter_some, if_pos (by simp [haddr, hmem]), haddr]
      · have hindex : gs.keyIndex (bytesToAddress m.Addr) = none := by
          rw [haddr, GuardianSet.keyIndex, List.findIdx?_eq_none_iff]
          intro a ha
          exact beq_false_of_ne fun heq => hmem (heq ▸ ha)
        rw [hindex, Option.filter_some, if_neg (by simp [hmem])]
    · rw [if_pos haddr, Option.filter_some, if_neg (by simp [haddr])]

/-! ## Entries -/

/-- An entry holds an observation of its digest, and a set of at most 255 guardians. -/
structure EntryOrderly (crypto : Crypto) (hash : List UInt8) (s : VaaState) : Prop where
  ourVAA : ∀ v, s.ourVAA = some v → (signingMsg crypto v).val = hash
  ourMsg : ∀ msg, s.ourMsg = some msg → ∃ obsv, msg = .signedObservation obsv
  gs : ∀ gs, s.gs = some gs → gs.Keys.length ≤ 255

/-- Every entry does. -/
structure Orderly (crypto : Crypto) (p : Aggregator) : Prop where
  gs : ∀ gs, p.gs = some gs → gs.Keys.Nodup ∧ gs.Keys.length ≤ 255
  entries : Entries (EntryOrderly crypto) p.vaaSignatures

namespace Orderly

theorem entryOf (h : Orderly crypto p) (hash : List UInt8) (now : Int) :
    EntryOrderly crypto hash (p.entryOf hash now) := by
  unfold Aggregator.entryOf
  cases hs : p.vaaSignatures.lookup hash with
  | none => exact ⟨nofun, nofun, nofun⟩
  | some s => exact h.entries hash s hs

theorem signedEntry (h : Orderly crypto p) (addr : EthAddress) (m : SignedObservation) (now : Int) :
    EntryOrderly crypto m.Hash (p.signedEntry addr m now) :=
  ⟨(h.entryOf m.Hash now).ourVAA, (h.entryOf m.Hash now).ourMsg, (h.entryOf m.Hash now).gs⟩

/-- The set that an observation is checked against. -/
theorem guardianSetFor (h : Orderly crypto p) (hset : p.guardianSetFor hash = some gs) : gs.Keys.length ≤ 255 := by
  unfold Aggregator.guardianSetFor at hset
  cases hs : p.vaaSignatures.lookup hash with
  | none =>
    rw [hs] at hset
    exact (h.gs gs hset).2
  | some s =>
    rw [hs] at hset
    rcases Option.or_eq_some_iff.mp hset with hstored | ⟨-, hcurrent⟩
    · exact (h.entries hash s hs).gs gs hstored
    · exact (h.gs gs hcurrent).2

/-- **One event** leaves the entries in order. -/
theorem handle (h : Orderly crypto p) (hadmissible : input.Admissible p)
    (hhandle : Guardian.handle crypto gk p input = .ok p') : Orderly crypto p' := by
  cases handle_cases hhandle with
  | guardianSet gs =>
    refine ⟨?_, h.entries⟩
    intro gs' hgs'
    rw [← Option.some.inj hgs']
    exact hadmissible
  | swept hswept =>
    refine ⟨?_, ?_⟩
    · rw [hswept.gs]
      exact h.gs
    intro hash s' hs'
    obtain ⟨s, hs, hsame, hmsg⟩ := hswept.entries hash s' hs'
    have hentry := h.entries hash s hs
    refine ⟨?_, ?_, ?_⟩
    · rw [hsame.ourVAA]
      exact hentry.ourVAA
    · rw [hmsg]
      exact hentry.ourMsg
    · rw [hsame.gs]
      exact hentry.gs
  | @announced _ _ v obsv now _ hannounces =>
    refine ⟨?_, ?_⟩
    · rw [hannounces.gs]
      exact h.gs
    · rw [hannounces.vaaSignatures]
      refine h.entries.insert ⟨?_, ?_, fun gs hgs => (h.gs gs hgs).2⟩
      · intro v' hv'
        rw [← Option.some.inj hv', hannounces.hash]
      · intro msg hmsg
        exact ⟨obsv, (Option.some.inj hmsg).symm⟩
  | filed _ => exact ⟨h.gs, h.entries.insert (h.signedEntry _ _ _)⟩
  | @submitted m now _ _ addr _ _ _ _ _ _ _ _ _ _ hsubmits =>
    have hentry := h.signedEntry addr m now
    refine ⟨?_, ?_⟩
    · rw [hsubmits.gs]
      exact h.gs
    · rw [hsubmits.vaaSignatures]
      exact h.entries.insert ⟨hentry.ourVAA, hentry.ourMsg, hentry.gs⟩

/-- **Every run** from start-up. -/
theorem of_run {db : Database} (h : Run (step crypto gk) (fun p input => input.Admissible p) (newProcessor db) p) :
    Orderly crypto p := by
  refine h.invariant (I := Orderly crypto) ?_ ⟨nofun, .empty⟩
  intro p input p' hp hadmissible hstep
  exact hp.handle hadmissible (step_eq_some.mp hstep)

end Orderly

/-! ## What is sent -/

theorem sentFor_append (sent sent' : List GossipMessage) :
    sentFor crypto hash (sent ++ sent') = sentFor crypto hash sent ++ sentFor crypto hash sent' :=
  List.filterMap_append

theorem sentFor_observations {sent : List GossipMessage} (h : ∀ msg ∈ sent, ∃ obsv, msg = .signedObservation obsv) :
    sentFor crypto hash sent = [] := by
  refine List.filterMap_eq_nil_iff.mpr ?_
  intro msg hmsg
  obtain ⟨obsv, rfl⟩ := h msg hmsg
  rfl

theorem sentFor_signed {v : VAA} (hcount : v.signatures.length ≤ 255) :
    sentFor crypto hash [.signedVAAWithQuorum (marshal v)] =
      if (signingMsg crypto v).val = hash then [marshal v] else [] := by
  by_cases hdigest : (signingMsg crypto v).val = hash
  · rw [if_pos hdigest]
    rw [signingMsg] at hdigest
    simp [sentFor, bodyOf_marshal hcount, hdigest]
  · rw [if_neg hdigest]
    rw [signingMsg] at hdigest
    simp [sentFor, bodyOf_marshal hcount, hdigest]

/-! ## One digest -/

/-- A guardian was heard, in every case. -/
theorem addSignature_cases {addr : EthAddress} {m : SignedObservation} {now : Int} {fails : Bool}
    (h : addSignature p gs addr m now fails = .ok p') :
    ∃ sigs, aggregate (p.signedEntry addr m now).signatures 0 gs.Keys = .ok sigs ∧
      ((p' = p.setEntry m.Hash (p.signedEntry addr m now) ∧
        ((p.signedEntry addr m now).ourVAA.isSome → calculateQuorum gs.Keys.length ≤ sigs.length →
          (p.signedEntry addr m now).submitted = true)) ∨
      ∃ v, (p.signedEntry addr m now).ourVAA = some v ∧ (p.signedEntry addr m now).submitted = false ∧
        calculateQuorum gs.Keys.length ≤ sigs.length ∧
        Submits p p' m.Hash (p.signedEntry addr m now) { v with signatures := sigs }) := by
  obtain ⟨sigs, hcollected, h⟩ := Go.bind_eq_ok.mp h
  refine ⟨sigs, hcollected, ?_⟩
  split at h
  · rename_i hnone
    refine .inl ⟨(Go.ok.inj h).symm, ?_⟩
    intro hown
    have hnone' : (p.signedEntry addr m now).ourVAA = none := hnone
    rw [hnone'] at hown
    cases hown
  · rename_i v hv
    split at h
    · rename_i hquorum
      have hsubmit := submitSigned_eq_ok h
      refine .inr ⟨v, hv, hquorum.2, hquorum.1, hsubmit.gs, ?_, hsubmit.sendC, hsubmit.reported, hsubmit.db⟩
      rw [hsubmit.vaaSignatures]
      exact AList.insert_insert _
    · rename_i hquorum
      refine .inl ⟨(Go.ok.inj h).symm, ?_⟩
      intro _ hle
      by_contra hsubmitted
      exact hquorum ⟨hle, Bool.eq_false_iff.mpr hsubmitted⟩

/-- The time at which an entry is created does not matter here. -/
theorem sameObservation_entryOf (p : Aggregator) (hash : List UInt8) (now : Int) :
    SameObservation (p.entryOf hash 0) (p.entryOf hash now) := by
  unfold Aggregator.entryOf
  cases p.vaaSignatures.lookup hash <;> exact ⟨rfl, rfl, rfl, rfl⟩

theorem entryOf_of_lookup {s : VaaState} (h : p.vaaSignatures.lookup hash = some s) (now : Int) :
    p.entryOf hash now = s := by
  rw [Aggregator.entryOf, h]
  rfl

theorem entryOf_of_not_mem (h : hash ∉ p.vaaSignatures) (now : Int) : p.entryOf hash now = VaaState.new now := by
  rw [Aggregator.entryOf, AList.lookup_eq_none.mpr h]
  rfl

theorem entryOf_congr (h : p'.vaaSignatures.lookup hash = p.vaaSignatures.lookup hash) (now : Int) :
    p'.entryOf hash now = p.entryOf hash now := by
  rw [Aggregator.entryOf, Aggregator.entryOf, h]

/-- **What a node knows of a digest** after these inputs, since `start`. -/
structure Tracks (crypto : Crypto) (gs : GuardianSet) (hash : List UInt8) (start : Aggregator) (inputs : List Input)
    (p : Aggregator) : Prop where
  orderly : Orderly crypto p
  current : p.gs = some gs
  stored : (p.entryOf hash 0).gs = none ∨ (p.entryOf hash 0).gs = some gs
  collected : ∀ a, ((p.entryOf hash 0).signatures a).isSome ↔ a ∈ heard crypto gs hash inputs
  own : (p.entryOf hash 0).ourVAA.isSome ↔ HasSigned p hash
  reached : (p.entryOf hash 0).submitted = true →
    calculateQuorum gs.Keys.length ≤ (heard crypto gs hash inputs).card
  sent : (sentFor crypto hash p.sendC).length =
    (sentFor crypto hash start.sendC).length + if (p.entryOf hash 0).submitted then 1 else 0

/-- A quorum with the node's own observation has been submitted. -/
def Answered (crypto : Crypto) (gs : GuardianSet) (hash : List UInt8) (inputs : List Input) (p : Aggregator) : Prop :=
  calculateQuorum gs.Keys.length ≤ (heard crypto gs hash inputs).card → (p.entryOf hash 0).submitted = true

/-- An observation of the digest. -/
def IsAbout (hash : List UInt8) (input : Input) : Prop := ∃ m now fails, input = .observation m now fails ∧ m.Hash = hash

theorem heardIn_of_not (h : ¬IsAbout hash input) : heardIn crypto gs hash input = none := by
  cases input with
  | observation m now fails => exact if_neg fun hhash => h ⟨m, now, fails, rfl, hhash⟩
  | guardianSet | message | injection | inbound | cleanup => rfl

/-- The event does not delete the entry. -/
def Keeps (hash : List UInt8) (p p' : Aggregator) : Prop := hash ∈ p.vaaSignatures → hash ∈ p'.vaaSignatures

namespace Tracks

variable {start : Aggregator}

theorem guardianSetFor (h : Tracks crypto gs hash start inputs p) : p.guardianSetFor hash = some gs := by
  have hstored := h.stored
  unfold Aggregator.guardianSetFor
  cases hs : p.vaaSignatures.lookup hash with
  | none => exact h.current
  | some s =>
    rw [entryOf_of_lookup hs] at hstored
    dsimp only
    rcases hstored with hnone | hgs
    · rw [hnone, Option.none_or]
      exact h.current
    · rw [hgs, Option.some_or]

/-- An event in which nobody is heard and that leaves the entry alone. -/
theorem same (h : Tracks crypto gs hash start inputs p) (horderly : Orderly crypto p') (hgs : p'.gs = p.gs)
    (hsame : SameObservation (p.entryOf hash 0) (p'.entryOf hash 0)) (hsigned : HasSigned p' hash ↔ HasSigned p hash)
    (hsent : sentFor crypto hash p'.sendC = sentFor crypto hash p.sendC)
    (hheard : heardIn crypto gs hash input = none) : Tracks crypto gs hash start (inputs ++ [input]) p' := by
  have hsameHeard : heard crypto gs hash (inputs ++ [input]) = heard crypto gs hash inputs := by
    rw [heard_concat, hheard]
    exact Finset.union_empty _
  refine ⟨horderly, hgs.trans h.current, ?_, ?_, ?_, ?_, ?_⟩
  · rw [hsame.gs]
    exact h.stored
  · rw [hsame.signatures, hsameHeard]
    exact h.collected
  · rw [hsame.ourVAA, hsigned]
    exact h.own
  · rw [hsame.submitted, hsameHeard]
    exact h.reached
  · rw [hsame.submitted, hsent]
    exact h.sent

/-- The node's own observation of the digest. -/
theorem announce (h : Tracks crypto gs hash start inputs p) (horderly : Orderly crypto p') {v : VAA}
    {obsv : SignedObservation} {now : Int} (hannounces : Announces crypto p p' v obsv now) (hhash : obsv.Hash = hash)
    (hheard : heardIn crypto gs hash input = none) : Tracks crypto gs hash start (inputs ++ [input]) p' := by
  subst hhash
  have hsameHeard : heard crypto gs obsv.Hash (inputs ++ [input]) = heard crypto gs obsv.Hash inputs := by
    rw [heard_concat, hheard]
    exact Finset.union_empty _
  have hentry : p'.entryOf obsv.Hash 0 = { p.entryOf obsv.Hash now with
      ourVAA := some v, ourMsg := some (.signedObservation obsv), gs := p.gs } := by
    refine entryOf_of_lookup ?_ 0
    rw [hannounces.vaaSignatures, AList.lookup_insert]
  have hsame := sameObservation_entryOf p obsv.Hash now
  have hsent : sentFor crypto obsv.Hash p'.sendC = sentFor crypto obsv.Hash p.sendC := by
    have hnone : sentFor crypto obsv.Hash [.signedObservation obsv] = [] := rfl
    rw [hannounces.sendC, sentFor_append, hnone, List.append_nil]
  refine ⟨horderly, hannounces.gs.trans h.current, ?_, ?_, ?_, ?_, ?_⟩
  · rw [hentry]
    exact .inr h.current
  · rw [hentry, hsameHeard]
    dsimp only
    rw [hsame.signatures]
    exact h.collected
  · rw [hentry]
    refine iff_of_true rfl ⟨obsv, ?_, rfl⟩
    rw [hannounces.obsvC]
    exact List.mem_append_right _ (List.mem_singleton_self _)
  · rw [hentry, hsameHeard]
    dsimp only
    rw [hsame.submitted]
    exact h.reached
  · rw [hentry, hsent]
    dsimp only
    rw [hsame.submitted]
    exact h.sent

/-- **A guardian is heard** about the digest.  If the node's own observation is there and this makes a quorum, the VAA
has been submitted. -/
theorem hear (h : Tracks crypto gs hash start inputs p) (horderly : Orderly crypto p')
    {m : SignedObservation} {now : Int} {fails : Bool} {addr : EthAddress} (hhash : m.Hash = hash)
    (haddr : observer crypto gs m = some addr)
    (hhandle : handleObservation crypto p m now fails = .ok p') :
    Tracks crypto gs hash start (inputs ++ [.observation m now fails]) p' ∧
      (HasSigned p' hash → calculateQuorum gs.Keys.length ≤
        (heard crypto gs hash (inputs ++ [.observation m now fails])).card →
        (p'.entryOf hash 0).submitted = true) := by
  subst hhash
  have hobsvC := handleObservation_obsvC hhandle
  rw [handleObservation_eq now fails h.guardianSetFor, haddr] at hhandle
  dsimp only at hhandle
  have hsame := sameObservation_entryOf p m.Hash now
  have hheard : heard crypto gs m.Hash (inputs ++ [.observation m now fails]) =
      heard crypto gs m.Hash inputs ∪ {addr} := by
    rw [heard_concat, heardIn, if_pos rfl, haddr]
    rfl
  have hsigned : HasSigned p' m.Hash ↔ HasSigned p m.Hash := by rw [HasSigned, HasSigned, hobsvC]
  have hcollected : ∀ a, ((p.signedEntry addr m now).signatures a).isSome ↔
      a ∈ heard crypto gs m.Hash (inputs ++ [.observation m now fails]) := by
    intro a
    rw [hheard, Finset.mem_union, Finset.mem_singleton, ← h.collected, ← hsame.signatures]
    by_cases ha : a = addr
    · subst ha
      have hself : (p.signedEntry a m now).signatures a = some m.Signature := Function.update_self _ _ _
      rw [hself]
      exact iff_of_true rfl (.inr rfl)
    · have hother : (p.signedEntry addr m now).signatures a = (p.entryOf m.Hash now).signatures a :=
        Function.update_of_ne ha _ _
      rw [hother]
      exact ⟨.inl, fun hold => hold.resolve_right ha⟩
  have hown : (p.signedEntry addr m now).ourVAA.isSome ↔ HasSigned p' m.Hash := by
    rw [hsigned, ← h.own, ← hsame.ourVAA]
    rfl
  have hstored : (p.signedEntry addr m now).gs = none ∨ (p.signedEntry addr m now).gs = some gs := by
    have hgs : (p.signedEntry addr m now).gs = (p.entryOf m.Hash 0).gs := hsame.gs
    rw [hgs]
    exact h.stored
  have hbefore : (p.signedEntry addr m now).submitted = (p.entryOf m.Hash 0).submitted := hsame.submitted
  obtain ⟨sigs, haggregate, hcase⟩ := addSignature_cases hhandle
  have hlength := aggregate_length_of_mem (h.orderly.gs gs h.current).1 (heard_subset _) hcollected haggregate
  have hmono : (heard crypto gs m.Hash inputs).card ≤
      (heard crypto gs m.Hash (inputs ++ [.observation m now fails])).card := by
    rw [hheard]
    exact Finset.card_le_card Finset.subset_union_left
  rcases hcase with ⟨rfl, hfull⟩ | ⟨v, hv, hfresh, hquorum, hsubmits⟩
  · -- the signature is filed, and nothing is sent
    have hentry : (p.setEntry m.Hash (p.signedEntry addr m now)).entryOf m.Hash 0 = p.signedEntry addr m now :=
      entryOf_of_lookup (AList.lookup_insert _) 0
    rw [← hlength] at hmono ⊢
    refine ⟨⟨horderly, h.current, ?_, ?_, ?_, ?_, ?_⟩, ?_⟩
    · rwa [hentry]
    · rwa [hentry]
    · rwa [hentry]
    · rw [hentry, hbefore, ← hlength]
      intro hsubmitted
      exact (h.reached hsubmitted).trans hmono
    · rw [hentry, hbefore]
      exact h.sent
    · rw [hentry]
      intro hhas
      exact hfull (hown.mpr hhas)
  · -- the VAA is submitted
    have hentry : p'.entryOf m.Hash 0 = { p.signedEntry addr m now with submitted := true } := by
      refine entryOf_of_lookup ?_ 0
      rw [hsubmits.vaaSignatures, AList.lookup_insert]
    have hcount : sigs.length ≤ 255 := by
      rw [aggregate_length haggregate]
      exact (List.length_filter_le _ _).trans (h.orderly.gs gs h.current).2
    have hdigest : (signingMsg crypto { v with signatures := sigs }).val = m.Hash :=
      (h.orderly.signedEntry addr m now).ourVAA v hv
    refine ⟨⟨horderly, hsubmits.gs.trans h.current, ?_, ?_, ?_, ?_, ?_⟩, ?_⟩
    · rwa [hentry]
    · rwa [hentry]
    · rwa [hentry]
    · intro _
      rwa [← hlength]
    · rw [hentry, hsubmits.sendC, sentFor_append, sentFor_signed hcount, if_pos hdigest, List.length_append, h.sent,
        ← hbefore, hfresh]
      rfl
    · intro _ _
      rw [hentry]

/-- A visit of the entries leaves the one of the digest alone. -/
theorem sameObservation_of_swept (h : Swept p p') (hkeep : Keeps hash p p') :
    SameObservation (p.entryOf hash 0) (p'.entryOf hash 0) := by
  by_cases hmem : hash ∈ p'.vaaSignatures
  · obtain ⟨s', hs'⟩ := Option.isSome_iff_exists.mp (AList.lookup_isSome.mpr hmem)
    obtain ⟨s, hs, hsame, -⟩ := h.entries hash s' hs'
    rw [entryOf_of_lookup hs, entryOf_of_lookup hs']
    exact hsame
  · rw [entryOf_of_not_mem hmem, entryOf_of_not_mem fun hp => hmem (hkeep hp)]
    exact ⟨rfl, rfl, rfl, rfl⟩

theorem sameObservation_of_lookup (h : p'.vaaSignatures.lookup hash = p.vaaSignatures.lookup hash) :
    SameObservation (p.entryOf hash 0) (p'.entryOf hash 0) := by
  rw [entryOf_congr h]
  exact ⟨rfl, rfl, rfl, rfl⟩

/-- **Any other event** of a node whose guardian set stays. -/
theorem other (h : Tracks crypto gs hash start inputs p) (horderly : Orderly crypto p')
    (hset : ∀ gs, input ≠ .guardianSet gs) (hkeep : Keeps hash p p') (hother : ¬IsAbout hash input)
    (hhandle : Guardian.handle crypto gk p input = .ok p') :
    Tracks crypto gs hash start (inputs ++ [input]) p' ∧
      (p'.entryOf hash 0).submitted = (p.entryOf hash 0).submitted := by
  have hheard : heardIn crypto gs hash input = none := heardIn_of_not hother
  cases handle_cases hhandle with
  | guardianSet gs => exact absurd rfl (hset gs)
  | swept hswept =>
    have hsame := sameObservation_of_swept hswept hkeep
    refine ⟨h.same horderly hswept.gs hsame ?_ ?_ hheard, hsame.submitted⟩
    · rw [HasSigned, HasSigned, hswept.obsvC]
    · obtain ⟨sent, hsendC, hheld⟩ := hswept.sent
      have hnone : sentFor crypto hash sent = [] := by
        refine sentFor_observations ?_
        intro msg hmsg
        obtain ⟨hash', s, hs, hown⟩ := hheld msg hmsg
        exact (h.orderly.entries hash' s hs).ourMsg msg hown
      rw [hsendC, sentFor_append, hnone, List.append_nil]
  | @announced _ _ v obsv now _ hannounces =>
    by_cases hhash : obsv.Hash = hash
    · refine ⟨h.announce horderly hannounces hhash hheard, ?_⟩
      have hentry : p'.vaaSignatures.lookup hash = some { p.entryOf obsv.Hash now with
          ourVAA := some v, ourMsg := some (.signedObservation obsv), gs := p.gs } := by
        rw [hannounces.vaaSignatures, ← hhash, AList.lookup_insert]
      rw [entryOf_of_lookup hentry, ← hhash]
      exact (sameObservation_entryOf p obsv.Hash now).submitted
    · have hlookup : p'.vaaSignatures.lookup hash = p.vaaSignatures.lookup hash := by
        rw [hannounces.vaaSignatures, AList.lookup_insert_ne (Ne.symm hhash)]
      have hsame := sameObservation_of_lookup hlookup
      refine ⟨h.same horderly hannounces.gs hsame ?_ ?_ hheard, hsame.submitted⟩
      · simp only [HasSigned, hannounces.obsvC, List.mem_append, List.mem_singleton, or_and_right, exists_or,
          exists_eq_left, hhash, or_false]
      · have hnone : sentFor crypto hash [.signedObservation obsv] = [] := rfl
        rw [hannounces.sendC, sentFor_append, hnone, List.append_nil]
  | @filed m now fails addr _ =>
    have hne : hash ≠ m.Hash := fun heq => hother ⟨m, now, fails, rfl, heq.symm⟩
    have hlookup : (p.setEntry m.Hash (p.signedEntry addr m now)).vaaSignatures.lookup hash =
        p.vaaSignatures.lookup hash := AList.lookup_insert_ne hne
    have hsame := sameObservation_of_lookup hlookup
    exact ⟨h.same horderly rfl hsame Iff.rfl rfl hheard, hsame.submitted⟩
  | @submitted m now fails _ addr gs' v sigs hsigner hgs' hown _ hcollected _ hobsvC hsubmits =>
    have hne : hash ≠ m.Hash := fun heq => hother ⟨m, now, fails, rfl, heq.symm⟩
    have hlookup : p'.vaaSignatures.lookup hash = p.vaaSignatures.lookup hash := by
      rw [hsubmits.vaaSignatures, AList.lookup_insert_ne hne]
    have hsame := sameObservation_of_lookup hlookup
    have hcount : sigs.length ≤ 255 := by
      rw [aggregate_length hcollected]
      exact (List.length_filter_le _ _).trans (h.orderly.guardianSetFor hgs')
    have hdigest : (signingMsg crypto { v with signatures := sigs }).val ≠ hash := by
      have hm : (signingMsg crypto { v with signatures := sigs }).val = m.Hash :=
        (h.orderly.signedEntry addr m now).ourVAA v hown
      rw [hm]
      exact Ne.symm hne
    refine ⟨h.same horderly hsubmits.gs hsame ?_ ?_ hheard, hsame.submitted⟩
    · rw [HasSigned, HasSigned, hobsvC]
    · rw [hsubmits.sendC, sentFor_append, sentFor_signed hcount, if_neg hdigest, List.append_nil]

/-- **One event** of a node whose guardian set stays. -/
theorem handle (h : Tracks crypto gs hash start inputs p)
    (hadmissible : input.Admissible p) (hset : ∀ gs, input ≠ .guardianSet gs) (hkeep : Keeps hash p p')
    (hhandle : Guardian.handle crypto gk p input = .ok p') :
    Tracks crypto gs hash start (inputs ++ [input]) p' ∧
      ((heardIn crypto gs hash input).isSome ∨ Answered crypto gs hash inputs p → HasSigned p hash →
        Answered crypto gs hash (inputs ++ [input]) p') := by
  have horderly := h.orderly.handle hadmissible hhandle
  by_cases habout : IsAbout hash input
  · obtain ⟨m, now, fails, rfl, hhash⟩ := habout
    cases hobserver : observer crypto gs m with
    | none =>
      -- nobody of the set is heard
      have hheard : heardIn crypto gs hash (.observation m now fails) = none := by
        rw [heardIn, if_pos hhash, hobserver]
      have hsameHeard : heard crypto gs hash (inputs ++ [.observation m now fails]) = heard crypto gs hash inputs := by
        rw [heard_concat, hheard]
        exact Finset.union_empty _
      have hsame : p' = p := by
        have hgs : p.guardianSetFor m.Hash = some gs := hhash ▸ h.guardianSetFor
        have hhandle' : handleObservation crypto p m now fails = .ok p' := hhandle
        rw [handleObservation_eq now fails hgs, hobserver] at hhandle'
        exact (Go.ok.inj hhandle').symm
      rw [hsame]
      refine ⟨h.same h.orderly rfl ⟨rfl, rfl, rfl, rfl⟩ Iff.rfl rfl hheard, ?_⟩
      intro hdue _
      rw [Answered, hsameHeard]
      exact hdue.resolve_left (by rw [hheard]; nofun)
    | some addr =>
      obtain ⟨htracks, hanswered⟩ := h.hear horderly hhash hobserver hhandle
      exact ⟨htracks, fun _ hsigned => hanswered (hsigned.handle hhandle)⟩
  · obtain ⟨htracks, hsubmitted⟩ := h.other horderly hset hkeep habout hhandle
    have hheard : heardIn crypto gs hash input = none := heardIn_of_not habout
    refine ⟨htracks, ?_⟩
    intro hdue _
    rw [Answered, heard_concat, hheard, hsubmitted]
    rw [show (none : Option EthAddress).toFinset = ∅ from rfl, Finset.union_empty]
    exact hdue.resolve_left (by rw [hheard]; nofun)

end Tracks

/-! ## Runs -/

/-- An event that leaves the guardian set and the entry of the digest in place. -/
structure Undisturbed (crypto : Crypto) (gk : GuardianKey) (hash : List UInt8) (p : Aggregator) (input : Input) :
    Prop where
  admissible : input.Admissible p
  set : ∀ gs, input ≠ .guardianSet gs
  keeps : ∀ p', step crypto gk p input = some p' → Keeps hash p p'

/-- A guardian of the set is heard behind the node's own observation. -/
def HeardAfterOwn (crypto : Crypto) (gk : GuardianKey) (gs : GuardianSet) (hash : List UInt8) (start : Aggregator)
    (inputs : List Input) : Prop :=
  ∃ before input after q, inputs = before ++ input :: after ∧ before.foldlM (step crypto gk) start = some q ∧
    HasSigned q hash ∧ (heardIn crypto gs hash input).isSome

variable {start : Aggregator}

/-- **A run** of undisturbed events. -/
theorem Tracks.run {done : List Input} (h : Tracks crypto gs hash start done p)
    (hquiet : Along (step crypto gk) (Undisturbed crypto gk hash) p inputs)
    (hrun : inputs.foldlM (step crypto gk) p = some p') :
    Tracks crypto gs hash start (done ++ inputs) p' ∧
      (Answered crypto gs hash done p → HasSigned p hash → Answered crypto gs hash (done ++ inputs) p') := by
  induction inputs generalizing done p with
  | nil =>
    rw [← Option.some.inj hrun, List.append_nil]
    exact ⟨h, fun hanswered _ => hanswered⟩
  | cons input inputs ih =>
    rw [List.foldlM_cons] at hrun
    obtain ⟨q, hstep, hrest⟩ := Option.bind_eq_some_iff.mp hrun
    have hhandle := step_eq_some.mp hstep
    obtain ⟨hinput, htail⟩ := hquiet
    obtain ⟨hq, hanswered⟩ := h.handle hinput.admissible hinput.set (hinput.keeps q hstep) hhandle
    obtain ⟨hp', hlater⟩ := ih hq (htail q hstep) hrest
    rw [List.append_cons]
    refine ⟨hp', ?_⟩
    intro hbefore hsigned
    exact hlater (hanswered (.inr hbefore) hsigned) (hsigned.handle hhandle)

/-- A digest that the node knows nothing of yet. -/
theorem Tracks.initial (horderly : Orderly crypto start) (hgs : start.gs = some gs)
    (hfresh : hash ∉ start.vaaSignatures) (hunsigned : ¬HasSigned start hash) :
    Tracks crypto gs hash start [] start := by
  have hnew := entryOf_of_not_mem hfresh 0
  refine ⟨horderly, hgs, ?_, ?_, ?_, ?_, ?_⟩
  · rw [hnew]
    exact .inl rfl
  · intro a
    rw [hnew, heard_nil]
    exact iff_of_false nofun (Finset.notMem_empty a)
  · rw [hnew]
    exact iff_of_false nofun hunsigned
  · rw [hnew]
    nofun
  · rw [hnew]
    rfl

/-- **Submitted once, if there is a quorum.**  From any state of a node that knows nothing of a digest, in every run in
which the guardian set and the entry of the digest stay: once a guardian has been heard behind the node's own
observation, the VAA has been broadcast once if a quorum of different guardians has been heard at all, and otherwise
not. -/
theorem submitted_once {db : Database}
    (hstart : Run (step crypto gk) (fun p input => input.Admissible p) (newProcessor db) start)
    (hgs : start.gs = some gs) (hfresh : hash ∉ start.vaaSignatures) (hunsigned : ¬HasSigned start hash)
    (hquiet : Along (step crypto gk) (Undisturbed crypto gk hash) start inputs)
    (hrun : inputs.foldlM (step crypto gk) start = some p)
    (hheard : HeardAfterOwn crypto gk gs hash start inputs) :
    (sentFor crypto hash p.sendC).length = (sentFor crypto hash start.sendC).length +
      if calculateQuorum gs.Keys.length ≤ (heard crypto gs hash inputs).card then 1 else 0 := by
  obtain ⟨before, input, after, q, rfl, hbefore, hsigned, hinput⟩ := hheard
  have hknown := Tracks.initial (.of_run hstart) hgs hfresh hunsigned
  rw [List.foldlM_append, hbefore, Option.bind_eq_bind, Option.bind_some, List.foldlM_cons] at hrun
  obtain ⟨q', hstep, hafter⟩ := Option.bind_eq_some_iff.mp hrun
  obtain ⟨hnow, hrest⟩ := hquiet.of_append hbefore
  have hhandle := step_eq_some.mp hstep
  -- before, at and behind the observation
  obtain ⟨hq, -⟩ := hknown.run hquiet.left hbefore
  rw [List.nil_append] at hq
  obtain ⟨hq', hanswered⟩ := hq.handle hnow.admissible hnow.set (hnow.keeps q' hstep) hhandle
  obtain ⟨hp, hlater⟩ := hq'.run (hrest q' hstep) hafter
  rw [List.append_assoc, List.singleton_append] at hp hlater
  have hsubmitted : (p.entryOf hash 0).submitted = true ↔
      calculateQuorum gs.Keys.length ≤ (heard crypto gs hash (before ++ input :: after)).card :=
    ⟨hp.reached, hlater (hanswered (.inl hinput) hsigned) (hsigned.handle hhandle)⟩
  rw [hp.sent]
  congr 1
  exact if_congr hsubmitted rfl rfl

/-! ## Inputs -/

/-- The node of the guardian 1 has its guardian set. -/
def freshNode : Aggregator :=
  attempt (step Crypto.sample sampleGuardianKey) (newProcessor fun _ => none) (.guardianSet sampleGuardians)

/-- The guardian 2 is heard before the node's own observation, the guardian 0 twice behind it; after 31 seconds the
entry is settled. -/
def lateInputs : List Input :=
  [.observation (observationOf 2) 0 false, .message sampleMessage 1 false, .observation (observationOf 0) 2 false,
    .observation (observationOf 1) 3 false, .cleanup [sampleDigest] (31 * second) fun _ => false,
    .observation (observationOf 0) (32 * second) false]

/-- An event leaves the entry in place, checked on the states of the node. -/
def Checked (p : Aggregator) : Input → Prop
  | .observation m now fails => ∀ p' ∈ step Crypto.sample sampleGuardianKey p (.observation m now fails),
      sampleDigest ∈ p'.vaaSignatures
  | .message k now fails => ∀ p' ∈ step Crypto.sample sampleGuardianKey p (.message k now fails),
      sampleDigest ∈ p'.vaaSignatures
  | .cleanup order now fails => order.Perm p.vaaSignatures.keys ∧
      ∀ p' ∈ step Crypto.sample sampleGuardianKey p (.cleanup order now fails), sampleDigest ∈ p'.vaaSignatures
  | _ => False

instance (p : Aggregator) : ∀ input, Decidable (Checked p input)
  | .observation m now fails =>
    inferInstanceAs (Decidable (∀ p' ∈ step Crypto.sample sampleGuardianKey p (.observation m now fails), _))
  | .message k now fails =>
    inferInstanceAs (Decidable (∀ p' ∈ step Crypto.sample sampleGuardianKey p (.message k now fails), _))
  | .cleanup _ _ _ => inferInstanceAs (Decidable (_ ∧ _))
  | .guardianSet _ => isFalse id
  | .injection _ _ => isFalse id
  | .inbound _ _ => isFalse id

theorem Checked.undisturbed {input : Input} (h : Checked p input) :
    Undisturbed Crypto.sample sampleGuardianKey sampleDigest p input := by
  cases input with
  | observation m now fails => exact ⟨trivial, nofun, fun p' hstep _ => h p' hstep⟩
  | message k now fails => exact ⟨trivial, nofun, fun p' hstep _ => h p' hstep⟩
  | cleanup order now fails => exact ⟨h.1, nofun, fun p' hstep _ => h.2 p' hstep⟩
  | guardianSet | injection | inbound => exact h.elim

theorem lateInputs_evaluated :
    Along (step Crypto.sample sampleGuardianKey) Checked freshNode lateInputs ∧
    ((lateInputs.take 2).foldlM (step Crypto.sample sampleGuardianKey) freshNode).any
      (fun q => q.obsvC.any fun obsv => obsv.Hash = sampleDigest) = true ∧
    (lateInputs.foldlM (step Crypto.sample sampleGuardianKey) freshNode).isSome = true ∧
    calculateQuorum sampleGuardians.Keys.length ≤
      (heard Crypto.sample sampleGuardians sampleDigest lateInputs).card := by
  decide +kernel

/-- The VAA was broadcast once. -/
theorem lateInputs_once : ∃ p, lateInputs.foldlM (step Crypto.sample sampleGuardianKey) freshNode = some p ∧
    (sentFor Crypto.sample sampleDigest p.sendC).length = 1 := by
  obtain ⟨hchecked, hown, hrun, hquorum⟩ := lateInputs_evaluated
  obtain ⟨q, hq, hown⟩ := (Option.any_eq_true _ _).mp hown
  obtain ⟨obsv, hobsv, hhash⟩ := List.any_eq_true.mp hown
  obtain ⟨p, hp⟩ := Option.isSome_iff_exists.mp hrun
  have hstart : Run (step Crypto.sample sampleGuardianKey) (fun p input => input.Admissible p)
      (newProcessor fun _ => none) freshNode := (Run.refl _).attempt _ ⟨by decide, by decide⟩
  have honce := submitted_once hstart rfl (by decide) (by rintro ⟨obsv, hobsv, -⟩; cases hobsv)
    (Along.mono (fun _ _ h => h.undisturbed) hchecked) hp
    ⟨lateInputs.take 2, .observation (observationOf 0) 2 false, lateInputs.drop 3, q, rfl, hq,
      ⟨obsv, hobsv, of_decide_eq_true hhash⟩, by decide⟩
  rw [if_pos hquorum] at honce
  exact ⟨p, hp, honce⟩

end Wormhole.Guardian

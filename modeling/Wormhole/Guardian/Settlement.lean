/-
# Wormhole.Guardian.Settlement — how often an entry is settled.

The settlement in `handleCleanup` counts which guardians have signed, and marks the entry as settled.  The
switch has a case for it that looks at the mark; but the case before it, for our own observations, falls
through to it without looking.  `Counted` is the node next to the number of settlements of every entry it
holds.  `settled_once_iff` says that every entry of a run is settled at most once exactly when no cleanup
comes upon a settled observation of our own that has not been submitted, and does not find its VAA in the store.
-/
import Mathlib
import Wormhole.Lib.Go
import Wormhole.Lib.Transition
import Wormhole.Guardian.Aggregation
import Wormhole.Guardian.SubmittedVaa
import Wormhole.Guardian.Cleanup

namespace Wormhole.Guardian

open Wormhole.Lib Wormhole.Lib.Bytes Wormhole.Lib.Transition

variable {crypto : Crypto} {gk : GuardianKey} {p p' : Aggregator}

/-! ## Counting -/

/-- The node, and how often each of its entries was settled.  An entry that goes takes its count with it. -/
structure Counted where
  node : Aggregator
  count : List UInt8 → Nat

/-- The entries that are settled on the way from `p` to `p'`, in order. -/
def settledBetween (p p' : Aggregator) : List (List UInt8) :=
  (p'.settlements.drop p.settlements.length).map Settlement.hash

namespace Counted

/-- After start-up. -/
def start (db : Database) : Counted := ⟨newProcessor db, fun _ => 0⟩

/-- The count after a step to `p'`. -/
def after (c : Counted) (p' : Aggregator) : Counted where
  node := p'
  count := fun hash =>
    if hash ∈ p'.vaaSignatures then c.count hash + (settledBetween c.node p').count hash else 0

variable (crypto gk) in
def step (c : Counted) (input : Input) : Option Counted := (Guardian.step crypto gk c.node input).map c.after

/-- Every entry was settled at most once. -/
def AtMostOnce (c : Counted) : Prop := ∀ hash, c.count hash ≤ 1

end Counted

/-- The entry at `hash` was settled. -/
def settledAt (p : Aggregator) (hash : List UInt8) : Bool :=
  match p.vaaSignatures.lookup hash with
  | some s => s.settled
  | none => false

/-- The cleanup settles the entry at `hash`. -/
def settlesAt (p : Aggregator) (now : Int) (fails : List UInt8 → Bool) (hash : List UInt8) : Bool :=
  match p.vaaSignatures.lookup hash with
  | some s => verdict s (now - s.firstObserved) (found p s (fails hash)) = .settle
  | none => false

/-- A cleanup comes upon a settled observation of our own that is not submitted and older than the settlement
time, and does not find its VAA in the store. -/
def SettlesAgain (p : Aggregator) : Input → Prop
  | .cleanup _ now fails => ∃ hash s, p.vaaSignatures.lookup hash = some s ∧ s.settled = true ∧ s.Pending ∧
      settlementTime < now - s.firstObserved ∧ found p s (fails hash) = false
  | _ => False

/-! ## Events other than a cleanup -/

/-- Nothing is settled, and every entry keeps its mark. -/
structure KeepsMarks (p p' : Aggregator) : Prop where
  settlements : p'.settlements = p.settlements
  settled : ∀ hash, settledAt p' hash = settledAt p hash
  stays : ∀ hash, hash ∈ p.vaaSignatures → hash ∈ p'.vaaSignatures

namespace KeepsMarks

theorem of_eq (hsettlements : p'.settlements = p.settlements)
    (hentries : p'.vaaSignatures = p.vaaSignatures) : KeepsMarks p p' := by
  refine ⟨hsettlements, ?_, ?_⟩
  · intro hash
    rw [settledAt, hentries, settledAt]
  · intro hash
    rw [hentries]
    exact id

theorem settledAt_entryOf (p : Aggregator) (hash : List UInt8) (now : Int) :
    (p.entryOf hash now).settled = settledAt p hash := by
  unfold Aggregator.entryOf settledAt
  cases p.vaaSignatures.lookup hash <;> rfl

/-- Writing an entry with the same mark. -/
theorem insert {hash : List UInt8} {s : VaaState} (hsettlements : p'.settlements = p.settlements)
    (hentries : p'.vaaSignatures = p.vaaSignatures.insert hash s) (hs : s.settled = settledAt p hash) :
    KeepsMarks p p' := by
  refine ⟨hsettlements, ?_, ?_⟩
  · intro hash'
    unfold settledAt
    rw [hentries]
    by_cases heq : hash' = hash
    · rw [heq, AList.lookup_insert]
      exact hs
    · rw [AList.lookup_insert_ne heq]
  · intro hash' hmem
    rw [hentries, AList.mem_insert]
    exact .inr hmem

theorem broadcastSignature (v : VAA) (signature txhash : List UInt8) (now : Int) :
    KeepsMarks p (Guardian.broadcastSignature crypto gk p v signature txhash now) :=
  insert rfl rfl (settledAt_entryOf p _ now)

theorem submitSigned {hash : List UInt8} {s : VaaState} {signed : VAA} {fails : Bool}
    (h : Guardian.submitSigned p hash s signed fails = .ok p') : p'.settlements = p.settlements := by
  unfold Guardian.submitSigned at h
  dsimp only at h
  split at h
  · cases h
  all_goals
    rw [← Go.ok.inj h]
    rfl

theorem addSignature {gs : GuardianSet} {addr : EthAddress} {m : SignedObservation} {now : Int} {fails : Bool}
    (h : Guardian.addSignature p gs addr m now fails = .ok p') : p'.settlements = p.settlements := by
  obtain ⟨sigs, -, h⟩ := Go.bind_eq_ok.mp h
  split at h
  · rw [← Go.ok.inj h]
    rfl
  · dsimp only at h
    split at h
    · have hsubmit := submitSigned h
      exact hsubmit
    · rw [← Go.ok.inj h]
      rfl

theorem observation_settlements {m : SignedObservation} {now : Int} {fails : Bool}
    (h : handleObservation crypto p m now fails = .ok p') : p'.settlements = p.settlements := by
  unfold handleObservation at h
  split at h
  · rw [← Go.ok.inj h]
  · split at h
    · rw [← Go.ok.inj h]
    · split at h
      · rw [← Go.ok.inj h]
      · split at h
        · rw [← Go.ok.inj h]
        · exact addSignature h

theorem observation {m : SignedObservation} {now : Int} {fails : Bool}
    (h : handleObservation crypto p m now fails = .ok p') : KeepsMarks p p' := by
  have hsettlements := observation_settlements h
  have hmark : ∀ addr, (p.signedEntry addr m now).settled = settledAt p m.Hash :=
    fun _ => settledAt_entryOf p m.Hash now
  rcases handleObservation_cases h with rfl | ⟨gs, addr, -, -, rfl | hsubmits⟩
  · exact of_eq rfl rfl
  · exact insert rfl rfl (hmark addr)
  · obtain ⟨v, sigs, -, -, -, -, hsubmits⟩ := hsubmits
    exact insert hsettlements hsubmits.vaaSignatures (hmark addr)

end KeepsMarks

/-- **An event other than a cleanup** settles nothing. -/
theorem handle_keepsMarks {input : Input} (h : handle crypto gk p input = .ok p')
    (hinput : ∀ order now fails, input ≠ .cleanup order now fails) : KeepsMarks p p' := by
  cases input with
  | guardianSet gs =>
    rw [← Go.ok.inj h]
    exact .of_eq rfl rfl
  | message k now fails =>
    rcases handleMessage_cases h with rfl | ⟨gs, s, -, rfl⟩
    · exact .of_eq rfl rfl
    · have hbroadcast := @KeepsMarks.broadcastSignature crypto gk
        { p with publications := p.publications ++ [(vaaOfMessage gs k, k.txHash)] }
        (vaaOfMessage gs k) s k.txHash.val now
      exact ⟨hbroadcast.settlements, hbroadcast.settled, hbroadcast.stays⟩
  | injection v now =>
    simp only [handle, handleInjection] at h
    split at h
    · cases h
    · rw [← Go.ok.inj h]
      exact .broadcastSignature v _ _ now
  | observation m now fails => exact .observation h
  | inbound m faults =>
    simp only [handle] at h
    split at h
    · cases h
    · rw [← Go.ok.inj h]
      exact .of_eq rfl rfl
  | cleanup order now fails => exact absurd rfl (hinput order now fails)

/-! ## A cleanup -/

section Cleanup

variable {hash : List UInt8} {s : VaaState} {now : Int} {fails : List UInt8 → Bool}

/-- A visit settles its entry, or nothing. -/
theorem execute_settlements {v : Verdict} (h : execute p hash s v = .ok p') :
    p'.settlements.map Settlement.hash =
      p.settlements.map Settlement.hash ++ if v = .settle then [hash] else [] := by
  cases v with
  | keep => rw [← Go.ok.inj h, if_neg (by simp), List.append_nil]
  | expire =>
    rw [← Go.ok.inj h, if_neg (by simp), List.append_nil]
    rfl
  | settle =>
    simp only [execute, settle] at h
    split at h
    · cases h
    · rw [← Go.ok.inj h, if_pos rfl]
      exact List.map_append
  | retransmit =>
    rw [if_neg (by simp), List.append_nil]
    simp only [execute, retransmit] at h
    split at h
    · rw [← Go.ok.inj h]
      rfl
    · split at h
      · cases h
      · rw [← Go.ok.inj h]
        rfl

theorem settlesAt_congr {q : Aggregator} (hdb : q.db = p.db)
    (hlookup : q.vaaSignatures.lookup hash = p.vaaSignatures.lookup hash) :
    settlesAt q now fails hash = settlesAt p now fails hash := by
  unfold settlesAt
  rw [hlookup]
  simp only [found_congr hdb]

/-- **A cleanup settles the entries it has the verdict for**, by induction on the order of the visit. -/
theorem handleCleanup_settlements {order : List (List UInt8)} (hnodup : order.Nodup)
    (h : handleCleanup p order now fails = .ok p') :
    p'.settlements.map Settlement.hash =
      p.settlements.map Settlement.hash ++ order.filter (settlesAt p now fails) := by
  induction order generalizing p with
  | nil =>
    rw [← Go.ok.inj h]
    exact (List.append_nil _).symm
  | cons first order ih =>
    obtain ⟨hfirst, hnodup⟩ := List.nodup_cons.mp hnodup
    unfold handleCleanup at h
    rw [List.foldlM_cons] at h
    obtain ⟨q, hvisit, hrest⟩ := Go.bind_eq_ok.mp h
    rw [ih hnodup hrest]
    -- the rest of the cleanup sees the other entries as they were
    have hsame : ∀ (_ : q.db = p.db)
        (_ : ∀ hash', hash' ≠ first → q.vaaSignatures.lookup hash' = p.vaaSignatures.lookup hash'),
        order.filter (settlesAt q now fails) = order.filter (settlesAt p now fails) := by
      intro hdb hothers
      apply List.filter_congr
      intro hash hmem
      apply settlesAt_congr hdb
      apply hothers
      rintro rfl
      exact hfirst hmem
    rcases visit_cases hvisit with ⟨hnone, rfl⟩ | ⟨s, hs, hexecutes⟩
    · have hnot : settlesAt q now fails first = false := by
        rw [settlesAt, hnone]
      rw [List.filter_cons_of_neg (by rw [hnot]; exact Bool.false_ne_true)]
    · rw [hs] at hvisit
      dsimp only at hvisit
      rw [cleanupEntry_eq] at hvisit
      rw [execute_settlements hvisit, hsame hexecutes.db hexecutes.others, List.append_assoc]
      congr 1
      have hsettles : settlesAt p now fails first =
          decide (verdict s (now - s.firstObserved) (found p s (fails first)) = .settle) := by
        rw [settlesAt, hs]
      by_cases hverdict : verdict s (now - s.firstObserved) (found p s (fails first)) = .settle
      · rw [if_pos hverdict, List.filter_cons_of_pos (by rw [hsettles]; exact decide_eq_true hverdict)]
        rfl
      · rw [if_neg hverdict, List.filter_cons_of_neg (by rw [hsettles]; simpa using hverdict)]
        rfl

/-- What a visit leaves of an entry is settled if it was, or is now. -/
theorem after_settled {v : Verdict} {s' : VaaState} (h : s.after v = some s') :
    s'.settled = (s.settled || decide (v = .settle)) := by
  cases v with
  | keep =>
    rw [← Option.some.inj h]
    simp
  | expire => cases h
  | settle =>
    rw [← Option.some.inj h]
    simp
  | retransmit =>
    obtain ⟨_, -, heq⟩ := Option.map_eq_some_iff.mp h
    rw [← heq]
    simp

/-- An entry that is settled a second time. -/
theorem settlesAgain_iff {order : List (List UInt8)} :
    SettlesAgain p (.cleanup order now fails) ↔
      ∃ hash, settledAt p hash = true ∧ settlesAt p now fails hash = true := by
  constructor
  · rintro ⟨hash, s, hs, hsettled, hpending, hlate, hfound⟩
    refine ⟨hash, ?_, ?_⟩
    · rw [settledAt, hs]
      exact hsettled
    · rw [settlesAt, hs]
      exact decide_eq_true (verdict_eq_settle.mpr ⟨hlate, .inl ⟨hpending, hfound⟩⟩)
  · rintro ⟨hash, hsettled, hsettles⟩
    unfold settledAt at hsettled
    unfold settlesAt at hsettles
    cases hs : p.vaaSignatures.lookup hash with
    | none =>
      rw [hs] at hsettled
      cases hsettled
    | some s =>
      rw [hs] at hsettled hsettles
      obtain ⟨hlate, ⟨hpending, hfound⟩ | ⟨-, hnot⟩⟩ := verdict_eq_settle.mp (of_decide_eq_true hsettles)
      · exact ⟨hash, s, hs, hsettled, hpending, hlate, hfound⟩
      · exact absurd (hnot.symm.trans hsettled) Bool.false_ne_true

end Cleanup

/-! ## One step -/

/-- The count is 1 for a settled entry and 0 for any other. -/
def Counted.Agrees (c : Counted) : Prop := ∀ hash, c.count hash = (settledAt c.node hash).toNat

section Step

variable {c c' : Counted} {hash : List UInt8}

theorem settledAt_eq_false (h : hash ∉ p.vaaSignatures) : settledAt p hash = false := by
  rw [settledAt, AList.lookup_eq_none.mpr h]

/-- The count of an entry that is still there. -/
theorem after_count (hmem : hash ∈ p'.vaaSignatures) :
    (c.after p').count hash = c.count hash + (settledBetween c.node p').count hash := if_pos hmem

theorem after_count_gone (hmem : hash ∉ p'.vaaSignatures) : (c.after p').count hash = 0 := if_neg hmem

/-- A step that settles nothing. -/
theorem KeepsMarks.agrees (h : KeepsMarks c.node p') (hc : c.Agrees) : (c.after p').Agrees := by
  intro hash
  by_cases hmem : hash ∈ p'.vaaSignatures
  · have hnone : settledBetween c.node p' = [] := by
      rw [settledBetween, h.settlements, List.drop_length]
      rfl
    rw [after_count hmem, hnone, List.count_nil, hc hash]
    exact congrArg Bool.toNat (h.settled hash).symm
  · rw [after_count_gone hmem]
    exact (congrArg Bool.toNat (settledAt_eq_false hmem)).symm

/-- The count of an entry after a cleanup. -/
theorem cleanup_count {order : List (List UInt8)} {now : Int} {fails : List UInt8 → Bool}
    (horder : order.Perm c.node.vaaSignatures.keys) (h : handleCleanup c.node order now fails = .ok p')
    (hmem : hash ∈ p'.vaaSignatures) :
    (c.after p').count hash = c.count hash + (settlesAt c.node now fails hash).toNat := by
  have hnodup := nodup_order horder
  have hsettlements := handleCleanup_settlements hnodup h
  have hbetween : settledBetween c.node p' = order.filter (settlesAt c.node now fails) := by
    rw [settledBetween, List.map_drop, hsettlements, List.drop_left' (List.length_map _)]
  rw [after_count hmem, hbetween]
  congr 1
  cases hsettles : settlesAt c.node now fails hash with
  | false =>
    apply List.count_eq_zero.mpr
    intro hin
    have htrue := (List.mem_filter.mp hin).2
    rw [hsettles] at htrue
    cases htrue
  | true =>
    apply List.count_eq_one_of_mem (hnodup.filter _)
    apply List.mem_filter.mpr
    refine ⟨?_, hsettles⟩
    -- an entry that would be settled is there, and is visited
    unfold settlesAt at hsettles
    split at hsettles
    · rename_i s hs
      exact mem_order horder hs
    · cases hsettles

/-- The mark of an entry that is left by a cleanup. -/
theorem cleanup_settledAt {order : List (List UInt8)} {now : Int} {fails : List UInt8 → Bool}
    (horder : order.Perm p.vaaSignatures.keys) (h : handleCleanup p order now fails = .ok p')
    (hmem : hash ∈ p'.vaaSignatures) :
    settledAt p' hash = (settledAt p hash || settlesAt p now fails hash) := by
  have hticked := handleCleanup_eq_ok (nodup_order horder) h
  obtain ⟨s', hs'⟩ := Option.isSome_iff_exists.mp (AList.lookup_isSome.mpr hmem)
  cases hs : p.vaaSignatures.lookup hash with
  | none =>
    rw [hticked.others hash (.inr hs), hs] at hs'
    cases hs'
  | some s =>
    obtain ⟨hentry, -⟩ := hticked.visited hash s (mem_order horder hs) hs
    rw [hs'] at hentry
    unfold settledAt settlesAt
    rw [hs, hs']
    exact after_settled hentry.symm

/-- An entry that a cleanup settles stays. -/
theorem mem_of_settlesAt {order : List (List UInt8)} {now : Int} {fails : List UInt8 → Bool}
    (horder : order.Perm p.vaaSignatures.keys) (h : handleCleanup p order now fails = .ok p')
    (hsettles : settlesAt p now fails hash = true) : hash ∈ p'.vaaSignatures := by
  unfold settlesAt at hsettles
  split at hsettles
  · rename_i s hs
    obtain ⟨hentry, -⟩ :=
      (handleCleanup_eq_ok (nodup_order horder) h).visited hash s (mem_order horder hs) hs
    rw [of_decide_eq_true hsettles] at hentry
    apply AList.lookup_isSome.mp
    rw [hentry]
    rfl
  · cases hsettles

/-- **One step.** The counts stay at most 1 exactly if no entry is settled again, and then they are the
marks. -/
theorem Counted.step_iff {input : Input} (hc : c.Agrees) (hadmissible : input.Admissible c.node)
    (h : c.step crypto gk input = some c') :
    (c'.AtMostOnce ↔ ¬SettlesAgain c.node input) ∧ (c'.AtMostOnce → c'.Agrees) := by
  obtain ⟨p', hp', rfl⟩ := Option.map_eq_some_iff.mp h
  have hhandle := step_eq_some.mp hp'
  have hle : ∀ d : Counted, d.Agrees → d.AtMostOnce := by
    intro d hd hash
    rw [hd hash]
    exact Bool.toNat_le _
  by_cases hcleanup : ∃ order now fails, input = .cleanup order now fails
  · obtain ⟨order, now, fails, rfl⟩ := hcleanup
    have hagrees : ¬SettlesAgain c.node (.cleanup order now fails) → (c.after p').Agrees := by
      intro hnot hash
      by_cases hmem : hash ∈ p'.vaaSignatures
      · have hmark : settledAt p' hash = _ := cleanup_settledAt hadmissible hhandle hmem
        rw [cleanup_count hadmissible hhandle hmem, hc hash]
        show _ = (settledAt p' hash).toNat
        rw [hmark]
        cases hsettled : settledAt c.node hash with
        | false => simp
        | true =>
          cases hsettles : settlesAt c.node now fails hash with
          | false => simp
          | true => exact absurd (settlesAgain_iff.mpr ⟨hash, hsettled, hsettles⟩) hnot
      · rw [after_count_gone hmem]
        exact (congrArg Bool.toNat (settledAt_eq_false hmem)).symm
    have hiff : (c.after p').AtMostOnce ↔ ¬SettlesAgain c.node (.cleanup order now fails) := by
      refine ⟨?_, fun hnot => hle _ (hagrees hnot)⟩
      intro honce hagain
      obtain ⟨hash, hsettled, hsettles⟩ := settlesAgain_iff.mp hagain
      have hcount := cleanup_count hadmissible hhandle (mem_of_settlesAt hadmissible hhandle hsettles)
      rw [hc hash, hsettled, hsettles] at hcount
      have := honce hash
      rw [hcount] at this
      exact absurd this (by decide)
    exact ⟨hiff, fun honce => hagrees (hiff.mp honce)⟩
  · have hkeeps := handle_keepsMarks hhandle fun order now fails heq => hcleanup ⟨order, now, fails, heq⟩
    have hagrees := hkeeps.agrees hc
    refine ⟨iff_of_true (hle _ hagrees) ?_, fun _ => hagrees⟩
    cases input with
    | cleanup order now fails => exact absurd ⟨order, now, fails, rfl⟩ hcleanup
    | guardianSet _ | message _ _ _ | injection _ _ | observation _ _ _ | inbound _ _ => exact id

end Step

/-! ## Runs -/

theorem Counted.start_agrees (db : Database) : (Counted.start db).Agrees := by
  intro hash
  have hempty : settledAt (newProcessor db) hash = false := by
    rw [settledAt, newProcessor, AList.lookup_empty]
  exact (congrArg Bool.toNat hempty).symm

/-- **Settlements, exactly.** In every run of events from start-up, every entry is settled at most once if and
only if no cleanup comes upon a settled observation of our own that is not submitted and older than the
settlement time, and does not find its VAA. -/
theorem settled_once_iff (crypto : Crypto) (gk : GuardianKey) (db : Database) (inputs : List Input)
    (c : Counted) (hadmissible : Along (Counted.step crypto gk) (fun c input => input.Admissible c.node)
      (Counted.start db) inputs)
    (hrun : inputs.foldlM (Counted.step crypto gk) (Counted.start db) = some c) :
    Along (Counted.step crypto gk)
        (fun c input => ∀ c', c.step crypto gk input = some c' → c'.AtMostOnce) (Counted.start db) inputs ↔
      Along (Counted.step crypto gk) (fun c input => ¬SettlesAgain c.node input) (Counted.start db) inputs := by
  refine along_iff_of_ok (Counted.start_agrees db) hadmissible ?_ hrun
  intro c input c' hc hok hstep
  obtain ⟨hiff, hkeep⟩ := Counted.step_iff hc hok hstep
  constructor
  · rw [← hiff]
    refine ⟨fun h => h c' hstep, ?_⟩
    intro h t ht
    rwa [← Option.some.inj (hstep.symm.trans ht)]
  · exact fun h => hkeep (h c' hstep)

/-! ## Inputs -/

/-- A guardian set, an observation of our own, and cleanups after 31 and 61 seconds. -/
def unsignedInputs : List Input :=
  [.guardianSet sampleGuardians, .message sampleMessage 0 false,
    .cleanup [sampleDigest] (31 * second) fun _ => false, .cleanup [sampleDigest] (61 * second) fun _ => false]

instance (p : Aggregator) (input : Input) : Decidable (input.Admissible p) :=
  match input with
  | .guardianSet _ => inferInstanceAs (Decidable (_ ∧ _))
  | .cleanup _ _ _ => inferInstanceAs (Decidable (List.Perm _ _))
  | .message _ _ _ | .injection _ _ | .observation _ _ _ | .inbound _ _ => isTrue trivial

/-- **An entry settled twice.** The second cleanup settles it again. -/
theorem unsigned_settledTwice :
    ¬∀ (crypto : Crypto) (gk : GuardianKey) (db : Database) (inputs : List Input) (c : Counted),
      Along (Counted.step crypto gk) (fun c input => input.Admissible c.node) (Counted.start db) inputs →
      inputs.foldlM (Counted.step crypto gk) (Counted.start db) = some c → c.AtMostOnce := by
  intro h
  have hcount : (unsignedInputs.foldlM (Counted.step Crypto.sample sampleGuardianKey)
      (Counted.start fun _ => none)).map (fun c => c.count sampleDigest) = some 2 := by decide +kernel
  obtain ⟨c, hrun, hcount⟩ := Option.map_eq_some_iff.mp hcount
  have honce := h Crypto.sample sampleGuardianKey (fun _ => none) unsignedInputs c (by decide +kernel) hrun
    sampleDigest
  rw [hcount] at honce
  exact absurd honce (by decide)

/-- The other guardians sign before the first cleanup: the VAA is submitted. -/
def signedInputs : List Input :=
  [.guardianSet sampleGuardians, .message sampleMessage 0 false] ++
    ([0, 1, 2].map fun i => .observation (observationOf i) second false) ++
    [.cleanup [sampleDigest] (31 * second) fun _ => false, .cleanup [sampleDigest] (61 * second) fun _ => false]

theorem mem_keys_of_settledAt {hash : List UInt8} (h : settledAt p hash = true) : hash ∈ p.vaaSignatures.keys := by
  unfold settledAt at h
  split at h
  · rename_i s hs
    exact AList.mem_keys.mp (AList.lookup_isSome.mp (by rw [hs]; rfl))
  · cases h

/-- Whether an entry is settled again can be checked on the entries that there are. -/
theorem settlesAgain_iff_keys (p : Aggregator) (order : List (List UInt8)) (now : Int) (fails : List UInt8 → Bool) :
    (∃ hash ∈ p.vaaSignatures.keys, settledAt p hash = true ∧ settlesAt p now fails hash = true) ↔
      SettlesAgain p (.cleanup order now fails) := by
  refine Iff.trans (exists_congr fun hash => ?_) settlesAgain_iff.symm
  exact and_iff_right_of_imp fun h => mem_keys_of_settledAt h.1

instance (p : Aggregator) (input : Input) : Decidable (SettlesAgain p input) :=
  match input with
  | .cleanup order now fails => decidable_of_iff _ (settlesAgain_iff_keys p order now fails)
  | .guardianSet _ => isFalse id
  | .message _ _ _ => isFalse id
  | .injection _ _ => isFalse id
  | .observation _ _ _ => isFalse id
  | .inbound _ _ => isFalse id

/-- A submitted entry is settled by the first cleanup, and by no other. -/
theorem signed_settledOnce : ∃ c,
    signedInputs.foldlM (Counted.step Crypto.sample sampleGuardianKey) (Counted.start fun _ => none) = some c ∧
    c.count sampleDigest = 1 ∧
    Along (Counted.step Crypto.sample sampleGuardianKey)
      (fun c input => ∀ c', c.step Crypto.sample sampleGuardianKey input = some c' → c'.AtMostOnce)
      (Counted.start fun _ => none) signedInputs := by
  have hcount : (signedInputs.foldlM (Counted.step Crypto.sample sampleGuardianKey)
      (Counted.start fun _ => none)).map (fun c => c.count sampleDigest) = some 1 := by decide +kernel
  have hagain : Along (Counted.step Crypto.sample sampleGuardianKey) (fun c input => ¬SettlesAgain c.node input)
      (Counted.start fun _ => none) signedInputs := by decide +kernel
  obtain ⟨c, hrun, hcount⟩ := Option.map_eq_some_iff.mp hcount
  exact ⟨c, hrun, hcount,
    (settled_once_iff Crypto.sample sampleGuardianKey (fun _ => none) _ c (by decide +kernel) hrun).mpr hagain⟩

end Wormhole.Guardian

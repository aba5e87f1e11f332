/-
# Wormhole.Guardian.Cleanup — what the periodic cleanup does to an entry.

`handleCleanup` (`node/pkg/processor/cleanup.go`) is a switch over the age, the flags and the retries of
an entry.  `verdict` is that switch, free of the processor: an entry is kept, deleted, settled or sent
again.  Its first case takes every entry of our own that is not submitted once the settlement time has
passed, and falls through to the settlement when the store has no VAA for it.  So the cases behind it,
which send our message again or give it up, are never reached for such an entry: `cleanup_rule_iff` says
that the rule of the cleanup holds of an entry at a tick exactly when it is not held up by a settlement,
and that an entry goes away in a bounded number of ticks exactly when it is not one of those.
-/
import Mathlib
import Wormhole.Lib.Go
import Wormhole.Lib.Transition
import Wormhole.Guardian.Aggregation
import Wormhole.Guardian.SubmittedVaa

namespace Wormhole.Guardian

open Wormhole.Lib Wormhole.Lib.Bytes Wormhole.Lib.Transition

/-! ## The switch -/

/-- What a visit does with an entry. -/
inductive Verdict where
  | keep
  | expire
  | settle
  /-- send our message again; an entry without one is given up -/
  | retransmit
  deriving DecidableEq

namespace VaaState

/-- Our own observation, not submitted. -/
def Pending (s : VaaState) : Prop := s.ourVAA.isSome ∧ s.submitted = false

instance (s : VaaState) : Decidable s.Pending := inferInstanceAs (Decidable (_ ∧ _))

/-- The retries are exhausted. -/
abbrev AtLimit (s : VaaState) : Prop :=
  (s.ourMsg.isSome ∧ 14400 ≤ s.retryCount) ∨ (s.ourMsg.isNone ∧ 10 ≤ s.retryCount)

end VaaState

/-- The switch of `handleCleanup`; `found` tells whether the lookup of the entry's VAA finds it. -/
def verdict (s : VaaState) (delta : Int) (found : Bool) : Verdict :=
  if s.Pending ∧ settlementTime < delta then if found then .expire else .settle
  else if s.settled = false ∧ settlementTime < delta then .settle
  else if s.submitted = true ∧ 3600 * second ≤ delta then .expire
  else if s.submitted = false ∧ s.AtLimit then .expire
  else if s.submitted = false ∧ 300 * second ≤ delta then .retransmit
  else .keep

/-- The entry after the visit. -/
def VaaState.after (s : VaaState) : Verdict → Option VaaState
  | .keep => some s
  | .expire => none
  | .settle => some { s with settled := true }
  | .retransmit => s.ourMsg.map fun _ => { s with retryCount := s.retryCount + 1 }

/-- Whether the lookup of the entry's VAA finds it; without a VAA there is no lookup. -/
def found (p : Aggregator) (s : VaaState) (fails : Bool) : Bool :=
  match s.ourVAA with
  | some v =>
    match getSignedVAABytes p.db (vaaIDFromVAA v) fails with
    | .found _ => true
    | _ => false
  | none => false

/-- The processor executes a verdict. -/
def execute (p : Aggregator) (hash : List UInt8) (s : VaaState) : Verdict → Go Aggregator
  | .keep => .ok p
  | .expire => .ok (p.expire hash)
  | .settle => settle p hash s
  | .retransmit => retransmit p hash s

theorem found_eq_true {p : Aggregator} {s : VaaState} {fails : Bool} :
    found p s fails = true ↔
      ∃ v b, s.ourVAA = some v ∧ getSignedVAABytes p.db (vaaIDFromVAA v) fails = .found b := by
  unfold found
  cases s.ourVAA with
  | none => simp
  | some v =>
    dsimp only
    cases hlookup : getSignedVAABytes p.db (vaaIDFromVAA v) fails <;> simp [hlookup]

theorem cleanupRest_eq (p : Aggregator) (hash : List UInt8) {s : VaaState} {delta : Int} {found : Bool}
    (h : ¬(s.Pending ∧ settlementTime < delta)) :
    cleanupRest p hash s delta = execute p hash s (verdict s delta found) := by
  rw [verdict, if_neg h, cleanupRest]
  by_cases hsettle : s.settled = false ∧ settlementTime < delta
  · rw [if_pos hsettle, if_pos hsettle]
    rfl
  rw [if_neg hsettle, if_neg hsettle]
  by_cases hsubmitted : s.submitted = true ∧ 3600 * second ≤ delta
  · rw [if_pos hsubmitted, if_pos hsubmitted]
    rfl
  rw [if_neg hsubmitted, if_neg hsubmitted]
  by_cases hlimit : s.submitted = false ∧ s.AtLimit
  · rw [if_pos hlimit, if_pos hlimit]
    rfl
  rw [if_neg hlimit, if_neg hlimit]
  by_cases hretry : s.submitted = false ∧ 300 * second ≤ delta
  · rw [if_pos hretry, if_pos hretry]
    rfl
  · rw [if_neg hretry, if_neg hretry]
    rfl

/-- **A visit executes the verdict.** -/
theorem cleanupEntry_eq (p : Aggregator) (hash : List UInt8) (s : VaaState) (now : Int) (fails : Bool) :
    cleanupEntry p hash s now fails =
      execute p hash s (verdict s (now - s.firstObserved) (found p s fails)) := by
  unfold cleanupEntry
  dsimp only
  split
  · rename_i v hv
    split
    · rename_i hpending
      have hpending' : s.Pending ∧ settlementTime < now - s.firstObserved :=
        ⟨⟨by rw [hv]; rfl, hpending.1⟩, hpending.2⟩
      rw [verdict, if_pos hpending']
      cases hlookup : getSignedVAABytes p.db (vaaIDFromVAA v) fails with
      | found b =>
        rw [if_pos (found_eq_true.mpr ⟨v, b, hv, hlookup⟩)]
        rfl
      | ErrVAANotFound | failed =>
        rw [if_neg fun h => by simp [found, hv, hlookup] at h]
        rfl
    · rename_i hpending
      exact cleanupRest_eq p hash fun h => hpending ⟨h.1.2, h.2⟩
  · rename_i hv
    exact cleanupRest_eq p hash fun h => by simp [VaaState.Pending, hv] at h

/-! ## A tick -/

variable {p p' : Aggregator} {hash : List UInt8} {s : VaaState}

/-- The message was sent on the way. -/
def Resent (p p' : Aggregator) (msg : GossipMessage) : Prop :=
  ∃ sent, p'.sendC = p.sendC ++ sent ∧ msg ∈ sent

/-- What the visit of an entry does to the processor. -/
structure Executes (p p' : Aggregator) (hash : List UInt8) (s : VaaState) (v : Verdict) : Prop where
  gs : p'.gs = p.gs
  db : p'.db = p.db
  sendC : ∃ sent, p'.sendC = p.sendC ++ sent
  resent : v = .retransmit → ∀ msg, s.ourMsg = some msg → Resent p p' msg
  entry : p'.vaaSignatures.lookup hash = s.after v
  others : ∀ hash', hash' ≠ hash → p'.vaaSignatures.lookup hash' = p.vaaSignatures.lookup hash'

theorem Executes.of_expire (p : Aggregator) (hash : List UInt8) {s : VaaState} {v : Verdict}
    (hv : v ≠ .retransmit ∨ s.ourMsg = none) (hafter : s.after v = none) :
    Executes p (p.expire hash) hash s v where
  gs := rfl
  db := rfl
  sendC := ⟨[], (List.append_nil _).symm⟩
  resent := by
    intro heq msg hmsg
    rcases hv with hne | hnone
    · exact absurd heq hne
    · rw [hnone] at hmsg
      cases hmsg
  entry := by
    rw [hafter]
    exact AList.lookup_erase _ _
  others := fun _ hne => AList.lookup_erase_ne hne

theorem execute_eq_ok {v : Verdict} (hs : p.vaaSignatures.lookup hash = some s)
    (h : execute p hash s v = .ok p') : Executes p p' hash s v := by
  cases v with
  | keep =>
    rw [← Go.ok.inj h]
    exact ⟨rfl, rfl, ⟨[], (List.append_nil _).symm⟩, nofun, hs, fun _ _ => rfl⟩
  | expire =>
    rw [← Go.ok.inj h]
    exact .of_expire p hash (.inl nofun) rfl
  | settle =>
    simp only [execute, settle] at h
    split at h
    · cases h
    · rw [← Go.ok.inj h]
      exact ⟨rfl, rfl, ⟨[], (List.append_nil _).symm⟩, nofun, AList.lookup_insert _,
        fun _ hne => AList.lookup_insert_ne hne⟩
  | retransmit =>
    simp only [execute, retransmit] at h
    split at h
    · rename_i msg hmsg
      rw [← Go.ok.inj h]
      refine ⟨rfl, rfl, ⟨[msg], rfl⟩, ?_, ?_, fun _ hne => AList.lookup_insert_ne hne⟩
      · intro _ msg' hmsg'
        obtain rfl : msg = msg' := Option.some.inj (hmsg.symm.trans hmsg')
        exact ⟨[msg], rfl, by simp⟩
      · rw [VaaState.after, hmsg]
        exact AList.lookup_insert _
    · rename_i hmsg
      split at h
      · cases h
      · rw [← Go.ok.inj h]
        refine .of_expire p hash (.inr hmsg) ?_
        rw [VaaState.after, hmsg]
        rfl

/-- With a guardian set no visit panics. -/
theorem execute_isOk (hgs : p.gs.isSome) (v : Verdict) : (execute p hash s v).IsOk := by
  obtain ⟨gs, hgs⟩ := Option.isSome_iff_exists.mp hgs
  cases v with
  | keep => exact ⟨_, rfl⟩
  | expire => exact ⟨_, rfl⟩
  | settle =>
    simp only [execute, settle, hgs]
    cases s.gs <;> exact ⟨_, rfl⟩
  | retransmit =>
    simp only [execute, retransmit, hgs]
    cases s.ourMsg <;> exact ⟨_, rfl⟩

/-- What a tick does: every entry in the order of the visit meets its verdict, and nothing else
changes. -/
structure Ticked (p p' : Aggregator) (order : List (List UInt8)) (now : Int)
    (fails : List UInt8 → Bool) : Prop where
  gs : p'.gs = p.gs
  db : p'.db = p.db
  sendC : ∃ sent, p'.sendC = p.sendC ++ sent
  visited : ∀ hash s, hash ∈ order → p.vaaSignatures.lookup hash = some s →
    p'.vaaSignatures.lookup hash =
      s.after (verdict s (now - s.firstObserved) (found p s (fails hash))) ∧
    (verdict s (now - s.firstObserved) (found p s (fails hash)) = .retransmit →
      ∀ msg, s.ourMsg = some msg → Resent p p' msg)
  others : ∀ hash, hash ∉ order ∨ p.vaaSignatures.lookup hash = none →
    p'.vaaSignatures.lookup hash = p.vaaSignatures.lookup hash

theorem found_congr {q : Aggregator} (h : q.db = p.db) (s : VaaState) (fails : Bool) :
    found q s fails = found p s fails := by
  unfold found
  rw [h]

/-- One visit, of an entry that may have gone. -/
theorem visit_cases {now : Int} {fails : Bool}
    (h : (match p.vaaSignatures.lookup hash with
      | some s => cleanupEntry p hash s now fails
      | none => .ok p) = .ok p') :
    (p.vaaSignatures.lookup hash = none ∧ p' = p) ∨ ∃ s, p.vaaSignatures.lookup hash = some s ∧
      Executes p p' hash s (verdict s (now - s.firstObserved) (found p s fails)) := by
  split at h
  · rename_i s hs
    rw [cleanupEntry_eq] at h
    exact .inr ⟨s, hs, execute_eq_ok hs h⟩
  · rename_i hnone
    exact .inl ⟨hnone, (Go.ok.inj h).symm⟩

/-- **A tick**, by induction on the order of the visit: a visit does not touch the other entries, nor
what their verdicts depend on. -/
theorem handleCleanup_eq_ok {order : List (List UInt8)} {now : Int} {fails : List UInt8 → Bool}
    (hnodup : order.Nodup) (h : handleCleanup p order now fails = .ok p') :
    Ticked p p' order now fails := by
  induction order generalizing p with
  | nil =>
    rw [← Go.ok.inj h]
    exact ⟨rfl, rfl, ⟨[], (List.append_nil _).symm⟩, nofun, fun _ _ => rfl⟩
  | cons first order ih =>
    obtain ⟨hfirst, hnodup⟩ := List.nodup_cons.mp hnodup
    unfold handleCleanup at h
    rw [List.foldlM_cons] at h
    obtain ⟨q, hvisit, hrest⟩ := Go.bind_eq_ok.mp h
    have htail : Ticked q p' order now fails := ih hnodup hrest
    rcases visit_cases hvisit with ⟨hnone, rfl⟩ | ⟨s, hs, hexecutes⟩
    · refine ⟨htail.gs, htail.db, htail.sendC, ?_, ?_⟩
      · intro hash s hmem hlookup
        rcases List.mem_cons.mp hmem with rfl | hmem
        · rw [hnone] at hlookup
          cases hlookup
        · exact htail.visited hash s hmem hlookup
      · intro hash hhash
        refine htail.others hash (hhash.imp_left ?_)
        intro hout hmem
        exact hout (List.mem_cons_of_mem _ hmem)
    · obtain ⟨sent, hsent⟩ := hexecutes.sendC
      obtain ⟨sent', hsent'⟩ := htail.sendC
      have hboth : p'.sendC = p.sendC ++ (sent ++ sent') := by
        rw [hsent', hsent, List.append_assoc]
      refine ⟨htail.gs.trans hexecutes.gs, htail.db.trans hexecutes.db, ⟨_, hboth⟩, ?_, ?_⟩
      · intro hash s' hmem hlookup
        by_cases hhash : hash = first
        · subst hhash
          obtain rfl : s = s' := Option.some.inj (hs.symm.trans hlookup)
          rw [htail.others hash (.inl hfirst), hexecutes.entry]
          refine ⟨rfl, ?_⟩
          intro hretransmit msg hmsg
          obtain ⟨sent₁, hsent₁, hmem₁⟩ := hexecutes.resent hretransmit msg hmsg
          refine ⟨sent₁ ++ sent', ?_, List.mem_append_left _ hmem₁⟩
          rw [hsent', hsent₁, List.append_assoc]
        · have hmem : hash ∈ order := (List.mem_cons.mp hmem).resolve_left hhash
          have hlookup' : q.vaaSignatures.lookup hash = some s' := by
            rw [hexecutes.others hash hhash, hlookup]
          obtain ⟨hentry, hresent⟩ := htail.visited hash s' hmem hlookup'
          rw [found_congr hexecutes.db] at hentry hresent
          refine ⟨hentry, ?_⟩
          intro hretransmit msg hmsg
          obtain ⟨sent₁, hsent₁, hmem₁⟩ := hresent hretransmit msg hmsg
          refine ⟨sent ++ sent₁, ?_, List.mem_append_right _ hmem₁⟩
          rw [hsent₁, hsent, List.append_assoc]
      · intro hash hhash
        have hne : hash ≠ first := by
          rintro rfl
          rcases hhash with hout | hnone
          · exact hout List.mem_cons_self
          · rw [hs] at hnone
            cases hnone
        have hsame := hexecutes.others hash hne
        rw [← hsame]
        refine htail.others hash (hhash.imp ?_ ?_)
        · intro hout hmem
          exact hout (List.mem_cons_of_mem _ hmem)
        · intro hnone
          rw [hsame, hnone]

/-- With a guardian set a tick returns. -/
theorem handleCleanup_isOk (hgs : p.gs.isSome) (order : List (List UInt8)) (now : Int)
    (fails : List UInt8 → Bool) : (handleCleanup p order now fails).IsOk := by
  induction order generalizing p with
  | nil => exact ⟨p, rfl⟩
  | cons first order ih =>
    unfold handleCleanup
    rw [List.foldlM_cons]
    -- the first visit returns, with the same guardian set
    have hvisit : ∃ q, (match p.vaaSignatures.lookup first with
        | some s => cleanupEntry p first s now (fails first)
        | none => .ok p) = .ok q := by
      split
      · rw [cleanupEntry_eq]
        exact execute_isOk hgs _
      · exact ⟨p, rfl⟩
    obtain ⟨q, hq⟩ := hvisit
    refine Go.isOk_bind.mpr ⟨q, hq, ih ?_⟩
    rcases visit_cases hq with ⟨-, rfl⟩ | ⟨s, -, hexecutes⟩
    · exact hgs
    · rw [hexecutes.gs]
      exact hgs

/-! ## The rule of the cleanup -/

section Rule

variable (p p' : Aggregator) (hash : List UInt8) (s : VaaState) (delta : Int)

/-- The store has a VAA for our observation. -/
def QuorumStored : Prop := ∃ v, s.ourVAA = some v ∧ p.db (vaaIDFromVAA v).bytes ≠ none

/-- Our message has to be sent again. -/
def RetryDue : Prop :=
  s.ourMsg.isSome ∧ s.submitted = false ∧ 300 * second ≤ delta ∧ ¬QuorumStored p s ∧
    s.retryCount < 14400

/-- Expired: submitted and an hour old, or not ours and five minutes old. -/
def Expired : Prop :=
  (s.submitted = true ∧ 3600 * second ≤ delta) ∨
    (s.submitted = false ∧ s.ourMsg = none ∧ 300 * second ≤ delta)

/-- Something has to happen to the entry. -/
def Due : Prop := RetryDue p s delta ∨ (s.submitted = false ∧ s.AtLimit) ∨ Expired s delta

/-- **The rule**, for one entry at one tick. -/
structure RuleHolds : Prop where
  resend : RetryDue p s delta →
    p'.vaaSignatures.lookup hash = some { s with retryCount := s.retryCount + 1 } ∧
      ∀ msg, s.ourMsg = some msg → Resent p p' msg
  limit : s.submitted = false → s.AtLimit → p'.vaaSignatures.lookup hash = none
  expired : Expired s delta → p'.vaaSignatures.lookup hash = none

/-- The visit settles the entry instead: it is our own, not submitted and its VAA is not found, or it is
not settled yet. -/
def HeldUp (found : Bool) : Prop :=
  settlementTime < delta ∧ ((s.Pending ∧ found = false) ∨ (¬s.Pending ∧ s.settled = false))

end Rule

theorem verdict_eq_settle {s : VaaState} {delta : Int} {found : Bool} :
    verdict s delta found = .settle ↔ HeldUp s delta found := by
  -- the cases behind the settlement
  have hrest : (if s.submitted = true ∧ 3600 * second ≤ delta then Verdict.expire
      else if s.submitted = false ∧ s.AtLimit then .expire
      else if s.submitted = false ∧ 300 * second ≤ delta then .retransmit
      else .keep) ≠ .settle := by
    split_ifs <;> nofun
  unfold verdict HeldUp
  by_cases hdelta : settlementTime < delta
  · by_cases hpending : s.Pending
    · cases found <;> simp [hdelta, hpending]
    · by_cases hsettled : s.settled = false
      · simp [hdelta, hpending, hsettled]
      · rw [if_neg fun h => hpending h.1, if_neg fun h => hsettled h.1]
        simp [hrest, hpending, hsettled]
  · rw [if_neg fun h => hdelta h.2, if_neg fun h => hdelta h.2]
    simp [hrest, hdelta]

theorem settlementTime_lt {delta : Int} (h : 300 * second ≤ delta) : settlementTime < delta := by
  unfold settlementTime second at *
  omega

theorem quorumStored_of_found {fails : Bool} (h : found p s fails = true) : QuorumStored p s := by
  obtain ⟨v, b, hv, hlookup⟩ := found_eq_true.mp h
  refine ⟨v, hv, ?_⟩
  intro hnone
  unfold getSignedVAABytes at hlookup
  split at hlookup
  · cases hlookup
  · rw [hnone] at hlookup
    cases hlookup

/-- The verdict on an entry whose message is due. -/
theorem verdict_of_retryDue {delta : Int} {fails : Bool} (h : RetryDue p s delta)
    (hfree : ¬HeldUp s delta (found p s fails)) :
    verdict s delta (found p s fails) = .retransmit := by
  obtain ⟨hmsg, hsubmitted, hage, hstored, hcount⟩ := h
  have hlate := settlementTime_lt hage
  have hfound : found p s fails = false := by
    cases hfound : found p s fails with
    | false => rfl
    | true => exact absurd (quorumStored_of_found hfound) hstored
  have hpending : ¬s.Pending := fun hpending => hfree ⟨hlate, .inl ⟨hpending, hfound⟩⟩
  have hsettled : ¬s.settled = false := fun hsettled => hfree ⟨hlate, .inr ⟨hpending, hsettled⟩⟩
  have hlimit : ¬s.AtLimit := by
    rintro (⟨-, hle⟩ | ⟨hnone, -⟩)
    · omega
    · rw [Option.isNone_iff_eq_none] at hnone
      rw [hnone] at hmsg
      cases hmsg
  rw [verdict, if_neg fun h => hpending h.1, if_neg fun h => hsettled h.1,
    if_neg (by simp [hsubmitted]), if_neg fun h => hlimit h.2, if_pos ⟨hsubmitted, hage⟩]

/-- An entry that has to go and is not held up goes. -/
theorem after_of_gone {delta : Int} {found : Bool}
    (h : (s.submitted = false ∧ s.AtLimit) ∨ Expired s delta) (hfree : ¬HeldUp s delta found) :
    s.after (verdict s delta found) = none := by
  unfold verdict
  by_cases hpending : s.Pending ∧ settlementTime < delta
  · cases found with
    | true =>
      rw [if_pos hpending, if_pos rfl]
      rfl
    | false => exact absurd ⟨hpending.2, .inl ⟨hpending.1, rfl⟩⟩ hfree
  · have hsettled : ¬(s.settled = false ∧ settlementTime < delta) := by
      rintro ⟨hsettled, hlate⟩
      exact hfree ⟨hlate, .inr ⟨fun h => hpending ⟨h, hlate⟩, hsettled⟩⟩
    rw [if_neg hpending, if_neg hsettled]
    by_cases hsubmitted : s.submitted = true ∧ 3600 * second ≤ delta
    · rw [if_pos hsubmitted]
      rfl
    rw [if_neg hsubmitted]
    by_cases hlimit : s.submitted = false ∧ s.AtLimit
    · rw [if_pos hlimit]
      rfl
    rw [if_neg hlimit]
    -- what is left is an old entry without a message of our own
    rcases h with h | h | ⟨hunsubmitted, hnone, hage⟩
    · exact absurd h hlimit
    · exact absurd h hsubmitted
    · rw [if_pos ⟨hunsubmitted, hage⟩, VaaState.after, hnone]
      rfl

/-- **The rule at a tick.** It holds of an entry exactly when the entry is not due or not held up by a
settlement. -/
theorem Ticked.ruleHolds_iff {order : List (List UInt8)} {now : Int} {fails : List UInt8 → Bool}
    (h : Ticked p p' order now fails) (hmem : hash ∈ order)
    (hs : p.vaaSignatures.lookup hash = some s) :
    RuleHolds p p' hash s (now - s.firstObserved) ↔
      (Due p s (now - s.firstObserved) →
        ¬HeldUp s (now - s.firstObserved) (found p s (fails hash))) := by
  obtain ⟨hentry, hresent⟩ := h.visited hash s hmem hs
  constructor
  · intro hrule hdue hheld
    rw [verdict_eq_settle.mpr hheld] at hentry
    rcases hdue with hretry | ⟨hsubmitted, hlimit⟩ | hexpired
    · have hcount := (hrule.resend hretry).1
      rw [hentry] at hcount
      have := congrArg VaaState.retryCount (Option.some.inj hcount)
      dsimp only at this
      omega
    · have hgone := hrule.limit hsubmitted hlimit
      rw [hentry] at hgone
      cases hgone
    · have hgone := hrule.expired hexpired
      rw [hentry] at hgone
      cases hgone
  · intro hfree
    refine ⟨?_, ?_, ?_⟩
    · intro hretry
      have hverdict := verdict_of_retryDue hretry (hfree (.inl hretry))
      rw [hverdict] at hentry
      obtain ⟨msg, hmsg⟩ := Option.isSome_iff_exists.mp hretry.1
      refine ⟨?_, hresent hverdict⟩
      rw [hentry, VaaState.after, hmsg]
      rfl
    · intro hsubmitted hlimit
      rw [hentry]
      exact after_of_gone (.inl ⟨hsubmitted, hlimit⟩) (hfree (.inr (.inl ⟨hsubmitted, hlimit⟩)))
    · intro hexpired
      rw [hentry]
      exact after_of_gone (.inr hexpired) (hfree (.inr (.inr hexpired)))

/-! ## Runs of ticks -/

structure Tick where
  order : List (List UInt8)
  now : Int
  fails : List UInt8 → Bool

/-- Ticks with no other event between them; each visits every entry once. -/
inductive Ticks : Aggregator → List Tick → Aggregator → Prop where
  | nil (p : Aggregator) : Ticks p [] p
  | cons {p q p' : Aggregator} {t : Tick} {ts : List Tick} (horder : t.order.Perm p.vaaSignatures.keys)
      (htick : handleCleanup p t.order t.now t.fails = .ok q) (hrest : Ticks q ts p') :
      Ticks p (t :: ts) p'

theorem mem_order {order : List (List UInt8)} (horder : order.Perm p.vaaSignatures.keys)
    (hs : p.vaaSignatures.lookup hash = some s) : hash ∈ order := by
  rw [horder.mem_iff]
  exact AList.mem_keys.mp (AList.lookup_isSome.mp (by rw [hs]; rfl))

theorem nodup_order {order : List (List UInt8)} (horder : order.Perm p.vaaSignatures.keys) :
    order.Nodup := horder.nodup_iff.mpr p.vaaSignatures.nodupKeys

/-- No tick creates an entry. -/
theorem Ticks.lookup_none {ts : List Tick} (h : Ticks p ts p')
    (hnone : p.vaaSignatures.lookup hash = none) : p'.vaaSignatures.lookup hash = none := by
  induction h with
  | nil => exact hnone
  | cons horder htick _ ih =>
    refine ih ?_
    rw [(handleCleanup_eq_ok (nodup_order horder) htick).others hash (.inr hnone), hnone]

/-- An upper bound for the ticks, an hour after the first observation, that an entry lasts. -/
def remaining (s : VaaState) : Nat := (if s.settled then 0 else 1) + (14400 - s.retryCount) + 1

/-- What a visit leaves of an entry. -/
theorem after_eq_some {s' : VaaState} {v : Verdict} (h : s.after v = some s') :
    s'.firstObserved = s.firstObserved ∧ s'.ourVAA = s.ourVAA ∧ s'.submitted = s.submitted := by
  cases v with
  | keep | settle =>
    rw [← Option.some.inj h]
    exact ⟨rfl, rfl, rfl⟩
  | expire => cases h
  | retransmit =>
    obtain ⟨_, -, heq⟩ := Option.map_eq_some_iff.mp h
    rw [← heq]
    exact ⟨rfl, rfl, rfl⟩

/-- A visit that does not settle our pending observation uses up one tick. -/
theorem remaining_lt {s' : VaaState} {delta : Int} {found : Bool} (hage : 3600 * second ≤ delta)
    (hpending : ¬s.Pending) (h : s.after (verdict s delta found) = some s') : remaining s' < remaining s := by
  have hlate : settlementTime < delta := by
    unfold settlementTime second at *
    omega
  have hfive : 300 * second ≤ delta := by
    unfold second at *
    omega
  unfold verdict at h
  rw [if_neg fun h => hpending h.1] at h
  by_cases hsettled : s.settled = false
  · rw [if_pos ⟨hsettled, hlate⟩] at h
    rw [← Option.some.inj h]
    simp [remaining, hsettled]
  rw [if_neg fun h => hsettled h.1] at h
  by_cases hsubmitted : s.submitted = true
  · rw [if_pos ⟨hsubmitted, hage⟩] at h
    cases h
  have hsubmitted' : s.submitted = false := by simpa using hsubmitted
  rw [if_neg fun h => hsubmitted h.1] at h
  by_cases hlimit : s.AtLimit
  · rw [if_pos ⟨hsubmitted', hlimit⟩] at h
    cases h
  · rw [if_neg fun h => hlimit h.2, if_pos ⟨hsubmitted', hfive⟩] at h
    obtain ⟨msg, hmsg, heq⟩ := Option.map_eq_some_iff.mp h
    have hcount : s.retryCount < 14400 := by
      by_contra hle
      exact hlimit (.inl ⟨by rw [hmsg]; rfl, by omega⟩)
    rw [← heq]
    simp only [remaining]
    omega

/-- **An entry that is not our pending observation goes** within `remaining` ticks. -/
theorem Ticks.gone {ts : List Tick} (h : Ticks p ts p') (hs : p.vaaSignatures.lookup hash = some s)
    (hpending : ¬s.Pending) (hage : ∀ t ∈ ts, 3600 * second ≤ t.now - s.firstObserved)
    (hlength : remaining s ≤ ts.length) : p'.vaaSignatures.lookup hash = none := by
  induction h generalizing s with
  | nil =>
    simp only [remaining, List.length_nil] at hlength
    omega
  | @cons p q p' t ts horder htick hrest ih =>
    have hticked := handleCleanup_eq_ok (nodup_order horder) htick
    obtain ⟨hentry, -⟩ := hticked.visited hash s (mem_order horder hs) hs
    have hold := hage t List.mem_cons_self
    cases hafter : s.after (verdict s (t.now - s.firstObserved) (found p s (t.fails hash))) with
    | none => exact hrest.lookup_none (hentry.trans hafter)
    | some s' =>
      obtain ⟨hfirst, hown, hsubmitted⟩ := after_eq_some hafter
      have hless := remaining_lt hold hpending hafter
      simp only [List.length_cons] at hlength
      refine ih (hentry.trans hafter) ?_ ?_ (by omega)
      · unfold VaaState.Pending
        rw [hown, hsubmitted]
        exact hpending
      · intro t' ht'
        rw [hfirst]
        exact hage t' (List.mem_cons_of_mem _ ht')

/-- **Our pending observation** stays as long as no tick finds its VAA, and goes at the first that does. -/
theorem Ticks.pending_iff {ts : List Tick} (h : Ticks p ts p') (hs : p.vaaSignatures.lookup hash = some s)
    (hpending : s.Pending) (hage : ∀ t ∈ ts, settlementTime < t.now - s.firstObserved) :
    p'.vaaSignatures.lookup hash = none ↔ ∃ t ∈ ts, found p s (t.fails hash) = true := by
  induction h generalizing s with
  | nil => simp [hs]
  | @cons p q p' t ts horder htick hrest ih =>
    have hticked := handleCleanup_eq_ok (nodup_order horder) htick
    obtain ⟨hentry, -⟩ := hticked.visited hash s (mem_order horder hs) hs
    rw [verdict, if_pos ⟨hpending, hage t List.mem_cons_self⟩] at hentry
    cases hfound : found p s (t.fails hash) with
    | true =>
      rw [hfound, if_pos rfl] at hentry
      exact iff_of_true (hrest.lookup_none hentry) ⟨t, List.mem_cons_self, hfound⟩
    | false =>
      rw [hfound, if_neg Bool.false_ne_true] at hentry
      rw [ih hentry hpending fun t' ht' => hage t' (List.mem_cons_of_mem _ ht')]
      -- settling the entry does not change what is looked up
      have hsame : ∀ fails, found q { s with settled := true } fails = found p s fails :=
        fun fails => found_congr hticked.db s fails
      simp only [hsame, List.exists_mem_cons_iff, hfound, Bool.false_eq_true, false_or]

theorem remaining_le (s : VaaState) : remaining s ≤ 14402 := by
  unfold remaining
  split <;> omega

/-- **The cleanup, exactly.** A node with a guardian set handles every tick.  At a tick, the rule holds of
an entry if and only if the entry is not due or not held up by a settlement.  After 14402 ticks an hour
or more after its first observation, an entry has gone if and only if it is not our pending observation
or one of the ticks has found its VAA in the store. -/
theorem cleanup_rule_iff (p : Aggregator) :
    (p.gs.isSome → ∀ order now fails, (handleCleanup p order now fails).IsOk) ∧
    (∀ order now fails p', order.Perm p.vaaSignatures.keys →
      handleCleanup p order now fails = .ok p' →
      ∀ hash s, p.vaaSignatures.lookup hash = some s →
        (RuleHolds p p' hash s (now - s.firstObserved) ↔
          (Due p s (now - s.firstObserved) →
            ¬HeldUp s (now - s.firstObserved) (found p s (fails hash))))) ∧
    ∀ ts p', Ticks p ts p' → ∀ hash s, p.vaaSignatures.lookup hash = some s → 14402 ≤ ts.length →
      (∀ t ∈ ts, 3600 * second ≤ t.now - s.firstObserved) →
      (p'.vaaSignatures.lookup hash = none ↔
        ¬s.Pending ∨ ∃ t ∈ ts, found p s (t.fails hash) = true) := by
  refine ⟨fun hgs => handleCleanup_isOk hgs, ?_, ?_⟩
  · intro order now fails p' horder htick hash s hs
    exact (handleCleanup_eq_ok (nodup_order horder) htick).ruleHolds_iff (mem_order horder hs) hs
  · intro ts p' hticks hash s hs hlength hage
    by_cases hpending : s.Pending
    · have hlate : ∀ t ∈ ts, settlementTime < t.now - s.firstObserved := by
        intro t ht
        have := hage t ht
        unfold settlementTime second at *
        omega
      rw [hticks.pending_iff hs hpending hlate]
      simp [hpending]
    · have hle := remaining_le s
      exact iff_of_true (hticks.gone hs hpending hage (by omega)) (.inl hpending)

/-! ## Inputs -/

theorem sampleMessage_txHash_length : (List.replicate 32 (0x0a : UInt8)).length = 32 := rfl

theorem sampleMessage_emitter_length : (List.replicate 32 (0x04 : UInt8)).length = 32 := rfl

/-- A message, as the VAA `sampleInbound` has it. -/
def sampleMessage : MessagePublication where
  txHash := ⟨List.replicate 32 0x0a, sampleMessage_txHash_length⟩
  timestamp := { unix := 1650000000, nanosecond := 0 }
  nonce := 5
  sequence := 42
  consistencyLevel := 15
  emitterChain := 13
  emitterAddress := ⟨List.replicate 32 0x04, sampleMessage_emitter_length⟩
  payload := [0x01]

def sampleDigest : List UInt8 :=
  (signingMsg Crypto.sample (vaaOfMessage sampleGuardians sampleMessage)).val

/-- What the guardian `i` sends about the message. -/
def observationOf (i : UInt8) : SignedObservation where
  Addr := List.replicate 20 i
  Hash := sampleDigest
  Signature := List.replicate 65 i
  TxHash := []
  MessageId := ""

/-- The node has received a set of three guardians, has observed the message at the time 0 and has handled
what followed. -/
def observedNode (inputs : List Input) : Aggregator :=
  attempts (step Crypto.sample sampleGuardianKey) (newProcessor fun _ => none)
    (.guardianSet sampleGuardians :: .message sampleMessage 0 false :: inputs)

/-- The entry of the message was settled after 31 seconds; no other guardian has signed. -/
def settledNode : Aggregator := observedNode [.cleanup [sampleDigest] (31 * second) fun _ => false]

/-- The quorum's VAA was received from the network. -/
def lateNode : Aggregator :=
  observedNode [.inbound (marshal (sampleInbound [0, 1, 2])) { view := false, update := false }]

/-- What the cleanup looks at. -/
def VaaState.summary (s : VaaState) : Int × Bool × Bool × Bool × Bool × Nat :=
  (s.firstObserved, s.ourVAA.isSome, s.submitted, s.settled, s.ourMsg.isSome, s.retryCount)

theorem summary_of_lookup {x : Int × Bool × Bool × Bool × Bool × Nat}
    (h : (p.vaaSignatures.lookup hash).map VaaState.summary = some x) :
    ∃ s, p.vaaSignatures.lookup hash = some s ∧ s.summary = x := Option.map_eq_some_iff.mp h

/-- Ticks of a node without entries. -/
theorem Ticks.idle (h : p.vaaSignatures.keys = []) (now : Int) (fails : List UInt8 → Bool) (n : Nat) :
    Ticks p (List.replicate n ⟨[], now, fails⟩) p := by
  induction n with
  | zero => exact .nil p
  | succ n ih => exact .cons (by rw [h]) rfl ih

/-- A late entry is deleted at the first tick. -/
theorem lateNode_gone : ∃ s p', lateNode.vaaSignatures.lookup sampleDigest = some s ∧
    Ticks lateNode (⟨[sampleDigest], 3600 * second, fun _ => false⟩ ::
      List.replicate 14401 ⟨[], 3600 * second, fun _ => false⟩) p' ∧
    p'.vaaSignatures.lookup sampleDigest = none := by
  obtain ⟨s, hs, hsummary⟩ := summary_of_lookup
    (show (lateNode.vaaSignatures.lookup sampleDigest).map VaaState.summary
      = some (0, true, false, false, true, 0) by decide +kernel)
  have hkeys : lateNode.vaaSignatures.keys = [sampleDigest] := by decide +kernel
  have hfound : (lateNode.vaaSignatures.lookup sampleDigest).map (found lateNode · false)
      = some true := by decide +kernel
  rw [hs] at hfound
  obtain ⟨q, hq⟩ := (cleanup_rule_iff lateNode).1 (by decide +kernel) [sampleDigest] (3600 * second)
    fun _ => false
  have hempty : q.vaaSignatures.keys = [] := by
    have hmap : (handleCleanup lateNode [sampleDigest] (3600 * second) fun _ => false).bind
        (fun q => .ok q.vaaSignatures.keys) = .ok [] := by decide +kernel
    rw [hq] at hmap
    exact Go.ok.inj hmap
  have hticks : Ticks lateNode (⟨[sampleDigest], 3600 * second, fun _ => false⟩ ::
      List.replicate 14401 ⟨[], 3600 * second, fun _ => false⟩) q := by
    refine .cons ?_ hq (.idle hempty _ _ _)
    rw [hkeys]
  refine ⟨s, q, hs, hticks, ?_⟩
  have hlength : 14402 ≤ ((⟨[sampleDigest], 3600 * second, fun _ => false⟩ : Tick) ::
      List.replicate 14401 ⟨[], 3600 * second, fun _ => false⟩).length := by
    rw [List.length_cons, List.length_replicate]
  have hfirst : s.firstObserved = 0 := congrArg Prod.fst hsummary
  refine ((cleanup_rule_iff lateNode).2.2 _ q hticks sampleDigest s hs hlength ?_).mpr
    (.inr ⟨_, List.mem_cons_self, Option.some.inj hfound⟩)
  intro t ht
  rw [hfirst]
  rcases List.mem_cons.mp ht with rfl | ht
  · exact le_of_eq (by ring)
  · rw [List.eq_of_mem_replicate ht]
    exact le_of_eq (by ring)

/-- **A lost message.** Ten minutes after the observation the entry is our own, unsubmitted and settled,
without a VAA in the store; the tick sends nothing, counts nothing and, with all ticks after it, never
deletes it. -/
theorem settledNode_stuck : ∃ s, settledNode.vaaSignatures.lookup sampleDigest = some s ∧
    s.settled = true ∧ RetryDue settledNode s (600 * second - s.firstObserved) ∧
    (∃ p', handleCleanup settledNode [sampleDigest] (600 * second) (fun _ => false) = .ok p' ∧
      ¬RuleHolds settledNode p' sampleDigest s (600 * second - s.firstObserved)) ∧
    ∀ ts p', Ticks settledNode ts p' → (∀ t ∈ ts, settlementTime < t.now) →
      p'.vaaSignatures.lookup sampleDigest ≠ none := by
  obtain ⟨s, hs, hsummary⟩ := summary_of_lookup
    (show (settledNode.vaaSignatures.lookup sampleDigest).map VaaState.summary
      = some (0, true, false, true, true, 0) by decide +kernel)
  simp only [VaaState.summary, Prod.mk.injEq] at hsummary
  obtain ⟨hfirst, hown, hsubmitted, hsettled, hmsg, hcount⟩ := hsummary
  have hstored : ¬QuorumStored settledNode s := by
    have hdb : (settledNode.vaaSignatures.lookup sampleDigest).map (fun s =>
        s.ourVAA.map fun v => settledNode.db (vaaIDFromVAA v).bytes) = some (some none) := by
      decide +kernel
    rw [hs, Option.map_some, Option.some_inj, Option.map_eq_some_iff] at hdb
    obtain ⟨own, hv, hnone⟩ := hdb
    rintro ⟨v, hv', hsome⟩
    obtain rfl : own = v := Option.some.inj (hv.symm.trans hv')
    exact hsome hnone
  have hnotFound : ∀ fails, found settledNode s fails = false := by
    intro fails
    cases hfound : found settledNode s fails with
    | false => rfl
    | true => exact absurd (quorumStored_of_found hfound) hstored
  have hretry : RetryDue settledNode s (600 * second - s.firstObserved) := by
    refine ⟨hmsg, hsubmitted, ?_, hstored, by omega⟩
    rw [hfirst]
    decide
  obtain ⟨p', hp'⟩ := handleCleanup_isOk (p := settledNode) (by decide +kernel) [sampleDigest]
    (600 * second) fun _ => false
  refine ⟨s, hs, hsettled, hretry, ⟨p', hp', ?_⟩, ?_⟩
  · intro hrule
    have hticked := handleCleanup_eq_ok (List.nodup_singleton _) hp'
    refine (hticked.ruleHolds_iff (List.mem_singleton_self _) hs).mp hrule (.inl hretry) ⟨?_, .inl ?_⟩
    · rw [hfirst]
      decide
    · exact ⟨⟨hown, hsubmitted⟩, hnotFound _⟩
  · intro ts p' hticks hlate hnone
    obtain ⟨t, -, hfound⟩ := (hticks.pending_iff hs ⟨hown, hsubmitted⟩ (by simpa [hfirst] using hlate)).mp
      hnone
    rw [hnotFound] at hfound
    cases hfound

end Wormhole.Guardian

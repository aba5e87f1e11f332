/-
# Wormhole.Guardian.LastHeight — the watcher and the validator on a chain without forks.

The two goroutines take turns in any order; the validator handles a part of what the watcher has sent.
On a chain whose blocks all hold watched events, every height is reported finished once, and the heights
of the validator and of the store never go down (`heights_reported_once`).  A pending height without
messages is reported again by every tick that polls, and the validator goes back to it
(`emptyBlock_reported_again`).
-/
import Mathlib
import Wormhole.Lib.Bytes
import Wormhole.Lib.Go
import Wormhole.Lib.SortedMap
import Wormhole.Lib.Transition
import Wormhole.Guardian.AlephiumEvent
import Wormhole.Guardian.Validator
import Wormhole.Guardian.ProcessedHeight
import Wormhole.Guardian.Watcher
import Wormhole.Guardian.ChainView
import Wormhole.Guardian.Confirmations
import Wormhole.Guardian.ForkHandling
import Wormhole.Guardian.Restart

namespace Wormhole.Guardian.Alephium

open Wormhole.Lib Wormhole.Lib.Bytes Wormhole.Lib.Transition

/-! ## Turns -/

/-- The watcher, the validator, and how many notifications the validator has handled. -/
structure Goroutines where
  followed : Nat × Watcher
  handled : Nat
  validator : Validator

inductive Turn where
  | watcher (a : Nat × WatcherStep)
  | validator

def takeTurn (client : Client) (g : Goroutines) : Turn → Option Goroutines
  | .watcher a => (follow g.followed a).map fun p => { g with followed := p }
  | .validator =>
    match g.followed.2.sent[g.handled]? with
    | none => none
    | some confirmed =>
      match round client g.validator confirmed with
      | .ok v => some { g with handled := g.handled + 1, validator := v }
      | _ => none

/-- The heights reported finished. -/
def reported (sent : List ConfirmedMessages) : List Nat :=
  (sent.filter fun c => c.finished && !c.reObserved).map (·.blockHeader.height)

/-- `getLastHeight`. -/
def lastHeight (db : Db) : Option Nat := (db lastBlockHeightKey).map beNat

theorem reported_append (sent new : List ConfirmedMessages) :
    reported (sent ++ new) = reported sent ++ reported new := by
  simp only [reported, List.filter_append, List.map_append]

theorem mem_reported {sent : List ConfirmedMessages} {h : Nat} :
    h ∈ reported sent ↔
      ∃ c ∈ sent, c.finished = true ∧ c.reObserved = false ∧ c.blockHeader.height = h := by
  simp only [reported, List.mem_map, List.mem_filter, Bool.and_eq_true, Bool.not_eq_eq_eq_not,
    Bool.not_true, and_assoc]

/-- Re-observation reports nothing. -/
theorem reObserve_reported (node : FullNode) (w : Watcher) :
    reported (reObserve node w).sent = reported w.sent := by
  unfold reObserve
  split
  · rfl
  · split
    · simp only
      split
      · rfl
      · simp [reported]
    · rfl

/-! ## The heights that a check reports -/

section Check

variable {config : Config} {node : FullNode} {currentHeight : Nat}
  {pendings : List (Nat × PendingMessages)}

/-- Every notification is about the height under which it was pending. -/
def OwnHeights (config : Config) (node : FullNode) (currentHeight : Nat)
    (pendings : List (Nat × PendingMessages)) : Prop :=
  ∀ x ∈ pendings, ∀ remaining confirmed,
    checkHeight config node currentHeight x.1 x.2 = .ok (remaining, confirmed) →
    ∀ c ∈ confirmed, c.blockHeader.height = x.1

theorem checkConfirmations_heights (hown : OwnHeights config node currentHeight pendings) :
    ((checkConfirmations config node currentHeight pendings).2.1.map
      (·.blockHeader.height)).Sublist (pendings.map Prod.fst) := by
  induction pendings with
  | nil => simp [checkConfirmations]
  | cons x pendings ih =>
    obtain ⟨height, pending⟩ := x
    obtain ⟨hx, hrest⟩ := List.forall_mem_cons.mp hown
    rw [checkConfirmations]
    split
    · rename_i remaining confirmed hcheck
      cases confirmed with
      | none => exact (ih hrest).cons _
      | some c =>
        simp only [Option.toList_some, List.cons_append, List.nil_append, List.map_cons]
        rw [hx remaining (some c) hcheck c rfl]
        exact (ih hrest).cons_cons _
    · simp

/-- **No height is reported twice by one check.** -/
theorem checkConfirmations_reported_nodup (hsorted : SortedMap.Sorted pendings)
    (hown : OwnHeights config node currentHeight pendings) :
    (reported (checkConfirmations config node currentHeight pendings).2.1).Nodup :=
  ((List.filter_sublist.map _).trans (checkConfirmations_heights hown)).nodup hsorted.nodup_keys

/-- **What is reported stays pending only when it has no messages.** -/
theorem checkConfirmations_finished (hsorted : SortedMap.Sorted pendings)
    (hown : OwnHeights config node currentHeight pendings) {c : ConfirmedMessages}
    (hc : c ∈ (checkConfirmations config node currentHeight pendings).2.1)
    (hfinished : c.finished = true) {p : PendingMessages}
    (hp : (c.blockHeader.height, p) ∈ (checkConfirmations config node currentHeight pendings).1) :
    ∃ pending, (c.blockHeader.height, pending) ∈ pendings ∧ pending.messages = [] := by
  induction pendings with
  | nil => simp [checkConfirmations] at hc
  | cons x pendings ih =>
    obtain ⟨height, pending⟩ := x
    obtain ⟨hx, hrest⟩ := List.forall_mem_cons.mp hown
    obtain ⟨hlt, hsorted⟩ := List.pairwise_cons.mp hsorted
    have hkeys := (@checkConfirmations_sorted config node currentHeight pendings hsorted).2
    rw [checkConfirmations] at hc hp
    split at hc
    · rename_i remaining confirmed hcheck
      simp only [hcheck] at hp
      rcases List.mem_append.mp hc with hc | hc
      · -- the first height
        have hheight := hx remaining confirmed hcheck c (Option.mem_toList.mp hc)
        rcases List.mem_append.mp hp with hp | hp
        · obtain ⟨p', hp', -⟩ := List.mem_map.mp hp
          have hr := Option.mem_toList.mp hp'
          rcases checkHeight_eq_ok hcheck with ⟨hempty, -⟩ | ⟨-, -, -, hnone⟩ | ⟨-, -, q, -, hsplit⟩
          · exact ⟨pending, hheight ▸ List.mem_cons_self .., hempty⟩
          · rw [hnone] at hc
            cases hc
          · obtain ⟨hremaining, hconfirmed⟩ := hsplit
            rw [hconfirmed] at hc
            obtain rfl := List.mem_singleton.mp hc
            rw [if_pos (of_decide_eq_true hfinished)] at hremaining
            rw [hremaining] at hr
            cases hr
        · obtain ⟨p', hp'⟩ := hkeys _ hp
          exact absurd (hlt _ hp') (by simp [hheight])
      · -- a later one
        rcases List.mem_append.mp hp with hp | hp
        · obtain ⟨p', -, heq⟩ := List.mem_map.mp hp
          have hmem := (checkConfirmations_heights hrest).subset (List.mem_map_of_mem hc)
          obtain ⟨y, hy, hyheight⟩ := List.mem_map.mp hmem
          exact absurd (hyheight.trans (congrArg Prod.fst heq).symm) (hlt y hy).ne'
        · obtain ⟨q, hq, hempty⟩ := ih hsorted hrest hc hp
          exact ⟨q, List.mem_cons_of_mem _ hq, hempty⟩
    · cases hc

end Check

/-! ## What the watcher has reported -/

/-- **The account of the heights**, from the start `f` up to the current one: every height is reported or
pending, no height is reported twice, and one that is reported stays pending only without messages. -/
structure Reports (H : History) (f t : Nat) (w : Watcher) : Prop where
  sorted : SortedMap.Sorted w.pendings
  start_le : f ≤ w.currentHeight
  current : w.stopped = false → w.currentHeight ≤ (H.view t).height
  pending : ∀ x ∈ w.pendings, f ≤ x.1 ∧ x.1 ≤ w.currentHeight ∧ x.1 ≤ (H.view t).height ∧
    PendingOf w.config ((H.view t).block x.1) x.1 x.2
  nodup : (reported w.sent).Nodup
  range : ∀ h ∈ reported w.sent, f ≤ h ∧ h ≤ w.currentHeight ∧ h + 1 < 2 ^ 32 ∧
    ∀ p, (h, p) ∈ w.pendings → p.messages = []
  first : w.currentHeight = f → reported w.sent = []
  covered : w.stopped = false → ∀ h, f ≤ h → h ≤ w.currentHeight →
    h ∈ reported w.sent ∨ ∃ p, (h, p) ∈ w.pendings
  timely : w.stopped = false → f < w.currentHeight → ∀ h, f ≤ h → h ≤ w.currentHeight →
    (∀ e ∈ ((H.view t).block h).watched w.config.contracts,
      h + w.config.required e ≤ w.currentHeight) → h ∈ reported w.sent

/-- A tick that polls, and is not the first one to, finds an event of the three contracts in every block
from the start up to the current height. -/
def Unrepeated (view : View) (f : Nat) (w : Watcher) : Prop :=
  w.stopped = false → w.currentHeight < view.height → w.currentHeight = f ∨
    ∀ h, f ≤ h → h ≤ w.currentHeight → (view.block h).watched w.config.contracts ≠ []

section Steps

variable {H : History} {f t t' : Nat} {w w' : Watcher} {node : FullNode}

/-- On a chain without forks a block stays. -/
theorem History.stays (hforks : H.confirmations = 0) (ht : t ≤ t') {h : Nat}
    (hle : h ≤ (H.view t).height) :
    h ≤ (H.view t').height ∧ (H.view t').block h = (H.view t).block h :=
  H.stable t t' ht h (by omega)

/-- A step that changes neither what is pending nor what is reported. -/
theorem Reports.silent (h : Reports H f t w) (hforks : H.confirmations = 0) (ht : t ≤ t')
    (hpendings : w'.pendings = w.pendings) (hconfig : w'.config = w.config)
    (hreported : reported w'.sent = reported w.sent) (hcurrent : w'.currentHeight = w.currentHeight)
    (hstopped : w'.stopped = false → w.stopped = false) : Reports H f t' w' := by
  refine ⟨hpendings ▸ h.sorted, hcurrent ▸ h.start_le, fun hgoes => ?_, fun x hx => ?_,
    hreported ▸ h.nodup, ?_, ?_, fun hgoes => ?_, fun hgoes => ?_⟩
  · rw [hcurrent]
    exact (History.stays hforks ht (h.current (hstopped hgoes))).1
  · obtain ⟨hf, hle, hview, hof⟩ := h.pending x (hpendings ▸ hx)
    obtain ⟨hview', hblock⟩ := History.stays hforks ht hview
    rw [hcurrent, hconfig, hblock]
    exact ⟨hf, hle, hview', hof⟩
  · rw [hreported, hcurrent, hpendings]
    exact h.range
  · rw [hreported, hcurrent]
    exact h.first
  · rw [hreported, hcurrent, hpendings]
    exact h.covered (hstopped hgoes)
  · rw [hreported, hcurrent, hconfig]
    intro hlt height hf hle hall
    have hview := hle.trans (h.current (hstopped hgoes))
    rw [(History.stays hforks ht hview).2] at hall
    exact h.timely (hstopped hgoes) hlt height hf hle hall

theorem Reports.start (hsent : w.sent = []) (hserves : Serves node (H.view t)) (f : Nat) :
    Reports H f t (startEvents node f w) := by
  have hnone : reported w.sent = [] := by simp [hsent, reported]
  unfold startEvents
  split
  · rename_i msgs hmsgs
    obtain ⟨hle, hof, -⟩ := hserves.getMessagesFromBlock hmsgs
    refine ⟨List.pairwise_singleton .., le_rfl, fun _ => hle, fun x hx => ?_, ?_, ?_, fun _ => hnone,
      fun _ h hf hle => ?_, fun _ hlt => absurd hlt (lt_irrefl f)⟩
    · obtain rfl := List.mem_singleton.mp hx
      exact ⟨le_rfl, le_rfl, hle, hof⟩
    · simp [hnone]
    · simp [hnone]
    · exact .inr ⟨msgs, List.mem_singleton.mpr (Prod.ext (Nat.le_antisymm hle hf) rfl)⟩
  · exact ⟨.nil, le_rfl, nofun, nofun, by simp [hnone], by simp [hnone], fun _ => hnone, nofun, nofun⟩

/-- **One height.** The notification is about it, and it is finished once everything is confirmed. -/
theorem PendingOf.checkHeight {config : Config} {height : Nat} {pending : PendingMessages}
    (hof : PendingOf config ((H.view t).block height) height pending)
    (hle : height ≤ (H.view t).height) (hserves : Serves node (H.view t))
    {remaining : Option PendingMessages} {confirmed : Option ConfirmedMessages}
    (hcheck : Alephium.checkHeight config node (H.view t).height height pending
      = .ok (remaining, confirmed)) :
    (∀ c ∈ confirmed, c.reObserved = false ∧ c.blockHeader.height = height) ∧
    (∀ p ∈ remaining, PendingOf config ((H.view t).block height) height p) ∧
    ((∀ e ∈ ((H.view t).block height).watched config.contracts,
      height + config.required e ≤ (H.view t).height) →
      ∃ c, confirmed = some c ∧ c.finished = true) := by
  rcases checkHeight_eq_ok hcheck with ⟨hempty, rfl, rfl⟩ | ⟨hmessages, hlt, rfl, rfl⟩ |
    ⟨hmessages, -, p, hp, hsplit⟩
  · refine ⟨fun c hc => ?_, fun p hp => ?_, fun _ => ⟨_, rfl, rfl⟩⟩
    · obtain rfl := Option.some.inj hc
      exact ⟨rfl, congrArg BlockHeader.height hof.blockHeader⟩
    · obtain rfl := Option.some.inj hp
      exact hof
  · refine ⟨nofun, fun p hp => ?_, fun hall => ?_⟩
    · obtain rfl := Option.some.inj hp
      exact hof
    · -- there is a message, and the minimum is part of what it requires
      obtain ⟨msg, hmsg⟩ := List.exists_mem_of_ne_nil _ hmessages
      have henough := hall msg.event (hof.messages msg hmsg).1
      have hmin := (Nat.mod_le config.minConfirmations.toNat (2 ^ 32)).trans
        (minConfirmations_le_required config msg.event)
      have hsum := Nat.mod_le (height + config.minConfirmations32) (2 ^ 32)
      rw [addHeight] at hlt
      rw [Config.minConfirmations32] at hlt hsum
      omega
  · obtain ⟨-, hof', -⟩ := hof.recheck hle hserves hmessages hp
    rw [splitConfirmed_eq] at hsplit
    obtain ⟨rfl, rfl⟩ := hsplit
    refine ⟨fun c hc => ?_, fun p' hp' => ?_, fun hall => ⟨_, rfl, decide_eq_true ?_⟩⟩
    · obtain rfl := Option.some.inj hc
      exact ⟨rfl, congrArg BlockHeader.height hof'.blockHeader⟩
    · split at hp'
      · cases hp'
      · rename_i hne
        obtain rfl := Option.some.inj hp'
        exact hof'.unconfirmed hne
    · rw [List.filter_eq_nil_iff]
      intro msg hmsg
      obtain ⟨hwatched, hok⟩ := hof'.messages msg hmsg
      have henough := hall msg.event hwatched
      have hconf := messageFromEvent_le_required hok
      have hsum := Nat.mod_le (height + msg.confirmations.toNat) (2 ^ 32)
      rw [decide_eq_true_eq, addHeight]
      omega

theorem PendingOf.messages_eq_nil {config : Config} {b : Block} {height : Nat}
    {pending : PendingMessages} (hof : PendingOf config b height pending)
    (hempty : b.watched config.contracts = []) : pending.messages = [] := by
  rw [List.eq_nil_iff_forall_not_mem]
  intro msg hmsg
  have hwatched := (hof.messages msg hmsg).1
  rw [hempty] at hwatched
  cases hwatched

section Polling

variable {pendings : List (Nat × PendingMessages)} (h : Reports H f t w)
  (hpendings : fetchHeights w.config node ((H.view t').height - w.currentHeight)
    (w.currentHeight + 1) w.pendings = .ok pendings)

include h hpendings

/-- A height that is already reported is pending without messages. -/
theorem Reports.pending_empty {height : Nat} (hmem : height ∈ reported w.sent) {p : PendingMessages}
    (hp : (height, p) ∈ pendings) : p.messages = [] := by
  obtain ⟨-, hle, -, hempty⟩ := h.range height hmem
  rcases ((fetchHeights_eq_ok h.sorted hpendings).2 _).mp hp with ⟨hold, -⟩ | ⟨hbounds, -⟩
  · exact hempty p hold
  · simp only at hbounds
    omega

/-- Before the check, a height is reported or pending. -/
theorem Reports.covered_tick (hgoes : w.stopped = false) {height : Nat} (hle : f ≤ height)
    (hge : height ≤ (H.view t').height) :
    height ∈ reported w.sent ∨ ∃ p, (height, p) ∈ pendings := by
  obtain ⟨-, hmem⟩ := fetchHeights_eq_ok h.sorted hpendings
  by_cases hold : height ≤ w.currentHeight
  · exact (h.covered hgoes height hle hold).imp_right fun ⟨p, hp⟩ =>
      ⟨p, (hmem _).mpr (.inl ⟨hp, by omega⟩)⟩
  · obtain ⟨p, hp⟩ := fetchHeights_fetches hpendings (show w.currentHeight + 1 ≤ height by omega)
      (by omega)
    exact .inr ⟨p, (hmem _).mpr (.inr ⟨by omega, hp⟩)⟩

variable (hforks : H.confirmations = 0) (ht : t ≤ t') (hserves : Serves node (H.view t'))

include hforks ht hserves

/-- The pending heights of a tick that polls. -/
theorem Reports.fetched : ∀ x ∈ pendings, f ≤ x.1 ∧ x.1 ≤ (H.view t').height ∧
    PendingOf w.config ((H.view t').block x.1) x.1 x.2 := by
  intro x hx
  have hf := h.start_le
  rcases ((fetchHeights_eq_ok h.sorted hpendings).2 x).mp hx with ⟨hold, -⟩ | ⟨hbounds, hnow⟩
  · obtain ⟨hf, -, hview, hof⟩ := h.pending x hold
    obtain ⟨hview', hblock⟩ := History.stays hforks ht hview
    exact ⟨hf, hview', hblock.symm ▸ hof⟩
  · obtain ⟨hle, hof, -⟩ := hserves.getMessagesFromBlock hnow
    exact ⟨by omega, hle, hof⟩

theorem Reports.ownHeights : OwnHeights w.config node (H.view t').height pendings := by
  intro x hx remaining confirmed hcheck c hc
  obtain ⟨-, hle, hof⟩ := h.fetched hpendings hforks ht hserves x hx
  exact ((hof.checkHeight hle hserves hcheck).1 c hc).2

/-- The heights that stay pending. -/
theorem Reports.pending_tick :
    ∀ x ∈ (checkConfirmations w.config node (H.view t').height pendings).1,
      f ≤ x.1 ∧ x.1 ≤ (H.view t').height ∧
        PendingOf w.config ((H.view t').block x.1) x.1 x.2 :=
  (@checkConfirmations_rule w.config node (H.view t').height
    (fun height p => f ≤ height ∧ height ≤ (H.view t').height ∧
      PendingOf w.config ((H.view t').block height) height p) (fun _ => True)
    (fun _ _ _ _ hp hcheck => ⟨fun p hr =>
      ⟨hp.1, hp.2.1, (hp.2.2.checkHeight hp.2.1 hserves hcheck).2.1 p hr⟩, fun _ _ => trivial⟩) _
    (h.fetched hpendings hforks ht hserves)).1

/-- A height that this tick reports was pending. -/
theorem Reports.reported_pending {height : Nat}
    (hmem : height ∈ reported (checkConfirmations w.config node (H.view t').height pendings).2.1) :
    ∃ p, (height, p) ∈ pendings := by
  obtain ⟨c, hc, -, -, rfl⟩ := mem_reported.mp hmem
  have hheights := checkConfirmations_heights (h.ownHeights hpendings hforks ht hserves)
  obtain ⟨x, hx, heq⟩ := List.mem_map.mp (hheights.subset (List.mem_map_of_mem hc))
  exact ⟨x.2, heq ▸ hx⟩

/-- **No height is reported a second time** by a tick that polls. -/
theorem Reports.nodup_tick (hgoes : w.stopped = false) (hnew : w.currentHeight < (H.view t').height)
    (hcond : Unrepeated (H.view t') f w) :
    (reported (w.sent ++
      (checkConfirmations w.config node (H.view t').height pendings).2.1)).Nodup := by
  obtain ⟨hsorted, -⟩ := fetchHeights_eq_ok h.sorted hpendings
  rw [reported_append, List.nodup_append]
  refine ⟨h.nodup, checkConfirmations_reported_nodup hsorted
    (h.ownHeights hpendings hforks ht hserves), fun height hold height' hnow heq => ?_⟩
  subst heq
  obtain ⟨hf, hle, -⟩ := h.range height hold
  obtain ⟨p, hp⟩ := h.reported_pending hpendings hforks ht hserves hnow
  obtain ⟨-, -, hof⟩ := h.fetched hpendings hforks ht hserves _ hp
  have hempty := hof.empty (h.pending_empty hpendings hold hp)
  rcases hcond hgoes hnew with hfirst | hwatched
  · rw [h.first hfirst] at hold
    cases hold
  · exact hwatched height hf hle hempty

/-- What is reported and still pending has no messages. -/
theorem Reports.range_tick (hnew : w.currentHeight < (H.view t').height)
    (hmax : (H.view t').height + 1 < 2 ^ 32) :
    ∀ height ∈ reported (w.sent ++
      (checkConfirmations w.config node (H.view t').height pendings).2.1),
      f ≤ height ∧ height ≤ (H.view t').height ∧ height + 1 < 2 ^ 32 ∧
      ∀ p, (height, p) ∈ (checkConfirmations w.config node (H.view t').height pendings).1 →
        p.messages = [] := by
  intro height hmem
  obtain ⟨hsorted, -⟩ := fetchHeights_eq_ok h.sorted hpendings
  have hall := h.fetched hpendings hforks ht hserves
  -- it is enough that the height was pending without messages before the check
  have hempty : ∀ p q, (height, p) ∈ (checkConfirmations w.config node (H.view t').height pendings).1 →
      (height, q) ∈ pendings → q.messages = [] → p.messages = [] := by
    intro p q hp hq hnone
    obtain ⟨-, -, hof⟩ := h.pending_tick hpendings hforks ht hserves _ hp
    exact hof.messages_eq_nil ((hall _ hq).2.2.empty hnone)
  rw [reported_append, List.mem_append] at hmem
  rcases hmem with hold | hnow
  · obtain ⟨hf, hle, hlt, -⟩ := h.range height hold
    refine ⟨hf, by omega, hlt, fun p hp => ?_⟩
    obtain ⟨q, hq⟩ := (checkConfirmations_sorted hsorted).2 _ hp
    exact hempty p q hp hq (h.pending_empty hpendings hold hq)
  · obtain ⟨q, hq⟩ := h.reported_pending hpendings hforks ht hserves hnow
    obtain ⟨hf, hle, -⟩ := hall _ hq
    refine ⟨hf, hle, by simp only at hle; omega, fun p hp => ?_⟩
    obtain ⟨c, hc, hfinished, -, rfl⟩ := mem_reported.mp hnow
    obtain ⟨q, hq, hnone⟩ := checkConfirmations_finished hsorted
      (h.ownHeights hpendings hforks ht hserves) hc hfinished hp
    exact hempty p q hp hq hnone

/-- **A check that gets to its end** reports the heights that are no longer pending, and those that have
nothing left to wait for. -/
theorem Reports.reported_tick
    (hdone : (checkConfirmations w.config node (H.view t').height pendings).2.2 = true) {height : Nat}
    {p : PendingMessages} (hp : (height, p) ∈ pendings) :
    (height ∈ reported (checkConfirmations w.config node (H.view t').height pendings).2.1 ∨
      ∃ p, (height, p) ∈ (checkConfirmations w.config node (H.view t').height pendings).1) ∧
    ((∀ e ∈ ((H.view t').block height).watched w.config.contracts,
      height + w.config.required e ≤ (H.view t').height) →
      height ∈ reported (checkConfirmations w.config node (H.view t').height pendings).2.1) := by
  rcases checkConfirmations_of_mem hp with ⟨hstop, -⟩ | ⟨remaining, confirmed, hcheck, hr, hc⟩
  · rw [hdone] at hstop
    cases hstop
  · obtain ⟨-, hle, hof⟩ := h.fetched hpendings hforks ht hserves _ hp
    obtain ⟨hown, -, hfinished⟩ := hof.checkHeight hle hserves hcheck
    have hreport : (∃ c, confirmed = some c ∧ c.finished = true) →
        height ∈ reported (checkConfirmations w.config node (H.view t').height pendings).2.1 := by
      rintro ⟨c, rfl, hfin⟩
      exact mem_reported.mpr ⟨c, hc c rfl, hfin, hown c rfl⟩
    refine ⟨?_, fun hall => hreport (hfinished hall)⟩
    cases remaining with
    | some q => exact .inr ⟨q, hr q rfl⟩
    | none => exact .inl (hreport (checkHeight_eq_none hcheck).2)

end Polling

/-- **Step.** A tick. -/
theorem Reports.tick (h : Reports H f t w) (hforks : H.confirmations = 0) (ht : t ≤ t')
    (hserves : Serves node (H.view t')) (hmax : (H.view t').height < 2 ^ 32)
    (hcond : Unrepeated (H.view t') f w) : Reports H f t' (Alephium.tick node w) := by
  rcases tick_cases node w with ⟨-, heq⟩ | ⟨height, hgoes, hheight, hlow, heq⟩ | ⟨height, heq⟩ |
    ⟨height, pendings, hgoes, hheight, hnew, hne, hpendings, heq⟩
  · rw [heq]
    exact h.silent hforks ht rfl rfl rfl rfl id
  · rw [heq]
    obtain rfl := hserves.currentHeight _ hheight
    -- the chain does not shrink
    have hgrow := (History.stays hforks ht (h.current hgoes)).1
    exact h.silent hforks ht rfl rfl rfl (Nat.le_antisymm hlow hgrow) id
  · rw [heq]
    exact h.silent hforks ht rfl rfl rfl rfl nofun
  · rw [heq]
    obtain rfl := hserves.currentHeight _ hheight
    have hf := h.start_le
    obtain ⟨hsorted, -⟩ := fetchHeights_eq_ok h.sorted hpendings
    refine ⟨(checkConfirmations_sorted hsorted).1, by simp only; omega, fun _ => le_rfl,
      fun x hx => ?_, h.nodup_tick hpendings hforks ht hserves hgoes hnew hcond,
      h.range_tick hpendings hforks ht hserves hnew (by omega), fun hfirst => ?_,
      fun hgoes' height hle hge => ?_, fun hgoes' _ height hle hge hall => ?_⟩
    · obtain ⟨hfx, hle, hof⟩ := h.pending_tick hpendings hforks ht hserves x hx
      exact ⟨hfx, hle, hle, hof⟩
    · simp only at hfirst
      omega
    · have hdone : (checkConfirmations w.config node (H.view t').height pendings).2.2 = true := by
        simpa using hgoes'
      rw [reported_append, List.mem_append]
      rcases h.covered_tick hpendings hgoes hle hge with hold | ⟨p, hp⟩
      · exact .inl (.inl hold)
      · exact (h.reported_tick hpendings hforks ht hserves hdone hp).1.imp_left .inr
    · have hdone : (checkConfirmations w.config node (H.view t').height pendings).2.2 = true := by
        simpa using hgoes'
      rw [reported_append, List.mem_append]
      rcases h.covered_tick hpendings hgoes hle hge with hold | ⟨p, hp⟩
      · exact .inl hold
      · exact .inr ((h.reported_tick hpendings hforks ht hserves hdone hp).2 hall)

end Steps

/-! ## What the validator has handled -/

theorem lastHeight_writeBatch {db : Db} {b : Batch} (h : b.NoHeight) :
    lastHeight (writeBatch db b) = lastHeight db := by
  rw [lastHeight, writeBatch_of_noHeight h, lastHeight]

theorem lastHeight_updateHeight (db : Db) (b : Batch) {height : Nat} (h : height < 2 ^ 32) :
    lastHeight (writeBatch db (b.updateHeight height)) = some height := by
  rw [lastHeight, writeBatch_updateHeight, Option.map_some, beNat_beBytes (by omega)]

/-- `fromHeight` and the last height stored do not go down. -/
def Grows (v v' : Validator) : Prop :=
  v.fromHeight ≤ v'.fromHeight ∧
    ∀ s, lastHeight v.db = some s → ∃ s', lastHeight v'.db = some s' ∧ s ≤ s'

theorem Grows.refl (v : Validator) : Grows v v := ⟨le_rfl, fun s hs => ⟨s, hs, le_rfl⟩⟩

theorem Grows.trans {v v' v'' : Validator} (h : Grows v v') (h' : Grows v' v'') : Grows v v'' := by
  refine ⟨h.1.trans h'.1, fun s hs => ?_⟩
  obtain ⟨s', hs', hle⟩ := h.2 s hs
  obtain ⟨s'', hs'', hle'⟩ := h'.2 s' hs'
  exact ⟨s'', hs'', hle.trans hle'⟩

/-- **What holds after reports of different heights.** The heights below `fromHeight` were reported, those
marked finished were too, and what is stored is 100 below `fromHeight` at most. -/
structure Validated (f : Nat) (order : List Nat) (v : Validator) : Prop extends Passed f order v where
  blocks : ∀ h, v.blocks h = some true → h ∈ order
  stored : ∀ s, lastHeight v.db = some s → s ≤ v.fromHeight - MaxForkHeight

section Validation

variable {client : Client} {f : Nat} {order : List Nat} {v v' : Validator} {c : ConfirmedMessages}

theorem Validated.sameStore (h : Validated f order v) (hsame : SameStore v v') :
    Validated f order v' := by
  refine ⟨h.toPassed.sameStore hsame, ?_, ?_⟩
  · rw [hsame.blocks]
    exact h.blocks
  · rw [hsame.db, hsame.fromHeight]
    exact h.stored

/-- A notification that does not report its height finished. -/
theorem Validated.skip (h : Validated f order v) {batch : Batch} (hbatch : batch.NoHeight)
    (hc : ¬(c.finished = true ∧ c.reObserved = false)) :
    Validated f order (finishRound v c batch) ∧ Grows v (finishRound v c batch) := by
  have hfrom : (finishRound v c batch).fromHeight = v.fromHeight ∧
      (finishRound v c batch).db = writeBatch v.db batch ∧
      ∀ x, (finishRound v c batch).blocks x = some true → v.blocks x = some true := by
    unfold finishRound
    split
    · exact ⟨rfl, rfl, fun _ hx => hx⟩
    · rename_i hre
      have hunfinished : ¬c.finished = true := fun hfin => hc ⟨hfin, by simpa using hre⟩
      simp only [if_neg hunfinished]
      refine ⟨trivial, trivial, fun x hx => ?_⟩
      rw [Function.update_apply] at hx
      split at hx
      · exact absurd (Option.some.inj hx) hunfinished
      · exact hx
  obtain ⟨hfrom, hdb, hblocks⟩ := hfrom
  have hlast : lastHeight (finishRound v c batch).db = lastHeight v.db := by
    rw [hdb, lastHeight_writeBatch hbatch]
  refine ⟨⟨⟨hfrom ▸ h.le, hfrom ▸ h.passed⟩, fun x hx => h.blocks x (hblocks x hx), ?_⟩, ?_, ?_⟩
  · rw [hlast, hfrom]
    exact h.stored
  · exact hfrom.ge
  · rw [hlast]
    exact fun s hs => ⟨s, hs, le_rfl⟩

/-- **A height that is reported for the first time.** -/
theorem Validated.finish (h : Validated f order v) {batch : Batch} (hbatch : batch.NoHeight)
    (hfinished : c.finished = true) (hnew : c.reObserved = false) (hf : f ≤ c.blockHeader.height)
    (hnot : c.blockHeader.height ∉ order) (hmax : c.blockHeader.height + 1 < 2 ^ 32) :
    Validated f (order ++ [c.blockHeader.height]) (finishRound v c batch) ∧
      Grows v (finishRound v c batch) := by
  have hle := h.toPassed.fromHeight_le hf hnot
  obtain ⟨m, hm, hmk, hbefore, -, hblocks, hfrom, hdb⟩ :=
    finishRound_of_finished batch hfinished hnew hle hmax
  generalize c.blockHeader.height = k at *
  have harrived : ∀ x, v.fromHeight ≤ x → x < m → x ∈ order ++ [k] := fun x hx hlt => by
    rcases hbefore x hx hlt with rfl | htrue
    · simp
    · exact List.mem_append_left _ (h.blocks x htrue)
  have hstart := h.le
  have hmarked : ∀ x, (finishRound v c batch).blocks x = some true → x ∈ order ++ [k] := by
    intro x hx
    rw [hblocks] at hx
    split at hx
    · cases hx
    · split at hx
      · rename_i heq
        simp [heq]
      · exact List.mem_append_left _ (h.blocks x hx)
  by_cases hend : m = k + 1
  · -- everything up to `k` was there
    rw [if_pos hend] at hfrom hdb
    have hlast : lastHeight (finishRound v c batch).db = some (k - MaxForkHeight) := by
      rw [hdb, lastHeight_updateHeight]
      omega
    refine ⟨⟨⟨by omega, fun x hx hlt => ?_⟩, hmarked, fun s hs => ?_⟩, by omega, fun s hs => ?_⟩
    · by_cases hold : x < v.fromHeight
      · exact List.mem_append_left _ (h.passed x hx hold)
      · exact harrived x (Nat.le_of_not_lt hold) (by omega)
    · obtain rfl := Option.some.inj (hlast.symm.trans hs)
      omega
    · exact ⟨_, hlast, (h.stored s hs).trans (by omega)⟩
  · rw [if_neg hend] at hfrom hdb
    have hlast : lastHeight (finishRound v c batch).db = lastHeight v.db := by
      rw [hdb, lastHeight_writeBatch hbatch]
    refine ⟨⟨⟨by omega, fun x hx hlt => ?_⟩, hmarked, ?_⟩, hfrom.ge, ?_⟩
    · exact List.mem_append_left _ (h.passed x hx (hfrom ▸ hlt))
    · rw [hlast, hfrom]
      exact h.stored
    · rw [hlast]
      exact fun s hs => ⟨s, hs, le_rfl⟩

/-- **Step.** A round of the validator. -/
theorem Validated.round (h : Validated f order v) (hround : Alephium.round client v c = .ok v')
    (hc : c.finished = true → c.reObserved = false → f ≤ c.blockHeader.height ∧
      c.blockHeader.height ∉ order ∧ c.blockHeader.height + 1 < 2 ^ 32) :
    Validated f (order ++ reported [c]) v' ∧ Grows v v' := by
  obtain ⟨v₁, batch, hsame, hbatch, rfl⟩ := round_eq_finishRound hround
  have hgrows : Grows v v₁ := by
    rw [Grows, hsame.fromHeight, hsame.db]
    exact Grows.refl v
  by_cases hreport : c.finished = true ∧ c.reObserved = false
  · obtain ⟨hfinished, hnew⟩ := hreport
    obtain ⟨hf, hnot, hmax⟩ := hc hfinished hnew
    obtain ⟨hvalid, hgrows'⟩ := (h.sameStore hsame).finish hbatch hfinished hnew hf hnot hmax
    have hone : reported [c] = [c.blockHeader.height] := by simp [reported, hfinished, hnew]
    exact ⟨hone ▸ hvalid, hgrows.trans hgrows'⟩
  · obtain ⟨hvalid, hgrows'⟩ := (h.sameStore hsame).skip hbatch hreport
    have hnone : reported [c] = [] := by simpa [reported] using hreport
    rw [hnone, List.append_nil]
    exact ⟨hvalid, hgrows.trans hgrows'⟩

end Validation

/-! ## Runs -/

/-- The full node answers from the view of the moment, the watcher is not started again, and no block is
reported a second time. -/
def Unforked (H : History) (f : Nat) (g : Goroutines) : Turn → Prop
  | .watcher (_, .start _ _) => False
  | .watcher (t, .tick node) => Serves node (H.view t) ∧ (H.view t).height < 2 ^ 32 ∧
      Unrepeated (H.view t) f g.followed.2
  | _ => True

/-- The accounts of the watcher and of the validator. -/
structure Accounted (H : History) (f : Nat) (g : Goroutines) : Prop where
  reports : Reports H f g.followed.1 g.followed.2
  handled : g.handled ≤ g.followed.2.sent.length
  validated : Validated f (reported (g.followed.2.sent.take g.handled)) g.validator

theorem watch_sent {w w' : Watcher} {step : WatcherStep} (h : watch w step = some w') :
    ∃ new, w'.sent = w.sent ++ new := by
  cases step with
  | start node fromHeight =>
    obtain rfl := Option.some.inj h
    exact ⟨[], by rw [startEvents_sent, List.append_nil]⟩
  | tick node =>
    obtain rfl := Option.some.inj h
    rcases tick_cases node w with ⟨-, heq⟩ | ⟨_, -, -, -, heq⟩ | ⟨_, heq⟩ | ⟨_, _, -, -, -, -, -, heq⟩
    · exact ⟨[], by rw [heq, List.append_nil]⟩
    · exact ⟨[], by rw [heq, List.append_nil]⟩
    · exact ⟨[], by rw [heq, List.append_nil]⟩
    · exact ⟨_, by rw [heq]⟩
  | observe node txId =>
    obtain rfl := Option.some.inj h
    refine ⟨[], ?_⟩
    simp only [observe, List.append_nil]
    split <;> rfl
  | reObserve node =>
    obtain rfl := Option.some.inj h
    simp only [reObserve]
    split
    · exact ⟨[], (List.append_nil _).symm⟩
    · split
      · split
        · exact ⟨[], (List.append_nil _).symm⟩
        · exact ⟨_, rfl⟩
      · exact ⟨[], (List.append_nil _).symm⟩

section Runs

variable {client : Client} {H : History} {f : Nat} {g g' : Goroutines}

/-- **Step.** -/
theorem Accounted.takeTurn (h : Accounted H f g) (hforks : H.confirmations = 0) {turn : Turn}
    (hok : Unforked H f g turn) (hturn : Alephium.takeTurn client g turn = some g') :
    Accounted H f g' ∧ Grows g.validator g'.validator := by
  cases turn with
  | watcher a =>
    obtain ⟨p, hp, rfl⟩ := Option.map_eq_some_iff.mp hturn
    obtain ⟨ht, hpt, hstep⟩ := follow_eq_some.mp hp
    obtain ⟨new, hnew⟩ := watch_sent hstep
    refine ⟨⟨?_, ?_, ?_⟩, .refl _⟩
    · obtain ⟨t', step⟩ := a
      obtain ⟨t'', w'⟩ := p
      obtain rfl : t'' = t' := hpt
      cases step with
      | start node fromHeight => exact hok.elim
      | tick node =>
        obtain rfl := Option.some.inj hstep
        exact h.reports.tick hforks ht hok.1 hok.2.1 hok.2.2
      | observe node txId =>
        obtain rfl := Option.some.inj hstep
        simp only [observe]
        split <;> exact h.reports.silent hforks ht rfl rfl rfl rfl id
      | reObserve node =>
        obtain rfl := Option.some.inj hstep
        obtain ⟨hconfig, hpendings, hcurrent, hstopped⟩ := reObserve_frame node g.followed.2
        exact h.reports.silent hforks ht hpendings hconfig (reObserve_reported node _) hcurrent
          fun hgoes => hstopped ▸ hgoes
    · simp only [hnew, List.length_append]
      exact h.handled.trans (Nat.le_add_right ..)
    · simp only [hnew, List.take_append_of_le_length h.handled]
      exact h.validated
  | validator =>
    simp only [Alephium.takeTurn] at hturn
    split at hturn
    · cases hturn
    · rename_i confirmed hconfirmed
      split at hturn
      · rename_i v hround
        obtain rfl := Option.some.inj hturn
        obtain ⟨hlt, hget⟩ := List.getElem?_eq_some_iff.mp hconfirmed
        have htake : g.followed.2.sent.take (g.handled + 1) =
            g.followed.2.sent.take g.handled ++ [confirmed] := by
          rw [List.take_add_one, hconfirmed]
          rfl
        have hsplit : reported g.followed.2.sent = reported (g.followed.2.sent.take g.handled) ++
            reported [confirmed] ++ reported (g.followed.2.sent.drop (g.handled + 1)) := by
          rw [← reported_append, ← htake, ← reported_append, List.take_append_drop]
        obtain ⟨hvalid, hgrows⟩ := h.validated.round hround fun hfinished hnew => by
          have hone : reported [confirmed] = [confirmed.blockHeader.height] := by
            simp [reported, hfinished, hnew]
          have hnodup := h.reports.nodup
          rw [hsplit, hone] at hnodup
          obtain ⟨hf, -, hmax, -⟩ := h.reports.range confirmed.blockHeader.height (by
            rw [hsplit, hone]
            simp)
          refine ⟨hf, fun hmem => ?_, hmax⟩
          exact (List.nodup_append.mp (List.nodup_append.mp hnodup).1).2.2 _ hmem _
            (List.mem_singleton_self _) rfl
        refine ⟨⟨h.reports, hlt, ?_⟩, hgrows⟩
        simp only
        rw [htake, reported_append]
        exact hvalid
      · cases hturn

/-- The two goroutines as they are started: the validator has the height of the start, and the store no
last height that is less than 100 below it. -/
structure Started (H : History) (f : Nat) (g : Goroutines) : Prop where
  watcher : ∃ node w, Serves node (H.view g.followed.1) ∧ w.sent = [] ∧
    g.followed.2 = startEvents node f w
  handled : g.handled = 0
  fromHeight : g.validator.fromHeight = f
  blocks : ∀ h, g.validator.blocks h = none
  stored : ∀ s, lastHeight g.validator.db = some s → s ≤ f - MaxForkHeight

theorem Started.accounted (h : Started H f g) : Accounted H f g := by
  obtain ⟨node, w, hserves, hsent, hstart⟩ := h.watcher
  refine ⟨hstart ▸ .start hsent hserves f, by simp [h.handled], ⟨⟨h.fromHeight.ge, ?_⟩, ?_, ?_⟩⟩
  · intro x hx hlt
    have := h.fromHeight
    omega
  · intro x hx
    rw [h.blocks] at hx
    cases hx
  · rw [h.fromHeight]
    exact h.stored

/-- **Run.** -/
theorem Accounted.run (h : Accounted H f g) (hforks : H.confirmations = 0)
    (hrun : Run (Alephium.takeTurn client) (Unforked H f) g g') :
    Accounted H f g' ∧ Grows g.validator g'.validator :=
  hrun.invariant (I := fun g' => Accounted H f g' ∧ Grows g.validator g'.validator)
    (fun _ _ _ hmid hok hstep =>
      let hstep := hmid.1.takeTurn hforks hok hstep
      ⟨hstep.1, hmid.2.trans hstep.2⟩) ⟨h, .refl _⟩

/-- **The heights of the watcher and the validator.** On a chain without forks, as long as a tick that
polls for the second time or later finds an event of the three contracts in every block from the start up
to the current height: no height is reported finished twice, and while the watcher goes on every height
whose events have their confirmations has been; the heights that the validator has passed were all
reported to it, and what it stores is not above them; and from one state of a run to a later one neither
the height of the validator nor the one in the store decreases. -/
theorem heights_reported_once {g₀ : Goroutines} (hforks : H.confirmations = 0)
    (hstart : Started H f g₀) (hrun : Run (Alephium.takeTurn client) (Unforked H f) g₀ g)
    (hmore : Run (Alephium.takeTurn client) (Unforked H f) g g') :
    (∀ h, (reported g.followed.2.sent).count h ≤ 1) ∧
    (g.followed.2.stopped = false → f < g.followed.2.currentHeight →
      ∀ h, f ≤ h → h ≤ g.followed.2.currentHeight →
        (∀ e ∈ ((H.view g.followed.1).block h).watched g.followed.2.config.contracts,
          h + g.followed.2.config.required e ≤ g.followed.2.currentHeight) →
        (reported g.followed.2.sent).count h = 1) ∧
    (∀ h, f ≤ h → h < g.validator.fromHeight →
      h ∈ reported (g.followed.2.sent.take g.handled)) ∧
    (∀ s, lastHeight g.validator.db = some s → s ≤ g.validator.fromHeight) ∧
    g.validator.fromHeight ≤ g'.validator.fromHeight ∧
    ∀ s, lastHeight g.validator.db = some s →
      ∃ s', lastHeight g'.validator.db = some s' ∧ s ≤ s' := by
  obtain ⟨haccounted, -⟩ := hstart.accounted.run hforks hrun
  have hnodup := haccounted.reports.nodup
  refine ⟨fun h => List.nodup_iff_count_le_one.mp hnodup h, fun hgoes hlt h hf hle hall => ?_,
    haccounted.validated.passed, fun s hs => (haccounted.validated.stored s hs).trans (Nat.sub_le ..),
    (haccounted.run hforks hmore).2⟩
  exact List.count_eq_one_of_mem hnodup (haccounted.reports.timely hgoes hlt h hf hle hall)

end Runs

/-! ## Inputs -/

/-- The goroutines after these turns, started at the height 0 of a chain with the same events in every
block. -/
def polledTurns (es : List ChainEvent) (turns : List Turn) : Goroutines :=
  attempts (takeTurn silentClient)
    ⟨(0, startEvents (sampleNode 0 fun _ => es) 0 (freshWatcher 0)), 0, freshValidator⟩ turns

/-- A tick at the moment `t`, when the chain has the height `t`. -/
def tickTurn (es : List ChainEvent) (t : Nat) : Turn :=
  .watcher (t, .tick (sampleNode (min (0 + t) 1000) fun _ => es))

/-- A chain with a message in every block. -/
theorem polledTurns_reported_once :
    let es := [sampleMessage [0x00, 0x00, 0x00, 0x00, 0x02] 0]
    let g := polledTurns es [tickTurn es 1, .validator]
    let g' := polledTurns es [tickTurn es 1, .validator, .validator]
    (reported g.followed.2.sent).count 1 = 1 ∧ g.validator.fromHeight ≤ g'.validator.fromHeight ∧
      g'.validator.fromHeight = 2 := by
  intro es g g'
  have hstart : Started (sampleHistory 0 fun _ => es) 0 (polledTurns es []) :=
    ⟨⟨_, _, sampleNode_serves 0 (fun _ => es) 0, rfl, rfl⟩, rfl, rfl, fun _ => rfl, nofun⟩
  have hfirst : Unforked (sampleHistory 0 fun _ => es) 0 (polledTurns es []) (tickTurn es 1) :=
    ⟨sampleNode_serves 0 (fun _ => es) 1, by decide, fun _ _ => .inl (by decide +kernel)⟩
  have hrun : Run (takeTurn silentClient) (Unforked (sampleHistory 0 fun _ => es) 0)
      (polledTurns es []) g :=
    ((Run.refl _).attempt _ hfirst).attempt Turn.validator trivial
  have hmore : Run (takeTurn silentClient) (Unforked (sampleHistory 0 fun _ => es) 0) g g' :=
    (Run.refl _).attempt Turn.validator trivial
  obtain ⟨-, honce, -, -, hgrows, -⟩ := heights_reported_once rfl hstart hrun hmore
  have hcurrent : g.followed.2.currentHeight = 1 := by decide +kernel
  have hall : ∀ e ∈ (((sampleHistory 0 fun _ => es).view g.followed.1).block 1).watched
      g.followed.2.config.contracts, 1 + g.followed.2.config.required e ≤ 1 := by decide +kernel
  rw [hcurrent] at honce
  exact ⟨honce (by decide +kernel) (by decide) 1 (by decide) (by decide) hall, hgrows,
    by decide +kernel⟩

/-- **Blocks without messages are reported again.** The second tick reports the height 0 a second time,
and the validator goes back to it. -/
theorem emptyBlock_reported_again :
    let g := polledTurns [] [tickTurn [] 1, .validator, .validator]
    let g' := polledTurns [] [tickTurn [] 1, .validator, .validator, tickTurn [] 2, .validator]
    (reported g'.followed.2.sent).count 0 = 2 ∧ g.validator.fromHeight = 2 ∧
      g'.validator.fromHeight = 0 := by
  decide +kernel

end Wormhole.Guardian.Alephium

/-
# Wormhole.Guardian.Restart — where the watcher goes on after a restart.

`fetchContractAddresses` finds the height from which the new blocks are polled.  When the last height in
the store is at most 100 below the chain's, it is that height.  Otherwise the contracts created up to 100
below the chain are looked up first, and polling starts there: the messages in between are not asked for.
From the start on no message is lost (`restarted_delivers`).
-/
import Mathlib
import Wormhole.Lib.Bytes
import Wormhole.Lib.Go
import Wormhole.Lib.SortedMap
import Wormhole.Lib.Transition
import Wormhole.Guardian.AlephiumEvent
import Wormhole.Guardian.Validator
import Wormhole.Guardian.Watcher
import Wormhole.Guardian.ChainView
import Wormhole.Guardian.Confirmations
import Wormhole.Guardian.ForkHandling

namespace Wormhole.Guardian.Alephium

open Wormhole.Lib Wormhole.Lib.Bytes Wormhole.Lib.Transition

/-! ## The height to go on from -/

/-- **The start.** The stored height, or 100 below the chain when that is further. -/
theorem fetchContractAddresses_start {config : Config} {node : FullNode} {db db' : Db} {L C f : Nat}
    (hstored : db lastBlockHeightKey = some (beBytes 4 L)) (hL : L + MaxForkHeight < 2 ^ 32)
    (hheight : node.currentHeight = .ok C) (hC : C < 2 ^ 32)
    (h : fetchContractAddresses config node db = .ok (f, db')) :
    (C ≤ L + MaxForkHeight ∧ f = L) ∨ (L + MaxForkHeight < C ∧ f + MaxForkHeight = C) := by
  have hnat : beNat (beBytes 4 L) = L := beNat_beBytes (by rw [MaxForkHeight] at hL; omega)
  rw [fetchContractAddresses, hstored] at h
  simp only [hnat, hheight, Go.ok_bind, addHeight, Nat.mod_eq_of_lt hL] at h
  split at h
  · rename_i hle
    obtain ⟨rfl, -⟩ := Prod.mk.inj (Go.ok.inj h)
    exact .inl ⟨hle, rfl⟩
  · rename_i hlt
    obtain ⟨batch, -, h⟩ := Go.bind_eq_ok.mp h
    obtain ⟨rfl, -⟩ := Prod.mk.inj (Go.ok.inj h)
    rw [MaxForkHeight] at *
    omega

/-! ## What is covered -/

/-- A height is pending, or everything in its block has been forwarded. -/
def Covered (H : History) (t : Nat) (w : Watcher) (h : Nat) : Prop :=
  (∃ pending, (h, pending) ∈ w.pendings) ∨
  ∃ s ≤ t, h + H.confirmations ≤ (H.view s).height ∧
    ∀ e ∈ ((H.view s).block h).watched w.config.contracts, e ∈ forwarded w.sent h

/-- From the start on every height up to the current one is covered, while the watcher goes on. -/
structure Catches (H : History) (f t : Nat) (w : Watcher) : Prop extends Follows H t w where
  covered : w.stopped = false → ∀ h, f ≤ h → h ≤ w.currentHeight → Covered H t w h

section Steps

variable {H : History} {f t t' : Nat} {w w' : Watcher} {node : FullNode}

theorem Covered.mono {h : Nat} (hcovered : Covered H t w h) (ht : t ≤ t')
    (hpendings : w'.pendings = w.pendings) (hconfig : w'.config = w.config)
    (hsent : forwarded w'.sent h = forwarded w.sent h) : Covered H t' w' h := by
  rcases hcovered with ⟨pending, hpending⟩ | ⟨s, hs, hle, hall⟩
  · exact .inl ⟨pending, hpendings.symm ▸ hpending⟩
  · refine .inr ⟨s, hs.trans ht, hle, ?_⟩
    rw [hconfig, hsent]
    exact hall

/-- A step that changes neither what is pending nor what is forwarded, and reaches no new height. -/
theorem Catches.silent (h : Catches H f t w) (ht : t ≤ t') (hpendings : w'.pendings = w.pendings)
    (hconfig : w'.config = w.config) (hsent : ∀ h, forwarded w'.sent h = forwarded w.sent h)
    (hheight : w'.stopped = false → w.stopped = false ∧ w'.currentHeight ≤ w.currentHeight) :
    Catches H f t' w' := by
  refine ⟨h.toFollows.silent ht hpendings hconfig hsent, fun hgoes height hle hge => ?_⟩
  obtain ⟨hgoes', hlow⟩ := hheight hgoes
  exact (h.covered hgoes' height hle (hge.trans hlow)).mono ht hpendings hconfig (hsent height)

theorem Catches.start (hsent : w.sent = []) (hserves : Serves node (H.view t)) (f : Nat) :
    Catches H f t (startEvents node f w) := by
  refine ⟨.start (by simp [hsent, forwarded]) hserves f, ?_⟩
  unfold startEvents
  split
  · intro _ h hle hge
    exact .inl ⟨_, List.mem_singleton.mpr (Prod.ext (Nat.le_antisymm hge hle) rfl)⟩
  · intro hgoes
    cases hgoes

/-- A height that is no longer pending is finished. -/
theorem checkHeight_eq_none {config : Config} {currentHeight height : Nat} {pending : PendingMessages}
    {confirmed : Option ConfirmedMessages}
    (h : checkHeight config node currentHeight height pending = .ok (none, confirmed)) :
    pending.messages ≠ [] ∧ ∃ c, confirmed = some c ∧ c.finished = true := by
  rcases checkHeight_eq_ok h with ⟨-, hnone, -⟩ | ⟨-, -, hnone, -⟩ | ⟨hmessages, -, p, -, hsplit⟩
  · cases hnone
  · cases hnone
  · obtain ⟨hnone, hsome⟩ := hsplit
    refine ⟨hmessages, _, hsome, decide_eq_true ?_⟩
    by_contra hne
    rw [if_neg hne] at hnone
    cases hnone

section Polling

variable {pendings : List (Nat × PendingMessages)} (h : Catches H f t w) (hgoes : w.stopped = false)
  (hpendings : fetchHeights w.config node ((H.view t').height - w.currentHeight)
    (w.currentHeight + 1) w.pendings = .ok pendings)

include h hgoes hpendings

/-- Before the check, a height is pending or done with. -/
theorem Catches.fetched {height : Nat} (hle : f ≤ height) (hge : height ≤ (H.view t').height) :
    (∃ pending, (height, pending) ∈ pendings) ∨ ∃ s ≤ t,
      height + H.confirmations ≤ (H.view s).height ∧
      ∀ e ∈ ((H.view s).block height).watched w.config.contracts, e ∈ forwarded w.sent height := by
  obtain ⟨-, hmem⟩ := fetchHeights_eq_ok h.sorted hpendings
  by_cases hold : height ≤ w.currentHeight
  · exact (h.covered hgoes height hle hold).imp_left fun ⟨pending, hp⟩ =>
      ⟨pending, (hmem _).mpr (.inl ⟨hp, by omega⟩)⟩
  · obtain ⟨pending, hp⟩ := fetchHeights_fetches hpendings (show w.currentHeight + 1 ≤ height by omega)
      (by omega)
    exact .inl ⟨pending, (hmem _).mpr (.inr ⟨by omega, hp⟩)⟩

/-- **Step.** A tick that polls the new heights to the end covers them. -/
theorem Catches.polled (ht : t ≤ t') (hserves : Serves node (H.view t'))
    (hconfirmations : H.confirmations ≤ w.config.minConfirmations.toNat)
    (hwrap : (H.view t').height + w.config.minConfirmations.toNat < 2 ^ 32)
    (hdone : (checkConfirmations w.config node (H.view t').height pendings).2.2 = true) :
    ∀ h, f ≤ h → h ≤ (H.view t').height → Covered H t' { w with
      sharedHeight := (H.view t').height
      currentHeight := (H.view t').height
      pendings := (checkConfirmations w.config node (H.view t').height pendings).1
      sent := w.sent ++ (checkConfirmations w.config node (H.view t').height pendings).2.1
      stopped := !(checkConfirmations w.config node (H.view t').height pendings).2.2 } h := by
  intro height hle hge
  obtain ⟨-, htracked⟩ := h.toFollows.fetched ht hserves hpendings
  rcases h.fetched hgoes hpendings hle hge with ⟨pending, hp⟩ | ⟨s, hs, hsettled, hall⟩
  · rcases checkConfirmations_of_mem hp with ⟨hstop, -⟩ | ⟨remaining, confirmed, hcheck, hr, hc⟩
    · rw [hdone] at hstop
      cases hstop
    · cases remaining with
      | some p => exact .inl ⟨p, hr p rfl⟩
      | none =>
        obtain ⟨hmessages, c, rfl, hfinished⟩ := checkHeight_eq_none hcheck
        obtain ⟨hre, hheight, -, hleft⟩ :=
          ((htracked _ hp).checkHeight hserves hconfirmations hwrap hcheck).1 c rfl
        obtain ⟨hsettled, hall⟩ := hleft hfinished hmessages
        refine .inr ⟨t', le_rfl, hsettled, fun e he => forwarded_append.mpr ?_⟩
        exact (hall e he).imp_right fun he => mem_forwarded.mpr ⟨c, hc c rfl, hre, hheight, he⟩
  · exact .inr ⟨s, hs.trans ht, hsettled, fun e he => forwarded_append.mpr (.inl (hall e he))⟩

end Polling

/-- The step of a run that goes on: no other start. -/
def Continued (H : History) (p : Nat × Watcher) (a : Nat × WatcherStep) : Prop :=
  Followed H p a ∧ ∀ node fromHeight, a.2 ≠ .start node fromHeight

/-- **Step.** -/
theorem Catches.follow (h : Catches H f t w)
    (hconfirmations : H.confirmations ≤ w.config.minConfirmations.toNat) {a : Nat × WatcherStep}
    (hok : Continued H (t, w) a) (hstep : Alephium.follow (t, w) a = some (t', w')) :
    Catches H f t' w' ∧ w'.config = w.config := by
  obtain ⟨hfollows, hconfig⟩ := h.toFollows.follow hconfirmations hok.1 hstep
  refine ⟨?_, hconfig⟩
  obtain ⟨t'', step⟩ := a
  obtain ⟨ht, rfl, hstep⟩ := follow_eq_some.mp hstep
  cases step with
  | start node fromHeight => exact absurd rfl (hok.2 node fromHeight)
  | tick node =>
    obtain rfl := Option.some.inj hstep
    obtain ⟨hserves, hwrap, -⟩ : Serves node (H.view t') ∧
      (H.view t').height + w.config.minConfirmations.toNat < 2 ^ 32 ∧ _ := hok.1
    rcases tick_cases node w with ⟨hstopped, heq⟩ | ⟨height, -, -, hlow, heq⟩ | ⟨height, heq⟩ |
      ⟨height, pendings, hgoes, hheight, hnew, -, hpendings, heq⟩
    · rw [heq]
      exact h.silent ht rfl rfl (fun _ => rfl) fun hgoes => ⟨hgoes, le_rfl⟩
    · rw [heq]
      exact h.silent ht rfl rfl (fun _ => rfl) fun hgoes => ⟨hgoes, hlow⟩
    · rw [heq]
      exact h.silent ht rfl rfl (fun _ => rfl) nofun
    · obtain rfl := hserves.currentHeight _ hheight
      refine ⟨hfollows, fun hgoes' => ?_⟩
      rw [heq] at hgoes' ⊢
      exact h.polled hgoes hpendings ht hserves hconfirmations hwrap (by simpa using hgoes')
  | observe node txId =>
    obtain rfl := Option.some.inj hstep
    simp only [observe]
    split <;> exact h.silent ht rfl rfl (fun _ => rfl) fun hgoes => ⟨hgoes, le_rfl⟩
  | reObserve node =>
    obtain rfl := Option.some.inj hstep
    obtain ⟨-, hpendings, hcurrent, hstopped⟩ := reObserve_frame node w
    exact h.silent ht hpendings hconfig (reObserve_forwarded node w) fun hgoes =>
      ⟨hstopped ▸ hgoes, hcurrent.le⟩

end Steps

/-! ## What is delivered -/

section Delivery

variable {H : History} {t t' : Nat} {w : Watcher} {config : Config} {sent : List ConfirmedMessages}
  {h : Nat} {pending : PendingMessages} {node : FullNode}

/-- The confirmations that are counted are no more than those that are required. -/
theorem messageFromEvent_le_required {event : Event} {msg : Message}
    (hok : messageFromEvent event config.governanceContract config.minConfirmations8 = .ok msg) :
    msg.confirmations.toNat ≤ config.required event := by
  have hconf := messageFromEvent_confirmations hok
  have hmin := Nat.mod_le config.minConfirmations.toNat 256
  have hlevel := Nat.mod_le event.consistencyLevel 256
  rw [Config.required]
  split at hconf
  · rename_i hgovernance
    rw [if_pos hgovernance]
    omega
  · rename_i hother
    rw [if_neg hother]
    omega

theorem minConfirmations_le_required (config : Config) (event : Event) :
    config.minConfirmations.toNat ≤ config.required event := by
  rw [Config.required]
  split
  · exact le_max_left ..
  · exact le_rfl

/-- **One height.** An event of the canonical block that has all its confirmations is forwarded. -/
theorem Tracked.confirmed (htracked : Tracked H t config sent h pending)
    (hserves : Serves node (H.view t)) (hmessages : pending.messages ≠ [])
    {remaining : Option PendingMessages} {confirmed : Option ConfirmedMessages}
    (hcheck : Alephium.checkHeight config node (H.view t).height h pending
      = .ok (remaining, confirmed)) {e : Event}
    (he : e ∈ ((H.view t).block h).watched config.contracts)
    (henough : h + config.required e ≤ (H.view t).height) :
    e ∈ forwarded sent h ∨ ∃ c, confirmed = some c ∧ e ∈ c.messages := by
  have hle : ∀ n ≤ config.required e, addHeight h n ≤ (H.view t).height := fun n hn =>
    (Nat.mod_le _ _).trans (by omega)
  rcases checkHeight_eq_ok hcheck with ⟨hempty, -⟩ | ⟨-, hlt, -⟩ | ⟨-, -, p, hp, hsplit⟩
  · exact absurd hempty hmessages
  · have hmin := hle config.minConfirmations32
      ((Nat.mod_le _ _).trans (minConfirmations_le_required config e))
    exact absurd hlt (Nat.not_lt.mpr hmin)
  · obtain ⟨-, hof, hall⟩ := htracked.recheck hserves hmessages hp
    rw [splitConfirmed_eq] at hsplit
    obtain ⟨-, hconfirmed⟩ := hsplit
    refine (hall e he).imp_right fun he => ⟨_, hconfirmed, ?_⟩
    obtain ⟨msg, hmsg, rfl⟩ := List.mem_map.mp he
    refine List.mem_map_of_mem (List.mem_filter.mpr ⟨hmsg, decide_eq_true ?_⟩)
    exact hle _ (messageFromEvent_le_required (hof.messages msg hmsg).2)

/-- **A tick** that polls to the end forwards what is confirmed. -/
theorem Catches.delivers {f : Nat} (hcatches : Catches H f t w) (ht : t ≤ t')
    (hconfirmations : H.confirmations ≤ w.config.minConfirmations.toNat)
    (hok : Followed H (t, w) (t', .tick node)) (hnew : w.currentHeight < (H.view t').height)
    (hgoes : (tick node w).stopped = false) (hf : f ≤ h) {e : Event}
    (he : e ∈ (H.view t').canonicalEvents h)
    (hgovernance : e.contractAddress = w.config.governanceContract)
    (henough : h + w.config.required e ≤ (H.view t').height) :
    e ∈ forwarded (tick node w).sent h := by
  obtain ⟨hserves, hwrap, hempty⟩ : Serves node (H.view t') ∧
      (H.view t').height + w.config.minConfirmations.toNat < 2 ^ 32 ∧
      (w.stopped = false → w.currentHeight < (H.view t').height → EmptyStays (H.view t') w) := hok
  obtain ⟨hle, hevent⟩ := View.mem_canonicalEvents.mp he
  have hwatched : e ∈ ((H.view t').block h).watched w.config.contracts :=
    Block.mem_watched.mpr ⟨hevent, by simp [Config.contracts, hgovernance]⟩
  rcases tick_cases node w with ⟨hstopped, heq⟩ | ⟨height, -, hheight, hlow, -⟩ | ⟨height, heq⟩ |
    ⟨height, pendings, hgoes', hheight, -, -, hpendings, heq⟩
  · rw [heq, hstopped] at hgoes
    cases hgoes
  · obtain rfl := hserves.currentHeight _ hheight
    omega
  · rw [heq] at hgoes
    cases hgoes
  · obtain rfl := hserves.currentHeight _ hheight
    rw [heq] at hgoes ⊢
    have hdone : (checkConfirmations w.config node (H.view t').height pendings).2.2 = true := by
      simpa using hgoes
    obtain ⟨-, htracked⟩ := hcatches.toFollows.fetched ht hserves hpendings
    rcases hcatches.fetched hgoes' hpendings hf hle with ⟨pending, hp⟩ | ⟨s, hs, hsettled, hall⟩
    · rcases checkConfirmations_of_mem hp with ⟨hstop, -⟩ | ⟨remaining, confirmed, hcheck, -, hc⟩
      · rw [hdone] at hstop
        cases hstop
      · by_cases hmessages : pending.messages = []
        · exact absurd hgovernance (hcatches.toFollows.fetched_empty hserves (hempty hgoes' hnew) hnew
            hpendings hp hmessages e he)
        · rcases (htracked _ hp).confirmed hserves hmessages hcheck hwatched henough with
            hold | ⟨c, rfl, hnow⟩
          · exact forwarded_append.mpr (.inl hold)
          · obtain ⟨hre, hheight, -⟩ :=
              ((htracked _ hp).checkHeight hserves hconfirmations hwrap hcheck).1 c rfl
            exact forwarded_append.mpr (.inr (mem_forwarded.mpr ⟨c, hc c rfl, hre, hheight, hnow⟩))
    · obtain ⟨-, hblock⟩ := H.stable s t' (hs.trans ht) h hsettled
      exact forwarded_append.mpr (.inl (hall e (hblock ▸ hwatched)))

/-- **Nothing is lost from the start on.** The watcher restarts with the last height `L` in the store, at
the chain height `C`.  A message above `L` is forwarded by the tick that polls when it has its
confirmations, if it is not more than 100 below `C` in the case that `L` is: while the watcher goes on,
no sum of heights wraps, and no block without messages is replaced by one with messages. -/
theorem restarted_delivers {db db' : Db} {L C f t₀ : Nat} {w₀ : Watcher} {node₀ node₁ : FullNode}
    (hstored : db lastBlockHeightKey = some (beBytes 4 L)) (hL : L + MaxForkHeight < 2 ^ 32)
    (hheight : node₀.currentHeight = .ok C) (hC : C < 2 ^ 32)
    (hrestart : fetchContractAddresses w₀.config node₀ db = .ok (f, db')) (hsent : w₀.sent = [])
    (hserves : Serves node₁ (H.view t₀))
    (hconfirmations : H.confirmations ≤ w₀.config.minConfirmations.toNat)
    (hrun : Run Alephium.follow (Continued H) (t₀, startEvents node₁ f w₀) (t, w))
    (hok : Continued H (t, w) (t', .tick node)) (ht : t ≤ t')
    (hnew : w.currentHeight < (H.view t').height) (hgoes : (tick node w).stopped = false)
    {e : Event} (hlt : L < h) (hgap : L + MaxForkHeight < C → C ≤ h + MaxForkHeight)
    (he : e ∈ (H.view t').canonicalEvents h)
    (hgovernance : e.contractAddress = w₀.config.governanceContract)
    (henough : h + w₀.config.required e ≤ (H.view t').height) :
    e ∈ forwarded (tick node w).sent h := by
  have hconfig₀ : (startEvents node₁ f w₀).config = w₀.config := by
    unfold startEvents
    split <;> rfl
  obtain ⟨hcatches, hconfig⟩ : Catches H f t w ∧ w.config = w₀.config := by
    refine hrun.invariant (I := fun p => Catches H f p.1 p.2 ∧ p.2.config = w₀.config)
      (fun p a p' h hok hstep => ?_) ⟨.start hsent hserves f, hconfig₀⟩
    obtain ⟨hcatches, hsame⟩ := h.1.follow (by rw [h.2]; exact hconfirmations) hok hstep
    exact ⟨hcatches, hsame.trans h.2⟩
  rw [← hconfig] at hconfirmations hgovernance henough
  have hf : f ≤ h := by
    rcases fetchContractAddresses_start hstored hL hheight hC hrestart with ⟨-, rfl⟩ | ⟨hfar, hf⟩
    · omega
    · have := hgap hfar
      omega
  exact hcatches.delivers ht hconfirmations hok.1 hnew hgoes hf he hgovernance henough

end Delivery

/-! ## A tick that goes on -/

section Progress

variable {config : Config} {node : FullNode}

/-- A height is checked, when its block can be asked for again. -/
theorem checkHeight_answered {currentHeight h : Nat} (pending : PendingMessages)
    (hfetch : (getMessagesFromBlock config node h).IsOk)
    (hcanonical : ∀ hash, (node.isBlockInMainChain hash).IsOk) :
    (checkHeight config node currentHeight h pending).IsOk := by
  have hrecheck : (recheck config node h pending).IsOk := by
    unfold recheck
    split
    · exact Go.isOk_ok _
    · rename_i msg _ _
      obtain ⟨answer, hanswer⟩ := hcanonical msg.event.blockHash
      rw [hanswer, Go.ok_bind]
      split
      · exact Go.isOk_ok _
      · exact hfetch
  obtain ⟨p, hp⟩ := hrecheck
  unfold checkHeight
  split
  · exact Go.isOk_ok _
  · split
    · exact Go.isOk_ok _
    · rw [hp, Go.ok_bind]
      exact Go.isOk_ok _

theorem checkConfirmations_answered {currentHeight : Nat} {pendings : List (Nat × PendingMessages)}
    (h : ∀ x ∈ pendings, (checkHeight config node currentHeight x.1 x.2).IsOk) :
    (checkConfirmations config node currentHeight pendings).2.2 = true := by
  induction pendings with
  | nil => rfl
  | cons x pendings ih =>
    obtain ⟨⟨⟨remaining, sent⟩, hx⟩, hrest⟩ := List.forall_mem_cons.mp h
    rw [checkConfirmations, hx]
    exact ih hrest

theorem fetchHeights_answered {n h : Nat} {pendings : List (Nat × PendingMessages)}
    (hfetch : ∀ height < h + n, (getMessagesFromBlock config node height).IsOk) :
    (fetchHeights config node n h pendings).IsOk := by
  induction n generalizing h pendings with
  | zero => exact Go.isOk_ok _
  | succ n ih =>
    obtain ⟨msgs, hmsgs⟩ := hfetch h (by omega)
    rw [fetchHeights, hmsgs, Go.ok_bind]
    exact ih fun height hlt => hfetch height (by omega)

/-- **A tick goes on**, and sees the height of the chain, when every request it may make is answered. -/
theorem tick_answered {w : Watcher} {height : Nat} (hgoes : w.stopped = false)
    (hheight : node.currentHeight = .ok height) (hlt : height < 2 ^ 32 - 1)
    (hsorted : SortedMap.Sorted w.pendings) (hpendings : ∀ x ∈ w.pendings, x.1 ≤ height)
    (hfetch : ∀ h ≤ height, (getMessagesFromBlock w.config node h).IsOk)
    (hcanonical : ∀ hash, (node.isBlockInMainChain hash).IsOk) :
    (tick node w).stopped = false ∧ (tick node w).sharedHeight = height := by
  by_cases hnew : height ≤ w.currentHeight
  · rw [tick, if_neg (by simp [hgoes]), hheight]
    simp [hnew, hgoes]
  · obtain ⟨pendings, hfetched⟩ : (fetchHeights w.config node (height - w.currentHeight)
        (w.currentHeight + 1) w.pendings).IsOk :=
      fetchHeights_answered fun h hlt => hfetch h (by omega)
    have hle : ∀ x ∈ pendings, x.1 ≤ height := by
      intro x hx
      rcases ((fetchHeights_eq_ok hsorted hfetched).2 x).mp hx with ⟨hold, -⟩ | ⟨hbounds, -⟩
      · exact hpendings x hold
      · omega
    have hdone : (checkConfirmations w.config node height pendings).2.2 = true :=
      checkConfirmations_answered fun x hx => checkHeight_answered x.2 (hfetch x.1 (hle x hx)) hcanonical
    have hmax : height ≠ 2 ^ 32 - 1 := Nat.ne_of_lt hlt
    rw [tick, if_neg (by simp [hgoes]), hheight]
    simp only [if_neg hnew, if_neg hmax, hfetched, hdone, Bool.not_true, and_self]

/-- The messages of a block, when its events can be read. -/
theorem messagesFromEvents_answered {events : List Event}
    (h : ∀ e ∈ events, (messageFromEvent e config.governanceContract config.minConfirmations8).IsOk) :
    (messagesFromEvents config.governanceContract config.minConfirmations8 events).IsOk := by
  induction events with
  | nil => exact Go.isOk_ok _
  | cons e events ih =>
    obtain ⟨⟨msg, hmsg⟩, hrest⟩ := List.forall_mem_cons.mp h
    obtain ⟨msgs, hmsgs⟩ := ih hrest
    rw [messagesFromEvents, hmsg, Go.ok_bind, hmsgs]
    exact Go.isOk_ok _

/-- **A node that answers from a view** has the messages of every block whose events can be read. -/
theorem View.node_answers {view : View} {heightOf : Byte32 → Nat}
    (hheightOf : ∀ h ≤ view.height, heightOf (view.block h).hash = h) {h : Nat} (hle : h ≤ view.height)
    (hread : ∀ e ∈ (view.block h).events,
      (messageFromEvent e config.governanceContract config.minConfirmations8).IsOk) :
    (getMessagesFromBlock config (view.node heightOf) h).IsOk := by
  have hholds : view.Holds heightOf (view.block h).hash := View.holds hheightOf hle
  have hheader : (view.node heightOf).blockHeader (view.block h).hash = .ok ((view.block h).header h) := by
    simp only [View.node, if_pos hholds, hheightOf h hle]
  have hasked : ∀ contract, (view.node heightOf).eventsFromBlock (view.block h).hash contract
      = .ok ((view.block h).events.filter (·.contractAddress = contract)) := by
    intro contract
    simp only [View.node, if_pos hholds, hheightOf h hle]
  have hevents : ∀ contracts, getContractEventsFromBlockHash (view.node heightOf) (view.block h).hash
      contracts = .ok ((view.block h).watched contracts) := by
    intro contracts
    induction contracts with
    | nil => rfl
    | cons contract contracts ih =>
      rw [getContractEventsFromBlockHash, hasked, Go.ok_bind, ih]
      rfl
  have hhash : getHashByHeight (view.node heightOf) h = .ok (view.block h).hash := by
    simp only [getHashByHeight, View.node, if_pos hle, Go.ok_bind, Go.pure_eq]
  obtain ⟨msgs, hmsgs⟩ : (messagesFromEvents config.governanceContract config.minConfirmations8
      (((view.block h).watched config.contracts).filter fun _ => true)).IsOk :=
    messagesFromEvents_answered fun e he =>
      hread e (Block.mem_watched.mp (List.mem_filter.mp he).1).1
  rw [getMessagesFromBlock, hhash, Go.ok_bind, getPendingMessageFromBlockHash, hevents, Go.ok_bind,
    hheader, Go.ok_bind, hmsgs]
  exact Go.isOk_ok _

end Progress

/-- **Nothing below is forwarded** by a tick, when nothing below is pending. -/
theorem Follows.tick_below {H : History} {t t' f h : Nat} {w : Watcher} {node : FullNode}
    (hfollows : Follows H t w) (ht : t ≤ t') (hserves : Serves node (H.view t'))
    (hconfirmations : H.confirmations ≤ w.config.minConfirmations.toNat)
    (hwrap : (H.view t').height + w.config.minConfirmations.toNat < 2 ^ 32)
    (hf : f ≤ w.currentHeight) (hpendings : ∀ x ∈ w.pendings, f ≤ x.1) (hlt : h < f) {e : Event}
    (he : e ∈ forwarded (Alephium.tick node w).sent h) : e ∈ forwarded w.sent h := by
  rcases tick_cases node w with ⟨-, heq⟩ | ⟨_, -, -, -, heq⟩ | ⟨_, heq⟩ |
    ⟨height, pendings, -, hheight, -, -, hfetched, heq⟩
  · exact heq ▸ he
  · exact (congrArg (e ∈ forwarded ·.sent h) heq).mp he
  · exact (congrArg (e ∈ forwarded ·.sent h) heq).mp he
  · rw [heq] at he
    obtain rfl := hserves.currentHeight _ hheight
    rcases forwarded_append.mp he with he | he
    · exact he
    · obtain ⟨c, hc, -, rfl, -⟩ := mem_forwarded.mp he
      obtain ⟨-, htracked⟩ := hfollows.fetched ht hserves hfetched
      obtain ⟨-, -, pending, hp, -⟩ :=
        checkConfirmations_settled htracked hserves hconfirmations hwrap c hc
      rcases ((fetchHeights_eq_ok hfollows.sorted hfetched).2 _).mp hp with ⟨hold, -⟩ | ⟨hbounds, -⟩
      · have := hpendings _ hold
        omega
      · omega

/-! ## Inputs -/

/-- A message in the block at the height `h`. -/
def eventsAt (h height : Nat) : List ChainEvent :=
  if height = h then [sampleMessage [0x00, 0x00, 0x00, 0x00, 0x02] 0] else []

/-- A store with this last height. -/
def storedHeight (L : Nat) : Db := fun key =>
  if key = lastBlockHeightKey then some (beBytes 4 L) else none

theorem storedHeight_start {events : Nat → List ChainEvent}
    (h : (fetchContractAddresses (freshWatcher 0).config (sampleNode 102 events) (storedHeight 0)).IsOk) :
    ∃ db', fetchContractAddresses (freshWatcher 0).config (sampleNode 102 events) (storedHeight 0)
      = .ok (2, db') := by
  obtain ⟨⟨f, db'⟩, h⟩ := h
  have hstored : storedHeight 0 lastBlockHeightKey = some (beBytes 4 0) := if_pos rfl
  have hheight : (sampleNode 102 events).currentHeight = .ok 102 := rfl
  rcases fetchContractAddresses_start hstored (by decide) hheight (by decide) h with ⟨hle, -⟩ | ⟨-, hf⟩
  · exact absurd hle (by decide)
  · obtain rfl : f = 2 := Nat.add_right_cancel hf
    exact ⟨db', h⟩

/-- A watcher that has started at the height 2 on a chain of height 102, and polled once. -/
def restarted (events : Nat → List ChainEvent) : Watcher :=
  tick (sampleNode 103 events) (startEvents (sampleNode 102 events) 2 (freshWatcher 0))

theorem eventsAt_read (k height h : Nat) : ∀ e ∈ ((sampleView height (eventsAt k)).block h).events,
    (messageFromEvent e (freshWatcher 0).config.governanceContract
      (freshWatcher 0).config.minConfirmations8).IsOk := by
  intro e he
  obtain ⟨event, hevent, rfl⟩ := List.mem_map.mp he
  rw [eventsAt] at hevent
  split at hevent
  · obtain rfl := List.mem_singleton.mp hevent
    exact ⟨_, rfl⟩
  · cases hevent

theorem sampleNode_answers (k : Nat) {height h : Nat} (hheight : height < 256 ^ 32) (hle : h ≤ height) :
    (getMessagesFromBlock (freshWatcher 0).config (sampleNode height (eventsAt k)) h).IsOk := by
  have hheightOf := sampleView_heightOf (eventsAt k) hheight
  have hread := eventsAt_read k height h
  rw [sampleNode]
  exact View.node_answers hheightOf hle hread

/-- The start at the height 2. -/
theorem startEvents_sample (k : Nat) : ∃ msgs, startEvents (sampleNode 102 (eventsAt k)) 2 (freshWatcher 0)
    = { freshWatcher 0 with currentHeight := 2, pendings := [(2, msgs)], stopped := false } := by
  obtain ⟨msgs, hmsgs⟩ := @sampleNode_answers k 102 2 (by norm_num) (by decide)
  exact ⟨msgs, by rw [startEvents, hmsgs]⟩

theorem restarted_goes (k : Nat) :
    (restarted (eventsAt k)).stopped = false ∧ (restarted (eventsAt k)).sharedHeight = 103 := by
  obtain ⟨msgs, hstart⟩ := startEvents_sample k
  rw [restarted, hstart]
  refine tick_answered rfl rfl (by decide) (List.pairwise_singleton ..) (fun x hx => ?_) (fun h hle => ?_)
    fun hash => Go.isOk_ok _
  · obtain rfl := List.mem_singleton.mp hx
    exact show 2 ≤ 103 by decide
  · exact sampleNode_answers k (by norm_num) hle

/-- The message at the height 3 is forwarded, with 0 stored at the chain height 102. -/
theorem restarted_delivers_sample : ∃ e, e ∈ forwarded (restarted (eventsAt 3)).sent 3 := by
  obtain ⟨e, he, hgovernance, henough⟩ :
      ∃ e ∈ ((sampleHistory 102 (eventsAt 3)).view 1).canonicalEvents 3,
        e.contractAddress = (freshWatcher 0).config.governanceContract ∧
        3 + (freshWatcher 0).config.required e ≤ 103 := by decide +kernel
  have hempty : EmptyStays ((sampleHistory 102 (eventsAt 3)).view 1)
      (startEvents (sampleNode 102 (eventsAt 3)) 2 (freshWatcher 0)) := by
    unfold EmptyStays
    decide +kernel
  have hstep : Continued (sampleHistory 102 (eventsAt 3))
      (0, startEvents (sampleNode 102 (eventsAt 3)) 2 (freshWatcher 0))
      (1, .tick (sampleNode 103 (eventsAt 3))) :=
    ⟨⟨sampleNode_serves 102 (eventsAt 3) 1, by decide +kernel, fun _ _ => hempty⟩, nofun⟩
  obtain ⟨db', hrestart⟩ := @storedHeight_start (eventsAt 3) (by decide +kernel)
  exact ⟨e, restarted_delivers (if_pos rfl) (by decide) rfl (by decide) hrestart rfl
    (sampleNode_serves 102 (eventsAt 3) 0) (by decide) (Run.refl _) hstep (by decide) (by decide +kernel)
    (restarted_goes 3).1 (by decide) (by decide) he hgovernance henough⟩

/-- **A message is skipped.** It is at the height 1, with 0 stored at the chain height 102: polling starts
at the height 2. -/
theorem olderMessage_skipped :
    (∃ db', fetchContractAddresses (freshWatcher 0).config (sampleNode 102 (eventsAt 1)) (storedHeight 0)
      = .ok (2, db')) ∧
    (restarted (eventsAt 1)).stopped = false ∧
    ∃ e ∈ (sampleView 103 (eventsAt 1)).canonicalEvents 1,
      e.contractAddress = (freshWatcher 0).config.governanceContract ∧
      1 + (freshWatcher 0).config.required e ≤ (restarted (eventsAt 1)).sharedHeight ∧
      e ∉ forwarded (restarted (eventsAt 1)).sent 1 := by
  obtain ⟨hgoes, hshared⟩ := restarted_goes 1
  obtain ⟨e, he, hgovernance, henough⟩ : ∃ e ∈ (sampleView 103 (eventsAt 1)).canonicalEvents 1,
      e.contractAddress = (freshWatcher 0).config.governanceContract ∧
      1 + (freshWatcher 0).config.required e ≤ 103 := by decide +kernel
  refine ⟨storedHeight_start (by decide +kernel), hgoes, e, he, hgovernance, hshared ▸ henough, ?_⟩
  obtain ⟨msgs, hstart⟩ := startEvents_sample 1
  have hfollows : Follows (sampleHistory 102 (eventsAt 1)) 0
      (startEvents (sampleNode 102 (eventsAt 1)) 2 (freshWatcher 0)) :=
    (Catches.start rfl (sampleNode_serves 102 (eventsAt 1) 0) 2).toFollows
  rw [restarted]
  rw [hstart] at hfollows ⊢
  intro hforwarded
  have hwrap : 103 + (freshWatcher 0).config.minConfirmations.toNat < 2 ^ 32 := by decide
  have hbelow := hfollows.tick_below (Nat.zero_le 1) (sampleNode_serves 102 (eventsAt 1) 1) (Nat.zero_le _)
    hwrap (le_refl 2) (fun x hx => List.mem_singleton.mp hx ▸ le_refl 2) (by decide) hforwarded
  cases hbelow

end Wormhole.Guardian.Alephium

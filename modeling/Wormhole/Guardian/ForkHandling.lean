/-
# Wormhole.Guardian.ForkHandling — blocks that are replaced while they are pending.

A `History` is what becomes of the chain: blocks may be replaced until they have enough confirmations.
The watcher follows it, one view a tick.  Before it forwards the messages of a height, it asks whether
their block is still on the main chain, and fetches the height again when it is not; a height without
messages is reported at once and never looked at again.  `finished_canonical` says that what has been
forwarded for a height is what its canonical block holds, as long as no block without messages is
replaced by one with messages.
-/
import Mathlib
import Wormhole.Lib.Bytes
import Wormhole.Lib.Go
import Wormhole.Lib.SortedMap
import Wormhole.Lib.Transition
import Wormhole.Guardian.AlephiumEvent
import Wormhole.Guardian.Validator
import Wormhole.Guardian.Watcher
import Wormhole.Guardian.ChainView
import Wormhole.Guardian.Confirmations

namespace Wormhole.Guardian.Alephium

open Wormhole.Lib Wormhole.Lib.Bytes Wormhole.Lib.Transition

/-! ## Histories -/

/-- The views of the chain over time.  A block with enough confirmations stays, and a hash is that of one
block at one height. -/
structure History where
  view : Nat → View
  confirmations : Nat
  stable : ∀ t t', t ≤ t' → ∀ h, h + confirmations ≤ (view t).height →
    h ≤ (view t').height ∧ (view t').block h = (view t).block h
  hash_injective : ∀ t t' h h', h ≤ (view t).height → h' ≤ (view t').height →
    ((view t).block h).hash = ((view t').block h').hash → h = h' ∧ (view t).block h = (view t').block h'

/-- The events of the canonical block at a height. -/
def View.canonicalEvents (view : View) (h : Nat) : List Event :=
  if h ≤ view.height then (view.block h).events else []

theorem View.mem_canonicalEvents {view : View} {h : Nat} {e : Event} :
    e ∈ view.canonicalEvents h ↔ h ≤ view.height ∧ e ∈ (view.block h).events := by
  unfold canonicalEvents
  split <;> simp_all

/-- A step at a moment that is not before the last one. -/
def follow (p : Nat × Watcher) (a : Nat × WatcherStep) : Option (Nat × Watcher) :=
  if p.1 ≤ a.1 then (watch p.2 a.2).map (Prod.mk a.1) else none

theorem follow_eq_some {p p' : Nat × Watcher} {a : Nat × WatcherStep} :
    follow p a = some p' ↔ p.1 ≤ a.1 ∧ p'.1 = a.1 ∧ watch p.2 a.2 = some p'.2 := by
  unfold follow
  split
  · rename_i hle
    rw [Option.map_eq_some_iff]
    constructor
    · rintro ⟨w, hw, rfl⟩
      exact ⟨hle, rfl, hw⟩
    · rintro ⟨-, ht, hw⟩
      exact ⟨p'.2, hw, Prod.ext ht.symm rfl⟩
  · rename_i hlt
    simp [hlt]

/-- What polling has forwarded for a height. -/
def forwarded (sent : List ConfirmedMessages) (h : Nat) : List Event :=
  (sent.filter fun c => !c.reObserved && c.blockHeader.height = h).flatMap (·.messages)

theorem mem_forwarded {sent : List ConfirmedMessages} {h : Nat} {e : Event} :
    e ∈ forwarded sent h ↔
      ∃ c ∈ sent, c.reObserved = false ∧ c.blockHeader.height = h ∧ e ∈ c.messages := by
  simp only [forwarded, List.mem_flatMap, List.mem_filter, Bool.and_eq_true, Bool.not_eq_eq_eq_not,
    Bool.not_true, decide_eq_true_eq, and_assoc]

theorem forwarded_append {sent new : List ConfirmedMessages} {h : Nat} {e : Event} :
    e ∈ forwarded (sent ++ new) h ↔ e ∈ forwarded sent h ∨ e ∈ forwarded new h := by
  simp only [forwarded, List.filter_append, List.flatMap_append, List.mem_append]

theorem startEvents_sent (node : FullNode) (fromHeight : Nat) (w : Watcher) :
    (startEvents node fromHeight w).sent = w.sent := by
  unfold startEvents
  split <;> rfl

/-- Re-observation leaves the variables of `getEvents` alone. -/
theorem reObserve_frame (node : FullNode) (w : Watcher) :
    (reObserve node w).config = w.config ∧ (reObserve node w).pendings = w.pendings ∧
    (reObserve node w).currentHeight = w.currentHeight ∧ (reObserve node w).stopped = w.stopped := by
  unfold reObserve
  split
  · exact ⟨rfl, rfl, rfl, rfl⟩
  · split
    · simp only
      split <;> exact ⟨rfl, rfl, rfl, rfl⟩
    · exact ⟨rfl, rfl, rfl, rfl⟩

/-- Re-observation forwards nothing more for a height that is polled. -/
theorem reObserve_forwarded (node : FullNode) (w : Watcher) (h : Nat) :
    forwarded (reObserve node w).sent h = forwarded w.sent h := by
  unfold reObserve
  split
  · rfl
  · split
    · simp only
      split
      · rfl
      · simp [forwarded]
    · rfl

/-! ## What is pending -/

/-- A pending height was fetched from a block of the history, and everything in that block is either
forwarded or pending. -/
def Tracked (H : History) (t : Nat) (config : Config) (sent : List ConfirmedMessages) (h : Nat)
    (pending : PendingMessages) : Prop :=
  ∃ s ≤ t, h ≤ (H.view s).height ∧ PendingOf config ((H.view s).block h) h pending ∧
    ∀ e ∈ ((H.view s).block h).watched config.contracts,
      e ∈ forwarded sent h ∨ e ∈ pending.messages.map Message.event

/-- An event of the canonical block at a height that has enough confirmations. -/
def Settled (H : History) (t : Nat) (config : Config) (h : Nat) (e : Event) : Prop :=
  ∃ s ≤ t, h + H.confirmations ≤ (H.view s).height ∧
    e ∈ ((H.view s).block h).watched config.contracts

section Height

variable {H : History} {t : Nat} {config : Config} {sent sent' : List ConfirmedMessages} {h : Nat}
  {pending : PendingMessages} {node : FullNode}

theorem Tracked.mono {t' : Nat} (htracked : Tracked H t config sent h pending) (ht : t ≤ t')
    (hsent : ∀ e ∈ forwarded sent h, e ∈ forwarded sent' h) :
    Tracked H t' config sent' h pending := by
  obtain ⟨s, hs, hle, hof, hall⟩ := htracked
  exact ⟨s, hs.trans ht, hle, hof, fun e he => (hall e he).imp_left (hsent e)⟩

theorem Settled.mono {t' : Nat} {e : Event} (hsettled : Settled H t config h e) (ht : t ≤ t') :
    Settled H t' config h e := by
  obtain ⟨s, hs, hle, he⟩ := hsettled
  exact ⟨s, hs.trans ht, hle, he⟩

/-- What is settled stays canonical. -/
theorem Settled.canonical {e : Event} (hsettled : Settled H t config h e) :
    h ≤ (H.view t).height ∧ e ∈ ((H.view t).block h).watched config.contracts := by
  obtain ⟨s, hs, hle, he⟩ := hsettled
  obtain ⟨hle', hblock⟩ := H.stable s t hs h hle
  exact ⟨hle', hblock.symm ▸ he⟩

/-- What is fetched now is tracked. -/
theorem Tracked.of_getMessagesFromBlock (hserves : Serves node (H.view t))
    (hok : getMessagesFromBlock config node h = .ok pending) :
    Tracked H t config sent h pending := by
  obtain ⟨hle, hof, hmap⟩ := hserves.getMessagesFromBlock hok
  exact ⟨t, le_rfl, hle, hof, fun e he => .inr (hmap.symm ▸ he)⟩

/-- **The check for forks.** What comes out of it is pending of the block that is canonical now: as it
was, or with all its messages. -/
theorem PendingOf.recheck {s : Nat} (hof : PendingOf config ((H.view s).block h) h pending)
    (hle : h ≤ (H.view s).height) (hserves : Serves node (H.view t))
    (hmessages : pending.messages ≠ []) {p : PendingMessages}
    (hok : Alephium.recheck config node h pending = .ok p) :
    h ≤ (H.view t).height ∧ PendingOf config ((H.view t).block h) h p ∧
      (p = pending ∧ (H.view t).block h = (H.view s).block h ∨
        p.messages.map Message.event = ((H.view t).block h).watched config.contracts) := by
  unfold Alephium.recheck at hok
  split at hok
  · rename_i hempty
    exact absurd hempty hmessages
  · rename_i msg rest hmsgs
    obtain ⟨isCanonical, hcanonical, hok⟩ := Go.bind_eq_ok.mp hok
    have hmsg := (hof.messages msg (hmsgs ▸ List.mem_cons_self ..)).1
    have hhash := ((H.view s).block h).blockHash_events _ (Block.mem_watched.mp hmsg).1
    rw [hhash] at hcanonical
    split at hok
    · -- the hash determines the block
      rename_i htrue
      obtain rfl := Go.ok.inj hok
      obtain ⟨h', hle', heq⟩ := (hserves.isBlockInMainChain _ _ hcanonical).mp htrue
      obtain ⟨rfl, hblock⟩ := H.hash_injective t s h' h hle' hle heq
      exact ⟨hle', hblock ▸ hof, .inl ⟨rfl, hblock⟩⟩
    · obtain ⟨hle', hof', hmap⟩ := hserves.getMessagesFromBlock hok
      exact ⟨hle', hof', .inr hmap⟩

/-- Nothing of the canonical block is lost by the check. -/
theorem Tracked.recheck (htracked : Tracked H t config sent h pending)
    (hserves : Serves node (H.view t)) (hmessages : pending.messages ≠ []) {p : PendingMessages}
    (hok : Alephium.recheck config node h pending = .ok p) :
    h ≤ (H.view t).height ∧ PendingOf config ((H.view t).block h) h p ∧
      ∀ e ∈ ((H.view t).block h).watched config.contracts,
        e ∈ forwarded sent h ∨ e ∈ p.messages.map Message.event := by
  obtain ⟨s, -, hle, hof, hall⟩ := htracked
  obtain ⟨hle', hof', ⟨rfl, hblock⟩ | hmap⟩ := hof.recheck hle hserves hmessages hok
  · exact ⟨hle', hof', hblock.symm ▸ hall⟩
  · exact ⟨hle', hof', fun e he => .inr (hmap.symm ▸ he)⟩

/-- What is left of the messages of a block. -/
theorem PendingOf.unconfirmed {b : Block} (hof : PendingOf config b h pending) {p : Message → Bool}
    (hne : pending.messages.filter p ≠ []) :
    PendingOf config b h ⟨pending.blockHeader, pending.messages.filter p⟩ :=
  ⟨hof.blockHeader, fun msg hmsg => hof.messages msg (List.mem_filter.mp hmsg).1,
    fun hempty => absurd hempty hne⟩

/-- **One height.** What is sent is settled, what stays is tracked, and when the height is finished
nothing of the canonical block is left. -/
theorem Tracked.checkHeight (htracked : Tracked H t config sent h pending)
    (hserves : Serves node (H.view t))
    (hconfirmations : H.confirmations ≤ config.minConfirmations.toNat)
    (hwrap : (H.view t).height + config.minConfirmations.toNat < 2 ^ 32)
    {remaining : Option PendingMessages} {confirmed : Option ConfirmedMessages}
    (hcheck : Alephium.checkHeight config node (H.view t).height h pending
      = .ok (remaining, confirmed)) :
    (∀ c ∈ confirmed, c.reObserved = false ∧ c.blockHeader.height = h ∧
      (∀ e ∈ c.messages, Settled H t config h e) ∧
      (c.finished = true → pending.messages ≠ [] → h + H.confirmations ≤ (H.view t).height ∧
        ∀ e ∈ ((H.view t).block h).watched config.contracts,
          e ∈ forwarded sent h ∨ e ∈ c.messages)) ∧
    ∀ p ∈ remaining, ∀ sent', (∀ e ∈ forwarded sent h, e ∈ forwarded sent' h) →
      (∀ c ∈ confirmed, c ∈ sent') → Tracked H t config sent' h p := by
  obtain ⟨s, hs, hle, hof, hall⟩ := id htracked
  rcases checkHeight_eq_ok hcheck with ⟨hempty, rfl, rfl⟩ | ⟨-, -, rfl, rfl⟩ |
    ⟨hmessages, henough, p, hp, hsplit⟩
  · refine ⟨fun c hc => ?_, fun p hp sent' hsent _ => ?_⟩
    · obtain rfl := Option.some.inj hc
      refine ⟨rfl, congrArg BlockHeader.height hof.blockHeader, fun e he => (List.not_mem_nil he).elim,
        fun _ hne => absurd hempty hne⟩
    · obtain rfl := Option.some.inj hp
      exact htracked.mono le_rfl hsent
  · refine ⟨nofun, fun p hp sent' hsent _ => ?_⟩
    obtain rfl := Option.some.inj hp
    exact htracked.mono le_rfl hsent
  · obtain ⟨hcanonical, hof', hall'⟩ := htracked.recheck hserves hmessages hp
    have hsettled : h + H.confirmations ≤ (H.view t).height := by
      rw [addHeight, Config.minConfirmations32, Nat.mod_eq_of_lt (show _ < 2 ^ 32 by omega),
        Nat.mod_eq_of_lt (by omega)] at henough
      omega
    rw [splitConfirmed_eq] at hsplit
    obtain ⟨rfl, rfl⟩ := hsplit
    -- every message is confirmed or it is not
    have hparts : ∀ e ∈ p.messages.map Message.event,
        e ∈ (p.messages.filter fun msg =>
          addHeight h msg.confirmations.toNat ≤ (H.view t).height).map Message.event ∨
        e ∈ (p.messages.filter fun msg =>
          (H.view t).height < addHeight h msg.confirmations.toNat).map Message.event := by
      intro e he
      obtain ⟨msg, hmsg, rfl⟩ := List.mem_map.mp he
      rcases Nat.lt_or_ge (H.view t).height (addHeight h msg.confirmations.toNat) with hlt | hge
      · exact .inr (List.mem_map_of_mem (List.mem_filter.mpr ⟨hmsg, decide_eq_true hlt⟩))
      · exact .inl (List.mem_map_of_mem (List.mem_filter.mpr ⟨hmsg, decide_eq_true hge⟩))
    have hheight : p.blockHeader.height = h := congrArg BlockHeader.height hof'.blockHeader
    refine ⟨fun c hc => ?_, fun p' hp' sent' hsent hconfirmed => ?_⟩
    · obtain rfl := Option.some.inj hc
      refine ⟨rfl, hheight, fun e he => ?_, fun hfinished _ => ⟨hsettled, fun e he => ?_⟩⟩
      · obtain ⟨msg, hmsg, rfl⟩ := List.mem_map.mp he
        exact ⟨t, le_rfl, hsettled, (hof'.messages msg (List.mem_filter.mp hmsg).1).1⟩
      · refine (hall' e he).imp_right fun he => (hparts e he).resolve_right fun he => ?_
        rw [of_decide_eq_true hfinished] at he
        exact List.not_mem_nil he
    · split at hp'
      · cases hp'
      · rename_i hne
        obtain rfl := Option.some.inj hp'
        refine ⟨t, le_rfl, hcanonical, hof'.unconfirmed hne, fun e he => ?_⟩
        rcases hall' e he with he | he
        · exact .inl (hsent e he)
        · rcases hparts e he with he | he
          · exact .inl (mem_forwarded.mpr ⟨_, hconfirmed _ rfl, rfl, hheight, he⟩)
          · exact .inr he

end Height

/-! ## Runs -/

/-- What is pending is tracked, and what is forwarded is settled. -/
structure Follows (H : History) (t : Nat) (w : Watcher) : Prop where
  sorted : SortedMap.Sorted w.pendings
  tracked : ∀ x ∈ w.pendings, Tracked H t w.config w.sent x.1 x.2
  settled : ∀ h, ∀ e ∈ forwarded w.sent h, Settled H t w.config h e

/-- **No block without messages has been replaced by one with messages**, unless its height is fetched
again. -/
def EmptyStays (view : View) (w : Watcher) : Prop :=
  ∀ x ∈ w.pendings, x.2.messages = [] → x.1 ≤ w.currentHeight ∨ view.height < x.1 →
    ∀ e ∈ view.canonicalEvents x.1, e.contractAddress ≠ w.config.governanceContract

/-- The full node answers from the view of the moment.  When a tick polls, nothing wraps and no block
without messages has been replaced. -/
def Followed (H : History) (p : Nat × Watcher) (a : Nat × WatcherStep) : Prop :=
  match a.2 with
  | .start node _ => Serves node (H.view a.1)
  | .tick node => Serves node (H.view a.1) ∧
      (H.view a.1).height + p.2.config.minConfirmations.toNat < 2 ^ 32 ∧
      (p.2.stopped = false → p.2.currentHeight < (H.view a.1).height → EmptyStays (H.view a.1) p.2)
  | _ => True

section Runs

variable {H : History} {t t' : Nat} {w w' : Watcher} {node : FullNode}

/-- A step that changes neither what is pending nor what is forwarded. -/
theorem Follows.silent (h : Follows H t w) (ht : t ≤ t') (hpendings : w'.pendings = w.pendings)
    (hconfig : w'.config = w.config) (hsent : ∀ h, forwarded w'.sent h = forwarded w.sent h) :
    Follows H t' w' := by
  refine ⟨?_, fun x hx => ?_, fun height e he => ?_⟩
  · rw [hpendings]
    exact h.sorted
  · rw [hpendings] at hx
    rw [hconfig]
    exact (h.tracked x hx).mono ht fun e he => (hsent x.1).symm ▸ he
  · rw [hsent] at he
    rw [hconfig]
    exact (h.settled height e he).mono ht

theorem Follows.start (hsettled : ∀ h, ∀ e ∈ forwarded w.sent h, Settled H t w.config h e)
    (hserves : Serves node (H.view t)) (fromHeight : Nat) :
    Follows H t (startEvents node fromHeight w) := by
  unfold startEvents
  split
  · rename_i msgs hmsgs
    refine ⟨List.pairwise_singleton .., fun x hx => ?_, hsettled⟩
    obtain rfl := List.mem_singleton.mp hx
    exact .of_getMessagesFromBlock hserves hmsgs
  · exact ⟨.nil, nofun, hsettled⟩

/-- The pending heights of a tick that polls. -/
theorem Follows.fetched (h : Follows H t w) (ht : t ≤ t') (hserves : Serves node (H.view t'))
    {n : Nat} {pendings : List (Nat × PendingMessages)}
    (hok : fetchHeights w.config node n (w.currentHeight + 1) w.pendings = .ok pendings) :
    SortedMap.Sorted pendings ∧ ∀ x ∈ pendings, Tracked H t' w.config w.sent x.1 x.2 := by
  obtain ⟨hsorted, hmem⟩ := fetchHeights_eq_ok h.sorted hok
  refine ⟨hsorted, fun x hx => ?_⟩
  rcases (hmem x).mp hx with ⟨hx, -⟩ | ⟨-, hx⟩
  · exact (h.tracked x hx).mono ht fun _ he => he
  · exact .of_getMessagesFromBlock hserves hx

/-- A height without messages: its block is the one seen first, or has just been fetched. -/
theorem Follows.fetched_empty (h : Follows H t w) (hserves : Serves node (H.view t'))
    (hempty : EmptyStays (H.view t') w) (hnew : w.currentHeight < (H.view t').height)
    {pendings : List (Nat × PendingMessages)}
    (hok : fetchHeights w.config node ((H.view t').height - w.currentHeight) (w.currentHeight + 1)
      w.pendings = .ok pendings) {height : Nat} {pending : PendingMessages}
    (hmem : (height, pending) ∈ pendings) (hmessages : pending.messages = []) :
    ∀ e ∈ (H.view t').canonicalEvents height, e.contractAddress ≠ w.config.governanceContract := by
  intro e he hgovernance
  rcases ((fetchHeights_eq_ok h.sorted hok).2 _).mp hmem with ⟨hold, hkept⟩ | ⟨-, hnow⟩
  · have hcase : height ≤ w.currentHeight ∨ (H.view t').height < height := by omega
    exact hempty _ hold hmessages hcase e he hgovernance
  · have hwatched : e ∈ ((H.view t').block height).watched w.config.contracts :=
      Block.mem_watched.mpr ⟨(View.mem_canonicalEvents.mp he).2, by simp [Config.contracts, hgovernance]⟩
    rw [(hserves.getMessagesFromBlock hnow).2.1.empty hmessages] at hwatched
    cases hwatched

section Polling

variable {config : Config} {sent : List ConfirmedMessages} {pendings : List (Nat × PendingMessages)}
  (htracked : ∀ x ∈ pendings, Tracked H t config sent x.1 x.2)
  (hserves : Serves node (H.view t)) (hconfirmations : H.confirmations ≤ config.minConfirmations.toNat)
  (hwrap : (H.view t).height + config.minConfirmations.toNat < 2 ^ 32)

include htracked hserves hconfirmations hwrap

/-- **What stays pending is tracked.** -/
theorem checkConfirmations_tracked :
    ∀ x ∈ (checkConfirmations config node (H.view t).height pendings).1, Tracked H t config
      (sent ++ (checkConfirmations config node (H.view t).height pendings).2.1) x.1 x.2 := by
  intro x hx
  have hmore : ∀ e ∈ forwarded sent x.1, e ∈ forwarded
      (sent ++ (checkConfirmations config node (H.view t).height pendings).2.1) x.1 :=
    fun e he => forwarded_append.mpr (.inl he)
  rcases mem_checkConfirmations.1 x hx with hx | ⟨pending, remaining, confirmed, hp, hr, hcheck, hc⟩
  · exact (htracked x hx).mono le_rfl hmore
  · exact ((htracked _ hp).checkHeight hserves hconfirmations hwrap hcheck).2 x.2 hr _ hmore
      fun c h => List.mem_append_right _ (hc c h)

/-- **What is sent is settled**, and when a height with messages is finished nothing of it is left. -/
theorem checkConfirmations_settled :
    ∀ c ∈ (checkConfirmations config node (H.view t).height pendings).2.1, c.reObserved = false ∧
      (∀ e ∈ c.messages, Settled H t config c.blockHeader.height e) ∧
      ∃ pending, (c.blockHeader.height, pending) ∈ pendings ∧
        (c.finished = true → pending.messages ≠ [] →
          c.blockHeader.height + H.confirmations ≤ (H.view t).height ∧
          ∀ e ∈ ((H.view t).block c.blockHeader.height).watched config.contracts,
            e ∈ forwarded sent c.blockHeader.height ∨ e ∈ c.messages) := by
  intro c hc
  obtain ⟨height, pending, remaining, confirmed, hp, hc, hcheck⟩ := mem_checkConfirmations.2 c hc
  obtain ⟨hre, rfl, hsettled, hfinished⟩ :=
    ((htracked _ hp).checkHeight hserves hconfirmations hwrap hcheck).1 c hc
  exact ⟨hre, hsettled, pending, hp, hfinished⟩

end Polling

/-- **Step.** A tick. -/
theorem Follows.tick (h : Follows H t w) (ht : t ≤ t') (hserves : Serves node (H.view t'))
    (hconfirmations : H.confirmations ≤ w.config.minConfirmations.toNat)
    (hwrap : (H.view t').height + w.config.minConfirmations.toNat < 2 ^ 32) :
    Follows H t' (Alephium.tick node w) := by
  rcases tick_cases node w with ⟨-, heq⟩ | ⟨height, -, -, -, heq⟩ | ⟨height, heq⟩ |
    ⟨height, pendings, -, hheight, -, -, hpendings, heq⟩
  · rw [heq]
    exact h.silent ht rfl rfl fun _ => rfl
  · rw [heq]
    exact h.silent ht rfl rfl fun _ => rfl
  · rw [heq]
    exact h.silent ht rfl rfl fun _ => rfl
  · rw [heq]
    obtain rfl := hserves.currentHeight _ hheight
    obtain ⟨hsorted, htracked⟩ := h.fetched ht hserves hpendings
    refine ⟨(checkConfirmations_sorted hsorted).1,
      checkConfirmations_tracked htracked hserves hconfirmations hwrap, fun height e he => ?_⟩
    rcases forwarded_append.mp he with he | he
    · exact (h.settled height e he).mono ht
    · obtain ⟨c, hc, -, rfl, hmsg⟩ := mem_forwarded.mp he
      exact (checkConfirmations_settled htracked hserves hconfirmations hwrap c hc).2.1 e hmsg

/-- **Step.** -/
theorem Follows.follow (h : Follows H t w)
    (hconfirmations : H.confirmations ≤ w.config.minConfirmations.toNat) {a : Nat × WatcherStep}
    (hok : Followed H (t, w) a) (hstep : Alephium.follow (t, w) a = some (t', w')) :
    Follows H t' w' ∧ w'.config = w.config := by
  obtain ⟨t'', step⟩ := a
  obtain ⟨ht, rfl, hstep⟩ := follow_eq_some.mp hstep
  cases step with
  | start node fromHeight =>
    obtain rfl := Option.some.inj hstep
    refine ⟨.start (fun height e he => (h.settled height e he).mono ht) hok fromHeight, ?_⟩
    unfold startEvents
    split <;> rfl
  | tick node =>
    obtain rfl := Option.some.inj hstep
    refine ⟨h.tick ht hok.1 hconfirmations hok.2.1, ?_⟩
    rcases tick_cases node w with ⟨-, heq⟩ | ⟨_, -, -, -, heq⟩ | ⟨_, heq⟩ | ⟨_, _, -, -, -, -, -, heq⟩
    all_goals rw [heq]
  | observe node txId =>
    obtain rfl := Option.some.inj hstep
    simp only [observe]
    split <;> exact ⟨h.silent ht rfl rfl fun _ => rfl, rfl⟩
  | reObserve node =>
    obtain rfl := Option.some.inj hstep
    obtain ⟨hconfig, hpendings, -⟩ := reObserve_frame node w
    exact ⟨h.silent ht hpendings hconfig (reObserve_forwarded node w), hconfig⟩

/-- **A tick finishes a height** when nothing of its canonical block is left. -/
theorem Follows.finished (h : Follows H t w) (ht : t ≤ t')
    (hconfirmations : H.confirmations ≤ w.config.minConfirmations.toNat)
    (hok : Followed H (t, w) (t', .tick node)) :
    ∃ new, (Alephium.tick node w).sent = w.sent ++ new ∧ ∀ c ∈ new, c.finished = true →
      ∀ e ∈ (H.view t').canonicalEvents c.blockHeader.height,
        e.contractAddress = w.config.governanceContract →
        e ∈ forwarded (Alephium.tick node w).sent c.blockHeader.height := by
  obtain ⟨hserves, hwrap, hempty⟩ : Serves node (H.view t') ∧
      (H.view t').height + w.config.minConfirmations.toNat < 2 ^ 32 ∧
      (w.stopped = false → w.currentHeight < (H.view t').height → EmptyStays (H.view t') w) := hok
  rcases tick_cases node w with ⟨-, heq⟩ | ⟨height, -, -, -, heq⟩ | ⟨height, heq⟩ |
    ⟨height, pendings, hgoes, hheight, hnew, -, hpendings, heq⟩
  · exact ⟨[], by simp [heq], nofun⟩
  · exact ⟨[], by simp [heq], nofun⟩
  · exact ⟨[], by simp [heq], nofun⟩
  · rw [heq]
    obtain rfl := hserves.currentHeight _ hheight
    refine ⟨_, rfl, fun c hc hfinished e he hgovernance => ?_⟩
    obtain ⟨hre, -, pending, hpending, hleft⟩ := checkConfirmations_settled
      (h.fetched ht hserves hpendings).2 hserves hconfirmations hwrap c hc
    have hwatched : e ∈ ((H.view t').block c.blockHeader.height).watched w.config.contracts :=
      Block.mem_watched.mpr ⟨(View.mem_canonicalEvents.mp he).2, by simp [Config.contracts, hgovernance]⟩
    by_cases hmessages : pending.messages = []
    · exact absurd hgovernance
        (h.fetched_empty hserves (hempty hgoes hnew) hnew hpendings hpending hmessages e he)
    · rcases (hleft hfinished hmessages).2 e hwatched with hold | hnow
      · exact forwarded_append.mpr (.inl hold)
      · exact forwarded_append.mpr (.inr (mem_forwarded.mpr ⟨c, hc, hre, rfl, hnow⟩))

/-- **What is forwarded is canonical.** In every run of the watcher on a chain whose blocks may be
replaced until they have enough confirmations, nothing of an orphaned block is forwarded, and when a
height is finished everything of its canonical block is: as long as no sum of heights wraps, and no block
without messages has been replaced by one with messages when a tick polls. -/
theorem finished_canonical {t₀ : Nat} {w₀ : Watcher} (hpendings : w₀.pendings = [])
    (hsent : w₀.sent = []) (hconfirmations : H.confirmations ≤ w₀.config.minConfirmations.toNat)
    (hrun : Run Alephium.follow (Followed H) (t₀, w₀) (t, w)) {a : Nat × WatcherStep}
    (hok : Followed H (t, w) a) (hstep : Alephium.follow (t, w) a = some (t', w')) :
    (∀ h, ∀ e ∈ forwarded w'.sent h, e ∈ (H.view t').canonicalEvents h) ∧
    ∃ new, w'.sent = w.sent ++ new ∧ ∀ c ∈ new, c.finished = true → c.reObserved = false →
      ∀ e, e.contractAddress = w₀.config.governanceContract →
        (e ∈ forwarded w'.sent c.blockHeader.height ↔
          e ∈ (H.view t').canonicalEvents c.blockHeader.height) := by
  obtain ⟨hfollows, hconfig⟩ : Follows H t w ∧ w.config = w₀.config := by
    refine hrun.invariant (I := fun p => Follows H p.1 p.2 ∧ p.2.config = w₀.config)
      (fun p a p' h hok hstep => ?_) ⟨⟨?_, ?_, ?_⟩, rfl⟩
    · obtain ⟨hfollows, hsame⟩ := h.1.follow (by rw [h.2]; exact hconfirmations) hok hstep
      exact ⟨hfollows, hsame.trans h.2⟩
    · rw [hpendings]
      exact .nil
    · simp [hpendings]
    · simp [hsent, forwarded]
  rw [← hconfig] at hconfirmations ⊢
  obtain ⟨hafter, hsame⟩ := hfollows.follow hconfirmations hok hstep
  have hcanonical : ∀ h, ∀ e ∈ forwarded w'.sent h, e ∈ (H.view t').canonicalEvents h := by
    intro h e he
    obtain ⟨hle, hwatched⟩ := (hafter.settled h e he).canonical
    exact View.mem_canonicalEvents.mpr ⟨hle, (Block.mem_watched.mp hwatched).1⟩
  refine ⟨hcanonical, ?_⟩
  obtain ⟨t'', step⟩ := a
  obtain ⟨ht, rfl, hstep⟩ := follow_eq_some.mp hstep
  cases step with
  | start node fromHeight =>
    obtain rfl := Option.some.inj hstep
    exact ⟨[], by rw [startEvents_sent, List.append_nil], nofun⟩
  | tick node =>
    obtain rfl := Option.some.inj hstep
    obtain ⟨new, hnew, hfinished⟩ := hfollows.finished ht hconfirmations hok
    exact ⟨new, hnew, fun c hc hfin _ e hgovernance =>
      ⟨hcanonical _ e, fun he => hfinished c hc hfin e he hgovernance⟩⟩
  | observe node txId =>
    obtain rfl := Option.some.inj hstep
    refine ⟨[], ?_, nofun⟩
    simp only [observe, List.append_nil]
    split <;> rfl
  | reObserve node =>
    obtain rfl := Option.some.inj hstep
    unfold reObserve
    split
    · exact ⟨[], by simp, nofun⟩
    · split
      · simp only
        split
        · exact ⟨[], by simp, nofun⟩
        · refine ⟨_, rfl, fun c hc _ hre => ?_⟩
          rw [List.mem_singleton.mp hc] at hre
          cases hre
      · exact ⟨[], by simp, nofun⟩

end Runs

/-! ## Inputs -/

theorem sampleHistory_stable (n : Nat) (events : Nat → List ChainEvent) : ∀ t t', t ≤ t' → ∀ h,
    h + 0 ≤ (sampleView (min (n + t) 1000) events).height → h ≤ (sampleView (min (n + t') 1000) events).height ∧
      (sampleView (min (n + t') 1000) events).block h = (sampleView (min (n + t) 1000) events).block h := by
  intro t t' ht h hle
  simp only [sampleView] at hle ⊢
  exact ⟨by omega, trivial⟩

theorem sampleHistory_hash_injective (n : Nat) (events : Nat → List ChainEvent) : ∀ t t' h h',
    h ≤ (sampleView (min (n + t) 1000) events).height → h' ≤ (sampleView (min (n + t') 1000) events).height →
    ((sampleView (min (n + t) 1000) events).block h).hash = ((sampleView (min (n + t') 1000) events).block h').hash →
    h = h' ∧ (sampleView (min (n + t) 1000) events).block h = (sampleView (min (n + t') 1000) events).block h' := by
  intro t t' h h' hle hle' heq
  simp only [sampleView] at hle hle'
  obtain rfl : h = h' := @beBytes_injective 32 h h' (by omega) (by omega) (congrArg Subtype.val heq)
  exact ⟨rfl, rfl⟩

/-- A chain that grows from the height `n` on by one block at a time. -/
def sampleHistory (n : Nat) (events : Nat → List ChainEvent) : History where
  view := fun t => sampleView (min (n + t) 1000) events
  confirmations := 0
  stable := sampleHistory_stable n events
  hash_injective := sampleHistory_hash_injective n events

theorem sampleNode_serves (n : Nat) (events : Nat → List ChainEvent) (t : Nat) :
    Serves (sampleNode (min (n + t) 1000) events) ((sampleHistory n events).view t) := by
  have hlt : min (n + t) 1000 < 256 ^ 32 := by omega
  exact View.node_serves (sampleView_heightOf events hlt)

/-- A chain whose block at the height 0 is replaced when the next one is added. -/
def forkedHistory (es es' : List ChainEvent) : History where
  view := fun t =>
    if t = 0 then
      { height := 0, block := fun h => sampleBlock ⟨beBytes 32 (2 * h), beBytes_length ..⟩ es }
    else
      { height := 1
        block := fun h => sampleBlock ⟨beBytes 32 (2 * h + 1), beBytes_length ..⟩
          (if h = 0 then es' else []) }
  confirmations := 1
  stable := by
    intro t t' ht h hle
    by_cases h₀ : t = 0
    · simp [h₀] at hle
    · simp only [h₀, show t' ≠ 0 by omega, if_false] at hle ⊢
      exact ⟨by omega, trivial⟩
  hash_injective := by
    have hinj : ∀ {m n : Nat} {es es' : List ChainEvent}, m ≤ 3 → n ≤ 3 →
        (sampleBlock ⟨beBytes 32 m, beBytes_length ..⟩ es).hash =
          (sampleBlock ⟨beBytes 32 n, beBytes_length ..⟩ es').hash → m = n := by
      intro m n es es' hm hn heq
      exact @beBytes_injective 32 m n (by omega) (by omega) (congrArg Subtype.val heq)
    intro t t' h h' hle hle' heq
    by_cases h₀ : t = 0 <;> by_cases h₀' : t' = 0 <;>
      simp only [h₀, h₀', if_true, if_false] at hle hle' heq ⊢
    · have := hinj (by omega) (by omega) heq
      obtain rfl : h = h' := by omega
      exact ⟨rfl, rfl⟩
    · have := hinj (by omega) (by omega) heq
      omega
    · have := hinj (by omega) (by omega) heq
      omega
    · have := hinj (by omega) (by omega) heq
      obtain rfl : h = h' := by omega
      exact ⟨rfl, rfl⟩

def forkedNode (es es' : List ChainEvent) (t : Nat) : FullNode :=
  ((forkedHistory es es').view t).node fun hash => beNat hash.val / 2

theorem forkedNode_serves (es es' : List ChainEvent) (t : Nat) :
    Serves (forkedNode es es' t) ((forkedHistory es es').view t) := by
  refine View.node_serves fun h hle => ?_
  have hheightOf : ∀ {n : Nat}, n ≤ 3 → beNat (beBytes 32 n) / 2 = n / 2 := fun hn => by
    rw [beNat_beBytes (by omega)]
  by_cases h₀ : t = 0
  · simp only [forkedHistory, h₀, if_true] at hle ⊢
    exact (hheightOf (by omega)).trans (by omega)
  · simp only [forkedHistory, h₀, if_false] at hle ⊢
    exact (hheightOf (by omega)).trans (by omega)

/-- The watcher starts at the height 0 and polls after the replacement. -/
def refetched (es es' : List ChainEvent) : Nat × Watcher :=
  attempts follow (0, freshWatcher 1)
    [(0, .start (forkedNode es es' 0) 0), (1, .tick (forkedNode es es' 1))]

/-- A message is replaced by another one, and the other one is forwarded. -/
theorem refetched_canonical :
    let es := [sampleMessage [0x00, 0x00, 0x00, 0x00, 0x02] 1]
    let es' := [sampleMessage [0x00, 0x00, 0x00, 0x00, 0x03] 1]
    (∃ c ∈ (refetched es es').2.sent, c.finished = true ∧ c.messages ≠ []) ∧
    ∀ c ∈ (refetched es es').2.sent, c.finished = true → c.reObserved = false →
      ∀ e, e.contractAddress = freshValidator.governanceContract →
        (e ∈ forwarded (refetched es es').2.sent c.blockHeader.height ↔
          e ∈ ((forkedHistory es es').view 1).canonicalEvents c.blockHeader.height) := by
  intro es es'
  refine ⟨by decide +kernel, ?_⟩
  have hstart : Run follow (Followed (forkedHistory es es')) (0, freshWatcher 1)
      (0, startEvents (forkedNode es es' 0) 0 (freshWatcher 1)) :=
    (Run.refl _).snoc (a := (0, .start (forkedNode es es' 0) 0))
      (forkedNode_serves es es' 0) rfl
  have hmessages : ∀ x ∈ (startEvents (forkedNode es es' 0) 0 (freshWatcher 1)).pendings,
      x.2.messages ≠ [] := by decide +kernel
  have htick : Followed (forkedHistory es es')
      (0, startEvents (forkedNode es es' 0) 0 (freshWatcher 1))
      (1, .tick (forkedNode es es' 1)) :=
    ⟨forkedNode_serves es es' 1, by decide +kernel,
      fun _ _ x hx hempty => absurd hempty (hmessages x hx)⟩
  have hstep : follow (0, startEvents (forkedNode es es' 0) 0 (freshWatcher 1))
      (1, .tick (forkedNode es es' 1)) = some (1, (refetched es es').2) := rfl
  obtain ⟨-, new, hnew, hall⟩ := finished_canonical rfl rfl (by decide) hstart htick hstep
  have hsent : (startEvents (forkedNode es es' 0) 0 (freshWatcher 1)).sent = [] :=
    startEvents_sent ..
  rw [hsent, List.nil_append] at hnew
  exact hnew ▸ hall

/-- **A message is missed.** It is in the block that replaces one without messages: its height is
finished, and it has not been forwarded. -/
theorem emptyBlock_missed :
    let es' := [sampleMessage [0x00, 0x00, 0x00, 0x00, 0x03] 1]
    ∃ c ∈ (refetched [] es').2.sent, c.finished = true ∧ c.reObserved = false ∧
      ∃ e ∈ ((forkedHistory [] es').view 1).canonicalEvents c.blockHeader.height,
        e.contractAddress = freshValidator.governanceContract ∧
        e ∉ forwarded (refetched [] es').2.sent c.blockHeader.height := by
  decide +kernel

end Wormhole.Guardian.Alephium

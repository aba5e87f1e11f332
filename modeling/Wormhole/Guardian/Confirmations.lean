/-
# Wormhole.Guardian.Confirmations — how long the watcher waits.

A message published at some height has to wait for as many blocks as its consistency level and the
configured minimum say.  The watcher counts with 8 and 32 bits: both are cut to their low bits, and the
sums wrap.  Where nothing is cut and nothing wraps, every message that is forwarded has waited long
enough (`forwarded_confirmed`), through polling and through re-observation alike.
-/
import Mathlib
import Wormhole.Lib.Go
import Wormhole.Lib.SortedMap
import Wormhole.Lib.Transition
import Wormhole.Guardian.AlephiumEvent
import Wormhole.Guardian.Validator
import Wormhole.Guardian.Watcher
import Wormhole.Guardian.ChainView

namespace Wormhole.Guardian.Alephium

open Wormhole.Lib Wormhole.Lib.Transition

/-! ## The confirmations of a message -/

/-- The consistency level that the message was published with. -/
def Event.consistencyLevel (event : Event) : Nat :=
  match event.fields.getLast? with
  | some (.U256 n) => n
  | _ => 0

/-- The confirmations that an event has to wait for. -/
def Config.required (config : Config) (event : Event) : Nat :=
  if event.contractAddress = config.governanceContract then
    max config.minConfirmations.toNat event.consistencyLevel
  else config.minConfirmations.toNat

/-- **What is counted** is cut to 8 bits. -/
theorem messageFromEvent_confirmations {config : Config} {event : Event} {msg : Message}
    (h : messageFromEvent event config.governanceContract config.minConfirmations8 = .ok msg) :
    msg.confirmations.toNat = if event.contractAddress = config.governanceContract then
      max (event.consistencyLevel % 256) (config.minConfirmations.toNat % 256)
    else config.minConfirmations.toNat % 256 := by
  have hmin : config.minConfirmations8.toNat = config.minConfirmations.toNat % 256 :=
    UInt8.toNat_ofNat' ..
  unfold messageFromEvent at h
  split at h
  · rename_i hne
    obtain rfl := Go.ok.inj h
    rw [if_neg hne, ← hmin]
  · rename_i heq
    rw [if_pos (not_not.mp heq)]
    split at h
    · cases h
    · rename_i field hfield
      obtain ⟨level, hlevel, h⟩ := Go.bind_eq_ok.mp h
      obtain rfl := Go.ok.inj h
      obtain ⟨n, hn, hlevel⟩ := Go.bind_eq_ok.mp hlevel
      have hn' : field = .U256 n := by
        cases field <;> simp_all [Field.toU256]
      have hcut : (UInt8.ofNat level.toNat).toNat = event.consistencyLevel % 256 := by
        rw [Event.consistencyLevel, hfield, hn']
        split at hlevel
        · rename_i hlt
          obtain rfl := Go.ok.inj hlevel
          rw [UInt8.toNat_ofNat', UInt64.toNat_ofNat', Nat.mod_eq_of_lt hlt]
        · cases hlevel
      simp only
      split
      · rename_i hlt
        have := UInt8.lt_iff_toNat_lt.mp hlt
        omega
      · rename_i hge
        have := mt UInt8.lt_iff_toNat_lt.mpr hge
        omega

/-- Nothing is cut: the confirmations are counted in full, or the configured minimum covers them. -/
theorem confirmations_of_fits {config : Config} {msg : Message}
    (h : messageFromEvent msg.event config.governanceContract config.minConfirmations8 = .ok msg)
    (hfits : config.required msg.event < 256 ∨
      config.required msg.event = config.minConfirmations.toNat) :
    msg.confirmations.toNat ≤ config.required msg.event ∧
      (config.required msg.event = config.minConfirmations.toNat ∨
        msg.confirmations.toNat = config.required msg.event) := by
  have hconf := messageFromEvent_confirmations h
  rw [Config.required] at hfits ⊢
  have hlevel := Nat.mod_le msg.event.consistencyLevel 256
  have hmin := Nat.mod_le config.minConfirmations.toNat 256
  split at hconf
  · rename_i hgovernance
    rw [if_pos hgovernance] at hfits ⊢
    omega
  · rename_i hother
    rw [if_neg hother]
    omega

/-! ## Steps of the watcher -/

/-- What the two goroutines do, in any order. -/
inductive WatcherStep where
  | start (node : FullNode) (fromHeight : Nat)
  | tick (node : FullNode)
  | observe (node : FullNode) (txId : Byte32)
  | reObserve (node : FullNode)

def watch (w : Watcher) : WatcherStep → Option Watcher
  | .start node fromHeight => some (startEvents node fromHeight w)
  | .tick node => some (tick node w)
  | .observe node txId => some (observe node txId w)
  | .reObserve node => some (reObserve node w)

/-- The header that the full node serves for the block at a height is one of that height. -/
def HeadersMatch (node : FullNode) : Prop :=
  ∀ height hash header, getHashByHeight node height = .ok hash → node.blockHeader hash = .ok header →
    header.height = height

/-- Every event served meets a condition on its height and the confirmations it needs. -/
def Confirmations (config : Config) (node : FullNode) (P : Nat → Nat → Prop) : Prop :=
  ∀ hash header contract events event, node.blockHeader hash = .ok header →
    node.eventsFromBlock hash contract = .ok events → event ∈ events →
    P header.height (config.required event)

/-- **Nothing is cut and nothing wraps.** Polling compares the minimum in 32 bits; re-observation knows
8 bits only, and the height it has read must still be the last one. -/
def Fits (w : Watcher) : WatcherStep → Prop
  | .start node _ | .tick node => HeadersMatch node ∧ w.config.minConfirmations.toNat < 2 ^ 32 ∧
      Confirmations w.config node fun height required =>
        (required < 256 ∨ required = w.config.minConfirmations.toNat) ∧ height + required < 2 ^ 32
  | .observe _ _ => True
  | .reObserve node =>
    (∀ txId hash height, w.observing = some (txId, hash, height) → height ≤ w.sharedHeight) ∧
      Confirmations w.config node fun height required => required < 256 ∧ height + required < 2 ^ 32

/-- The pending messages of a height are counted in full. -/
structure PendingFits (config : Config) (height : Nat) (pending : PendingMessages) : Prop where
  blockHeight : pending.blockHeader.height = height
  messages : ∀ msg ∈ pending.messages,
    messageFromEvent msg.event config.governanceContract config.minConfirmations8 = .ok msg ∧
    (config.required msg.event < 256 ∨
      config.required msg.event = config.minConfirmations.toNat) ∧
    height + config.required msg.event < 2 ^ 32

/-- What is sent has waited long enough at the chain height `currentHeight`. -/
def Confirmed (config : Config) (currentHeight : Nat) (c : ConfirmedMessages) : Prop :=
  ∀ event ∈ c.messages, c.blockHeader.height + config.required event ≤ currentHeight ∧
    c.blockHeader.height + config.required event < 2 ^ 32

section Polling

variable {config : Config} {node : FullNode}

theorem Confirmations.pending {P : Nat → Nat → Prop} (h : Confirmations config node P)
    {blockHash : Byte32} {contracts : List ContractAddress} {filter : Event → Bool}
    {pending : PendingMessages}
    (hok : getPendingMessageFromBlockHash config node blockHash contracts filter = .ok pending) :
    ∀ msg ∈ pending.messages,
      messageFromEvent msg.event config.governanceContract config.minConfirmations8 = .ok msg ∧
      P pending.blockHeader.height (config.required msg.event) := by
  obtain ⟨hheader, events, hevents, hmap, hall⟩ := getPendingMessageFromBlockHash_eq_ok hok
  intro msg hmsg
  have hmem : msg.event ∈ events.filter filter := hmap ▸ List.mem_map_of_mem hmsg
  obtain ⟨contract, -, events', hevents', hmem'⟩ :=
    getContractEventsFromBlockHash_eq_ok hevents (List.mem_filter.mp hmem).1
  exact ⟨hall msg hmsg, h _ _ _ _ _ hheader hevents' hmem'⟩

/-- What is fetched of a height. -/
theorem PendingFits.of_getMessagesFromBlock (hheaders : HeadersMatch node)
    (hfits : Confirmations config node fun height required =>
      (required < 256 ∨ required = config.minConfirmations.toNat) ∧ height + required < 2 ^ 32)
    {height : Nat} {pending : PendingMessages}
    (hok : getMessagesFromBlock config node height = .ok pending) :
    PendingFits config height pending := by
  obtain ⟨hash, hhash, hok⟩ := getMessagesFromBlock_eq_ok hok
  have hheight := hheaders height hash _ hhash (getPendingMessageFromBlockHash_eq_ok hok).1
  refine ⟨hheight, fun msg hmsg => ?_⟩
  obtain ⟨hmsg, hcut, hwrap⟩ := hfits.pending hok msg hmsg
  exact ⟨hmsg, hcut, hheight ▸ hwrap⟩

/-- **One height.** What is sent has waited, and what stays is counted in full. -/
theorem PendingFits.checkHeight (hheaders : HeadersMatch node)
    (hmin : config.minConfirmations.toNat < 2 ^ 32)
    (hfits : Confirmations config node fun height required =>
      (required < 256 ∨ required = config.minConfirmations.toNat) ∧ height + required < 2 ^ 32)
    {currentHeight height : Nat} {pending : PendingMessages} {remaining : Option PendingMessages}
    {sent : Option ConfirmedMessages} (h : PendingFits config height pending)
    (hcheck : Alephium.checkHeight config node currentHeight height pending = .ok (remaining, sent)) :
    (∀ p ∈ remaining, PendingFits config height p) ∧
      ∀ c ∈ sent, Confirmed config currentHeight c := by
  rcases checkHeight_eq_ok hcheck with ⟨-, rfl, rfl⟩ | ⟨-, -, rfl, rfl⟩ | ⟨-, hle, p, hp, hsplit⟩
  · refine ⟨fun p hp => by cases hp; exact h, fun c hc => ?_⟩
    obtain rfl := Option.some.inj hc
    exact fun event hevent => by cases hevent
  · exact ⟨fun p hp => by cases hp; exact h, fun c hc => by cases hc⟩
  · have hpfits : PendingFits config height p := by
      rcases recheck_eq_ok hp with rfl | hp
      · exact h
      · exact .of_getMessagesFromBlock hheaders hfits hp
    rw [splitConfirmed_eq] at hsplit
    obtain ⟨rfl, rfl⟩ := hsplit
    constructor
    · intro p' hp'
      split at hp'
      · cases hp'
      · obtain rfl := Option.some.inj hp'
        exact ⟨hpfits.blockHeight, fun msg hmsg => hpfits.messages msg (List.mem_filter.mp hmsg).1⟩
    · intro c hc event hevent
      obtain rfl := Option.some.inj hc
      obtain ⟨msg, hmsg, rfl⟩ := List.mem_map.mp hevent
      obtain ⟨hmsg, hconfirmed⟩ := List.mem_filter.mp hmsg
      obtain ⟨hevent, hcut, hwrap⟩ := hpfits.messages msg hmsg
      obtain ⟨hconf, hcases⟩ := confirmations_of_fits hevent hcut
      rw [hpfits.blockHeight]
      refine ⟨?_, hwrap⟩
      rcases hcases with heq | heq
      · -- the minimum itself is compared in 32 bits
        rw [addHeight, Config.minConfirmations32, Nat.mod_eq_of_lt hmin, Nat.mod_eq_of_lt (by omega)]
          at hle
        omega
      · have hconfirmed := of_decide_eq_true hconfirmed
        rw [addHeight, Nat.mod_eq_of_lt (by omega)] at hconfirmed
        omega

end Polling

/-! ## Runs -/

/-- What is pending is sorted and counted in full. -/
structure Waits (w : Watcher) : Prop where
  sorted : SortedMap.Sorted w.pendings
  fits : ∀ x ∈ w.pendings, PendingFits w.config x.1 x.2

/-- The step keeps the configuration, and what it sends has waited at the height last read. -/
structure Forwards (w w' : Watcher) : Prop where
  waits : Waits w'
  config : w'.config = w.config
  sent : ∃ new, w'.sent = w.sent ++ new ∧ ∀ c ∈ new, Confirmed w.config w'.sharedHeight c

section Runs

variable {w₀ w w' : Watcher} {node : FullNode}

/-- A step that sends nothing. -/
theorem Forwards.silent (hwaits : Waits w') (hconfig : w'.config = w.config)
    (hsent : w'.sent = w.sent) : Forwards w w' :=
  ⟨hwaits, hconfig, [], by simp [hsent], by simp⟩

theorem Forwards.start (fromHeight : Nat) (hfits : Fits w (.start node fromHeight)) :
    Forwards w (startEvents node fromHeight w) := by
  unfold startEvents
  split
  · rename_i msgs hmsgs
    refine .silent ⟨List.pairwise_singleton .., fun x hx => ?_⟩ rfl rfl
    obtain rfl := List.mem_singleton.mp hx
    exact .of_getMessagesFromBlock hfits.1 hfits.2.2 hmsgs
  · exact .silent ⟨.nil, fun x hx => by cases hx⟩ rfl rfl

theorem Waits.tick (h : Waits w) (hfits : Fits w (.tick node)) : Forwards w (tick node w) := by
  obtain ⟨hheaders, hmin, hcut⟩ := hfits
  rcases tick_cases node w with ⟨-, heq⟩ | ⟨height, -, -, -, heq⟩ | ⟨height, heq⟩ |
    ⟨height, pendings, -, -, -, -, hpendings, heq⟩
  · rw [heq]
    exact .silent h rfl rfl
  · rw [heq]
    exact .silent ⟨h.sorted, h.fits⟩ rfl rfl
  · rw [heq]
    exact .silent ⟨h.sorted, h.fits⟩ rfl rfl
  · rw [heq]
    obtain ⟨hsorted, hmem⟩ := fetchHeights_eq_ok h.sorted hpendings
    have hall : ∀ x ∈ pendings, PendingFits w.config x.1 x.2 := fun x hx =>
      ((hmem x).mp hx).elim (fun hx => h.fits x hx.1) fun hx =>
        .of_getMessagesFromBlock hheaders hcut hx.2
    obtain ⟨hremaining, hsent⟩ := checkConfirmations_rule
      (fun height' pending remaining sent hp hcheck =>
        hp.checkHeight hheaders hmin hcut hcheck) hall
    exact ⟨⟨(checkConfirmations_sorted hsorted).1, hremaining⟩, rfl, _, rfl, hsent⟩

theorem Waits.observe (h : Waits w) (txId : Byte32) : Forwards w (observe node txId w) := by
  simp only [Alephium.observe]
  split <;> exact .silent ⟨h.sorted, h.fits⟩ rfl rfl

theorem Waits.reObserve (h : Waits w) (hfits : Fits w (.reObserve node)) :
    Forwards w (reObserve node w) := by
  obtain ⟨hread, hcut⟩ := hfits
  unfold Alephium.reObserve
  split
  · exact .silent h rfl rfl
  · rename_i txId blockHash currentHeight hobserving
    split
    · rename_i pending hpending
      simp only
      split
      · exact .silent ⟨h.sorted, h.fits⟩ rfl rfl
      · refine ⟨⟨h.sorted, h.fits⟩, rfl, _, rfl, fun c hc event hevent => ?_⟩
        obtain rfl := List.mem_singleton.mp hc
        obtain ⟨msg, hmsg, rfl⟩ := List.mem_map.mp hevent
        obtain ⟨hmsg, hconfirmed⟩ := List.mem_filter.mp hmsg
        obtain ⟨hevent, hlt, hwrap⟩ := hcut.pending hpending msg hmsg
        have hconf : msg.confirmations.toNat = w.config.required msg.event := by
          rcases (confirmations_of_fits hevent (.inl hlt)).2 with heq | heq
          · have hcount := messageFromEvent_confirmations hevent
            rw [Config.required] at heq hlt ⊢
            split at hcount
            · rename_i hgovernance
              rw [if_pos hgovernance] at heq hlt ⊢
              omega
            · rename_i hother
              rw [if_neg hother] at hlt ⊢
              omega
          · exact heq
        have hle := hread txId blockHash currentHeight hobserving
        have hconfirmed := of_decide_eq_true hconfirmed
        rw [addHeight, hconf, Nat.mod_eq_of_lt hwrap] at hconfirmed
        exact ⟨hconfirmed.trans hle, hwrap⟩
    · exact .silent ⟨h.sorted, h.fits⟩ rfl rfl

/-- **Step.** -/
theorem Waits.watch (h : Waits w) {step : WatcherStep} (hfits : Fits w step)
    (hstep : watch w step = some w') : Forwards w w' := by
  cases step with
  | start node fromHeight =>
    obtain rfl := Option.some.inj hstep
    exact .start fromHeight hfits
  | tick node =>
    obtain rfl := Option.some.inj hstep
    exact h.tick hfits
  | observe node txId =>
    obtain rfl := Option.some.inj hstep
    exact h.observe txId
  | reObserve node =>
    obtain rfl := Option.some.inj hstep
    exact h.reObserve hfits

/-- **Everything forwarded has waited.** In every run whose steps cut nothing and wrap nothing, from a
watcher with nothing pending, whatever a step sends to the validator is confirmed at the chain height
read last: the height of its block, and the minimum or the consistency level of the message, if that is
larger, add up to no more than it. -/
theorem forwarded_confirmed (hpendings : w₀.pendings = []) (hrun : Run watch Fits w₀ w)
    {step : WatcherStep} (hfits : Fits w step) (hstep : watch w step = some w') :
    ∃ new, w'.sent = w.sent ++ new ∧ ∀ c ∈ new, ∀ event ∈ c.messages,
      c.blockHeader.height + w₀.config.required event ≤ w'.sharedHeight ∧
      c.blockHeader.height + w₀.config.required event < 2 ^ 32 := by
  obtain ⟨hwaits, hconfig⟩ : Waits w ∧ w.config = w₀.config := by
    refine hrun.invariant (I := fun w => Waits w ∧ w.config = w₀.config)
      (fun w step w' h hok hstep => ?_) ⟨⟨?_, ?_⟩, rfl⟩
    · have hforwards := h.1.watch hok hstep
      exact ⟨hforwards.waits, hforwards.config.trans h.2⟩
    · rw [hpendings]
      exact .nil
    · simp [hpendings]
  obtain ⟨new, hsent, hnew⟩ := (hwaits.watch hfits hstep).sent
  rw [← hconfig]
  exact ⟨new, hsent, hnew⟩

end Runs

/-! ## Inputs -/

/-- A message with this consistency level at the height 1. -/
def levelEvents (consistencyLevel : Nat) (height : Nat) : List ChainEvent :=
  if height = 1 then [sampleMessage [0x00, 0x00, 0x00, 0x00, 0x02] consistencyLevel] else []

/-- A watcher that has started at the height 0 and polled up to `height`. -/
def polled (minConfirmations : UInt64) (consistencyLevel height : Nat) : Watcher :=
  attempts watch (freshWatcher minConfirmations)
    [.start (sampleNode 0 (levelEvents consistencyLevel)) 0,
      .tick (sampleNode height (levelEvents consistencyLevel))]

/-- A message of level 2 at the height 1 is forwarded at the height 3. -/
theorem polled_confirmed : (∃ c ∈ (polled 1 2 3).sent, c.messages ≠ []) ∧
    ∀ c ∈ (polled 1 2 3).sent, ∀ event ∈ c.messages,
      c.blockHeader.height + (freshWatcher 1).config.required event ≤ 3 := by
  have hfits : ∀ (height : Nat) (w : Watcher), height ≤ 3 → w.config = (freshWatcher 1).config →
      HeadersMatch (sampleNode height (levelEvents 2)) ∧
      w.config.minConfirmations.toNat < 2 ^ 32 ∧
      Confirmations w.config (sampleNode height (levelEvents 2)) fun height required =>
        (required < 256 ∨ required = w.config.minConfirmations.toNat) ∧
          height + required < 2 ^ 32 := by
    intro height w hle hconfig
    have hheightOf := @sampleView_heightOf height (levelEvents 2) (by omega)
    refine ⟨fun h hash header => View.node_headers hheightOf, by rw [hconfig]; decide, ?_⟩
    intro hash header contract events event hheader hevents hevent
    obtain ⟨hheight, hmem⟩ := View.node_events hheader hevents hevent
    have hheight : header.height ≤ height := hheight
    have hrequired : w.config.required event = 2 := by
      simp only [sampleView, sampleBlock, levelEvents, List.mem_map] at hmem
      obtain ⟨e, he, rfl⟩ := hmem
      split at he
      · obtain rfl := List.mem_singleton.mp he
        rw [hconfig]
        exact (if_pos rfl).trans rfl
      · cases he
    rw [hrequired]
    omega
  have hstart : Run watch Fits (freshWatcher 1)
      (startEvents (sampleNode 0 (levelEvents 2)) 0 (freshWatcher 1)) :=
    (Run.refl _).snoc (a := .start (sampleNode 0 (levelEvents 2)) 0)
      (hfits 0 _ (by decide) rfl) rfl
  have hstep : watch (startEvents (sampleNode 0 (levelEvents 2)) 0 (freshWatcher 1))
      (.tick (sampleNode 3 (levelEvents 2))) = some (polled 1 2 3) := rfl
  have hfits₃ : Fits (startEvents (sampleNode 0 (levelEvents 2)) 0 (freshWatcher 1))
      (.tick (sampleNode 3 (levelEvents 2))) := hfits 3 _ le_rfl rfl
  obtain ⟨new, hnew, hconfirmed⟩ := forwarded_confirmed rfl hstart hfits₃ hstep
  refine ⟨by decide +kernel, fun c hc event hevent => ?_⟩
  have hsent : (startEvents (sampleNode 0 (levelEvents 2)) 0 (freshWatcher 1)).sent = [] := rfl
  rw [hnew, hsent, List.nil_append] at hc
  exact (hconfirmed c hc event hevent).1

/-- **What is cut is forwarded at once.** A message of level 256 polled without a minimum, and one of
level 0 observed again with a minimum of 256: both are in the block on top of the chain. -/
theorem confirmations_cut :
    (∃ c ∈ (polled 0 256 1).sent, ∃ event ∈ c.messages, (polled 0 256 1).sharedHeight = 1 ∧
      c.blockHeader.height + (polled 0 256 1).config.required event = 257) ∧
    let node := sampleNode 1 (levelEvents 0)
    let reObserved := attempts watch (polled 256 0 1)
      [.observe node ⟨List.replicate 32 0x02, rfl⟩, .reObserve node]
    ∃ c ∈ reObserved.sent, ∃ event ∈ c.messages, reObserved.sharedHeight = 1 ∧
      c.blockHeader.height + reObserved.config.required event = 257 := by
  decide +kernel

end Wormhole.Guardian.Alephium

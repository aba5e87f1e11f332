/-
# Wormhole.Guardian.Spy — signed VAAs, passed on to the subscribers of the spy.

The spy (`node/cmd/spy/spy.go`) keeps a map of subscriptions, each with a list of filters and a channel for one
message.  `Publish` goes over the map in any order, with the map locked.  It sends a VAA to a subscriber without
filters, and to one with filters once for each filter that matches; for these it decodes the VAA, and returns if
that fails.  A send waits for room in the channel, which is emptied as long as the subscriber's call goes on.

Everybody who wants the VAA should get it once, and nobody else (`Delivers`).  `delivers_iff` says when this is
so, in every order: unless nobody wants it, no subscriber has two filters that match, nobody has filters if the
VAA cannot be decoded, and no subscriber whose call has ended holds more than its channel has room for.
-/
import Mathlib
import Wormhole.Lib.Channels
import Wormhole.Lib.Transition
import Wormhole.Guardian.Codec
import Wormhole.Guardian.Vaa

namespace Wormhole.Guardian.Spy

open Wormhole.Lib Wormhole.Lib.Channels Wormhole.Lib.Transition

/-! ## Subscriptions -/

structure Filter where
  chainId : ChainID
  emitterAddr : Address
  deriving DecidableEq

/-- The filter is for the emitter of the VAA. -/
def Filter.Matches (v : VAA) (fi : Filter) : Prop :=
  fi.chainId = v.emitterChain ∧ fi.emitterAddr = v.emitterAddress

instance (v : VAA) (fi : Filter) : Decidable (fi.Matches v) := inferInstanceAs (Decidable (_ ∧ _))

/-- A subscription, and the subscriber's call that takes the messages from its channel. -/
structure Subscription where
  filters : List Filter
  receiver : Receiver (List UInt8)

/-- The capacity of the channels. -/
def chCapacity : Nat := 1

structure SpyServer where
  /-- the keys of `subs` -/
  ids : List String
  nodup : ids.Nodup
  subs : String → Subscription
  capacity : ∀ id, (subs id).receiver.ch.length ≤ chCapacity

/-! ## Publishing -/

section Publish

variable (subs : String → Subscription) (vaaBytes : List UInt8)

/-- The sends of `Publish`, and its error. -/
def publishLoop : List String → List String × Option String
  | [] => ([], none)
  | id :: order =>
    match (subs id).filters with
    | [] => (id :: (publishLoop order).1, (publishLoop order).2)
    | fi :: filters =>
      match unmarshal vaaBytes with
      | .error err => ([], some err)
      | .ok v =>
        let matching := (fi :: filters).filter fun fi => fi.Matches v
        (matching.map (fun _ => id) ++ (publishLoop order).1, (publishLoop order).2)

/-- How often the filters of a subscriber match, or once if there are none. -/
def demand (filters : List Filter) : Nat :=
  match filters with
  | [] => 1
  | fi :: filters =>
    match unmarshal vaaBytes with
    | .error _ => 0
    | .ok v => ((fi :: filters).filter fun fi => fi.Matches v).length

/-- The subscriber has no filters, or one that matches. -/
def Wants (filters : List Filter) : Prop :=
  filters = [] ∨ ∃ v, unmarshal vaaBytes = .ok v ∧ ∃ fi ∈ filters, fi.Matches v

end Publish

namespace SpyServer

variable (spy : SpyServer) (vaaBytes : List UInt8)

/-- `Publish`, as it starts: it holds the lock, so the map does not change any more. -/
def publish (order : List String) : Sender String (List UInt8) where
  pending := (publishLoop spy.subs vaaBytes order).1
  receiver := fun id => (spy.subs id).receiver

/-- The calls of the subscribers take messages meanwhile. -/
abbrev Publishes (s s' : Sender String (List UInt8)) : Prop :=
  Run (Channels.step chCapacity spy.ids vaaBytes) (fun _ _ => True) s s'

/-- A subscriber whose call goes on. -/
def Live (id : String) : Prop := id ∈ spy.ids ∧ (spy.subs id).receiver.takes = true

/-- **What the spy should do**: in whatever order it goes over the map, in the end every subscriber that wants the VAA
has received it once, behind what was in its channel, and every other only that. -/
def Delivers : Prop :=
  ∀ order, order.Perm spy.ids → ∀ s, spy.Publishes vaaBytes (spy.publish vaaBytes order) s →
    Ended chCapacity spy.ids vaaBytes s → ∀ id, spy.Live id →
      (Wants vaaBytes (spy.subs id).filters → (s.receiver id).received =
        (spy.subs id).receiver.received ++ (spy.subs id).receiver.ch ++ [vaaBytes]) ∧
      (¬Wants vaaBytes (spy.subs id).filters → (s.receiver id).received =
        (spy.subs id).receiver.received ++ (spy.subs id).receiver.ch)

/-- Nobody's filters or channel are in the way. -/
structure Clear : Prop where
  /-- no two filters of a subscriber match -/
  single : ∀ id, spy.Live id → demand vaaBytes (spy.subs id).filters ≤ 1
  /-- nobody has filters for a VAA that cannot be decoded -/
  decodes : (∃ v, unmarshal vaaBytes = .ok v) ∨ ∀ id ∈ spy.ids, (spy.subs id).filters = []
  /-- where nothing is taken there is room for what is sent -/
  room : ∀ id ∈ spy.ids, (spy.subs id).receiver.takes = false →
    (spy.subs id).receiver.ch.length + demand vaaBytes (spy.subs id).filters ≤ chCapacity

end SpyServer

/-! ## The sends -/

section Sends

variable {subs : String → Subscription} {vaaBytes : List UInt8} {id : String} {order : List String}
  {filters : List Filter}

theorem wants_iff : Wants vaaBytes filters ↔ 0 < demand vaaBytes filters := by
  unfold Wants demand
  cases filters with
  | nil => exact iff_of_true (.inl rfl) Nat.one_pos
  | cons fi filters =>
    dsimp only
    split
    · rename_i err herr
      refine iff_of_false ?_ (lt_irrefl 0)
      rintro (hnil | ⟨v, hv, -⟩)
      · cases hnil
      · cases herr.symm.trans hv
    · rename_i v hv
      rw [List.length_pos_iff_exists_mem]
      constructor
      · rintro (hnil | ⟨v', hv', fi', hfi', hmatches⟩)
        · cases hnil
        · obtain rfl := Except.ok.inj (hv.symm.trans hv')
          exact ⟨fi', List.mem_filter.mpr ⟨hfi', decide_eq_true hmatches⟩⟩
      · rintro ⟨fi', hfi'⟩
        obtain ⟨hmem, hmatches⟩ := List.mem_filter.mp hfi'
        exact .inr ⟨v, hv, fi', hmem, of_decide_eq_true hmatches⟩

/-- **The first subscriber** is sent the VAA as often as it demands, -/
theorem publishLoop_cons (id : String) (order : List String)
    (h : (subs id).filters = [] ∨ ∃ v, unmarshal vaaBytes = .ok v) :
    (publishLoop subs vaaBytes (id :: order)).1 =
      List.replicate (demand vaaBytes (subs id).filters) id ++ (publishLoop subs vaaBytes order).1 := by
  conv_lhs => unfold publishLoop
  unfold demand
  cases hfilters : (subs id).filters with
  | nil => rfl
  | cons fi filters =>
    dsimp only
    split
    · rename_i err herr
      rcases h with hnil | ⟨v, hv⟩
      · cases hfilters.symm.trans hnil
      · cases herr.symm.trans hv
    · show List.map _ _ ++ _ = _
      rw [List.map_const']

/-- and is the last if it has filters and the VAA cannot be decoded. -/
theorem publishLoop_error {err : String} (order : List String) (hfilters : (subs id).filters ≠ [])
    (herr : unmarshal vaaBytes = .error err) : publishLoop subs vaaBytes (id :: order) = ([], some err) := by
  obtain ⟨fi, filters, hcons⟩ := List.exists_cons_of_ne_nil hfilters
  unfold publishLoop
  rw [hcons, herr]

theorem filters_or_error (vaaBytes : List UInt8) (filters : List Filter) :
    (filters = [] ∨ ∃ v, unmarshal vaaBytes = .ok v) ∨
      filters ≠ [] ∧ ∃ err, unmarshal vaaBytes = .error err := by
  cases hv : unmarshal vaaBytes with
  | ok v => exact .inl (.inr ⟨v, rfl⟩)
  | error err =>
    by_cases hfilters : filters = []
    · exact .inl (.inl hfilters)
    · exact .inr ⟨hfilters, err, rfl⟩

/-- **Nobody else** is sent anything. -/
theorem mem_publishLoop (h : id ∈ (publishLoop subs vaaBytes order).1) :
    id ∈ order ∧ 0 < demand vaaBytes (subs id).filters := by
  induction order with
  | nil => cases h
  | cons i order ih =>
    rcases filters_or_error vaaBytes (subs i).filters with hopen | ⟨hfilters, err, herr⟩
    · rw [publishLoop_cons i order hopen] at h
      rcases List.mem_append.mp h with hfirst | hrest
      · obtain ⟨hdemand, rfl⟩ := List.mem_replicate.mp hfirst
        exact ⟨List.mem_cons_self, Nat.pos_of_ne_zero hdemand⟩
      · obtain ⟨hid, hdemand⟩ := ih hrest
        exact ⟨List.mem_cons_of_mem i hid, hdemand⟩
    · rw [publishLoop_error order hfilters herr] at h
      cases h

/-- **Without errors** everybody is sent what it demands. -/
theorem count_publishLoop (hnodup : order.Nodup) (hid : id ∈ order)
    (hopen : ∀ i ∈ order, (subs i).filters = [] ∨ ∃ v, unmarshal vaaBytes = .ok v) :
    (publishLoop subs vaaBytes order).1.count id = demand vaaBytes (subs id).filters := by
  induction order with
  | nil => cases hid
  | cons i order ih =>
    obtain ⟨hi, hrest⟩ := List.nodup_cons.mp hnodup
    have hopen' := fun j hj => hopen j (List.mem_cons_of_mem i hj)
    rw [publishLoop_cons i order (hopen i List.mem_cons_self), List.count_append, List.count_replicate]
    by_cases heq : i = id
    · subst heq
      have hzero : (publishLoop subs vaaBytes order).1.count i = 0 := by
        apply List.count_eq_zero_of_not_mem
        intro hmem
        exact hi (mem_publishLoop hmem).1
      rw [if_pos (beq_self_eq_true i), hzero]
      rfl
    · have hid' : id ∈ order := (List.mem_cons.mp hid).resolve_left (Ne.symm heq)
      rw [if_neg (by simpa using heq), Nat.zero_add]
      exact ih hrest hid' hopen'

/-- The first sends are all made, or one of them is still waited for. -/
theorem first_sent {n : Nat} {tail done rest : List String}
    (h : List.replicate n id ++ tail = done ++ rest) : n ≤ done.count id ∨
      ∃ k rest', k < n ∧ done = List.replicate k id ∧ rest = id :: rest' := by
  rcases List.append_eq_append_iff.mp h with ⟨sent, rfl, -⟩ | ⟨unsent, hreplicate, hrest⟩
  · apply Or.inl
    rw [List.count_append, List.count_replicate_self]
    exact Nat.le_add_right ..
  · obtain ⟨hlength, hdone, hunsent⟩ := List.append_eq_replicate_iff.mp hreplicate.symm
    cases hk : unsent.length with
    | zero =>
      apply Or.inl
      rw [hdone, List.count_replicate_self]
      omega
    | succ k =>
      rw [hunsent, hk, List.replicate_succ] at hrest
      exact .inr ⟨done.length, _, by omega, hdone, hrest⟩

end Sends

/-! ## Who gets what -/

namespace SpyServer

variable {spy : SpyServer} {vaaBytes : List UInt8} {order : List String} {s : Sender String (List UInt8)}
  {id : String}

/-- Publishing ends. -/
theorem publish_ends (spy : SpyServer) (vaaBytes : List UInt8) (order : List String) :
    ∃ s, spy.Publishes vaaBytes (spy.publish vaaBytes order) s ∧ Ended chCapacity spy.ids vaaBytes s :=
  exists_ended spy.nodup _

/-- What everybody has got in the end. -/
theorem publish_account (horder : order.Perm spy.ids)
    (hrun : spy.Publishes vaaBytes (spy.publish vaaBytes order) s) (hended : Ended chCapacity spy.ids vaaBytes s) :
    ∃ done, (publishLoop spy.subs vaaBytes order).1 = done ++ s.pending ∧
      (∀ id, spy.Live id → (s.receiver id).received = (spy.subs id).receiver.received ++
        (spy.subs id).receiver.ch ++ List.replicate (done.count id) vaaBytes) ∧
      (∀ id, (spy.subs id).receiver.takes = false →
        (spy.subs id).receiver.ch.length + done.count id ≤ chCapacity) ∧
      (s.pending = [] ∨ ∃ id rest, s.pending = id :: rest ∧ (spy.subs id).receiver.takes = false ∧
        (spy.subs id).receiver.ch.length + done.count id = chCapacity) := by
  have hids : ∀ id ∈ (spy.publish vaaBytes order).pending, id ∈ spy.ids := fun id hid =>
    horder.mem_iff.mp (mem_publishLoop hid).1
  obtain ⟨done, hpending, hreceived, hstopped, hblocked⟩ :=
    ended_account Nat.one_pos spy.capacity hids hrun hended
  exact ⟨done, hpending, fun id hlive => hreceived id hlive.1 hlive.2, hstopped, hblocked⟩

/-- **If nobody wants it** nobody is sent anything. -/
theorem Live.not_mem (order : List String)
    (hnobody : ¬∃ id, spy.Live id ∧ Wants vaaBytes (spy.subs id).filters) (hlive : spy.Live id) :
    id ∉ (publishLoop spy.subs vaaBytes order).1 :=
  fun hmem => hnobody ⟨id, hlive, wants_iff.mpr (mem_publishLoop hmem).2⟩

theorem Clear.unfiltered_or_decoded (h : spy.Clear vaaBytes) (horder : order.Perm spy.ids) :
    ∀ id ∈ order, (spy.subs id).filters = [] ∨ ∃ v, unmarshal vaaBytes = .ok v := by
  intro id hid
  rcases h.decodes with hdecodes | hfilters
  · exact .inr hdecodes
  · exact .inl (hfilters id (horder.mem_iff.mp hid))

/-- **With nothing in the way** all sends are made. -/
theorem Clear.pending (h : spy.Clear vaaBytes) (horder : order.Perm spy.ids) {done : List String}
    (hloop : (publishLoop spy.subs vaaBytes order).1 = done ++ s.pending)
    (hblocked : s.pending = [] ∨ ∃ id rest, s.pending = id :: rest ∧ (spy.subs id).receiver.takes = false ∧
      (spy.subs id).receiver.ch.length + done.count id = chCapacity) : s.pending = [] := by
  rcases hblocked with hnil | ⟨id, rest, hpending, hstopped, hfull⟩
  · exact hnil
  · rw [hpending] at hloop
    have hmem : id ∈ (publishLoop spy.subs vaaBytes order).1 := by
      rw [hloop]
      exact List.mem_append_right _ List.mem_cons_self
    have hid := (mem_publishLoop hmem).1
    have hcount := congrArg (List.count id) hloop
    rw [count_publishLoop (horder.symm.nodup spy.nodup) hid (h.unfiltered_or_decoded horder), List.count_append,
      List.count_cons_self] at hcount
    have hroom := h.room id (horder.mem_iff.mp hid) hstopped
    omega

/-- The demands of the subscribers whose calls go on have been met. -/
theorem delivers_of_count (h : ∀ order, order.Perm spy.ids → ∀ s,
    spy.Publishes vaaBytes (spy.publish vaaBytes order) s → Ended chCapacity spy.ids vaaBytes s →
      ∃ done : List String, ∀ id, spy.Live id → (s.receiver id).received = (spy.subs id).receiver.received ++
        (spy.subs id).receiver.ch ++ List.replicate (done.count id) vaaBytes ∧
        done.count id = if 0 < demand vaaBytes (spy.subs id).filters then 1 else 0) : spy.Delivers vaaBytes := by
  intro order horder s hrun hended id hlive
  obtain ⟨done, hdone⟩ := h order horder s hrun hended
  obtain ⟨hreceived, hcount⟩ := hdone id hlive
  constructor
  · intro hwants
    rw [hreceived, hcount, if_pos (wants_iff.mp hwants)]
    rfl
  · intro hwants
    rw [hreceived, hcount, if_neg (fun hdemand => hwants (wants_iff.mpr hdemand))]
    exact List.append_nil _

theorem delivers_of_nobody (hnobody : ¬∃ id, spy.Live id ∧ Wants vaaBytes (spy.subs id).filters) :
    spy.Delivers vaaBytes := by
  apply delivers_of_count
  intro order horder s hrun hended
  obtain ⟨done, hloop, hreceived, -⟩ := publish_account horder hrun hended
  refine ⟨done, fun id hlive => ⟨hreceived id hlive, ?_⟩⟩
  have hdemand : ¬0 < demand vaaBytes (spy.subs id).filters :=
    fun hdemand => hnobody ⟨id, hlive, wants_iff.mpr hdemand⟩
  rw [if_neg hdemand]
  apply List.count_eq_zero_of_not_mem
  intro hmem
  apply Live.not_mem order hnobody hlive
  rw [hloop]
  exact List.mem_append_left _ hmem

theorem Clear.delivers (h : spy.Clear vaaBytes) : spy.Delivers vaaBytes := by
  apply delivers_of_count
  intro order horder s hrun hended
  obtain ⟨done, hloop, hreceived, -, hblocked⟩ := publish_account horder hrun hended
  refine ⟨done, fun id hlive => ⟨hreceived id hlive, ?_⟩⟩
  rw [h.pending horder hloop hblocked, List.append_nil] at hloop
  rw [← hloop, count_publishLoop (horder.symm.nodup spy.nodup) (horder.mem_iff.mpr hlive.1)
    (h.unfiltered_or_decoded horder)]
  have hsingle := h.single id hlive
  split
  · omega
  · omega

/-- **Whoever comes first**, those who want the VAA and go on have been sent it once in the end. -/
theorem Delivers.first (h : spy.Delivers vaaBytes) (hid : id ∈ spy.ids) : ∃ done rest,
    (publishLoop spy.subs vaaBytes (id :: spy.ids.erase id)).1 = done ++ rest ∧
      (∀ i, spy.Live i → Wants vaaBytes (spy.subs i).filters → done.count i = 1) ∧
      (∀ i, (spy.subs i).receiver.takes = false →
        (spy.subs i).receiver.ch.length + done.count i ≤ chCapacity) ∧
      (rest = [] ∨ ∃ i rest', rest = i :: rest' ∧ (spy.subs i).receiver.takes = false) := by
  have horder : (id :: spy.ids.erase id).Perm spy.ids := (List.perm_cons_erase hid).symm
  obtain ⟨s, hrun, hended⟩ := spy.publish_ends vaaBytes (id :: spy.ids.erase id)
  obtain ⟨done, hloop, hreceived, hstopped, hblocked⟩ := publish_account horder hrun hended
  refine ⟨done, s.pending, hloop, ?_, hstopped, ?_⟩
  · intro i hlive hwants
    have honce := (h _ horder s hrun hended i hlive).1 hwants
    rw [hreceived i hlive] at honce
    have hlength := congrArg List.length (List.append_cancel_left honce)
    rw [List.length_replicate] at hlength
    exact hlength
  · rcases hblocked with hnil | ⟨i, rest, hpending, htakes, -⟩
    · exact .inl hnil
    · exact .inr ⟨i, rest, hpending, htakes⟩

/-- Who demands anything has no filters, or the VAA can be decoded. -/
theorem unfiltered_or_decoded_of_pos {filters : List Filter} (h : 0 < demand vaaBytes filters) :
    filters = [] ∨ ∃ v, unmarshal vaaBytes = .ok v := by
  rcases wants_iff.mpr h with hnil | ⟨v, hv, -⟩
  · exact .inl hnil
  · exact .inr ⟨v, hv⟩

theorem Delivers.single (h : spy.Delivers vaaBytes) (hlive : spy.Live id) :
    demand vaaBytes (spy.subs id).filters ≤ 1 := by
  by_contra htwo
  have hpos : 0 < demand vaaBytes (spy.subs id).filters := by omega
  obtain ⟨done, rest, hloop, honce, -, hblocked⟩ := h.first hlive.1
  rw [publishLoop_cons id _ (unfiltered_or_decoded_of_pos hpos)] at hloop
  rcases first_sent hloop with hcount | ⟨k, rest', -, -, hrest⟩
  · rw [honce id hlive (wants_iff.mpr hpos)] at hcount
    exact htwo hcount
  · -- the sender does not wait for a subscriber whose call goes on
    rcases hblocked with hnil | ⟨i, rest'', hi, hstopped⟩
    · cases hrest.symm.trans hnil
    · obtain ⟨rfl, -⟩ := List.cons_eq_cons.mp (hrest.symm.trans hi)
      cases hlive.2.symm.trans hstopped

theorem Delivers.decodes (h : spy.Delivers vaaBytes) {i : String} (hlive : spy.Live i)
    (hwants : Wants vaaBytes (spy.subs i).filters) :
    (∃ v, unmarshal vaaBytes = .ok v) ∨ ∀ id ∈ spy.ids, (spy.subs id).filters = [] := by
  by_contra hneither
  obtain ⟨hdecodes, hfilters⟩ := not_or.mp hneither
  apply hfilters
  intro id hid
  rcases filters_or_error vaaBytes (spy.subs id).filters with hopen | ⟨hne, err, herr⟩
  · exact hopen.resolve_right hdecodes
  · obtain ⟨done, rest, hloop, honce, -⟩ := h.first hid
    rw [publishLoop_error _ hne herr] at hloop
    obtain ⟨rfl, -⟩ := List.append_eq_nil_iff.mp hloop.symm
    cases honce i hlive hwants

theorem Delivers.room (h : spy.Delivers vaaBytes) {i : String} (hlive : spy.Live i)
    (hwants : Wants vaaBytes (spy.subs i).filters) (hid : id ∈ spy.ids)
    (hstopped : (spy.subs id).receiver.takes = false) :
    (spy.subs id).receiver.ch.length + demand vaaBytes (spy.subs id).filters ≤ chCapacity := by
  rcases Nat.eq_zero_or_pos (demand vaaBytes (spy.subs id).filters) with hzero | hpos
  · rw [hzero]
    exact spy.capacity id
  · obtain ⟨done, rest, hloop, honce, hroom, -⟩ := h.first hid
    rw [publishLoop_cons id _ (unfiltered_or_decoded_of_pos hpos)] at hloop
    rcases first_sent hloop with hcount | ⟨k, rest', -, hdone, -⟩
    · have := hroom id hstopped
      omega
    · -- everything before is for the subscriber that has stopped
      have hne : i ≠ id := by
        rintro rfl
        cases hlive.2.symm.trans hstopped
      have hcount := honce i hlive hwants
      rw [hdone, List.count_replicate, if_neg (by simpa using Ne.symm hne)] at hcount
      cases hcount

/-- **The spy does what it should**, in every order, if and only if nobody wants the VAA, or nobody's filters or
channel are in the way. -/
theorem delivers_iff (spy : SpyServer) (vaaBytes : List UInt8) : spy.Delivers vaaBytes ↔
    ((∃ id, spy.Live id ∧ Wants vaaBytes (spy.subs id).filters) → spy.Clear vaaBytes) := by
  constructor
  · rintro h ⟨i, hlive, hwants⟩
    exact ⟨fun id hid => h.single hid, h.decodes hlive hwants, fun id hid hstopped =>
      h.room hlive hwants hid hstopped⟩
  · intro h
    by_cases hsomebody : ∃ id, spy.Live id ∧ Wants vaaBytes (spy.subs id).filters
    · exact (h hsomebody).delivers
    · exact delivers_of_nobody hsomebody

end SpyServer

/-! ## A subscriber that repeats itself -/

def sampleFilter : Filter where
  chainId := (samplePayload [0x01]).emitterChain
  emitterAddr := (samplePayload [0x01]).emitterAddress

/-- One subscriber, with one filter given twice. -/
def repeatedFilter : SpyServer where
  ids := ["subscriber"]
  nodup := List.nodup_singleton _
  subs := fun _ => ⟨[sampleFilter, sampleFilter], ⟨[], true, []⟩⟩
  capacity := fun _ => Nat.zero_le _

/-- **The VAA is received twice**, where the sender and the subscriber take turns. -/
theorem repeatedFilter_twice : ∃ v s, unmarshal (marshal (samplePayload [0x01])) = .ok v ∧
    repeatedFilter.Live "subscriber" ∧ sampleFilter.Matches v ∧
    repeatedFilter.Publishes (marshal (samplePayload [0x01]))
      (repeatedFilter.publish (marshal (samplePayload [0x01])) repeatedFilter.ids) s ∧
    Ended chCapacity repeatedFilter.ids (marshal (samplePayload [0x01])) s ∧
    (s.receiver "subscriber").received =
      [marshal (samplePayload [0x01]), marshal (samplePayload [0x01])] ∧
    ¬repeatedFilter.Delivers (marshal (samplePayload [0x01])) := by
  have hread : unmarshal (marshal (samplePayload [0x01])) = .ok (samplePayload [0x01]) := by
    decide +kernel
  have hlive : repeatedFilter.Live "subscriber" := ⟨List.mem_cons_self, rfl⟩
  have hmatches : sampleFilter.Matches (samplePayload [0x01]) := ⟨rfl, rfl⟩
  generalize hbytes : marshal (samplePayload [0x01]) = vaaBytes at hread
  have hdemand : demand vaaBytes (repeatedFilter.subs "subscriber").filters = 2 := by
    show demand vaaBytes [sampleFilter, sampleFilter] = 2
    unfold demand
    dsimp only
    rw [hread]
    rfl
  have hloop : (repeatedFilter.publish vaaBytes repeatedFilter.ids).pending = ["subscriber", "subscriber"] := by
    show (publishLoop repeatedFilter.subs vaaBytes ["subscriber"]).1 = _
    rw [publishLoop_cons _ _ (.inr ⟨_, hread⟩), hdemand]
    rfl
  obtain ⟨s, hrun, hended⟩ := repeatedFilter.publish_ends vaaBytes repeatedFilter.ids
  obtain ⟨done, hdone, hreceived, -, hblocked⟩ := SpyServer.publish_account (List.Perm.refl _) hrun hended
  have hpending : s.pending = [] := by
    rcases hblocked with hnil | ⟨i, rest, -, hstopped, -⟩
    · exact hnil
    · cases hstopped
  have htwice : (s.receiver "subscriber").received = [vaaBytes, vaaBytes] := by
    rw [hpending, List.append_nil] at hdone
    obtain rfl : done = ["subscriber", "subscriber"] := hdone.symm.trans hloop
    exact hreceived _ hlive
  refine ⟨_, s, hread, hlive, hmatches, hrun, hended, htwice, ?_⟩
  intro h
  have honce := (h _ (List.Perm.refl _) s hrun hended _ hlive).1 (wants_iff.mpr (by omega))
  rw [htwice] at honce
  have hlength := congrArg List.length honce
  cases hlength

end Wormhole.Guardian.Spy

/-
# Wormhole.Lib.Channels — one message, sent to several buffered channels in turn.

A sender has a list of receivers and sends the message to one after the other.  Each receiver has a channel of
a fixed capacity, and a send waits until there is room in it.  A receiver takes messages from its channel at any
time, or has stopped taking any.

Every run ends (`exists_ended`, `measure_lt`).  What the receivers have got then is determined by the sends
that have been made (`Account`), and if not all sends have been made the next one is to a receiver that has
stopped, and whose channel is full (`ended_account`).
-/
import Mathlib
import Wormhole.Lib.Transition

namespace Wormhole.Lib.Channels

open Wormhole.Lib.Transition

variable {α μ : Type} [DecidableEq α]

/-! ## The machine -/

structure Receiver (μ : Type) where
  /-- the messages in the channel -/
  ch : List μ
  /-- it takes messages from the channel -/
  takes : Bool
  received : List μ
  deriving DecidableEq

/-- A message is put into the channel. -/
def Receiver.put (r : Receiver μ) (m : μ) : Receiver μ := { r with ch := r.ch ++ [m] }

/-- The first message is taken from the channel. -/
def Receiver.take (r : Receiver μ) (first : μ) (rest : List μ) : Receiver μ :=
  { r with ch := rest, received := r.received ++ [first] }

structure Sender (α μ : Type) where
  /-- the sends to come -/
  pending : List α
  receiver : α → Receiver μ

inductive Move (α : Type) where
  | send
  | take (id : α)

section Step

variable (capacity : Nat) (ids : List α) (m : μ)

/-- The next send, if there is room, or a receiver takes a message. -/
def step (s : Sender α μ) : Move α → Option (Sender α μ)
  | .send =>
    match s.pending with
    | [] => none
    | id :: pending =>
      if (s.receiver id).ch.length < capacity then
        some ⟨pending, Function.update s.receiver id ((s.receiver id).put m)⟩
      else none
  | .take id =>
    match (s.receiver id).ch with
    | [] => none
    | first :: rest =>
      if id ∈ ids ∧ (s.receiver id).takes = true then
        some ⟨s.pending, Function.update s.receiver id ((s.receiver id).take first rest)⟩
      else none

/-- Nothing can happen any more. -/
def Ended (s : Sender α μ) : Prop := ∀ move, step capacity ids m s move = none

end Step

variable {capacity : Nat} {ids : List α} {m : μ} {s s' s₀ : Sender α μ}

/-- What a step does. -/
theorem step_cases {move : Move α} (h : step capacity ids m s move = some s') :
    (∃ id pending, s.pending = id :: pending ∧ (s.receiver id).ch.length < capacity ∧
      s' = ⟨pending, Function.update s.receiver id ((s.receiver id).put m)⟩) ∨
    ∃ id first rest, id ∈ ids ∧ (s.receiver id).takes = true ∧ (s.receiver id).ch = first :: rest ∧
      s' = ⟨s.pending, Function.update s.receiver id ((s.receiver id).take first rest)⟩ := by
  cases move with
  | send =>
    unfold step at h
    dsimp only at h
    split at h
    · cases h
    · rename_i id pending hpending
      split at h
      · rename_i hroom
        exact .inl ⟨id, pending, hpending, hroom, (Option.some.inj h).symm⟩
      · cases h
  | take id =>
    unfold step at h
    dsimp only at h
    split at h
    · cases h
    · rename_i first rest hch
      split at h
      · rename_i hid
        exact .inr ⟨id, first, rest, hid.1, hid.2, hch, (Option.some.inj h).symm⟩
      · cases h

/-! ## Every run ends -/

/-- Two for each send to come, and one for each message in a channel. -/
def measure (ids : List α) (s : Sender α μ) : Nat :=
  2 * s.pending.length + (ids.map fun id => (s.receiver id).ch.length).sum

theorem sum_update_le (ids : List α) (hnodup : ids.Nodup) (f : α → Nat) (id : α) :
    (ids.map (Function.update f id (f id + 1))).sum ≤ (ids.map f).sum + 1 := by
  induction ids with
  | nil => exact Nat.zero_le _
  | cons i ids ih =>
    obtain ⟨hi, hids⟩ := List.nodup_cons.mp hnodup
    rw [List.map_cons, List.map_cons, List.sum_cons, List.sum_cons]
    by_cases hid : i = id
    · subst hid
      have hrest : ids.map (Function.update f i (f i + 1)) = ids.map f := by
        apply List.map_congr_left
        intro j hj
        have hne : j ≠ i := fun h => hi (h ▸ hj)
        exact Function.update_of_ne hne ..
      rw [hrest, Function.update_self]
      omega
    · rw [Function.update_of_ne hid]
      have := ih hids
      omega

theorem sum_update_lt (ids : List α) (f : α → Nat) {id : α} (hid : id ∈ ids) {n : Nat}
    (hn : n < f id) : (ids.map (Function.update f id n)).sum < (ids.map f).sum := by
  apply List.sum_lt_sum
  · intro i _
    rw [Function.update_apply]
    split
    · rename_i h
      rw [h]
      exact hn.le
    · exact le_refl _
  · exact ⟨id, hid, by rw [Function.update_self]; exact hn⟩

theorem ch_length_update (id : α) (r : Receiver μ) :
    (fun i => (Function.update s.receiver id r i).ch.length) =
      Function.update (fun i => (s.receiver i).ch.length) id r.ch.length := by
  funext i
  rw [Function.update_apply, Function.update_apply]
  split
  · rfl
  · rfl

/-- **Every step** comes closer to the end. -/
theorem measure_lt (hnodup : ids.Nodup) {move : Move α} (h : step capacity ids m s move = some s') :
    measure ids s' < measure ids s := by
  rcases step_cases h with ⟨id, pending, hpending, -, rfl⟩ | ⟨id, first, rest, hid, -, hch, rfl⟩
  · have hsum := sum_update_le ids hnodup (fun i => (s.receiver i).ch.length) id
    have hlength : ((s.receiver id).put m).ch.length = (s.receiver id).ch.length + 1 := by
      rw [Receiver.put, List.length_append, List.length_singleton]
    rw [measure, measure, ch_length_update, hlength, hpending, List.length_cons]
    dsimp only
    omega
  · have hlt : ((s.receiver id).take first rest).ch.length < (s.receiver id).ch.length := by
      rw [hch]
      exact Nat.lt_succ_self _
    have hsum := sum_update_lt ids (fun i => (s.receiver i).ch.length) hid hlt
    rw [measure, measure, ch_length_update]
    exact Nat.add_lt_add_left hsum _

/-- **From every state** a run leads to an end. -/
theorem exists_ended (hnodup : ids.Nodup) (s : Sender α μ) :
    ∃ t, Run (step capacity ids m) (fun _ _ => True) s t ∧ Ended capacity ids m t := by
  induction hn : measure ids s using Nat.strong_induction_on generalizing s with
  | h n ih =>
    by_cases hended : Ended capacity ids m s
    · exact ⟨s, Run.refl s, hended⟩
    · obtain ⟨move, hmove⟩ := not_forall.mp hended
      obtain ⟨s', hstep⟩ := Option.ne_none_iff_exists'.mp hmove
      obtain ⟨t, hrun, ht⟩ := ih _ (hn ▸ measure_lt hnodup hstep) s' rfl
      exact ⟨t, ((Run.refl s).snoc trivial hstep).trans hrun, ht⟩

/-! ## What has been received -/

/-- What has become of a receiver after `n` sends to it: its messages are where they were, in the channel, or
taken in order. -/
structure Tally (capacity : Nat) (m : μ) (r₀ r : Receiver μ) (n : Nat) : Prop where
  messages : r.received ++ r.ch = r₀.received ++ r₀.ch ++ List.replicate n m
  takes : r.takes = r₀.takes
  stopped : r₀.takes = false → r.received = r₀.received
  capacity : r.ch.length ≤ capacity

namespace Tally

variable {r₀ r : Receiver μ} {n : Nat}

theorem put (h : Tally capacity m r₀ r n) (hroom : r.ch.length < capacity) :
    Tally capacity m r₀ (r.put m) (n + 1) where
  messages := by
    show r.received ++ (r.ch ++ [m]) = _
    rw [List.replicate_succ', ← List.append_assoc, ← List.append_assoc, h.messages]
  takes := h.takes
  stopped := h.stopped
  capacity := by
    rw [Receiver.put, List.length_append]
    exact hroom

theorem take (h : Tally capacity m r₀ r n) (htakes : r.takes = true) {first : μ} {rest : List μ}
    (hch : r.ch = first :: rest) : Tally capacity m r₀ (r.take first rest) n where
  messages := by
    rw [← h.messages, hch]
    show (r.received ++ [first]) ++ rest = _
    rw [List.append_assoc]
    rfl
  takes := h.takes
  stopped := by
    -- a receiver that has stopped takes nothing
    intro hstopped
    rw [← h.takes, htakes] at hstopped
    cases hstopped
  capacity := by
    have hcapacity := h.capacity
    rw [hch] at hcapacity
    exact (Nat.le_succ _).trans hcapacity

end Tally

/-- The sends that have been made since `s₀`, and what has become of the receivers. -/
structure Account (capacity : Nat) (m : μ) (s₀ s : Sender α μ) (done : List α) : Prop where
  pending : s₀.pending = done ++ s.pending
  receiver : ∀ id, Tally capacity m (s₀.receiver id) (s.receiver id) (done.count id)

theorem Account.step {done : List α} (h : Account capacity m s₀ s done) {move : Move α}
    (hstep : step capacity ids m s move = some s') : ∃ done', Account capacity m s₀ s' done' := by
  rcases step_cases hstep with ⟨id, pending, hpending, hroom, rfl⟩ | ⟨id, first, rest, -, htakes, hch, rfl⟩
  · refine ⟨done ++ [id], ?_, ?_⟩
    · rw [h.pending, hpending, List.append_assoc]
      rfl
    · refine (Function.forall_update_iff s.receiver
        (p := fun i r => Tally capacity m (s₀.receiver i) r ((done ++ [id]).count i))).mpr ⟨?_, ?_⟩
      · rw [List.count_append, List.count_singleton_self]
        exact (h.receiver id).put hroom
      · intro i hi
        rw [List.count_append, List.count_singleton, if_neg (by simpa using Ne.symm hi)]
        exact h.receiver i
  · refine ⟨done, h.pending, ?_⟩
    exact (Function.forall_update_iff s.receiver
      (p := fun i r => Tally capacity m (s₀.receiver i) r (done.count i))).mpr
      ⟨(h.receiver id).take htakes hch, fun i _ => h.receiver i⟩

/-- **Every run** has an account. -/
theorem run_account (hcapacity : ∀ id, (s₀.receiver id).ch.length ≤ capacity)
    (hrun : Run (step capacity ids m) (fun _ _ => True) s₀ s) : ∃ done, Account capacity m s₀ s done := by
  refine hrun.invariant (I := fun s => ∃ done, Account capacity m s₀ s done) ?_ ?_
  · rintro s move s' ⟨done, h⟩ - hstep
    exact h.step hstep
  · refine ⟨[], rfl, ?_⟩
    intro id
    refine ⟨?_, rfl, fun _ => rfl, hcapacity id⟩
    rw [List.count_nil, List.replicate_zero, List.append_nil]

/-- **At the end** of a run every receiver that takes messages has got all that was sent to it, and the sends
that have not been made are behind a receiver that has stopped, and has as many messages as its channel can
hold. -/
theorem ended_account (hpos : 0 < capacity) (hcapacity : ∀ id, (s₀.receiver id).ch.length ≤ capacity)
    (hids : ∀ id ∈ s₀.pending, id ∈ ids) (hrun : Run (step capacity ids m) (fun _ _ => True) s₀ s)
    (hended : Ended capacity ids m s) : ∃ done, s₀.pending = done ++ s.pending ∧
      (∀ id ∈ ids, (s₀.receiver id).takes = true → (s.receiver id).received =
        (s₀.receiver id).received ++ (s₀.receiver id).ch ++ List.replicate (done.count id) m) ∧
      (∀ id, (s₀.receiver id).takes = false → (s₀.receiver id).ch.length + done.count id ≤ capacity) ∧
      (s.pending = [] ∨ ∃ id rest, s.pending = id :: rest ∧ (s₀.receiver id).takes = false ∧
        (s₀.receiver id).ch.length + done.count id = capacity) := by
  obtain ⟨done, h⟩ := run_account hcapacity hrun
  have hempty : ∀ id ∈ ids, (s₀.receiver id).takes = true → (s.receiver id).ch = [] := by
    intro id hid htakes
    have htake := hended (.take id)
    rw [← (h.receiver id).takes] at htakes
    unfold step at htake
    dsimp only at htake
    split at htake
    · assumption
    · rw [if_pos ⟨hid, htakes⟩] at htake
      cases htake
  -- a receiver that has stopped has all its messages in the channel
  have hlength : ∀ id, (s₀.receiver id).takes = false →
      (s.receiver id).ch.length = (s₀.receiver id).ch.length + done.count id := by
    intro id hstopped
    have hmessages := (h.receiver id).messages
    rw [(h.receiver id).stopped hstopped, List.append_assoc] at hmessages
    rw [List.append_cancel_left hmessages, List.length_append, List.length_replicate]
  refine ⟨done, h.pending, ?_, ?_, ?_⟩
  · intro id hid htakes
    rw [← (h.receiver id).messages, hempty id hid htakes, List.append_nil]
  · intro id hstopped
    rw [← hlength id hstopped]
    exact (h.receiver id).capacity
  · cases hpending : s.pending with
    | nil => exact .inl rfl
    | cons id rest =>
      have hfull : ¬(s.receiver id).ch.length < capacity := by
        intro hroom
        have hsend := hended .send
        unfold step at hsend
        rw [hpending] at hsend
        dsimp only at hsend
        rw [if_pos hroom] at hsend
        cases hsend
      have hid : id ∈ ids := by
        apply hids
        rw [h.pending, hpending]
        exact List.mem_append_right _ List.mem_cons_self
      have hstopped : (s₀.receiver id).takes = false := by
        by_contra htakes
        have hnil := hempty id hid (Bool.eq_true_of_not_eq_false htakes)
        exact hfull (by rw [hnil]; exact hpos)
      refine .inr ⟨id, rest, rfl, hstopped, ?_⟩
      rw [← hlength id hstopped]
      exact le_antisymm (h.receiver id).capacity (not_lt.mp hfull)

end Wormhole.Lib.Channels

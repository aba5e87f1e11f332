/-
# Wormhole.Guardian.ProcessedHeight — how the validator keeps track of finished heights.

The validator's `fromHeight` is the least height that has not been handled.  Heights may be finished
out of order: a later one waits in `blocks` until those before it are there.  `finishRound_of_finished`
says what a notification does; `Passed` is what holds after any notifications of different heights, and
`caughtUp_iff` says after which orders of arrival nothing is left waiting.
-/
import Mathlib
import Wormhole.Lib.Bytes
import Wormhole.Lib.Go
import Wormhole.Guardian.AlephiumEvent
import Wormhole.Guardian.Validator

namespace Wormhole.Guardian.Alephium

open Wormhole.Lib Wormhole.Lib.Bytes

/-! ## What the events of a batch leave alone -/

section Frame

variable {client : Client} {v v' : Validator} {header : BlockHeader}

theorem expectedSender_sameStore {t : TransferMessage} {result : Except String Byte32}
    (h : expectedSender v t = .ok (v', result)) : SameStore v v' := by
  have hsame : ∀ {w w' : Validator} {r r' : Except String Byte32}, SameStore v w →
      Go.ok (w, r) = .ok (w', r') → SameStore v w' := by
    intro w w' r r' hw heq
    obtain ⟨rfl, -⟩ := Prod.mk.inj (Go.ok.inj heq)
    exact hw
  unfold expectedSender getRemoteChain getTokenWrapper at h
  split at h
  all_goals
    split at h
    · exact hsame (.refl v) h
    · split at h
      · exact hsame (.refl v) h
      · obtain ⟨contractId, -, h⟩ := Go.bind_eq_ok.mp h
        refine hsame ?_ h
        exact ⟨rfl, rfl, rfl, rfl, rfl, rfl⟩

theorem publish_sameStore {msg : WormholeMessage} (h : publish v msg header = .ok v') :
    SameStore v v' := by
  obtain ⟨message, -, heq⟩ := Go.bind_eq_ok.mp h
  obtain rfl := Go.ok.inj heq
  exact ⟨rfl, rfl, rfl, rfl, rfl, rfl⟩

theorem validateTransferMessage_sameStore {t : TransferMessage} {result : Except String Unit}
    (h : validateTransferMessage v t = .ok (v', result)) : SameStore v v' := by
  obtain ⟨⟨v₁, contractId⟩, hsender, h⟩ := Go.bind_eq_ok.mp h
  have hsame := expectedSender_sameStore hsender
  cases contractId with
  | error reason =>
    obtain ⟨rfl, -⟩ := Prod.mk.inj (Go.ok.inj h)
    exact hsame
  | ok id =>
    simp only at h
    split at h
    · obtain ⟨rfl, -⟩ := Prod.mk.inj (Go.ok.inj h)
      exact hsame
    · obtain ⟨rfl, -⟩ := Prod.mk.inj (Go.ok.inj h)
      exact hsame

theorem handleGovernanceEvent_sameStore {event : Event}
    (h : handleGovernanceEvent v event header = .ok v') : SameStore v v' := by
  obtain ⟨msg, -, h⟩ := Go.bind_eq_ok.mp h
  obtain ⟨isTransfer, -, h⟩ := Go.bind_eq_ok.mp h
  split at h
  · obtain ⟨t, -, h⟩ := Go.bind_eq_ok.mp h
    obtain ⟨⟨v₁, result⟩, hvalidate, h⟩ := Go.bind_eq_ok.mp h
    have hsame := validateTransferMessage_sameStore hvalidate
    cases result with
    | error reason =>
      obtain rfl := Go.ok.inj h
      exact hsame
    | ok _ => exact hsame.trans (publish_sameStore h)
  · exact publish_sameStore h

/-- No entry is one of the last height. -/
def Batch.NoHeight (b : Batch) : Prop := ∀ kv ∈ b, kv.1 ≠ lastBlockHeightKey

theorem Batch.NoHeight.concat {b : Batch} (h : b.NoHeight) {kv : List UInt8 × List UInt8}
    (hkv : kv.1 ≠ lastBlockHeightKey) : Batch.NoHeight (b ++ [kv]) := by
  intro kv' hmem
  rcases List.mem_append.mp hmem with hmem | hmem
  · exact h kv' hmem
  · rwa [List.mem_singleton.mp hmem]

/-- **Handling events** changes neither the store nor the heights, and puts no height in the batch. -/
theorem handleEvents_frame {events : List Event} {batch batch' : Batch} (hbatch : batch.NoHeight)
    (h : handleEvents client header events (v, batch) = .ok (v', batch')) :
    SameStore v v' ∧ batch'.NoHeight := by
  induction events generalizing v batch with
  | nil =>
    obtain ⟨rfl, rfl⟩ := Prod.mk.inj (Go.ok.inj h)
    exact ⟨.refl v, hbatch⟩
  | cons event events ih =>
    obtain ⟨⟨v₁, batch₁⟩, hevent, hrest⟩ := Go.bind_eq_ok.mp h
    have hone : SameStore v v₁ ∧ batch₁.NoHeight := by
      simp only [handleEvent] at hevent
      split at hevent
      · obtain ⟨v₂, hmessage, heq⟩ := Go.bind_eq_ok.mp hevent
        obtain ⟨rfl, rfl⟩ := Prod.mk.inj (Go.ok.inj heq)
        exact ⟨handleGovernanceEvent_sameStore hmessage, hbatch⟩
      · split at hevent
        · obtain ⟨batch₂, hcreated, heq⟩ := Go.bind_eq_ok.mp hevent
          obtain ⟨rfl, rfl⟩ := Prod.mk.inj (Go.ok.inj heq)
          obtain ⟨⟨chainId, address⟩, -, heq⟩ := Go.bind_eq_ok.mp hcreated
          obtain rfl := Go.ok.inj heq
          exact ⟨.refl v, hbatch.concat (lastBlockHeightKey_ne_chainKey chainId).symm⟩
        · split at hevent
          · obtain ⟨batch₂, hcreated, heq⟩ := Go.bind_eq_ok.mp hevent
            obtain ⟨rfl, rfl⟩ := Prod.mk.inj (Go.ok.inj heq)
            obtain ⟨⟨tokenId, address⟩, -, heq⟩ := Go.bind_eq_ok.mp hcreated
            obtain rfl := Go.ok.inj heq
            exact ⟨.refl v, hbatch.concat (lastBlockHeightKey_ne_tokenWrapperKey tokenId).symm⟩
          · obtain ⟨rfl, rfl⟩ := Prod.mk.inj (Go.ok.inj hevent)
            exact ⟨.refl v, hbatch⟩
    obtain ⟨hsame, hbatch'⟩ := ih hone.2 hrest
    exact ⟨hone.1.trans hsame, hbatch'⟩

end Frame

theorem writeBatch_of_noHeight {db : Db} {b : Batch} (h : b.NoHeight) :
    writeBatch db b lastBlockHeightKey = db lastBlockHeightKey := by
  induction b generalizing db with
  | nil => rfl
  | cons kv b ih =>
    have hrest : writeBatch (Function.update db kv.1 (some kv.2)) b lastBlockHeightKey =
        Function.update db kv.1 (some kv.2) lastBlockHeightKey :=
      ih fun kv' hkv' => h kv' (List.mem_cons_of_mem _ hkv')
    exact hrest.trans (Function.update_of_ne (h kv (List.mem_cons_self ..)).symm ..)

theorem writeBatch_updateHeight (db : Db) (b : Batch) (height : Nat) :
    writeBatch db (b.updateHeight height) lastBlockHeightKey = some (beBytes 4 height) := by
  have hself : Function.update (writeBatch db b) lastBlockHeightKey (some (beBytes 4 height))
      lastBlockHeightKey = some (beBytes 4 height) := Function.update_self ..
  rw [Batch.updateHeight, writeBatch, List.foldl_append]
  exact hself

/-! ## One notification -/

/-- **The loop.** It deletes the heights from `h` up to the first that is not finished. -/
theorem drain_spec (blocks : Nat → Option Bool) (h n : Nat) : ∃ m, h ≤ m ∧ m ≤ h + n ∧
    (∀ x, h ≤ x → x < m → blocks x = some true) ∧ (m < h + n → blocks m ≠ some true) ∧
    drain blocks h n =
      ((fun x => if h ≤ x ∧ x < m then none else blocks x), decide (m = h + n)) := by
  induction n generalizing blocks h with
  | zero =>
    refine ⟨h, le_rfl, le_rfl, fun x _ _ => by omega, fun _ => by omega, ?_⟩
    have hid : (fun x => if h ≤ x ∧ x < h then none else blocks x) = blocks := by
      funext x
      rw [if_neg (by omega)]
    rw [hid, drain]
    simp
  | succ n ih =>
    by_cases hh : blocks h = some true
    · obtain ⟨m, hm, hmn, hbefore, hat, heq⟩ := ih (Function.update blocks h none) (h + 1)
      refine ⟨m, by omega, by omega, fun x hx hxm => ?_, fun hlt => ?_, ?_⟩
      · by_cases hxh : x = h
        · rw [hxh, hh]
        · rw [← hbefore x (by omega) hxm, Function.update_of_ne hxh]
      · rw [← Function.update_of_ne (show m ≠ h by omega) none blocks]
        exact hat (by omega)
      · rw [drain, if_pos hh, heq]
        refine Prod.ext (funext fun x => ?_) (by simp; omega)
        by_cases hxh : x = h
        · subst hxh
          simp only
          rw [if_neg (by omega), if_pos (by omega), Function.update_self]
        · simp only [Function.update_of_ne hxh]
          congr 1
          simp only [eq_iff_iff]
          omega
    · refine ⟨h, le_rfl, by omega, fun x _ _ => by omega, fun _ => hh, ?_⟩
      have hid : (fun x => if h ≤ x ∧ x < h then none else blocks x) = blocks := by
        funext x
        rw [if_neg (by omega)]
      rw [hid, drain, if_neg hh]
      simp

section Notification

variable {v : Validator} {confirmed : ConfirmedMessages} (batch : Batch)

/-- **A finished height.** Not below `fromHeight`: the heights up to the first missing one are taken
out, and when none is missing `fromHeight` moves behind the new one. -/
theorem finishRound_of_finished (hfinished : confirmed.finished = true)
    (hnew : confirmed.reObserved = false) (hheight : v.fromHeight ≤ confirmed.blockHeader.height)
    (hmax : confirmed.blockHeader.height + 1 < 2 ^ 32) :
    ∃ m, v.fromHeight ≤ m ∧ m ≤ confirmed.blockHeader.height + 1 ∧
      (∀ x, v.fromHeight ≤ x → x < m → x = confirmed.blockHeader.height ∨ v.blocks x = some true) ∧
      (m ≤ confirmed.blockHeader.height →
        m ≠ confirmed.blockHeader.height ∧ v.blocks m ≠ some true) ∧
      (∀ x, (finishRound v confirmed batch).blocks x = if v.fromHeight ≤ x ∧ x < m then none
        else if x = confirmed.blockHeader.height then some true else v.blocks x) ∧
      (finishRound v confirmed batch).fromHeight =
        (if m = confirmed.blockHeader.height + 1 then m else v.fromHeight) ∧
      (finishRound v confirmed batch).db = writeBatch v.db
        (if m = confirmed.blockHeader.height + 1
          then batch.updateHeight (confirmed.blockHeader.height - MaxForkHeight) else batch) := by
  generalize hk : confirmed.blockHeader.height = k at *
  obtain ⟨m, hm, hmn, hbefore, hat, heq⟩ :=
    drain_spec (Function.update v.blocks k (some true)) v.fromHeight (k + 1 - v.fromHeight)
  have hend : v.fromHeight + (k + 1 - v.fromHeight) = k + 1 := by omega
  rw [hend] at hmn hat heq
  have hupdate : ∀ x, Function.update v.blocks k (some true) x =
      if x = k then some true else v.blocks x := fun x => Function.update_apply ..
  refine ⟨m, hm, hmn, fun x hx hxm => ?_, fun hmk => ?_, ?_⟩
  · have hx := hbefore x hx hxm
    rw [hupdate] at hx
    by_cases hxk : x = k
    · exact .inl hxk
    · rw [if_neg hxk] at hx
      exact .inr hx
  · have hno := hat (by omega)
    rw [hupdate] at hno
    by_cases hmk : m = k
    · rw [if_pos hmk] at hno
      exact absurd rfl hno
    · rw [if_neg hmk] at hno
      exact ⟨hmk, hno⟩
  · have hdrainTo : drainTo (Function.update v.blocks k (some true)) v.fromHeight k =
        ((fun x => if v.fromHeight ≤ x ∧ x < m then none
          else Function.update v.blocks k (some true) x), decide (m = k + 1)) := by
      rw [drainTo, heq]
      simp only
      rw [if_neg (by omega)]
    have hround : finishRound v confirmed batch =
        { v with
          blocks := fun x => if v.fromHeight ≤ x ∧ x < m then none
            else Function.update v.blocks k (some true) x
          fromHeight := if m = k + 1 then m else v.fromHeight
          db := writeBatch v.db
            (if m = k + 1 then batch.updateHeight (k - MaxForkHeight) else batch) } := by
      rw [finishRound, if_neg (by simp [hnew])]
      simp only [hfinished, hk, if_true, updateProcessedHeight, if_neg (Nat.not_lt.mpr hheight),
        hdrainTo]
      by_cases hmk : m = k + 1
      · simp [hmk]
      · simp [hmk]
    rw [hround]
    refine ⟨fun x => ?_, rfl, rfl⟩
    simp only [hupdate]

end Notification

/-! ## Orders of arrival -/

/-- The height `h` has arrived when every height from `f` up to it was there. -/
def InTurn (f : Nat) (order : List Nat) (h : Nat) : Prop :=
  ∃ pre post, order = pre ++ h :: post ∧ ∀ x, f ≤ x → x < h → x ∈ pre

/-- The least height from `f` on that has not arrived. -/
def Due (f : Nat) (order : List Nat) (m : Nat) : Prop :=
  f ≤ m ∧ m ∉ order ∧ ∀ x, f ≤ x → x < m → x ∈ order

/-- **The orders that leave nothing waiting.** When a height arrives that is not the one due, nothing
has arrived in turn yet, or the height before the one due has: nothing waits at `fromHeight`. -/
def Orderly (f : Nat) (order : List Nat) : Prop :=
  ∀ pre k post, order = pre ++ k :: post → ∀ m, Due f pre m →
    k = m ∨ m = f ∨ InTurn f pre (m - 1)

theorem concat_eq_append_cons {α : Type} {l pre post : List α} {a b : α}
    (h : l ++ [a] = pre ++ b :: post) : (pre = l ∧ b = a) ∨ ∃ rest, l = pre ++ b :: rest := by
  rcases List.eq_nil_or_concat post with rfl | ⟨rest, c, rfl⟩
  · obtain ⟨rfl, heq⟩ := List.append_inj' h rfl
    exact .inl ⟨rfl, (List.cons.inj heq).1.symm⟩
  · refine .inr ⟨rest, ?_⟩
    rw [List.concat_eq_append, ← List.cons_append, ← List.append_assoc] at h
    exact (List.append_inj' h rfl).1

theorem inTurn_concat {f h k : Nat} {order : List Nat} : InTurn f (order ++ [k]) h ↔
    InTurn f order h ∨ h = k ∧ ∀ x, f ≤ x → x < k → x ∈ order := by
  constructor
  · rintro ⟨pre, post, heq, hpre⟩
    rcases concat_eq_append_cons heq with ⟨rfl, rfl⟩ | ⟨rest, rfl⟩
    · exact .inr ⟨rfl, hpre⟩
    · exact .inl ⟨pre, rest, rfl, hpre⟩
  · rintro (⟨pre, post, rfl, hpre⟩ | ⟨rfl, hall⟩)
    · exact ⟨pre, post ++ [k], by simp, hpre⟩
    · exact ⟨order, [], rfl, hall⟩

theorem orderly_concat {f k : Nat} {order : List Nat} : Orderly f (order ++ [k]) ↔
    Orderly f order ∧ ∀ m, Due f order m → k = m ∨ m = f ∨ InTurn f order (m - 1) := by
  constructor
  · intro h
    exact ⟨fun pre k' post heq => h pre k' (post ++ [k]) (by simp [heq]),
      h order k [] rfl⟩
  · rintro ⟨h, hk⟩ pre k' post heq
    rcases concat_eq_append_cons heq with ⟨rfl, rfl⟩ | ⟨rest, rfl⟩
    · exact hk
    · exact h pre k' rest rfl

theorem exists_due (f : Nat) (order : List Nat) : ∃ m, Due f order m := by
  have hex : ∃ m, f ≤ m ∧ m ∉ order := by
    obtain ⟨m, hm⟩ := Infinite.exists_notMem_finset (order ++ List.range f).toFinset
    simp only [List.mem_toFinset, List.mem_append, List.mem_range, not_or, not_lt] at hm
    exact ⟨m, hm.2, hm.1⟩
  classical
  refine ⟨Nat.find hex, (Nat.find_spec hex).1, (Nat.find_spec hex).2, fun x hx hlt => ?_⟩
  by_contra hmem
  exact Nat.find_min hex hlt ⟨hx, hmem⟩

/-! ## The validator after an order of arrival -/

/-- **Nothing is passed over.** The heights below `fromHeight` have all arrived. -/
structure Passed (f : Nat) (order : List Nat) (v : Validator) : Prop where
  le : f ≤ v.fromHeight
  passed : ∀ h, f ≤ h → h < v.fromHeight → h ∈ order

/-- What waits are the heights that have arrived and are not below `fromHeight`, which is one behind the
last that arrived in turn. -/
structure Waiting (f : Nat) (order : List Nat) (v : Validator) : Prop extends Passed f order v where
  blocks : ∀ h, v.blocks h = if v.fromHeight ≤ h ∧ h ∈ order then some true else none
  inTurn : ∀ h, f ≤ h → InTurn f order h → h < v.fromHeight
  last : v.fromHeight = f ∨ f < v.fromHeight ∧ InTurn f order (v.fromHeight - 1)

/-- **Stuck.** The height at `fromHeight` has arrived and is no longer there. -/
structure Stuck (f : Nat) (order : List Nat) (v : Validator) : Prop extends Passed f order v where
  arrived : v.fromHeight ∈ order
  gone : v.blocks v.fromHeight ≠ some true

section Arrival

variable {f : Nat} {order : List Nat} {v : Validator} {confirmed : ConfirmedMessages} (batch : Batch)
  (hfinished : confirmed.finished = true) (hnew : confirmed.reObserved = false)
  (hmax : confirmed.blockHeader.height + 1 < 2 ^ 32)

/-- A height that has not arrived is not below `fromHeight`. -/
theorem Passed.fromHeight_le (h : Passed f order v) {k : Nat} (hk : f ≤ k) (hk' : k ∉ order) :
    v.fromHeight ≤ k :=
  Nat.le_of_not_lt fun hlt => hk' (h.passed k hk hlt)

include hfinished hnew hmax in
/-- **Step**, when the validator is stuck. -/
theorem Stuck.finishRound (h : Stuck f order v) (hk : f ≤ confirmed.blockHeader.height)
    (hk' : confirmed.blockHeader.height ∉ order) :
    Stuck f (order ++ [confirmed.blockHeader.height]) (finishRound v confirmed batch) := by
  have hle := h.toPassed.fromHeight_le hk hk'
  obtain ⟨m, hm, hmk, hbefore, -, hblocks, hfrom, -⟩ :=
    finishRound_of_finished batch hfinished hnew hle hmax
  have hne : v.fromHeight ≠ confirmed.blockHeader.height := fun heq => hk' (heq ▸ h.arrived)
  -- the loop ends at once
  have hm' : m = v.fromHeight := by
    by_contra hlt
    rcases hbefore v.fromHeight le_rfl (by omega) with heq | htrue
    · exact hne heq
    · exact h.gone htrue
  have hfrom' : (Alephium.finishRound v confirmed batch).fromHeight = v.fromHeight := by
    rw [hfrom, if_neg (by omega)]
  refine ⟨⟨hfrom'.symm ▸ h.le, fun x hx hlt => ?_⟩, ?_, ?_⟩
  · rw [hfrom'] at hlt
    exact List.mem_append_left _ (h.passed x hx hlt)
  · rw [hfrom']
    exact List.mem_append_left _ h.arrived
  · rw [hfrom', hblocks, if_neg (by omega), if_neg hne]
    exact h.gone

theorem Waiting.blocks_eq_true (h : Waiting f order v) {x : Nat} :
    v.blocks x = some true ↔ v.fromHeight ≤ x ∧ x ∈ order := by
  rw [h.blocks]
  split <;> simp_all

/-- `fromHeight` is the height that is due, when that is the first one or the one behind what arrived in turn. -/
theorem Waiting.fromHeight_eq_iff (h : Waiting f order v) {m : Nat} (hm : Due f order m) :
    v.fromHeight = m ↔ m = f ∨ InTurn f order (m - 1) := by
  constructor
  · rintro rfl
    exact h.last.imp id fun hlast => hlast.2
  · have hle : f ≤ v.fromHeight := h.le
    have hlem := h.toPassed.fromHeight_le hm.1 hm.2.1
    rintro (rfl | hturn)
    · omega
    · by_cases hmf : m = f
      · omega
      · have hfm := hm.1
        have hlt := h.inTurn (m - 1) (by omega) hturn
        omega

/-- **The loop over the waiting heights**, after `k` has arrived.  It ends at `m`: what it passed is `k` or
has arrived, and it stops at what is neither. -/
structure Drained (order : List Nat) (v : Validator) (k m : Nat) (v' : Validator) : Prop where
  le : v.fromHeight ≤ m
  le_succ : m ≤ k + 1
  passed : ∀ x, v.fromHeight ≤ x → x < m → x = k ∨ x ∈ order
  stops : m ≤ k → m ≠ k ∧ m ∉ order
  blocks : ∀ x, v'.blocks x = if v.fromHeight ≤ x ∧ x < m then none else if x = k then some true else v.blocks x
  fromHeight : v'.fromHeight = if m = k + 1 then m else v.fromHeight

include hfinished hnew hmax in
theorem Waiting.drained (h : Waiting f order v) (hle : v.fromHeight ≤ confirmed.blockHeader.height) :
    ∃ m, Drained order v confirmed.blockHeader.height m (finishRound v confirmed batch) := by
  obtain ⟨m, hm, hmk, hbefore, hat, hblocks, hfrom, -⟩ := finishRound_of_finished batch hfinished hnew hle hmax
  refine ⟨m, hm, hmk, fun x hx hlt => ?_, fun hlt => ⟨(hat hlt).1, fun hmem => ?_⟩, hblocks, hfrom⟩
  · exact (hbefore x hx hlt).imp_right fun htrue => (h.blocks_eq_true.mp htrue).2
  · exact (hat hlt).2 (h.blocks_eq_true.mpr ⟨hm, hmem⟩)

variable {k m : Nat} {v' : Validator}

/-- **The height that is due.** The loop passes it and ends behind it: nothing above it is looked at. -/
theorem Waiting.of_due (h : Waiting f order v) (hdrained : Drained order v k m v') (hk : Due f order k) :
    Waiting f (order ++ [k]) v' := by
  have hle := hdrained.le
  have hsucc := hdrained.le_succ
  have hend : m = k + 1 := by
    by_contra hne
    obtain ⟨hne', hno⟩ := hdrained.stops (by omega)
    have hfirst : f ≤ v.fromHeight := h.le
    exact hno (hk.2.2 m (by omega) (by omega))
  have hfrom : v'.fromHeight = k + 1 := by rw [hdrained.fromHeight, if_pos hend, hend]
  have hfk := hk.1
  have hlek := h.toPassed.fromHeight_le hk.1 hk.2.1
  refine ⟨⟨by omega, fun x hx hlt => ?_⟩, fun x => ?_, fun x hx hturn => ?_, .inr ⟨by omega, ?_⟩⟩
  · by_cases hxk : x = k
    · simp [hxk]
    · exact List.mem_append_left _ (hk.2.2 x hx (by omega))
  · rw [hdrained.blocks, hfrom, h.blocks, hend]
    by_cases hxk : x ≤ k
    · rw [if_neg (show ¬(k + 1 ≤ x ∧ x ∈ order ++ [k]) by omega)]
      by_cases hxf : v.fromHeight ≤ x
      · rw [if_pos (by omega)]
      · rw [if_neg (by omega), if_neg (by omega), if_neg (fun hx => hxf hx.1)]
    · have hmem : x ∈ order ++ [k] ↔ x ∈ order := by
        simp [show x ≠ k by omega]
      simp only [hmem, show v.fromHeight ≤ x by omega, show k + 1 ≤ x by omega,
        show ¬x < k + 1 by omega, show x ≠ k by omega, true_and, and_false, if_false]
  · rw [hfrom]
    rcases inTurn_concat.mp hturn with hturn | ⟨rfl, -⟩
    · have hlt := h.inTurn x hx hturn
      omega
    · omega
  · rw [hfrom, Nat.add_sub_cancel]
    exact inTurn_concat.mpr (.inr ⟨rfl, hk.2.2⟩)

/-- **A later height, with nothing waiting.** The loop ends at once, and the height waits. -/
theorem Waiting.of_later (h : Waiting f order v) (hdrained : Drained order v k m v')
    (hdue : Due f order v.fromHeight) (hlater : v.fromHeight < k) : Waiting f (order ++ [k]) v' := by
  have hle := hdrained.le
  have hend : m = v.fromHeight := by
    by_contra hne
    rcases hdrained.passed v.fromHeight le_rfl (by omega) with heq | hmem
    · omega
    · exact hdue.2.1 hmem
  have hfrom : v'.fromHeight = v.fromHeight := by rw [hdrained.fromHeight, if_neg (by omega)]
  refine ⟨⟨hfrom.symm ▸ h.le, fun x hx hlt => ?_⟩, fun x => ?_, fun x hx hturn => ?_, ?_⟩
  · rw [hfrom] at hlt
    exact List.mem_append_left _ (h.passed x hx hlt)
  · rw [hdrained.blocks, hfrom, h.blocks, if_neg (show ¬(v.fromHeight ≤ x ∧ x < m) by omega)]
    by_cases hxk : x = k
    · rw [if_pos hxk, if_pos ⟨by omega, by simp [hxk]⟩]
    · rw [if_neg hxk]
      simp [hxk]
  · rw [hfrom]
    rcases inTurn_concat.mp hturn with hturn | ⟨rfl, hall⟩
    · exact h.inTurn x hx hturn
    · exact absurd (hall v.fromHeight hdue.1 hlater) hdue.2.1
  · rw [hfrom]
    exact h.last.imp_right fun ⟨hlt, hlast⟩ => ⟨hlt, inTurn_concat.mpr (.inl hlast)⟩

/-- **A later height, with heights waiting.** The loop deletes what waits and stops at the height that is due, so
`fromHeight` stays where a height has been deleted. -/
theorem Waiting.stuck (h : Waiting f order v) (hdrained : Drained order v k m v') {d : Nat} (hdue : Due f order d)
    (hwaits : v.fromHeight < d) (hlater : d < k) : Stuck f (order ++ [k]) v' := by
  have hle := hdrained.le
  have hfirst : f ≤ v.fromHeight := h.le
  have hend : m = d := by
    rcases Nat.lt_trichotomy m d with hlt | heq | hgt
    · exact absurd (hdue.2.2 m (by omega) hlt) (hdrained.stops (by omega)).2
    · exact heq
    · rcases hdrained.passed d hwaits.le hgt with heq | hmem
      · omega
      · exact absurd hmem hdue.2.1
  have hfrom : v'.fromHeight = v.fromHeight := by rw [hdrained.fromHeight, if_neg (by omega)]
  refine ⟨⟨hfrom.symm ▸ hfirst, fun x hx hlt => ?_⟩, ?_, ?_⟩
  · rw [hfrom] at hlt
    exact List.mem_append_left _ (h.passed x hx hlt)
  · rw [hfrom]
    exact List.mem_append_left _ (hdue.2.2 _ hfirst hwaits)
  · rw [hfrom, hdrained.blocks, if_pos (by omega)]
    simp

include hfinished hnew hmax in
/-- **Step**, when nothing is stuck: the next height keeps it so, or the validator is stuck for good. -/
theorem Waiting.finishRound (h : Waiting f order v) (hk : f ≤ confirmed.blockHeader.height)
    (hk' : confirmed.blockHeader.height ∉ order) {m : Nat} (hm : Due f order m) :
    ((confirmed.blockHeader.height = m ∨ m = f ∨ InTurn f order (m - 1)) ∧
      Waiting f (order ++ [confirmed.blockHeader.height]) (finishRound v confirmed batch)) ∨
    (¬(confirmed.blockHeader.height = m ∨ m = f ∨ InTurn f order (m - 1)) ∧
      Stuck f (order ++ [confirmed.blockHeader.height]) (finishRound v confirmed batch)) := by
  obtain ⟨_, hdrained⟩ := h.drained batch hfinished hnew hmax (h.toPassed.fromHeight_le hk hk')
  have hlem := h.toPassed.fromHeight_le hm.1 hm.2.1
  rw [← h.fromHeight_eq_iff hm]
  by_cases hkm : confirmed.blockHeader.height = m
  · exact .inl ⟨.inl hkm, h.of_due hdrained (hkm ▸ hm)⟩
  · have hmk : m < confirmed.blockHeader.height := by
      by_contra hge
      exact hk' (hm.2.2 _ hk (by omega))
    by_cases hfm : v.fromHeight = m
    · exact .inl ⟨.inr hfm, h.of_later hdrained (hfm ▸ hm) (hfm ▸ hmk)⟩
    · exact .inr ⟨fun hor => hor.elim hkm hfm, h.stuck hdrained hm (lt_of_le_of_ne hlem hfm) hmk⟩

end Arrival

/-! ## Rounds -/

section Rounds

variable {client : Client} {f : Nat} {order : List Nat} {v v' : Validator}

theorem rounds_append (cs cs' : List ConfirmedMessages) (v : Validator) :
    rounds client (cs ++ cs') v = rounds client cs v >>= rounds client cs' := by
  induction cs generalizing v with
  | nil => rfl
  | cons c cs ih =>
    rw [List.cons_append, rounds, rounds]
    cases round client v c with
    | ok v₁ => exact ih v₁
    | error reason => rfl
    | panic reason => rfl

theorem rounds_concat {cs : List ConfirmedMessages} {c : ConfirmedMessages} :
    rounds client (cs ++ [c]) v = .ok v' ↔
      ∃ v₁, rounds client cs v = .ok v₁ ∧ round client v₁ c = .ok v' := by
  rw [rounds_append, Go.bind_eq_ok]
  refine exists_congr fun v₁ => and_congr_right fun _ => ?_
  rw [rounds, Go.bind_eq_ok]
  simp [rounds]

/-- A round is its bookkeeping, as far as the heights are concerned. -/
theorem round_eq_finishRound {c : ConfirmedMessages} (h : round client v c = .ok v') :
    ∃ v₁ batch, SameStore v v₁ ∧ Batch.NoHeight batch ∧ v' = finishRound v₁ c batch := by
  obtain ⟨⟨v₁, batch⟩, hevents, heq⟩ := Go.bind_eq_ok.mp h
  obtain ⟨hsame, hbatch⟩ := handleEvents_frame (fun _ hkv => by cases hkv) hevents
  exact ⟨v₁, batch, hsame, hbatch, (Go.ok.inj heq).symm⟩

theorem Passed.sameStore {v₁ : Validator} (h : Passed f order v) (hsame : SameStore v v₁) :
    Passed f order v₁ := by
  obtain ⟨hle, hpassed⟩ := h
  refine ⟨?_, ?_⟩ <;> rw [hsame.fromHeight]
  · exact hle
  · exact hpassed

theorem Waiting.sameStore {v₁ : Validator} (h : Waiting f order v) (hsame : SameStore v v₁) :
    Waiting f order v₁ := by
  obtain ⟨hpassed, hblocks, hturn, hlast⟩ := h
  refine ⟨hpassed.sameStore hsame, ?_, ?_, ?_⟩ <;> rw [hsame.fromHeight]
  · rw [hsame.blocks]
    exact hblocks
  · exact hturn
  · exact hlast

theorem Stuck.sameStore {v₁ : Validator} (h : Stuck f order v) (hsame : SameStore v v₁) :
    Stuck f order v₁ := by
  obtain ⟨hpassed, harrived, hgone⟩ := h
  refine ⟨hpassed.sameStore hsame, ?_, ?_⟩ <;> rw [hsame.fromHeight]
  · exact harrived
  · rw [hsame.blocks]
    exact hgone

/-- What the watcher reports of a height that is finished. -/
def Finished (c : ConfirmedMessages) : Prop := c.finished = true ∧ c.reObserved = false

/-- **Run.** After finished heights in any order, each once, the validator is stuck exactly when the
order was not orderly. -/
theorem rounds_waiting_or_stuck {cs : List ConfirmedMessages} (hempty : ∀ h, v.blocks h = none)
    (hfinished : ∀ c ∈ cs, Finished c)
    (hheights : ∀ c ∈ cs, v.fromHeight ≤ c.blockHeader.height ∧ c.blockHeader.height + 1 < 2 ^ 32)
    (hnodup : (cs.map (·.blockHeader.height)).Nodup) (h : rounds client cs v = .ok v') :
    (Orderly v.fromHeight (cs.map (·.blockHeader.height)) ∧
      Waiting v.fromHeight (cs.map (·.blockHeader.height)) v') ∨
    (¬Orderly v.fromHeight (cs.map (·.blockHeader.height)) ∧
      Stuck v.fromHeight (cs.map (·.blockHeader.height)) v') := by
  induction cs using List.reverseRecOn generalizing v' with
  | nil =>
    obtain rfl := Go.ok.inj h
    refine .inl ⟨fun pre k post heq => by simp at heq, ⟨⟨le_rfl, fun x hx hlt => by omega⟩, fun x => ?_,
      fun x hx hturn => ?_, .inl rfl⟩⟩
    · simp [hempty x]
    · obtain ⟨pre, post, heq, -⟩ := hturn
      simp at heq
  | append_singleton cs c ih =>
    obtain ⟨v₁, hcs, hc⟩ := rounds_concat.mp h
    rw [List.map_append, List.map_singleton] at hnodup ⊢
    obtain ⟨hnodup, hnew⟩ : (cs.map (·.blockHeader.height)).Nodup ∧
        c.blockHeader.height ∉ cs.map (·.blockHeader.height) := by
      rw [List.nodup_append] at hnodup
      exact ⟨hnodup.1, fun hmem => hnodup.2.2 _ hmem _ (List.mem_singleton_self _) rfl⟩
    obtain ⟨v₂, batch, hsame, -, rfl⟩ := round_eq_finishRound hc
    obtain ⟨hfin, hre⟩ := hfinished c (by simp)
    obtain ⟨hle, hmax⟩ := hheights c (by simp)
    rw [orderly_concat]
    rcases ih (fun c hc => hfinished c (List.mem_append_left _ hc))
      (fun c hc => hheights c (List.mem_append_left _ hc)) hnodup hcs with
      ⟨horderly, hwaiting⟩ | ⟨hno, hstuck⟩
    · obtain ⟨m, hm⟩ := exists_due v.fromHeight (cs.map (·.blockHeader.height))
      -- only one height is due
      have hunique : ∀ m', Due v.fromHeight (cs.map (·.blockHeader.height)) m' → m' = m := by
        intro m' hm'
        rcases Nat.lt_trichotomy m' m with hlt | heq | hgt
        · exact absurd (hm.2.2 m' hm'.1 hlt) hm'.2.1
        · exact heq
        · exact absurd (hm'.2.2 m hm.1 hgt) hm.2.1
      rcases (hwaiting.sameStore hsame).finishRound batch hfin hre hmax hle hnew hm with
        ⟨hk, hwaiting'⟩ | ⟨hk, hstuck'⟩
      · exact .inl ⟨⟨horderly, fun m' hm' => by rwa [hunique m' hm']⟩, hwaiting'⟩
      · exact .inr ⟨fun hor => hk (hor.2 m hm), hstuck'⟩
    · exact .inr ⟨fun hor => hno hor.1,
        (hstuck.sameStore hsame).finishRound batch hfin hre hmax hle hnew⟩

/-- The notifications: of the heights from `fromHeight` up to `H`, each once, and then of `H + 1`. -/
structure Arrivals (v : Validator) (cs : List ConfirmedMessages) (last : ConfirmedMessages) (H : Nat) : Prop where
  finished : ∀ c ∈ cs ++ [last], Finished c
  order : (cs.map (·.blockHeader.height)).Perm (List.range' v.fromHeight (H + 1 - v.fromHeight))
  from_le : v.fromHeight ≤ H + 1
  last_eq : last.blockHeader.height = H + 1
  bound : H + 2 < 2 ^ 32

section Arrivals

variable {cs : List ConfirmedMessages} {last : ConfirmedMessages} {H : Nat}

theorem Arrivals.mem_iff (h : Arrivals v cs last H) {k : Nat} :
    k ∈ cs.map (·.blockHeader.height) ↔ v.fromHeight ≤ k ∧ k ≤ H := by
  have hfrom := h.from_le
  rw [h.order.mem_iff, List.mem_range'_1]
  omega

theorem Arrivals.heights (h : Arrivals v cs last H) : ∀ c ∈ cs ++ [last],
    v.fromHeight ≤ c.blockHeader.height ∧ c.blockHeader.height + 1 < 2 ^ 32 := by
  intro c hc
  have hfrom := h.from_le
  have hlast := h.last_eq
  have hbound := h.bound
  rcases List.mem_append.mp hc with hc | hc
  · have hheight := h.mem_iff.mp (List.mem_map_of_mem hc)
    omega
  · rw [List.mem_singleton.mp hc]
    omega

/-- The last height comes once, and after the others. -/
theorem Arrivals.last_notMem (h : Arrivals v cs last H) :
    last.blockHeader.height ∉ cs.map (·.blockHeader.height) := by
  rw [h.mem_iff, h.last_eq]
  omega

theorem Arrivals.nodup (h : Arrivals v cs last H) : ((cs ++ [last]).map (·.blockHeader.height)).Nodup := by
  rw [List.map_append, List.map_singleton, List.nodup_append]
  refine ⟨h.order.nodup_iff.mpr List.nodup_range', List.nodup_singleton _, ?_⟩
  rintro x hx y hy rfl
  rw [List.mem_singleton.mp hy] at hx
  exact h.last_notMem hx

/-- Whatever part of the notifications has come, no height is passed over. -/
theorem Arrivals.passed (h : Arrivals v cs last H) (hempty : ∀ h, v.blocks h = none)
    {pre post : List ConfirmedMessages} {v₁ : Validator} (heq : cs ++ [last] = pre ++ post)
    (hpre : rounds client pre v = .ok v₁) : Passed v.fromHeight (pre.map (·.blockHeader.height)) v₁ := by
  have hsub : ∀ c ∈ pre, c ∈ cs ++ [last] := fun c hc => heq ▸ List.mem_append_left _ hc
  have hnodup := h.nodup
  rw [heq, List.map_append] at hnodup
  rcases rounds_waiting_or_stuck hempty (fun c hc => h.finished c (hsub c hc))
    (fun c hc => h.heights c (hsub c hc)) (List.nodup_append.mp hnodup).1 hpre with
    ⟨-, hwaiting⟩ | ⟨-, hstuck⟩
  · exact hwaiting.toPassed
  · exact hstuck.toPassed

variable {v₂ : Validator} {batch : Batch}

/-- If the others wait, the last one is due, and nothing is left behind. -/
theorem Waiting.caughtUp (hwaiting : Waiting v.fromHeight (cs.map (·.blockHeader.height)) v₂)
    (h : Arrivals v cs last H) :
    (Alephium.finishRound v₂ last batch).fromHeight = H + 2 ∧
      (∀ k, (Alephium.finishRound v₂ last batch).blocks k = none) ∧
      (Alephium.finishRound v₂ last batch).db lastBlockHeightKey = some (beBytes 4 (H + 1 - 100)) := by
  obtain ⟨hfin, hre⟩ := h.finished last (by simp)
  obtain ⟨hle, hbound⟩ := h.heights last (by simp)
  have hnew := h.last_notMem
  have hlast := h.last_eq
  have hdue : Due v.fromHeight (cs.map (·.blockHeader.height)) last.blockHeader.height :=
    ⟨hle, hnew, fun x hx hlt => h.mem_iff.mpr (by omega)⟩
  have hle₂ := hwaiting.toPassed.fromHeight_le hle hnew
  obtain ⟨m, -, -, -, -, -, hfrom', hdb⟩ := finishRound_of_finished batch hfin hre hle₂ hbound
  rcases hwaiting.finishRound batch hfin hre hbound hle hnew hdue with ⟨-, hafter⟩ | ⟨hno, -⟩
  · have hturn := hafter.inTurn last.blockHeader.height hle (inTurn_concat.mpr (.inr ⟨rfl, hdue.2.2⟩))
    have hm : m = last.blockHeader.height + 1 := by
      by_contra hne
      rw [if_neg hne] at hfrom'
      omega
    rw [if_pos hm] at hfrom' hdb
    refine ⟨by omega, fun k => ?_, ?_⟩
    · rw [hafter.blocks, if_neg]
      rintro ⟨hge, hmem'⟩
      rcases List.mem_append.mp hmem' with hold | hlast'
      · have hheight := h.mem_iff.mp hold
        omega
      · rw [List.mem_singleton] at hlast'
        omega
    · rw [hdb, writeBatch_updateHeight, hlast, MaxForkHeight]
  · exact absurd (.inl rfl) hno

/-- If one of the others is stuck, the last height does not help. -/
theorem Stuck.behind (hstuck : Stuck v.fromHeight (cs.map (·.blockHeader.height)) v₂)
    (h : Arrivals v cs last H) : (Alephium.finishRound v₂ last batch).fromHeight ≠ H + 2 := by
  obtain ⟨hfin, hre⟩ := h.finished last (by simp)
  obtain ⟨hle, hbound⟩ := h.heights last (by simp)
  have hlast := h.last_eq
  intro hend
  have harrived := (hstuck.finishRound batch hfin hre hbound hle h.last_notMem).arrived
  rw [hend, List.mem_append, h.mem_iff, List.mem_singleton] at harrived
  omega

end Arrivals

/-- **Catching up.** The validator is told that the heights `fromHeight`, …, `H` are finished, each once
and in any order, and then that `H + 1` is.  It ends at `H + 2` with nothing waiting and the last height
stored, without ever passing over a height, exactly when the order is orderly. -/
theorem caughtUp_iff {cs : List ConfirmedMessages} {last : ConfirmedMessages} {H : Nat}
    (hempty : ∀ h, v.blocks h = none) (hfinished : ∀ c ∈ cs ++ [last], Finished c)
    (horder : (cs.map (·.blockHeader.height)).Perm
      (List.range' v.fromHeight (H + 1 - v.fromHeight)))
    (hfrom : v.fromHeight ≤ H + 1) (hlast : last.blockHeader.height = H + 1) (hmax : H + 2 < 2 ^ 32)
    (hrounds : rounds client (cs ++ [last]) v = .ok v') :
    (v'.fromHeight = H + 2 ∧ (∀ h, v'.blocks h = none) ∧
      v'.db lastBlockHeightKey = some (beBytes 4 (H + 1 - 100)) ∧
      ∀ pre post v₁, cs ++ [last] = pre ++ post → rounds client pre v = .ok v₁ →
        ∀ h, v.fromHeight ≤ h → h < v₁.fromHeight → h ∈ pre.map (·.blockHeader.height)) ↔
    Orderly v.fromHeight (cs.map (·.blockHeader.height)) := by
  have harrivals : Arrivals v cs last H := ⟨hfinished, horder, hfrom, hlast, hmax⟩
  obtain ⟨v₁, hcs, hround⟩ := rounds_concat.mp hrounds
  obtain ⟨v₂, batch, hsame, hbatch, rfl⟩ := round_eq_finishRound hround
  have hnodup := harrivals.nodup
  rw [List.map_append, List.map_singleton, List.nodup_append] at hnodup
  -- before the last one, what has come waits or is stuck, as the order is orderly or not
  rcases rounds_waiting_or_stuck hempty (fun c hc => hfinished c (List.mem_append_left _ hc))
    (fun c hc => harrivals.heights c (List.mem_append_left _ hc)) hnodup.1 hcs with
    ⟨horderly, hwaiting⟩ | ⟨hno, hstuck⟩
  · refine iff_of_true ?_ horderly
    obtain ⟨hend, hblocks, hdb⟩ := (hwaiting.sameStore hsame).caughtUp harrivals
    refine ⟨hend, hblocks, hdb, ?_⟩
    intro pre post v₁ heq hpre
    exact (harrivals.passed hempty heq hpre).passed
  · refine iff_of_false (fun hall => ?_) hno
    exact (hstuck.sameStore hsame).behind harrivals hall.1

end Rounds

/-! ## Inputs -/

/-- The heights 1, 0, 2, and then 3. -/
theorem caughtUp_sample : ∃ v',
    rounds silentClient (([1, 0, 2] ++ [3]).map fun h => sampleConfirmed h []) freshValidator = .ok v' ∧
    v'.fromHeight = 4 ∧ (∀ h, v'.blocks h = none) ∧
    v'.db lastBlockHeightKey = some [0x00, 0x00, 0x00, 0x00] := by
  have horderly : Orderly 0 [1, 0, 2] := by
    have hdue : ∀ {order : List Nat} {m n : Nat}, Due 0 order m → n ∉ order →
        (∀ x < n, x ∈ order) → m = n := by
      intro order m n hm hn hall
      rcases Nat.lt_trichotomy m n with hlt | heq | hgt
      · exact absurd (hall m hlt) hm.2.1
      · exact heq
      · exact absurd (hm.2.2 n (Nat.zero_le n) hgt) hn
    have h₀ : Orderly 0 [] := fun pre k post heq => by simp at heq
    have h₁ : Orderly 0 [1] := orderly_concat.mpr ⟨h₀, fun m hm =>
      .inr (.inl (hdue hm (n := 0) (by simp) (by simp)))⟩
    have h₂ : Orderly 0 [1, 0] := orderly_concat.mpr ⟨h₁, fun m hm =>
      .inl (hdue hm (by simp) (by simp)).symm⟩
    exact orderly_concat.mpr ⟨h₂, fun m hm =>
      .inl (hdue hm (by simp) (fun x hx => by simp; omega)).symm⟩
  obtain ⟨v', hv'⟩ : ∃ v', rounds silentClient
      (([1, 0, 2] ++ [3]).map fun h => sampleConfirmed h []) freshValidator = .ok v' := ⟨_, rfl⟩
  have hfinished : ∀ c ∈ ([1, 0, 2].map fun h => sampleConfirmed h []) ++ [sampleConfirmed 3 []],
      Finished c := by
    intro c hc
    simp only [List.map_cons, List.map_nil, List.cons_append, List.nil_append, List.mem_cons,
      List.not_mem_nil, or_false] at hc
    rcases hc with rfl | rfl | rfl | rfl <;> exact ⟨rfl, rfl⟩
  obtain ⟨hfrom, hblocks, hdb, -⟩ := (caughtUp_iff (H := 2) (fun _ => rfl) hfinished (by decide)
    (by decide) rfl (by decide) hv').mpr horderly
  exact ⟨v', hv', hfrom, hblocks, hdb⟩

/-- **One order leaves the node behind.** The heights 1, 0, 3, 2, and then 4: the validator stays at the
height 1, and the others wait. -/
theorem caughtUp_stuck : [1, 0, 3, 2].Perm (List.range' freshValidator.fromHeight 4) ∧ ∃ v',
    rounds silentClient (([1, 0, 3, 2] ++ [4]).map fun h => sampleConfirmed h []) freshValidator
      = .ok v' ∧ v'.fromHeight = 1 ∧ v'.blocks 4 = some true :=
  ⟨by decide, _, rfl, by decide, by decide⟩

end Wormhole.Guardian.Alephium

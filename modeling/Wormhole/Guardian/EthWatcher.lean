/-
# Wormhole.Guardian.EthWatcher — the pending messages of the Ethereum watcher.

A log that the watcher receives becomes a pending message under the transaction, the block, the emitter
and the sequence it came with.  At every new header the watcher visits the pending messages
(`node/pkg/ethereum/watcher.go`), in the order of Go's map iteration: one is abandoned when it is too old,
waits when it is too young, and otherwise the receipt of its transaction decides.  The lookup of the receipt
yields a receipt, which may be nil, and an error, which may be nil; nothing is assumed about the two.

The status of the receipt is read before the receipt is compared with nil, and the heights are added in 64
bits.  So the machine does what it is meant to at a header exactly when every lookup of that header has a
receipt, whose status is 1 where the error is transient, and no confirmed height wraps around
(`pendingRule_iff`).  That a message leaves the map once for each of its logs holds in any case.
-/
import Mathlib
import Wormhole.Lib.Bytes
import Wormhole.Lib.Go
import Wormhole.Lib.Transition
import Wormhole.Guardian.Vaa

namespace Wormhole.Guardian.Ethereum

open Wormhole.Lib Wormhole.Lib.Bytes Wormhole.Lib.Transition

/-! ## The data -/

abbrev Hash := FixedBytes 32

/-- `PadAddress`: an address, left-padded to 32 bytes. -/
def PadAddress (address : EthAddress) : Address :=
  ⟨List.replicate 12 0x00 ++ address.val, by simp [address.property]⟩

/-- The block and the transaction of a log. -/
structure Raw where
  TxHash : Hash
  BlockHash : Hash
  BlockNumber : UInt64
  deriving DecidableEq

/-- The event `LogMessagePublished`. -/
structure LogMessagePublished where
  Sender : EthAddress
  Sequence : UInt64
  Nonce : UInt32
  Payload : List UInt8
  ConsistencyLevel : UInt8
  Raw : Raw
  deriving DecidableEq

structure PendingKey where
  TxHash : Hash
  BlockHash : Hash
  EmitterAddress : Address
  Sequence : UInt64
  deriving DecidableEq

structure PendingMessage where
  message : MessagePublication
  height : UInt64
  deriving DecidableEq

/-- How a message leaves the map, under the labels the watcher counts it with. -/
inductive Outcome where
  | timeout
  | tx_failed
  | not_found
  | blockhash_mismatch
  | confirmed
  deriving DecidableEq

/-- The fields of `Watcher` that the messages pass through; `decided` is the record it logs. -/
structure Watcher where
  chainID : ChainID
  minConfirmations : UInt64
  pending : AList fun _ : PendingKey => PendingMessage
  msgChan : List MessagePublication
  decided : List (PendingKey × Outcome)

/-- `NewEthWatcher`. -/
def NewEthWatcher (chainID : ChainID) (minConfirmations : UInt64) : Watcher where
  chainID := chainID
  minConfirmations := minConfirmations
  pending := ∅
  msgChan := []
  decided := []

/-- A `types.Receipt`. -/
structure Receipt where
  Status : UInt64
  BlockHash : Hash
  deriving DecidableEq

/-- An error of the RPC client: the value `rpc.ErrNoResult`, or any other, by its text. -/
inductive RpcError where
  | ErrNoResult
  | other (text : String)
  deriving DecidableEq

/-- `err.Error()`. -/
def RpcError.Error : RpcError → String
  | .ErrNoResult => "no result in JSON-RPC response"
  | .other text => text

/-- What `TransactionReceipt` returns. -/
structure Lookup where
  tx : Option Receipt
  err : Option RpcError
  deriving DecidableEq

/-- The pointer is followed. -/
def deref {α : Type} : Option α → Go α
  | some a => .ok a
  | none => .panic "invalid memory address or nil pointer dereference"

@[simp]
theorem deref_some {α : Type} (a : α) : deref (some a) = .ok a := rfl

@[simp]
theorem deref_none {α : Type} :
    deref (none : Option α) = .panic "invalid memory address or nil pointer dereference" := rfl

namespace Watcher

/-! ## Logs -/

/-- The message of a log, whose block has the time stamp `time`. -/
def messageOf (e : Watcher) (ev : LogMessagePublished) (time : UInt64) : MessagePublication where
  txHash := ev.Raw.TxHash
  timestamp := { unix := time.toInt64.toInt
                 nanosecond := 0 }
  nonce := ev.Nonce
  sequence := ev.Sequence
  emitterChain := e.chainID
  emitterAddress := PadAddress ev.Sender
  payload := ev.Payload
  consistencyLevel := ev.ConsistencyLevel

end Watcher

/-- The key of a log. -/
def LogMessagePublished.key (ev : LogMessagePublished) : PendingKey where
  TxHash := ev.Raw.TxHash
  BlockHash := ev.Raw.BlockHash
  EmitterAddress := PadAddress ev.Sender
  Sequence := ev.Sequence

namespace Watcher

/-- A log is received; `block` is the time stamp of its block, if the node serves it.  When it does not,
the watcher starts over with the messages it has. -/
def onLog (e : Watcher) (ev : LogMessagePublished) (block : Option UInt64) : Watcher :=
  match block with
  | none => e
  | some time =>
    { e with pending := e.pending.insert ev.key ⟨e.messageOf ev time, ev.Raw.BlockNumber⟩ }

/-! ## Headers -/

def expectedConfirmations (e : Watcher) (m : PendingMessage) : UInt64 :=
  if m.message.consistencyLevel.toUInt64 < e.minConfirmations then e.minConfirmations
  else m.message.consistencyLevel.toUInt64

/-- The message is deleted. -/
def delete (e : Watcher) (key : PendingKey) (outcome : Outcome) : Watcher :=
  { e with
    pending := e.pending.erase key
    decided := e.decided ++ [(key, outcome)] }

/-- The visit of a message at a header. -/
def visit (e : Watcher) (key : PendingKey) (pLock : PendingMessage) (blockNumberU : UInt64)
    (lookup : Lookup) : Go Watcher :=
  -- the transaction was dropped and never picked up again
  if pLock.height + 4 * e.expectedConfirmations pLock ≤ blockNumberU then .ok (e.delete key .timeout)
  -- the transaction is now ready
  else if pLock.height + e.expectedConfirmations pLock ≤ blockNumberU then do
    let receipt ← deref lookup.tx
    if receipt.Status ≠ 1 then .ok (e.delete key .tx_failed)
    else if lookup.tx = none ∨ lookup.err = some .ErrNoResult ∨
        lookup.err.map RpcError.Error = some "not found" then
      .ok (e.delete key .not_found)
    -- any other error is likely transient
    else if lookup.err ≠ none then .ok e
    else do
      let tx ← deref lookup.tx
      if tx.BlockHash ≠ key.BlockHash then .ok (e.delete key .blockhash_mismatch)
      else
        let e := e.delete key .confirmed
        .ok { e with msgChan := e.msgChan ++ [pLock.message] }
  else .ok e

/-- The visit of a key, which may have gone. -/
def visitKey (e : Watcher) (key : PendingKey) (blockNumberU : UInt64) (lookup : Lookup) : Go Watcher :=
  match e.pending.lookup key with
  | some pLock => e.visit key pLock blockNumberU lookup
  | none => .ok e

/-- A new header; `order` is the order in which the map is visited, and `lookups` has the lookup that is
made for each key. -/
def onHeader (e : Watcher) (blockNumberU : UInt64) (order : List PendingKey)
    (lookups : PendingKey → Lookup) : Go Watcher :=
  order.foldlM (fun e key => e.visitKey key blockNumberU (lookups key)) e

end Watcher

/-- What the watcher meets. -/
inductive Input where
  | log (ev : LogMessagePublished) (block : Option UInt64)
  | header (blockNumberU : UInt64) (order : List PendingKey) (lookups : PendingKey → Lookup)

namespace Watcher

def handle (e : Watcher) : Input → Go Watcher
  | .log ev block => .ok (e.onLog ev block)
  | .header blockNumberU order lookups => e.onHeader blockNumberU order lookups

/-- The watcher goes on; a panic ends the process. -/
def step (e : Watcher) (input : Input) : Option Watcher :=
  match e.handle input with
  | .ok e' => some e'
  | _ => none

end Watcher

/-- The map is iterated over its keys. -/
def Input.Admissible (e : Watcher) : Input → Prop
  | .log _ _ => True
  | .header _ order _ => order.Perm e.pending.keys

/-- The input is a log of the key. -/
def Input.Logs (key : PendingKey) : Input → Prop
  | .log ev _ => ev.key = key
  | .header _ _ _ => False

/-! ## The verdict on a message -/

/-- What a visit does. -/
inductive Verdict where
  | wait
  | leave (outcome : Outcome)
  /-- a nil receipt is dereferenced -/
  | crash
  deriving DecidableEq

/-- The receipt is looked up: the message is old enough, and not too old. -/
def Watcher.LooksUp (e : Watcher) (m : PendingMessage) (blockNumberU : UInt64) : Prop :=
  ¬m.height + 4 * e.expectedConfirmations m ≤ blockNumberU ∧
    m.height + e.expectedConfirmations m ≤ blockNumberU

instance (e : Watcher) (m : PendingMessage) (blockNumberU : UInt64) :
    Decidable (e.LooksUp m blockNumberU) := inferInstanceAs (Decidable (_ ∧ _))

/-- The error says that there is no such transaction. -/
def Lookup.NotFound (l : Lookup) : Prop :=
  l.err = some .ErrNoResult ∨ l.err.map RpcError.Error = some "not found"

instance (l : Lookup) : Decidable l.NotFound := inferInstanceAs (Decidable (_ ∨ _))

/-- The lookup failed with any other error. -/
def Lookup.Transient (l : Lookup) : Prop := l.err ≠ none ∧ ¬l.NotFound

/-- The receipt has status 1 and the block of the key. -/
def Lookup.Confirms (l : Lookup) (key : PendingKey) : Prop :=
  ∃ tx, l.tx = some tx ∧ tx.Status = 1 ∧ tx.BlockHash = key.BlockHash

/-- The verdict of a lookup. -/
def Lookup.verdict (l : Lookup) (key : PendingKey) : Verdict :=
  match l.tx with
  | none => .crash
  | some tx =>
    if tx.Status ≠ 1 then .leave .tx_failed
    else if l.NotFound then .leave .not_found
    else if l.err ≠ none then .wait
    else if tx.BlockHash ≠ key.BlockHash then .leave .blockhash_mismatch
    else .leave .confirmed

namespace Watcher

variable {e e' : Watcher} {key : PendingKey} {m : PendingMessage} {blockNumberU : UInt64} {l : Lookup}
  {order : List PendingKey} {lookups : PendingKey → Lookup}

/-- The verdict of a visit. -/
def verdict (e : Watcher) (key : PendingKey) (m : PendingMessage) (blockNumberU : UInt64) (l : Lookup) :
    Verdict :=
  if m.height + 4 * e.expectedConfirmations m ≤ blockNumberU then .leave .timeout
  else if m.height + e.expectedConfirmations m ≤ blockNumberU then l.verdict key
  else .wait

/-- The verdict is executed. -/
def execute (e : Watcher) (key : PendingKey) (m : PendingMessage) : Verdict → Go Watcher
  | .wait => .ok e
  | .leave outcome =>
    .ok { e.delete key outcome with
      msgChan := e.msgChan ++ if outcome = .confirmed then [m.message] else [] }
  | .crash => deref none

theorem execute_leave {outcome : Outcome} (h : outcome ≠ .confirmed) :
    e.execute key m (.leave outcome) = .ok (e.delete key outcome) := by
  rw [execute, if_neg h, List.append_nil]
  rfl

/-- **A visit executes the verdict.** -/
theorem visit_eq : e.visit key m blockNumberU l = e.execute key m (e.verdict key m blockNumberU l) := by
  unfold visit verdict
  by_cases hold : m.height + 4 * e.expectedConfirmations m ≤ blockNumberU
  · rw [if_pos hold, if_pos hold]
    exact (execute_leave (by decide)).symm
  rw [if_neg hold, if_neg hold]
  by_cases hready : m.height + e.expectedConfirmations m ≤ blockNumberU
  swap
  · rw [if_neg hready, if_neg hready]
    rfl
  rw [if_pos hready, if_pos hready, Lookup.verdict]
  cases htx : l.tx with
  | none => rfl
  | some tx =>
    rw [deref_some, Go.ok_bind, Go.ok_bind]
    dsimp only
    by_cases hstatus : tx.Status ≠ 1
    · rw [if_pos hstatus, if_pos hstatus]
      exact (execute_leave (by decide)).symm
    rw [if_neg hstatus, if_neg hstatus]
    by_cases hfound : l.NotFound
    · rw [if_pos (.inr hfound), if_pos hfound]
      exact (execute_leave (by decide)).symm
    have hsome : ¬((some tx : Option Receipt) = none ∨ l.NotFound) := by
      rintro (hnone | hnotFound)
      · cases hnone
      · exact hfound hnotFound
    rw [if_neg hfound]
    refine (if_neg hsome).trans ?_
    by_cases herr : l.err ≠ none
    · rw [if_pos herr, if_pos herr]
      rfl
    rw [if_neg herr, if_neg herr]
    by_cases hblock : tx.BlockHash ≠ key.BlockHash
    · rw [if_pos hblock, if_pos hblock]
      exact (execute_leave (by decide)).symm
    · rw [if_neg hblock, if_neg hblock]
      rfl

/-! ## A header -/

/-- How the visit of a key ends for its message, when it leaves. -/
def outcomeOf (e : Watcher) (blockNumberU : UInt64) (l : Lookup) (key : PendingKey) : Option Outcome :=
  match e.pending.lookup key with
  | none => none
  | some m =>
    match e.verdict key m blockNumberU l with
    | .leave outcome => some outcome
    | _ => none

/-- The departures of a header, in the order of the visit. -/
def departures (e : Watcher) (blockNumberU : UInt64) (lookups : PendingKey → Lookup)
    (order : List PendingKey) : List (PendingKey × Outcome) :=
  order.filterMap fun key => (e.outcomeOf blockNumberU (lookups key) key).map fun o => (key, o)

/-- The messages of the confirmed departures. -/
def confirmedOf (e : Watcher) (left : List (PendingKey × Outcome)) : List MessagePublication :=
  left.filterMap fun d =>
    if d.2 = .confirmed then (e.pending.lookup d.1).map PendingMessage.message else none

/-- What the visits of `order` do. -/
structure Visited (e e' : Watcher) (blockNumberU : UInt64) (lookups : PendingKey → Lookup)
    (order : List PendingKey) : Prop where
  minConfirmations : e'.minConfirmations = e.minConfirmations
  decided : e'.decided = e.decided ++ e.departures blockNumberU lookups order
  msgChan : e'.msgChan = e.msgChan ++ e.confirmedOf (e.departures blockNumberU lookups order)
  visited : ∀ key ∈ order, e'.pending.lookup key =
    if (e.outcomeOf blockNumberU (lookups key) key).isSome then none else e.pending.lookup key
  others : ∀ key, key ∉ order → e'.pending.lookup key = e.pending.lookup key

theorem expectedConfirmations_congr {q : Watcher} (h : q.minConfirmations = e.minConfirmations) :
    q.expectedConfirmations m = e.expectedConfirmations m := by
  unfold expectedConfirmations
  rw [h]

theorem verdict_congr {q : Watcher} (h : q.minConfirmations = e.minConfirmations) :
    q.verdict key m blockNumberU l = e.verdict key m blockNumberU l := by
  unfold verdict
  rw [expectedConfirmations_congr h]

theorem outcomeOf_congr {q : Watcher} (h : q.minConfirmations = e.minConfirmations)
    (hkey : q.pending.lookup key = e.pending.lookup key) :
    q.outcomeOf blockNumberU l key = e.outcomeOf blockNumberU l key := by
  unfold outcomeOf
  rw [hkey]
  simp only [verdict_congr h]

theorem outcomeOf_of_lookup (h : e.pending.lookup key = some m) :
    e.outcomeOf blockNumberU l key =
      match e.verdict key m blockNumberU l with
      | .leave outcome => some outcome
      | _ => none := by
  rw [outcomeOf, h]

theorem outcomeOf_of_none (h : e.pending.lookup key = none) : e.outcomeOf blockNumberU l key = none := by
  rw [outcomeOf, h]

theorem departures_cons (first : PendingKey) (order : List PendingKey) :
    e.departures blockNumberU lookups (first :: order) =
      e.departures blockNumberU lookups [first] ++ e.departures blockNumberU lookups order := by
  unfold departures
  rw [← List.filterMap_append, List.singleton_append]

theorem confirmedOf_append (left left' : List (PendingKey × Outcome)) :
    e.confirmedOf (left ++ left') = e.confirmedOf left ++ e.confirmedOf left' :=
  List.filterMap_append

theorem mem_departures {d : PendingKey × Outcome} :
    d ∈ e.departures blockNumberU lookups order ↔
      d.1 ∈ order ∧ e.outcomeOf blockNumberU (lookups d.1) d.1 = some d.2 := by
  unfold departures
  rw [List.mem_filterMap]
  constructor
  · rintro ⟨key, hkey, h⟩
    obtain ⟨outcome, houtcome, rfl⟩ := Option.map_eq_some_iff.mp h
    exact ⟨hkey, houtcome⟩
  · rintro ⟨hmem, houtcome⟩
    refine ⟨d.1, hmem, ?_⟩
    rw [houtcome]
    rfl

/-- The departures of a header are of distinct keys. -/
theorem departures_keys_nodup (h : order.Nodup) :
    ((e.departures blockNumberU lookups order).map Prod.fst).Nodup := by
  unfold departures
  rw [List.map_filterMap]
  apply h.filterMap
  intro key key' k hk hk'
  simp only [Option.map_map, Option.mem_def, Option.map_eq_some_iff, Function.comp_apply] at hk hk'
  obtain ⟨_, -, rfl⟩ := hk
  obtain ⟨_, -, rfl⟩ := hk'
  rfl

/-- Nothing happens to a key that stays. -/
theorem Visited.stay (h : e.outcomeOf blockNumberU (lookups key) key = none) :
    Visited e e blockNumberU lookups [key] := by
  have hnil : e.departures blockNumberU lookups [key] = [] := by simp [departures, h]
  refine ⟨rfl, ?_, ?_, ?_, fun _ _ => rfl⟩
  · rw [hnil, List.append_nil]
  · rw [hnil]
    exact (List.append_nil _).symm
  · intro key' hkey'
    obtain rfl := List.mem_singleton.mp hkey'
    rw [h]
    rfl

/-- **The visit of one key.** -/
theorem visitKey_eq_ok (h : e.visitKey key blockNumberU (lookups key) = .ok e') :
    Visited e e' blockNumberU lookups [key] := by
  unfold visitKey at h
  cases hm : e.pending.lookup key with
  | none =>
    rw [hm] at h
    rw [← Go.ok.inj h]
    exact .stay (outcomeOf_of_none hm)
  | some m =>
    rw [hm] at h
    replace h : e.visit key m blockNumberU (lookups key) = .ok e' := h
    rw [visit_eq] at h
    have hout : e.outcomeOf blockNumberU (lookups key) key =
        match e.verdict key m blockNumberU (lookups key) with
        | .leave outcome => some outcome
        | _ => none := outcomeOf_of_lookup hm
    cases hverdict : e.verdict key m blockNumberU (lookups key) with
    | wait =>
      rw [hverdict] at h hout
      rw [← Go.ok.inj h]
      exact .stay hout
    | crash =>
      rw [hverdict] at h
      cases h
    | leave outcome =>
      rw [hverdict] at h hout
      replace hout : e.outcomeOf blockNumberU (lookups key) key = some outcome := hout
      have hone : e.departures blockNumberU lookups [key] = [(key, outcome)] := by simp [departures, hout]
      rw [← Go.ok.inj h]
      refine ⟨rfl, ?_, ?_, ?_, ?_⟩
      · rw [hone]
        rfl
      · rw [hone]
        simp only [confirmedOf, List.filterMap_cons, List.filterMap_nil, hm, Option.map_some]
        by_cases hconfirmed : outcome = .confirmed
        · rw [if_pos hconfirmed, if_pos hconfirmed]
        · rw [if_neg hconfirmed, if_neg hconfirmed]
      · intro key' hkey'
        obtain rfl := List.mem_singleton.mp hkey'
        rw [hout]
        exact AList.lookup_erase _ _
      · intro key' hkey'
        rw [List.mem_singleton] at hkey'
        exact AList.lookup_erase_ne hkey'

/-- A visit before others: it does not touch what their verdicts depend on. -/
theorem Visited.cons {q : Watcher} {first : PendingKey} (hfirst : Visited e q blockNumberU lookups [first])
    (hrest : Visited q e' blockNumberU lookups order) (hout : first ∉ order) :
    Visited e e' blockNumberU lookups (first :: order) := by
  have hother : ∀ key ∈ order, q.pending.lookup key = e.pending.lookup key := by
    intro key hkey
    apply hfirst.others
    rw [List.mem_singleton]
    rintro rfl
    exact hout hkey
  have hsame : q.departures blockNumberU lookups order = e.departures blockNumberU lookups order := by
    unfold departures
    apply List.filterMap_congr
    intro key hkey
    rw [outcomeOf_congr hfirst.minConfirmations (hother key hkey)]
  have hmessages : q.confirmedOf (e.departures blockNumberU lookups order) =
      e.confirmedOf (e.departures blockNumberU lookups order) := by
    unfold confirmedOf
    apply List.filterMap_congr
    intro d hd
    rw [hother d.1 (mem_departures.mp hd).1]
  refine ⟨hrest.minConfirmations.trans hfirst.minConfirmations, ?_, ?_, ?_, ?_⟩
  · rw [hrest.decided, hfirst.decided, hsame, departures_cons first order, List.append_assoc]
  · rw [hrest.msgChan, hfirst.msgChan, hsame, hmessages, departures_cons first order, confirmedOf_append,
      List.append_assoc]
  · intro key hkey
    rcases List.mem_cons.mp hkey with rfl | hkey
    · rw [hrest.others _ hout]
      exact hfirst.visited _ (List.mem_singleton_self _)
    · rw [hrest.visited key hkey, hother key hkey,
        outcomeOf_congr hfirst.minConfirmations (hother key hkey)]
  · intro key hkey
    rw [List.mem_cons, not_or] at hkey
    rw [hrest.others key hkey.2]
    apply hfirst.others
    rw [List.mem_singleton]
    exact hkey.1

/-- **A header**, by induction on the order of the visit. -/
theorem onHeader_eq_ok (hnodup : order.Nodup) (h : e.onHeader blockNumberU order lookups = .ok e') :
    Visited e e' blockNumberU lookups order := by
  induction order generalizing e with
  | nil =>
    rw [← Go.ok.inj h]
    exact ⟨rfl, (List.append_nil _).symm, (List.append_nil _).symm, nofun, fun _ _ => rfl⟩
  | cons first order ih =>
    obtain ⟨hfirst, hnodup⟩ := List.nodup_cons.mp hnodup
    unfold onHeader at h
    rw [List.foldlM_cons] at h
    obtain ⟨q, hvisit, hrest⟩ := Go.bind_eq_ok.mp h
    exact (visitKey_eq_ok hvisit).cons (ih hnodup hrest) hfirst

/-- The visit of a key returns unless its verdict is a crash. -/
theorem visitKey_isOk_iff :
    (e.visitKey key blockNumberU l).IsOk ↔
      ∀ m, e.pending.lookup key = some m → e.verdict key m blockNumberU l ≠ .crash := by
  unfold visitKey
  cases hm : e.pending.lookup key with
  | none => simp
  | some m =>
    show (e.visit key m blockNumberU l).IsOk ↔ _
    rw [visit_eq]
    cases hverdict : e.verdict key m blockNumberU l <;> simp [execute, hverdict]

/-- A header is processed to its end exactly when no visit crashes. -/
theorem onHeader_isOk_iff (hnodup : order.Nodup) :
    (e.onHeader blockNumberU order lookups).IsOk ↔
      ∀ key ∈ order, ∀ m, e.pending.lookup key = some m →
        e.verdict key m blockNumberU (lookups key) ≠ .crash := by
  induction order generalizing e with
  | nil => exact ⟨fun _ => nofun, fun _ => ⟨e, rfl⟩⟩
  | cons first order ih =>
    obtain ⟨hfirst, hnodup⟩ := List.nodup_cons.mp hnodup
    unfold onHeader
    rw [List.foldlM_cons, Go.isOk_bind, List.forall_mem_cons]
    -- what the first visit leaves of the others
    have hrest : ∀ q, e.visitKey first blockNumberU (lookups first) = .ok q →
        ((q.onHeader blockNumberU order lookups).IsOk ↔
          ∀ key ∈ order, ∀ m, e.pending.lookup key = some m →
            e.verdict key m blockNumberU (lookups key) ≠ .crash) := by
      intro q hq
      have hvisited : Visited e q blockNumberU lookups [first] := visitKey_eq_ok hq
      rw [ih hnodup]
      apply forall₂_congr
      intro key hkey
      rw [hvisited.others key (by rw [List.mem_singleton]; rintro rfl; exact hfirst hkey)]
      simp only [verdict_congr hvisited.minConfirmations]
    constructor
    · rintro ⟨q, hq, hok⟩
      exact ⟨visitKey_isOk_iff.mp ⟨q, hq⟩, (hrest q hq).mp hok⟩
    · rintro ⟨hok, hothers⟩
      obtain ⟨q, hq⟩ := visitKey_isOk_iff.mpr hok
      exact ⟨q, hq, (hrest q hq).mpr hothers⟩

/-! ## The rule -/

/-- What is asked of a header that is processed to `e'`, where the messages of `left` have left. -/
structure HeaderRule (e e' : Watcher) (blockNumberU : UInt64) (lookups : PendingKey → Lookup)
    (left : List (PendingKey × Outcome)) : Prop where
  decided : e'.decided = e.decided ++ left
  once : (left.map Prod.fst).Nodup
  pending : ∀ key, e'.pending.lookup key =
    if key ∈ left.map Prod.fst then none else e.pending.lookup key
  msgChan : e'.msgChan = e.msgChan ++ e.confirmedOf left
  confirmed : ∀ key, (key, .confirmed) ∈ left → ∃ m, e.pending.lookup key = some m ∧
    (lookups key).Confirms key ∧ m.height.toNat + (e.expectedConfirmations m).toNat ≤ blockNumberU.toNat
  transient : ∀ key m, e.pending.lookup key = some m → e.LooksUp m blockNumberU →
    (lookups key).Transient → e'.pending.lookup key = some m

/-- What is asked of a step: a header is processed to its end, by the rule. -/
def HandledByRule (e : Watcher) : Input → Prop
  | .log _ _ => True
  | .header blockNumberU order lookups => ∃ e' left,
      e.onHeader blockNumberU order lookups = .ok e' ∧ e.HeaderRule e' blockNumberU lookups left

/-- How often a message of the key has left the map. -/
def timesLeft (e : Watcher) (key : PendingKey) : Nat := (e.decided.map Prod.fst).count key

/-- What is asked of a run: every step follows the rule, and where no log of a key comes in, a message of
that key leaves at most once. -/
structure PendingRule (e : Watcher) (inputs : List Input) : Prop where
  steps : Along step HandledByRule e inputs
  once : ∀ pre mid post, inputs = pre ++ (mid ++ post) → ∀ key, (∀ input ∈ mid, ¬input.Logs key) →
    ∀ s t, pre.foldlM step e = some s → mid.foldlM step s = some t →
      t.timesLeft key ≤ s.timesLeft key + 1

/-! ## The condition -/

/-- The lookup of a message has a receipt, with status 1 when the error is transient, and the height of a
confirmed message does not wrap around. -/
def Usable (e : Watcher) (key : PendingKey) (m : PendingMessage) (l : Lookup) : Prop :=
  ∃ tx, l.tx = some tx ∧ (l.Transient → tx.Status = 1) ∧
    (l.err = none → l.Confirms key → m.height.toNat + (e.expectedConfirmations m).toNat < 2 ^ 64)

/-- Every lookup of the step is usable. -/
def LookupsUsable (e : Watcher) : Input → Prop
  | .log _ _ => True
  | .header blockNumberU _ lookups => ∀ key m, e.pending.lookup key = some m → e.LooksUp m blockNumberU →
      e.Usable key m (lookups key)

theorem verdict_of_looksUp (h : e.LooksUp m blockNumberU) :
    e.verdict key m blockNumberU l = l.verdict key := by
  rw [verdict, if_neg h.1, if_pos h.2]

theorem looksUp_of_verdict (h : e.verdict key m blockNumberU l = .crash ∨
    e.verdict key m blockNumberU l = .leave .confirmed) : e.LooksUp m blockNumberU := by
  unfold verdict at h
  by_cases hold : m.height + 4 * e.expectedConfirmations m ≤ blockNumberU
  · rw [if_pos hold] at h
    rcases h with h | h <;> cases h
  · rw [if_neg hold] at h
    by_cases hready : m.height + e.expectedConfirmations m ≤ blockNumberU
    · exact ⟨hold, hready⟩
    · rw [if_neg hready] at h
      rcases h with h | h <;> cases h

end Watcher

namespace Lookup

variable {l : Lookup} {key : PendingKey}

theorem not_notFound_of_err (h : l.err = none) : ¬l.NotFound := by
  rintro (herr | herr)
  · rw [h] at herr
    cases herr
  · rw [h] at herr
    cases herr

theorem verdict_eq_crash : l.verdict key = .crash ↔ l.tx = none := by
  unfold verdict
  cases htx : l.tx with
  | none => simp
  | some tx =>
    simp only [reduceCtorEq, iff_false]
    split_ifs <;> simp

theorem verdict_eq_confirmed : l.verdict key = .leave .confirmed ↔ l.err = none ∧ l.Confirms key := by
  unfold verdict Confirms
  cases htx : l.tx with
  | none => simp
  | some tx =>
    dsimp only
    by_cases hstatus : tx.Status = 1
    swap
    · rw [if_pos hstatus]
      simp [hstatus]
    rw [if_neg (not_not.mpr hstatus)]
    by_cases herr : l.err = none
    swap
    · by_cases hfound : l.NotFound
      · rw [if_pos hfound]
        simp [herr]
      · rw [if_neg hfound, if_pos herr]
        simp [herr]
    rw [if_neg (not_notFound_of_err herr), if_neg (not_not.mpr herr)]
    by_cases hblock : tx.BlockHash = key.BlockHash <;> simp [hstatus, herr, hblock]

/-- A transient failure leaves the message where it is if the receipt that came with it has status 1. -/
theorem verdict_of_transient (h : l.Transient) {tx : Receipt} (htx : l.tx = some tx) :
    l.verdict key = if tx.Status = 1 then .wait else .leave .tx_failed := by
  unfold verdict
  rw [htx]
  dsimp only
  by_cases hstatus : tx.Status = 1
  · rw [if_neg (not_not.mpr hstatus), if_neg h.2, if_pos h.1, if_pos hstatus]
  · rw [if_pos hstatus, if_neg hstatus]

end Lookup

namespace Watcher

variable {e e' : Watcher} {key : PendingKey} {m : PendingMessage} {blockNumberU : UInt64} {l : Lookup}
  {order : List PendingKey} {lookups : PendingKey → Lookup} {left : List (PendingKey × Outcome)}

/-- The sum that is compared with the head is the sum of the heights, unless it wraps around. -/
theorem confirmed_le_iff (h : m.height + e.expectedConfirmations m ≤ blockNumberU) :
    m.height.toNat + (e.expectedConfirmations m).toNat ≤ blockNumberU.toNat ↔
      m.height.toNat + (e.expectedConfirmations m).toNat < 2 ^ 64 := by
  have hle : (m.height.toNat + (e.expectedConfirmations m).toNat) % 2 ^ 64 ≤ blockNumberU.toNat := by
    rw [← UInt64.toNat_add]
    exact UInt64.le_iff_toNat_le.mp h
  have hlt : blockNumberU.toNat < 2 ^ 64 := blockNumberU.toNat_lt
  constructor
  · intro hnat
    omega
  · intro hfits
    rwa [Nat.mod_eq_of_lt hfits] at hle

theorem outcomeOf_eq_some {outcome : Outcome} :
    e.outcomeOf blockNumberU l key = some outcome ↔
      ∃ m, e.pending.lookup key = some m ∧ e.verdict key m blockNumberU l = .leave outcome := by
  unfold outcomeOf
  cases hm : e.pending.lookup key with
  | none => simp
  | some m =>
    dsimp only
    cases hverdict : e.verdict key m blockNumberU l <;> simp [hverdict]

theorem mem_left_iff (hall : order.Perm e.pending.keys) :
    key ∈ (e.departures blockNumberU lookups order).map Prod.fst ↔
      (e.outcomeOf blockNumberU (lookups key) key).isSome := by
  rw [List.mem_map, Option.isSome_iff_exists]
  constructor
  · rintro ⟨d, hd, rfl⟩
    exact ⟨d.2, (mem_departures.mp hd).2⟩
  · rintro ⟨outcome, houtcome⟩
    obtain ⟨m, hm, -⟩ := outcomeOf_eq_some.mp houtcome
    have hkey : key ∈ e.pending := AList.lookup_isSome.mp (Option.isSome_iff_exists.mpr ⟨m, hm⟩)
    refine ⟨(key, outcome), mem_departures.mpr ⟨?_, houtcome⟩, rfl⟩
    exact hall.mem_iff.mpr (AList.mem_keys.mp hkey)

/-- What is pending after a header. -/
theorem Visited.pending (h : Visited e e' blockNumberU lookups order) (hall : order.Perm e.pending.keys) :
    e'.pending.lookup key =
      if key ∈ (e.departures blockNumberU lookups order).map Prod.fst then none
      else e.pending.lookup key := by
  by_cases hkey : key ∈ order
  · rw [h.visited key hkey]
    exact if_congr (mem_left_iff hall).symm rfl rfl
  · rw [h.others key hkey]
    split
    · rename_i hleft
      obtain ⟨d, hd, rfl⟩ := List.mem_map.mp hleft
      exact absurd (mem_departures.mp hd).1 hkey
    · rfl

/-! ## At most once -/

/-- The departures of a key, with the message of the key that is still to depart. -/
def departing (e : Watcher) (key : PendingKey) : Nat :=
  e.timesLeft key + if (e.pending.lookup key).isSome then 1 else 0

theorem step_header {e e' : Watcher} (h : e.step (.header blockNumberU order lookups) = some e') :
    e.onHeader blockNumberU order lookups = .ok e' := by
  unfold step handle at h
  dsimp only at h
  split at h
  · rename_i q hq
    rw [hq, Option.some.inj h]
  · cases h

/-- No step but a log of the key adds to the departures of the key. -/
theorem departing_step {input : Input} (hadm : input.Admissible e) (hlog : ¬input.Logs key)
    (h : e.step input = some e') : e'.departing key = e.departing key := by
  cases input with
  | log ev block =>
    replace h : some (e.onLog ev block) = some e' := h
    rw [← Option.some.inj h]
    cases block with
    | none => rfl
    | some time =>
      have hsame : (e.onLog ev (some time)).pending.lookup key = e.pending.lookup key :=
        AList.lookup_insert_ne fun heq => hlog heq.symm
      rw [departing, hsame]
      rfl
  | header blockNumberU order lookups =>
    have hnodup : order.Nodup := hadm.nodup_iff.mpr e.pending.keys_nodup
    have hvisited : Visited e e' blockNumberU lookups order := onHeader_eq_ok hnodup (step_header h)
    have hpending : e'.pending.lookup key =
        if key ∈ (e.departures blockNumberU lookups order).map Prod.fst then none
        else e.pending.lookup key := hvisited.pending hadm
    unfold departing timesLeft
    rw [hvisited.decided, List.map_append, List.count_append, hpending]
    by_cases hleft : key ∈ (e.departures blockNumberU lookups order).map Prod.fst
    · obtain ⟨outcome, houtcome⟩ := Option.isSome_iff_exists.mp ((mem_left_iff hadm).mp hleft)
      obtain ⟨m, hm, -⟩ := outcomeOf_eq_some.mp houtcome
      rw [List.count_eq_one_of_mem (departures_keys_nodup hnodup) hleft, if_pos hleft, hm]
      rfl
    · rw [List.count_eq_zero_of_not_mem hleft, if_neg hleft]
      rfl

/-- **At most once**, over any run without a log of the key. -/
theorem timesLeft_le
    (h : Run step (fun e input => input.Admissible e ∧ ¬input.Logs key) e e') :
    e'.timesLeft key ≤ e.timesLeft key + 1 := by
  have hdeparting : e'.departing key = e.departing key := by
    refine h.invariant (I := fun s => s.departing key = e.departing key) ?_ rfl
    intro s input t hs hok hstep
    exact (departing_step hok.1 hok.2 hstep).trans hs
  have hle : e.departing key ≤ e.timesLeft key + 1 := by
    unfold departing
    split <;> omega
  calc e'.timesLeft key ≤ e'.departing key := Nat.le_add_right _ _
    _ = e.departing key := hdeparting
    _ ≤ e.timesLeft key + 1 := hle

/-! ## The result -/

/-- A header whose lookups are usable is processed by the rule. -/
theorem handledByRule_of_usable (hadm : order.Perm e.pending.keys)
    (h : e.LookupsUsable (.header blockNumberU order lookups)) :
    e.HandledByRule (.header blockNumberU order lookups) := by
  have hnodup : order.Nodup := hadm.nodup_iff.mpr e.pending.keys_nodup
  have hok : (e.onHeader blockNumberU order lookups).IsOk := by
    rw [onHeader_isOk_iff hnodup]
    intro key _ m hm hcrash
    have hlooks := looksUp_of_verdict (.inl hcrash)
    obtain ⟨tx, htx, -, -⟩ := h key m hm hlooks
    rw [verdict_of_looksUp hlooks, Lookup.verdict_eq_crash, htx] at hcrash
    cases hcrash
  obtain ⟨e', he'⟩ := hok
  have hvisited : Visited e e' blockNumberU lookups order := onHeader_eq_ok hnodup he'
  refine ⟨e', e.departures blockNumberU lookups order, he', hvisited.decided, departures_keys_nodup hnodup,
    fun _ => hvisited.pending hadm, hvisited.msgChan, ?_, ?_⟩
  · intro key hkey
    obtain ⟨m, hm, hverdict⟩ := outcomeOf_eq_some.mp (mem_departures.mp hkey).2
    have hlooks := looksUp_of_verdict (.inr hverdict)
    obtain ⟨tx, -, -, hfits⟩ := h key m hm hlooks
    rw [verdict_of_looksUp hlooks, Lookup.verdict_eq_confirmed] at hverdict
    exact ⟨m, hm, hverdict.2, (confirmed_le_iff hlooks.2).mpr (hfits hverdict.1 hverdict.2)⟩
  · intro key m hm hlooks htransient
    obtain ⟨tx, htx, hstatus, -⟩ := h key m hm hlooks
    rw [hvisited.pending hadm, if_neg, hm]
    rw [mem_left_iff hadm, Option.isSome_iff_exists]
    rintro ⟨outcome, houtcome⟩
    obtain ⟨m', hm', hverdict⟩ := outcomeOf_eq_some.mp houtcome
    obtain rfl : m = m' := Option.some.inj (hm.symm.trans hm')
    rw [verdict_of_looksUp hlooks, Lookup.verdict_of_transient htransient htx,
      if_pos (hstatus htransient)] at hverdict
    cases hverdict

/-- A header that is processed by the rule has usable lookups. -/
theorem usable_of_handledByRule (hadm : order.Perm e.pending.keys)
    (h : e.HandledByRule (.header blockNumberU order lookups)) :
    e.LookupsUsable (.header blockNumberU order lookups) := by
  have hnodup : order.Nodup := hadm.nodup_iff.mpr e.pending.keys_nodup
  obtain ⟨e', left, he', hrule⟩ := h
  have hvisited : Visited e e' blockNumberU lookups order := onHeader_eq_ok hnodup he'
  have hleft : left = e.departures blockNumberU lookups order :=
    List.append_cancel_left (hrule.decided.symm.trans hvisited.decided)
  intro key m hm hlooks
  have hmem : key ∈ order :=
    hadm.mem_iff.mpr (AList.mem_keys.mp (AList.lookup_isSome.mp (Option.isSome_iff_exists.mpr ⟨m, hm⟩)))
  cases htx : (lookups key).tx with
  | none =>
    have hcrash := (onHeader_isOk_iff hnodup).mp ⟨e', he'⟩ key hmem m hm
    rw [verdict_of_looksUp hlooks] at hcrash
    exact absurd (Lookup.verdict_eq_crash.mpr htx) hcrash
  | some tx =>
    refine ⟨tx, htx, ?_, ?_⟩
    · intro htransient
      by_contra hstatus
      have hstays : e'.pending.lookup key = some m := hrule.transient key m hm hlooks htransient
      have hgone : e.outcomeOf blockNumberU (lookups key) key = some .tx_failed := by
        refine outcomeOf_eq_some.mpr ⟨m, hm, ?_⟩
        rw [verdict_of_looksUp hlooks, Lookup.verdict_of_transient htransient htx, if_neg hstatus]
      rw [hvisited.visited key hmem, hgone] at hstays
      cases hstays
    · intro herr hconfirms
      have hout : e.outcomeOf blockNumberU (lookups key) key = some .confirmed := by
        refine outcomeOf_eq_some.mpr ⟨m, hm, ?_⟩
        rw [verdict_of_looksUp hlooks]
        exact Lookup.verdict_eq_confirmed.mpr ⟨herr, hconfirms⟩
      have hmemLeft : (key, Outcome.confirmed) ∈ left := by
        rw [hleft]
        exact mem_departures.mpr ⟨hmem, hout⟩
      obtain ⟨m', hm', -, hle⟩ := hrule.confirmed key hmemLeft
      obtain rfl : m = m' := Option.some.inj (hm.symm.trans hm')
      exact (confirmed_le_iff hlooks.2).mp hle

theorem handledByRule_iff {input : Input} (hadm : input.Admissible e) :
    e.HandledByRule input ↔ e.LookupsUsable input := by
  cases input with
  | log ev block => exact Iff.rfl
  | header blockNumberU order lookups =>
    exact ⟨usable_of_handledByRule hadm, handledByRule_of_usable hadm⟩

/-- **The pending messages.** A run follows the rule exactly when the lookups of every header are
usable. -/
theorem pendingRule_iff (e : Watcher) (inputs : List Input)
    (hadm : Along step (fun e input => input.Admissible e) e inputs) :
    e.PendingRule inputs ↔ Along step LookupsUsable e inputs := by
  have hsteps : Along step HandledByRule e inputs ↔ Along step LookupsUsable e inputs :=
    along_congr (fun e input h => handledByRule_iff h) hadm
  constructor
  · intro hrule
    exact hsteps.mp hrule.steps
  · intro husable
    refine ⟨hsteps.mpr husable, ?_⟩
    intro pre mid post hinputs key hlogs s t hs ht
    rw [hinputs] at hadm
    exact timesLeft_le ((hadm.of_append hs).run hlogs ht)

end Watcher

/-! ## A transaction that is gone -/

def sampleLog : LogMessagePublished where
  Sender := ⟨List.replicate 20 0x11, rfl⟩
  Sequence := 1
  Nonce := 0
  Payload := [0x01]
  ConsistencyLevel := 1
  Raw := { TxHash := ⟨List.replicate 32 0x22, rfl⟩
           BlockHash := ⟨List.replicate 32 0x33, rfl⟩
           BlockNumber := 10 }

/-- What the client of go-ethereum returns for a transaction that the node does not know. -/
def notFound : Lookup where
  tx := none
  err := some (.other "not found")

/-- A log, a confirmation, and a lookup with the given result. -/
def sampleInputs (l : Lookup) : List Input :=
  [.log sampleLog (some 1000), .header 11 [sampleLog.key] fun _ => l]

def sampleReceipt : Lookup where
  tx := some { Status := 1
               BlockHash := sampleLog.Raw.BlockHash }
  err := none

/-- A run in which the transaction is found. -/
theorem confirmed_run : (NewEthWatcher 2 0).PendingRule (sampleInputs sampleReceipt) := by
  have hadm : Along Watcher.step (fun e input => input.Admissible e) (NewEthWatcher 2 0)
      (sampleInputs sampleReceipt) := by
    refine ⟨trivial, fun e he => ⟨?_, fun _ _ => trivial⟩⟩
    rw [← Option.some.inj he]
    exact List.Perm.refl _
  refine (Watcher.pendingRule_iff _ _ hadm).mpr ⟨trivial, fun e he => ⟨?_, fun _ _ => trivial⟩⟩
  intro key m hm hlooks
  refine ⟨_, rfl, fun htransient => absurd rfl htransient.1, ?_⟩
  intro _ _
  have hpending : ((NewEthWatcher 2 0).onLog sampleLog (some 1000)).pending.lookup key = some m := by
    rw [Option.some.inj he]
    exact hm
  obtain rfl : key = sampleLog.key := by
    by_contra hne
    have hother : ((NewEthWatcher 2 0).onLog sampleLog (some 1000)).pending.lookup key = none :=
      AList.lookup_insert_ne hne
    rw [hother] at hpending
    cases hpending
  have hm' : m = ⟨(NewEthWatcher 2 0).messageOf sampleLog 1000, 10⟩ :=
    Option.some.inj (hpending.symm.trans (AList.lookup_insert _))
  rw [hm', ← Option.some.inj he]
  decide

/-- The transaction was orphaned before it was confirmed: the process dies. -/
theorem orphaned_crashes : ¬(NewEthWatcher 2 0).PendingRule (sampleInputs notFound) := by
  intro h
  obtain ⟨e', left, he', -⟩ := (h.steps.2 _ rfl).1
  have hpanic : ((NewEthWatcher 2 0).onLog sampleLog (some 1000)).onHeader 11 [sampleLog.key]
      (fun _ => notFound) = .panic "invalid memory address or nil pointer dereference" := rfl
  rw [hpanic] at he'
  cases he'

end Wormhole.Guardian.Ethereum

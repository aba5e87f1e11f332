/-
# Wormhole.Guardian.Heartbeats — the table of heartbeats.

For each guardian the node keeps the last heartbeat of each of its peers, of 15 peers at most.  A heartbeat
comes in over gossip, where a refusal is an error of that message, or is the node's own, where a refusal is a
panic.  `Cleanup` removes what is older than a minute.

A peer that is in the table should be able to replace its heartbeat, and only live heartbeats should count
against a new peer (`Lawful`).  But `SetHeartbeat` looks at the size of the table before it looks for the peer,
and counts expired heartbeats that are still there.  `heartbeats_lawful_iff`: a run is lawful exactly if no
heartbeat meets a full table that has its peer in it, or an expired heartbeat (`Admits`).

What the table shows of a guardian is the guardian's own word (`recorded_signed`): every heartbeat in it has been signed
by the guardian it is recorded for, one of the guardian set of that time, or is the node's own.
-/
import Mathlib
import Wormhole.Lib.Bytes
import Wormhole.Lib.Go
import Wormhole.Lib.Transition
import Wormhole.Guardian.Aggregation
import Wormhole.Guardian.Vaa

namespace Wormhole.Guardian.Heartbeats

open Wormhole.Lib Wormhole.Lib.Bytes Wormhole.Lib.Transition

/-! ## The table -/

abbrev PeerID := String

/-- A heartbeat, without the networks it reports on.  Its times are in nanoseconds. -/
structure Heartbeat where
  nodeName : String
  counter : Int
  timestamp : Int
  version : String
  guardianAddr : String
  bootTimestamp : Int
  deriving DecidableEq

/-- The maximum amount of nodes per guardian key. -/
def maxNodesPerGuardian : Nat := 15

/-- The maximum age of state entries, one minute. -/
def maxStateAge : Int := 60 * 10 ^ 9

/-- The last heartbeats of a guardian, by peer. -/
abbrev Peers := AList fun _ : PeerID => Heartbeat

/-- The last heartbeats, by guardian. -/
abbrev Table := EthAddress → Option Peers

def newGuardianSetState : Table := fun _ => none

/-- `SetHeartbeat` stores a verified heartbeat observed by a given guardian. -/
def setHeartbeat (t : Table) (addr : EthAddress) (peerId : PeerID) (hb : Heartbeat) : Go Table :=
  match t addr with
  | none => .ok (Function.update t addr (some (AList.insert peerId hb ∅)))
  | some v =>
    if maxNodesPerGuardian ≤ v.keys.length then
      .error ("too many nodes (" ++ toString v.keys.length ++ ") for guardian, cannot store entry")
    else .ok (Function.update t addr (some (v.insert peerId hb)))

/-- The heartbeat is too old. -/
def Expired (now : Int) (hb : Heartbeat) : Prop := maxStateAge < now - hb.timestamp

instance (now : Int) (hb : Heartbeat) : Decidable (Expired now hb) := inferInstanceAs (Decidable (_ < _))

/-- Delete the expired heartbeats of a guardian, one after the other. -/
def cleanupPeers (now : Int) (v : Peers) : Peers :=
  v.entries.foldl (fun v' entry => if Expired now entry.2 then v'.erase entry.1 else v') v

/-- `Cleanup` removes expired entries from the state. -/
def cleanup (now : Int) (t : Table) : Table := fun addr => (t addr).map (cleanupPeers now)

/-! ## The callers -/

/-- The node's own heartbeat, on its ticker. -/
def ownHeartbeat (t : Table) (ourAddr : EthAddress) (ourId : PeerID) (hb : Heartbeat) : Go Table :=
  match setHeartbeat t ourAddr ourId hb with
  | .ok t' => .ok t'
  | .error err => .panic err
  | .panic reason => .panic reason

structure SignedHeartbeat where
  heartbeat : List UInt8
  signature : List UInt8
  guardianAddr : List UInt8

def heartbeatMessagePrefix : List UInt8 := "heartbeat|".toUTF8.data.toList

def heartbeatDigest (crypto : Crypto) (b : List UInt8) : FixedBytes 32 :=
  crypto.Keccak256 (heartbeatMessagePrefix ++ b)

theorem noSigner_length : (List.replicate 20 (0x00 : UInt8)).length = 20 := rfl

/-- The key that should have signed: the sender's, or the zero address if it is not in the guardian set and
verification is disabled. -/
def expectedSigner (gs : GuardianSet) (envelopeAddr : EthAddress) (disableVerify : Bool) : Go EthAddress :=
  match gs.keyIndex envelopeAddr with
  | some idx => .ok (gs.Keys.getD idx ⟨List.replicate 20 0x00, noSigner_length⟩)
  | none =>
    if disableVerify then .ok ⟨List.replicate 20 0x00, noSigner_length⟩
    else .error "invalid message: not in guardian set"

/-- `processSignedHeartbeat`.  `unmarshal` is `proto.Unmarshal`. -/
def processSignedHeartbeat (crypto : Crypto) (unmarshal : List UInt8 → Option Heartbeat) (t : Table)
    (sender : PeerID) (s : SignedHeartbeat) (gs : GuardianSet) (disableVerify : Bool) :
    Go (Table × Heartbeat) := do
  let pk ← expectedSigner gs (bytesToAddress s.guardianAddr) disableVerify
  match recoverSigner crypto (heartbeatDigest crypto s.heartbeat).val s.signature with
  | none => .error "failed to recover public key"
  | some signerAddr =>
    if pk ≠ signerAddr ∧ disableVerify = false then .error "invalid signer"
    else
      match unmarshal s.heartbeat with
      | none => .error "failed to unmarshal heartbeat"
      | some h => do
        let t ← setHeartbeat t signerAddr sender h
        return (t, h)

/-! ## Runs -/

inductive Event where
  | setHeartbeat (addr : EthAddress) (peerId : PeerID) (hb : Heartbeat) (now : Int)
  | cleanup (now : Int)

/-- A refused heartbeat leaves the table as it is. -/
def step (t : Table) : Event → Option Table
  | .setHeartbeat addr peerId hb _ =>
    match setHeartbeat t addr peerId hb with
    | .ok t' => some t'
    | _ => some t
  | .cleanup now => some (cleanup now t)

/-! ## What the table should do -/

namespace Table

variable (t : Table)

/-- The last heartbeats of a guardian. -/
def peers (addr : EthAddress) : Peers := (t addr).getD ∅

/-- The last heartbeat of a peer. -/
def lastHeartbeat (addr : EthAddress) (peerId : PeerID) : Option Heartbeat := (t.peers addr).lookup peerId

/-- The peers that count: the others than the expired ones. -/
def live (addr : EthAddress) (now : Int) : List PeerID :=
  ((t.peers addr).entries.filter fun entry => ¬Expired now entry.2).map Sigma.fst

/-- No guardian has too many peers. -/
def Bounded : Prop := ∀ addr, (t.peers addr).keys.length ≤ maxNodesPerGuardian

/-- The heartbeat is in the table, and the others are as they were. -/
def Stores (addr : EthAddress) (peerId : PeerID) (hb : Heartbeat) (t' : Table) : Prop :=
  ∀ addr' peerId', t'.lastHeartbeat addr' peerId' =
    if addr' = addr ∧ peerId' = peerId then some hb else t.lastHeartbeat addr' peerId'

/-- A recorded peer replaces its heartbeat, and a new one is refused only by the maximum of live others;
`Cleanup` removes exactly what has expired. -/
def Lawful : Event → Prop
  | .setHeartbeat addr peerId hb now =>
    (∃ t', setHeartbeat t addr peerId hb = .ok t' ∧ t.Stores addr peerId hb t') ∨
      t.lastHeartbeat addr peerId = none ∧ maxNodesPerGuardian ≤ (t.live addr now).length
  | .cleanup now => ∀ addr peerId, (cleanup now t).lastHeartbeat addr peerId =
      (t.lastHeartbeat addr peerId).filter fun hb => ¬Expired now hb

/-- The guardian has room, or its peers are others and live. -/
def Admits : Event → Prop
  | .setHeartbeat addr peerId _ now => (t.peers addr).keys.length < maxNodesPerGuardian ∨
      t.lastHeartbeat addr peerId = none ∧ ∀ entry ∈ (t.peers addr).entries, ¬Expired now entry.2
  | .cleanup _ => True

end Table

/-! ## One step -/

section Step

variable {t t' : Table} {addr : EthAddress} {peerId : PeerID} {hb : Heartbeat} {now : Int} {v : Peers}

theorem peers_update (addr addr' : EthAddress) :
    Table.peers (Function.update t addr (some v)) addr' = if addr' = addr then v else t.peers addr' := by
  rw [Table.peers, Function.update_apply]
  split
  · rfl
  · rfl

/-- **With room** the heartbeat is stored. -/
theorem setHeartbeat_of_room (h : (t.peers addr).keys.length < maxNodesPerGuardian) :
    setHeartbeat t addr peerId hb = .ok (Function.update t addr (some ((t.peers addr).insert peerId hb))) := by
  unfold setHeartbeat
  split
  · rename_i hnone
    rw [Table.peers, hnone]
    rfl
  · rename_i v hsome
    rw [Table.peers, hsome] at h ⊢
    exact if_neg (not_le.mpr h)

/-- **Without room** it is refused. -/
theorem setHeartbeat_of_full (h : maxNodesPerGuardian ≤ (t.peers addr).keys.length) (peerId : PeerID)
    (hb : Heartbeat) : ∃ reason, setHeartbeat t addr peerId hb = .error reason := by
  unfold setHeartbeat
  split
  · rename_i hnone
    rw [Table.peers, hnone] at h
    exact absurd h (by decide)
  · rename_i v hsome
    rw [Table.peers, hsome] at h
    exact ⟨_, if_pos h⟩

theorem stores_insert :
    t.Stores addr peerId hb (Function.update t addr (some ((t.peers addr).insert peerId hb))) := by
  intro addr' peerId'
  rw [Table.lastHeartbeat, peers_update]
  by_cases haddr : addr' = addr
  · subst haddr
    rw [if_pos rfl]
    by_cases hpeer : peerId' = peerId
    · subst hpeer
      rw [if_pos ⟨rfl, rfl⟩, AList.lookup_insert]
    · rw [if_neg fun h => hpeer h.2, AList.lookup_insert_ne hpeer]
      rfl
  · rw [if_neg haddr, if_neg fun h => haddr h.1]
    rfl

theorem keys_length_insert_le (v : Peers) : (v.insert peerId hb).keys.length ≤ v.keys.length + 1 := by
  rw [AList.keys_insert, List.length_cons]
  exact Nat.add_le_add_right List.length_erase_le 1

/-- Deleting, of any list of entries, what has expired. -/
theorem foldl_erase (l : List (Sigma fun _ : PeerID => Heartbeat)) (v : Peers) :
    let v' := l.foldl (fun v' entry => if Expired now entry.2 then v'.erase entry.1 else v') v
    v'.keys.length ≤ v.keys.length ∧ ∀ peerId, v'.lookup peerId =
      if ∃ entry ∈ l, entry.1 = peerId ∧ Expired now entry.2 then none else v.lookup peerId := by
  induction l generalizing v with
  | nil => exact ⟨le_refl _, fun peerId => (if_neg (by rintro ⟨_, h, -⟩; cases h)).symm⟩
  | cons entry l ih =>
    obtain ⟨hlength, hlookup⟩ := ih (if Expired now entry.2 then v.erase entry.1 else v)
    simp only [List.foldl_cons, List.exists_mem_cons_iff]
    by_cases hexpired : Expired now entry.2
    · rw [if_pos hexpired] at hlength hlookup ⊢
      refine ⟨hlength.trans ?_, ?_⟩
      · rw [AList.keys_erase]
        exact List.length_erase_le
      · intro peerId
        rw [hlookup]
        by_cases hpeer : entry.1 = peerId
        · subst hpeer
          rw [AList.lookup_erase, ite_self, if_pos (.inl ⟨rfl, hexpired⟩)]
        · rw [AList.lookup_erase_ne (Ne.symm hpeer)]
          exact if_congr (or_iff_right fun h => hpeer h.1).symm rfl rfl
    · rw [if_neg hexpired] at hlength hlookup ⊢
      refine ⟨hlength, ?_⟩
      intro peerId
      rw [hlookup]
      exact if_congr (or_iff_right fun h => hexpired h.2).symm rfl rfl

/-- **`Cleanup`** removes exactly what has expired. -/
theorem lookup_cleanupPeers (v : Peers) (peerId : PeerID) :
    (cleanupPeers now v).lookup peerId = (v.lookup peerId).filter fun hb => ¬Expired now hb := by
  rw [cleanupPeers, (foldl_erase v.entries v).2]
  cases hlookup : v.lookup peerId with
  | none => rw [Option.filter_none, ite_self]
  | some hb =>
    have hentry : ⟨peerId, hb⟩ ∈ v.entries := AList.mem_lookup_iff.mp hlookup
    rw [Option.filter_some]
    by_cases hexpired : Expired now hb
    · rw [if_pos ⟨_, hentry, rfl, hexpired⟩, if_neg (by simpa using hexpired)]
    · rw [if_neg, if_pos (by simpa using hexpired)]
      rintro ⟨⟨p, hb'⟩, hentry', rfl, hexpired'⟩
      -- a peer has one heartbeat
      have hsame := AList.mem_lookup_iff.mpr hentry'
      rw [Option.mem_def, hlookup] at hsame
      rw [Option.some.inj hsame] at hexpired
      exact hexpired hexpired'

theorem peers_cleanup (addr : EthAddress) : (cleanup now t).peers addr = cleanupPeers now (t.peers addr) := by
  rw [Table.peers, cleanup, Table.peers]
  cases t addr with
  | none => rfl
  | some v => rfl

/-- **A step** keeps the guardians' peers few. -/
theorem step_bounded (h : t.Bounded) {e : Event} (hstep : step t e = some t') : t'.Bounded := by
  cases e with
  | setHeartbeat addr peerId hb now =>
    by_cases hroom : (t.peers addr).keys.length < maxNodesPerGuardian
    · rw [step, setHeartbeat_of_room hroom] at hstep
      obtain rfl := Option.some.inj hstep
      intro addr'
      rw [peers_update]
      split
      · exact (keys_length_insert_le _).trans hroom
      · exact h addr'
    · obtain ⟨reason, herror⟩ := setHeartbeat_of_full (not_lt.mp hroom) peerId hb
      rw [step, herror] at hstep
      obtain rfl := Option.some.inj hstep
      exact h
  | cleanup now =>
    obtain rfl := Option.some.inj hstep
    intro addr
    rw [peers_cleanup]
    exact (foldl_erase _ _).1.trans (h addr)

theorem live_length_eq (addr : EthAddress) (now : Int) :
    (t.live addr now).length = (t.peers addr).keys.length ↔
      ∀ entry ∈ (t.peers addr).entries, ¬Expired now entry.2 := by
  rw [Table.live, List.length_map, AList.keys, List.keys, List.length_map,
    List.length_filter_eq_length_iff]
  simp only [decide_eq_true_eq]

/-- **A step is as it should be** exactly if it is admitted. -/
theorem lawful_iff (h : t.Bounded) (e : Event) : t.Lawful e ↔ t.Admits e := by
  cases e with
  | setHeartbeat addr peerId hb now =>
    by_cases hroom : (t.peers addr).keys.length < maxNodesPerGuardian
    · exact iff_of_true (.inl ⟨_, setHeartbeat_of_room hroom, stores_insert⟩) (.inl hroom)
    · obtain ⟨reason, herror⟩ := setHeartbeat_of_full (not_lt.mp hroom) peerId hb
      have hfull : (t.peers addr).keys.length = maxNodesPerGuardian := le_antisymm (h addr) (not_lt.mp hroom)
      have hlive : maxNodesPerGuardian ≤ (t.live addr now).length ↔
          ∀ entry ∈ (t.peers addr).entries, ¬Expired now entry.2 := by
        rw [← live_length_eq, hfull]
        have hle : (t.live addr now).length ≤ maxNodesPerGuardian := by
          rw [← hfull, Table.live, List.length_map, AList.keys, List.keys, List.length_map]
          exact List.length_filter_le _ _
        exact ⟨fun hge => le_antisymm hle hge, fun heq => heq.ge⟩
      constructor
      · rintro (⟨t', hok, -⟩ | ⟨hnew, hmax⟩)
        · cases herror.symm.trans hok
        · exact .inr ⟨hnew, hlive.mp hmax⟩
      · rintro (hlt | ⟨hnew, hall⟩)
        · exact absurd hlt hroom
        · exact .inr ⟨hnew, hlive.mpr hall⟩
  | cleanup now =>
    refine iff_of_true ?_ trivial
    intro addr peerId
    rw [Table.lastHeartbeat, peers_cleanup, lookup_cleanupPeers]
    rfl

end Step

/-! ## All runs -/

/-- **Every run.** No guardian ever has more than 15 peers; a run is as it should be exactly if no heartbeat
meets a full table that has its peer in it, or an expired heartbeat. -/
theorem heartbeats_lawful_iff (events : List Event) :
    (attempts step newGuardianSetState events).Bounded ∧
    (Along step Table.Lawful newGuardianSetState events ↔
      Along step Table.Admits newGuardianSetState events) := by
  have hnew : Table.Bounded newGuardianSetState := fun addr => Nat.zero_le _
  have hkeep : ∀ (t : Table) (e : Event) (t' : Table), t.Bounded → True → step t e = some t' → t'.Bounded :=
    fun _ _ _ h _ hstep => step_bounded h hstep
  constructor
  · have hrun : Run step (fun _ _ => True) newGuardianSetState (attempts step newGuardianSetState events) :=
      run_attempts (P := fun _ => True) _ _ fun _ _ => trivial
    exact hrun.invariant (I := Table.Bounded) hkeep hnew
  · have hall : Along step (fun _ _ => True) newGuardianSetState events :=
      Along.of_forall fun _ _ => trivial
    exact along_congr (fun t e h => lawful_iff h.2 e) (hall.invariant (I := Table.Bounded) hkeep hnew)

/-! ## The callers -/

section Callers

variable {t t' : Table} {addr : EthAddress} {peerId : PeerID} {hb : Heartbeat}

/-- **The node's own heartbeat** is a panic as soon as its guardian has 15 peers, itself among them or not. -/
theorem ownHeartbeat_panics_iff : (∃ reason, ownHeartbeat t addr peerId hb = .panic reason) ↔
    maxNodesPerGuardian ≤ (t.peers addr).keys.length := by
  by_cases hroom : (t.peers addr).keys.length < maxNodesPerGuardian
  · refine iff_of_false ?_ (not_le.mpr hroom)
    rw [ownHeartbeat, setHeartbeat_of_room hroom]
    rintro ⟨reason, h⟩
    cases h
  · obtain ⟨reason, herror⟩ := setHeartbeat_of_full (not_lt.mp hroom) peerId hb
    rw [ownHeartbeat, herror]
    exact iff_of_true ⟨reason, rfl⟩ (not_lt.mp hroom)

theorem mem_of_keyIndex {gs : GuardianSet} {idx : Nat} (h : gs.keyIndex addr = some idx) :
    gs.Keys.getD idx ⟨List.replicate 20 0x00, rfl⟩ ∈ gs.Keys := by
  obtain ⟨hlt, -⟩ := List.findIdx?_eq_some_iff_getElem.mp h
  rw [List.getD_eq_getElem _ _ hlt]
  exact List.getElem_mem hlt

/-- **A heartbeat that is accepted** has been stored for the guardian that has signed it, who is in the guardian
set unless verification is disabled. -/
theorem processSignedHeartbeat_eq_ok {crypto : Crypto} {unmarshal : List UInt8 → Option Heartbeat}
    {sender : PeerID} {s : SignedHeartbeat} {gs : GuardianSet} {disableVerify : Bool}
    (h : processSignedHeartbeat crypto unmarshal t sender s gs disableVerify = .ok (t', hb)) :
    ∃ signer, recoverSigner crypto (heartbeatDigest crypto s.heartbeat).val s.signature = some signer ∧
      (disableVerify = false → signer ∈ gs.Keys) ∧ unmarshal s.heartbeat = some hb ∧
      setHeartbeat t signer sender hb = .ok t' := by
  obtain ⟨pk, hpk, h⟩ := Go.bind_eq_ok.mp h
  split at h
  · cases h
  · rename_i signer hsigner
    split at h
    · cases h
    · rename_i hmatch
      split at h
      · cases h
      · rename_i heartbeat hread
        obtain ⟨t₁, hset, heq⟩ := Go.bind_eq_ok.mp h
        obtain ⟨rfl, rfl⟩ := Prod.mk.inj (Go.ok.inj heq)
        refine ⟨signer, hsigner, ?_, hread, hset⟩
        intro hverify
        obtain rfl : pk = signer := by
          by_contra hne
          exact hmatch ⟨hne, hverify⟩
        unfold expectedSigner at hpk
        split at hpk
        · rename_i idx hidx
          rw [← Go.ok.inj hpk]
          exact mem_of_keyIndex hidx
        · rw [hverify] at hpk
          cases hpk

/-- What is set is in the table, and the rest is as it was. -/
theorem stores_of_setHeartbeat (h : setHeartbeat t addr peerId hb = .ok t') : t.Stores addr peerId hb t' := by
  by_cases hroom : (t.peers addr).keys.length < maxNodesPerGuardian
  · obtain rfl := Go.ok.inj ((setHeartbeat_of_room hroom).symm.trans h)
    exact stores_insert
  · obtain ⟨reason, herror⟩ := setHeartbeat_of_full (not_lt.mp hroom) peerId hb
    cases herror.symm.trans h

end Callers

/-! ## Whose word the table is -/

/-- What comes to the table: a signed heartbeat of a peer, checked against the guardian set of that time, the
node's own heartbeat, or a tick of `Cleanup`. -/
inductive Arrival where
  | gossip (sender : PeerID) (s : SignedHeartbeat) (gs : GuardianSet)
  | own (hb : Heartbeat)
  | cleanup (now : Int)

section Arrivals

variable (crypto : Crypto) (unmarshal : List UInt8 → Option Heartbeat) (ourAddr : EthAddress) (ourId : PeerID)

/-- The table after an arrival, verification enabled.  A heartbeat that is refused leaves it as it is; a panic ends
the node. -/
def receive (t : Table) : Arrival → Option Table
  | .gossip sender s gs =>
    match processSignedHeartbeat crypto unmarshal t sender s gs false with
    | .ok (t', _) => some t'
    | _ => some t
  | .own hb =>
    match ownHeartbeat t ourAddr ourId hb with
    | .ok t' => some t'
    | _ => none
  | .cleanup now => some (cleanup now t)

/-- The guardian has said so: the heartbeat is the node's own, or has come with the guardian's signature. -/
inductive Vouched (log : List Arrival) (addr : EthAddress) (peerId : PeerID) (hb : Heartbeat) : Prop
  | own (hmem : .own hb ∈ log) (haddr : addr = ourAddr) (hid : peerId = ourId)
  | signed (s : SignedHeartbeat) (gs : GuardianSet) (hmem : .gossip peerId s gs ∈ log) (hkey : addr ∈ gs.Keys)
    (hsigned : recoverSigner crypto (heartbeatDigest crypto s.heartbeat).val s.signature = some addr)
    (hread : unmarshal s.heartbeat = some hb)

end Arrivals

section Arrivals

variable {crypto : Crypto} {unmarshal : List UInt8 → Option Heartbeat} {ourAddr : EthAddress} {ourId : PeerID}
  {t t' : Table} {log : List Arrival} {addr : EthAddress} {peerId : PeerID} {hb : Heartbeat}

theorem Vouched.append (h : Vouched crypto unmarshal ourAddr ourId log addr peerId hb) (later : List Arrival) :
    Vouched crypto unmarshal ourAddr ourId (log ++ later) addr peerId hb := by
  cases h with
  | own hmem haddr hid => exact .own (List.mem_append_left _ hmem) haddr hid
  | signed s gs hmem hkey hsigned hread => exact .signed s gs (List.mem_append_left _ hmem) hkey hsigned hread

theorem ownHeartbeat_eq_ok (h : ownHeartbeat t addr peerId hb = .ok t') : setHeartbeat t addr peerId hb = .ok t' := by
  unfold ownHeartbeat at h
  split at h
  · rename_i t₁ hset
    rw [hset, Go.ok.inj h]
  · cases h
  · cases h

/-- **One arrival:** what is in the table behind it was there before, or is vouched for by the arrival. -/
theorem lastHeartbeat_receive {a : Arrival} (h : receive crypto unmarshal ourAddr ourId t a = some t')
    (hlast : t'.lastHeartbeat addr peerId = some hb) :
    t.lastHeartbeat addr peerId = some hb ∨ Vouched crypto unmarshal ourAddr ourId [a] addr peerId hb := by
  cases a with
  | gossip sender s gs =>
    rw [receive] at h
    split at h
    · rename_i t₁ heartbeat hprocess
      obtain rfl := Option.some.inj h
      obtain ⟨signer, hsigner, hkey, hread, hset⟩ := processSignedHeartbeat_eq_ok hprocess
      rw [stores_of_setHeartbeat hset] at hlast
      split at hlast
      · rename_i hsame
        obtain ⟨rfl, rfl⟩ := hsame
        obtain rfl := Option.some.inj hlast
        exact .inr (.signed s gs (List.mem_singleton_self _) (hkey rfl) hsigner hread)
      · exact .inl hlast
    · obtain rfl := Option.some.inj h
      exact .inl hlast
  | own heartbeat =>
    rw [receive] at h
    split at h
    · rename_i t₁ hown
      obtain rfl := Option.some.inj h
      rw [stores_of_setHeartbeat (ownHeartbeat_eq_ok hown)] at hlast
      split at hlast
      · rename_i hsame
        obtain rfl := Option.some.inj hlast
        exact .inr (.own (List.mem_singleton_self _) hsame.1 hsame.2)
      · exact .inl hlast
    · cases h
  | cleanup now =>
    obtain rfl := Option.some.inj h
    rw [Table.lastHeartbeat, peers_cleanup, lookup_cleanupPeers] at hlast
    exact .inl (Option.eq_some_of_filter_eq_some hlast)

/-- **Whose word the table is.**  Over everything that comes to a node: every heartbeat in the table is the node's own
or has been signed by the guardian that it is recorded for, who was in the guardian set. -/
theorem recorded_signed (hrun : Run (logging (receive crypto unmarshal ourAddr ourId) fun _ a => [a])
    (fun _ _ => True) (newGuardianSetState, []) (t, log)) (hlast : t.lastHeartbeat addr peerId = some hb) :
    Vouched crypto unmarshal ourAddr ourId log addr peerId hb := by
  have hall : ∀ addr peerId hb, t.lastHeartbeat addr peerId = some hb →
      Vouched crypto unmarshal ourAddr ourId log addr peerId hb := by
    refine hrun.invariant (I := fun s => ∀ addr peerId hb, s.1.lastHeartbeat addr peerId = some hb →
      Vouched crypto unmarshal ourAddr ourId s.2 addr peerId hb) ?_ ?_
    · intro s a s' hs _ hstep addr peerId hb hlast
      obtain ⟨hreceive, hlog⟩ := logging_eq_some.mp hstep
      rw [hlog]
      rcases lastHeartbeat_receive hreceive hlast with hbefore | hvouched
      · exact (hs addr peerId hb hbefore).append _
      · cases hvouched with
        | own hmem haddr hid => exact .own (List.mem_append_right _ hmem) haddr hid
        | signed s gs hmem hkey hsigned hread =>
          exact .signed s gs (List.mem_append_right _ hmem) hkey hsigned hread
    · intro addr peerId hb hlast
      cases hlast
  exact hall addr peerId hb hlast

end Arrivals

/-! ## Inputs -/

def sampleHeartbeat (counter : Int) : Heartbeat where
  nodeName := "guardian"
  counter := counter
  timestamp := 1650000000 * 10 ^ 9
  version := "v2"
  guardianAddr := "0x00"
  bootTimestamp := 1640000000 * 10 ^ 9

theorem sampleGuardian_length : (List.replicate 20 (0x01 : UInt8)).length = 20 := rfl

def sampleGuardian : EthAddress := ⟨List.replicate 20 0x01, sampleGuardian_length⟩

/-- Fifteen peers of one guardian, at one time. -/
def fifteenPeers : List Event := (List.range 15).map fun i =>
  .setHeartbeat sampleGuardian i.repr (sampleHeartbeat 0) (1650000000 * 10 ^ 9)

/-- **A recorded peer is refused.** Fifteen peers are in the table, all of them live, and the next heartbeat of
one of them is an error; the node's own would be a panic. -/
theorem recordedPeer_refused : ∃ t : Table, attempts step newGuardianSetState fifteenPeers = t ∧
    t.lastHeartbeat sampleGuardian "0" = some (sampleHeartbeat 0) ∧
    (∃ reason, setHeartbeat t sampleGuardian "0" (sampleHeartbeat 1) = .error reason) ∧
    (∃ reason, ownHeartbeat t sampleGuardian "0" (sampleHeartbeat 1) = .panic reason) ∧
    ¬t.Lawful (.setHeartbeat sampleGuardian "0" (sampleHeartbeat 1) (1650000000 * 10 ^ 9)) := by
  have hrecorded : (attempts step newGuardianSetState fifteenPeers).lastHeartbeat sampleGuardian "0" =
      some (sampleHeartbeat 0) := by decide +kernel
  have hfull : maxNodesPerGuardian ≤
      ((attempts step newGuardianSetState fifteenPeers).peers sampleGuardian).keys.length := by decide +kernel
  obtain ⟨reason, herror⟩ := setHeartbeat_of_full hfull "0" (sampleHeartbeat 1)
  refine ⟨_, rfl, hrecorded, ⟨reason, herror⟩, ownHeartbeat_panics_iff.mpr hfull, ?_⟩
  rintro (⟨t', hok, -⟩ | ⟨hnew, -⟩)
  · cases herror.symm.trans hok
  · cases hrecorded.symm.trans hnew

end Wormhole.Guardian.Heartbeats

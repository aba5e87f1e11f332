/-
# Wormhole.Guardian.SubmittedVaa — what the node submits.

A VAA that `handleObservation` stores and broadcasts is the node's own observation, signed by a quorum of
the guardian set stored with it (`submitted_sound`), and an entry is submitted once.  The set that admits
a signature may have been replaced since: the invariant keeps that a collected signature recovers to the
guardian it is filed under, and counts and indices are taken from the stored set alone.

An injected VAA carries the index that the operator gave it.  It is the index of the stored set only when
the operator gave the index of the node's current set.
-/
import Mathlib
import Wormhole.Lib.Go
import Wormhole.Lib.Transition
import Wormhole.Lib.Entries
import Wormhole.Guardian.Aggregation

namespace Wormhole.Guardian

open Wormhole.Lib Wormhole.Lib.Bytes Wormhole.Lib.Transition

/-! ## The list of signatures -/

section Aggregate

variable {signatures : EthAddress → Option (List UInt8)} {i : Nat} {keys : List EthAddress}
  {sigs : List Signature}

/-- A signature of the list is the one filed under the key at its index. -/
theorem aggregate_mem (h : aggregate signatures i keys = .ok sigs) (hle : i + keys.length ≤ 256) :
    ∀ sig ∈ sigs, i ≤ sig.index.toNat ∧ ∃ s, keys[sig.index.toNat - i]?.bind signatures = some s ∧
      sig.signature.val = s.take 65 := by
  induction keys generalizing i sigs with
  | nil =>
    rw [← Go.ok.inj h]
    nofun
  | cons a keys ih =>
    simp only [List.length_cons] at hle
    -- the rest of the list, one index further
    have hrest : ∀ {rest}, aggregate signatures (i + 1) keys = .ok rest → ∀ sig ∈ rest,
        i ≤ sig.index.toNat ∧ ∃ s, (a :: keys)[sig.index.toNat - i]?.bind signatures = some s ∧
          sig.signature.val = s.take 65 := by
      intro rest hrest sig hsig
      obtain ⟨hlt, s, hs, hval⟩ := ih hrest (by omega) sig hsig
      refine ⟨by omega, s, ?_, hval⟩
      have hindex : sig.index.toNat - i = sig.index.toNat - (i + 1) + 1 := by omega
      rw [hindex, List.getElem?_cons_succ]
      exact hs
    unfold aggregate at h
    split at h
    · exact hrest h
    · rename_i s hs
      split at h
      · obtain ⟨rest, htail, heq⟩ := Go.bind_eq_ok.mp h
        rw [← Go.ok.inj heq]
        intro sig hsig
        rcases List.mem_cons.mp hsig with rfl | hsig
        · have hindex : (UInt8.ofNat i).toNat = i := by
            rw [UInt8.toNat_ofNat', Nat.mod_eq_of_lt (by omega)]
          refine ⟨hindex.ge, s, ?_, rfl⟩
          show (a :: keys)[(UInt8.ofNat i).toNat - i]?.bind signatures = some s
          rw [hindex, Nat.sub_self]
          exact hs
        · exact hrest htail sig hsig
      · cases h

/-- The indices ascend. -/
theorem aggregate_pairwise (h : aggregate signatures i keys = .ok sigs) (hle : i + keys.length ≤ 256) :
    sigs.Pairwise fun a b => a.index < b.index := by
  induction keys generalizing i sigs with
  | nil =>
    rw [← Go.ok.inj h]
    exact List.Pairwise.nil
  | cons a keys ih =>
    simp only [List.length_cons] at hle
    unfold aggregate at h
    split at h
    · exact ih h (by omega)
    · split at h
      · obtain ⟨rest, htail, heq⟩ := Go.bind_eq_ok.mp h
        rw [← Go.ok.inj heq]
        refine List.pairwise_cons.mpr ⟨?_, ih htail (by omega)⟩
        intro sig hsig
        obtain ⟨hlt, -⟩ := aggregate_mem htail (by omega) sig hsig
        show (UInt8.ofNat i).toNat < sig.index.toNat
        rw [UInt8.toNat_ofNat', Nat.mod_eq_of_lt (by omega)]
        omega
      · cases h

end Aggregate

variable {crypto : Crypto} {gk : GuardianKey} {p p' : Aggregator} {log : List Input}

/-- A signer that was recovered, on well-formed bytes. -/
theorem recoverSigner_eq_some {hash signature : List UInt8} {addr : EthAddress}
    (h : recoverSigner crypto hash signature = some addr) :
    ∃ (hh : hash.length = 32) (hs : signature.length = 65) (pubKey : FixedBytes 65),
      crypto.Ecrecover ⟨hash, hh⟩ ⟨signature, hs⟩ = some pubKey ∧ pubKeyAddress crypto pubKey = addr := by
  unfold recoverSigner at h
  split at h
  · rename_i hlength
    obtain ⟨pubKey, hrecover, haddr⟩ := Option.map_eq_some_iff.mp h
    exact ⟨hlength.1, hlength.2, pubKey, hrecover, haddr⟩
  · cases h

/-! ## What an observation does -/

/-- Nothing is stored, broadcast or reported. -/
structure Quiet (p p' : Aggregator) : Prop where
  sendC : p'.sendC = p.sendC
  db : p'.db = p.db
  reported : p'.reported = p.reported

/-- The entry's VAA is stored, unless badger fails, broadcast and reported. -/
structure Submits (p p' : Aggregator) (hash : List UInt8) (s : VaaState) (signed : VAA) : Prop where
  gs : p'.gs = p.gs
  vaaSignatures : p'.vaaSignatures = p.vaaSignatures.insert hash { s with submitted := true }
  sendC : p'.sendC = p.sendC ++ [.signedVAAWithQuorum (marshal signed)]
  reported : p'.reported = p.reported ++ [signed]
  db : p'.db = p.db ∨ p'.db = Function.update p.db (vaaIDFromVAA signed).bytes (some (marshal signed))

theorem Submits.not_quiet {hash : List UInt8} {s : VaaState} {signed : VAA}
    (h : Submits p p' hash s signed) : ¬Quiet p p' := by
  intro hquiet
  have hreported := hquiet.reported
  rw [h.reported] at hreported
  have hlength := congrArg List.length hreported
  rw [List.length_append, List.length_singleton] at hlength
  omega

theorem submitSigned_eq_ok {hash : List UInt8} {s : VaaState} {signed : VAA} {fails : Bool}
    (h : submitSigned p hash s signed fails = .ok p') : Submits p p' hash s signed := by
  unfold submitSigned at h
  dsimp only at h
  split at h
  · cases h
  · rw [← Go.ok.inj h]
    exact ⟨rfl, rfl, rfl, rfl, .inl rfl⟩
  · rename_i db hstore
    rw [← Go.ok.inj h]
    exact ⟨rfl, rfl, rfl, rfl, .inr (storeSignedVAA_eq_done hstore).2⟩

/-- The entry after the signature of `addr` was filed. -/
def Aggregator.signedEntry (p : Aggregator) (addr : EthAddress) (m : SignedObservation) (now : Int) :
    VaaState :=
  let s := p.entryOf m.Hash now
  { s with signatures := Function.update s.signatures addr (some m.Signature) }

/-- **An observation**, in every case. -/
theorem handleObservation_cases {m : SignedObservation} {now : Int} {fails : Bool}
    (h : handleObservation crypto p m now fails = .ok p') :
    p' = p ∨ ∃ gs addr, recoverSigner crypto m.Hash m.Signature = some addr ∧
      p.guardianSetFor m.Hash = some gs ∧
      (p' = p.setEntry m.Hash (p.signedEntry addr m now) ∨
        ∃ v sigs, (p.signedEntry addr m now).ourVAA = some v ∧
          (p.signedEntry addr m now).submitted = false ∧
          aggregate (p.signedEntry addr m now).signatures 0 gs.Keys = .ok sigs ∧
          calculateQuorum gs.Keys.length ≤ sigs.length ∧
          Submits p p' m.Hash (p.signedEntry addr m now) { v with signatures := sigs }) := by
  unfold handleObservation at h
  split at h
  · exact .inl (Go.ok.inj h).symm
  · rename_i signer hrecover
    split at h
    · exact .inl (Go.ok.inj h).symm
    · rename_i haddr
      split at h
      · exact .inl (Go.ok.inj h).symm
      · rename_i gs hgs
        split at h
        · exact .inl (Go.ok.inj h).symm
        · right
          rw [not_not.mp haddr] at h
          obtain ⟨sigs, haggregate, h⟩ := Go.bind_eq_ok.mp h
          refine ⟨gs, signer, hrecover, hgs, ?_⟩
          split at h
          · exact .inl (Go.ok.inj h).symm
          · rename_i v hv
            split at h
            · rename_i hquorum
              have hsubmit := submitSigned_eq_ok h
              refine .inr ⟨v, sigs, hv, hquorum.2, haggregate, hquorum.1,
                ⟨hsubmit.gs, ?_, hsubmit.sendC, hsubmit.reported, hsubmit.db⟩⟩
              rw [hsubmit.vaaSignatures]
              exact AList.insert_insert _
            · exact .inl (Go.ok.inj h).symm

/-! ## What a cleanup does -/

/-- A cleanup changes the settlement and the retries of an entry. -/
structure SameObservation (s s' : VaaState) : Prop where
  ourVAA : s'.ourVAA = s.ourVAA
  signatures : s'.signatures = s.signatures
  submitted : s'.submitted = s.submitted
  gs : s'.gs = s.gs

/-- The entry at `hash` is kept, deleted, or changed so. -/
structure Cleans (p p' : Aggregator) (hash : List UInt8) (s : VaaState) : Prop where
  gs : p'.gs = p.gs
  vaaSignatures : p'.vaaSignatures = p.vaaSignatures ∨ p'.vaaSignatures = p.vaaSignatures.erase hash ∨
    ∃ s', SameObservation s s' ∧ p'.vaaSignatures = p.vaaSignatures.insert hash s'

namespace Cleans

variable {hash : List UInt8} {s : VaaState}

theorem refl (p : Aggregator) : Cleans p p hash s := ⟨rfl, .inl rfl⟩

theorem expire (p : Aggregator) : Cleans p (p.expire hash) hash s := ⟨rfl, .inr (.inl rfl)⟩

theorem settle (h : Guardian.settle p hash s = .ok p') : Cleans p p' hash s := by
  unfold Guardian.settle at h
  split at h
  · cases h
  · rw [← Go.ok.inj h]
    exact ⟨rfl, .inr (.inr ⟨{ s with settled := true }, ⟨rfl, rfl, rfl, rfl⟩, rfl⟩)⟩

theorem retransmit (h : Guardian.retransmit p hash s = .ok p') : Cleans p p' hash s := by
  unfold Guardian.retransmit at h
  split at h
  · rw [← Go.ok.inj h]
    exact ⟨rfl, .inr (.inr ⟨{ s with retryCount := s.retryCount + 1 }, ⟨rfl, rfl, rfl, rfl⟩, rfl⟩)⟩
  · split at h
    · cases h
    · rw [← Go.ok.inj h]
      exact expire p

theorem cleanupRest {delta : Int} (h : Guardian.cleanupRest p hash s delta = .ok p') :
    Cleans p p' hash s := by
  unfold Guardian.cleanupRest at h
  split at h
  · exact settle h
  · split at h
    · rw [← Go.ok.inj h]
      exact expire p
    · split at h
      · rw [← Go.ok.inj h]
        exact expire p
      · split at h
        · exact retransmit h
        · rw [← Go.ok.inj h]
          exact refl p

/-- **A visit of an entry**, in every case. -/
theorem cleanupEntry {now : Int} {fails : Bool}
    (h : Guardian.cleanupEntry p hash s now fails = .ok p') : Cleans p p' hash s := by
  unfold Guardian.cleanupEntry at h
  dsimp only at h
  split at h
  · split at h
    · split at h
      · rw [← Go.ok.inj h]
        exact expire p
      · exact settle h
    · exact cleanupRest h
  · exact cleanupRest h

end Cleans

/-- **A cleanup** keeps what every visit of an entry keeps. -/
theorem handleCleanup_induction {I : Aggregator → Prop} {order : List (List UInt8)} {now : Int}
    {fails : List UInt8 → Bool} (hI : I p)
    (hvisit : ∀ q q' hash s, I q → q.vaaSignatures.lookup hash = some s → Cleans q q' hash s → I q')
    (h : handleCleanup p order now fails = .ok p') : I p' := by
  induction order generalizing p with
  | nil => rwa [← Go.ok.inj h]
  | cons hash order ih =>
    unfold handleCleanup at h
    rw [List.foldlM_cons] at h
    obtain ⟨q, hentry, hrest⟩ := Go.bind_eq_ok.mp h
    refine ih ?_ hrest
    split at hentry
    · rename_i s hs
      exact hvisit p q hash s hI hs (Cleans.cleanupEntry hentry)
    · rwa [← Go.ok.inj hentry]

/-! ## The invariant -/

/-- The node has made this VAA of an observation of its own. -/
def Observed (log : List Input) (v : VAA) : Prop :=
  (∃ gs k now fails, Input.message k now fails ∈ log ∧ v = vaaOfMessage gs k) ∨
    ∃ now, Input.injection v now ∈ log

/-- **An entry.** Its signatures recover to the guardians they are filed under; its VAA is the node's own
observation, stored with the guardian set that the VAA names. -/
structure EntrySound (crypto : Crypto) (log : List Input) (hash : List UInt8) (s : VaaState) : Prop where
  signed : ∀ addr sig, s.signatures addr = some sig → recoverSigner crypto hash sig = some addr
  own : ∀ v, s.ourVAA = some v → hash = (signingMsg crypto v).val ∧ Observed log v ∧
    ∃ gs, s.gs = some gs ∧ v.guardianSetIndex = gs.Index ∧ gs.Keys.length ≤ 255

structure Sound (crypto : Crypto) (log : List Input) (p : Aggregator) : Prop where
  gs : ∀ gs, p.gs = some gs → gs.Keys.length ≤ 255
  entry : ∀ hash s, p.vaaSignatures.lookup hash = some s → EntrySound crypto log hash s

theorem Observed.mono {log' : List Input} {v : VAA} (h : Observed log v) : Observed (log ++ log') v := by
  rcases h with ⟨gs, k, now, fails, hmem, hv⟩ | ⟨now, hmem⟩
  · exact .inl ⟨gs, k, now, fails, List.mem_append_left _ hmem, hv⟩
  · exact .inr ⟨now, List.mem_append_left _ hmem⟩

theorem EntrySound.new (hash : List UInt8) (now : Int) : EntrySound crypto log hash (VaaState.new now) :=
  ⟨nofun, nofun⟩

namespace Sound

theorem mono {log' : List Input} (h : Sound crypto log p) : Sound crypto (log ++ log') p := by
  refine ⟨h.gs, ?_⟩
  intro hash s hs
  have hentry := h.entry hash s hs
  refine ⟨hentry.signed, ?_⟩
  intro v hv
  obtain ⟨hhash, hobserved, hgs⟩ := hentry.own v hv
  exact ⟨hhash, hobserved.mono, hgs⟩

/-- Only the guardian set and the entries matter. -/
theorem congr (h : Sound crypto log p) (hgs : p'.gs = p.gs)
    (hentries : p'.vaaSignatures = p.vaaSignatures) : Sound crypto log p' := by
  refine ⟨?_, ?_⟩
  · rw [hgs]
    exact h.gs
  · rw [hentries]
    exact h.entry

theorem insert {hash : List UInt8} {s : VaaState} (h : Sound crypto log p) (hgs : p'.gs = p.gs)
    (hentries : p'.vaaSignatures = p.vaaSignatures.insert hash s)
    (hs : EntrySound crypto log hash s) : Sound crypto log p' := by
  have hentry : Entries (EntrySound crypto log) p.vaaSignatures := h.entry
  refine ⟨?_, ?_⟩
  · rw [hgs]
    exact h.gs
  · rw [hentries]
    exact hentry.insert hs

theorem erase {hash : List UInt8} (h : Sound crypto log p) (hgs : p'.gs = p.gs)
    (hentries : p'.vaaSignatures = p.vaaSignatures.erase hash) : Sound crypto log p' := by
  have hentry : Entries (EntrySound crypto log) p.vaaSignatures := h.entry
  refine ⟨?_, ?_⟩
  · rw [hgs]
    exact h.gs
  · rw [hentries]
    exact hentry.erase hash

theorem entryOf (h : Sound crypto log p) (hash : List UInt8) (now : Int) :
    EntrySound crypto log hash (p.entryOf hash now) := by
  unfold Aggregator.entryOf
  cases hs : p.vaaSignatures.lookup hash with
  | none => exact .new hash now
  | some s => exact h.entry hash s hs

/-- The set that an observation is checked against is the current one or a stored one. -/
theorem signedEntry {addr : EthAddress} {m : SignedObservation} (now : Int) (h : Sound crypto log p)
    (hrecover : recoverSigner crypto m.Hash m.Signature = some addr) :
    EntrySound crypto log m.Hash (p.signedEntry addr m now) := by
  have hentry := h.entryOf m.Hash now
  refine ⟨?_, hentry.own⟩
  intro addr' sig hsig
  by_cases haddr : addr' = addr
  · subst haddr
    have hown : (p.signedEntry addr' m now).signatures addr' = some m.Signature :=
      Function.update_self _ _ _
    rw [hown] at hsig
    rwa [← Option.some.inj hsig]
  · have hother : (p.signedEntry addr m now).signatures addr' = (p.entryOf m.Hash now).signatures addr' :=
      Function.update_of_ne haddr _ _
    rw [hother] at hsig
    exact hentry.signed addr' sig hsig

/-- A local observation that carries the index of the current set. -/
theorem broadcastSignature {v : VAA} {signature txhash : List UInt8} {now : Int} {gs : GuardianSet}
    (h : Sound crypto log p) (hobserved : Observed log v) (hgs : p.gs = some gs)
    (hindex : v.guardianSetIndex = gs.Index) :
    Sound crypto log (Guardian.broadcastSignature crypto gk p v signature txhash now) := by
  refine h.insert rfl rfl ⟨(h.entryOf _ now).signed, ?_⟩
  intro v' hv'
  obtain rfl : v = v' := Option.some.inj hv'
  exact ⟨rfl, hobserved, gs, hgs, hindex, h.gs gs hgs⟩

theorem cleans {hash : List UInt8} {s : VaaState} (h : Sound crypto log p)
    (hs : p.vaaSignatures.lookup hash = some s) (hclean : Cleans p p' hash s) : Sound crypto log p' := by
  rcases hclean.vaaSignatures with hsame | herased | ⟨s', hobservation, hreplaced⟩
  · exact h.congr hclean.gs hsame
  · exact h.erase hclean.gs herased
  · have hentry := h.entry hash s hs
    refine h.insert hclean.gs hreplaced ⟨?_, ?_⟩
    · rw [hobservation.signatures]
      exact hentry.signed
    · rw [hobservation.ourVAA, hobservation.gs]
      exact hentry.own

end Sound

/-! ## Events -/

/-- **The condition.** An injected VAA carries the index of the node's current guardian set. -/
def Input.IndexMatches (p : Aggregator) : Input → Prop
  | .injection v _ => ∃ gs, p.gs = some gs ∧ v.guardianSetIndex = gs.Index
  | _ => True

theorem handleInbound_gs {q q' : Processor} {m : List UInt8} {faults : DbFaults}
    (h : handleInboundSignedVAAWithQuorum crypto q m faults = .ok q') : q'.gs = q.gs := by
  unfold handleInboundSignedVAAWithQuorum at h
  split at h
  · rw [← Except.ok.inj h]
  · split at h
    · rw [← Except.ok.inj h]
    · split at h
      · rw [← Except.ok.inj h]
      · split at h
        · rw [← Except.ok.inj h]
        · split at h
          · rw [← Except.ok.inj h]
          · rw [← Except.ok.inj h]
          · split at h
            · cases h
            · rw [← Except.ok.inj h]
            · rw [← Except.ok.inj h]

/-- What a local message does. -/
theorem handleMessage_cases {k : MessagePublication} {now : Int} {fails : Bool}
    (h : handleMessage crypto gk p k now fails = .ok p') :
    p' = p ∨ ∃ gs s, p.gs = some gs ∧
      p' = broadcastSignature crypto gk { p with
        publications := p.publications ++ [(vaaOfMessage gs k, k.txHash)] } (vaaOfMessage gs k) s
        k.txHash.val now := by
  unfold handleMessage at h
  split at h
  · exact .inl (Go.ok.inj h).symm
  · rename_i gs hgs
    dsimp only at h
    split at h
    · exact .inl (Go.ok.inj h).symm
    · obtain ⟨stored, -, h⟩ := Go.bind_eq_ok.mp h
      split at h
      · exact .inl (Go.ok.inj h).symm
      · split at h
        · cases h
        · rename_i s hs
          exact .inr ⟨gs, s.val, hgs, (Go.ok.inj h).symm⟩

/-- **One event** keeps the invariant. -/
theorem Sound.handle {input : Input} (h : Sound crypto log p) (hadmissible : input.Admissible p)
    (hindex : input.IndexMatches p) (hhandle : Guardian.handle crypto gk p input = .ok p') :
    Sound crypto (log ++ [input]) p' := by
  have hlast : input ∈ log ++ [input] := by simp
  have h : Sound crypto (log ++ [input]) p := h.mono
  cases input with
  | guardianSet gs =>
    rw [← Go.ok.inj hhandle]
    refine ⟨?_, h.entry⟩
    intro gs' hgs'
    rw [← Option.some.inj hgs']
    exact hadmissible.2
  | message k now fails =>
    rcases handleMessage_cases hhandle with rfl | ⟨gs, s, hgs, rfl⟩
    · exact h
    · have hpublished : Sound crypto (log ++ [.message k now fails]) { p with
          publications := p.publications ++ [(vaaOfMessage gs k, k.txHash)] } := h.congr rfl rfl
      exact hpublished.broadcastSignature (.inl ⟨gs, k, now, fails, hlast, rfl⟩) hgs rfl
  | injection v now =>
    obtain ⟨gs, hgs, hv⟩ := hindex
    simp only [Guardian.handle, handleInjection] at hhandle
    split at hhandle
    · cases hhandle
    · rw [← Go.ok.inj hhandle]
      exact h.broadcastSignature (.inr ⟨now, hlast⟩) hgs hv
  | observation m now fails =>
    rcases handleObservation_cases hhandle with rfl | ⟨gs, addr, hrecover, -, rfl | hsubmits⟩
    · exact h
    · exact h.insert rfl rfl (h.signedEntry now hrecover)
    · obtain ⟨v, sigs, -, -, -, -, hsubmits⟩ := hsubmits
      have hentry := h.signedEntry now hrecover
      exact h.insert hsubmits.gs hsubmits.vaaSignatures ⟨hentry.signed, hentry.own⟩
  | inbound m faults =>
    simp only [Guardian.handle] at hhandle
    split at hhandle
    · cases hhandle
    · rename_i q hq
      rw [← Go.ok.inj hhandle]
      exact h.congr (handleInbound_gs hq) rfl
  | cleanup order now fails =>
    exact handleCleanup_induction h (fun _ _ _ _ hq hs hclean => hq.cleans hs hclean) hhandle

/-! ## What is submitted -/

/-- **A sound VAA**, of the node's own observation `own` stored with the guardian set `gs`. -/
structure SoundVAA (crypto : Crypto) (gs : GuardianSet) (own signed : VAA) : Prop where
  body : signed = { own with signatures := signed.signatures }
  guardianSetIndex : signed.guardianSetIndex = gs.Index
  ascending : signed.signatures.Pairwise fun a b => a.index < b.index
  recovers : ∀ sig ∈ signed.signatures, ∃ (hlt : sig.index.toNat < gs.Keys.length) (pubKey : FixedBytes 65),
    crypto.Ecrecover (signingMsg crypto signed) sig.signature = some pubKey ∧
      pubKeyAddress crypto pubKey = gs.Keys[sig.index.toNat]
  quorum : calculateQuorum gs.Keys.length ≤ signed.signatures.length

/-- The signatures of an entry, put into its VAA. -/
theorem EntrySound.soundVAA {hash : List UInt8} {s : VaaState} {v : VAA} {gs : GuardianSet}
    {sigs : List Signature} (hs : EntrySound crypto log hash s) (hv : s.ourVAA = some v)
    (hgs : s.gs = some gs) (haggregate : aggregate s.signatures 0 gs.Keys = .ok sigs)
    (hquorum : calculateQuorum gs.Keys.length ≤ sigs.length) :
    SoundVAA crypto gs v { v with signatures := sigs } := by
  obtain ⟨hhash, -, gs', hgs', hindex, hkeys⟩ := hs.own v hv
  obtain rfl : gs = gs' := Option.some.inj (hgs.symm.trans hgs')
  refine ⟨rfl, hindex, aggregate_pairwise haggregate (by omega), ?_, hquorum⟩
  intro sig hsig
  obtain ⟨-, data, hkey, hval⟩ := aggregate_mem haggregate (by omega) sig hsig
  obtain ⟨addr, haddr, hdata⟩ := Option.bind_eq_some_iff.mp hkey
  rw [Nat.sub_zero] at haddr
  obtain ⟨hlt, hget⟩ := List.getElem?_eq_some_iff.mp haddr
  obtain ⟨hh, hlength, pubKey, hrecover, hsigner⟩ := recoverSigner_eq_some (hs.signed addr data hdata)
  have hsignature : sig.signature = ⟨data, hlength⟩ := by
    apply Subtype.ext
    rw [hval, List.take_of_length_le hlength.le]
  have hmsg : signingMsg crypto { v with signatures := sigs } = ⟨hash, hh⟩ := Subtype.ext hhash.symm
  refine ⟨hlt, pubKey, ?_, hsigner.trans hget.symm⟩
  rw [hmsg, hsignature]
  exact hrecover

/-! ## At most once -/

/-- An entry at `hash`, if there is one, is submitted. -/
def SubmittedAt (hash : List UInt8) (p : Aggregator) : Prop :=
  ∀ s, p.vaaSignatures.lookup hash = some s → s.submitted = true

/-- No visit of a cleanup undoes a submission or creates an entry. -/
theorem SubmittedAt.cleans {hash hash' : List UInt8} {s : VaaState} (h : SubmittedAt hash p)
    (hs : p.vaaSignatures.lookup hash' = some s) (hclean : Cleans p p' hash' s) : SubmittedAt hash p' := by
  intro s₁ hs₁
  rcases hclean.vaaSignatures with hsame | herased | ⟨s', hobservation, hreplaced⟩
  · rw [hsame] at hs₁
    exact h s₁ hs₁
  · rw [herased] at hs₁
    by_cases hhash : hash = hash'
    · subst hhash
      rw [AList.lookup_erase] at hs₁
      cases hs₁
    · rw [AList.lookup_erase_ne hhash] at hs₁
      exact h s₁ hs₁
  · rw [hreplaced] at hs₁
    by_cases hhash : hash = hash'
    · subst hhash
      rw [AList.lookup_insert] at hs₁
      rw [← Option.some.inj hs₁, hobservation.submitted]
      exact h s hs
    · rw [AList.lookup_insert_ne hhash] at hs₁
      exact h s₁ hs₁

theorem SubmittedAt.insert {hash hash' : List UInt8} {s' : VaaState} (h : SubmittedAt hash p)
    (hentries : p'.vaaSignatures = p.vaaSignatures.insert hash' s')
    (hs' : hash = hash' → s'.submitted = true) : SubmittedAt hash p' := by
  intro s₁ hs₁
  rw [hentries] at hs₁
  by_cases hhash : hash = hash'
  · subst hhash
    rw [AList.lookup_insert] at hs₁
    rw [← Option.some.inj hs₁]
    exact hs' rfl
  · rw [AList.lookup_insert_ne hhash] at hs₁
    exact h s₁ hs₁

theorem SubmittedAt.entryOf {hash : List UInt8} {now : Int} (h : SubmittedAt hash p)
    (hmem : hash ∈ p.vaaSignatures) : (p.entryOf hash now).submitted = true := by
  obtain ⟨s, hs⟩ := Option.isSome_iff_exists.mp (AList.lookup_isSome.mpr hmem)
  rw [Aggregator.entryOf, hs]
  exact h s hs

/-- Our own observation leaves the flag alone. -/
theorem SubmittedAt.broadcastSignature {hash : List UInt8} {v : VAA} {signature txhash : List UInt8}
    {now : Int} (h : SubmittedAt hash p) (hmem : hash ∈ p.vaaSignatures) :
    SubmittedAt hash (Guardian.broadcastSignature crypto gk p v signature txhash now) := by
  refine h.insert rfl ?_
  rintro rfl
  exact h.entryOf hmem

/-- **One event** leaves a submitted entry submitted, or deletes it. -/
theorem SubmittedAt.handle {hash : List UInt8} {input : Input} (h : SubmittedAt hash p)
    (hmem : hash ∈ p.vaaSignatures) (hhandle : Guardian.handle crypto gk p input = .ok p') :
    SubmittedAt hash p' := by
  cases input with
  | guardianSet gs =>
    rw [← Go.ok.inj hhandle]
    exact h
  | message k now fails =>
    rcases handleMessage_cases hhandle with rfl | ⟨gs, s, -, rfl⟩
    · exact h
    · have hpublished : SubmittedAt hash { p with
          publications := p.publications ++ [(vaaOfMessage gs k, k.txHash)] } := h
      exact hpublished.broadcastSignature hmem
  | injection v now =>
    simp only [Guardian.handle, handleInjection] at hhandle
    split at hhandle
    · cases hhandle
    · rw [← Go.ok.inj hhandle]
      exact h.broadcastSignature hmem
  | observation m now fails =>
    rcases handleObservation_cases hhandle with rfl | ⟨gs, addr, -, -, rfl | hsubmits⟩
    · exact h
    · refine h.insert rfl ?_
      rintro rfl
      exact h.entryOf hmem
    · obtain ⟨v, sigs, -, -, -, -, hsubmits⟩ := hsubmits
      exact h.insert hsubmits.vaaSignatures fun _ => rfl
  | inbound m faults =>
    simp only [Guardian.handle] at hhandle
    split at hhandle
    · cases hhandle
    · rw [← Go.ok.inj hhandle]
      exact h
  | cleanup order now fails =>
    exact handleCleanup_induction h (fun _ _ _ _ hq hs hclean => hq.cleans hs hclean) hhandle

/-- An observation of a submitted entry submits nothing. -/
theorem SubmittedAt.quiet {m : SignedObservation} {now : Int} {fails : Bool} (h : SubmittedAt m.Hash p)
    (hmem : m.Hash ∈ p.vaaSignatures) (hhandle : handleObservation crypto p m now fails = .ok p') :
    Quiet p p' := by
  rcases handleObservation_cases hhandle with rfl | ⟨gs, addr, -, -, rfl | hsubmits⟩
  · exact ⟨rfl, rfl, rfl⟩
  · exact ⟨rfl, rfl, rfl⟩
  · obtain ⟨v, sigs, -, hsubmitted, -⟩ := hsubmits
    have hentry : (p.signedEntry addr m now).submitted = true := h.entryOf hmem
    rw [hentry] at hsubmitted
    cases hsubmitted

/-! ## Every run -/

/-- The node's events so far. -/
abbrev logged (crypto : Crypto) (gk : GuardianKey) :
    Aggregator × List Input → Input → Option (Aggregator × List Input) :=
  logging (step crypto gk) fun _ input => [input]

theorem step_eq_some {input : Input} :
    step crypto gk p input = some p' ↔ handle crypto gk p input = .ok p' := by
  unfold step
  split <;> simp_all

theorem Sound.of_run {db : Database}
    (hrun : Run (logged crypto gk) (fun s input => input.Admissible s.1 ∧ input.IndexMatches s.1)
      (newProcessor db, []) (p, log)) : Sound crypto log p := by
  have hstart : Sound crypto [] (newProcessor db) := by
    refine ⟨nofun, ?_⟩
    intro hash s hs
    rw [newProcessor, AList.lookup_empty] at hs
    cases hs
  refine hrun.invariant (I := fun s => Sound crypto s.2 s.1) ?_ hstart
  rintro ⟨q, log⟩ input ⟨q', log'⟩ hq ⟨hadmissible, hindex⟩ hstep
  obtain ⟨hhandle, hlog⟩ := logging_eq_some.mp hstep
  dsimp only at hq hhandle hlog
  subst hlog
  exact hq.handle hadmissible hindex (step_eq_some.mp hhandle)

/-- The entry at `hash` is not deleted up to `q`. -/
def Stays (crypto : Crypto) (gk : GuardianKey) (hash : List UInt8) (p q : Aggregator) : Prop :=
  Run (step crypto gk) (fun q _ => hash ∈ q.vaaSignatures) p q ∧ hash ∈ q.vaaSignatures

theorem Stays.submittedAt {hash : List UInt8} {q : Aggregator} (h : Stays crypto gk hash p q)
    (hp : SubmittedAt hash p) : SubmittedAt hash q :=
  h.1.invariant (fun _ _ _ hq hmem hstep => hq.handle hmem (step_eq_some.mp hstep)) hp

/-- **What the node submits is sound.** In every run from start-up, of any events in any order, in which
the injected VAAs carry the index of the node's guardian set: an observation stores and broadcasts
nothing, or it submits a VAA that is the node's own observation of that digest, carries the index of the
guardian set stored with it, and is signed by a quorum of that set at ascending indices; and as long as
the entry is not deleted, no observation submits it again. -/
theorem submitted_sound {db : Database}
    (hrun : Run (logged crypto gk) (fun s input => input.Admissible s.1 ∧ input.IndexMatches s.1)
      (newProcessor db, []) (p, log)) {m : SignedObservation} {now : Int} {fails : Bool}
    (h : handleObservation crypto p m now fails = .ok p') :
    Quiet p p' ∨ ∃ s s' gs own signed, p.vaaSignatures.lookup m.Hash = some s ∧
      s.ourVAA = some own ∧ m.Hash = (signingMsg crypto own).val ∧ Observed log own ∧
      s.gs = some gs ∧ SoundVAA crypto gs own signed ∧ Submits p p' m.Hash s' signed ∧
      ∀ q, Stays crypto gk m.Hash p' q → ∀ m' now' fails' q', m'.Hash = m.Hash →
        handleObservation crypto q m' now' fails' = .ok q' → Quiet q q' := by
  have hsound := Sound.of_run hrun
  rcases handleObservation_cases h with rfl | ⟨gs, addr, hrecover, hgs, rfl | hsubmits⟩
  · exact .inl ⟨rfl, rfl, rfl⟩
  · exact .inl ⟨rfl, rfl, rfl⟩
  · obtain ⟨own, sigs, hown, -, haggregate, hquorum, hsubmits⟩ := hsubmits
    have hentry := hsound.signedEntry now hrecover
    obtain ⟨hhash, hobserved, gs', hgs', -⟩ := hentry.own own hown
    -- the entry was there, and its set is the one that was used
    obtain ⟨s, hs⟩ : ∃ s, p.vaaSignatures.lookup m.Hash = some s := by
      cases hs : p.vaaSignatures.lookup m.Hash with
      | none =>
        have hnew : p.signedEntry addr m now = { VaaState.new now with
            signatures := Function.update (VaaState.new now).signatures addr (some m.Signature) } := by
          rw [Aggregator.signedEntry, Aggregator.entryOf, hs]
          rfl
        rw [hnew] at hown
        cases hown
      | some s => exact ⟨s, rfl⟩
    have hsame : p.entryOf m.Hash now = s := by
      rw [Aggregator.entryOf, hs]
      rfl
    have hsgs : s.gs = some gs' := by
      rw [← hsame]
      exact hgs'
    have hsown : s.ourVAA = some own := by
      rw [← hsame]
      exact hown
    have hset : gs = gs' := by
      rw [Aggregator.guardianSetFor, hs] at hgs
      dsimp only at hgs
      rw [hsgs, Option.some_or] at hgs
      exact (Option.some.inj hgs).symm
    subst hset
    refine .inr ⟨s, _, gs, own, _, hs, hsown, hhash, hobserved, hsgs,
      hentry.soundVAA hown hgs' haggregate hquorum, hsubmits, ?_⟩
    intro q hstays m' now' fails' q' hm' hhandle
    have hsubmitted : SubmittedAt m.Hash p' := by
      intro s' hs'
      rw [hsubmits.vaaSignatures, AList.lookup_insert] at hs'
      rw [← Option.some.inj hs']
    have hq := hstays.submittedAt hsubmitted
    have hmem := hstays.2
    rw [← hm'] at hq hmem
    exact hq.quiet hmem hhandle

/-! ## Inputs -/

theorem oneGuardian_length : (List.replicate 20 (0x01 : UInt8)).length = 20 := rfl

/-- A guardian set of one, the node itself. -/
def oneGuardian : GuardianSet where
  Keys := [⟨List.replicate 20 0x01, oneGuardian_length⟩]
  Index := 4

theorem sampleSignature_length : (List.replicate 65 (0x01 : UInt8)).length = 65 := rfl

def sampleGuardianKey : GuardianKey where
  address := ⟨List.replicate 20 0x01, oneGuardian_length⟩
  Sign := fun _ => some ⟨List.replicate 65 0x01, sampleSignature_length⟩

/-- A governance VAA for which the operator has given the index of the guardian set. -/
def sampleGovernance (index : UInt32) : VAA where
  version := 1
  guardianSetIndex := index
  signatures := []
  timestamp := { unix := 0, nanosecond := 0 }
  nonce := 0
  sequence := 1
  consistencyLevel := 32
  emitterChain := governanceChain
  emitterAddress := governanceEmitter
  payload := [0x01]

/-- The node has received its guardian set. -/
def startedNode : Aggregator × List Input :=
  attempt (logged Crypto.sample sampleGuardianKey) (newProcessor fun _ => none, []) (.guardianSet oneGuardian)

/-- The governance VAA was injected. -/
def injectedNode (index : UInt32) : Aggregator × List Input :=
  attempt (logged Crypto.sample sampleGuardianKey) startedNode (.injection (sampleGovernance index) 0)

/-- The node's own observation of it. -/
def ownObservation : SignedObservation where
  Addr := List.replicate 20 0x01
  Hash := (signingMsg Crypto.sample (sampleGovernance 4)).val
  Signature := List.replicate 65 0x01
  TxHash := []
  MessageId := ""

theorem injectedNode_run (ok : Aggregator × List Input → Input → Prop) (index : UInt32)
    (hset : ok (newProcessor fun _ => none, []) (.guardianSet oneGuardian))
    (hinjection : ok startedNode (.injection (sampleGovernance index) 0)) :
    Run (logged Crypto.sample sampleGuardianKey) ok (newProcessor fun _ => none, []) (injectedNode index) :=
  ((Run.refl _).attempt _ hset).attempt _ hinjection

/-- What is submitted: the indices of the guardian sets named and stored. -/
def submittedIndices (index : UInt32) : Option (List UInt32 × Option UInt32) :=
  match handleObservation Crypto.sample (injectedNode index).1 ownObservation 1 false with
  | .ok p' => some (p'.reported.map (·.guardianSetIndex),
      ((injectedNode index).1.vaaSignatures.lookup ownObservation.Hash).bind fun s => s.gs.map (·.Index))
  | _ => none

theorem submittedIndices_eq_some {index i j : UInt32} (h : submittedIndices index = some ([i], some j)) :
    ∃ p' s s' gs signed,
      handleObservation Crypto.sample (injectedNode index).1 ownObservation 1 false = .ok p' ∧
      (injectedNode index).1.vaaSignatures.lookup ownObservation.Hash = some s ∧ s.gs = some gs ∧
      gs.Index = j ∧ Submits (injectedNode index).1 p' ownObservation.Hash s' signed ∧
      signed.guardianSetIndex = i := by
  unfold submittedIndices at h
  split at h
  · rename_i p' hhandle
    obtain ⟨hreported, hstored⟩ := Prod.mk.inj (Option.some.inj h)
    obtain ⟨s, hs, hgs⟩ := Option.bind_eq_some_iff.mp hstored
    obtain ⟨gs, hgs, hj⟩ := Option.map_eq_some_iff.mp hgs
    have hnone : (injectedNode index).1.reported = [] := rfl
    rcases handleObservation_cases hhandle with rfl | ⟨_, addr, -, -, rfl | hsubmits⟩
    · rw [hnone] at hreported
      cases hreported
    · have hsame : ((injectedNode index).1.setEntry ownObservation.Hash
          ((injectedNode index).1.signedEntry addr ownObservation 1)).reported = [] := hnone
      rw [hsame] at hreported
      cases hreported
    · obtain ⟨v, sigs, -, -, -, -, hsubmits⟩ := hsubmits
      refine ⟨p', s, _, gs, _, hhandle, hs, hgs, hj, hsubmits, ?_⟩
      rw [hsubmits.reported, hnone] at hreported
      exact (List.cons.inj hreported).1
  · cases h

/-- A governance VAA for the current guardian set is submitted. -/
theorem injected_submitted : ∃ p' s' gs own signed,
    handleObservation Crypto.sample (injectedNode 4).1 ownObservation 1 false = .ok p' ∧
    SoundVAA Crypto.sample gs own signed ∧
    Submits (injectedNode 4).1 p' ownObservation.Hash s' signed := by
  obtain ⟨p', s, s', gs, signed, hhandle, -, -, -, hsubmits, -⟩ :=
    submittedIndices_eq_some (show submittedIndices 4 = some ([4], some 4) by decide +kernel)
  have hrun := injectedNode_run
    (fun s input => Input.Admissible s.1 input ∧ Input.IndexMatches s.1 input) 4
    ⟨⟨by decide, by decide⟩, trivial⟩ ⟨trivial, oneGuardian, rfl, rfl⟩
  rcases submitted_sound hrun hhandle with hquiet | ⟨s, s', gs, own, signed, -, -, -, -, -, hsound, hsubmits, -⟩
  · exact absurd hquiet hsubmits.not_quiet
  · exact ⟨p', s', gs, own, signed, hhandle, hsound, hsubmits⟩

/-- **The operator's index.** The node has the guardian set 4 and a governance VAA is injected for the
index 3: the node submits it under the index 3, with the signatures of the set 4, which is stored with
its observation. -/
theorem injected_otherIndex :
    Run (logged Crypto.sample sampleGuardianKey) (fun s input => input.Admissible s.1)
      (newProcessor fun _ => none, []) (injectedNode 3) ∧
    ∃ p' s s' gs signed,
      handleObservation Crypto.sample (injectedNode 3).1 ownObservation 1 false = .ok p' ∧
      (injectedNode 3).1.vaaSignatures.lookup ownObservation.Hash = some s ∧ s.gs = some gs ∧
      Submits (injectedNode 3).1 p' ownObservation.Hash s' signed ∧
      signed.guardianSetIndex ≠ gs.Index := by
  refine ⟨injectedNode_run _ 3 ⟨by decide, by decide⟩ trivial, ?_⟩
  obtain ⟨p', s, s', gs, signed, hhandle, hs, hgs, hfour, hsubmits, hthree⟩ :=
    submittedIndices_eq_some (show submittedIndices 3 = some ([3], some 4) by decide +kernel)
  refine ⟨p', s, s', gs, signed, hhandle, hs, hgs, hsubmits, ?_⟩
  rw [hfour, hthree]
  decide

end Wormhole.Guardian

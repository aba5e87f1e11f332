/-
# Wormhole.Guardian.Handled — what an event does to a node.

`handle_cases` says of every event what it does to the entries of the aggregation state and to what the node sends and
signs: nothing but a visit of the entries, an observation of the node's own, a signature that is filed, or a VAA that
is submitted.  What a node has signed it has put on its own fast path (`HasSigned`).
-/
import Mathlib
import Wormhole.Lib.Go
import Wormhole.Guardian.Cleanup
import Wormhole.Guardian.SubmittedVaa

namespace Wormhole.Guardian

open Wormhole.Lib Wormhole.Lib.Bytes

variable {crypto : Crypto} {gk : GuardianKey} {p p' : Aggregator} {input : Input}

/-! ## Visits of entries -/

/-- The observations of the entries stay; what is sent has been sent, or is held in an entry. -/
structure Swept (p p' : Aggregator) : Prop where
  gs : p'.gs = p.gs
  obsvC : p'.obsvC = p.obsvC
  entries : ∀ hash s', p'.vaaSignatures.lookup hash = some s' →
    ∃ s, p.vaaSignatures.lookup hash = some s ∧ SameObservation s s' ∧ s'.ourMsg = s.ourMsg
  sent : ∃ sent, p'.sendC = p.sendC ++ sent ∧
    ∀ msg ∈ sent, ∃ hash s, p.vaaSignatures.lookup hash = some s ∧ s.ourMsg = some msg

namespace Swept

/-- Nothing of this has changed. -/
theorem of_eq (hgs : p'.gs = p.gs) (hobsvC : p'.obsvC = p.obsvC) (hentries : p'.vaaSignatures = p.vaaSignatures)
    (hsendC : p'.sendC = p.sendC) : Swept p p' := by
  refine ⟨hgs, hobsvC, ?_, [], ?_, nofun⟩
  · intro hash s hs
    rw [hentries] at hs
    exact ⟨s, hs, ⟨rfl, rfl, rfl, rfl⟩, rfl⟩
  · rw [hsendC, List.append_nil]

theorem refl (p : Aggregator) : Swept p p := of_eq rfl rfl rfl rfl

theorem trans {q : Aggregator} (h : Swept p q) (h' : Swept q p') : Swept p p' := by
  refine ⟨h'.gs.trans h.gs, h'.obsvC.trans h.obsvC, ?_, ?_⟩
  · intro hash s₂ hs₂
    obtain ⟨s₁, hs₁, hsame₁, hmsg₁⟩ := h'.entries hash s₂ hs₂
    obtain ⟨s, hs, hsame, hmsg⟩ := h.entries hash s₁ hs₁
    exact ⟨s, hs, ⟨hsame₁.ourVAA.trans hsame.ourVAA, hsame₁.signatures.trans hsame.signatures,
      hsame₁.submitted.trans hsame.submitted, hsame₁.gs.trans hsame.gs⟩, hmsg₁.trans hmsg⟩
  · obtain ⟨sent, hsent, hheld⟩ := h.sent
    obtain ⟨sent', hsent', hheld'⟩ := h'.sent
    refine ⟨sent ++ sent', ?_, ?_⟩
    · rw [hsent', hsent, List.append_assoc]
    · intro msg hmsg
      rcases List.mem_append.mp hmsg with hmsg | hmsg
      · exact hheld msg hmsg
      · obtain ⟨hash, s₁, hs₁, hown⟩ := hheld' msg hmsg
        obtain ⟨s, hs, -, hsame⟩ := h.entries hash s₁ hs₁
        exact ⟨hash, s, hs, hsame.symm.trans hown⟩

/-- An entry is replaced, by one with the same observations. -/
theorem of_insert {hash : List UInt8} {s : VaaState} (s' : VaaState) {sent : List GossipMessage}
    (hs : p.vaaSignatures.lookup hash = some s) (hsame : SameObservation s s') (hmsg : s'.ourMsg = s.ourMsg)
    (hgs : p'.gs = p.gs) (hobsvC : p'.obsvC = p.obsvC)
    (hentries : p'.vaaSignatures = p.vaaSignatures.insert hash s') (hsendC : p'.sendC = p.sendC ++ sent)
    (hsent : ∀ msg ∈ sent, s.ourMsg = some msg) : Swept p p' := by
  refine ⟨hgs, hobsvC, ?_, sent, hsendC, fun msg hmem => ⟨hash, s, hs, hsent msg hmem⟩⟩
  intro hash' s₁ hs₁
  rw [hentries] at hs₁
  by_cases hhash : hash' = hash
  · subst hhash
    rw [AList.lookup_insert] at hs₁
    rw [← Option.some.inj hs₁]
    exact ⟨s, hs, hsame, hmsg⟩
  · rw [AList.lookup_insert_ne hhash] at hs₁
    exact ⟨s₁, hs₁, ⟨rfl, rfl, rfl, rfl⟩, rfl⟩

/-- An entry is deleted. -/
theorem expire (p : Aggregator) (hash : List UInt8) : Swept p (p.expire hash) := by
  refine ⟨rfl, rfl, ?_, [], (List.append_nil _).symm, nofun⟩
  intro hash' s hs
  by_cases hhash : hash' = hash
  · subst hhash
    exact absurd hs (by rw [Aggregator.expire, AList.lookup_erase]; nofun)
  · rw [Aggregator.expire, AList.lookup_erase_ne hhash] at hs
    exact ⟨s, hs, ⟨rfl, rfl, rfl, rfl⟩, rfl⟩

/-- **A visit of an entry**, in every case. -/
theorem execute {hash : List UInt8} {s : VaaState} {v : Verdict} (hs : p.vaaSignatures.lookup hash = some s)
    (h : Guardian.execute p hash s v = .ok p') : Swept p p' := by
  cases v with
  | keep =>
    rw [← Go.ok.inj h]
    exact refl p
  | expire =>
    rw [← Go.ok.inj h]
    exact expire p hash
  | settle =>
    simp only [Guardian.execute, settle] at h
    split at h
    · cases h
    · rw [← Go.ok.inj h]
      exact of_insert { s with settled := true } hs ⟨rfl, rfl, rfl, rfl⟩ rfl rfl rfl rfl (List.append_nil _).symm
        (by simp)
  | retransmit =>
    simp only [Guardian.execute, retransmit] at h
    split at h
    · rename_i msg hmsg
      rw [← Go.ok.inj h]
      refine of_insert { s with retryCount := s.retryCount + 1 } hs ⟨rfl, rfl, rfl, rfl⟩ rfl rfl rfl rfl rfl ?_
      intro msg' hmem
      rw [List.mem_singleton.mp hmem]
      exact hmsg
    · split at h
      · cases h
      · rw [← Go.ok.inj h]
        exact expire p hash

/-- **A cleanup**, visit by visit. -/
theorem cleanup {order : List (List UInt8)} {now : Int} {fails : List UInt8 → Bool}
    (h : handleCleanup p order now fails = .ok p') : Swept p p' := by
  induction order generalizing p with
  | nil =>
    rw [← Go.ok.inj h]
    exact refl p
  | cons hash order ih =>
    unfold handleCleanup at h
    rw [List.foldlM_cons] at h
    obtain ⟨q, hvisit, hrest⟩ := Go.bind_eq_ok.mp h
    refine trans ?_ (ih hrest)
    split at hvisit
    · rename_i s hs
      rw [cleanupEntry_eq] at hvisit
      exact execute hs hvisit
    · rw [← Go.ok.inj hvisit]
      exact refl p

end Swept

/-! ## Events -/

/-- The node makes an observation of its own and signs it. -/
structure Announces (crypto : Crypto) (p p' : Aggregator) (v : VAA) (obsv : SignedObservation) (now : Int) :
    Prop where
  hash : obsv.Hash = (signingMsg crypto v).val
  gs : p'.gs = p.gs
  vaaSignatures : p'.vaaSignatures = p.vaaSignatures.insert obsv.Hash
    { p.entryOf obsv.Hash now with ourVAA := some v, ourMsg := some (.signedObservation obsv), gs := p.gs }
  sendC : p'.sendC = p.sendC ++ [.signedObservation obsv]
  obsvC : p'.obsvC = p.obsvC ++ [obsv]

/-- **What an event does** to the entries of a node and to what it sends and signs. -/
inductive Handled (crypto : Crypto) (p : Aggregator) : Input → Aggregator → Prop
  | guardianSet (gs : GuardianSet) : Handled crypto p (.guardianSet gs) { p with gs := some gs }
  | swept {input : Input} {p' : Aggregator} (h : Swept p p') : Handled crypto p input p'
  | announced {input : Input} {p' : Aggregator} {v : VAA} {obsv : SignedObservation} {now : Int}
      (observed : Observed [input] v) (h : Announces crypto p p' v obsv now) : Handled crypto p input p'
  | filed {m : SignedObservation} {now : Int} {fails : Bool} {addr : EthAddress}
      (signer : recoverSigner crypto m.Hash m.Signature = some addr) :
      Handled crypto p (.observation m now fails) (p.setEntry m.Hash (p.signedEntry addr m now))
  | submitted {m : SignedObservation} {now : Int} {fails : Bool} {p' : Aggregator} {addr : EthAddress}
      {gs : GuardianSet} {v : VAA} {sigs : List Signature}
      (signer : recoverSigner crypto m.Hash m.Signature = some addr)
      (set : p.guardianSetFor m.Hash = some gs) (own : (p.signedEntry addr m now).ourVAA = some v)
      (fresh : (p.signedEntry addr m now).submitted = false)
      (collected : aggregate (p.signedEntry addr m now).signatures 0 gs.Keys = .ok sigs)
      (quorum : calculateQuorum gs.Keys.length ≤ sigs.length) (obsvC : p'.obsvC = p.obsvC)
      (h : Submits p p' m.Hash (p.signedEntry addr m now) { v with signatures := sigs }) :
      Handled crypto p (.observation m now fails) p'

theorem broadcastSignature_announces {q : Aggregator} (hgs : q.gs = p.gs)
    (hentries : q.vaaSignatures = p.vaaSignatures) (hsendC : q.sendC = p.sendC) (hobsvC : q.obsvC = p.obsvC)
    (v : VAA) (signature txhash : List UInt8) (now : Int) :
    ∃ obsv, Announces crypto p (broadcastSignature crypto gk q v signature txhash now) v obsv now := by
  let obsv : SignedObservation :=
    { Addr := gk.address.val
      Hash := (signingMsg crypto v).val
      Signature := signature
      TxHash := txhash
      MessageId := messageID v }
  refine ⟨obsv, rfl, hgs, ?_, ?_, ?_⟩
  · rw [Aggregator.entryOf, ← hentries, ← hgs]
    rfl
  · rw [← hsendC]
    rfl
  · rw [← hobsvC]
    rfl

/-- An observation is not one of our own. -/
theorem handleObservation_obsvC {m : SignedObservation} {now : Int} {fails : Bool}
    (h : handleObservation crypto p m now fails = .ok p') : p'.obsvC = p.obsvC := by
  unfold handleObservation addSignature submitSigned at h
  split at h
  · rw [← Go.ok.inj h]
  · split at h
    · rw [← Go.ok.inj h]
    · split at h
      · rw [← Go.ok.inj h]
      · split at h
        · rw [← Go.ok.inj h]
        · obtain ⟨sigs, -, h⟩ := Go.bind_eq_ok.mp h
          split at h
          · rw [← Go.ok.inj h]
            rfl
          · split at h
            · dsimp only at h
              split at h
              · cases h
              · rw [← Go.ok.inj h]
                rfl
              · rw [← Go.ok.inj h]
                rfl
            · rw [← Go.ok.inj h]
              rfl

/-- **An event**, in every case. -/
theorem handle_cases (h : handle crypto gk p input = .ok p') : Handled crypto p input p' := by
  cases input with
  | guardianSet gs =>
    rw [← Go.ok.inj h]
    exact .guardianSet gs
  | message k now fails =>
    rcases handleMessage_cases h with rfl | ⟨gs, s, -, rfl⟩
    · exact .swept (.refl p')
    · obtain ⟨obsv, hobsv⟩ := @broadcastSignature_announces crypto gk p
        { p with publications := p.publications ++ [(vaaOfMessage gs k, k.txHash)] } rfl rfl rfl rfl
        (vaaOfMessage gs k) s k.txHash.val now
      exact .announced (.inl ⟨gs, k, now, fails, List.mem_singleton_self _, rfl⟩) hobsv
  | injection v now =>
    simp only [handle, handleInjection] at h
    split at h
    · cases h
    · rename_i s _
      rw [← Go.ok.inj h]
      obtain ⟨obsv, hobsv⟩ := @broadcastSignature_announces crypto gk p p rfl rfl rfl rfl v s.val [] now
      exact .announced (.inr ⟨now, List.mem_singleton_self _⟩) hobsv
  | observation m now fails =>
    have hobsvC := handleObservation_obsvC h
    rcases handleObservation_cases h with rfl | ⟨gs, addr, hsigner, hset, rfl | hsubmits⟩
    · exact .swept (.refl p')
    · exact .filed hsigner
    · obtain ⟨v, sigs, hown, hfresh, hcollected, hquorum, hsubmits⟩ := hsubmits
      exact .submitted hsigner hset hown hfresh hcollected hquorum hobsvC hsubmits
  | inbound m faults =>
    simp only [handle] at h
    split at h
    · cases h
    · rename_i q hq
      rw [← Go.ok.inj h]
      exact .swept (.of_eq (handleInbound_gs hq) rfl rfl rfl)
  | cleanup order now fails => exact .swept (.cleanup h)

/-! ## Signatures -/

/-- The guardian has signed this digest. -/
def HasSigned (p : Aggregator) (hash : List UInt8) : Prop := ∃ obsv ∈ p.obsvC, obsv.Hash = hash

/-- What a guardian has signed stays signed. -/
theorem HasSigned.handle {hash : List UInt8} (h : HasSigned p hash)
    (hhandle : Guardian.handle crypto gk p input = .ok p') : HasSigned p' hash := by
  obtain ⟨obsv, hobsv, hhash⟩ := h
  refine ⟨obsv, ?_, hhash⟩
  cases handle_cases hhandle with
  | guardianSet gs => exact hobsv
  | swept hswept => rwa [hswept.obsvC]
  | announced _ hannounces =>
    rw [hannounces.obsvC]
    exact List.mem_append_left _ hobsv
  | filed _ => exact hobsv
  | submitted _ _ _ _ _ _ hobsvC _ => rwa [hobsvC]

/-- A collected signature was there before, or has just been received. -/
theorem collected_from (hhandle : Guardian.handle crypto gk p input = .ok p') {hash : List UInt8} {s' : VaaState}
    (hs' : p'.vaaSignatures.lookup hash = some s') {addr : EthAddress} {sig : List UInt8}
    (hsig : s'.signatures addr = some sig) :
    (∃ s, p.vaaSignatures.lookup hash = some s ∧ s.signatures addr = some sig) ∨
      ∃ m now fails, input = .observation m now fails ∧ m.Hash = hash ∧
        recoverSigner crypto m.Hash m.Signature = some addr := by
  -- an entry that may have been created just now
  have hentryOf : ∀ hash now, (p.entryOf hash now).signatures addr = some sig →
      ∃ s, p.vaaSignatures.lookup hash = some s ∧ s.signatures addr = some sig := by
    intro hash now hold
    unfold Aggregator.entryOf at hold
    cases hs : p.vaaSignatures.lookup hash with
    | none =>
      rw [hs] at hold
      cases hold
    | some s =>
      rw [hs] at hold
      exact ⟨s, rfl, hold⟩
  have hsignedEntry : ∀ {signer : EthAddress} {m : SignedObservation} {now : Int},
      recoverSigner crypto m.Hash m.Signature = some signer →
      (p.signedEntry signer m now).signatures addr = some sig →
      (∃ s, p.vaaSignatures.lookup m.Hash = some s ∧ s.signatures addr = some sig) ∨
        recoverSigner crypto m.Hash m.Signature = some addr := by
    intro signer m now hsigner hold
    by_cases haddr : addr = signer
    · rw [haddr]
      exact .inr hsigner
    · have hother : (p.signedEntry signer m now).signatures addr = (p.entryOf m.Hash now).signatures addr :=
        Function.update_of_ne haddr _ _
      rw [hother] at hold
      exact .inl (hentryOf m.Hash now hold)
  cases handle_cases hhandle with
  | guardianSet gs => exact .inl ⟨s', hs', hsig⟩
  | swept hswept =>
    obtain ⟨s, hs, hsame, -⟩ := hswept.entries hash s' hs'
    rw [hsame.signatures] at hsig
    exact .inl ⟨s, hs, hsig⟩
  | @announced _ _ v obsv now _ hannounces =>
    rw [hannounces.vaaSignatures] at hs'
    by_cases hhash : hash = obsv.Hash
    · subst hhash
      rw [AList.lookup_insert] at hs'
      rw [← Option.some.inj hs'] at hsig
      exact .inl (hentryOf _ now hsig)
    · rw [AList.lookup_insert_ne hhash] at hs'
      exact .inl ⟨s', hs', hsig⟩
  | @filed m now fails signer hsigner =>
    by_cases hhash : hash = m.Hash
    · subst hhash
      rw [Aggregator.setEntry, AList.lookup_insert] at hs'
      rw [← Option.some.inj hs'] at hsig
      exact (hsignedEntry hsigner hsig).imp_right fun hrecover => ⟨m, now, fails, rfl, rfl, hrecover⟩
    · rw [Aggregator.setEntry, AList.lookup_insert_ne hhash] at hs'
      exact .inl ⟨s', hs', hsig⟩
  | @submitted m now fails _ signer _ _ _ hsigner _ _ _ _ _ _ hsubmits =>
    rw [hsubmits.vaaSignatures] at hs'
    by_cases hhash : hash = m.Hash
    · subst hhash
      rw [AList.lookup_insert] at hs'
      rw [← Option.some.inj hs'] at hsig
      exact (hsignedEntry hsigner hsig).imp_right fun hrecover => ⟨m, now, fails, rfl, rfl, hrecover⟩
    · rw [AList.lookup_insert_ne hhash] at hs'
      exact .inl ⟨s', hs', hsig⟩

end Wormhole.Guardian

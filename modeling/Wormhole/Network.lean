/-
# Wormhole.Network — the guardians together.

The nodes of the guardians run next to each other: at any time one of them handles an event.  Some of the guardians
are `honest`; what the others do is part of what arrives at the nodes, which is anything: observations of anybody, in
any order, any number of times or not at all.  One thing is not done: nobody signs the digest of a VAA in the name of
an honest guardian that has not signed it itself (`Permitted.unforged`).

`broadcast_observed`: whatever a node broadcasts is signed by a quorum of its guardian set, and the honest ones among
the signers have observed it themselves.  `broadcast_agree`: as long as at most a third of the guardians are not
honest, the VAAs that honest nodes broadcast under one guardian set have one body for each message id.
-/
import Mathlib
import Wormhole.Lib.Entries
import Wormhole.Lib.Go
import Wormhole.Lib.Interleaving
import Wormhole.Lib.PrefixCodes
import Wormhole.Lib.Transition
import Wormhole.Guardian.Handled
import Wormhole.Guardian.Codec
import Wormhole.Guardian.SubmittedVaa
import Wormhole.QuorumAgreement

namespace Wormhole.Network

open Wormhole.Lib Wormhole.Lib.Bytes Wormhole.Lib.Transition Wormhole.Lib.Interleaving
open Wormhole.Guardian

/-! ## What holds of every node -/

/-- The digest of a VAA. -/
def IsDigest (crypto : Crypto) (hash : List UInt8) : Prop := ∃ v, hash = (signingMsg crypto v).val

/-- A guardian set of the given table. -/
def InForce (sets : UInt32 → List EthAddress) (gs : GuardianSet) : Prop :=
  gs.Keys = sets gs.Index ∧ gs.Keys.Nodup

/-- An entry: its guardian set is in the table, and what would be sent again is an observation. -/
structure EntryKept (sets : UInt32 → List EthAddress) (s : VaaState) : Prop where
  gs : ∀ gs, s.gs = some gs → InForce sets gs
  ourMsg : ∀ msg, s.ourMsg = some msg → ∃ obsv, msg = .signedObservation obsv

/-- **A node**, with the events that it has handled. -/
structure Kept (crypto : Crypto) (sets : UInt32 → List EthAddress) (log : List Input) (p : Aggregator) : Prop where
  sound : Sound crypto log p
  gs : ∀ gs, p.gs = some gs → InForce sets gs
  entries : Entries (fun _ => EntryKept sets) p.vaaSignatures
  signed : ∀ obsv ∈ p.obsvC, ∃ v, obsv.Hash = (signingMsg crypto v).val ∧ Observed log v

section Kept

variable {crypto : Crypto} {gk : GuardianKey} {sets : UInt32 → List EthAddress} {log : List Input}
  {p p' : Aggregator} {input : Input}

theorem EntryKept.entryOf (h : Entries (fun _ => EntryKept sets) p.vaaSignatures) (hash : List UInt8)
    (now : Int) : EntryKept sets (p.entryOf hash now) := by
  unfold Aggregator.entryOf
  cases hs : p.vaaSignatures.lookup hash with
  | none => exact ⟨nofun, nofun⟩
  | some s => exact h hash s hs

theorem EntryKept.signedEntry (h : Entries (fun _ => EntryKept sets) p.vaaSignatures) (addr : EthAddress)
    (m : SignedObservation) (now : Int) : EntryKept sets (p.signedEntry addr m now) :=
  ⟨(EntryKept.entryOf h m.Hash now).gs, (EntryKept.entryOf h m.Hash now).ourMsg⟩

/-- **One event** keeps the node in order. -/
theorem Kept.handle (h : Kept crypto sets log p) (hadmissible : input.Admissible p) (hindex : input.IndexMatches p)
    (hset : ∀ gs, input = .guardianSet gs → gs.Keys = sets gs.Index)
    (hhandle : Guardian.handle crypto gk p input = .ok p') : Kept crypto sets (log ++ [input]) p' := by
  have hsound := h.sound.handle hadmissible hindex hhandle
  have hsigned : ∀ obsv ∈ p.obsvC, ∃ v, obsv.Hash = (signingMsg crypto v).val ∧ Observed (log ++ [input]) v := by
    intro obsv hobsv
    obtain ⟨v, hhash, hobserved⟩ := h.signed obsv hobsv
    exact ⟨v, hhash, hobserved.mono⟩
  cases handle_cases hhandle with
  | guardianSet gs =>
    refine ⟨hsound, ?_, h.entries, hsigned⟩
    intro gs' hgs'
    obtain rfl := Option.some.inj hgs'
    exact ⟨hset gs rfl, hadmissible.1⟩
  | swept hswept =>
    refine ⟨hsound, ?_, ?_, ?_⟩
    · rw [hswept.gs]
      exact h.gs
    · intro hash s' hs'
      obtain ⟨s, hs, hsame, hmsg⟩ := hswept.entries hash s' hs'
      have hkept := h.entries hash s hs
      refine ⟨?_, ?_⟩
      · rw [hsame.gs]
        exact hkept.gs
      · rw [hmsg]
        exact hkept.ourMsg
    · rw [hswept.obsvC]
      exact hsigned
  | @announced _ _ v obsv now hobserved hannounces =>
    refine ⟨hsound, ?_, ?_, ?_⟩
    · rw [hannounces.gs]
      exact h.gs
    · rw [hannounces.vaaSignatures]
      refine h.entries.insert ⟨h.gs, ?_⟩
      intro msg hmsg
      exact ⟨obsv, (Option.some.inj hmsg).symm⟩
    · intro obsv' hmem
      rw [hannounces.obsvC] at hmem
      rcases List.mem_append.mp hmem with hmem | hmem
      · exact hsigned obsv' hmem
      · rw [List.mem_singleton.mp hmem]
        refine ⟨v, hannounces.hash, ?_⟩
        rcases hobserved with ⟨gs, k, now, fails, hmem, rfl⟩ | ⟨now, hmem⟩
        · exact .inl ⟨gs, k, now, fails, List.mem_append_right _ hmem, rfl⟩
        · exact .inr ⟨now, List.mem_append_right _ hmem⟩
  | filed hsigner => exact ⟨hsound, h.gs, h.entries.insert (EntryKept.signedEntry h.entries _ _ _), hsigned⟩
  | @submitted m now _ _ addr _ _ _ _ _ _ _ _ _ hobsvC hsubmits =>
    refine ⟨hsound, ?_, ?_, ?_⟩
    · rw [hsubmits.gs]
      exact h.gs
    · have hentry := EntryKept.signedEntry h.entries addr m now
      rw [hsubmits.vaaSignatures]
      exact h.entries.insert ⟨hentry.gs, hentry.ourMsg⟩
    · rw [hobsvC]
      exact hsigned

/-- A guardian signs what it has observed. -/
theorem Kept.observed (h : Kept crypto sets log p) {hash : List UInt8} (hsigned : HasSigned p hash) :
    ∃ v, hash = (signingMsg crypto v).val ∧ Observed log v := by
  obtain ⟨obsv, hobsv, rfl⟩ := hsigned
  exact h.signed obsv hobsv

end Kept

/-! ## The guardians -/

/-- The state of every node. -/
abbrev Nodes := EthAddress → Aggregator

/-- What has happened: the events, each at the node of a guardian. -/
abbrev Events := List (EthAddress × Input)

section Guardians

variable (crypto : Crypto) (sign : EthAddress → FixedBytes 32 → Option (FixedBytes 65)) (honest : Finset EthAddress)
  (sets : UInt32 → List EthAddress)

/-- The node of the guardian at `a` handles an event. -/
def nodeStep (a : EthAddress) : Aggregator → Input → Option Aggregator :=
  step crypto { address := a, Sign := sign a }

/-- **What may happen.** A node gets the guardian set of the table, and an operator injects a VAA for the node's
current set.  An observation of the digest of a VAA that verifies as an honest guardian's is of a digest that this
guardian has signed. -/
structure Permitted (s : Nodes × Events) (e : EthAddress × Input) : Prop where
  admissible : e.2.Admissible (s.1 e.1)
  indexMatches : e.2.IndexMatches (s.1 e.1)
  inForce : ∀ gs, e.2 = .guardianSet gs → gs.Keys = sets gs.Index
  unforged : ∀ m now fails, e.2 = .observation m now fails → IsDigest crypto m.Hash →
    ∀ a ∈ honest, recoverSigner crypto m.Hash m.Signature = some a → HasSigned (s.1 a) m.Hash

/-- The nodes after these events, from their start on their stores. -/
def Reaches (db : EthAddress → Database) (net : Nodes) (log : Events) : Prop :=
  Run (recorded (nodeStep crypto sign)) (Permitted crypto honest sets) (fun a => newProcessor (db a), []) (net, log)

end Guardians

variable {crypto : Crypto} {sign : EthAddress → FixedBytes 32 → Option (FixedBytes 65)} {honest : Finset EthAddress}
  {sets : UInt32 → List EthAddress} {db : EthAddress → Database} {net : Nodes} {log : Events}

theorem nodeStep_eq_some {a : EthAddress} {p p' : Aggregator} {input : Input} :
    nodeStep crypto sign a p input = some p' ↔
      handle crypto { address := a, Sign := sign a } p input = .ok p' := step_eq_some

/-- Every node is in order, as it would be without the others. -/
theorem Reaches.kept (h : Reaches crypto sign honest sets db net log) (a : EthAddress) :
    Kept crypto sets (inputsOf a log) (net a) := by
  have hrun : Run (recordedAt (nodeStep crypto sign) a)
      (fun s input => input.Admissible s.1 ∧ input.IndexMatches s.1 ∧
        ∀ gs, input = .guardianSet gs → gs.Keys = sets gs.Index)
      (newProcessor (db a), []) (net a, inputsOf a log) :=
    Run.party (fun s input hok => ⟨hok.admissible, hok.indexMatches, hok.inForce⟩) h
  refine hrun.invariant (I := fun s => Kept crypto sets s.2 s.1) ?_ ?_
  · rintro ⟨p, log⟩ input ⟨p', log'⟩ hkept ⟨hadmissible, hindex, hset⟩ hstep
    obtain ⟨hmove, hlog⟩ := logging_eq_some.mp hstep
    dsimp only at hkept hmove hlog ⊢
    rw [hlog]
    exact hkept.handle hadmissible hindex hset (nodeStep_eq_some.mp hmove)
  · refine ⟨⟨nofun, ?_⟩, nofun, .empty, nofun⟩
    intro hash s hs
    rw [newProcessor, AList.lookup_empty] at hs
    cases hs

/-- A VAA, sent by a node that has observed it itself and signed by guardians of the table, of whom the honest ones
have signed. -/
structure Certified (crypto : Crypto) (honest : Finset EthAddress) (sets : UInt32 → List EthAddress) (net : Nodes)
    (log : List Input) (v : VAA) : Prop where
  sound : ∃ gs own, InForce sets gs ∧ gs.Keys.length ≤ 255 ∧ Observed log own ∧ SoundVAA crypto gs own v
  honest : ∀ sig ∈ v.signatures, ∀ pubKey, crypto.Ecrecover (signingMsg crypto v) sig.signature = some pubKey →
    pubKeyAddress crypto pubKey ∈ honest → HasSigned (net (pubKeyAddress crypto pubKey)) (signingMsg crypto v).val

/-- **What relates the nodes**: a signature of an honest guardian is filed, or broadcast, for a digest that this
guardian has signed. -/
structure Genuine (crypto : Crypto) (honest : Finset EthAddress) (sets : UInt32 → List EthAddress) (s : Nodes × Events) :
    Prop where
  filed : ∀ b hash entry, (s.1 b).vaaSignatures.lookup hash = some entry → IsDigest crypto hash →
    ∀ a ∈ honest, ∀ sig, entry.signatures a = some sig → HasSigned (s.1 a) hash
  sent : ∀ b bytes, .signedVAAWithQuorum bytes ∈ (s.1 b).sendC →
    ∃ v, bytes = marshal v ∧ Certified crypto honest sets s.1 (inputsOf b s.2) v

section Step

variable {s t : Nodes × Events} {b : EthAddress} {input : Input}

/-- The step of a network, at the node that takes it and at the others. -/
theorem recorded_eq_some (h : recorded (nodeStep crypto sign) s (b, input) = some t) :
    handle crypto { address := b, Sign := sign b } (s.1 b) input = .ok (t.1 b) ∧
      (∀ a, a ≠ b → t.1 a = s.1 a) ∧ t.2 = s.2 ++ [(b, input)] := by
  obtain ⟨hstep, hlog⟩ := logging_eq_some.mp h
  obtain ⟨p', hp', ht⟩ := interleave_eq_some.mp hstep
  refine ⟨?_, ?_, hlog⟩
  · rw [ht, Function.update_self]
    exact nodeStep_eq_some.mp hp'
  · intro a ha
    rw [ht]
    exact Function.update_of_ne ha _ _

/-- What a guardian has signed stays signed. -/
theorem hasSigned_step (h : recorded (nodeStep crypto sign) s (b, input) = some t) {a : EthAddress}
    {hash : List UInt8} (hsigned : HasSigned (s.1 a) hash) : HasSigned (t.1 a) hash := by
  obtain ⟨hhandle, hothers, -⟩ := recorded_eq_some h
  by_cases ha : a = b
  · subst ha
    exact hsigned.handle hhandle
  · rwa [hothers a ha]

theorem observed_step (h : recorded (nodeStep crypto sign) s (b, input) = some t) {a : EthAddress} {v : VAA}
    (hobserved : Observed (inputsOf a s.2) v) : Observed (inputsOf a t.2) v := by
  obtain ⟨-, -, hlog⟩ := recorded_eq_some h
  rw [hlog]
  by_cases ha : b = a
  · subst ha
    rw [inputsOf_concat_self]
    exact hobserved.mono
  · rwa [inputsOf_concat_of_ne ha]

theorem Certified.step (h : recorded (nodeStep crypto sign) s (b, input) = some t) {a : EthAddress} {v : VAA}
    (hv : Certified crypto honest sets s.1 (inputsOf a s.2) v) :
    Certified crypto honest sets t.1 (inputsOf a t.2) v := by
  obtain ⟨gs, own, hforce, hkeys, hobserved, hsound⟩ := hv.sound
  refine ⟨⟨gs, own, hforce, hkeys, observed_step h hobserved, hsound⟩, ?_⟩
  intro sig hsig pubKey hrecover hhonest
  exact hasSigned_step h (hv.honest sig hsig pubKey hrecover hhonest)

/-- What a node has sent after an event: what it had sent before, observations, and the VAA it submits. -/
theorem sent_from {p p' : Aggregator} {gk : GuardianKey}
    (hentries : Entries (fun _ => EntryKept sets) p.vaaSignatures) (hhandle : handle crypto gk p input = .ok p')
    {bytes : List UInt8} (hsent : .signedVAAWithQuorum bytes ∈ p'.sendC) :
    .signedVAAWithQuorum bytes ∈ p.sendC ∨ ∃ m now fails addr gs v sigs,
      input = .observation m now fails ∧ recoverSigner crypto m.Hash m.Signature = some addr ∧
      p.guardianSetFor m.Hash = some gs ∧ (p.signedEntry addr m now).ourVAA = some v ∧
      aggregate (p.signedEntry addr m now).signatures 0 gs.Keys = .ok sigs ∧
      calculateQuorum gs.Keys.length ≤ sigs.length ∧
      Submits p p' m.Hash (p.signedEntry addr m now) { v with signatures := sigs } ∧
      bytes = marshal { v with signatures := sigs } := by
  cases handle_cases hhandle with
  | guardianSet gs => exact .inl hsent
  | swept hswept =>
    obtain ⟨sent, hsendC, hheld⟩ := hswept.sent
    rw [hsendC] at hsent
    rcases List.mem_append.mp hsent with hsent | hsent
    · exact .inl hsent
    · obtain ⟨hash, s, hs, hmsg⟩ := hheld _ hsent
      obtain ⟨obsv, hobsv⟩ := (hentries hash s hs).ourMsg _ hmsg
      cases hobsv
  | announced _ hannounces =>
    rw [hannounces.sendC] at hsent
    rcases List.mem_append.mp hsent with hsent | hsent
    · exact .inl hsent
    · cases List.mem_singleton.mp hsent
  | filed _ => exact .inl hsent
  | @submitted m now fails _ addr gs v sigs hsigner hset hown _ hcollected hquorum _ hsubmits =>
    rw [hsubmits.sendC] at hsent
    rcases List.mem_append.mp hsent with hsent | hsent
    · exact .inl hsent
    · obtain rfl := GossipMessage.signedVAAWithQuorum.inj (List.mem_singleton.mp hsent)
      exact .inr ⟨m, now, fails, addr, gs, v, sigs, rfl, hsigner, hset, hown, hcollected, hquorum, hsubmits, rfl⟩

end Step

theorem guardianSetFor_signedEntry {p : Aggregator} {addr : EthAddress} {m : SignedObservation} {now : Int}
    {gs gs' : GuardianSet} (hset : p.guardianSetFor m.Hash = some gs)
    (hstored : (p.signedEntry addr m now).gs = some gs') : gs = gs' := by
  have hentry : (p.entryOf m.Hash now).gs = some gs' := hstored
  unfold Aggregator.entryOf at hentry
  unfold Aggregator.guardianSetFor at hset
  cases hs : p.vaaSignatures.lookup m.Hash with
  | none =>
    rw [hs] at hentry
    cases hentry
  | some s =>
    rw [hs] at hentry hset
    have hgs : s.gs = some gs' := hentry
    dsimp only at hset
    rw [hgs, Option.some_or] at hset
    exact (Option.some.inj hset).symm

/-- A VAA made of an entry, whose honest signers have signed. -/
theorem Kept.certified {p : Aggregator} {events : List Input} (h : Kept crypto sets events p) {addr : EthAddress}
    {m : SignedObservation} {now : Int} {gs : GuardianSet} {v : VAA} {sigs : List Signature}
    (hsigner : recoverSigner crypto m.Hash m.Signature = some addr) (hset : p.guardianSetFor m.Hash = some gs)
    (hown : (p.signedEntry addr m now).ourVAA = some v)
    (hcollected : aggregate (p.signedEntry addr m now).signatures 0 gs.Keys = .ok sigs)
    (hquorum : calculateQuorum gs.Keys.length ≤ sigs.length)
    (hfiled : ∀ a ∈ honest, ∀ sig, (p.signedEntry addr m now).signatures a = some sig → HasSigned (net a) m.Hash) :
    Certified crypto honest sets net events { v with signatures := sigs } := by
  have hentry := h.sound.signedEntry now hsigner
  obtain ⟨hhash, hobserved, gs', hgs', -, hkeys⟩ := hentry.own v hown
  obtain rfl := guardianSetFor_signedEntry hset hgs'
  have hforce : InForce sets gs := (EntryKept.signedEntry h.entries addr m now).gs gs hgs'
  refine ⟨⟨gs, v, hforce, hkeys, hobserved, hentry.soundVAA hown hgs' hcollected hquorum⟩, ?_⟩
  intro sig hsig pubKey hrecover hhonest
  obtain ⟨-, data, hkey, hval⟩ := aggregate_mem hcollected (by omega) sig hsig
  obtain ⟨a, -, hdata⟩ := Option.bind_eq_some_iff.mp hkey
  obtain ⟨hh, hlength, pubKey', hrecover', rfl⟩ := recoverSigner_eq_some (hentry.signed a data hdata)
  -- the signature in the VAA is the one that was filed
  have hsignature : sig.signature = ⟨data, hlength⟩ := by
    apply Subtype.ext
    rw [hval, List.take_of_length_le hlength.le]
  have hmsg : signingMsg crypto { v with signatures := sigs } = ⟨m.Hash, hh⟩ := Subtype.ext hhash.symm
  rw [hmsg, hsignature, hrecover'] at hrecover
  obtain rfl := Option.some.inj hrecover
  rw [hmsg]
  exact hfiled _ hhonest data hdata

/-- **One event** in the network. -/
theorem Genuine.step {s t : Nodes × Events} {e : EthAddress × Input} (h : Genuine crypto honest sets s)
    (hkept : ∀ a, Kept crypto sets (inputsOf a s.2) (s.1 a)) (hok : Permitted crypto honest sets s e)
    (hstep : recorded (nodeStep crypto sign) s e = some t) : Genuine crypto honest sets t := by
  obtain ⟨b, input⟩ := e
  obtain ⟨hhandle, hothers, hlog⟩ := recorded_eq_some hstep
  have hfiled : ∀ a hash entry, (t.1 a).vaaSignatures.lookup hash = some entry → IsDigest crypto hash →
      ∀ a' ∈ honest, ∀ sig, entry.signatures a' = some sig → HasSigned (t.1 a') hash := by
    intro a hash entry hentry hdigest a' ha' sig hsig
    by_cases ha : a = b
    · subst ha
      rcases collected_from hhandle hentry hsig with ⟨old, hold, hsig⟩ | ⟨m, now, fails, rfl, rfl, hsigner⟩
      · exact hasSigned_step hstep (h.filed a hash old hold hdigest a' ha' sig hsig)
      · exact hasSigned_step hstep (hok.unforged m now fails rfl hdigest a' ha' hsigner)
    · rw [hothers a ha] at hentry
      exact hasSigned_step hstep (h.filed a hash entry hentry hdigest a' ha' sig hsig)
  refine ⟨hfiled, ?_⟩
  intro a bytes hsent
  have hbefore : .signedVAAWithQuorum bytes ∈ (s.1 a).sendC →
      ∃ v, bytes = marshal v ∧ Certified crypto honest sets t.1 (inputsOf a t.2) v := by
    intro hsent
    obtain ⟨v, hbytes, hv⟩ := h.sent a bytes hsent
    exact ⟨v, hbytes, hv.step hstep⟩
  by_cases ha : a = b
  · subst ha
    rcases sent_from (hkept a).entries hhandle hsent with
      hold | ⟨m, now, fails, addr, gs, v, sigs, -, hsigner, hset, hown, hcollected, hquorum, hsubmits, hbytes⟩
    · exact hbefore hold
    · have hentry := (hkept a).sound.signedEntry now hsigner
      have hnew : (t.1 a).vaaSignatures.lookup m.Hash =
          some { (s.1 a).signedEntry addr m now with submitted := true } := by
        rw [hsubmits.vaaSignatures, AList.lookup_insert]
      have hsigned : ∀ a' ∈ honest, ∀ sig, ((s.1 a).signedEntry addr m now).signatures a' = some sig →
          HasSigned (t.1 a') m.Hash :=
        hfiled a m.Hash { (s.1 a).signedEntry addr m now with submitted := true } hnew ⟨v, (hentry.own v hown).1⟩
      have hv : Certified crypto honest sets t.1 (inputsOf a s.2) { v with signatures := sigs } :=
        (hkept a).certified hsigner hset hown hcollected hquorum hsigned
      obtain ⟨gs', own, hforce, hkeys, hobserved, hsound⟩ := hv.sound
      exact ⟨_, hbytes, ⟨gs', own, hforce, hkeys, observed_step hstep hobserved, hsound⟩, hv.honest⟩
  · rw [hothers a ha] at hsent
    exact hbefore hsent

theorem Reaches.genuine (h : Reaches crypto sign honest sets db net log) :
    Genuine crypto honest sets (net, log) := by
  refine Run.invariant_of_reached (I := Genuine crypto honest sets) ?_ h ⟨?_, nofun⟩
  · rintro ⟨net, log⟩ e t hreached hgenuine hok hstep
    exact hgenuine.step (Reaches.kept hreached) hok hstep
  · intro b hash entry hentry
    have hempty : (newProcessor (db b)).vaaSignatures.lookup hash = none := AList.lookup_empty _
    exact absurd (hempty.symm.trans hentry) nofun

/-! ## Who has signed -/

section Signers

variable {gs : GuardianSet} {own v : VAA}

/-- The guardians at the indices of the signatures. -/
def signers (keys : List EthAddress) (v : VAA) : Finset EthAddress :=
  (v.signatures.filterMap fun sig => keys[sig.index.toNat]?).toFinset

theorem mem_signers {keys : List EthAddress} {a : EthAddress} :
    a ∈ signers keys v ↔ ∃ sig ∈ v.signatures, keys[sig.index.toNat]? = some a := by
  rw [signers, List.mem_toFinset, List.mem_filterMap]

theorem signers_subset (keys : List EthAddress) (v : VAA) : signers keys v ⊆ keys.toFinset := by
  intro a ha
  obtain ⟨sig, -, hkey⟩ := mem_signers.mp ha
  exact List.mem_toFinset.mpr (List.mem_of_getElem? hkey)

/-- Every signature of a sound VAA is one more guardian's. -/
theorem card_signers (hnodup : gs.Keys.Nodup) (h : SoundVAA crypto gs own v) :
    (signers gs.Keys v).card = v.signatures.length := by
  have hlength : (v.signatures.filterMap fun sig => gs.Keys[sig.index.toNat]?).length = v.signatures.length := by
    refine List.filterMap_length_eq_length.mpr ?_
    intro sig hsig
    obtain ⟨hlt, -⟩ := h.recovers sig hsig
    rw [List.getElem?_eq_getElem hlt]
    rfl
  rw [signers, List.toFinset_card_of_nodup ?_, hlength]
  refine h.ascending.filterMap _ ?_
  intro sig sig' hindex a ha a' ha'
  rintro rfl
  have hsame : sig.index.toNat = sig'.index.toNat := by
    obtain ⟨hlt, hget⟩ := List.getElem?_eq_some_iff.mp ha
    obtain ⟨hlt', hget'⟩ := List.getElem?_eq_some_iff.mp ha'
    exact (List.getElem_inj hnodup).mp (hget.trans hget'.symm)
  exact absurd hindex (by rw [UInt8.lt_iff_toNat_lt, hsame]; exact lt_irrefl _)

end Signers

/-! ## What is broadcast -/

/-- **A VAA with guardians behind it**: it is the observation of the node that sends it, signed at ascending indices
by a quorum of the guardian set that it names, and the honest ones of the signers have observed it. -/
structure Backed (crypto : Crypto) (honest : Finset EthAddress) (sets : UInt32 → List EthAddress) (log : Events)
    (sender : EthAddress) (v : VAA) : Prop where
  own : ∃ own, Observed (inputsOf sender log) own ∧ v = { own with signatures := v.signatures }
  guardians : (sets v.guardianSetIndex).Nodup ∧ (sets v.guardianSetIndex).length ≤ 255
  ascending : v.signatures.Pairwise fun a b => a.index < b.index
  recovers : ∀ sig ∈ v.signatures, ∃ pubKey, crypto.Ecrecover (signingMsg crypto v) sig.signature = some pubKey ∧
    (sets v.guardianSetIndex)[sig.index.toNat]? = some (pubKeyAddress crypto pubKey)
  signed : (signers (sets v.guardianSetIndex) v).card = v.signatures.length
  quorum : calculateQuorum (sets v.guardianSetIndex).length ≤ v.signatures.length
  observed : ∀ a ∈ signers (sets v.guardianSetIndex) v, a ∈ honest →
    ∃ w, Observed (inputsOf a log) w ∧ signingMsg crypto w = signingMsg crypto v

theorem Certified.backed {sender : EthAddress} {v : VAA} (hkept : ∀ a, Kept crypto sets (inputsOf a log) (net a))
    (h : Certified crypto honest sets net (inputsOf sender log) v) : Backed crypto honest sets log sender v := by
  obtain ⟨gs, own, ⟨hkeys, hnodup⟩, hlength, hobserved, hsound⟩ := h.sound
  have hset : sets v.guardianSetIndex = gs.Keys := by rw [hsound.guardianSetIndex, hkeys]
  have hrecovers : ∀ sig ∈ v.signatures, ∃ pubKey,
      crypto.Ecrecover (signingMsg crypto v) sig.signature = some pubKey ∧
      gs.Keys[sig.index.toNat]? = some (pubKeyAddress crypto pubKey) := by
    intro sig hsig
    obtain ⟨hlt, pubKey, hrecover, haddr⟩ := hsound.recovers sig hsig
    exact ⟨pubKey, hrecover, by rw [List.getElem?_eq_getElem hlt, haddr]⟩
  refine ⟨⟨own, hobserved, hsound.body⟩, ?_, hsound.ascending, ?_, ?_, ?_, ?_⟩
  · rw [hset]
    exact ⟨hnodup, hlength⟩
  · rw [hset]
    exact hrecovers
  · rw [hset]
    exact card_signers hnodup hsound
  · rw [hset]
    exact hsound.quorum
  · intro a ha hhonest
    rw [hset] at ha
    obtain ⟨sig, hsig, hkey⟩ := mem_signers.mp ha
    obtain ⟨pubKey, hrecover, hkey'⟩ := hrecovers sig hsig
    obtain rfl : a = pubKeyAddress crypto pubKey := Option.some.inj (hkey.symm.trans hkey')
    obtain ⟨w, hdigest, hw⟩ := (hkept _).observed (h.honest sig hsig pubKey hrecover hhonest)
    exact ⟨w, hw, Subtype.ext hdigest.symm⟩

theorem Reaches.backed (h : Reaches crypto sign honest sets db net log) {b : EthAddress} {bytes : List UInt8}
    (hsent : .signedVAAWithQuorum bytes ∈ (net b).sendC) :
    ∃ v, bytes = marshal v ∧ Backed crypto honest sets log b v := by
  obtain ⟨v, hbytes, hv⟩ := h.genuine.sent b bytes hsent
  exact ⟨v, hbytes, hv.backed h.kept⟩

/-- **What a node broadcasts has been observed.**  In every run of the network, with whatever arrives at the nodes: a
VAA that a node broadcasts is an observation of its own, signed by different guardians of the set that it names, a
quorum of them, at ascending indices; the honest ones among the signers have observed it at their own nodes, and they
are a quorum but for the guardians of the set that are not honest. -/
theorem broadcast_observed (h : Reaches crypto sign honest sets db net log) {b : EthAddress} {bytes : List UInt8}
    (hsent : .signedVAAWithQuorum bytes ∈ (net b).sendC) :
    ∃ v, bytes = marshal v ∧ Backed crypto honest sets log b v ∧
      calculateQuorum (sets v.guardianSetIndex).length ≤
        (signers (sets v.guardianSetIndex) v ∩ honest).card + ((sets v.guardianSetIndex).toFinset \ honest).card := by
  obtain ⟨v, hbytes, hv⟩ := h.backed hsent
  refine ⟨v, hbytes, hv, ?_⟩
  have hsub := signers_subset (sets v.guardianSetIndex) v
  calc calculateQuorum (sets v.guardianSetIndex).length
      ≤ (signers (sets v.guardianSetIndex) v).card := by
        rw [hv.signed]
        exact hv.quorum
    _ = (signers (sets v.guardianSetIndex) v ∩ honest).card +
        (signers (sets v.guardianSetIndex) v \ honest).card := (Finset.card_inter_add_card_sdiff _ _).symm
    _ ≤ _ := Nat.add_le_add_left (Finset.card_le_card (Finset.sdiff_subset_sdiff hsub subset_rfl)) _

/-! ## Agreement -/

/-- The fields that a body is made of can be read off it. -/
theorem vaaIDFromVAA_of_body {v v' : VAA} (h : serializeBody v = serializeBody v') :
    vaaIDFromVAA v = vaaIDFromVAA v' := by
  have hchain := body_emitterChain v
  have haddress := body_emitterAddress v
  have hsequence := body_sequence v
  rw [h] at hchain haddress hsequence
  have hchain' := Option.some.inj (hchain.symm.trans (body_emitterChain v'))
  have haddress' := Option.some.inj (haddress.symm.trans (body_emitterAddress v'))
  have hsequence' := Option.some.inj (hsequence.symm.trans (body_sequence v'))
  rw [vaaIDFromVAA, vaaIDFromVAA, Subtype.ext haddress',
    UInt16.toNat.inj (beBytes_injective (toNat_lt_uint16 _) (toNat_lt_uint16 _) hchain'),
    UInt64.toNat.inj (beBytes_injective (toNat_lt_uint64 _) (toNat_lt_uint64 _) hsequence')]

theorem signature_bytes_injective : Function.Injective Guardian.Signature.bytes := by
  intro sig sig' h
  obtain ⟨hindex, hdata⟩ := List.cons.inj h
  cases sig
  cases sig'
  congr
  exact Subtype.ext hdata

/-- The index, the signatures and the body can be read off an encoding. -/
theorem marshal_inj {v v' : VAA} (hcount : v.signatures.length ≤ 255) (hcount' : v'.signatures.length ≤ 255)
    (h : marshal v = marshal v') :
    v.guardianSetIndex = v'.guardianSetIndex ∧ v.signatures = v'.signatures ∧ serializeBody v = serializeBody v' := by
  have hbody : serializeBody v = serializeBody v' := by rw [← bodyOf_marshal hcount, h, bodyOf_marshal hcount']
  obtain ⟨-, htail⟩ := List.cons.inj h
  obtain ⟨hindex, hrest⟩ := List.append_inj htail (by rw [beBytes_length, beBytes_length])
  obtain ⟨-, hsigs⟩ := List.cons.inj hrest
  rw [hbody] at hsigs
  exact ⟨UInt32.toNat.inj (beBytes_injective (toNat_lt_uint32 _) (toNat_lt_uint32 _) hindex),
    flatMap_injective_of_length signature_bytes_injective Guardian.Signature.bytes_length (by decide)
      (List.append_cancel_right hsigs), hbody⟩

/-- No more signatures than guardians. -/
theorem Backed.length_le {sender : EthAddress} {v : VAA} (h : Backed crypto honest sets log sender v) :
    v.signatures.length ≤ 255 := by
  rw [← h.signed]
  refine (Finset.card_le_card (signers_subset _ v)).trans ?_
  rw [List.toFinset_card_of_nodup h.guardians.1]
  exact h.guardians.2

/-- Two VAAs under one guardian set have an honest signer in common, unless more than a third of the guardians are not
honest. -/
theorem Backed.common_signer {b b' : EthAddress} {v v' : VAA} (h : Backed crypto honest sets log b v)
    (h' : Backed crypto honest sets log b' v') (hindex : v'.guardianSetIndex = v.guardianSetIndex)
    (hdishonest : 3 * ((sets v.guardianSetIndex).toFinset \ honest).card ≤ (sets v.guardianSetIndex).length) :
    ∃ a ∈ honest, a ∈ signers (sets v.guardianSetIndex) v ∧ a ∈ signers (sets v.guardianSetIndex) v' := by
  have hcard := List.toFinset_card_of_nodup h.guardians.1
  have hsigned' := h'.signed
  have hquorum' := h'.quorum
  rw [hindex] at hsigned' hquorum'
  by_contra hnone
  -- the common signers are all dishonest, and too many
  have hsub : signers (sets v.guardianSetIndex) v ∩ signers (sets v.guardianSetIndex) v' ⊆
      (sets v.guardianSetIndex).toFinset \ honest := by
    intro a ha
    obtain ⟨hmem, hmem'⟩ := Finset.mem_inter.mp ha
    refine Finset.mem_sdiff.mpr ⟨signers_subset _ v hmem, ?_⟩
    intro hhonest
    exact hnone ⟨a, hhonest, hmem, hmem'⟩
  have hcommon := QuorumAgreement.card_lt_three_mul_inter
    (signers_subset (sets v.guardianSetIndex) v) (signers_subset (sets v.guardianSetIndex) v')
    (by rw [hcard, h.signed, ← QuorumAgreement.calculateQuorum_eq]; exact h.quorum)
    (by rw [hcard, hsigned', ← QuorumAgreement.calculateQuorum_eq]; exact hquorum')
  rw [hcard] at hcommon
  have hle := Finset.card_le_card hsub
  omega

/-- What the honest guardians observe is unambiguous: none of them observes two bodies with one message id, and no two
bodies that they observe have one digest. -/
structure Unambiguous (crypto : Crypto) (honest : Finset EthAddress) (log : Events) : Prop where
  bodies : ∀ a ∈ honest, ∀ w w', Observed (inputsOf a log) w → Observed (inputsOf a log) w' →
    vaaIDFromVAA w = vaaIDFromVAA w' → serializeBody w = serializeBody w'
  digests : ∀ a ∈ honest, ∀ a' ∈ honest, ∀ w w', Observed (inputsOf a log) w → Observed (inputsOf a' log) w' →
    signingMsg crypto w = signingMsg crypto w' → serializeBody w = serializeBody w'

/-- A VAA that an honest node broadcasts has the body that its honest signers have observed. -/
theorem Backed.body_observed {b a : EthAddress} {v : VAA} (h : Backed crypto honest sets log b v)
    (hlog : Unambiguous crypto honest log) (hb : b ∈ honest) (ha : a ∈ honest)
    (hsigned : a ∈ signers (sets v.guardianSetIndex) v) :
    ∃ w, Observed (inputsOf a log) w ∧ serializeBody w = serializeBody v := by
  obtain ⟨w, hw, hdigest⟩ := h.observed a hsigned ha
  obtain ⟨own, hown, hv⟩ := h.own
  have hbody : serializeBody own = serializeBody v := by
    rw [hv]
    rfl
  have hmsg : signingMsg crypto own = signingMsg crypto v := by
    rw [hv]
    rfl
  refine ⟨w, hw, ?_⟩
  rw [← hbody]
  exact hlog.digests a ha b hb w own hw hown (hdigest.trans hmsg.symm)

/-- **Agreement.**  In every run of the network in which at most a third of the guardians of a set are not honest and
the honest ones observe nothing ambiguous: the VAAs that any two honest nodes broadcast under this set for one message
id have the same body. -/
theorem broadcast_agree (h : Reaches crypto sign honest sets db net log) (hlog : Unambiguous crypto honest log)
    {b b' : EthAddress} (hb : b ∈ honest) (hb' : b' ∈ honest) {v v' : VAA}
    (hdishonest : 3 * ((sets v.guardianSetIndex).toFinset \ honest).card ≤ (sets v.guardianSetIndex).length)
    (hcount : v.signatures.length ≤ 255) (hcount' : v'.signatures.length ≤ 255)
    (hsent : .signedVAAWithQuorum (marshal v) ∈ (net b).sendC)
    (hsent' : .signedVAAWithQuorum (marshal v') ∈ (net b').sendC)
    (hindex : v'.guardianSetIndex = v.guardianSetIndex) (hid : vaaIDFromVAA v = vaaIDFromVAA v') :
    serializeBody v = serializeBody v' := by
  obtain ⟨u, hu, hbacked⟩ := h.backed hsent
  obtain ⟨u', hu', hbacked'⟩ := h.backed hsent'
  obtain ⟨huindex, -, hubody⟩ := marshal_inj hcount hbacked.length_le hu
  obtain ⟨huindex', -, hubody'⟩ := marshal_inj hcount' hbacked'.length_le hu'
  rw [huindex] at hdishonest
  have hsame : u'.guardianSetIndex = u.guardianSetIndex := by rw [← huindex', hindex, huindex]
  obtain ⟨a, ha, hsigned, hsigned'⟩ := hbacked.common_signer hbacked' hsame hdishonest
  rw [← hsame] at hsigned'
  -- the common signer has observed both bodies
  obtain ⟨w, hw, hwbody⟩ := hbacked.body_observed hlog hb ha hsigned
  obtain ⟨w', hw', hwbody'⟩ := hbacked'.body_observed hlog hb' ha hsigned'
  rw [← hubody] at hwbody
  rw [← hubody'] at hwbody'
  have hwid : vaaIDFromVAA w = vaaIDFromVAA w' := by
    rw [vaaIDFromVAA_of_body hwbody, hid, vaaIDFromVAA_of_body hwbody']
  calc serializeBody v = serializeBody w := hwbody.symm
    _ = serializeBody w' := hlog.bodies a ha w w' hw hw' hwid
    _ = serializeBody v' := hwbody'

/-! ## Four guardians -/

section Four

theorem guardian_length (i : UInt8) : (List.replicate 20 i).length = 20 := List.length_replicate

/-- The guardian `i` of four. -/
def guardian (i : UInt8) : EthAddress := ⟨List.replicate 20 i, guardian_length i⟩

def fourGuardians : GuardianSet where
  Keys := [0, 1, 2, 3].map guardian
  Index := 4

/-- All but the guardian 0. -/
def threeHonest : Finset EthAddress := ([1, 2, 3].map guardian).toFinset

/-- A stand-in for the signatures of guardian `i`, to run the nodes: it says whose it is. -/
def signatureOf (i : UInt8) : FixedBytes 65 := ⟨List.replicate 64 i ++ [0], by simp⟩

def sampleSign (a : EthAddress) : FixedBytes 32 → Option (FixedBytes 65) :=
  fun _ => some (signatureOf (a.val.headD 0))

/-- What the guardian `i` sends about the message. -/
def sampleObservation (i : UInt8) : SignedObservation where
  Addr := List.replicate 20 i
  Hash := sampleDigest
  Signature := (signatureOf i).val
  TxHash := []
  MessageId := ""

/-- The guardians 1, 2 and 3 observe the message.  The guardian 0 signs it all the same; the first node has the quorum
with it, the second without. -/
def sampleEvents : Events :=
  [(1, .guardianSet fourGuardians), (2, .guardianSet fourGuardians), (3, .guardianSet fourGuardians),
    (1, .message sampleMessage 0 false), (2, .message sampleMessage 0 false), (3, .message sampleMessage 0 false),
    (1, .observation (sampleObservation 0) 1 false), (1, .observation (sampleObservation 1) 1 false),
    (2, .observation (sampleObservation 3) 1 false), (2, .observation (sampleObservation 2) 1 false),
    (2, .observation (sampleObservation 1) 1 false), (1, .observation (sampleObservation 2) 1 false)].map
    fun e => (guardian e.1, e.2)

/-- The VAA of the message, with the signatures of these guardians. -/
def sampleVAA (indices : List UInt8) : VAA :=
  { vaaOfMessage fourGuardians sampleMessage with
    signatures := indices.map fun i => { index := i, signature := signatureOf i } }

/-- The signer of an observation, if it is honest, has signed. -/
def Signed (s : Nodes × Events) (m : SignedObservation) : Prop :=
  ∀ a ∈ recoverSigner Crypto.sample m.Hash m.Signature, a ∈ threeHonest → ∃ obsv ∈ (s.1 a).obsvC, obsv.Hash = m.Hash

/-- An event may happen, checked on the states of the nodes. -/
def Plausible (s : Nodes × Events) : EthAddress × Input → Prop
  | (_, .guardianSet gs) => gs.Keys = fourGuardians.Keys
  | (_, .message _ _ _) => True
  | (_, .observation m _ _) => Signed s m
  | _ => False

instance (s : Nodes × Events) (m : SignedObservation) : Decidable (Signed s m) :=
  inferInstanceAs (Decidable (∀ a ∈ recoverSigner Crypto.sample m.Hash m.Signature, _ → _))

instance (s : Nodes × Events) : ∀ e, Decidable (Plausible s e)
  | (_, .guardianSet gs) => inferInstanceAs (Decidable (gs.Keys = fourGuardians.Keys))
  | (_, .message _ _ _) => isTrue trivial
  | (_, .observation m _ _) => inferInstanceAs (Decidable (Signed s m))
  | (_, .injection _ _) => isFalse id
  | (_, .inbound _ _) => isFalse id
  | (_, .cleanup _ _ _) => isFalse id

theorem Plausible.permitted {s : Nodes × Events} {e : EthAddress × Input} (h : Plausible s e) :
    Permitted Crypto.sample threeHonest (fun _ => fourGuardians.Keys) s e := by
  obtain ⟨b, input⟩ := e
  cases input with
  | guardianSet gs =>
    have hkeys : gs.Keys = fourGuardians.Keys := h
    refine ⟨?_, trivial, ?_, nofun⟩
    · show gs.Keys.Nodup ∧ gs.Keys.length ≤ 255
      rw [hkeys]
      decide
    · rintro gs' ⟨⟩
      exact hkeys
  | message k now fails => exact ⟨trivial, trivial, nofun, nofun⟩
  | observation m now fails =>
    refine ⟨trivial, trivial, nofun, ?_⟩
    rintro m' now' fails' ⟨⟩ - a ha hsigner
    exact h a hsigner ha
  | injection | inbound | cleanup => exact h.elim

/-- The nodes at their start, with empty stores. -/
def sampleStart : Nodes × Events := (fun _ => newProcessor fun _ => none, [])

/-- What the two nodes have sent. -/
def sampleSent (s : Nodes × Events) : Bool :=
  .signedVAAWithQuorum (marshal (sampleVAA [0, 1, 2])) ∈ (s.1 (guardian 1)).sendC ∧
    .signedVAAWithQuorum (marshal (sampleVAA [1, 2, 3])) ∈ (s.1 (guardian 2)).sendC

theorem sampleEvents_evaluated :
    Along (recorded (nodeStep Crypto.sample sampleSign)) Plausible sampleStart sampleEvents ∧
    (sampleEvents.foldlM (recorded (nodeStep Crypto.sample sampleSign)) sampleStart).any sampleSent = true := by
  decide +kernel

theorem sampleNetwork_run : ∃ net, Reaches Crypto.sample sampleSign threeHonest (fun _ => fourGuardians.Keys)
    (fun _ _ => none) net sampleEvents ∧
    .signedVAAWithQuorum (marshal (sampleVAA [0, 1, 2])) ∈ (net (guardian 1)).sendC ∧
    .signedVAAWithQuorum (marshal (sampleVAA [1, 2, 3])) ∈ (net (guardian 2)).sendC := by
  obtain ⟨halong, hsent⟩ := sampleEvents_evaluated
  obtain ⟨⟨net, log⟩, hrun, hsent⟩ := (Option.any_eq_true _ _).mp hsent
  obtain rfl : log = sampleEvents := recorded_foldlM_log hrun
  rw [← List.append_nil sampleEvents] at halong
  have hpermitted := (halong.run (p := fun _ => True) (fun _ _ => trivial) hrun).mono fun s e h => h.1.permitted
  exact ⟨net, hpermitted, of_decide_eq_true hsent⟩

/-- Everybody observes the one message. -/
theorem sampleEvents_observed {a : EthAddress} {w : VAA} (h : Observed (inputsOf a sampleEvents) w) :
    ∃ gs, w = vaaOfMessage gs sampleMessage := by
  rcases h with ⟨gs, k, now, fails, hmem, rfl⟩ | ⟨now, hmem⟩
  · have hk : k = sampleMessage := by
      have hevent := mem_inputsOf.mp hmem
      simp only [sampleEvents, List.map_cons, List.map_nil, List.mem_cons, Prod.mk.injEq, Input.message.injEq,
        reduceCtorEq, and_false, false_or, or_false, List.not_mem_nil] at hevent
      rcases hevent with ⟨-, hk, -⟩ | ⟨-, hk, -⟩ | ⟨-, hk, -⟩ <;> exact hk
    exact ⟨gs, by rw [hk]⟩
  · have hevent := mem_inputsOf.mp hmem
    simp [sampleEvents] at hevent

theorem sampleEvents_unambiguous : Unambiguous Crypto.sample threeHonest sampleEvents := by
  refine ⟨?_, ?_⟩
  · intro a _ w w' hw hw' _
    obtain ⟨gs, rfl⟩ := sampleEvents_observed hw
    obtain ⟨gs', rfl⟩ := sampleEvents_observed hw'
    rfl
  · intro a _ a' _ w w' hw hw' _
    obtain ⟨gs, rfl⟩ := sampleEvents_observed hw
    obtain ⟨gs', rfl⟩ := sampleEvents_observed hw'
    rfl

/-- The first node has broadcast the message with a quorum, of whom two are honest. -/
theorem sample_observed : ∃ net v, Reaches Crypto.sample sampleSign threeHonest (fun _ => fourGuardians.Keys)
    (fun _ _ => none) net sampleEvents ∧ marshal (sampleVAA [0, 1, 2]) = marshal v ∧
    Backed Crypto.sample threeHonest (fun _ => fourGuardians.Keys) sampleEvents (guardian 1) v := by
  obtain ⟨net, hrun, hsent, -⟩ := sampleNetwork_run
  obtain ⟨v, hv, hbacked, -⟩ := broadcast_observed hrun hsent
  exact ⟨net, v, hrun, hv, hbacked⟩

/-- Two nodes with different quorums have broadcast the same body. -/
theorem sample_agree : ∃ net, Reaches Crypto.sample sampleSign threeHonest (fun _ => fourGuardians.Keys)
    (fun _ _ => none) net sampleEvents ∧
    .signedVAAWithQuorum (marshal (sampleVAA [0, 1, 2])) ∈ (net (guardian 1)).sendC ∧
    .signedVAAWithQuorum (marshal (sampleVAA [1, 2, 3])) ∈ (net (guardian 2)).sendC ∧
    serializeBody (sampleVAA [0, 1, 2]) = serializeBody (sampleVAA [1, 2, 3]) := by
  obtain ⟨net, hrun, hsent, hsent'⟩ := sampleNetwork_run
  exact ⟨net, hrun, hsent, hsent', broadcast_agree hrun sampleEvents_unambiguous (by decide) (by decide) (by decide)
    (by decide) (by decide) hsent hsent' rfl rfl⟩

end Four

end Wormhole.Network

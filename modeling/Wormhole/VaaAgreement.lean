/-
# Wormhole.VaaAgreement — what the guardian node encodes and what the contracts parse.

The node (`Guardian.marshal`) and the EVM contract (`Ethereum.parseVM`) delimit the signatures of a
VAA by the count byte.  The Alephium contract tries the guardian indices 0 … 18 in turn and takes an
entry whenever the next byte matches; behind the last signature the next byte is the high byte of the
timestamp, so a timestamp whose high byte is a guardian index after the last signer is taken for one
more signature.  `marshal_parse_iff` says that this is the only disagreement.
-/
import Mathlib
import Wormhole.Lib.Bytes
import Wormhole.Lib.Failing
import Wormhole.Alephium.GuardianQuorum
import Wormhole.Ethereum.Messages
import Wormhole.Guardian.Vaa

namespace Wormhole.VaaAgreement

open Wormhole.Lib.Bytes Wormhole.Alephium.Vm Wormhole.Alephium.Governance
open Wormhole.Guardian (VAA marshal serializeBody SupportedVAAVersion)

/-! ## Scanning what the node writes -/

/-- Entries in front of other bytes are taken, and the scan goes on with the larger indices. -/
theorem scan_entries {is : List (Fin 19)} {es : List Entry} (hasc : is.Pairwise (· < ·))
    (hsub : (es.map Prod.fst).Sublist is) (hlength : ∀ e ∈ es, e.2.length = 65) (bs : ByteVec) :
    scan is (es.flatMap entryBytes ++ bs) =
      (scan (is.filter fun i => ∀ e ∈ es, e.1 < i) bs).map fun (es', rest) => (es ++ es', rest) := by
  induction is generalizing es with
  | nil =>
    obtain rfl : es = [] := by simpa using hsub
    simp [scan]
  | cons i is ih =>
    obtain ⟨hi, hasc'⟩ := List.pairwise_cons.mp hasc
    cases es with
    | nil => simp
    | cons e es =>
      have hmem : ∀ e' ∈ es, e'.1 ∈ is := fun e' he' => by
        rcases List.cons_sublist_cons'.mp hsub with hrest | ⟨-, hrest⟩
        · exact hrest.subset (by simp [List.mem_map_of_mem he'])
        · exact hrest.subset (List.mem_map_of_mem he')
      obtain ⟨hlen, hlen'⟩ := List.forall_mem_cons.mp hlength
      have hlen65 : 65 ≤ (e.2 ++ (es.flatMap entryBytes ++ bs)).length := by
        rw [List.length_append, hlen]
        omega
      rw [List.flatMap_cons, List.append_assoc, entryBytes, List.cons_append, scan,
        entryBytes_toNat]
      by_cases heq : i = e.1
      · -- the entry of index `i`; the later entries have larger indices
        subst heq
        have hrest : (es.map Prod.fst).Sublist is := by
          simpa using hsub
        have hfilter : (e.1 :: is).filter (fun i => ∀ e' ∈ e :: es, e'.1 < i) =
            is.filter fun i => ∀ e' ∈ es, e'.1 < i := by
          rw [List.filter_cons_of_neg (by simp)]
          refine List.filter_congr fun i' hi' => ?_
          simp [hi i' hi']
        rw [if_pos rfl, if_pos hlen65, List.drop_left' hlen, List.take_left' hlen,
          ih hasc' hrest hlen', hfilter, Option.map_map]
        rfl
      · -- `i` is smaller than every index still to come
        have hsub' : ((e :: es).map Prod.fst).Sublist is := by
          rcases List.cons_sublist_cons'.mp hsub with hrest | ⟨hhead, -⟩
          · exact hrest
          · exact absurd hhead.symm heq
        have hlt : i < e.1 := hi e.1 (hsub'.subset (by simp))
        rw [if_neg fun h => heq (Fin.ext h), List.filter_cons_of_neg (by simp [hlt.le])]
        have hih := ih hasc' hsub' hlength
        rw [List.flatMap_cons, List.append_assoc, entryBytes, List.cons_append] at hih
        exact hih

/-- A scan stops in front of a byte that is no index to be tried. -/
theorem scan_of_ne {is : List (Fin 19)} {b : UInt8} (h : ∀ i ∈ is, i.val ≠ b.toNat) (bs : ByteVec) :
    scan is (b :: bs) = some ([], b :: bs) := by
  induction is with
  | nil => rfl
  | cons i is ih =>
    rw [scan, if_neg (h i (by simp)), ih fun j hj => h j (List.mem_cons_of_mem i hj)]

/-- A scan that tries the first byte does not leave it behind. -/
theorem scan_of_mem {is : List (Fin 19)} {b : UInt8} (h : ∃ i ∈ is, i.val = b.toNat) {bs : ByteVec}
    {es : List Entry} : scan is (b :: bs) ≠ some (es, b :: bs) := by
  induction is with
  | nil => simp at h
  | cons i is ih =>
    intro hscan
    have hbytes := (scan_scanned hscan).bytes
    have hnil : es = [] := by
      cases es with
      | nil => rfl
      | cons e es =>
        have := congrArg List.length hbytes
        simp only [List.flatMap_cons, List.length_append, entryBytes, List.length_cons] at this
        omega
    subst hnil
    by_cases hi : i.val = b.toNat
    · rw [scan, if_pos hi] at hscan
      split at hscan
      · obtain ⟨_, -, hcons⟩ := Option.map_eq_some_iff.mp hscan
        simp at hcons
      · cases hscan
    · rw [scan, if_neg hi] at hscan
      obtain ⟨j, hj, hjb⟩ := h
      rcases List.mem_cons.mp hj with rfl | hj
      · exact hi hjb
      · exact ih ⟨j, hj, hjb⟩ hscan

/-! ## The Alephium contract on a marshalled VAA -/

theorem neZero_nineteen : NeZero 19 := ⟨by decide⟩

/-- The guardian of a signature, among the 19 the contracts have room for. -/
def signer (sig : Guardian.Signature) : Fin 19 := haveI := neZero_nineteen; Fin.ofNat 19 sig.index.toNat

/-- The VAAs the node publishes for the guardians of a set with keys `keys` and size `n`: at strictly
ascending indices of members, a quorum of valid signatures. -/
structure WellSigned (crypto : Crypto) (s : State) (now : Nat) (keys : Fin 19 → ByteVec) (n : Nat)
    (v : VAA) : Prop where
  version : v.version = SupportedVAAVersion
  named : NamedSet s now v.guardianSetIndex.toNat keys n
  ascending : v.signatures.Pairwise (·.index < ·.index)
  below : ∀ sig ∈ v.signatures, sig.index.toNat < 19
  member : ∀ sig ∈ v.signatures, sig.index.toNat < n
  valid : ∀ sig ∈ v.signatures,
    crypto.ethEcRecover (crypto.keccak256 (crypto.keccak256 (serializeBody v))) sig.signature.val
      = some (keys (signer sig))
  reached : quorum n ≤ v.signatures.length
  wholeSecond : v.timestamp.nanosecond = 0
  inRange : 0 ≤ v.timestamp.unix ∧ v.timestamp.unix < 2 ^ 32

/-- The high byte of the timestamp is the index of a possible guardian after the last signer. -/
def Swallowed (v : VAA) : Prop :=
  v.timestamp.unix / 2 ^ 24 < 19 ∧
    ∀ sig ∈ v.signatures, (sig.index.toNat : Int) < v.timestamp.unix / 2 ^ 24

/-- The entries of the signature section the node writes. -/
def entries (v : VAA) : List Entry := v.signatures.map fun sig => (signer sig, sig.signature.val)

theorem signer_val {sig : Guardian.Signature} (h : sig.index.toNat < 19) :
    (signer sig).val = sig.index.toNat := Nat.mod_eq_of_lt h

section Marshal

variable {crypto : Crypto} {s : State} {now n : Nat} {keys : Fin 19 → ByteVec} {v : VAA}

theorem entryBytes_signer {sig : Guardian.Signature} (h : sig.index.toNat < 19) :
    entryBytes (signer sig, sig.signature.val) = sig.bytes := by
  rw [entryBytes, Guardian.Signature.bytes, signer_val h, UInt8.ofNat_toNat]

theorem entries_bytes (h : ∀ sig ∈ v.signatures, sig.index.toNat < 19) :
    (entries v).flatMap entryBytes = v.signatures.flatMap Guardian.Signature.bytes := by
  rw [entries, List.flatMap_map]
  exact List.flatMap_congr fun sig hsig => entryBytes_signer (h sig hsig)

theorem entries_sublist (hasc : v.signatures.Pairwise (·.index < ·.index))
    (h : ∀ sig ∈ v.signatures, sig.index.toNat < 19) :
    ((entries v).map Prod.fst).Sublist (List.finRange 19) := by
  have hpairwise : ((entries v).map Prod.fst).Pairwise (· < ·) := by
    rw [entries, List.map_map, List.pairwise_map]
    refine hasc.imp_of_mem fun {a b} ha hb hab => ?_
    show (signer a).val < (signer b).val
    rw [signer_val (h a ha), signer_val (h b hb)]
    exact hab
  refine List.sublist_of_subperm_of_pairwise ?_ hpairwise (List.pairwise_lt_finRange 19)
  exact List.subperm_of_subset (hpairwise.imp fun hlt => ne_of_lt hlt) fun i _ => List.mem_finRange i

/-- What `marshal` writes is a header, the entries and the body. -/
theorem WellSigned.header (h : WellSigned crypto s now keys n v) :
    Header (marshal v) (beBytes 4 v.guardianSetIndex.toNat) (UInt8.ofNat v.signatures.length)
      ((entries v).flatMap entryBytes ++ serializeBody v) := by
  refine ⟨?_, beBytes_length 4 _⟩
  rw [marshal, h.version, entries_bytes h.below]
  rfl

theorem WellSigned.length_le (h : WellSigned crypto s now keys n v) :
    v.signatures.length ≤ 19 := by
  have := (entries_sublist h.ascending h.below).length_le
  simpa [entries] using this

/-- The high byte of the timestamp. -/
theorem highByte_toNat (v : VAA) :
    (UInt8.ofNat (v.timestamp.unix32 / 2 ^ 24)).toNat = v.timestamp.unix32 / 2 ^ 24 := by
  have := v.timestamp.unix32_lt
  rw [UInt8.toNat_ofNat']
  omega

theorem WellSigned.swallowed_iff (h : WellSigned crypto s now keys n v) :
    Swallowed v ↔ ∃ i ∈ (List.finRange 19).filter fun i => ∀ e ∈ entries v, e.1 < i,
      i.val = (UInt8.ofNat (v.timestamp.unix32 / 2 ^ 24)).toNat := by
  obtain ⟨hlow, hhigh⟩ := h.inRange
  have hunix : (v.timestamp.unix32 : Int) = v.timestamp.unix := by
    unfold Guardian.Time.unix32
    omega
  have hentries : ∀ i : Fin 19, (∀ e ∈ entries v, e.1 < i) ↔
      ∀ sig ∈ v.signatures, sig.index.toNat < i.val := by
    intro i
    simp only [entries, List.forall_mem_map]
    refine forall₂_congr fun sig hsig => ?_
    rw [Fin.lt_def, signer_val (h.below sig hsig)]
  simp only [List.mem_filter, List.mem_finRange, true_and, decide_eq_true_eq, hentries,
    highByte_toNat, Swallowed]
  constructor
  · rintro ⟨hlt, hafter⟩
    refine ⟨⟨v.timestamp.unix32 / 2 ^ 24, by omega⟩, fun sig hsig => ?_, rfl⟩
    have := hafter sig hsig
    show sig.index.toNat < v.timestamp.unix32 / 2 ^ 24
    omega
  · rintro ⟨i, hafter, hi⟩
    refine ⟨by omega, fun sig hsig => ?_⟩
    have := hafter sig hsig
    omega

/-- What the Alephium contract makes of the entries: it goes on scanning in the body. -/
theorem WellSigned.scan_eq (h : WellSigned crypto s now keys n v) :
    scan (List.finRange 19) ((entries v).flatMap entryBytes ++ serializeBody v) =
      (scan ((List.finRange 19).filter fun i => ∀ e ∈ entries v, e.1 < i) (serializeBody v)).map
        fun (es, rest) => (entries v ++ es, rest) := by
  have hlength : ∀ e ∈ entries v, e.2.length = 65 := by
    simp only [entries, List.forall_mem_map]
    exact fun sig _ => sig.signature.property
  exact scan_entries (List.pairwise_lt_finRange 19) (entries_sublist h.ascending h.below) hlength _

/-- A parsed body is what this scan leaves over. -/
theorem WellSigned.parse_scan (h : WellSigned crypto s now keys n v) {checkGuardianSetIndex : Bool}
    {body : ByteVec}
    (hparse : parseAndVerifySignatures crypto s now (marshal v) checkGuardianSetIndex = some body) :
    ∃ es, scan ((List.finRange 19).filter fun i => ∀ e ∈ entries v, e.1 < i) (serializeBody v) =
      some (es, body) := by
  obtain ⟨idx, count, rest, es, hheader, -, -, hscan, -⟩ := parseAndVerifySignatures_eq_some.mp hparse
  have hrest : rest = (entries v).flatMap entryBytes ++ serializeBody v := by
    rw [← hheader.drop, h.header.drop]
  rw [hrest, h.scan_eq, Option.map_eq_some_iff] at hscan
  obtain ⟨⟨es', rest'⟩, hscan, heq⟩ := hscan
  obtain ⟨-, rfl⟩ := Prod.mk.inj heq
  exact ⟨es', hscan⟩

/-- A scan that swallows leaves less than the body. -/
theorem WellSigned.parse_swallowed (h : WellSigned crypto s now keys n v)
    {checkGuardianSetIndex : Bool} {body : ByteVec} (hswallowed : Swallowed v)
    (hparse : parseAndVerifySignatures crypto s now (marshal v) checkGuardianSetIndex = some body) :
    body.length < (serializeBody v).length := by
  obtain ⟨es, hscan⟩ := h.parse_scan hparse
  obtain ⟨rest, hbody⟩ := Guardian.serializeBody_cons v
  have hbytes := congrArg List.length (scan_scanned hscan).bytes
  cases es with
  | nil =>
    -- nothing swallowed: the scan would have stopped in front of the first byte
    obtain rfl : serializeBody v = body := (scan_scanned hscan).bytes
    rw [hbody] at hscan
    exact absurd hscan (scan_of_mem (h.swallowed_iff.mp hswallowed))
  | cons e es =>
    simp only [List.flatMap_cons, List.length_append, entryBytes, List.length_cons] at hbytes
    omega

/-- **The Alephium contract returns the body the node wrote**, unless the body is swallowed. -/
theorem WellSigned.parse_iff (h : WellSigned crypto s now keys n v) {checkGuardianSetIndex : Bool}
    (hcheck : checkGuardianSetIndex = true →
      v.guardianSetIndex.toNat = s.guardianSetIndexes 1) :
    parseAndVerifySignatures crypto s now (marshal v) checkGuardianSetIndex
      = some (serializeBody v) ↔ ¬Swallowed v := by
  obtain ⟨rest, hbody⟩ := Guardian.serializeBody_cons v
  have hindex : beNat (beBytes 4 v.guardianSetIndex.toNat) = v.guardianSetIndex.toNat :=
    beNat_beBytes (toNat_lt_uint32 v.guardianSetIndex)
  have hcount : (UInt8.ofNat v.signatures.length).toNat = v.signatures.length := by
    have := h.length_le
    rw [UInt8.toNat_ofNat']
    omega
  constructor
  · intro hparse hswallowed
    exact absurd (h.parse_swallowed hswallowed hparse) (Nat.lt_irrefl _)
  · intro hclear
    have hne : ∀ i ∈ (List.finRange 19).filter fun i => ∀ e ∈ entries v, e.1 < i,
        i.val ≠ (UInt8.ofNat (v.timestamp.unix32 / 2 ^ 24)).toNat :=
      fun i hi heq => hclear (h.swallowed_iff.mpr ⟨i, hi, heq⟩)
    obtain ⟨hkeys, hn⟩ := h.named.info
    refine parseAndVerifySignatures_eq_some.mpr ⟨_, _, _, entries v, h.header, ?_, ?_, ?_, ?_⟩
    · rwa [hindex]
    · rw [hcount]
      exact h.length_le
    · rw [h.scan_eq, hbody, scan_of_ne hne]
      simp
    · rw [hindex, hcount]
      refine ⟨?_, by rw [hn]; exact h.reached, ?_⟩
      · rcases h.named with ⟨hcurrent, -⟩ | ⟨hne, hprevious, -, -, hlive⟩
        · exact .inl hcurrent
        · exact .inr (by rwa [getGuardiansInfo, if_neg hne, if_pos hprevious])
      · simp only [entries, List.forall_mem_map, hkeys]
        exact h.valid

/-- **Both contracts read the same fields**: Alephium's `parseBody` on the body. -/
theorem parseBody_serializeBody (v : VAA) :
    parseBody (serializeBody v) = some
      { emitterChainId := v.emitterChain.toNat
        emitterAddress := v.emitterAddress.val
        sequence := v.sequence.toNat
        payload := v.payload } := by
  have htimestamp : u256From4Byte (beBytes 4 v.timestamp.unix32) = some v.timestamp.unix32 :=
    u256FromBytes_beBytes v.timestamp.unix32_lt
  have hnonce : u256From4Byte (beBytes 4 v.nonce.toNat) = some v.nonce.toNat :=
    u256FromBytes_beBytes (toNat_lt_uint32 v.nonce)
  have hchain : u256From2Byte (beBytes 2 v.emitterChain.toNat) = some v.emitterChain.toNat :=
    u256FromBytes_beBytes (toNat_lt_uint16 v.emitterChain)
  have hsequence : u256From8Byte (beBytes 8 v.sequence.toNat) = some v.sequence.toNat :=
    u256FromBytes_beBytes (toNat_lt_uint64 v.sequence)
  have hlevel : u256From1Byte (beBytes 1 v.consistencyLevel.toNat)
      = some v.consistencyLevel.toNat :=
    u256FromBytes_beBytes (toNat_lt_uint8 v.consistencyLevel)
  simp only [parseBody, byteVecSlice, Guardian.body_timestamp, Guardian.body_nonce,
    Guardian.body_emitterChain, Guardian.body_emitterAddress, Guardian.body_sequence,
    Guardian.body_consistencyLevel, Guardian.body_payload, htimestamp, hnonce, hchain, hsequence,
    hlevel, some_bind]
  rfl

end Marshal

/-! ## The EVM contract on a marshalled VAA -/

section Ethereum

/-- The recovery id of a signature, its last byte. -/
def recoveryId (sig : Guardian.Signature) : Nat := beNat (sig.signature.val.drop 64)

/-- A signature as the EVM contract reads it. -/
def evmSignature (sig : Guardian.Signature) : Ethereum.Signature where
  r := sig.signature.val.take 32
  s := (sig.signature.val.drop 32).take 32
  v := recoveryId sig + 27
  guardianIndex := sig.index.toNat

theorem bytes_split (sig : Guardian.Signature) :
    sig.bytes = [sig.index] ++ (sig.signature.val.take 32 ++
      ((sig.signature.val.drop 32).take 32 ++ sig.signature.val.drop 64)) := by
  have hdrop : sig.signature.val.drop 64 = (sig.signature.val.drop 32).drop 32 := by
    rw [List.drop_drop]
  rw [hdrop, List.take_append_drop, List.take_append_drop]
  rfl

/-- The EVM contract reads a signature where the node wrote it. -/
theorem parseSignature_bytes {pre post : List UInt8} {sig : Guardian.Signature}
    (hid : recoveryId sig + 27 < 256) :
    Ethereum.parseSignature (pre ++ (sig.bytes ++ post)) pre.length = .ok (evmSignature sig) := by
  have hlen := sig.signature.property
  have hr : (sig.signature.val.take 32).length = 32 := by simp [hlen]
  have hs : ((sig.signature.val.drop 32).take 32).length = 32 := by simp [hlen]
  have hv : (sig.signature.val.drop 64).length = 1 := by simp [hlen]
  have hread : ∀ i j, slice? (pre ++ (sig.bytes ++ post)) (pre.length + i) (pre.length + j) =
      slice? (sig.bytes ++ post) i j := slice?_skip rfl _
  rw [bytes_split] at hread ⊢
  simp only [List.append_assoc] at hread ⊢
  have hindex : Ethereum.toUint8 _ pre.length = .ok _ :=
    Ethereum.toUint_ok ((hread 0 1).trans (slice?_head rfl _))
  have hr' : Ethereum.toBytes32 _ (pre.length + 1) = .ok _ :=
    Ethereum.readBytes_ok ((hread 1 33).trans ((slice?_skip rfl _ 0 32).trans (slice?_head hr _)))
  have hs' : Ethereum.toBytes32 _ (pre.length + 33) = .ok _ :=
    Ethereum.readBytes_ok ((hread 33 65).trans
      ((slice?_skip rfl _ 32 64).trans ((slice?_skip hr _ 0 32).trans (slice?_head hs _))))
  have hv' : Ethereum.toUint8 _ (pre.length + 65) = .ok (recoveryId sig) :=
    Ethereum.toUint_ok ((hread 65 66).trans ((slice?_skip rfl _ 64 65).trans
      ((slice?_skip hr _ 32 33).trans ((slice?_skip hs _ 0 1).trans (slice?_head hv _)))))
  simp only [Ethereum.parseSignature, hindex, hr', hs', hv', Lib.Failing.ok_bind, Ethereum.addUint8,
    if_pos hid, beNat_singleton]
  rfl

theorem parseSignatures_bytes {sigs : List Guardian.Signature}
    (hid : ∀ sig ∈ sigs, recoveryId sig + 27 < 256) (pre post : List UInt8) :
    Ethereum.parseSignatures (pre ++ (sigs.flatMap Guardian.Signature.bytes ++ post)) sigs.length
      pre.length = .ok (sigs.map evmSignature) := by
  induction sigs generalizing pre with
  | nil => rfl
  | cons sig sigs ih =>
    obtain ⟨hhead, htail⟩ := List.forall_mem_cons.mp hid
    have hrest := ih htail (pre ++ sig.bytes)
    rw [List.length_append, Guardian.Signature.bytes_length, List.append_assoc] at hrest
    rw [List.flatMap_cons, List.append_assoc, List.length_cons, Ethereum.parseSignatures,
      parseSignature_bytes hhead]
    simp only [Lib.Failing.ok_bind, hrest]
    rfl

/-- **Both contracts read the same fields**: the EVM's `parseVM` on the whole VAA. -/
theorem parseVM_marshal (keccak256 : List UInt8 → List UInt8) {v : VAA}
    (hversion : v.version = SupportedVAAVersion) (hcount : v.signatures.length < 256)
    (hid : ∀ sig ∈ v.signatures, recoveryId sig + 27 < 256) :
    Ethereum.parseVM keccak256 (marshal v) = .ok
      { version := 1
        timestamp := v.timestamp.unix32
        nonce := v.nonce.toNat
        emitterChainId := v.emitterChain.toNat
        emitterAddress := v.emitterAddress.val
        sequence := v.sequence.toNat
        consistencyLevel := v.consistencyLevel.toNat
        payload := v.payload
        guardianSetIndex := v.guardianSetIndex.toNat
        signatures := v.signatures.map evmSignature
        hash := keccak256 (keccak256 (serializeBody v)) } := by
  have hcount' : (UInt8.ofNat v.signatures.length).toNat = v.signatures.length := by
    rw [UInt8.toNat_ofNat']
    omega
  have hgsi : beNat (beBytes 4 v.guardianSetIndex.toNat) = v.guardianSetIndex.toNat :=
    beNat_beBytes (toNat_lt_uint32 v.guardianSetIndex)
  have htimestamp : beNat (beBytes 4 v.timestamp.unix32) = v.timestamp.unix32 :=
    beNat_beBytes v.timestamp.unix32_lt
  have hnonce : beNat (beBytes 4 v.nonce.toNat) = v.nonce.toNat :=
    beNat_beBytes (toNat_lt_uint32 v.nonce)
  have hchain : beNat (beBytes 2 v.emitterChain.toNat) = v.emitterChain.toNat :=
    beNat_beBytes (toNat_lt_uint16 v.emitterChain)
  have hsequence : beNat (beBytes 8 v.sequence.toNat) = v.sequence.toNat :=
    beNat_beBytes (toNat_lt_uint64 v.sequence)
  have hlevel : beNat (beBytes 1 v.consistencyLevel.toNat) = v.consistencyLevel.toNat :=
    beNat_beBytes (toNat_lt_uint8 v.consistencyLevel)
  -- the three parts of the encoding, and the offset of the body
  obtain ⟨pre, hpre, hpre6⟩ : ∃ pre : List UInt8, marshal v =
      pre ++ (v.signatures.flatMap Guardian.Signature.bytes ++ serializeBody v) ∧ pre.length = 6 :=
    ⟨v.version :: (beBytes 4 v.guardianSetIndex.toNat ++ [UInt8.ofNat v.signatures.length]),
      by simp [marshal], by simp⟩
  have hsigs : (v.signatures.flatMap Guardian.Signature.bytes).length = 66 * v.signatures.length := by
    rw [List.length_flatMap, List.map_congr_left fun sig _ => sig.bytes_length, List.map_const',
      List.sum_replicate, smul_eq_mul, Nat.mul_comm]
  have hfront : (pre ++ v.signatures.flatMap Guardian.Signature.bytes).length =
      6 + 66 * v.signatures.length := by rw [List.length_append, hpre6, hsigs]
  have hread : ∀ i j, slice? (marshal v) (6 + 66 * v.signatures.length + i)
      (6 + 66 * v.signatures.length + j) = slice? (serializeBody v) i j := by
    intro i j
    rw [hpre, ← List.append_assoc]
    exact slice?_skip hfront _ i j
  have hlen : (marshal v).length = 6 + 66 * v.signatures.length + (serializeBody v).length := by
    rw [hpre, ← List.append_assoc, List.length_append, hfront]
  have hversion' : Ethereum.toUint8 (marshal v) 0 = .ok (beNat [v.version]) :=
    Ethereum.toUint_ok (slice?_head (show [v.version].length = 0 + 1 from rfl) _)
  have hone : beNat [v.version] = 1 := by rw [hversion]; rfl
  have hidx : Ethereum.toUint32 (marshal v) 1 = .ok _ :=
    Ethereum.toUint_ok ((slice?_skip (show [v.version].length = 1 from rfl) _ 0 4).trans
      (slice?_head (beBytes_length 4 _) _))
  have hdeclared : Ethereum.toUint8 (marshal v) 5 = .ok _ :=
    Ethereum.toUint_ok ((slice?_skip (show [v.version].length = 1 from rfl) _ 4 5).trans
      ((slice?_skip (beBytes_length 4 _) _ 0 1).trans
        (slice?_head (show [UInt8.ofNat v.signatures.length].length = 1 from rfl) _)))
  have hparsed : Ethereum.parseSignatures (marshal v) v.signatures.length 6 =
      .ok (v.signatures.map evmSignature) := by
    rw [hpre, ← hpre6]
    exact parseSignatures_bytes hid pre _
  obtain ⟨index, hindex⟩ : ∃ index, index = 6 + 66 * v.signatures.length := ⟨_, rfl⟩
  rw [← hindex] at hread hlen
  have hbody : Ethereum.slice (marshal v) index (serializeBody v).length
      = .ok (serializeBody v) :=
    Ethereum.readBytes_ok ((hread 0 _).trans (slice?_suffix (List.nil_append _).symm rfl))
  have htimestamp' : Ethereum.toUint32 (marshal v) index = .ok _ :=
    Ethereum.toUint_ok ((hread 0 4).trans (Guardian.body_timestamp v))
  have hnonce' : Ethereum.toUint32 (marshal v) (index + 4) = .ok _ :=
    Ethereum.toUint_ok ((hread 4 8).trans (Guardian.body_nonce v))
  have hchain' : Ethereum.toUint16 (marshal v) (index + 8) = .ok _ :=
    Ethereum.toUint_ok ((hread 8 10).trans (Guardian.body_emitterChain v))
  have haddress : Ethereum.toBytes32 (marshal v) (index + 10) = .ok _ :=
    Ethereum.readBytes_ok ((hread 10 42).trans (Guardian.body_emitterAddress v))
  have hsequence' : Ethereum.toUint64 (marshal v) (index + 42) = .ok _ :=
    Ethereum.toUint_ok ((hread 42 50).trans (Guardian.body_sequence v))
  have hlevel' : Ethereum.toUint8 (marshal v) (index + 50) = .ok _ :=
    Ethereum.toUint_ok ((hread 50 51).trans (Guardian.body_consistencyLevel v))
  have hpayload : Ethereum.slice (marshal v) (index + 51) ((serializeBody v).length - 51)
      = .ok v.payload := by
    have hlong := Guardian.serializeBody_length v
    refine Ethereum.readBytes_ok ?_
    rw [Nat.add_assoc, Nat.add_sub_cancel' (by omega)]
    exact (hread 51 _).trans (Guardian.body_payload v)
  have hsub : Ethereum.subUint (marshal v).length index = .ok (serializeBody v).length := by
    rw [Ethereum.subUint, if_pos (by omega), hlen, Nat.add_sub_cancel_left]
  have hsub' : Ethereum.subUint (marshal v).length (index + 51)
      = .ok ((serializeBody v).length - 51) := by
    have hlong := Guardian.serializeBody_length v
    rw [Ethereum.subUint, if_pos (by omega), hlen, Nat.add_sub_add_left]
  simp only [Ethereum.parseVM, hversion', hone, hidx, hdeclared, beNat_singleton, hcount', hparsed,
    ← hindex, hsub, hbody, htimestamp', hnonce', hchain', haddress, hsequence', hlevel', hsub',
    hpayload, Lib.Failing.ok_bind, hgsi, htimestamp, hnonce, hchain,
    hsequence, hlevel]
  rfl

end Ethereum

/-! ## Agreement -/

/-- What the node means by a VAA and what the contracts make of its bytes: Alephium returns the body
and reads its fields, and so does the EVM (whose `v` byte is the recovery id plus 27). -/
def Agree (crypto : Crypto) (s : State) (now : Nat) (checkGuardianSetIndex : Bool) (v : VAA) :
    Prop :=
  parseAndVerifySignatures crypto s now (marshal v) checkGuardianSetIndex = some (serializeBody v) ∧
  parseBody (serializeBody v) = some
    { emitterChainId := v.emitterChain.toNat
      emitterAddress := v.emitterAddress.val
      sequence := v.sequence.toNat
      payload := v.payload } ∧
  ∀ keccak256, (∀ sig ∈ v.signatures, recoveryId sig + 27 < 256) →
    ∃ vm, Ethereum.parseVM keccak256 (marshal v) = .ok vm ∧
      vm.emitterChainId = v.emitterChain.toNat ∧ vm.emitterAddress = v.emitterAddress.val ∧
      vm.sequence = v.sequence.toNat ∧ vm.payload = v.payload ∧
      vm.hash = keccak256 (keccak256 (serializeBody v))

/-- **The encodings agree exactly when the body is not swallowed.** -/
theorem marshal_parse_iff {crypto : Crypto} {s : State} {now n : Nat} {keys : Fin 19 → ByteVec}
    {v : VAA} (h : WellSigned crypto s now keys n v) {checkGuardianSetIndex : Bool}
    (hcheck : checkGuardianSetIndex = true →
      v.guardianSetIndex.toNat = s.guardianSetIndexes 1) :
    Agree crypto s now checkGuardianSetIndex v ↔ ¬Swallowed v := by
  constructor
  · intro hagree
    exact (h.parse_iff hcheck).mp hagree.1
  · intro hclear
    refine ⟨(h.parse_iff hcheck).mpr hclear, parseBody_serializeBody v, fun keccak256 hid => ?_⟩
    have hcount := h.length_le
    exact ⟨_, parseVM_marshal keccak256 h.version (by omega) hid, rfl, rfl, rfl, rfl, rfl⟩

theorem sampleVaa_signature_length : (List.replicate 65 (0x07 : UInt8)).length = 65 := rfl

theorem sampleVaa_emitter_length : (List.replicate 32 (0x04 : UInt8)).length = 32 := rfl

/-- A VAA of one guardian with the given timestamp, signed for `Crypto.sample`. -/
def sampleVaa (unix : Int) : VAA where
  version := 1
  guardianSetIndex := 0
  signatures := [{ index := 0, signature := ⟨List.replicate 65 0x07, sampleVaa_signature_length⟩ }]
  timestamp := { unix, nanosecond := 0 }
  nonce := 5
  sequence := 42
  consistencyLevel := 15
  emitterChain := 2
  emitterAddress := ⟨List.replicate 32 0x04, sampleVaa_emitter_length⟩
  payload := [0x01, 0x02, 0x03]

theorem sampleVaa_wellSigned {unix : Int} (h : 0 ≤ unix ∧ unix < 2 ^ 32) :
    WellSigned Crypto.sample oneGuardian 5 (oneGuardian.guardianSets 1) 1 (sampleVaa unix) where
  version := rfl
  named := .inl ⟨rfl, rfl, rfl⟩
  ascending := List.pairwise_singleton _ _
  below := by simp [sampleVaa]
  member := by simp [sampleVaa]
  valid := by
    intro sig hsig
    obtain rfl := List.mem_singleton.mp hsig
    rfl
  reached := by show quorum 1 ≤ 1; decide
  wholeSecond := rfl
  inRange := h

/-- A VAA of 2022: the high byte 0x62 of its timestamp is no guardian index. -/
theorem sampleVaa_agree : Agree Crypto.sample oneGuardian 5 false (sampleVaa 1650000000) := by
  have h := sampleVaa_wellSigned (show (0 : Int) ≤ 1650000000 ∧ (1650000000 : Int) < 2 ^ 32 by norm_num)
  refine (marshal_parse_iff h (by simp)).mpr fun hswallowed => ?_
  have := hswallowed.1
  simp [sampleVaa] at this

/-- **A well-signed VAA the Alephium contract rejects.** The high byte of the timestamp is 1, so the
body is taken for the signature of guardian 1. -/
theorem sampleVaa_rejected :
    WellSigned Crypto.sample oneGuardian 5 (oneGuardian.guardianSets 1) 1 (sampleVaa 16777216) ∧
    parseAndVerifySignatures Crypto.sample oneGuardian 5 (marshal (sampleVaa 16777216)) false = none ∧
    ¬Agree Crypto.sample oneGuardian 5 false (sampleVaa 16777216) := by
  have hnone : parseAndVerifySignatures Crypto.sample oneGuardian 5
      (marshal (sampleVaa 16777216)) false = none := by decide +kernel
  refine ⟨sampleVaa_wellSigned (by norm_num), hnone, fun hagree => ?_⟩
  rw [Agree, hnone] at hagree
  cases hagree.1

end Wormhole.VaaAgreement

/-
# Wormhole.Alephium.GuardianQuorum — which accepted VAAs carry a quorum of signatures.

A VAA declares its number of signatures in one byte.  `parseAndVerifySignatures` tests the quorum on
that declaration and verifies the entries it has parsed, but never compares the two numbers.  `Sound`
is what acceptance is meant to establish; `parseAndVerifySignatures_sound_iff` says that an accepted
VAA has it exactly when the entries it really carries reach the quorum, and `unsignedVaa_accepted` is an
accepted VAA without a single signature.
-/
import Mathlib
import Wormhole.Lib.Bytes
import Wormhole.Alephium.Governance

namespace Wormhole.Alephium.Governance

open Wormhole.Lib.Bytes Wormhole.Alephium.Vm

/-! ## What acceptance is meant to establish -/

/-- The guardian set index in the header of a VAA. -/
def namedIndex (data : ByteVec) : Nat := beNat ((data.drop 1).take 4)

theorem neZero_two : NeZero 2 := ⟨by decide⟩

/-- The set with keys `keys` and size `n` is the one `index` names: the current set, or the previous
set not yet expired. -/
def NamedSet (s : State) (now index : Nat) (keys : Fin 19 → ByteVec) (n : Nat) : Prop :=
  haveI := neZero_two
  (index = s.guardianSetIndexes 1 ∧ keys = s.guardianSets 1 ∧ n = s.guardianSetSizes 1) ∨
  (index ≠ s.guardianSetIndexes 1 ∧ index = s.guardianSetIndexes 0 ∧ keys = s.guardianSets 0 ∧
    n = s.guardianSetSizes 0 ∧ now ≤ s.previousGuardianSetExpirationTime)

/-- The input carries `sig` as the signature of guardian `i`: a 66-byte entry of the signature
section, which lies between the six header bytes and the body. -/
def Carries (data body : ByteVec) (i : Fin 19) (sig : ByteVec) : Prop :=
  ∃ pre post, data = pre ++ (entryBytes (i, sig) ++ (post ++ body)) ∧ 6 ≤ pre.length ∧
    66 ∣ pre.length - 6

/-- At least `⌊2n/3⌋ + 1` different guardians of the named set, of size `n`, signed `body`. -/
def Sound (crypto : Crypto) (s : State) (now : Nat) (data body : ByteVec) : Prop :=
  ∃ keys n, NamedSet s now (namedIndex data) keys n ∧
    ∃ I : Finset (Fin 19), 2 * n / 3 + 1 ≤ I.card ∧ ∀ i ∈ I, i.val < n ∧
      ∃ sig, sig.length = 65 ∧ Carries data body i sig ∧
        crypto.ethEcRecover (crypto.keccak256 (crypto.keccak256 body)) sig = some (keys i)

/-- The entries the input really carries, of guardians of the named set, reach the quorum. -/
def CarriesQuorum (s : State) (data : ByteVec) : Prop :=
  ∃ es rest, scan (List.finRange 19) (data.drop 6) = some (es, rest) ∧
    quorum (getGuardiansInfo s (namedIndex data)).2.2 ≤
      (es.filter fun e => e.1.val < (getGuardiansInfo s (namedIndex data)).2.2).length

/-! ## Entries and carried signatures -/

theorem Header.namedIndex {data idx rest : ByteVec} {count : UInt8}
    (h : Header data idx count rest) : namedIndex data = beNat idx := by
  rw [Governance.namedIndex, h.data_eq, List.drop_succ_cons, List.drop_zero,
    List.take_left' h.length]

theorem entryBytes_injective : Function.Injective entryBytes := by
  rintro ⟨i, sig⟩ ⟨j, sig'⟩ h
  obtain ⟨hindex, hsig⟩ := List.cons.inj h
  have := congrArg UInt8.toNat hindex
  rw [entryBytes_toNat, entryBytes_toNat] at this
  exact Prod.ext (Fin.ext this) hsig

/-- The scanned entries are the carried signatures. -/
theorem Scanned.mem_iff_carries {data idx rest body : ByteVec} {count : UInt8} {es : List Entry}
    (hheader : Header data idx count rest) (h : Scanned (List.finRange 19) rest es body)
    {i : Fin 19} {sig : ByteVec} :
    (i, sig) ∈ es ↔ sig.length = 65 ∧ Carries data body i sig := by
  have hdata : data = data.take 6 ++ (es.flatMap entryBytes ++ body) := by
    rw [← h.bytes, ← hheader.drop, List.take_append_drop]
  have hsix := hheader.six_le
  have hblocks : ∀ b ∈ es.map entryBytes, b.length = 66 := by
    intro b hb
    obtain ⟨e, he, rfl⟩ := List.mem_map.mp hb
    rw [entryBytes, List.length_cons, h.length e he]
  constructor
  · intro he
    obtain ⟨before, after, rfl⟩ := List.append_of_mem he
    refine ⟨h.length _ he, data.take 6 ++ before.flatMap entryBytes, after.flatMap entryBytes,
      ?_, ?_, ?_⟩
    · conv_lhs => rw [hdata]
      simp
    · rw [List.length_append, List.length_take]
      omega
    · have hlen : ∀ b ∈ before.map entryBytes, b.length = 66 := fun b hb =>
        hblocks b (by rw [List.map_append]; exact List.mem_append_left _ hb)
      have hsum : (before.flatMap entryBytes).length = 66 * before.length := by
        rw [List.flatMap_def, List.length_flatten, List.map_congr_left hlen, List.map_const',
          List.sum_replicate, List.length_map, smul_eq_mul, Nat.mul_comm]
      rw [List.length_append, List.length_take, Nat.min_eq_left hsix, hsum,
        Nat.add_sub_cancel_left]
      exact dvd_mul_right 66 _
  · rintro ⟨hsig, pre, post, hsplit, hpre, hdvd⟩
    have hsection : (es.map entryBytes).flatten =
        pre.drop 6 ++ (entryBytes (i, sig) ++ post) := by
      have hdrop := congrArg (List.drop 6) hsplit
      rw [hheader.drop, h.bytes, List.drop_append_of_le_length hpre] at hdrop
      have hcancel : (es.map entryBytes).flatten ++ body =
          pre.drop 6 ++ (entryBytes (i, sig) ++ post) ++ body := by
        rw [← List.flatMap_def, hdrop]
        simp
      exact List.append_cancel_right hcancel
    have hmem := mem_of_aligned (by omega) hblocks hsection (by simp [entryBytes, hsig])
      (by rwa [List.length_drop])
    obtain ⟨e, he, heq⟩ := List.mem_map.mp hmem
    exact entryBytes_injective heq ▸ he

/-! ## When an accepted VAA is sound -/

/-- A set named by the VAA is the one `getGuardiansInfo` returns. -/
theorem NamedSet.info {s : State} {now index n : Nat} {keys : Fin 19 → ByteVec}
    (h : NamedSet s now index keys n) :
    (getGuardiansInfo s index).1 = keys ∧ (getGuardiansInfo s index).2.2 = n := by
  rcases h with ⟨rfl, rfl, rfl⟩ | ⟨hne, rfl, rfl, rfl, -⟩
  · simp [getGuardiansInfo]
  · simp [getGuardiansInfo, hne]

/-- A verified VAA names a set, unless it names none and claims a set of size 0. -/
theorem Verified.namedSet {crypto : Crypto} {s : State} {now index signatureSize : Nat}
    {es : List Entry} {hash : ByteVec} (h : Verified crypto s now index signatureSize es hash) :
    NamedSet s now index (getGuardiansInfo s index).1 (getGuardiansInfo s index).2.2 ∨
      (getGuardiansInfo s index).2.2 = 0 := by
  by_cases hcurrent : index = s.guardianSetIndexes 1
  · exact .inl (.inl (by simp [getGuardiansInfo, hcurrent]))
  · by_cases hprevious : index = s.guardianSetIndexes 0
    · have hlive := h.live.resolve_left hcurrent
      rw [getGuardiansInfo, if_neg hcurrent, if_pos hprevious] at hlive ⊢
      exact .inl (.inr ⟨hcurrent, hprevious, rfl, rfl, hlive⟩)
    · exact .inr (by rw [getGuardiansInfo, if_neg hcurrent, if_neg hprevious])

/-- **An accepted VAA is sound exactly when it carries a quorum.** -/
theorem sound_iff_carriesQuorum {crypto : Crypto} {s : State} {now : Nat} {data body : ByteVec}
    {checkGuardianSetIndex : Bool}
    (h : parseAndVerifySignatures crypto s now data checkGuardianSetIndex = some body) :
    Sound crypto s now data body ↔ CarriesQuorum s data := by
  obtain ⟨idx, count, rest, es, hheader, -, -, hscan, hverified⟩ :=
    parseAndVerifySignatures_eq_some.mp h
  have hscanned := scan_scanned hscan
  have hcarries : ∀ {i sig}, (i, sig) ∈ es ↔ sig.length = 65 ∧ Carries data body i sig :=
    hscanned.mem_iff_carries hheader
  rw [← hheader.namedIndex] at hverified
  constructor
  · rintro ⟨keys, n, hset, I, hcard, hI⟩
    obtain ⟨-, hn⟩ := hset.info
    refine ⟨es, body, by rw [hheader.drop, hscan], ?_⟩
    rw [hn]
    -- the signers are among the indices of the small entries
    have hsub : I ⊆ ((es.filter fun e => e.1.val < n).map Prod.fst).toFinset := by
      intro i hi
      obtain ⟨hlt, sig, hlen, hcarried, -⟩ := hI i hi
      rw [List.mem_toFinset, List.mem_map]
      exact ⟨(i, sig), by simp [List.mem_filter, hcarries.mpr ⟨hlen, hcarried⟩, hlt], rfl⟩
    calc quorum n ≤ I.card := hcard
      _ ≤ ((es.filter fun e => e.1.val < n).map Prod.fst).toFinset.card := Finset.card_le_card hsub
      _ ≤ ((es.filter fun e => e.1.val < n).map Prod.fst).length := List.toFinset_card_le _
      _ = (es.filter fun e => e.1.val < n).length := List.length_map _
  · rintro ⟨es', body', hscan', hquorum⟩
    obtain ⟨rfl, rfl⟩ : es = es' ∧ body = body' := by
      rw [hheader.drop, hscan] at hscan'
      simpa using hscan'
    rcases hverified.namedSet with hset | hzero
    · refine ⟨_, _, hset, ((es.filter fun e =>
        e.1.val < (getGuardiansInfo s (namedIndex data)).2.2).map Prod.fst).toFinset, ?_, ?_⟩
      · have hnodup : ((es.filter fun e =>
            e.1.val < (getGuardiansInfo s (namedIndex data)).2.2).map Prod.fst).Nodup :=
          hscanned.nodup.sublist (List.filter_sublist.map Prod.fst)
        rw [List.toFinset_card_of_nodup hnodup, List.length_map]
        exact hquorum
      · intro i hi
        rw [List.mem_toFinset, List.mem_map] at hi
        obtain ⟨⟨j, sig⟩, he, rfl⟩ := hi
        obtain ⟨hmem, hlt⟩ := List.mem_filter.mp he
        obtain ⟨hlen, hcarried⟩ := hcarries.mp hmem
        exact ⟨of_decide_eq_true hlt, sig, hlen, hcarried, hverified.recover _ hmem⟩
    · simp [hzero, quorum] at hquorum

/-- **Governance VAA soundness, exactly.** Whatever `parseAndVerifySignatures` returns a body for,
and whatever `parseAndVerifyVAA` accepts, is signed by a quorum of the named guardian set if and only
if the entries it carries reach the quorum. -/
theorem parseAndVerifySignatures_sound_iff (crypto : Crypto) (s : State) (now : Nat)
    (vaa : ByteVec) :
    (∀ checkGuardianSetIndex body,
      parseAndVerifySignatures crypto s now vaa checkGuardianSetIndex = some body →
        (Sound crypto s now vaa body ↔ CarriesQuorum s vaa)) ∧
    ∀ msg, parseAndVerifyVAA crypto s now vaa = some msg →
      ∃ body, parseAndVerifySignatures crypto s now vaa false = some body ∧
        parseBody body = some msg ∧ (Sound crypto s now vaa body ↔ CarriesQuorum s vaa) := by
  refine ⟨fun _ _ h => sound_iff_carriesQuorum h, fun msg h => ?_⟩
  obtain ⟨body, hparse, hmsg⟩ := Option.bind_eq_some_iff.mp h
  exact ⟨body, hparse, hmsg, sound_iff_carriesQuorum hparse⟩

/-! ## Inputs -/

/-- Stand-ins for the cryptographic built-ins, to run the contract on an input. -/
def Crypto.sample : Crypto where
  keccak256 := id
  ethEcRecover := fun _ sig => some (sig.take 20)

/-- A contract with one guardian, in its first guardian set. -/
def oneGuardian : State where
  chainId := 13
  governanceChainId := 1
  governanceContract := List.replicate 32 0x04
  sequence := Sequence.State.init
  messageFee := 100
  guardianSets := fun _ i => if i = 0 then List.replicate 20 0x07 else [0x00]
  guardianSetIndexes := fun _ => 0
  guardianSetSizes := fun i => haveI := neZero_two; if i = 1 then 1 else 0
  previousGuardianSetExpirationTime := 0

/-- Four guardians, three of which are a quorum. -/
def fourGuardians : State :=
  { oneGuardian with
    guardianSets := fun _ i => List.replicate 20 (UInt8.ofNat (7 + i))
    guardianSetSizes := fun i => haveI := neZero_two; if i = 1 then 4 else 0 }

/-- A VAA that all but the second guardian have signed. -/
def signedVaa : ByteVec :=
  [0x01, 0x00, 0x00, 0x00, 0x00, 0x03] ++ (0x00 :: List.replicate 65 0x07) ++ (0x02 :: List.replicate 65 0x09) ++
    (0x03 :: List.replicate 65 0x0a) ++ List.replicate 51 0xff

/-- A VAA that declares one signature and carries none. -/
def unsignedVaa : ByteVec :=
  [0x01, 0x00, 0x00, 0x00, 0x00, 0x01] ++ List.replicate 51 0xff

/-- With three of four signatures, in the order of their guardians, it is sound. -/
theorem signedVaa_sound :
    parseAndVerifySignatures Crypto.sample fourGuardians 5 signedVaa false
      = some (List.replicate 51 0xff) ∧
    Sound Crypto.sample fourGuardians 5 signedVaa (List.replicate 51 0xff) := by
  have hparse : parseAndVerifySignatures Crypto.sample fourGuardians 5 signedVaa false
      = some (List.replicate 51 0xff) := by decide +kernel
  refine ⟨hparse, ((parseAndVerifySignatures_sound_iff _ _ _ _).1 _ _ hparse).mpr ?_⟩
  exact ⟨[(0, List.replicate 65 0x07), (2, List.replicate 65 0x09), (3, List.replicate 65 0x0a)],
    List.replicate 51 0xff, by decide +kernel, by decide +kernel⟩

/-- **A VAA without signatures is accepted.** The 57 bytes declare one signature and carry none: they
contain no 65-byte string at all. -/
theorem unsignedVaa_accepted :
    parseAndVerifySignatures Crypto.sample oneGuardian 5 unsignedVaa false
      = some (List.replicate 51 0xff) ∧
    (parseAndVerifyVAA Crypto.sample oneGuardian 5 unsignedVaa).isSome ∧
    ¬Sound Crypto.sample oneGuardian 5 unsignedVaa (List.replicate 51 0xff) ∧
    ¬∃ sig : ByteVec, sig.length = 65 ∧ sig <:+: unsignedVaa := by
  have hshort : ¬∃ sig : ByteVec, sig.length = 65 ∧ sig <:+: unsignedVaa := by
    rintro ⟨sig, hlen, hinfix⟩
    have := hinfix.length_le
    rw [hlen] at this
    exact absurd this (by decide)
  refine ⟨by decide, by decide, ?_, hshort⟩
  rintro ⟨keys, n, -, I, hcard, hI⟩
  obtain ⟨i, hi⟩ : I.Nonempty := Finset.card_pos.mp (by omega)
  obtain ⟨-, sig, hlen, ⟨pre, post, hsplit, -, -⟩, -⟩ := hI i hi
  refine hshort ⟨sig, hlen, pre ++ [UInt8.ofNat i], post ++ List.replicate 51 0xff, ?_⟩
  rw [hsplit]
  simp [entryBytes]

end Wormhole.Alephium.Governance

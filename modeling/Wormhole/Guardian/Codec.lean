/-
# Wormhole.Guardian.Codec — reading back what the node writes.

`Unmarshal` against `Marshal` (`node/pkg/vaa/structs.go`).  `unmarshal_eq_ok` says what the decoder
accepts: the encoding of a VAA of version 1 with a payload that is not empty, of 63 bytes at least; and
that it returns the first 1000 bytes of that payload.  So a VAA is read back exactly when its payload
has between 1 and 1000 bytes and its encoding is not shorter than `minVAALength`, and a decoded VAA is
written back as it was exactly when its payload has at most 1000 bytes (`codec_roundTrip_iff`).
-/
import Mathlib
import Wormhole.Lib.Bytes
import Wormhole.Lib.Failing
import Wormhole.Guardian.Vaa
import Wormhole.Guardian.InboundVaa

namespace Wormhole.Guardian

open Wormhole.Lib Wormhole.Lib.Bytes

/-! ## Readers -/

section Readers

variable {α : Type}

theorem wrap_eq_ok {msg : String} {x : Except String α} {a : α} : wrap msg x = .ok a ↔ x = .ok a := by
  cases x <;> simp [wrap]

theorem mapError_eq_ok {msg : String} {x : Except String α} {a : α} :
    (x.mapError fun _ => msg) = .ok a ↔ x = .ok a := by
  cases x <;> simp [Except.mapError]

variable {n : Nat} {reader rest bs : List UInt8}

/-- `n` bytes in front of the reader. -/
theorem readFull_eq_ok : readFull n reader = .ok (bs, rest) ↔ bs.length = n ∧ reader = bs ++ rest := by
  unfold readFull
  constructor
  · intro h
    split at h
    · rename_i hn
      obtain ⟨rfl, rfl⟩ := Prod.mk.inj (Except.ok.inj h)
      exact ⟨List.length_take_of_le hn, (List.take_append_drop n reader).symm⟩
    · split at h <;> cases h
  · rintro ⟨rfl, rfl⟩
    rw [if_pos (by simp), List.take_left, List.drop_left]

theorem read_eq_ok :
    read n reader = .ok (bs, rest) ↔ reader ≠ [] ∧ bs = reader.take n ∧ rest = reader.drop n := by
  unfold read
  split
  · rename_i hnil
    simp [hnil]
  · rename_i hnil
    simp only [Except.ok.injEq, Prod.mk.injEq, ne_eq, hnil, not_false_eq_true, true_and]
    exact ⟨fun h => ⟨h.1.symm, h.2.symm⟩, fun h => ⟨h.1.symm, h.2.symm⟩⟩

theorem readArray_eq_ok {msg : Nat → String} (hn : 0 < n) {a : FixedBytes n} :
    readArray msg n reader = .ok (a, rest) ↔ reader = a.val ++ rest := by
  unfold readArray
  constructor
  · intro h
    split at h
    · cases h
    · rename_i bs rest' hread
      obtain ⟨-, rfl, rfl⟩ := read_eq_ok.mp hread
      split at h
      · obtain ⟨rfl, rfl⟩ := Prod.mk.inj (Except.ok.inj h)
        exact (List.take_append_drop n reader).symm
      · cases h
  · rintro rfl
    have hne : a.val ++ rest ≠ [] := by
      intro hnil
      have hlength := congrArg List.length hnil
      rw [List.length_append, a.property, List.length_nil] at hlength
      omega
    have hread : read n (a.val ++ rest) = .ok (a.val, rest) :=
      read_eq_ok.mpr ⟨hne, (List.take_left' a.property).symm, (List.drop_left' a.property).symm⟩
    simp only [hread, a.property, dite_true]

/-- The signature loop reads the encodings of the signatures. -/
theorem readSignatures_eq_ok {i : Nat} {sigs : List Signature} :
    readSignatures n i reader = .ok (sigs, rest) ↔
      sigs.length = n ∧ reader = sigs.flatMap Signature.bytes ++ rest := by
  induction n generalizing i reader rest sigs with
  | zero =>
    simp only [readSignatures, Except.ok.injEq, Prod.mk.injEq, List.length_eq_zero_iff]
    constructor
    · rintro ⟨rfl, rfl⟩
      exact ⟨rfl, rfl⟩
    · rintro ⟨rfl, rfl⟩
      exact ⟨rfl, rfl⟩
  | succ n ih =>
    cases reader with
    | nil =>
      simp only [readSignatures, reduceCtorEq, false_iff, not_and]
      intro hlength hnil
      have hbytes := congrArg List.length hnil
      cases sigs with
      | nil => cases hlength
      | cons sig sigs =>
        simp only [List.flatMap_cons, List.length_append, Signature.bytes_length, List.length_nil] at hbytes
        omega
    | cons index reader =>
      simp only [readSignatures, Failing.bind_eq_ok, Prod.exists, readArray_eq_ok (show 0 < 65 by omega),
        ih, pure, Except.pure, Except.ok.injEq, Prod.mk.injEq]
      constructor
      · rintro ⟨signature, _, rfl, sigs', _, ⟨rfl, rfl⟩, rfl, rfl⟩
        exact ⟨rfl, by simp [Signature.bytes]⟩
      · rintro ⟨hlength, hreader⟩
        cases sigs with
        | nil => cases hlength
        | cons sig sigs =>
          simp only [List.flatMap_cons, Signature.bytes, List.cons_append, List.cons.injEq] at hreader
          obtain ⟨rfl, rfl⟩ := hreader
          refine ⟨sig.signature, sigs.flatMap Signature.bytes ++ rest, by simp, sigs, rest,
            ⟨Nat.succ.inj hlength, rfl⟩, rfl, rfl⟩

end Readers

/-! ## What the decoder accepts -/

/-- The time stamps that four bytes can write. -/
def Time.Whole (t : Time) : Prop := t.nanosecond = 0 ∧ 0 ≤ t.unix ∧ t.unix < 2 ^ 32

instance (t : Time) : Decidable t.Whole := inferInstanceAs (Decidable (_ ∧ _))

theorem Time.Whole.unix32 {t : Time} (h : t.Whole) : (t.unix32 : Int) = t.unix := by
  obtain ⟨-, hzero, hlt⟩ := h
  rw [Time.unix32, Int.emod_eq_of_lt hzero hlt, Int.toNat_of_nonneg hzero]

theorem Time.Whole.of_beNat {bs : List UInt8} (h : bs.length = 4) :
    Time.Whole { unix := beNat bs, nanosecond := 0 } := by
  have hlt := beNat_lt bs
  rw [h] at hlt
  refine ⟨rfl, Int.natCast_nonneg _, ?_⟩
  show (beNat bs : Int) < 2 ^ 32
  exact_mod_cast hlt

/-- A field holds the number that is read from it. -/
theorem beBytes_of_mod {bs : List UInt8} {w m : Nat} (h : bs.length = w) (hm : m = beNat bs % 256 ^ w) :
    beBytes w m = bs := by
  have hlt := beNat_lt bs
  rw [h] at hlt
  rw [hm, Nat.mod_eq_of_lt hlt, ← h, beBytes_beNat]

/-- `data` is the encoding of a VAA of the supported version with this payload, and not too short. -/
structure Encodes (v : VAA) (payload data : List UInt8) : Prop where
  version : v.version = SupportedVAAVersion
  signatures : v.signatures.length ≤ 255
  timestamp : v.timestamp.Whole
  nonempty : payload ≠ []
  encoded : data = marshal { v with payload }
  minLength : minVAALength ≤ data.length

theorem marshal_length (v : VAA) :
    (marshal v).length = 57 + 66 * v.signatures.length + v.payload.length := by
  have hsigs : (v.signatures.flatMap Signature.bytes).length = 66 * v.signatures.length := by
    rw [List.length_flatMap, List.map_congr_left fun sig _ => sig.bytes_length, List.map_const',
      List.sum_replicate, smul_eq_mul, Nat.mul_comm]
  simp only [marshal, List.length_cons, List.length_append, beBytes_length, hsigs, serializeBody_length]
  omega

/-- **What the decoder accepts**: an encoding, of which it returns the first 1000 bytes of the payload. -/
theorem unmarshal_eq_ok {data : List UInt8} {v : VAA} :
    unmarshal data = .ok v ↔ ∃ payload, Encodes v payload data ∧ v.payload = payload.take 1000 := by
  constructor
  · intro h
    rw [unmarshal] at h
    split at h
    · cases h
    rename_i hlength
    dsimp only at h
    split at h
    · cases h
    rename_i hversion
    rw [not_not] at hversion
    simp only [Failing.bind_eq_ok, wrap_eq_ok, mapError_eq_ok, readFull_eq_ok, readSignatures_eq_ok,
      Prod.exists, readArray_eq_ok (show 0 < 32 by omega), read_eq_ok, pure, Except.pure,
      Except.ok.injEq] at h
    obtain ⟨index, _, ⟨hindex, hdata⟩, count, _, ⟨hcount, rfl⟩, sigs, _, ⟨hsigs, rfl⟩, time, _,
      ⟨htime, rfl⟩, nonce, _, ⟨hnonce, rfl⟩, chain, _, ⟨hchain, rfl⟩, address, _, rfl, sequence, _,
      ⟨hsequence, rfl⟩, level, payload, ⟨hlevel, rfl⟩, _, _, ⟨hpayload, rfl, -⟩, rfl⟩ := h
    have hcountlt := beNat_lt count
    rw [hcount, ← hsigs] at hcountlt
    have hle : sigs.length ≤ 255 := by omega
    refine ⟨payload, ⟨hversion, hle, .of_beNat htime, hpayload, ?_, by omega⟩, rfl⟩
    -- the first byte is the version
    have hhead : data = data.headD 0 :: data.drop 1 := by
      cases data with
      | nil => simp [minVAALength] at hlength
      | cons b bs => rfl
    have hcountbyte : count = [UInt8.ofNat sigs.length] := by
      obtain ⟨b, rfl⟩ := List.length_eq_one_iff.mp hcount
      rw [hsigs, beNat_singleton, UInt8.ofNat_toNat]
    have hunix : Time.unix32 { unix := (beNat time : Int), nanosecond := 0 } = beNat time := by
      have hwhole := (Time.Whole.of_beNat htime).unix32
      dsimp only at hwhole
      exact_mod_cast hwhole
    have htimebytes : beBytes 4 (beNat time) = time := by
      rw [← htime, beBytes_beNat]
    conv_lhs => rw [hhead, hdata, hcountbyte]
    simp only [marshal, serializeBody, hunix, htimebytes,
      beBytes_of_mod hindex (UInt32.toNat_ofNat' ..), beBytes_of_mod hnonce (UInt32.toNat_ofNat' ..),
      beBytes_of_mod hchain (UInt16.toNat_ofNat' ..), beBytes_of_mod hsequence (UInt64.toNat_ofNat' ..),
      beBytes_of_mod hlevel (UInt8.toNat_ofNat' ..), List.singleton_append]
  · rintro ⟨payload, h, hpayload⟩
    have hdata := h.encoded
    have hunix := h.timestamp.unix32
    rw [unmarshal, if_neg (by have := h.minLength; omega)]
    have hhead : data.headD 0 = SupportedVAAVersion := by
      rw [hdata]
      exact h.version
    dsimp only
    rw [if_neg (not_not.mpr hhead)]
    simp only [Failing.bind_eq_ok, wrap_eq_ok, mapError_eq_ok, readFull_eq_ok, readSignatures_eq_ok,
      Prod.exists, readArray_eq_ok (show 0 < 32 by omega), read_eq_ok, pure, Except.pure,
      Except.ok.injEq]
    refine ⟨beBytes 4 v.guardianSetIndex.toNat, _, ⟨beBytes_length .., ?_⟩,
      [UInt8.ofNat v.signatures.length], _, ⟨rfl, rfl⟩, v.signatures, _, ⟨?_, rfl⟩,
      beBytes 4 v.timestamp.unix32, _, ⟨beBytes_length .., rfl⟩, beBytes 4 v.nonce.toNat, _,
      ⟨beBytes_length .., rfl⟩, beBytes 2 v.emitterChain.toNat, _, ⟨beBytes_length .., rfl⟩,
      v.emitterAddress, _, rfl, beBytes 8 v.sequence.toNat, _, ⟨beBytes_length .., rfl⟩,
      beBytes 1 v.consistencyLevel.toNat, payload, ⟨beBytes_length .., rfl⟩, _, _,
      ⟨h.nonempty, rfl, rfl⟩, ?_⟩
    · rw [hdata]
      rfl
    · rw [beNat_singleton, UInt8.toNat_ofNat', Nat.mod_eq_of_lt (by have := h.signatures; omega)]
    · rw [hhead, beNat_beBytes (toNat_lt_uint32 _), beNat_beBytes (toNat_lt_uint32 _),
        beNat_beBytes v.timestamp.unix32_lt, beNat_beBytes (toNat_lt_uint64 _),
        beNat_beBytes (toNat_lt_uint8 _), beNat_beBytes (toNat_lt_uint16 _), hunix, ← hpayload]
      have htimestamp : { unix := v.timestamp.unix, nanosecond := 0 } = v.timestamp := by
        rw [← h.timestamp.1]
      simp only [UInt32.ofNat_toNat, UInt64.ofNat_toNat, UInt8.ofNat_toNat, UInt16.ofNat_toNat,
        htimestamp, ← h.version]

/-! ## Round trips -/

/-- The signed part of an encoding: what follows its signatures. -/
def bodyOf (data : List UInt8) : List UInt8 := data.drop (6 + 66 * ((data.drop 5).headD 0).toNat)

/-- The payload of an encoding, of any length. -/
def payloadOf (data : List UInt8) : List UInt8 := (bodyOf data).drop 51

theorem bodyOf_marshal {v : VAA} (h : v.signatures.length ≤ 255) : bodyOf (marshal v) = serializeBody v := by
  have hcount : (((marshal v).drop 5).headD 0).toNat = v.signatures.length := by
    show (UInt8.ofNat v.signatures.length).toNat = v.signatures.length
    rw [UInt8.toNat_ofNat', Nat.mod_eq_of_lt (by omega)]
  have hlength := marshal_length v
  have hbody := serializeBody_length v
  have hsplit : marshal v = (v.version :: (beBytes 4 v.guardianSetIndex.toNat ++
      UInt8.ofNat v.signatures.length :: v.signatures.flatMap Signature.bytes)) ++ serializeBody v := by
    simp [marshal]
  rw [bodyOf, hcount]
  have hskip := congrArg List.length hsplit
  rw [List.length_append] at hskip
  conv_lhs => rw [hsplit]
  exact List.drop_left' (by omega)

theorem serializeBody_drop (v : VAA) : (serializeBody v).drop 51 = v.payload := by
  obtain ⟨-, -, htake⟩ := slice?_eq_some.mp (body_payload v)
  rwa [serializeBody_length, Nat.add_sub_cancel_left, List.take_of_length_le] at htake
  rw [List.length_drop, serializeBody_length]
  omega

theorem Encodes.bodyOf {v : VAA} {payload data : List UInt8} (h : Encodes v payload data) :
    Guardian.bodyOf data = serializeBody { v with payload } := by
  rw [h.encoded]
  exact bodyOf_marshal h.signatures

theorem Encodes.payloadOf {v : VAA} {payload data : List UInt8} (h : Encodes v payload data) :
    Guardian.payloadOf data = payload := by
  rw [Guardian.payloadOf, h.bodyOf]
  exact serializeBody_drop _

/-- The VAAs that are read back: of the supported version, with a payload of 1 to 1000 bytes, and not
shorter than the decoder asks for. -/
structure ReadBack (v : VAA) : Prop where
  version : v.version = SupportedVAAVersion
  nonempty : v.payload ≠ []
  buffer : v.payload.length ≤ 1000
  minLength : minVAALength ≤ 57 + 66 * v.signatures.length + v.payload.length

/-- **Writing, then reading.** -/
theorem unmarshal_marshal_iff {v : VAA} (hsigs : v.signatures.length ≤ 255) (htime : v.timestamp.Whole) :
    unmarshal (marshal v) = .ok v ↔ ReadBack v := by
  rw [unmarshal_eq_ok]
  constructor
  · rintro ⟨payload, h, hpayload⟩
    -- the payload of the encoding is the one that was written
    have hsame : v.payload = payload := by
      rw [← h.payloadOf, Guardian.payloadOf, bodyOf_marshal hsigs, serializeBody_drop]
    subst hsame
    have hmin := h.minLength
    rw [marshal_length] at hmin
    refine ⟨h.version, h.nonempty, ?_, hmin⟩
    have hlength := congrArg List.length hpayload
    rw [List.length_take] at hlength
    omega
  · intro h
    refine ⟨v.payload, ⟨h.version, hsigs, htime, h.nonempty, rfl, ?_⟩, ?_⟩
    · rw [marshal_length]
      exact h.minLength
    · rw [List.take_of_length_le h.buffer]

/-- **Reading, then writing**: the payload has to fit the buffer it is read through. -/
theorem marshal_unmarshal_iff {data : List UInt8} {v : VAA} (h : unmarshal data = .ok v) :
    (marshal v = data ↔ (payloadOf data).length ≤ 1000) ∧
      (serializeBody v = bodyOf data ↔ (payloadOf data).length ≤ 1000) := by
  obtain ⟨payload, hencodes, hpayload⟩ := unmarshal_eq_ok.mp h
  have hlength := congrArg List.length hpayload
  rw [List.length_take] at hlength
  rw [hencodes.payloadOf]
  have hfits : payload.length ≤ 1000 → v = { v with payload } := by
    intro hle
    rw [List.take_of_length_le hle] at hpayload
    rw [← hpayload]
  refine ⟨⟨?_, ?_⟩, ?_, ?_⟩
  · intro hsame
    rw [hencodes.encoded] at hsame
    have hbytes := congrArg List.length hsame
    rw [marshal_length, marshal_length] at hbytes
    dsimp only at hbytes
    omega
  · intro hle
    rw [hencodes.encoded, ← hfits hle]
  · intro hsame
    rw [hencodes.bodyOf] at hsame
    have hbytes := congrArg List.length hsame
    rw [serializeBody_length, serializeBody_length] at hbytes
    dsimp only at hbytes
    omega
  · intro hle
    rw [hencodes.bodyOf, ← hfits hle]

/-- **The round trips of the codec, exactly.** A VAA that `Marshal` can write (at most 255 signatures, a
whole number of seconds in the range of `uint32`) is read back if and only if it is one of `ReadBack`.
What `Unmarshal` accepts is written back as it was, with the signed body that it had, if and only if its
payload has at most 1000 bytes; the digest is then the one that was signed. -/
theorem codec_roundTrip_iff (crypto : Crypto) :
    (∀ v : VAA, v.signatures.length ≤ 255 → v.timestamp.Whole →
      (unmarshal (marshal v) = .ok v ↔ ReadBack v)) ∧
    ∀ (data : List UInt8) (v : VAA), unmarshal data = .ok v →
      (marshal v = data ↔ (payloadOf data).length ≤ 1000) ∧
      (serializeBody v = bodyOf data ↔ (payloadOf data).length ≤ 1000) ∧
      ((payloadOf data).length ≤ 1000 →
        signingMsg crypto v = crypto.Keccak256 (crypto.Keccak256 (bodyOf data)).val) := by
  refine ⟨fun _ => unmarshal_marshal_iff, ?_⟩
  intro data v h
  obtain ⟨hbytes, hbody⟩ := marshal_unmarshal_iff h
  refine ⟨hbytes, hbody, ?_⟩
  intro hle
  rw [signingMsg, hbody.mpr hle]

/-! ## Inputs -/

/-- A VAA with one signature and the given payload. -/
def samplePayload (payload : List UInt8) : VAA := { sampleInbound [0] with payload }

theorem samplePayload_roundTrip :
    unmarshal (marshal (samplePayload [0x01])) = .ok (samplePayload [0x01]) ∧
    ∃ v, unmarshal (marshal (samplePayload [0x01])) = .ok v ∧
      marshal v = marshal (samplePayload [0x01]) := by
  have hread : unmarshal (marshal (samplePayload [0x01])) = .ok (samplePayload [0x01]) :=
    ((codec_roundTrip_iff Crypto.sample).1 (samplePayload [0x01]) (by decide) (by decide)).mpr
      ⟨rfl, by decide, by decide, by decide⟩
  exact ⟨hread, _, hread, ((codec_roundTrip_iff Crypto.sample).2 _ _ hread).1.mpr (by decide)⟩

/-- **A payload that is empty or too long.** Without a payload the encoding is not read back; a payload
of 1001 bytes is cut, and what is decoded has another body than the one that was signed. -/
theorem samplePayload_lost :
    unmarshal (marshal (samplePayload [])) = .error "failed to read payload [0]: EOF" ∧
    ∃ v, unmarshal (marshal (samplePayload (List.replicate 1001 0x01))) = .ok v ∧
      v ≠ samplePayload (List.replicate 1001 0x01) ∧
      marshal v ≠ marshal (samplePayload (List.replicate 1001 0x01)) ∧
      serializeBody v ≠ serializeBody (samplePayload (List.replicate 1001 0x01)) := by
  refine ⟨by decide +kernel, samplePayload (List.replicate 1000 0x01), by decide +kernel, ?_⟩
  refine ⟨?_, ?_, ?_⟩ <;> decide +kernel

end Wormhole.Guardian

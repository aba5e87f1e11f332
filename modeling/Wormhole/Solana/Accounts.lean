/-
# Wormhole.Solana.Accounts — the accounts of the core program.

The data types of `bridge/program/src/accounts`, with their Borsh encodings and the seeds of their addresses.
Every encoding but those of messages is a codec; a message has three magic bytes in front, which are
written, but not looked at when it is read.

Nothing marks the kind of an account, so what cannot be read as what is proved here: the data of the other
kinds are no signature set, since they are too short, or their first bytes would count more signatures than
an account can hold, or their keys are no truth values.  The seeds of the kinds have different lengths.
-/
import Mathlib
import Wormhole.Lib.Bytes
import Wormhole.Lib.Codec
import Wormhole.Solana.Payloads
import Wormhole.Solana.Solitaire

namespace Wormhole.Solana

open Wormhole.Lib Wormhole.Lib.Bytes

/-! ## The data -/

/-- A codec of account data. -/
abbrev Borsh (T : Type) := Codec SolitaireError T

namespace Borsh

def u8 : Borsh UInt8 := Codec.uint8 .ioError
def u16 : Borsh UInt16 := Codec.uint16 .ioError
def u32 : Borsh UInt32 := Codec.uint32 .ioError
def u64 : Borsh UInt64 := Codec.uint64 .ioError
def bool : Borsh Bool := Codec.bool .ioError
def array (n : Nat) : Borsh (FixedBytes n) := Codec.array .ioError n
def vec {T : Type} (c : Borsh T) : Borsh (Vec T) := Codec.list u32 c .ioError

end Borsh

/-- `vec![]`. -/
def Vec.new {T : Type} : Vec T := ⟨[], Nat.two_pow_pos 32⟩

/-- `[0; n]`. -/
def zeros (n : Nat) : FixedBytes n := ⟨List.replicate n 0x00, List.length_replicate⟩

structure BridgeConfig where
  guardianSetExpirationTime : UInt32
  fee : UInt64
  deriving DecidableEq

structure BridgeData where
  guardianSetIndex : UInt32
  lastLamports : UInt64
  config : BridgeConfig
  deriving DecidableEq

def BridgeData.codec : Borsh BridgeData :=
  (Borsh.u32.pair (Borsh.u64.pair (Borsh.u32.pair Borsh.u64))).iso
    { toFun := fun p => ⟨p.1, p.2.1, ⟨p.2.2.1, p.2.2.2⟩⟩
      invFun := fun b => (b.guardianSetIndex, b.lastLamports, b.config.guardianSetExpirationTime, b.config.fee)
      left_inv := fun _ => rfl
      right_inv := fun _ => rfl }

instance : AccountData BridgeData where
  serialize := BridgeData.codec.write
  deserialize := BridgeData.codec.decode .ioError
  default := ⟨0, 0, ⟨0, 0⟩⟩

structure ClaimData where
  claimed : Bool
  deriving DecidableEq

def ClaimData.codec : Borsh ClaimData :=
  Borsh.bool.iso
    { toFun := fun b => ⟨b⟩
      invFun := ClaimData.claimed
      left_inv := fun _ => rfl
      right_inv := fun _ => rfl }

instance : AccountData ClaimData where
  serialize := ClaimData.codec.write
  deserialize := ClaimData.codec.decode .ioError
  default := ⟨false⟩

structure GuardianSetData where
  index : UInt32
  keys : Vec (FixedBytes 20)
  creationTime : UInt32
  expirationTime : UInt32
  deriving DecidableEq

def GuardianSetData.codec : Borsh GuardianSetData :=
  (Borsh.u32.pair ((Borsh.vec (Borsh.array 20)).pair (Borsh.u32.pair Borsh.u32))).iso
    { toFun := fun p => ⟨p.1, p.2.1, p.2.2.1, p.2.2.2⟩
      invFun := fun g => (g.index, g.keys, g.creationTime, g.expirationTime)
      left_inv := fun _ => rfl
      right_inv := fun _ => rfl }

instance : AccountData GuardianSetData where
  serialize := GuardianSetData.codec.write
  deserialize := GuardianSetData.codec.decode .ioError
  default := ⟨0, Vec.new, 0, 0⟩

/-- `num_guardians`. -/
def GuardianSetData.numGuardians (g : GuardianSetData) : UInt8 :=
  UInt8.ofNat (g.keys.val.filter (· ≠ zeros 20)).length

structure MessageData where
  vaaVersion : UInt8
  consistencyLevel : UInt8
  vaaTime : UInt32
  vaaSignatureAccount : FixedBytes 32
  submissionTime : UInt32
  nonce : UInt32
  sequence : UInt64
  emitterChain : UInt16
  emitterAddress : FixedBytes 32
  payload : Vec UInt8
  deriving DecidableEq

def MessageData.codec : Borsh MessageData :=
  (Borsh.u8.pair (Borsh.u8.pair (Borsh.u32.pair ((Borsh.array 32).pair (Borsh.u32.pair (Borsh.u32.pair
    (Borsh.u64.pair (Borsh.u16.pair ((Borsh.array 32).pair (Borsh.vec Borsh.u8)))))))))).iso
    { toFun := fun p => ⟨p.1, p.2.1, p.2.2.1, p.2.2.2.1, p.2.2.2.2.1, p.2.2.2.2.2.1, p.2.2.2.2.2.2.1,
        p.2.2.2.2.2.2.2.1, p.2.2.2.2.2.2.2.2.1, p.2.2.2.2.2.2.2.2.2⟩
      invFun := fun m => (m.vaaVersion, m.consistencyLevel, m.vaaTime, m.vaaSignatureAccount,
        m.submissionTime, m.nonce, m.sequence, m.emitterChain, m.emitterAddress, m.payload)
      left_inv := fun _ => rfl
      right_inv := fun _ => rfl }

/-- A message behind three magic bytes. -/
def MessageData.serialize (magic : List UInt8) (m : MessageData) : List UInt8 := magic ++ codec.write m

/-- The magic bytes are skipped. -/
def MessageData.deserialize (buf : List UInt8) : Result MessageData :=
  if buf.length < 3 then .error .panicked else codec.decode .ioError (buf.drop 3)

/-- What stands behind three magic bytes is read back. -/
theorem MessageData.deserialize_serialize {magic : List UInt8} {m m' : MessageData}
    (hmagic : magic.length = 3) : deserialize (m.serialize magic) = .ok m' ↔ m = m' := by
  have hlen : ¬(m.serialize magic).length < 3 := by
    rw [serialize, List.length_append, hmagic]
    omega
  have hdrop : (m.serialize magic).drop 3 = codec.write m := by
    rw [serialize, ← hmagic, List.drop_left]
  rw [deserialize, if_neg hlen, hdrop, Codec.decode_eq_ok]
  constructor
  · intro h
    have happend : codec.write m ++ [] = codec.write m' ++ [] := by rw [h]
    exact (Codec.write_append_inj happend).1
  · rintro rfl
    rfl

def MessageData.new : MessageData := ⟨0, 0, 0, zeros 32, 0, 0, 0, 0, zeros 32, Vec.new⟩

structure PostedVAAData where
  message : MessageData
  deriving DecidableEq

/-- "vaa" -/
def PostedVAAData.magic : List UInt8 := [0x76, 0x61, 0x61]

instance : AccountData PostedVAAData where
  serialize v := v.message.serialize PostedVAAData.magic
  deserialize buf := (MessageData.deserialize buf).map PostedVAAData.mk
  default := ⟨MessageData.new⟩

structure PostedMessageData where
  message : MessageData
  deriving DecidableEq

/-- "msg" -/
def PostedMessageData.magic : List UInt8 := [0x6d, 0x73, 0x67]

instance : AccountData PostedMessageData where
  serialize v := v.message.serialize PostedMessageData.magic
  deserialize buf := (MessageData.deserialize buf).map PostedMessageData.mk
  default := ⟨MessageData.new⟩

structure SequenceTracker where
  sequence : UInt64
  deriving DecidableEq

def SequenceTracker.codec : Borsh SequenceTracker :=
  Borsh.u64.iso
    { toFun := fun n => ⟨n⟩
      invFun := SequenceTracker.sequence
      left_inv := fun _ => rfl
      right_inv := fun _ => rfl }

instance : AccountData SequenceTracker where
  serialize := SequenceTracker.codec.write
  deserialize := SequenceTracker.codec.decode .ioError
  default := ⟨0⟩

structure SignatureSetData where
  signatures : Vec Bool
  hash : FixedBytes 32
  guardianSetIndex : UInt32
  deriving DecidableEq

def SignatureSetData.codec : Borsh SignatureSetData :=
  ((Borsh.vec Borsh.bool).pair ((Borsh.array 32).pair Borsh.u32)).iso
    { toFun := fun p => ⟨p.1, p.2.1, p.2.2⟩
      invFun := fun s => (s.signatures, s.hash, s.guardianSetIndex)
      left_inv := fun _ => rfl
      right_inv := fun _ => rfl }

instance : AccountData SignatureSetData where
  serialize := SignatureSetData.codec.write
  deserialize := SignatureSetData.codec.decode .ioError
  default := ⟨Vec.new, zeros 32, 0⟩

/-! ## Seeds -/

/-- "Bridge" -/
def bridgeSeed : List UInt8 := [0x42, 0x72, 0x69, 0x64, 0x67, 0x65]

/-- "fee_collector" -/
def feeCollectorSeed : List UInt8 :=
  [0x66, 0x65, 0x65, 0x5f, 0x63, 0x6f, 0x6c, 0x6c, 0x65, 0x63, 0x74, 0x6f, 0x72]

/-- "GuardianSet" and the index. -/
def guardianSetSeeds (index : UInt32) : List (List UInt8) :=
  [[0x47, 0x75, 0x61, 0x72, 0x64, 0x69, 0x61, 0x6e, 0x53, 0x65, 0x74], beBytes 4 index.toNat]

/-- "PostedVAA" and the hash. -/
def postedVaaSeeds (payloadHash : FixedBytes 32) : List (List UInt8) :=
  [[0x50, 0x6f, 0x73, 0x74, 0x65, 0x64, 0x56, 0x41, 0x41], payloadHash.val]

/-- "Sequence" and the emitter. -/
def sequenceSeeds (emitterKey : FixedBytes 32) : List (List UInt8) :=
  [[0x53, 0x65, 0x71, 0x75, 0x65, 0x6e, 0x63, 0x65], emitterKey.val]

/-- The emitter, its chain and the sequence. -/
def claimSeeds (m : MessageData) : List (List UInt8) :=
  [m.emitterAddress.val, beBytes 2 m.emitterChain.toNat, beBytes 8 m.sequence.toNat]

/-! ## Lengths -/

section Lengths

theorem BridgeData.write_length (b : BridgeData) : (BridgeData.codec.write b).length = 24 := by
  simp [BridgeData.codec, Codec.iso, Borsh.u32, Borsh.u64]

theorem ClaimData.write_length (c : ClaimData) : (ClaimData.codec.write c).length = 1 := by
  simp [ClaimData.codec, Codec.iso, Borsh.bool]

theorem SequenceTracker.write_length (t : SequenceTracker) :
    (SequenceTracker.codec.write t).length = 8 := by
  simp [SequenceTracker.codec, Codec.iso, Borsh.u64]

theorem GuardianSetData.write_eq (g : GuardianSetData) :
    GuardianSetData.codec.write g = Borsh.u32.write g.index ++
      (Borsh.u32.write (UInt32.ofNat g.keys.val.length) ++ g.keys.val.flatMap (Borsh.array 20).write ++
        (Borsh.u32.write g.creationTime ++ Borsh.u32.write g.expirationTime)) := rfl

theorem SignatureSetData.write_eq (s : SignatureSetData) :
    SignatureSetData.codec.write s =
      Borsh.u32.write (UInt32.ofNat s.signatures.val.length) ++ s.signatures.val.flatMap Borsh.bool.write ++
        (s.hash.val ++ Borsh.u32.write s.guardianSetIndex) := rfl

theorem u32_write_length (n : UInt32) : (Borsh.u32.write n).length = 4 := by
  simp [Borsh.u32]

theorem GuardianSetData.write_length (g : GuardianSetData) :
    (GuardianSetData.codec.write g).length = 16 + g.keys.val.length * 20 := by
  have hkeys : (g.keys.val.flatMap (Borsh.array 20).write).length = g.keys.val.length * 20 :=
    Codec.flatMap_write_length (fun a => a.property) _
  simp only [GuardianSetData.write_eq, List.length_append, u32_write_length, hkeys]
  omega

theorem SignatureSetData.write_length (s : SignatureSetData) :
    (SignatureSetData.codec.write s).length = 40 + s.signatures.val.length := by
  have hbools : (s.signatures.val.flatMap Borsh.bool.write).length = s.signatures.val.length * 1 :=
    Codec.flatMap_write_length (fun b => by simp [Borsh.bool]) _
  simp only [SignatureSetData.write_eq, List.length_append, u32_write_length, hbools, s.hash.property]
  omega

end Lengths

/-! ## What is no signature set -/

section SignatureSets

/-- The bytes can be read as a signature set. -/
def IsSignatureSet (data : List UInt8) : Prop := ∃ s : SignatureSetData, data = SignatureSetData.codec.write s

/-- A signature set starts with the number of its signatures. -/
theorem SignatureSetData.beNat_count (s : SignatureSetData) {rest : List UInt8} {head : FixedBytes 4}
    (h : head.val ++ rest = SignatureSetData.codec.write s) :
    beNat head.val.reverse = s.signatures.val.length := by
  rw [SignatureSetData.write_eq, List.append_assoc] at h
  have hhead : head.val = Borsh.u32.write (UInt32.ofNat s.signatures.val.length) :=
    (List.append_inj h (by rw [head.property, u32_write_length])).1
  have hlen : (UInt32.ofNat s.signatures.val.length).toNat = s.signatures.val.length := by
    rw [UInt32.toNat_ofNat']
    exact Nat.mod_eq_of_lt s.signatures.property
  rw [hhead]
  show beNat (beBytes 4 (UInt32.ofNat s.signatures.val.length).toNat).reverse.reverse = _
  rw [List.reverse_reverse, hlen, beNat_beBytes s.signatures.property]

theorem not_signatureSet_of_length {data : List UInt8} (h : data.length < 40) : ¬IsSignatureSet data := by
  rintro ⟨s, rfl⟩
  rw [SignatureSetData.write_length] at h
  omega

/-- Data that count more signatures than an account holds. -/
theorem not_signatureSet_of_count {head : FixedBytes 4} {rest : List UInt8}
    (hcount : MAX_PERMITTED_DATA_INCREASE < beNat head.val.reverse)
    (hlen : (head.val ++ rest).length ≤ MAX_PERMITTED_DATA_INCREASE) :
    ¬IsSignatureSet (head.val ++ rest) := by
  rintro ⟨s, hs⟩
  rw [s.beNat_count hs] at hcount
  rw [hs, SignatureSetData.write_length] at hlen
  omega

/-- The first two magic bytes and the third count more than six million. -/
theorem MessageData.not_signatureSet {magic : List UInt8} {m : MessageData} (b₀ b₁ b₂ : UInt8)
    (hmagic : magic = [b₀, b₁, b₂]) (hb : 0x60 < b₂.toNat)
    (hlen : (m.serialize magic).length ≤ MAX_PERMITTED_DATA_INCREASE) :
    ¬IsSignatureSet (m.serialize magic) := by
  obtain ⟨rest, hrest⟩ : ∃ rest, MessageData.codec.write m = Borsh.u8.write m.vaaVersion ++ rest :=
    ⟨_, rfl⟩
  have heq : m.serialize magic = [b₀, b₁, b₂, m.vaaVersion] ++ rest := by
    rw [MessageData.serialize, hmagic, hrest, Borsh.u8, Codec.uint8_write]
    rfl
  rw [heq] at hlen ⊢
  have h := m.vaaVersion.toNat_lt
  let head : FixedBytes 4 := ⟨[b₀, b₁, b₂, m.vaaVersion], rfl⟩
  have hcount : MAX_PERMITTED_DATA_INCREASE < beNat head.val.reverse := by
    show MAX_PERMITTED_DATA_INCREASE < beNat [b₀, b₁, b₂, m.vaaVersion].reverse
    simp only [List.reverse_cons, List.reverse_nil, List.nil_append, List.cons_append, beNat,
      List.length_cons, List.length_nil, MAX_PERMITTED_DATA_INCREASE]
    omega
  exact not_signatureSet_of_count hcount hlen

/-- The number of keys of a guardian set, of at most 255 keys, stands where a signature set has its first
signatures. -/
theorem GuardianSetData.not_signatureSet {g : GuardianSetData} (h : g.keys.val.length ≤ 255) :
    ¬IsSignatureSet (GuardianSetData.codec.write g) := by
  rintro ⟨s, hs⟩
  have hlen := congrArg List.length hs
  rw [g.write_length, s.write_length] at hlen
  -- there are at least two keys and a signature
  have hkeys : 2 ≤ g.keys.val.length := by omega
  obtain ⟨b, bs, hsigs⟩ : ∃ b bs, s.signatures.val = b :: bs :=
    List.exists_cons_of_ne_nil (List.length_pos_iff.mp (by omega))
  rw [GuardianSetData.write_eq, SignatureSetData.write_eq,
    List.append_assoc (Borsh.u32.write (UInt32.ofNat s.signatures.val.length))] at hs
  have htail := (List.append_inj hs (by rw [u32_write_length, u32_write_length])).2
  rw [hsigs, List.flatMap_cons, Borsh.bool, Codec.bool_write] at htail
  have hcount : (UInt32.ofNat g.keys.val.length).toNat = g.keys.val.length := by
    rw [UInt32.toNat_ofNat']
    exact Nat.mod_eq_of_lt g.keys.property
  have hfirst : Borsh.u32.write (UInt32.ofNat g.keys.val.length) =
      (beBytes 4 g.keys.val.length).reverse := by
    rw [Borsh.u32, Codec.uint32_write, hcount]
  rw [hfirst] at htail
  simp only [beBytes, List.reverse_cons, List.reverse_nil, List.nil_append, List.cons_append,
    List.cons.injEq, Nat.pow_zero, Nat.div_one] at htail
  have hbyte := congrArg UInt8.toNat htail.1
  rw [UInt8.toNat_ofNat', Nat.mod_eq_of_lt (by omega)] at hbyte
  have htruth : (if b = true then 1 else 0 : UInt8).toNat ≤ 1 := by
    cases b <;> decide
  omega

/-- Zeros have no signatures. -/
theorem SignatureSetData.signatures_of_zeros {n : Nat} {s : SignatureSetData}
    (h : List.replicate n 0x00 = SignatureSetData.codec.write s) : s.signatures.val = [] := by
  have hlen := congrArg List.length h
  rw [List.length_replicate, s.write_length] at hlen
  have hsplit : List.replicate n (0x00 : UInt8) =
      (⟨List.replicate 4 0x00, rfl⟩ : FixedBytes 4).val ++ List.replicate (n - 4) 0x00 := by
    show _ = List.replicate 4 0x00 ++ List.replicate (n - 4) 0x00
    rw [List.replicate_append_replicate]
    congr 1
    omega
  rw [hsplit] at h
  have hcount := s.beNat_count h
  exact List.length_eq_zero_iff.mp hcount.symm

end SignatureSets

/-! ## Addresses -/

section Addresses

variable {Pubkey : Type} {P : Program Pubkey} {used : Set (List (List UInt8))}

variable (P) in
/-- The addresses of the seeds in use are derived without a collision, up to how the seeds are cut. -/
structure Program.CollisionFree (used : Set (List (List UInt8))) : Prop where
  derive : ∀ s ∈ used, ∀ t ∈ used, P.derive s = P.derive t → s.flatten = t.flatten

variable (P) in
/-- An address of the program, of seeds in use. -/
def Program.IsDerived (used : Set (List (List UInt8))) (k : Pubkey) : Prop := ∃ seeds ∈ used, k = P.derive seeds

theorem Program.CollisionFree.ne (hfree : P.CollisionFree used) {s t : List (List UInt8)} (hs : s ∈ used)
    (ht : t ∈ used) (h : s.flatten.length ≠ t.flatten.length) : P.derive s ≠ P.derive t :=
  fun heq => h (congrArg List.length (hfree.derive s hs t ht heq))

@[simp]
theorem guardianSetSeeds_length (index : UInt32) : (guardianSetSeeds index).flatten.length = 15 := by
  simp [guardianSetSeeds]

@[simp]
theorem postedVaaSeeds_length (hash : FixedBytes 32) : (postedVaaSeeds hash).flatten.length = 41 := by
  simp [postedVaaSeeds, hash.property]

@[simp]
theorem sequenceSeeds_length (emitterKey : FixedBytes 32) :
    (sequenceSeeds emitterKey).flatten.length = 40 := by
  simp [sequenceSeeds, emitterKey.property]

@[simp]
theorem claimSeeds_length (m : MessageData) : (claimSeeds m).flatten.length = 42 := by
  simp [claimSeeds, m.emitterAddress.property]

theorem guardianSet_injective (hfree : P.CollisionFree used) (hused : ∀ index, guardianSetSeeds index ∈ used)
    {i j : UInt32} (h : P.derive (guardianSetSeeds i) = P.derive (guardianSetSeeds j)) : i = j := by
  have hflat := hfree.derive _ (hused i) _ (hused j) h
  simp only [guardianSetSeeds, List.flatten_cons, List.flatten_nil, List.append_nil,
    List.append_cancel_left_eq] at hflat
  exact UInt32.toNat_inj.mp (beBytes_injective (toNat_lt_uint32 i) (toNat_lt_uint32 j) hflat)

theorem postedVaa_injective (hfree : P.CollisionFree used) {h h' : FixedBytes 32} (hh : postedVaaSeeds h ∈ used)
    (hh' : postedVaaSeeds h' ∈ used) (heq : P.derive (postedVaaSeeds h) = P.derive (postedVaaSeeds h')) :
    h = h' := by
  have hflat := hfree.derive _ hh _ hh' heq
  simp only [postedVaaSeeds, List.flatten_cons, List.flatten_nil, List.append_nil,
    List.append_cancel_left_eq] at hflat
  exact Subtype.ext hflat

end Addresses

end Wormhole.Solana

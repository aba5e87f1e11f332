/-
# Wormhole.Sdk.Vaa — the Rust SDK on the VAAs of the guardian node.

The SDK's `VAA` with its parser (`sdk/rust/core/src/vaa.rs`), a chain of nom's readers, and `digest`, which writes the
body again.  The emitter chain is an enumeration that ends at 7, while the node's chain ids go on: `fromBytes_marshal`
says what the SDK makes of any VAA that the node writes.
-/
import Mathlib
import Wormhole.Lib.Bytes
import Wormhole.Lib.Failing
import Wormhole.Lib.Reader
import Wormhole.Guardian.Vaa

namespace Wormhole.Sdk

open Wormhole.Lib Wormhole.Lib.Bytes
open Wormhole.Guardian (Crypto)

/-! ## Chains -/

/-- `Chain` -/
inductive Chain where
  | all
  | solana
  | ethereum
  | terra
  | binance
  | polygon
  | avax
  | oasis
  deriving DecidableEq

/-- `chain as u16` -/
def Chain.toU16 : Chain → UInt16
  | all => 0
  | solana => 1
  | ethereum => 2
  | terra => 3
  | binance => 4
  | polygon => 5
  | avax => 6
  | oasis => 7

/-- `Chain::try_from` -/
def Chain.tryFrom (other : UInt16) : Option Chain :=
  match other.toNat with
  | 0 => some all
  | 1 => some solana
  | 2 => some ethereum
  | 3 => some terra
  | 4 => some binance
  | 5 => some polygon
  | 6 => some avax
  | 7 => some oasis
  | _ => none

theorem Chain.tryFrom_toU16 (c : Chain) : tryFrom c.toU16 = some c := by cases c <;> rfl

theorem Chain.toU16_of_tryFrom {other : UInt16} {c : Chain} (h : tryFrom other = some c) : c.toU16 = other := by
  apply UInt16.toNat.inj
  unfold tryFrom at h
  split at h
  case h_9 => cases h
  all_goals
    rename_i heq
    obtain rfl := Option.some.inj h
    exact heq.symm

theorem Chain.tryFrom_isSome (other : UInt16) : (tryFrom other).isSome ↔ other ≤ 7 := by
  show _ ↔ other.toNat ≤ 7
  unfold tryFrom
  split
  case h_9 =>
    rw [Option.isSome_none, Bool.false_eq_true, false_iff]
    grind
  all_goals
    rw [Option.isSome_some, eq_self, true_iff]
    omega

/-! ## Parsing -/

/-- The error kinds of nom that come up. -/
inductive ErrorKind where
  | eof
  | noneOf
  | verify
  deriving DecidableEq

inductive WormholeError where
  | invalidGovernanceAction
  | invalidGovernanceChain
  | invalidGovernanceModule
  | parseError (code : ErrorKind)
  deriving DecidableEq

structure VAA where
  version : UInt8
  guardianSetIndex : UInt32
  signatures : List (FixedBytes 66)
  timestamp : UInt32
  nonce : UInt32
  emitterChain : Chain
  emitterAddress : FixedBytes 32
  sequence : UInt64
  consistencyLevel : UInt8
  payload : List UInt8
  deriving DecidableEq

abbrev Parser := Reader ErrorKind

def u8 : Parser UInt8 := do return UInt8.ofNat (← Reader.number .eof 1)
def u16 : Parser UInt16 := do return UInt16.ofNat (← Reader.number .eof 2)
def u32 : Parser UInt32 := do return UInt32.ofNat (← Reader.number .eof 4)
def u64 : Parser UInt64 := do return UInt64.ofNat (← Reader.number .eof 8)

/-- `parse_fixed` -/
def parseFixed (n : Nat) : Parser (FixedBytes n) := Reader.array .eof n

/-- `parse_chain` -/
def parseChain : Parser Chain := do
  match Chain.tryFrom (← u16) with
  | some chain => return chain
  | none => throw .noneOf

/-- `rest` -/
def rest : Parser (List UInt8) := fun bs => .ok (bs, [])

/-- `parse_vaa` -/
def parseVaa : Parser VAA := do
  let version ← u8
  let guardianSetIndex ← u32
  let signatureCount ← u8
  let signatures ← Reader.replicate (parseFixed 66) signatureCount.toNat
  let timestamp ← u32
  let nonce ← u32
  let emitterChain ← parseChain
  let emitterAddress ← parseFixed 32
  let sequence ← u64
  let consistencyLevel ← u8
  let payload ← rest
  return { version, guardianSetIndex, signatures, timestamp, nonce, emitterChain, emitterAddress, sequence,
           consistencyLevel, payload }

/-- `VAA::from_bytes` -/
def VAA.fromBytes (input : List UInt8) : Except WormholeError VAA :=
  (parseVaa.decode input).mapError WormholeError.parseError

/-! ## Digest -/

/-- `VAADigest` -/
structure VAADigest where
  digest : List UInt8
  hash : FixedBytes 32

/-- `digest`; writing to memory does not fail. -/
def VAA.digest (crypto : Crypto) (v : VAA) : Option VAADigest :=
  let body := beBytes 4 v.timestamp.toNat ++ (beBytes 4 v.nonce.toNat ++ (beBytes 2 v.emitterChain.toU16.toNat ++
    (v.emitterAddress.val ++ (beBytes 8 v.sequence.toNat ++ (beBytes 1 v.consistencyLevel.toNat ++ v.payload)))))
  some { digest := body, hash := crypto.Keccak256 body }

/-! ## What the node writes -/

section Readers

variable {bs rest : List UInt8}

theorem u8_eq_ok {x : UInt8} : u8.run bs = .ok (x, rest) ↔ bs = x :: rest := by
  rw [← List.singleton_append, ← beBytes_uint8 x]
  exact Reader.ofNat_eq_ok (fun _ => UInt8.toNat_ofNat_of_lt') (fun _ => UInt8.ofNat_toNat) toNat_lt_uint8

theorem u16_eq_ok {x : UInt16} : u16.run bs = .ok (x, rest) ↔ bs = beBytes 2 x.toNat ++ rest :=
  Reader.ofNat_eq_ok (fun _ => UInt16.toNat_ofNat_of_lt') (fun _ => UInt16.ofNat_toNat) toNat_lt_uint16

theorem u32_eq_ok {x : UInt32} : u32.run bs = .ok (x, rest) ↔ bs = beBytes 4 x.toNat ++ rest :=
  Reader.ofNat_eq_ok (fun _ => UInt32.toNat_ofNat_of_lt') (fun _ => UInt32.ofNat_toNat) toNat_lt_uint32

theorem u64_eq_ok {x : UInt64} : u64.run bs = .ok (x, rest) ↔ bs = beBytes 8 x.toNat ++ rest :=
  Reader.ofNat_eq_ok (fun _ => UInt64.toNat_ofNat_of_lt') (fun _ => UInt64.ofNat_toNat) toNat_lt_uint64

theorem u8_cons (x : UInt8) : u8.run (x :: bs) = .ok (x, bs) := u8_eq_ok.mpr rfl

theorem u16_append (x : UInt16) : u16.run (beBytes 2 x.toNat ++ bs) = .ok (x, bs) := u16_eq_ok.mpr rfl

theorem u32_append (x : UInt32) : u32.run (beBytes 4 x.toNat ++ bs) = .ok (x, bs) := u32_eq_ok.mpr rfl

theorem u64_append (x : UInt64) : u64.run (beBytes 8 x.toNat ++ bs) = .ok (x, bs) := u64_eq_ok.mpr rfl

theorem parseChain_append (x : UInt16) :
    parseChain.run (beBytes 2 x.toNat ++ bs) =
      match Chain.tryFrom x with
      | some chain => .ok (chain, bs)
      | none => .error .noneOf := by
  rw [parseChain, Reader.bind_run, u16_append, Failing.ok_bind]
  show (match Chain.tryFrom x with
    | some chain => pure chain
    | none => throw .noneOf : Parser Chain).run bs = _
  cases Chain.tryFrom x <;> rfl

end Readers

section Marshal

variable {v : Guardian.VAA} {t : UInt32}

/-- The signatures as the SDK has them. -/
def signatures (v : Guardian.VAA) : List (FixedBytes 66) :=
  v.signatures.map fun sig => ⟨sig.bytes, sig.bytes_length⟩

theorem signatures_flatMap (v : Guardian.VAA) :
    (signatures v).flatMap Subtype.val = v.signatures.flatMap Guardian.Signature.bytes := by
  rw [signatures, List.flatMap_map]

/-- The SDK's VAA with the fields of the node's. -/
def ofNode (v : Guardian.VAA) (timestamp : UInt32) (emitterChain : Chain) : VAA where
  version := v.version
  guardianSetIndex := v.guardianSetIndex
  signatures := signatures v
  timestamp := timestamp
  nonce := v.nonce
  emitterChain := emitterChain
  emitterAddress := v.emitterAddress
  sequence := v.sequence
  consistencyLevel := v.consistencyLevel
  payload := v.payload

theorem unix32_eq (htime : v.timestamp = ⟨t.toNat, 0⟩) : v.timestamp.unix32 = t.toNat := by
  have hlt := t.toNat_lt
  rw [htime]
  show ((t.toNat : Int) % 2 ^ 32).toNat = t.toNat
  omega

/-- **What the SDK reads** of a VAA that the node has written. -/
theorem fromBytes_marshal (hcount : v.signatures.length ≤ 255) (htime : v.timestamp = ⟨t.toNat, 0⟩) :
    VAA.fromBytes (Guardian.marshal v) =
      match Chain.tryFrom v.emitterChain with
      | some chain => .ok (ofNode v t chain)
      | none => .error (.parseError .noneOf) := by
  have hlen : (UInt8.ofNat v.signatures.length).toNat = (signatures v).length := by
    rw [UInt8.toNat_ofNat', signatures, List.length_map]
    omega
  have hsignatures : (Reader.replicate (parseFixed 66) (signatures v).length).run
      (v.signatures.flatMap Guardian.Signature.bytes ++ Guardian.serializeBody v) =
        .ok (signatures v, Guardian.serializeBody v) := by
    rw [← signatures_flatMap]
    exact Reader.replicate_append (fun a _ => Reader.array_append a) (signatures v)
  rw [VAA.fromBytes, Reader.decode, parseVaa, Guardian.marshal, Reader.bind_run, u8_cons, Failing.ok_bind,
    Reader.bind_run, u32_append, Failing.ok_bind, Reader.bind_run, u8_cons, Failing.ok_bind, Reader.bind_run, hlen,
    hsignatures, Failing.ok_bind, Reader.bind_run, Guardian.serializeBody, unix32_eq htime, u32_append,
    Failing.ok_bind, Reader.bind_run, u32_append, Failing.ok_bind, Reader.bind_run, parseChain_append]
  cases Chain.tryFrom v.emitterChain with
  | none => rfl
  | some chain =>
    dsimp only
    rw [Failing.ok_bind, Reader.bind_run, parseFixed, Reader.array_append, Failing.ok_bind, Reader.bind_run, u64_append,
      Failing.ok_bind, Reader.bind_run, beBytes_uint8, List.singleton_append,
      u8_cons, Failing.ok_bind]
    rfl

/-- The digest of what has been read. -/
theorem digest_ofNode (crypto : Crypto) (htime : v.timestamp = ⟨t.toNat, 0⟩) {chain : Chain}
    (hchain : Chain.tryFrom v.emitterChain = some chain) :
    (ofNode v t chain).digest crypto =
      some ⟨Guardian.serializeBody v, crypto.Keccak256 (Guardian.serializeBody v)⟩ := by
  have hbody : Guardian.serializeBody v = beBytes 4 t.toNat ++ (beBytes 4 v.nonce.toNat ++
      (beBytes 2 chain.toU16.toNat ++ (v.emitterAddress.val ++ (beBytes 8 v.sequence.toNat ++
        (beBytes 1 v.consistencyLevel.toNat ++ v.payload))))) := by
    rw [Guardian.serializeBody, unix32_eq htime, Chain.toU16_of_tryFrom hchain]
  rw [hbody]
  rfl

end Marshal

/-! ## Reading the node's VAAs -/

/-- The two VAAs have the same fields. -/
structure SameFields (v : Guardian.VAA) (w : VAA) : Prop where
  version : w.version = v.version
  guardianSetIndex : w.guardianSetIndex = v.guardianSetIndex
  signatures : w.signatures.map Subtype.val = v.signatures.map Guardian.Signature.bytes
  timestamp : v.timestamp = ⟨w.timestamp.toNat, 0⟩
  nonce : w.nonce = v.nonce
  emitterChain : w.emitterChain.toU16 = v.emitterChain
  emitterAddress : w.emitterAddress = v.emitterAddress
  sequence : w.sequence = v.sequence
  consistencyLevel : w.consistencyLevel = v.consistencyLevel
  payload : w.payload = v.payload

/-- The SDK reads the VAA: its fields, its body, and the hash that the guardians sign. -/
def Reads (crypto : Crypto) (v : Guardian.VAA) : Prop :=
  ∃ w, VAA.fromBytes (Guardian.marshal v) = .ok w ∧ SameFields v w ∧
    ∃ d, w.digest crypto = some d ∧ d.digest = Guardian.serializeBody v ∧
      crypto.Keccak256 d.hash.val = Guardian.signingMsg crypto v

/-- **The SDK reads a VAA of the node exactly if it knows the emitter chain**, of which it has those up to 7. -/
theorem reads_iff (crypto : Crypto) {v : Guardian.VAA} (hcount : v.signatures.length ≤ 255) {t : UInt32}
    (htime : v.timestamp = ⟨t.toNat, 0⟩) : Reads crypto v ↔ v.emitterChain ≤ 7 := by
  rw [← Chain.tryFrom_isSome, Option.isSome_iff_exists]
  have hread := fromBytes_marshal hcount htime
  constructor
  · rintro ⟨w, hok, -⟩
    rw [hread] at hok
    cases hchain : Chain.tryFrom v.emitterChain with
    | none =>
      rw [hchain] at hok
      cases hok
    | some chain => exact ⟨chain, rfl⟩
  · rintro ⟨chain, hchain⟩
    rw [hchain] at hread
    refine ⟨ofNode v t chain, hread, ?_, _, digest_ofNode crypto htime hchain, rfl, rfl⟩
    exact
      { version := rfl
        guardianSetIndex := rfl
        signatures := by
          show (signatures v).map Subtype.val = _
          rw [signatures, List.map_map]
          rfl
        timestamp := htime
        nonce := rfl
        emitterChain := Chain.toU16_of_tryFrom hchain
        emitterAddress := rfl
        sequence := rfl
        consistencyLevel := rfl
        payload := rfl }

/-! ## Samples -/

section Samples

/-- The chain ids of the node. -/
def nodeChains : List UInt16 := [0, 1, 2, 3, 4, 5, 6, 7, 8, 10, 11, 12, 13, 10001]

/-- A VAA of Alephium. -/
def sampleVaa : Guardian.VAA where
  version := 1
  guardianSetIndex := 0
  signatures := [⟨0, ⟨List.replicate 65 7, List.length_replicate⟩⟩]
  timestamp := ⟨1, 0⟩
  nonce := 1
  sequence := 20
  consistencyLevel := 0
  emitterChain := 13
  emitterAddress := ⟨List.replicate 32 4, List.length_replicate⟩
  payload := [1, 2, 3]

theorem padded_length (bs : List UInt8) : ((bs ++ List.replicate 32 0).take 32).length = 32 := by simp

def sampleCrypto : Crypto where
  Keccak256 := fun bs => ⟨(bs ++ List.replicate 32 0).take 32, padded_length bs⟩
  Ecrecover := fun _ _ => none

example : VAA.fromBytes (Guardian.marshal { sampleVaa with emitterChain := 2 }) =
    .ok (ofNode { sampleVaa with emitterChain := 2 } 1 .ethereum) := by decide +kernel

/-- It is not read. -/
theorem sampleVaa_not_read :
    ¬∀ (crypto : Crypto) (v : Guardian.VAA) (t : UInt32), v.signatures.length ≤ 255 → v.timestamp = ⟨t.toNat, 0⟩ →
      v.emitterChain ∈ nodeChains → Reads crypto v := by
  intro h
  obtain ⟨w, hok, -⟩ := h sampleCrypto sampleVaa 1 (by decide) rfl (by decide)
  have herror : VAA.fromBytes (Guardian.marshal sampleVaa) = .error (.parseError .noneOf) := by decide +kernel
  cases herror.symm.trans hok

theorem sampleVaa_reads_iff :
    (Reads sampleCrypto { sampleVaa with emitterChain := 2 } ↔ (2 : UInt16) ≤ 7) ∧
      (Reads sampleCrypto sampleVaa ↔ (13 : UInt16) ≤ 7) :=
  ⟨reads_iff sampleCrypto (v := { sampleVaa with emitterChain := 2 }) (by decide) (t := 1) rfl,
    reads_iff sampleCrypto (v := sampleVaa) (by decide) (t := 1) rfl⟩

end Samples

end Wormhole.Sdk

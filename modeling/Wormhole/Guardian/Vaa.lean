/-
# Wormhole.Guardian.Vaa — the guardian node's VAA and its binary form.

The Go type `vaa.VAA` with its codec (`node/pkg/vaa/structs.go`): `Marshal` and `serializeBody` write
it, `Unmarshal` reads it, `VerifySignatures` checks its signatures against a list of addresses.
Machine integers are Lean's fixed-width types; a reader is the list of the bytes still unread.

The elliptic-curve and hash functions of go-ethereum are parameters (`Crypto`).
-/
import Mathlib
import Wormhole.Lib.Bytes

namespace Wormhole.Guardian

open Wormhole.Lib.Bytes

/-! ## The data -/

abbrev ChainID := UInt16
/-- A Wormhole address, zero-padded on the left to 32 bytes. -/
abbrev Address := FixedBytes 32
abbrev SignatureData := FixedBytes 65

/-- `common.Address` of go-ethereum. -/
abbrev EthAddress := FixedBytes 20

/-- A `time.Time`: seconds since the epoch and the nanoseconds within the second. -/
structure Time where
  unix : Int
  nanosecond : Nat
  deriving DecidableEq, Repr

/-- The signature of a single guardian. -/
structure Signature where
  index : UInt8
  signature : SignatureData
  deriving DecidableEq

structure VAA where
  version : UInt8
  guardianSetIndex : UInt32
  signatures : List Signature
  timestamp : Time
  nonce : UInt32
  sequence : UInt64
  consistencyLevel : UInt8
  emitterChain : ChainID
  emitterAddress : Address
  payload : List UInt8
  deriving DecidableEq

/-- `common.MessagePublication`: a message that a watcher has observed. -/
structure MessagePublication where
  txHash : FixedBytes 32
  timestamp : Time
  nonce : UInt32
  sequence : UInt64
  consistencyLevel : UInt8
  emitterChain : ChainID
  emitterAddress : Address
  payload : List UInt8
  deriving DecidableEq

def minVAALength : Nat := 1 + 4 + 52 + 4 + 1 + 1
def SupportedVAAVersion : UInt8 := 0x01

/-! ## Writing -/

/-- The conversion `uint32(v.Timestamp.Unix())` keeps the low 32 bits. -/
def Time.unix32 (t : Time) : Nat := (t.unix % 2 ^ 32).toNat

def serializeBody (v : VAA) : List UInt8 :=
  beBytes 4 v.timestamp.unix32 ++ (beBytes 4 v.nonce.toNat ++ (beBytes 2 v.emitterChain.toNat ++
    (v.emitterAddress.val ++ (beBytes 8 v.sequence.toNat ++
      (beBytes 1 v.consistencyLevel.toNat ++ v.payload)))))

/-- One signature as `Marshal` writes it. -/
def Signature.bytes (sig : Signature) : List UInt8 := sig.index :: sig.signature.val

/-- `Marshal`.  The number of signatures is written as `uint8(len(v.Signatures))`. -/
def marshal (v : VAA) : List UInt8 :=
  v.version :: (beBytes 4 v.guardianSetIndex.toNat ++ (UInt8.ofNat v.signatures.length ::
    (v.signatures.flatMap Signature.bytes ++ serializeBody v)))

/-! ## Reading -/

/-- `io.ReadFull` behind `binary.Read`: exactly `n` bytes, or `EOF` and `unexpected EOF`. -/
def readFull (n : Nat) (reader : List UInt8) : Except String (List UInt8 × List UInt8) :=
  if n ≤ reader.length then .ok (reader.take n, reader.drop n)
  else if reader = [] then .error "EOF"
  else .error "unexpected EOF"

/-- `bytes.Reader.Read` on a buffer of `n > 0` bytes: what is there, `EOF` when nothing is. -/
def read (n : Nat) (reader : List UInt8) : Except String (List UInt8 × List UInt8) :=
  if reader = [] then .error "EOF" else .ok (reader.take n, reader.drop n)

/-- Wrap the error of a read as `fmt.Errorf` does with `%w`. -/
def wrap {α : Type} (msg : String) : Except String α → Except String α
  | .ok a => .ok a
  | .error err => .error (msg ++ ": " ++ err)

/-- A read into a `[n]byte` that must fill it; a short read has no error to wrap. -/
def readArray (msg : Nat → String) (n : Nat) (reader : List UInt8) :
    Except String (FixedBytes n × List UInt8) :=
  match read n reader with
  | .error err => .error (msg 0 ++ ": " ++ err)
  | .ok (bs, rest) =>
    if h : bs.length = n then .ok (⟨bs, h⟩, rest)
    else .error (msg bs.length ++ ": %!w(<nil>)")

/-- The signature loop of `Unmarshal`, from signature `i` on. -/
def readSignatures : Nat → Nat → List UInt8 → Except String (List Signature × List UInt8)
  | 0, _, reader => .ok ([], reader)
  | _ + 1, i, [] => .error ("failed to read validator index [" ++ toString i ++ "]")
  | n + 1, i, index :: reader => do
    let (signature, reader) ←
      readArray (fun _ => "failed to read signature [" ++ toString i ++ "]") 65 reader
    let (signatures, reader) ← readSignatures n (i + 1) reader
    return ({ index, signature } :: signatures, reader)

/-- `Unmarshal`. -/
def unmarshal (data : List UInt8) : Except String VAA :=
  if data.length < minVAALength then .error "VAA is too short"
  else do
    let version := data.headD 0
    if version ≠ SupportedVAAVersion then
      throw ("unsupported VAA version: " ++ toString version)
    let reader := data.drop 1
    let (bs, reader) ← wrap "failed to read guardian set index" (readFull 4 reader)
    let guardianSetIndex := UInt32.ofNat (beNat bs)
    let (bs, reader) ← (readFull 1 reader).mapError fun _ => "failed to read signature length"
    let lenSignatures := beNat bs
    let (signatures, reader) ← readSignatures lenSignatures 0 reader
    let (bs, reader) ← wrap "failed to read timestamp" (readFull 4 reader)
    let timestamp := { unix := beNat bs, nanosecond := 0 }
    let (bs, reader) ← wrap "failed to read nonce" (readFull 4 reader)
    let nonce := UInt32.ofNat (beNat bs)
    let (bs, reader) ← wrap "failed to read emitter chain" (readFull 2 reader)
    let emitterChain := UInt16.ofNat (beNat bs)
    let (emitterAddress, reader) ←
      readArray (fun n => "failed to read emitter address [" ++ toString n ++ "]") 32 reader
    let (bs, reader) ← wrap "failed to read sequence" (readFull 8 reader)
    let sequence := UInt64.ofNat (beNat bs)
    let (bs, reader) ← wrap "failed to read commitment" (readFull 1 reader)
    let consistencyLevel := UInt8.ofNat (beNat bs)
    let (payload, _) ← wrap "failed to read payload [0]" (read 1000 reader)
    return { version, guardianSetIndex, signatures, timestamp, nonce, sequence, consistencyLevel,
             emitterChain, emitterAddress, payload }

/-! ## Signatures -/

/-- The functions of go-ethereum's `crypto` package; recovery fails on a malformed signature. -/
structure Crypto where
  Keccak256 : List UInt8 → FixedBytes 32
  Ecrecover : FixedBytes 32 → SignatureData → Option (FixedBytes 65)

variable (crypto : Crypto)

/-- `SigningMsg`: the body is hashed twice. -/
def signingMsg (v : VAA) : FixedBytes 32 :=
  crypto.Keccak256 (crypto.Keccak256 (serializeBody v)).val

/-- `common.BytesToAddress(crypto.Keccak256(pubKey[1:])[12:])`. -/
def pubKeyAddress (pubKey : FixedBytes 65) : EthAddress :=
  ⟨(crypto.Keccak256 (pubKey.val.drop 1)).val.drop 12, by
    rw [List.length_drop, (crypto.Keccak256 _).property]⟩

/-- One round of the loop of `VerifySignatures`. -/
def verifySignature (addresses : List EthAddress) (h : FixedBytes 32) (sig : Signature) : Bool :=
  if sig.index.toNat ≥ addresses.length then false
  else
    match crypto.Ecrecover h sig.signature with
    | none => false
    | some pubKey => addresses[sig.index.toNat]? == some (pubKeyAddress crypto pubKey)

/-- `VerifySignatures`: the loop returns at the first signature that fails. -/
def verifySignatures (v : VAA) (addresses : List EthAddress) : Bool :=
  if addresses.length < v.signatures.length then false
  else v.signatures.all (verifySignature crypto addresses (signingMsg crypto v))

/-! ## Lengths and fields of the binary form -/

@[simp]
theorem Signature.bytes_length (sig : Signature) : sig.bytes.length = 66 := by
  rw [Signature.bytes, List.length_cons, sig.signature.property]

theorem serializeBody_length (v : VAA) : (serializeBody v).length = 51 + v.payload.length := by
  have haddr := v.emitterAddress.property
  simp only [serializeBody, List.length_append, beBytes_length, haddr]
  omega

theorem Time.unix32_lt (t : Time) : t.unix32 < 256 ^ 4 := by
  unfold Time.unix32
  omega

section Fields

variable (v : VAA)

theorem body_timestamp : slice? (serializeBody v) 0 4 = some (beBytes 4 v.timestamp.unix32) :=
  slice?_head (beBytes_length 4 _) _

theorem body_nonce : slice? (serializeBody v) 4 8 = some (beBytes 4 v.nonce.toNat) :=
  (slice?_skip (beBytes_length 4 _) _ 0 4).trans (slice?_head (beBytes_length 4 _) _)

theorem body_emitterChain : slice? (serializeBody v) 8 10 = some (beBytes 2 v.emitterChain.toNat) :=
  (slice?_skip (beBytes_length 4 _) _ 4 6).trans <|
    (slice?_skip (beBytes_length 4 _) _ 0 2).trans (slice?_head (beBytes_length 2 _) _)

theorem body_emitterAddress : slice? (serializeBody v) 10 42 = some v.emitterAddress.val :=
  (slice?_skip (beBytes_length 4 _) _ 6 38).trans <|
    (slice?_skip (beBytes_length 4 _) _ 2 34).trans <|
      (slice?_skip (beBytes_length 2 _) _ 0 32).trans (slice?_head v.emitterAddress.property _)

/-- The fields behind the emitter address. -/
theorem body_skip_address (i j : Nat) :
    slice? (serializeBody v) (42 + i) (42 + j) = slice? (beBytes 8 v.sequence.toNat ++
      (beBytes 1 v.consistencyLevel.toNat ++ v.payload)) i j := by
  have haddr := v.emitterAddress.property
  rw [show serializeBody v = (beBytes 4 v.timestamp.unix32 ++ (beBytes 4 v.nonce.toNat ++
      (beBytes 2 v.emitterChain.toNat ++ v.emitterAddress.val))) ++ (beBytes 8 v.sequence.toNat ++
        (beBytes 1 v.consistencyLevel.toNat ++ v.payload)) by simp [serializeBody]]
  exact slice?_skip (by simp [haddr]) _ i j

theorem body_sequence : slice? (serializeBody v) 42 50 = some (beBytes 8 v.sequence.toNat) :=
  (body_skip_address v 0 8).trans (slice?_head (beBytes_length 8 _) _)

theorem body_consistencyLevel :
    slice? (serializeBody v) 50 51 = some (beBytes 1 v.consistencyLevel.toNat) :=
  (body_skip_address v 8 9).trans <|
    (slice?_skip (beBytes_length 8 _) _ 0 1).trans (slice?_head (beBytes_length 1 _) _)

theorem body_payload :
    slice? (serializeBody v) 51 (serializeBody v).length = some v.payload := by
  have haddr := v.emitterAddress.property
  refine slice?_suffix (show serializeBody v = (beBytes 4 v.timestamp.unix32 ++
    (beBytes 4 v.nonce.toNat ++ (beBytes 2 v.emitterChain.toNat ++ (v.emitterAddress.val ++
      (beBytes 8 v.sequence.toNat ++ beBytes 1 v.consistencyLevel.toNat))))) ++ v.payload by
    simp [serializeBody]) ?_
  simp [haddr]

/-- The first byte of the body is the high byte of the timestamp. -/
theorem serializeBody_cons :
    ∃ rest, serializeBody v = UInt8.ofNat (v.timestamp.unix32 / 2 ^ 24) :: rest :=
  ⟨_, rfl⟩

end Fields

/-- The signature of a VAA that verifies recovers to the address at its index. -/
theorem verifySignatures_eq_true {v : VAA} {addresses : List EthAddress} :
    verifySignatures crypto v addresses = true ↔
      v.signatures.length ≤ addresses.length ∧ ∀ sig ∈ v.signatures, ∃ pubKey,
        crypto.Ecrecover (signingMsg crypto v) sig.signature = some pubKey ∧
        addresses[sig.index.toNat]? = some (pubKeyAddress crypto pubKey) := by
  have hround : ∀ sig, verifySignature crypto addresses (signingMsg crypto v) sig = true ↔
      ∃ pubKey, crypto.Ecrecover (signingMsg crypto v) sig.signature = some pubKey ∧
        addresses[sig.index.toNat]? = some (pubKeyAddress crypto pubKey) := by
    intro sig
    unfold verifySignature
    split
    · rename_i hout
      simp [List.getElem?_eq_none hout]
    · cases crypto.Ecrecover (signingMsg crypto v) sig.signature <;> simp
  unfold verifySignatures
  split
  · simp only [Bool.false_eq_true, false_iff]
    omega
  · simp only [List.all_eq_true, hround]
    exact ⟨fun h => ⟨by omega, h⟩, fun h => h.2⟩

end Wormhole.Guardian

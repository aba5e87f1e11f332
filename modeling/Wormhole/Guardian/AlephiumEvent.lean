/-
# Wormhole.Guardian.AlephiumEvent — contract events, as the guardian node reads them.

The data that the Alephium full node serves (`node/pkg/alephium/utils.go`) and its conversions, with
the decoders of the governance contract's messages (`validation.go`).  A `Field` is given by its type
and the value its JSON string denotes, an address by the bytes behind its base58 form.  Everything
that indexes, slices or assumes panics where the source does.
-/
import Mathlib
import Wormhole.Lib.Bytes
import Wormhole.Lib.Go
import Wormhole.Guardian.Vaa

namespace Wormhole.Guardian.Alephium

open Wormhole.Lib Wormhole.Lib.Bytes

/-! ## Fields -/

abbrev Byte32 := FixedBytes 32

/-- A contract address: a type byte and the contract id. -/
abbrev ContractAddress := List UInt8

inductive Field where
  | Bool (value : Bool)
  | I256 (value : Int)
  | U256 (value : Nat)
  | ByteVec (value : List UInt8)
  | Address (value : ContractAddress)
  deriving DecidableEq

/-- `assume`: the panic of a broken assumption. -/
def assume (cond : Prop) [Decidable cond] : Go Unit := Go.assume cond "false"

/-- The panic of an index or a slice bound. -/
def outOfRange {α : Type} : Go α := .panic "runtime error: index out of range"

namespace Field

def toU256 : Field → Go Nat
  | .U256 n => .ok n
  | _ => .panic "false"

def toByteVec : Field → Go (List UInt8)
  | .ByteVec bs => .ok bs
  | _ => .panic "false"

def toAddress : Field → Go ContractAddress
  | .Address addr => .ok addr
  | _ => .panic "false"

def toByte32 (f : Field) : Go Byte32 := do
  let bytes ← f.toByteVec
  if h : bytes.length = 32 then .ok ⟨bytes, h⟩ else .error "invalid byte32"

def toUint64 (f : Field) : Go UInt64 := do
  let bigInt ← f.toU256
  if bigInt < 2 ^ 64 then .ok (UInt64.ofNat bigInt) else .error "invalid uint64"

/-- Below `math.MaxUint16`. -/
def toUint16 (f : Field) : Go UInt16 := do
  let bigInt ← f.toU256
  if bigInt < 65535 then .ok (UInt16.ofNat bigInt) else .error "invalid uint16"

/-- Below `math.MaxUint8`. -/
def toUint8 (f : Field) : Go UInt8 := do
  let bigInt ← f.toU256
  if bigInt < 255 then .ok (UInt8.ofNat bigInt) else .error "invalid uint8"

end Field

structure Event where
  blockHash : Byte32
  contractAddress : ContractAddress
  txId : Byte32
  fields : List Field
  deriving DecidableEq

structure BlockHeader where
  hash : Byte32
  timestamp : UInt64
  /-- a `uint32` -/
  height : Nat
  deriving DecidableEq

structure ContractState where
  address : ContractAddress
  fields : List Field
  deriving DecidableEq

/-- `fields[i]`. -/
def fieldAt (fields : List Field) (i : Nat) : Go Field :=
  match fields[i]? with
  | some f => .ok f
  | none => outOfRange

/-- `toContractId`. -/
def toContractId (address : ContractAddress) : Go Byte32 :=
  if h : address.length = 33 then .ok ⟨address.drop 1, by simp [h]⟩ else .panic "false"

/-! ## Messages of the governance contract -/

structure WormholeMessage where
  event : Event
  emitter : Byte32
  nonce : UInt32
  payload : List UInt8
  sequence : UInt64
  consistencyLevel : UInt8
  deriving DecidableEq

/-- `WormholeMessageFromEvent`.  Where the capacity of `data` allows `data[0:4]` to read past its
length, `data[4:]` panics. -/
def wormholeMessageFromEvent (event : Event) : Go WormholeMessage := do
  assume (event.fields.length = 4)
  let emitter ← (← fieldAt event.fields 0).toByte32
  let sequence ← (← fieldAt event.fields 1).toUint64
  let data ← (← fieldAt event.fields 2).toByteVec
  let consistencyLevel ← (← fieldAt event.fields 3).toUint8
  if data.length < 4 then outOfRange
  else
    return { event, emitter, nonce := UInt32.ofNat (beNat (data.take 4)), payload := data.drop 4,
             sequence, consistencyLevel }

def transferPayloadId : UInt8 := 1

def WormholeMessage.isTransferMessage (w : WormholeMessage) : Go Bool :=
  match w.payload with
  | [] => outOfRange
  | b :: _ => .ok (b = transferPayloadId)

def WormholeMessage.toMessagePublication (w : WormholeMessage) (header : BlockHeader) :
    Go MessagePublication := do
  -- remove the last 33 bytes from transfer message payload
  let payload ← if (← w.isTransferMessage) then
      if 33 ≤ w.payload.length then Go.ok (w.payload.take (w.payload.length - 33)) else outOfRange
    else Go.ok w.payload
  return {
    txHash := w.event.txId
    timestamp := { unix := header.timestamp.toNat / 1000
                   nanosecond := header.timestamp.toNat % 1000 * 1000000 }
    nonce := w.nonce
    sequence := w.sequence
    consistencyLevel := w.consistencyLevel
    emitterChain := 13
    emitterAddress := w.emitter
    payload }

/-- published message from alephium bridge contract -/
structure TransferMessage where
  amount : Nat
  tokenId : Byte32
  tokenChainId : UInt16
  toAddress : Byte32
  toChainId : UInt16
  fee : Nat
  isNativeToken : Bool
  senderId : Byte32
  deriving DecidableEq

/-- A read of `n` bytes that `assume`s to get them all. -/
def readBytes (n : Nat) (reader : List UInt8) : Go (FixedBytes n × List UInt8) :=
  if h : n ≤ reader.length then
    .ok (⟨reader.take n, by rw [List.length_take, min_eq_left h]⟩, reader.drop n)
  else .panic "false"

def readUint16 (reader : List UInt8) : Go (UInt16 × List UInt8) := do
  let (bytes, reader) ← readBytes 2 reader
  return (UInt16.ofNat (beNat bytes.val), reader)

def readBool (reader : List UInt8) : Go (Bool × List UInt8) := do
  let (bytes, reader) ← readBytes 1 reader
  return (bytes.val = [1], reader)

def transferMessageFromBytes (data : List UInt8) : Go TransferMessage := do
  match data with
  | [] => outOfRange
  | b :: reader => -- skip the payloadId
    assume (b = transferPayloadId)
    let (amount, reader) ← readBytes 32 reader
    let (tokenId, reader) ← readBytes 32 reader
    let (tokenChainId, reader) ← readUint16 reader
    let (toAddress, reader) ← readBytes 32 reader
    let (toChainId, reader) ← readUint16 reader
    let (fee, reader) ← readBytes 32 reader
    let (isNativeToken, reader) ← readBool reader
    let (senderId, _) ← readBytes 32 reader
    return { amount := beNat amount.val, tokenId, tokenChainId, toAddress, toChainId,
             fee := beNat fee.val, isNativeToken, senderId }

/-! ## What is accepted -/

/-- The fields of the event `WormholeMessage`. -/
def messageFields (sender : Byte32) (sequence : Nat) (data : List UInt8) (consistencyLevel : Nat) :
    List Field :=
  [.ByteVec sender.val, .U256 sequence, .ByteVec data, .U256 consistencyLevel]

theorem toByte32_byteVec (b : Byte32) : (Field.ByteVec b.val).toByte32 = .ok b :=
  dif_pos b.property

theorem toUint64_U256 (n : Nat) : (Field.U256 n).toUint64 =
    if n < 2 ^ 64 then .ok (UInt64.ofNat n) else .error "invalid uint64" := rfl

theorem toUint16_U256 (n : Nat) : (Field.U256 n).toUint16 =
    if n < 65535 then .ok (UInt16.ofNat n) else .error "invalid uint16" := rfl

theorem toUint8_U256 (n : Nat) : (Field.U256 n).toUint8 =
    if n < 255 then .ok (UInt8.ofNat n) else .error "invalid uint8" := rfl

/-- **Which messages are read.** The sequence number has to fit its type, the consistency level has to
be below the largest of its type, and the data have to hold a nonce. -/
theorem wormholeMessageFromEvent_eq_ok {event : Event} {sender : Byte32} {sequence : Nat}
    {data : List UInt8} {consistencyLevel : Nat} {w : WormholeMessage}
    (hfields : event.fields = messageFields sender sequence data consistencyLevel) :
    wormholeMessageFromEvent event = .ok w ↔
      sequence < 2 ^ 64 ∧ consistencyLevel < 255 ∧ 4 ≤ data.length ∧
      w = { event, emitter := sender, nonce := UInt32.ofNat (beNat (data.take 4)),
            payload := data.drop 4, sequence := UInt64.ofNat sequence,
            consistencyLevel := UInt8.ofNat consistencyLevel } := by
  have h0 : fieldAt event.fields 0 = .ok (.ByteVec sender.val) := by rw [hfields]; rfl
  have h1 : fieldAt event.fields 1 = .ok (.U256 sequence) := by rw [hfields]; rfl
  have h2 : fieldAt event.fields 2 = .ok (.ByteVec data) := by rw [hfields]; rfl
  have h3 : fieldAt event.fields 3 = .ok (.U256 consistencyLevel) := by rw [hfields]; rfl
  have hlength : assume (event.fields.length = 4) = .ok () := by
    rw [assume, Go.assume_eq_ok, hfields]
    rfl
  simp only [wormholeMessageFromEvent, hlength, h0, h1, h2, h3, Go.ok_bind, toByte32_byteVec,
    toUint64_U256, toUint8_U256, Field.toByteVec, Go.pure_eq]
  by_cases hsequence : sequence < 2 ^ 64
  · rw [if_pos hsequence, Go.ok_bind]
    by_cases hlevel : consistencyLevel < 255
    · rw [if_pos hlevel, Go.ok_bind]
      by_cases hdata : data.length < 4
      · simp [hdata, outOfRange, Nat.not_le.mpr hdata]
      · rw [if_neg hdata, Go.ok.injEq, eq_comm]
        simp only [hsequence, hlevel, Nat.not_lt.mp hdata, true_and]
    · simp [hlevel]
  · rw [if_neg hsequence, Go.error_bind]
    simp only [reduceCtorEq, hsequence, false_and]

theorem readBytes_append {n : Nat} (bytes : FixedBytes n) (rest : List UInt8) :
    readBytes n (bytes.val ++ rest) = .ok (bytes, rest) := by
  have hlen : n ≤ (bytes.val ++ rest).length := by
    rw [List.length_append, bytes.property]
    omega
  rw [readBytes, dif_pos hlen]
  congr 2
  · exact Subtype.ext (List.take_left' bytes.property)
  · exact List.drop_left' bytes.property

/-- A transfer message: the layout that the node reads. -/
def TransferMessage.bytes (amount : FixedBytes 32) (tokenId : Byte32) (tokenChainId : FixedBytes 2)
    (toAddress : Byte32) (toChainId : FixedBytes 2) (fee : FixedBytes 32) (isNativeToken : UInt8)
    (senderId : Byte32) : List UInt8 :=
  1 :: (amount.val ++ (tokenId.val ++ (tokenChainId.val ++ (toAddress.val ++ (toChainId.val ++
    (fee.val ++ (isNativeToken :: senderId.val)))))))

theorem transferMessageFromBytes_bytes (amount : FixedBytes 32) (tokenId : Byte32)
    (tokenChainId : FixedBytes 2) (toAddress : Byte32) (toChainId : FixedBytes 2)
    (fee : FixedBytes 32) (isNativeToken : UInt8) (senderId : Byte32) (rest : List UInt8) :
    transferMessageFromBytes (TransferMessage.bytes amount tokenId tokenChainId toAddress toChainId fee
        isNativeToken senderId ++ rest) = .ok {
      amount := beNat amount.val
      tokenId
      tokenChainId := UInt16.ofNat (beNat tokenChainId.val)
      toAddress
      toChainId := UInt16.ofNat (beNat toChainId.val)
      fee := beNat fee.val
      isNativeToken := isNativeToken = 1
      senderId } := by
  have hbool : readBytes 1 (isNativeToken :: (senderId.val ++ rest)) =
      .ok (⟨[isNativeToken], rfl⟩, senderId.val ++ rest) :=
    readBytes_append (n := 1) ⟨[isNativeToken], rfl⟩ _
  simp only [TransferMessage.bytes, List.cons_append, List.append_assoc, transferMessageFromBytes,
    transferPayloadId, readUint16, readBool, readBytes_append, hbool, Go.ok_bind, Go.pure_eq,
    assume, Go.assume, if_true]
  simp

theorem readBytes_eq_ok {n : Nat} {reader reader' : List UInt8} {bytes : FixedBytes n} :
    readBytes n reader = .ok (bytes, reader') → reader = bytes.val ++ reader' := by
  unfold readBytes
  split
  · intro h
    obtain ⟨rfl, rfl⟩ := Prod.mk.inj (Go.ok.inj h)
    exact (List.take_append_drop n reader).symm
  · intro h
    cases h

/-- **The layout of what is read.** -/
theorem transferMessageFromBytes_eq_ok {data : List UInt8} {m : TransferMessage}
    (h : transferMessageFromBytes data = .ok m) :
    ∃ amount tokenChainId toChainId fee isNativeToken rest,
      data = TransferMessage.bytes amount m.tokenId tokenChainId m.toAddress toChainId fee
        isNativeToken m.senderId ++ rest := by
  cases data with
  | nil => cases h
  | cons b reader =>
    simp only [transferMessageFromBytes, assume, readUint16, readBool, Go.bind_eq_ok,
      Go.assume_eq_ok, Go.pure_eq] at h
    obtain ⟨_, rfl, ⟨amount, r₁⟩, h₁, ⟨tokenId, r₂⟩, h₂, ⟨_, _⟩, ⟨⟨tokenChainId, r₃⟩, h₃, hr₃⟩,
      ⟨toAddress, r₄⟩, h₄, ⟨_, _⟩, ⟨⟨toChainId, r₅⟩, h₅, hr₅⟩, ⟨fee, r₆⟩, h₆, ⟨_, _⟩,
      ⟨⟨isNative, r₇⟩, h₇, hr₇⟩, ⟨senderId, r₈⟩, h₈, hm⟩ := h
    obtain ⟨-, rfl⟩ := Prod.mk.inj (Go.ok.inj hr₃)
    obtain ⟨-, rfl⟩ := Prod.mk.inj (Go.ok.inj hr₅)
    obtain ⟨-, rfl⟩ := Prod.mk.inj (Go.ok.inj hr₇)
    obtain rfl := Go.ok.inj hm
    obtain ⟨native, hnative⟩ := List.length_eq_one_iff.mp isNative.property
    have e₁ : reader = amount.val ++ r₁ := readBytes_eq_ok h₁
    have e₂ : r₁ = tokenId.val ++ r₂ := readBytes_eq_ok h₂
    have e₃ : r₂ = tokenChainId.val ++ r₃ := readBytes_eq_ok h₃
    have e₄ : r₃ = toAddress.val ++ r₄ := readBytes_eq_ok h₄
    have e₅ : r₄ = toChainId.val ++ r₅ := readBytes_eq_ok h₅
    have e₆ : r₅ = fee.val ++ r₆ := readBytes_eq_ok h₆
    have e₇ : r₆ = isNative.val ++ r₇ := readBytes_eq_ok h₇
    have e₈ : r₇ = senderId.val ++ r₈ := readBytes_eq_ok h₈
    refine ⟨amount, tokenChainId, toChainId, fee, native, r₈, ?_⟩
    rw [e₁, e₂, e₃, e₄, e₅, e₆, e₇, hnative, e₈]
    simp [TransferMessage.bytes, transferPayloadId]

theorem TransferMessage.bytes_length (amount : FixedBytes 32) (tokenId : Byte32)
    (tokenChainId : FixedBytes 2) (toAddress : Byte32) (toChainId : FixedBytes 2)
    (fee : FixedBytes 32) (isNativeToken : UInt8) (senderId : Byte32) :
    (TransferMessage.bytes amount tokenId tokenChainId toAddress toChainId fee isNativeToken
      senderId).length = 166 := by
  simp [TransferMessage.bytes, amount.property, tokenId.property, tokenChainId.property,
    toAddress.property, toChainId.property, fee.property, senderId.property]

/-- The first `n` bytes of a long enough string. -/
theorem exists_append (n : Nat) (data : List UInt8) (h : n ≤ data.length) :
    ∃ (bytes : FixedBytes n) (rest : List UInt8), data = bytes.val ++ rest ∧
      rest.length = data.length - n :=
  ⟨⟨data.take n, by rw [List.length_take, min_eq_left h]⟩, data.drop n,
    (List.take_append_drop n data).symm, List.length_drop ..⟩

/-- **Which transfer messages are read.** Everything from 166 bytes on. -/
theorem transferMessageFromBytes_isOk {data : List UInt8} (h : data.head? = some 1) :
    (transferMessageFromBytes data).IsOk ↔ 166 ≤ data.length := by
  constructor
  · rintro ⟨m, hm⟩
    obtain ⟨amount, tokenChainId, toChainId, fee, isNativeToken, rest, rfl⟩ :=
      transferMessageFromBytes_eq_ok hm
    rw [List.length_append, TransferMessage.bytes_length]
    omega
  · intro hlength
    obtain ⟨reader, rfl⟩ : ∃ reader, data = 1 :: reader := by
      cases data with
      | nil => simp at h
      | cons b reader => exact ⟨reader, by simpa using h⟩
    rw [List.length_cons] at hlength
    obtain ⟨amount, r₁, rfl, h₁⟩ := exists_append 32 reader (by omega)
    obtain ⟨tokenId, r₂, rfl, h₂⟩ := exists_append 32 r₁ (by omega)
    obtain ⟨tokenChainId, r₃, rfl, h₃⟩ := exists_append 2 r₂ (by omega)
    obtain ⟨toAddress, r₄, rfl, h₄⟩ := exists_append 32 r₃ (by omega)
    obtain ⟨toChainId, r₅, rfl, h₅⟩ := exists_append 2 r₄ (by omega)
    obtain ⟨fee, r₆, rfl, h₆⟩ := exists_append 32 r₅ (by omega)
    obtain ⟨isNative, r₇, rfl, h₇⟩ := exists_append 1 r₆ (by omega)
    obtain ⟨senderId, r₈, rfl, h₈⟩ := exists_append 32 r₇ (by omega)
    obtain ⟨native, hnative⟩ := List.length_eq_one_iff.mp isNative.property
    refine ⟨_, (congrArg transferMessageFromBytes ?_).trans (transferMessageFromBytes_bytes amount
      tokenId tokenChainId toAddress toChainId fee native senderId r₈)⟩
    simp [TransferMessage.bytes, hnative]

end Wormhole.Guardian.Alephium

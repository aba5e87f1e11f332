/-
# Wormhole.Guardian.VaaIds — the ids of VAAs, as texts.

An id is a chain, an emitter address and a sequence number.  The node writes it as a message id,
`<chain>/<address>/<sequence>`, and as a key of its store, behind `signed/`.  All VAAs of an emitter stand
together in the store, under the keys that start with `EmitterPrefixBytes`, which has no separator at its end.

`vaaIDs_identify`: a message id is read back as the id, a key is the key of one id only, and the prefix of an
emitter starts the keys of this emitter only.  The numbers have no fixed width, but contain no separator; an
address is always 64 digits, so none starts another.
-/
import Mathlib
import Wormhole.Lib.Go
import Wormhole.Lib.Text
import Wormhole.Guardian.Aggregation
import Wormhole.Guardian.Db
import Wormhole.Guardian.Vaa

namespace Wormhole.Guardian

open Wormhole.Lib Wormhole.Lib.Text

/-! ## Parsing -/

/-- A value, or an error. -/
def parsed {α : Type} (reason : String) : Option α → Go α
  | some a => .ok a
  | none => .error reason

/-- `fromHexChar`: the digits of both cases. -/
def Hex.fromHexChar (c : Char) : Option Nat :=
  if '0' ≤ c ∧ c ≤ '9' then some (c.toNat - '0'.toNat)
  else if 'a' ≤ c ∧ c ≤ 'f' then some (c.toNat - 'a'.toNat + 10)
  else if 'A' ≤ c ∧ c ≤ 'F' then some (c.toNat - 'A'.toNat + 10)
  else none

/-- `hex.DecodeString`. -/
def Hex.decodeString : List Char → Option (List UInt8)
  | [] => some []
  | [_] => none
  | high :: low :: rest => do
    let b := 16 * (← Hex.fromHexChar high) + (← Hex.fromHexChar low)
    return UInt8.ofNat b :: (← Hex.decodeString rest)

/-- `StringToAddress`: short addresses are filled up at the end, and long ones are cut off. -/
def stringToAddress (value : String) : Go Address := do
  let res ← parsed "encoding/hex: invalid" (Hex.decodeString value.toList)
  return ⟨(res ++ List.replicate 32 0x00).take 32, padded_length res⟩

/-- `strconv.Atoi`, of 64-bit integers. -/
def atoi (s : String) : Option Int :=
  match s.toList with
  | '-' :: digits => (parseDecimal (String.ofList digits)).bind fun n => if n ≤ 2 ^ 63 then some (-n) else none
  | '+' :: digits => (parseDecimal (String.ofList digits)).bind fun n => if n < 2 ^ 63 then some n else none
  | _ => (parseDecimal s).bind fun n => if n < 2 ^ 63 then some n else none

/-- `strconv.ParseUint`, in base 10 and of 64 bits. -/
def parseUint64 (s : String) : Option UInt64 :=
  (parseDecimal s).bind fun n => if n < 2 ^ 64 then some (UInt64.ofNat n) else none

/-- `VaaIDFromString` parses a <chain>/<address>/<sequence> string into a VAAID. -/
def vaaIDFromString (s : String) : Go VAAID :=
  match (s.toList.splitOn '/').map String.ofList with
  | [chain, address, sequence] => do
    let emitterChain ← parsed "invalid emitter chain" (atoi chain)
    let emitterAddress ← stringToAddress address
    let sequence ← parsed "invalid sequence" (parseUint64 sequence)
    return { emitterChain := UInt16.ofInt emitterChain, emitterAddress, sequence }
  | _ => .error "invalid message id"

def VAAID.emitterPrefixBytes (id : VAAID) : String :=
  "signed/" ++ toString id.emitterChain.toNat ++ "/" ++ hexString id.emitterAddress.val

/-! ## Addresses -/

theorem Hex.fromHexChar_hexDigit : ∀ n < 16, Hex.fromHexChar (hexDigit n) = some n := by decide

theorem slash_ne_hexDigit : ∀ n < 16, '/' ≠ hexDigit n := by decide

theorem toList_hexString (bs : List UInt8) :
    (hexString bs).toList = bs.flatMap fun b => [hexDigit (b.toNat / 16), hexDigit (b.toNat % 16)] :=
  String.toList_ofList

theorem nibbles_lt (b : UInt8) : b.toNat / 16 < 16 ∧ b.toNat % 16 < 16 := by
  have hb := b.toNat_lt
  omega

theorem length_hexString (bs : List UInt8) : (hexString bs).toList.length = 2 * bs.length := by
  rw [toList_hexString]
  induction bs with
  | nil => rfl
  | cons b bs ih =>
    rw [List.flatMap_cons, List.length_append, ih, List.length_cons]
    show 2 + 2 * bs.length = 2 * (bs.length + 1)
    omega

theorem slash_notMem_hexString (bs : List UInt8) : '/' ∉ (hexString bs).toList := by
  rw [toList_hexString, List.mem_flatMap]
  rintro ⟨b, -, hmem⟩
  obtain ⟨hhigh, hlow⟩ := nibbles_lt b
  rcases List.mem_cons.mp hmem with h | hmem
  · exact slash_ne_hexDigit _ hhigh h
  · exact slash_ne_hexDigit _ hlow (List.mem_singleton.mp hmem)

/-- **Hexadecimal digits** are read back. -/
theorem Hex.decodeString_hexString (bs : List UInt8) : Hex.decodeString (hexString bs).toList = some bs := by
  rw [toList_hexString]
  induction bs with
  | nil => rfl
  | cons b bs ih =>
    obtain ⟨hhigh, hlow⟩ := nibbles_lt b
    show (do
      let b := 16 * (← Hex.fromHexChar (hexDigit (b.toNat / 16))) + (← Hex.fromHexChar (hexDigit (b.toNat % 16)))
      return UInt8.ofNat b :: (← Hex.decodeString (bs.flatMap _))) = _
    rw [Hex.fromHexChar_hexDigit _ hhigh, Hex.fromHexChar_hexDigit _ hlow, ih]
    show some (UInt8.ofNat (16 * (b.toNat / 16) + b.toNat % 16) :: bs) = _
    rw [Nat.div_add_mod, UInt8.ofNat_toNat]

theorem hexString_injective : Function.Injective hexString := by
  intro bs bs' h
  have hbs := Hex.decodeString_hexString bs
  rw [h, Hex.decodeString_hexString] at hbs
  exact (Option.some.inj hbs).symm

theorem stringToAddress_hexString (address : Address) :
    stringToAddress (hexString address.val) = .ok address := by
  rw [stringToAddress, Hex.decodeString_hexString]
  refine congrArg Go.ok (Subtype.ext ?_)
  show (address.val ++ List.replicate 32 0x00).take 32 = address.val
  rw [List.take_append_of_le_length address.property.ge, List.take_of_length_le address.property.le]

/-! ## Numbers -/

theorem slash_notMem_repr (n : Nat) : '/' ∉ n.repr.toList := notMem_repr n rfl

theorem atoi_repr {n : Nat} (hn : n < 2 ^ 63) : atoi n.repr = some (n : Int) := by
  -- a number does not start with a sign
  have hminus : '-' ∉ n.repr.toList := notMem_repr n rfl
  have hplus : '+' ∉ n.repr.toList := notMem_repr n rfl
  unfold atoi
  split
  · rename_i digits hdigits
    rw [hdigits] at hminus
    exact absurd List.mem_cons_self hminus
  · rename_i digits hdigits
    rw [hdigits] at hplus
    exact absurd List.mem_cons_self hplus
  · rw [parseDecimal_repr, Option.bind_some, if_pos hn]

theorem uint16_ofInt_toNat (n : UInt16) : UInt16.ofInt (n.toNat : Int) = n := by
  have hn := n.toNat_lt
  have hmod : (n.toNat : Int) % 2 ^ 16 = n.toNat := Int.emod_eq_of_lt (by omega) (by omega)
  rw [UInt16.ofInt, hmod, Int.toNat_natCast, UInt16.ofNat_toNat]

theorem parseUint64_repr (n : UInt64) : parseUint64 n.toNat.repr = some n := by
  rw [parseUint64, parseDecimal_repr, Option.bind_some, if_pos n.toNat_lt, UInt64.ofNat_toNat]

/-! ## Ids -/

/-- A message id, field by field. -/
theorem toList_messageID (v : VAA) : (messageID v).toList =
    v.emitterChain.toNat.repr.toList ++ '/' ::
      ((hexString v.emitterAddress.val).toList ++ '/' :: v.sequence.toNat.repr.toList) := by
  simp only [messageID, Nat.toString_eq_repr, String.toList_append, List.append_assoc]
  rfl

/-- **A message id** is read back. -/
theorem vaaIDFromString_messageID (v : VAA) : vaaIDFromString (messageID v) = .ok (vaaIDFromVAA v) := by
  have hchain : v.emitterChain.toNat < 2 ^ 63 := lt_trans v.emitterChain.toNat_lt (by decide)
  have hsplit : ((messageID v).toList.splitOn '/').map String.ofList =
      [v.emitterChain.toNat.repr, hexString v.emitterAddress.val, v.sequence.toNat.repr] := by
    rw [toList_messageID, List.splitOn_append_cons_self_of_not_mem (slash_notMem_repr _),
      List.splitOn_append_cons_self_of_not_mem (slash_notMem_hexString _),
      List.splitOn_eq_singleton (slash_notMem_repr _)]
    simp only [List.map_cons, List.map_nil, String.ofList_toList]
  rw [vaaIDFromString, hsplit]
  show (do
    let emitterChain ← parsed "invalid emitter chain" (atoi v.emitterChain.toNat.repr)
    let emitterAddress ← stringToAddress (hexString v.emitterAddress.val)
    let sequence ← parsed "invalid sequence" (parseUint64 v.sequence.toNat.repr)
    return VAAID.mk (UInt16.ofInt emitterChain) emitterAddress sequence) = _
  rw [atoi_repr hchain, stringToAddress_hexString, parseUint64_repr]
  show Go.ok (VAAID.mk (UInt16.ofInt v.emitterChain.toNat) _ _) = _
  rw [uint16_ofInt_toNat]
  rfl

/-- A key, field by field. -/
theorem toList_bytes (id : VAAID) : id.bytes.toList =
    "signed/".toList ++ (id.emitterChain.toNat.repr.toList ++ '/' ::
      ((hexString id.emitterAddress.val).toList ++ '/' :: id.sequence.toNat.repr.toList)) := by
  simp only [VAAID.bytes, Nat.toString_eq_repr, String.toList_append, List.append_assoc]
  rfl

theorem toList_emitterPrefixBytes (id : VAAID) : id.emitterPrefixBytes.toList =
    "signed/".toList ++
      (id.emitterChain.toNat.repr.toList ++ '/' :: (hexString id.emitterAddress.val).toList) := by
  simp only [VAAID.emitterPrefixBytes, Nat.toString_eq_repr, String.toList_append, List.append_assoc]
  rfl

/-- **The keys of an emitter** are those that start with its prefix. -/
theorem emitterPrefix_prefix_iff (a b : VAAID) : a.emitterPrefixBytes.toList <+: b.bytes.toList ↔
    a.emitterChain = b.emitterChain ∧ a.emitterAddress = b.emitterAddress := by
  rw [toList_emitterPrefixBytes, toList_bytes, List.prefix_append_right_inj]
  constructor
  · intro h
    obtain ⟨hchain, haddress⟩ := prefix_of_separated (slash_notMem_repr _) (slash_notMem_repr _) h
    refine ⟨UInt16.toNat_inj.mp (Nat.repr_injective (String.toList_inj.mp hchain)), ?_⟩
    -- both addresses have 64 digits
    have hlength : (hexString a.emitterAddress.val).toList.length =
        (hexString b.emitterAddress.val).toList.length := by
      rw [length_hexString, length_hexString, a.emitterAddress.property, b.emitterAddress.property]
    have hdigits := List.prefix_of_prefix_length_le haddress (List.prefix_append ..) hlength.le
    exact Subtype.ext (hexString_injective (String.toList_inj.mp (hdigits.eq_of_length hlength)))
  · rintro ⟨hchain, haddress⟩
    rw [hchain, haddress, List.prefix_append_right_inj, List.cons_prefix_cons]
    exact ⟨rfl, List.prefix_append ..⟩

/-- **Keys** are the keys of one id. -/
theorem VAAID.bytes_injective : Function.Injective VAAID.bytes := by
  intro a b h
  have hprefix : a.emitterPrefixBytes.toList <+: b.bytes.toList := by
    rw [← h, emitterPrefix_prefix_iff]
    exact ⟨rfl, rfl⟩
  obtain ⟨hchain, haddress⟩ := (emitterPrefix_prefix_iff a b).mp hprefix
  have hlists := congrArg String.toList h
  rw [toList_bytes, toList_bytes, hchain, haddress] at hlists
  have hsequence := List.cons.inj (List.append_cancel_left (List.cons.inj (List.append_cancel_left
    (List.append_cancel_left hlists))).2)
  have hsequence := UInt64.toNat_inj.mp (Nat.repr_injective (String.toList_inj.mp hsequence.2))
  cases a
  cases b
  cases hchain
  cases haddress
  cases hsequence
  rfl

/-- **What ids identify.** -/
theorem vaaIDs_identify :
    (∀ v : VAA, vaaIDFromString (messageID v) = .ok ⟨v.emitterChain, v.emitterAddress, v.sequence⟩) ∧
    Function.Injective VAAID.bytes ∧
    ∀ a b : VAAID, a.emitterPrefixBytes.toList <+: b.bytes.toList ↔
      a.emitterChain = b.emitterChain ∧ a.emitterAddress = b.emitterAddress :=
  ⟨vaaIDFromString_messageID, VAAID.bytes_injective, emitterPrefix_prefix_iff⟩

end Wormhole.Guardian

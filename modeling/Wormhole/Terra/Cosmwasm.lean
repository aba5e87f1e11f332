/-
# Wormhole.Terra.Cosmwasm — what the Terra contracts share.

Calls that may fail, the readers of `byte_utils.rs`, strings, coins and messages to other contracts.
-/
import Mathlib
import Wormhole.Lib.Bytes
import Wormhole.Lib.Go

namespace Wormhole.Terra

open Wormhole.Lib Wormhole.Lib.Bytes

/-! ## Calls -/

/-- `StdResult`, of code that may also panic.  Either way the transaction is undone. -/
abbrev StdResult := Go

/-- Return an error unless the condition holds. -/
def ensure (c : Prop) [Decidable c] (reason : String) : StdResult Unit :=
  if c then .ok () else .error reason

@[simp]
theorem ensure_eq_ok {c : Prop} [Decidable c] {reason : String} {u : Unit} :
    ensure c reason = .ok u ↔ c := by
  unfold ensure
  split <;> simp_all

/-- `result.or_else(|_| Err(reason))`, of an optional value: what is missing is an error. -/
def okOr {α : Type} (reason : String) : Option α → StdResult α
  | some a => .ok a
  | none => .error reason

@[simp]
theorem okOr_eq_ok {α : Type} {reason : String} {x : Option α} {a : α} :
    okOr reason x = .ok a ↔ x = some a := by
  cases x <;> simp [okOr]

/-- `option.unwrap()`. -/
def unwrap {α : Type} : Option α → StdResult α
  | some a => .ok a
  | none => .panic "called unwrap() on a missing value"

@[simp]
theorem unwrap_eq_ok {α : Type} {x : Option α} {a : α} : unwrap x = .ok a ↔ x = some a := by
  cases x <;> simp [unwrap]

/-- A call whose failure undoes the transaction. -/
def committed {α : Type} : StdResult α → Option α
  | .ok a => some a
  | _ => none

@[simp]
theorem committed_eq_some {α : Type} {x : StdResult α} {a : α} : committed x = some a ↔ x = .ok a := by
  cases x <;> simp [committed]

/-! ## Numbers -/

/-- Addition of `bits`-bit integers; overflows panic (`overflow-checks = true`). -/
def addUint (bits x y : Nat) : StdResult Nat :=
  unwrap (if x + y < 2 ^ bits then some (x + y) else none)

/-- `x.checked_sub(y)`. -/
def checkedSub (x y : Nat) : Option Nat := if y ≤ x then some (x - y) else none

/-- `x.checked_mul(y)` of `u128`s. -/
def checkedMul (x y : Nat) : Option Nat := if x * y < 2 ^ 128 then some (x * y) else none

theorem checkedSub_eq_some {x y z : Nat} : checkedSub x y = some z ↔ z + y = x := by
  unfold checkedSub
  split
  · rw [Option.some_inj]
    omega
  · constructor
    · nofun
    · intro h
      omega

/-! ## `ByteUtils` -/

/-- `&data[index..index + bytes]`. -/
def getBytes (data : List UInt8) (index bytes : Nat) : StdResult (List UInt8) :=
  match slice? data index (index + bytes) with
  | some s => .ok s
  | none => .panic "range end index out of range"

/-- The shared body of `get_u8` … `get_u128_be`. -/
def getUint (bytes : Nat) (data : List UInt8) (index : Nat) : StdResult Nat := do
  return beNat (← getBytes data index bytes)

def getU8 : List UInt8 → Nat → StdResult Nat := getUint 1
def getU16 : List UInt8 → Nat → StdResult Nat := getUint 2
def getU32 : List UInt8 → Nat → StdResult Nat := getUint 4
def getU64 : List UInt8 → Nat → StdResult Nat := getUint 8
def getU128 : List UInt8 → Nat → StdResult Nat := getUint 16

/-- High 128 then low 128 -/
def getU256 (data : List UInt8) (index : Nat) : StdResult (Nat × Nat) := do
  return (← getU128 data index, ← getU128 data (index + 16))

/-- 32 bytes are reserved for addresses, but only the last 20 bytes are taken by the actual address -/
def getAddress (data : List UInt8) (index : Nat) : StdResult (List UInt8) :=
  getBytes data (index + 32 - 20) 20

def getBytes32 (data : List UInt8) (index : Nat) : StdResult (List UInt8) := getBytes data index 32

/-- `&data[index..]`. -/
def getRest (data : List UInt8) (index : Nat) : StdResult (List UInt8) :=
  match slice? data index data.length with
  | some s => .ok s
  | none => .panic "range start index out of range"

/-- Left-pad a 20 byte address with 0s -/
def extendAddressTo32 (addr : List UInt8) : StdResult (List UInt8) :=
  unwrap (if addr.length = 20 then some (List.replicate 12 0x00 ++ addr) else none)

theorem getBytes_eq_ok {data s : List UInt8} {index bytes : Nat} :
    getBytes data index bytes = .ok s ↔ slice? data index (index + bytes) = some s := by
  unfold getBytes
  split
  · rename_i h
    rw [h]
    simp
  · rename_i h
    rw [h]
    simp

theorem getBytes_length {data s : List UInt8} {index bytes : Nat}
    (h : getBytes data index bytes = .ok s) : s.length = bytes := by
  rw [slice?_length (getBytes_eq_ok.mp h), Nat.add_sub_cancel_left]

theorem getUint_iff {data : List UInt8} {w n index : Nat} :
    getUint w data index = .ok n ↔ slice? data index (index + w) = some (beBytes w n) ∧ n < 256 ^ w := by
  rw [getUint, Go.bind_eq_ok]
  constructor
  · rintro ⟨bs, hbytes, h⟩
    obtain rfl := Go.ok.inj h
    have hlength := getBytes_length hbytes
    subst hlength
    rw [beBytes_beNat]
    exact ⟨getBytes_eq_ok.mp hbytes, beNat_lt bs⟩
  · rintro ⟨hslice, hn⟩
    exact ⟨_, getBytes_eq_ok.mpr hslice, by rw [beNat_beBytes hn]; rfl⟩

/-- Two bytes are a number of 16 bits. -/
theorem getU16_iff {data : List UInt8} {index : Nat} {n : UInt16} :
    getU16 data index = .ok n.toNat ↔
      slice? data index (index + 2) = some (beBytes 2 n.toNat) := by
  rw [show getU16 = getUint 2 from rfl, getUint_iff]
  exact ⟨And.left, fun h => ⟨h, toNat_lt_uint16 n⟩⟩

theorem getRest_iff {data rest : List UInt8} {index : Nat} :
    getRest data index = .ok rest ↔ slice? data index data.length = some rest := by
  unfold getRest
  split <;> simp_all

/-! ## Strings -/

/-- `s.as_bytes()`. -/
def asBytes (s : String) : List UInt8 := s.toByteArray.data.toList

/-- `String::from_utf8(bytes)`. -/
def fromUtf8 (bytes : List UInt8) : Option String := String.fromUTF8? ⟨bytes.toArray⟩

/-- The bytes of a string, and no others, are the string again. -/
theorem fromUtf8_eq_some {bytes : List UInt8} {s : String} : fromUtf8 bytes = some s ↔ asBytes s = bytes := by
  unfold fromUtf8 asBytes String.fromUTF8?
  split
  · rename_i hvalid
    rw [Option.some_inj]
    constructor
    · rintro rfl
      rfl
    · intro h
      apply String.toByteArray_inj.mp
      apply ByteArray.ext
      show bytes.toArray = s.toByteArray.data
      rw [← h, Array.toArray_toList]
  · rename_i hinvalid
    constructor
    · nofun
    · rintro rfl
      exact absurd s.isValidUTF8 hinvalid

/-! ## Coins and messages -/

structure Coin where
  denom : String
  amount : Nat
  deriving DecidableEq

/-- `has_coins`. -/
def hasCoins (coins : List Coin) (required : Coin) : Bool :=
  match coins.find? (·.denom = required.denom) with
  | some coin => required.amount ≤ coin.amount
  | none => false

/-- The messages that the contracts modelled here send, each by its execute call. -/
inductive CosmosMsg where
  /-- `BankMsg::Send` -/
  | send (toAddress : String) (amount : List Coin)
  /-- `WasmMsg::Migrate` of the contract itself -/
  | migrate (newCodeId : Nat)
  /-- `WrappedMsg::Mint` -/
  | mint (contractAddr recipient : String) (amount : Nat)
  /-- `WrappedMsg::Burn` -/
  | burn (contractAddr account : String) (amount : Nat)
  /-- `TokenMsg::Transfer` -/
  | transfer (contractAddr recipient : String) (amount : Nat)
  /-- `TokenMsg::TransferFrom` -/
  | transferFrom (contractAddr owner recipient : String) (amount : Nat)
  /-- `WormholeExecuteMsg::PostMessage` -/
  | postMessage (contractAddr : String) (message : List UInt8) (nonce : Nat) (funds : List Coin)
  deriving DecidableEq

end Wormhole.Terra

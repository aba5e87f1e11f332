/-
# Wormhole.Ethereum.Evm — what the Solidity contracts share.

Calls that may revert, addresses and 32-byte words, and the readers of `BytesLib`.
-/
import Mathlib
import Wormhole.Lib.Bytes

namespace Wormhole.Ethereum

open Wormhole.Lib.Bytes

/-! ## Words and addresses -/

/-- A `bytes32` or `uint256`, by its bytes. -/
abbrev Word := FixedBytes 32

abbrev Address := FixedBytes 20

/-- `address(0)`. -/
def zeroAddress : Address := ⟨List.replicate 20 0x00, rfl⟩

def zeroWord : Word := ⟨List.replicate 32 0x00, rfl⟩

/-- `bytes32(uint256(uint160(addr)))`. -/
def Address.toWord (addr : Address) : Word :=
  ⟨List.replicate 12 0x00 ++ addr.val, by simp [addr.property]⟩

/-- `address(uint160(uint256(word)))`. -/
def Word.toAddress (word : Word) : Address := ⟨word.val.drop 12, by simp [word.property]⟩

/-- The word in front of a string in memory: its length. -/
def lengthWord (str : List UInt8) : Word := ⟨beBytes 32 str.length, beBytes_length 32 str.length⟩

/-- `mload(add(str, 32))`: the first word of a string in memory.  An empty string takes no room behind its
length, so the next word of memory is loaded. -/
def firstWord (behind : Word) (str : List UInt8) : Word :=
  if str = [] then behind else ⟨(str ++ List.replicate 32 0x00).take 32, by simp⟩

/-- `bytes32ToString`, the same in both bridges: the bytes before the first zero. -/
def bytes32ToString (input : Word) : List UInt8 := input.val.takeWhile (· ≠ 0x00)

/-! ## Reverts -/

/-- A call returns a value or reverts with a reason. -/
abbrev Revert := Except String

def require (c : Prop) [Decidable c] (reason : String) : Revert Unit :=
  if c then .ok () else .error reason

/-- The reason of a checked-arithmetic revert. -/
def arithmeticPanic : String := "Panic(0x11)"

/-- `uint` subtraction. -/
def subUint (x y : Nat) : Revert Nat :=
  if y ≤ x then .ok (x - y) else .error arithmeticPanic

/-- `uint256` addition. -/
def addUint (x y : Nat) : Revert Nat :=
  if x + y < 2 ^ 256 then .ok (x + y) else .error arithmeticPanic

/-- `uint256` multiplication. -/
def mulUint (x y : Nat) : Revert Nat :=
  if x * y < 2 ^ 256 then .ok (x * y) else .error arithmeticPanic

theorem require_true {c : Prop} [Decidable c] (h : c) (reason : String) :
    require c reason = .ok () := if_pos h

@[simp]
theorem require_eq_ok {c : Prop} [Decidable c] {reason : String} {u : Unit} :
    require c reason = .ok u ↔ c := by
  unfold require
  split <;> simp_all

theorem addUint_eq_ok {x y z : Nat} (h : addUint x y = .ok z) : x + y = z := by
  unfold addUint at h
  split at h
  · exact Except.ok.inj h
  · cases h

/-! ## `BytesLib` -/

/-- The bounds check the readers share. -/
def readBytes (reason : String) (bs : List UInt8) (start length : Nat) : Revert (List UInt8) :=
  match slice? bs start (start + length) with
  | some s => .ok s
  | none => .error reason

def slice : List UInt8 → Nat → Nat → Revert (List UInt8) := readBytes "slice_outOfBounds"

/-- The shared body of `toUint8` … `toUint64`: `w` bytes read big-endian. -/
def toUint (reason : String) (w : Nat) (bs : List UInt8) (start : Nat) : Revert Nat :=
  (readBytes reason bs start w).map beNat

def toUint8 : List UInt8 → Nat → Revert Nat := toUint "toUint8_outOfBounds" 1
def toUint16 : List UInt8 → Nat → Revert Nat := toUint "toUint16_outOfBounds" 2
def toUint32 : List UInt8 → Nat → Revert Nat := toUint "toUint32_outOfBounds" 4
def toUint64 : List UInt8 → Nat → Revert Nat := toUint "toUint64_outOfBounds" 8
def toBytes32 (bs : List UInt8) (start : Nat) : Revert (List UInt8) :=
  readBytes "toBytes32_outOfBounds" bs start 32

theorem readBytes_ok {reason : String} {bs s : List UInt8} {start length : Nat}
    (h : slice? bs start (start + length) = some s) : readBytes reason bs start length = .ok s := by
  rw [readBytes, h]

theorem toUint_ok {reason : String} {w : Nat} {bs s : List UInt8} {start : Nat}
    (h : slice? bs start (start + w) = some s) : toUint reason w bs start = .ok (beNat s) := by
  rw [toUint, readBytes_ok h]
  rfl

/-- `toUint256` and `toBytes32` as a word. -/
def toWord (reason : String) (bs : List UInt8) (start : Nat) : Revert Word :=
  match readBytes reason bs start 32 with
  | .error reason => .error reason
  | .ok word => if h : word.length = 32 then .ok ⟨word, h⟩ else .error reason

section Readers

variable {reason : String} {bs : List UInt8} {start : Nat}

theorem readBytes_eq_ok {length : Nat} {s : List UInt8} :
    readBytes reason bs start length = .ok s ↔ slice? bs start (start + length) = some s := by
  unfold readBytes
  split <;> simp_all

/-- What is read are the bytes of the number. -/
theorem toUint_eq_ok {w n : Nat} (h : toUint reason w bs start = .ok n) :
    slice? bs start (start + w) = some (beBytes w n) ∧ n < 256 ^ w := by
  unfold toUint at h
  cases hread : readBytes reason bs start w with
  | error reason =>
    rw [hread] at h
    cases h
  | ok s =>
    rw [hread] at h
    have hn : beNat s = n := Except.ok.inj h
    have hs := readBytes_eq_ok.mp hread
    have hlength : s.length = w := by
      rw [slice?_length hs]
      omega
    subst hn hlength
    rw [beBytes_beNat]
    exact ⟨hs, beNat_lt s⟩

theorem toWord_eq_ok {word : Word} :
    toWord reason bs start = .ok word ↔ slice? bs start (start + 32) = some word.val := by
  unfold toWord
  constructor
  · intro h
    split at h
    · cases h
    · rename_i s hread
      split at h
      · obtain rfl := Except.ok.inj h
        exact readBytes_eq_ok.mp hread
      · cases h
  · intro h
    simp only [readBytes_ok h, word.property, dite_true]

end Readers

/-! ## Upgrades of the bridges -/

/-- `UpgradeContract` of the two bridges, without its constant fields. -/
structure UpgradeContract where
  chainId : Nat
  newContract : Word

/-- `parseUpgrade`, the same in both bridges but for the module. -/
def parseUpgradeContract (module : List UInt8) (encoded : List UInt8) : Revert UpgradeContract := do
  let module' ← toBytes32 encoded 0
  require (module' = module) "invalid UpgradeContract: wrong module"
  let action ← toUint8 encoded 32
  require (action = 2) "invalid UpgradeContract: wrong action"
  let chainId ← toUint16 encoded 33
  let newContract ← toWord "toBytes32_outOfBounds" encoded 35
  require (encoded.length = 67) "invalid UpgradeContract: wrong length"
  return { chainId, newContract }

end Wormhole.Ethereum

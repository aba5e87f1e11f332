/-
# Wormhole.Alephium.Vm — the Ralph built-ins the bridge contracts call.

A contract function is a partial function: `none` is an aborted transaction, which reverts every
state change it made.  Numbers of type `U256` and `I256` are naturals and integers whose arithmetic
aborts outside the 256-bit range, as the VM's does; the bit operations wrap.  `ByteVec` is a list of
bytes.

Offsets into a byte vector (`index + 66`, `start + 32`, …) are added without an overflow check: they
stay within 66 of the length of a byte vector, which the VM keeps far below `2 ^ 256`.
-/
import Mathlib
import Wormhole.Lib.Bytes

namespace Wormhole.Alephium.Vm

open Wormhole.Lib.Bytes

abbrev ByteVec := List UInt8

/-- Contract ids (and the 32-byte asset address hashes) are 32 bytes. -/
abbrev ContractId := FixedBytes 32

/-! ## Assertions and checked arithmetic -/

-- Stated by rewriting, so that `simp` leaves a proof step: a definitional unfolding would make the
-- kernel evaluate the 256-bit bounds in `f`.
theorem some_bind {α β : Type} (a : α) (f : α → Option β) : (some a >>= f) = f a := by
  rw [Option.bind_eq_bind, Option.bind_some]

theorem none_bind {α β : Type} (f : α → Option β) : (none >>= f) = none := by
  rw [Option.bind_eq_bind, Option.bind_none]

/-- `assert!`. -/
def assert (c : Prop) [Decidable c] : Option Unit := if c then some () else none

@[simp]
theorem assert_eq_some {c : Prop} [Decidable c] {u : Unit} : assert c = some u ↔ c := by
  unfold assert
  split <;> simp_all

theorem assert_true {c : Prop} [Decidable c] (h : c) : assert c = some () := if_pos h

theorem assert_false {c : Prop} [Decidable c] (h : ¬c) : assert c = none := if_neg h

namespace U256

def add (x y : Nat) : Option Nat := if x + y < 2 ^ 256 then some (x + y) else none
def sub (x y : Nat) : Option Nat := if y ≤ x then some (x - y) else none
def mul (x y : Nat) : Option Nat := if x * y < 2 ^ 256 then some (x * y) else none
/-- `<<` drops the bits shifted past the top. -/
def shl (x n : Nat) : Nat := (x <<< n) % 2 ^ 256
/-- The largest `U256`, `0xff…ff`. -/
def max : Nat := 2 ^ 256 - 1

@[simp]
theorem add_eq_some {x y z : Nat} : add x y = some z ↔ x + y < 2 ^ 256 ∧ x + y = z := by
  unfold add
  split <;> simp_all

@[simp]
theorem sub_eq_some {x y z : Nat} : sub x y = some z ↔ y ≤ x ∧ x - y = z := by
  unfold sub
  split <;> simp_all

@[simp]
theorem mul_eq_some {x y z : Nat} : mul x y = some z ↔ x * y < 2 ^ 256 ∧ x * y = z := by
  unfold mul
  split <;> simp_all

theorem add_of_lt {x y : Nat} (h : x + y < 2 ^ 256) : add x y = some (x + y) := if_pos h

theorem sub_of_le {x y : Nat} (h : y ≤ x) : sub x y = some (x - y) := if_pos h

end U256

namespace I256

def InRange (z : Int) : Prop := -2 ^ 255 ≤ z ∧ z < 2 ^ 255

instance (z : Int) : Decidable (InRange z) := inferInstanceAs (Decidable (_ ∧ _))

/-- The result of an `I256` operation, aborting outside the range. -/
def checked (z : Int) : Option Int := if InRange z then some z else none

def add (x y : Int) : Option Int := checked (x + y)
def sub (x y : Int) : Option Int := checked (x - y)
def mul (x y : Int) : Option Int := checked (x * y)

theorem checked_of_inRange {z : Int} (h : InRange z) : checked z = some z := if_pos h

end I256

/-- `i256!`, from `U256`. -/
def i256 (n : Nat) : Option Int := I256.checked n

/-- `u256!`, from `I256`. -/
def u256 (z : Int) : Option Nat := if 0 ≤ z then some z.toNat else none

theorem i256_of_lt {n : Nat} (h : n < 2 ^ 255) : i256 n = some (n : Int) :=
  I256.checked_of_inRange ⟨by omega, by omega⟩

/-! ## Byte vectors -/

/-- `byteVecSlice!`. -/
def byteVecSlice (bs : ByteVec) (i j : Nat) : Option ByteVec := slice? bs i j

/-- The shared body of the `u256FromNByte!` family: exactly `w` bytes, big-endian. -/
def u256FromBytes (w : Nat) (bs : ByteVec) : Option Nat :=
  if bs.length = w then some (beNat bs) else none

def u256From1Byte : ByteVec → Option Nat := u256FromBytes 1
def u256From2Byte : ByteVec → Option Nat := u256FromBytes 2
def u256From4Byte : ByteVec → Option Nat := u256FromBytes 4
def u256From8Byte : ByteVec → Option Nat := u256FromBytes 8
def u256From32Byte : ByteVec → Option Nat := u256FromBytes 32

/-- The shared body of the `u256ToNByte!` family: aborts when `n` needs more than `w` bytes. -/
def u256ToBytes (w n : Nat) : Option ByteVec :=
  if n < 256 ^ w then some (beBytes w n) else none

def u256To1Byte : Nat → Option ByteVec := u256ToBytes 1
def u256To2Byte : Nat → Option ByteVec := u256ToBytes 2
def u256To8Byte : Nat → Option ByteVec := u256ToBytes 8
def u256To32Byte : Nat → Option ByteVec := u256ToBytes 32

theorem u256FromBytes_eq_some {w n : Nat} {bs : ByteVec} :
    u256FromBytes w bs = some n ↔ bs.length = w ∧ beNat bs = n := by
  unfold u256FromBytes
  split <;> simp_all

theorem u256ToBytes_eq_some {w n : Nat} {bs : ByteVec} :
    u256ToBytes w n = some bs ↔ n < 256 ^ w ∧ beBytes w n = bs := by
  unfold u256ToBytes
  split <;> simp_all

/-- Reading back what was written. -/
theorem u256FromBytes_beBytes {w n : Nat} (h : n < 256 ^ w) :
    u256FromBytes w (beBytes w n) = some n := by
  rw [u256FromBytes_eq_some]
  exact ⟨beBytes_length w n, beNat_beBytes h⟩

/-- A read number fits its field. -/
theorem u256FromBytes_lt {w n : Nat} {bs : ByteVec} (h : u256FromBytes w bs = some n) :
    n < 256 ^ w := by
  obtain ⟨rfl, rfl⟩ := u256FromBytes_eq_some.mp h
  exact beNat_lt bs

end Wormhole.Alephium.Vm

/-
# Wormhole.Lib.Base64 — the standard encoding of bytes in 64 characters.

Three bytes are written as four characters, and the last one or two bytes with padding.  The decoder skips
line breaks, as decoders of mail do, and refuses whatever is not four characters of the alphabet, or the
padding at the end.  `decode_encode` is the round trip.
-/
import Mathlib

namespace Wormhole.Lib.Base64

/-! ## The alphabet -/

def alphabet : List Char := "ABCDEFGHIJKLMNOPQRSTUVWXYZabcdefghijklmnopqrstuvwxyz0123456789+/".toList

def digit (n : Nat) : Char := alphabet.getD n 'A'

/-- The value of a character of the alphabet. -/
def value (c : Char) : Option Nat := alphabet.idxOf? c

theorem value_digit : ∀ n < 64, value (digit n) = some n := by decide +kernel

/-- Neither a line break nor padding. -/
theorem digit_ne : ∀ n < 64, digit n ≠ '\r' ∧ digit n ≠ '\n' ∧ digit n ≠ '=' := by decide +kernel

theorem digit_ascii : ∀ n < 64, (digit n).toNat < 128 := by decide +kernel

/-! ## Encoding -/

def encode : List UInt8 → List Char
  | [] => []
  | [a] => [digit (a.toNat / 4), digit (a.toNat % 4 * 16), '=', '=']
  | [a, b] => [digit (a.toNat / 4), digit (a.toNat % 4 * 16 + b.toNat / 16), digit (b.toNat % 16 * 4), '=']
  | a :: b :: c :: rest =>
    digit (a.toNat / 4) :: digit (a.toNat % 4 * 16 + b.toNat / 16) :: digit (b.toNat % 16 * 4 + c.toNat / 64) ::
      digit (c.toNat % 64) :: encode rest

/-! ## Decoding -/

/-- Characters in groups of four; only the last group may be padded, and the bits behind its last byte are
not looked at. -/
def decodeGroups : List Char → Option (List UInt8)
  | [] => some []
  | [x, y, '=', '='] => do
    let x ← value x
    let y ← value y
    return [UInt8.ofNat (x * 4 + y / 16)]
  | [x, y, z, '='] => do
    let x ← value x
    let y ← value y
    let z ← value z
    return [UInt8.ofNat (x * 4 + y / 16), UInt8.ofNat (y % 16 * 16 + z / 4)]
  | x :: y :: z :: w :: rest => do
    let x ← value x
    let y ← value y
    let z ← value z
    let w ← value w
    let bytes ← decodeGroups rest
    return UInt8.ofNat (x * 4 + y / 16) :: UInt8.ofNat (y % 16 * 16 + z / 4) :: UInt8.ofNat (z % 4 * 64 + w) :: bytes
  | _ => none

def decode (s : List Char) : Option (List UInt8) := decodeGroups (s.filter fun c => c ≠ '\r' ∧ c ≠ '\n')

/-! ## There and back -/

/-- A byte from its upper and its lower part. -/
theorem ofNat_parts {a : UInt8} {n : Nat} (h : n = a.toNat) : UInt8.ofNat n = a := by
  rw [h, UInt8.ofNat_toNat]

theorem decodeGroups_encode (bs : List UInt8) : decodeGroups (encode bs) = some bs := by
  induction bs using encode.induct with
  | case1 => rfl
  | case2 a =>
    have ha := a.toNat_lt
    rw [encode, decodeGroups, value_digit _ (by omega), value_digit _ (by omega)]
    exact congrArg some (congrArg (· :: []) (ofNat_parts (by omega)))
  | case3 a b =>
    have ha := a.toNat_lt
    have hb := b.toNat_lt
    have hpad := (digit_ne (b.toNat % 16 * 4) (by omega)).2.2
    rw [encode, decodeGroups, value_digit _ (by omega), value_digit _ (by omega), value_digit _ (by omega)]
    · show some [_, _] = some [a, b]
      rw [ofNat_parts (a := a) (by omega), ofNat_parts (a := b) (by omega)]
    · exact hpad
  | case4 a b c rest ih =>
    have ha := a.toNat_lt
    have hb := b.toNat_lt
    have hc := c.toNat_lt
    have hpad := (digit_ne (c.toNat % 64) (by omega)).2.2
    rw [encode, decodeGroups, value_digit _ (by omega), value_digit _ (by omega), value_digit _ (by omega),
      value_digit _ (by omega), ih]
    · show some (_ :: _ :: _ :: rest) = some (a :: b :: c :: rest)
      rw [ofNat_parts (a := a) (by omega), ofNat_parts (a := b) (by omega), ofNat_parts (a := c) (by omega)]
    · intro _ h
      exact absurd h hpad
    · intro h
      exact absurd h hpad

/-- What holds of the alphabet and of the padding holds of every character. -/
theorem forall_mem_encode {p : Char → Prop} (hdigit : ∀ n < 64, p (digit n)) (hpad : p '=') (bs : List UInt8) :
    ∀ c ∈ encode bs, p c := by
  induction bs using encode.induct with
  | case1 => nofun
  | case2 a =>
    have ha := a.toNat_lt
    simp only [encode, List.forall_mem_cons]
    exact ⟨hdigit _ (by omega), hdigit _ (by omega), hpad, hpad, nofun⟩
  | case3 a b =>
    have ha := a.toNat_lt
    have hb := b.toNat_lt
    simp only [encode, List.forall_mem_cons]
    exact ⟨hdigit _ (by omega), hdigit _ (by omega), hdigit _ (by omega), hpad, nofun⟩
  | case4 a b c rest ih =>
    have ha := a.toNat_lt
    have hb := b.toNat_lt
    have hc := c.toNat_lt
    simp only [encode, List.forall_mem_cons]
    exact ⟨hdigit _ (by omega), hdigit _ (by omega), hdigit _ (by omega), hdigit _ (by omega), ih⟩

/-- **There and back.** -/
@[simp]
theorem decode_encode (bs : List UInt8) : decode (encode bs) = some bs := by
  have hunbroken : ∀ c ∈ encode bs, c ≠ '\r' ∧ c ≠ '\n' :=
    forall_mem_encode (fun n hn => ⟨(digit_ne n hn).1, (digit_ne n hn).2.1⟩) (by decide) bs
  have hfilter : (encode bs).filter (fun c => c ≠ '\r' ∧ c ≠ '\n') = encode bs :=
    List.filter_eq_self.mpr fun c hc => decide_eq_true (hunbroken c hc)
  rw [decode, hfilter, decodeGroups_encode]

/-- The encoding is in ASCII. -/
theorem encode_ascii (bs : List UInt8) : ∀ c ∈ encode bs, c.toNat < 128 :=
  forall_mem_encode digit_ascii (by decide) bs

end Wormhole.Lib.Base64

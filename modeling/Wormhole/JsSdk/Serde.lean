/-
# Wormhole.JsSdk.Serde — the compact integers of the JS SDK, and the operands made of them.

`serde.ts` writes the integers of Alephium's scripts: the two top bits of the first byte say whether none, one or three
bytes follow, whose number goes on from the low six bits, or whether the low six bits count the bytes.  Numbers of JS
are integers here; its bitwise operators take the low 32 bits of them, with a sign.

`encodePositiveInt` keeps half of every range free, for the sign that positive numbers do not use.  What both encoders
write is `Coded`: its length and its number can be read off it.  So no code starts another, and the operands of a
script, of which no one has a separator, are split in one way only.
-/
import Mathlib
import Wormhole.Lib.Bytes
import Wormhole.Lib.PrefixCodes

namespace Wormhole.JsSdk

open Wormhole.Lib Wormhole.Lib.Bytes

/-! ## Numbers of JS -/

/-- `num >> count`. -/
def shiftRight (num : Int) (count : Nat) : Int := ((BitVec.ofInt 32 num).sshiftRight count).toInt

/-- `num << count`. -/
def shiftLeft (num : Int) (count : Nat) : Int := (BitVec.ofInt 32 num <<< count).toInt

/-- `a & b`. -/
def bitAnd (a b : Int) : Int := (BitVec.ofInt 32 a &&& BitVec.ofInt 32 b).toInt

/-- `new Uint8Array(nums)`. -/
def uint8Array (nums : List Int) : List UInt8 := nums.map UInt8.ofInt

def hexDigitValue (c : Char) : Nat :=
  if '0' ≤ c ∧ c ≤ '9' then c.toNat - '0'.toNat
  else if 'a' ≤ c ∧ c ≤ 'f' then c.toNat - 'a'.toNat + 10
  else c.toNat - 'A'.toNat + 10

/-- `parseInt(digits, 16)`, of digits. -/
def parseInt (digits : List Char) : Nat := digits.foldl (fun value c => value * 16 + hexDigitValue c) 0

/-! ## Compact integers -/

def oneByteBoundUnsigned : Int := 0x40
def twoByteBoundUnsigned : Int := shiftLeft oneByteBoundUnsigned 8
def fourByteBoundUnsigned : Int := shiftLeft oneByteBoundUnsigned (8 * 3)

def oneByteBoundSigned : Int := 0x20
def twoByteBoundSigned : Int := shiftLeft oneByteBoundSigned 8
def fourByteBoundSigned : Int := shiftLeft oneByteBoundSigned (8 * 3)

def oneBytePrefix : Int := 0x00
def twoBytePrefix : Int := 0x40
def fourBytePrefix : Int := 0x80
def multiBytePrefix : Int := 0xc0

def encodePositiveInt (num : Int) : Except String (List UInt8) :=
  if num < 0 then .error (toString num ++ " less than 0")
  else if num < oneByteBoundSigned then .ok (uint8Array [num + oneBytePrefix])
  else if num < twoByteBoundSigned then
    .ok (uint8Array [bitAnd (shiftRight num 8) 0xff + twoBytePrefix, bitAnd num 0xff])
  else if num < fourByteBoundSigned then
    .ok (uint8Array [bitAnd (shiftRight num 24) 0xff + fourBytePrefix, bitAnd (shiftRight num 16) 0xff,
      bitAnd (shiftRight num 8) 0xff, bitAnd num 0xff])
  else
    .ok (uint8Array [multiBytePrefix, bitAnd (shiftRight num 24) 0xff, bitAnd (shiftRight num 16) 0xff,
      bitAnd (shiftRight num 8) 0xff, bitAnd num 0xff])

def encodeU32 (num : Int) : List UInt8 :=
  if num < oneByteBoundUnsigned then uint8Array [num + oneBytePrefix]
  else if num < twoByteBoundUnsigned then
    uint8Array [bitAnd (shiftRight num 8) 0xff + twoBytePrefix, bitAnd num 0xff]
  else
    uint8Array [bitAnd (shiftRight num 24) 0xff + fourBytePrefix, bitAnd (shiftRight num 16) 0xff,
      bitAnd (shiftRight num 8) 0xff, bitAnd num 0xff]

/-- `num.toString(16)`, of an even number of digits. -/
def evenHex (num : Nat) : List Char :=
  let hex := Nat.toDigits 16 num
  if hex.length % 2 = 1 then '0' :: hex else hex

/-- The loop of `encodeU256` over the pairs of digits. -/
def hexBytes (hex : List Char) : List UInt8 :=
  uint8Array ((List.range (hex.length / 2)).map fun index => (parseInt ((hex.drop (index * 2)).take 2) : Int))

def encodeU256 (num : Int) : Except String (List UInt8) :=
  if num < 0 then .error (toString num ++ " less than 0")
  else if num < fourByteBoundUnsigned then .ok (encodeU32 num)
  else
    let hex := evenHex num.toNat
    let byteLength : Int := (hex.length / 2 : Nat)
    let header := (byteLength - 4) + multiBytePrefix
    .ok (UInt8.ofInt header :: hexBytes hex)

/-! ## Bytes of numbers -/

theorem bitAnd_eq {n : Nat} (h : n < 2 ^ 31) : bitAnd n 0xff = (n % 256 : Nat) := by
  have htoNat : (BitVec.ofNat 32 n &&& BitVec.ofNat 32 0xff).toNat = n % 256 := by
    rw [BitVec.toNat_and, BitVec.toNat_ofNat, BitVec.toNat_ofNat, Nat.mod_eq_of_lt (by omega)]
    exact Nat.and_two_pow_sub_one_eq_mod n 8
  show (BitVec.ofNat 32 n &&& BitVec.ofNat 32 0xff).toInt = _
  rw [BitVec.toInt_eq_toNat_of_lt (by omega), htoNat]

theorem shiftRight_eq {n : Nat} (h : n < 2 ^ 31) (count : Nat) : shiftRight n count = (n / 2 ^ count : Nat) := by
  have hle : n / 2 ^ count ≤ n := Nat.div_le_self n (2 ^ count)
  have htoInt : (BitVec.ofNat 32 n).toInt = n := by
    rw [BitVec.toInt_eq_toNat_of_lt (by rw [BitVec.toNat_ofNat]; omega), BitVec.toNat_ofNat, Nat.mod_eq_of_lt (by omega)]
  show ((BitVec.ofNat 32 n).sshiftRight count).toInt = _
  rw [BitVec.toInt_sshiftRight, htoInt, Int.shiftRight_eq_div_pow]
  norm_cast

/-- A byte of a number. -/
theorem bitAnd_shiftRight {n : Nat} (h : n < 2 ^ 31) (count : Nat) :
    bitAnd (shiftRight n count) 0xff = (n / 2 ^ count % 256 : Nat) := by
  rw [shiftRight_eq h, bitAnd_eq (Nat.lt_of_le_of_lt (Nat.div_le_self n _) h)]

theorem ofInt_natCast (n : Nat) : UInt8.ofInt n = UInt8.ofNat n := by
  apply UInt8.toNat_inj.mp
  show (UInt8.ofNat ((n : Int) % 256).toNat).toNat = _
  rw [UInt8.toNat_ofNat', UInt8.toNat_ofNat']
  omega

theorem ofNat_mod (n : Nat) : UInt8.ofNat (n % 256) = UInt8.ofNat n := by
  apply UInt8.toNat_inj.mp
  rw [UInt8.toNat_ofNat', UInt8.toNat_ofNat']
  exact Nat.mod_mod n 256

/-! ## What is written -/

/-- The number goes on in `w` bytes. -/
def short (m w n : Nat) : List UInt8 := UInt8.ofNat (n / 256 ^ w + 64 * m) :: beBytes w n

theorem uint8Array_one (n : Nat) : uint8Array [(n : Int) + oneBytePrefix] = short 0 0 n := by
  simp only [uint8Array, oneBytePrefix, add_zero, List.map_cons, List.map_nil, ofInt_natCast, short, beBytes,
    Nat.pow_zero, Nat.div_one, Nat.mul_zero]

theorem uint8Array_two {n : Nat} (h : n < 2 ^ 14) :
    uint8Array [bitAnd (shiftRight n 8) 0xff + twoBytePrefix, bitAnd n 0xff] = short 1 1 n := by
  have hhead : bitAnd (shiftRight n 8) 0xff + twoBytePrefix = (n / 256 ^ 1 + 64 * 1 : Nat) := by
    rw [bitAnd_shiftRight (by omega), Nat.mod_eq_of_lt (by omega), twoBytePrefix]
    omega
  rw [hhead, bitAnd_eq (by omega)]
  simp only [uint8Array, List.map_cons, List.map_nil, ofInt_natCast, ofNat_mod, short, beBytes, Nat.pow_zero,
    Nat.div_one]

/-- The four bytes of a number. -/
theorem map_bytes {n : Nat} (h : n < 2 ^ 31) :
    uint8Array [bitAnd (shiftRight n 16) 0xff, bitAnd (shiftRight n 8) 0xff, bitAnd n 0xff] = beBytes 3 n := by
  rw [bitAnd_shiftRight h, bitAnd_shiftRight h, bitAnd_eq h]
  simp only [uint8Array, List.map_cons, List.map_nil, ofInt_natCast, ofNat_mod, beBytes, Nat.pow_zero, Nat.div_one]
  rfl

theorem uint8Array_four {n : Nat} (h : n < 2 ^ 30) :
    uint8Array [bitAnd (shiftRight n 24) 0xff + fourBytePrefix, bitAnd (shiftRight n 16) 0xff,
      bitAnd (shiftRight n 8) 0xff, bitAnd n 0xff] = short 2 3 n := by
  have hhead : bitAnd (shiftRight n 24) 0xff + fourBytePrefix = (n / 256 ^ 3 + 64 * 2 : Nat) := by
    rw [bitAnd_shiftRight (by omega), Nat.mod_eq_of_lt (by omega), fourBytePrefix]
    omega
  rw [hhead, short, ← map_bytes (by omega), ← ofInt_natCast]
  rfl

theorem uint8Array_multi {n : Nat} (h : n < 2 ^ 31) :
    uint8Array [multiBytePrefix, bitAnd (shiftRight n 24) 0xff, bitAnd (shiftRight n 16) 0xff,
      bitAnd (shiftRight n 8) 0xff, bitAnd n 0xff] = 0xc0 :: beBytes 4 n := by
  have hfirst : UInt8.ofInt (bitAnd (shiftRight n 24) 0xff) = UInt8.ofNat (n / 256 ^ 3) := by
    rw [bitAnd_shiftRight h, ofInt_natCast, ofNat_mod]
    rfl
  rw [beBytes, ← map_bytes h, ← hfirst]
  rfl

/-! ## What can be read off -/

/-- The two top bits. -/
def mode (b : UInt8) : Nat := b.toNat / 64

/-- The low six bits. -/
def low (b : UInt8) : Nat := b.toNat % 64

/-- The length of a code, by its first byte. -/
def codeLength (b : UInt8) : Nat :=
  match mode b with
  | 0 => 1
  | 1 => 2
  | 2 => 4
  | _ => low b + 5

/-- The number of a code: the remaining bits, big-endian. -/
def codeValue : List UInt8 → Nat
  | [] => 0
  | b :: rest => (if mode b < 3 then low b * 256 ^ rest.length else 0) + beNat rest

/-- The bytes are a code of the number. -/
def Coded (n : Nat) (c : List UInt8) : Prop := ∃ b rest, c = b :: rest ∧ c.length = codeLength b ∧ codeValue c = n

theorem ofNat_toNat {n : Nat} (h : n < 256) : (UInt8.ofNat n).toNat = n := by
  rw [UInt8.toNat_ofNat', Nat.mod_eq_of_lt h]

/-- A number that leaves the two top bits free. -/
theorem coded_short {m w n : Nat} (hmw : (m, w) ∈ [(0, 0), (1, 1), (2, 3)]) (h : n < 64 * 256 ^ w) :
    Coded n (short m w n) := by
  have hm : m < 3 := by
    simp only [List.mem_cons, List.not_mem_nil, Prod.mk.injEq, or_false] at hmw
    omega
  have hdiv : n / 256 ^ w < 64 := Nat.div_lt_of_lt_mul (by rw [Nat.mul_comm]; exact h)
  have hbyte : (UInt8.ofNat (n / 256 ^ w + 64 * m)).toNat = n / 256 ^ w + 64 * m := ofNat_toNat (by omega)
  have hmode : mode (UInt8.ofNat (n / 256 ^ w + 64 * m)) = m := by
    rw [mode, hbyte, Nat.add_mul_div_left _ _ (by decide), Nat.div_eq_of_lt hdiv, Nat.zero_add]
  have hlow : low (UInt8.ofNat (n / 256 ^ w + 64 * m)) = n / 256 ^ w := by
    rw [low, hbyte, Nat.add_mul_mod_self_left, Nat.mod_eq_of_lt hdiv]
  have hlen : codeLength (UInt8.ofNat (n / 256 ^ w + 64 * m)) = w + 1 := by
    rw [codeLength, hmode]
    simp only [List.mem_cons, List.not_mem_nil, Prod.mk.injEq, or_false] at hmw
    obtain ⟨rfl, rfl⟩ | ⟨rfl, rfl⟩ | ⟨rfl, rfl⟩ := hmw <;> rfl
  refine ⟨_, _, rfl, ?_, ?_⟩
  · rw [hlen, short, List.length_cons, beBytes_length]
  · rw [short, codeValue, hmode, if_pos hm, hlow, beBytes_length, beNat_beBytes_mod]
    exact Nat.div_add_mod' n (256 ^ w)

/-- The bytes of a number, counted. -/
theorem coded_multi (bytes : List UInt8) (hleast : 4 ≤ bytes.length) (hmost : bytes.length < 68) :
    Coded (beNat bytes) (UInt8.ofNat (bytes.length - 4 + 0xc0) :: bytes) := by
  have hbyte : (UInt8.ofNat (bytes.length - 4 + 0xc0)).toNat = bytes.length - 4 + 0xc0 := ofNat_toNat (by omega)
  have hmode : mode (UInt8.ofNat (bytes.length - 4 + 0xc0)) = 3 := by
    rw [mode, hbyte]
    omega
  have hlow : low (UInt8.ofNat (bytes.length - 4 + 0xc0)) = bytes.length - 4 := by
    rw [low, hbyte]
    omega
  refine ⟨_, _, rfl, ?_, ?_⟩
  · rw [codeLength, hmode, hlow, List.length_cons]
    show bytes.length + 1 = bytes.length - 4 + 5
    omega
  · rw [codeValue, if_neg (by omega), Nat.zero_add]

/-! ## Digits and bytes -/

theorem parseInt_append (s t : List Char) : parseInt (s ++ t) = parseInt s * 16 ^ t.length + parseInt t := by
  induction t using List.reverseRecOn with
  | nil => simp [parseInt]
  | append_singleton t c ih =>
    have hstep : ∀ u : List Char, parseInt (u ++ [c]) = parseInt u * 16 + hexDigitValue c := by
      intro u
      rw [parseInt, List.foldl_append]
      rfl
    rw [← List.append_assoc, hstep, hstep, ih, List.length_append, List.length_singleton, pow_succ]
    ring

theorem hexDigitValue_digitChar : ∀ d < 16, hexDigitValue (Nat.digitChar d) = d := by decide

/-- The digits of a number are parsed back. -/
theorem parseInt_toDigits (n : Nat) : parseInt (Nat.toDigits 16 n) = n := by
  induction n using Nat.strong_induction_on with
  | h n ih =>
    by_cases hlt : n < 16
    · rw [Nat.toDigits_of_lt_base hlt]
      show 0 * 16 + hexDigitValue (Nat.digitChar n) = n
      rw [hexDigitValue_digitChar n hlt, Nat.zero_mul, Nat.zero_add]
    · have hlast : parseInt [Nat.digitChar (n % 16)] = n % 16 := by
        show 0 * 16 + hexDigitValue (Nat.digitChar (n % 16)) = n % 16
        rw [hexDigitValue_digitChar _ (Nat.mod_lt n (by decide)), Nat.zero_mul, Nat.zero_add]
      rw [Nat.toDigits_of_base_le (by decide) (by omega), parseInt_append, ih (n / 16) (by omega), hlast]
      show n / 16 * 16 ^ 1 + n % 16 = n
      omega

/-- Hexadecimal digits. -/
def IsHex (hex : List Char) : Prop := ∀ c ∈ hex, hexDigitValue c < 16

theorem toDigits_isHex (n : Nat) : IsHex (Nat.toDigits 16 n) := by
  have hdigit : ∀ d < 16, IsHex [Nat.digitChar d] := by
    intro d hd c hc
    rw [List.mem_singleton.mp hc, hexDigitValue_digitChar d hd]
    exact hd
  induction n using Nat.strong_induction_on with
  | h n ih =>
    by_cases hlt : n < 16
    · rw [Nat.toDigits_of_lt_base hlt]
      exact hdigit n hlt
    · rw [Nat.toDigits_of_base_le (by decide) (by omega)]
      intro c hc
      rcases List.mem_append.mp hc with hc | hc
      · exact ih (n / 16) (by omega) c hc
      · exact hdigit (n % 16) (Nat.mod_lt n (by decide)) c hc

theorem hexBytes_cons (a b : Char) (hex : List Char) :
    hexBytes (a :: b :: hex) = UInt8.ofNat (parseInt [a, b]) :: hexBytes hex := by
  have hlen : (a :: b :: hex).length / 2 = hex.length / 2 + 1 := by
    rw [List.length_cons, List.length_cons]
    omega
  have hshift : ∀ index, ((a :: b :: hex).drop ((index + 1) * 2)).take 2 = (hex.drop (index * 2)).take 2 := by
    intro index
    rw [Nat.succ_mul]
    rfl
  rw [hexBytes, hlen, List.range_succ_eq_map, List.map_cons, List.map_map, uint8Array, List.map_cons, ofInt_natCast]
  simp only [Function.comp_def, Nat.succ_eq_add_one, hshift]
  rfl

theorem hexBytes_length (hex : List Char) : (hexBytes hex).length = hex.length / 2 := by
  rw [hexBytes, uint8Array, List.length_map, List.length_map, List.length_range]

/-- Pairs of digits are the bytes of their number. -/
theorem beNat_hexBytes {k : Nat} {hex : List Char} (hlen : hex.length = 2 * k) (hhex : IsHex hex) :
    beNat (hexBytes hex) = parseInt hex := by
  induction k generalizing hex with
  | zero =>
    obtain rfl : hex = [] := List.length_eq_zero_iff.mp hlen
    rfl
  | succ k ih =>
    match hex, hlen with
    | a :: b :: hex, hlen =>
      have hrest : hex.length = 2 * k := by
        rw [List.length_cons, List.length_cons] at hlen
        omega
      have ha : hexDigitValue a < 16 := hhex a (by simp)
      have hb : hexDigitValue b < 16 := hhex b (by simp)
      have hpair : parseInt [a, b] < 256 := by
        show (0 * 16 + hexDigitValue a) * 16 + hexDigitValue b < 256
        omega
      have hsplit : parseInt (a :: b :: hex) = parseInt [a, b] * 16 ^ hex.length + parseInt hex :=
        parseInt_append [a, b] hex
      have hpow : 256 ^ (hex.length / 2) = 16 ^ hex.length := by
        rw [show hex.length / 2 = k by omega, hrest, pow_mul]
        rfl
      rw [hexBytes_cons, beNat, ofNat_toNat hpair, hexBytes_length, hpow, ih hrest fun c hc => hhex c (by simp [hc]),
        hsplit]

theorem evenHex_even (n : Nat) : (evenHex n).length = 2 * ((evenHex n).length / 2) := by
  simp only [evenHex]
  split
  · rw [List.length_cons]
    omega
  · omega

theorem evenHex_isHex (n : Nat) : IsHex (evenHex n) := by
  simp only [evenHex]
  split
  · intro c hc
    rcases List.mem_cons.mp hc with rfl | hc
    · decide
    · exact toDigits_isHex n c hc
  · exact toDigits_isHex n

theorem parseInt_evenHex (n : Nat) : parseInt (evenHex n) = n := by
  simp only [evenHex]
  split
  · exact parseInt_toDigits n
  · exact parseInt_toDigits n

/-- From 2^30 on a number has at least four bytes, and with 256 bits at most 32. -/
theorem evenHex_bounds {n : Nat} (hleast : 2 ^ 30 ≤ n) (hmost : n < 2 ^ 256) :
    4 ≤ (evenHex n).length / 2 ∧ (evenHex n).length / 2 ≤ 32 := by
  have hseven : ¬(Nat.toDigits 16 n).length ≤ 7 := by
    rw [Nat.length_toDigits_le_iff (by decide) (by decide)]
    omega
  have hall : (Nat.toDigits 16 n).length ≤ 64 := by
    rw [Nat.length_toDigits_le_iff (by decide) (by decide)]
    exact hmost
  simp only [evenHex]
  split
  · rw [List.length_cons]
    omega
  · omega

/-! ## What the encoders write -/

theorem fourByteBoundUnsigned_eq : fourByteBoundUnsigned = (2 ^ 30 : Nat) := by decide

theorem encodeU32_coded {n : Nat} (h : n < 2 ^ 30) : Coded n (encodeU32 n) := by
  have hone : oneByteBoundUnsigned = (2 ^ 6 : Nat) := by decide
  have htwo : twoByteBoundUnsigned = (2 ^ 14 : Nat) := by decide
  simp only [encodeU32, hone, htwo, Nat.cast_lt]
  split
  · rw [uint8Array_one]
    exact coded_short (by decide) (by omega)
  · split
    · rw [uint8Array_two (by assumption)]
      exact coded_short (by decide) (by omega)
    · rw [uint8Array_four h]
      exact coded_short (by decide) (by omega)

theorem encodeU256_coded {n : Nat} (h : n < 2 ^ 256) : ∃ c, encodeU256 n = .ok c ∧ Coded n c := by
  have hneg : ¬((n : Int) < 0) := by omega
  by_cases hsmall : n < 2 ^ 30
  · refine ⟨encodeU32 n, ?_, encodeU32_coded hsmall⟩
    rw [encodeU256, if_neg hneg, if_pos (by rw [fourByteBoundUnsigned_eq]; exact Int.ofNat_lt.mpr hsmall)]
  · obtain ⟨hleast, hmost⟩ := evenHex_bounds (Nat.le_of_not_lt hsmall) h
    have hvalue : beNat (hexBytes (evenHex n)) = n :=
      (beNat_hexBytes (evenHex_even n) (evenHex_isHex n)).trans (parseInt_evenHex n)
    have hheader : (((evenHex n).length / 2 : Nat) : Int) - 4 + multiBytePrefix =
        ((evenHex n).length / 2 - 4 + 0xc0 : Nat) := by
      rw [multiBytePrefix]
      omega
    have hcoded := coded_multi (hexBytes (evenHex n)) (by rw [hexBytes_length]; exact hleast)
      (by rw [hexBytes_length]; omega)
    rw [hvalue, hexBytes_length] at hcoded
    refine ⟨_, ?_, hcoded⟩
    rw [encodeU256, if_neg hneg,
      if_neg (by rw [fourByteBoundUnsigned_eq]; exact fun hlt => hsmall (Int.ofNat_lt.mp hlt)), Int.toNat_natCast]
    show Except.ok (UInt8.ofInt (((evenHex n).length / 2 : Nat) - 4 + multiBytePrefix) :: hexBytes (evenHex n)) = _
    rw [hheader, ofInt_natCast]

theorem encodePositiveInt_coded {n : Nat} (h : n < 2 ^ 31) : ∃ c, encodePositiveInt n = .ok c ∧ Coded n c := by
  have hneg : ¬((n : Int) < 0) := by omega
  have hone : oneByteBoundSigned = (2 ^ 5 : Nat) := by decide
  have htwo : twoByteBoundSigned = (2 ^ 13 : Nat) := by decide
  have hfour : fourByteBoundSigned = (2 ^ 29 : Nat) := by decide
  simp only [encodePositiveInt, if_neg hneg, hone, htwo, hfour, Nat.cast_lt]
  split
  · rw [uint8Array_one]
    exact ⟨_, rfl, coded_short (by decide) (by omega)⟩
  · split
    · rw [uint8Array_two (by omega)]
      exact ⟨_, rfl, coded_short (by decide) (by omega)⟩
    · split
      · rw [uint8Array_four (by omega)]
        exact ⟨_, rfl, coded_short (by decide) (by omega)⟩
      · rw [uint8Array_multi h]
        have hcoded := coded_multi (beBytes 4 n) (by rw [beBytes_length]) (by rw [beBytes_length]; decide)
        rw [beNat_beBytes (by omega), beBytes_length] at hcoded
        exact ⟨_, rfl, hcoded⟩

/-! ## Codes are told apart -/

/-- The codes of all numbers. -/
def codes : Set (List UInt8) := {c | ∃ n, Coded n c}

theorem codes_prefixFree : PrefixFree codes := by
  apply PrefixFree.of_head codeLength
  rintro _ ⟨_, b, rest, rfl, hlen, _⟩
  exact ⟨b, rest, rfl, hlen⟩

theorem Coded.unique {m n : Nat} {c : List UInt8} (hm : Coded m c) (hn : Coded n c) : m = n := by
  obtain ⟨_, _, _, _, rfl⟩ := hm
  obtain ⟨_, _, _, _, rfl⟩ := hn
  rfl

/-- No code starts that of another number. -/
theorem Coded.eq_of_starts {m n : Nat} {c d : List UInt8} (hm : Coded m c) (hn : Coded n d) (hle : c <+: d) :
    c = d ∧ m = n := by
  have hcd : c = d := codes_prefixFree c ⟨m, hm⟩ d ⟨n, hn⟩ hle
  subst hcd
  exact ⟨rfl, hm.unique hn⟩

end Wormhole.JsSdk

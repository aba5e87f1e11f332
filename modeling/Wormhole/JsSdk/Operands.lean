/-
# Wormhole.JsSdk.Operands — the operands of generated scripts.

`token_bridge.ts` puts scripts together from hexadecimal texts.  A constant is the byte of an instruction with a
compact integer behind it: the number itself, or the number of the bytes that follow; six small numbers have
instructions of their own.  Nothing stands between the operands.

`compact_integers_split`: the compact integers of each encoder are told apart, and a concatenation of operands is
split in one way only, into operands of the same constants.
-/
import Mathlib
import Wormhole.Lib.Bytes
import Wormhole.Lib.PrefixCodes
import Wormhole.JsSdk.Serde

namespace Wormhole.JsSdk

open Wormhole.Lib Wormhole.Lib.Bytes
open InformationTheory (UniquelyDecodable)

/-! ## Texts -/

/-- `b.toString(16).padStart(2, '0')`. -/
def byteHex (b : UInt8) : List Char := (Nat.toDigits 16 b.toNat).leftpad 2 '0'

def toHex (bytes : List UInt8) : List Char := bytes.flatMap byteHex

def u256 (num : Int) : Except String (List Char) := do
  let code ← encodeU256 num
  return ['1', '3'] ++ toHex code

def encodeBytes (hex : List Char) : Except String (List Char) := do
  let length : Int := (hex.length / 2 : Nat)
  let code ← encodePositiveInt length
  return ['1', '4'] ++ toHex code ++ hex

def encodeConsistencyLevel (num : Int) : Except String (List Char) := do
  if num < 0 then throw "invalid consistencyLevel"
  let u256Const0Instr : Int := 0x0c
  if num ≤ 5 then
    let instr := u256Const0Instr + num
    return (Nat.toDigits 16 instr.toNat).leftpad 2 '0'
  let code ← encodeU256 num
  return ['1', '3'] ++ toHex code

/-! ## Operands -/

/-- An operand with its arguments: numbers of 256 bits, and the digits of fewer than 2^31 bytes. -/
inductive Operand where
  | u256 (num : Fin (2 ^ 256))
  | bytes (hex : List Char) (even : Even hex.length) (bounded : hex.length / 2 < 2 ^ 31)
  | consistencyLevel (num : Fin (2 ^ 256))

namespace Operand

/-- What the script writes. -/
def code : Operand → Except String (List Char)
  | u256 num => JsSdk.u256 num.val
  | bytes hex _ _ => encodeBytes hex
  | consistencyLevel num => encodeConsistencyLevel num.val

/-- The constant that the script pushes: a number, or bytes. -/
def constant : Operand → Nat ⊕ List Char
  | u256 num => .inl num.val
  | bytes hex _ _ => .inr hex
  | consistencyLevel num => .inl num.val

end Operand

/-- The instruction of a small number. -/
def constInstr (n : Nat) : List Char := (Nat.toDigits 16 (0x0c + n)).leftpad 2 '0'

/-- The words of a script, with their constants. -/
inductive Piece : Nat ⊕ List Char → List Char → Prop where
  | number {n : Nat} {c : List UInt8} (hcoded : Coded n c) : Piece (.inl n) (['1', '3'] ++ toHex c)
  | small {n : Nat} (hle : n ≤ 5) : Piece (.inl n) (constInstr n)
  | bytes {c : List UInt8} {hex : List Char} (hcoded : Coded (hex.length / 2) c) (heven : Even hex.length) :
      Piece (.inr hex) (['1', '4'] ++ (toHex c ++ hex))

theorem Operand.code_piece (o : Operand) : ∃ w, o.code = .ok w ∧ Piece o.constant w := by
  cases o with
  | u256 num =>
    obtain ⟨c, hencode, hcoded⟩ := encodeU256_coded num.isLt
    refine ⟨_, ?_, .number hcoded⟩
    rw [code, JsSdk.u256, hencode]
    rfl
  | bytes hex even bounded =>
    obtain ⟨c, hencode, hcoded⟩ := encodePositiveInt_coded bounded
    refine ⟨_, ?_, .bytes hcoded even⟩
    rw [code, encodeBytes]
    simp only [hencode]
    rfl
  | consistencyLevel num =>
    by_cases hle : num.val ≤ 5
    · refine ⟨_, ?_, .small hle⟩
      have hneg : ¬((num.val : Int) < 0) := by omega
      have hint : (num.val : Int) ≤ 5 := by omega
      simp only [code, encodeConsistencyLevel, if_neg hneg, if_pos hint]
      rfl
    · obtain ⟨c, hencode, hcoded⟩ := encodeU256_coded num.isLt
      refine ⟨_, ?_, .number hcoded⟩
      have hneg : ¬((num.val : Int) < 0) := by omega
      have hint : ¬((num.val : Int) ≤ 5) := by omega
      simp only [code, encodeConsistencyLevel, if_neg hneg, if_neg hint, hencode]
      rfl

/-! ## Words are told apart -/

theorem byteHex_ofNat : ∀ n < 256, (byteHex (UInt8.ofNat n)).length = 2 ∧
    (byteHex (UInt8.ofNat n)).map hexDigitValue = [n / 16, n % 16] := by decide +kernel

theorem byteHex_eq (b : UInt8) : (byteHex b).length = 2 ∧ (byteHex b).map hexDigitValue = [b.toNat / 16, b.toNat % 16] := by
  have h := byteHex_ofNat b.toNat b.toNat_lt
  rwa [UInt8.ofNat_toNat] at h

theorem byteHex_injective : Function.Injective byteHex := by
  intro a b h
  have hdigits := (byteHex_eq a).2
  rw [h, (byteHex_eq b).2] at hdigits
  simp only [List.cons.injEq, and_true] at hdigits
  apply UInt8.toNat_inj.mp
  omega

theorem toHex_prefixFree : PrefixFree (toHex '' codes) :=
  codes_prefixFree.flatMap byteHex_injective (fun b => (byteHex_eq b).1) (by decide)

theorem toHex_injective : Function.Injective toHex :=
  flatMap_injective_of_length byteHex_injective (fun b => (byteHex_eq b).1) (by decide)

theorem constInstr_eq : ∀ n < 6, (constInstr n).length = 2 ∧ constInstr n ≠ ['1', '3'] ∧ constInstr n ≠ ['1', '4'] ∧
    ∀ m < 6, constInstr m = constInstr n → m = n := by decide +kernel

/-- The two digits of an instruction. -/
def instr (w : List Char) : List Char := w.take 2

theorem instr_eq_of_starts {w y : List Char} (hw : 2 ≤ w.length) (hle : w <+: y) : instr w = instr y := by
  obtain ⟨t, rfl⟩ := hle
  rw [instr, instr, List.take_append_of_le_length hw]

theorem instr_constInstr {n : Nat} (hle : n ≤ 5) : instr (constInstr n) = constInstr n :=
  List.take_of_length_le (constInstr_eq n (by omega)).1.le

theorem Piece.two_le_length {v : Nat ⊕ List Char} {w : List Char} (h : Piece v w) : 2 ≤ w.length := by
  cases h with
  | number => simp
  | small hle => exact (constInstr_eq _ (by omega)).1.ge
  | bytes => simp

/-- **No word starts another**, and no word has two constants. -/
theorem Piece.eq_of_starts {v x : Nat ⊕ List Char} {w y : List Char} (hv : Piece v w) (hx : Piece x y) (hle : w <+: y) :
    w = y ∧ v = x := by
  have hinstr : instr w = instr y := instr_eq_of_starts hv.two_le_length hle
  cases hv with
  | @number n c hcoded =>
    cases hx with
    | @number n' c' hcoded' =>
      have htail : toHex c <+: toHex c' := (List.prefix_append_right_inj _).mp hle
      have hcc : toHex c = toHex c' := toHex_prefixFree _ ⟨c, ⟨n, hcoded⟩, rfl⟩ _ ⟨c', ⟨n', hcoded'⟩, rfl⟩ htail
      obtain rfl : c = c' := toHex_injective hcc
      exact ⟨rfl, congrArg Sum.inl (hcoded.unique hcoded')⟩
    | @small n' hle' =>
      rw [instr_constInstr hle'] at hinstr
      exact absurd hinstr.symm (constInstr_eq n' (by omega)).2.1
    | bytes => exact absurd hinstr (by decide : ['1', '3'] ≠ ['1', '4'])
  | @small n hsmall =>
    rw [instr_constInstr hsmall] at hinstr
    cases hx with
    | number => exact absurd hinstr (constInstr_eq n (by omega)).2.1
    | @small n' hle' =>
      rw [instr_constInstr hle'] at hinstr
      obtain rfl : n = n' := (constInstr_eq n' (by omega)).2.2.2 n (by omega) hinstr
      exact ⟨rfl, rfl⟩
    | bytes => exact absurd hinstr (constInstr_eq n (by omega)).2.2.1
  | @bytes c hex hcoded heven =>
    cases hx with
    | number => exact absurd hinstr (by decide : ['1', '4'] ≠ ['1', '3'])
    | @small n' hle' =>
      rw [instr_constInstr hle'] at hinstr
      exact absurd hinstr.symm (constInstr_eq n' (by omega)).2.2.1
    | @bytes c' hex' hcoded' heven' =>
      obtain ⟨t, ht⟩ := (List.prefix_append_right_inj _).mp hle
      rw [List.append_assoc] at ht
      obtain ⟨hcc, htail⟩ := toHex_prefixFree.append_inj ⟨c, ⟨_, hcoded⟩, rfl⟩ ⟨c', ⟨_, hcoded'⟩, rfl⟩ ht
      obtain rfl : c = c' := toHex_injective hcc
      -- the same number of bytes, so nothing follows
      have hhalf : hex.length / 2 = hex'.length / 2 := hcoded.unique hcoded'
      have hlen : hex.length = hex'.length := by
        rw [← Nat.two_mul_div_two_of_even heven, ← Nat.two_mul_div_two_of_even heven', hhalf]
      obtain rfl : hex = hex' := List.IsPrefix.eq_of_length ⟨t, htail⟩ hlen
      exact ⟨rfl, rfl⟩

/-- The words of a script. -/
def words : Set (List Char) := {w | ∃ o : Operand, o.code = .ok w}

theorem Operand.piece {o : Operand} {w : List Char} (h : o.code = .ok w) : Piece o.constant w := by
  obtain ⟨w', hcode, hpiece⟩ := o.code_piece
  rw [h] at hcode
  rwa [Except.ok.inj hcode]

theorem words_prefixFree : PrefixFree words := by
  rintro w ⟨o, ho⟩ y ⟨p, hp⟩ hle
  exact ((Operand.piece ho).eq_of_starts (Operand.piece hp) hle).1

theorem nil_notMem_words : [] ∉ words := by
  rintro ⟨o, ho⟩
  exact absurd (Operand.piece ho).two_le_length (by decide)

/-- **Compact integers** are read off their bytes, none starts another, and concatenated operands are split in one way
only. -/
theorem compact_integers_split :
    (∀ n < 2 ^ 256, ∃ b rest, encodeU256 (n : Nat) = .ok (b :: rest) ∧ (b :: rest).length = codeLength b ∧
      codeValue (b :: rest) = n) ∧
    (∀ n < 2 ^ 31, ∃ b rest, encodePositiveInt (n : Nat) = .ok (b :: rest) ∧ (b :: rest).length = codeLength b ∧
      codeValue (b :: rest) = n) ∧
    (∀ m < 2 ^ 256, ∀ n < 2 ^ 256, ∀ c d, encodeU256 (m : Nat) = .ok c → encodeU256 (n : Nat) = .ok d → c <+: d →
      c = d ∧ m = n) ∧
    (∀ m < 2 ^ 31, ∀ n < 2 ^ 31, ∀ c d, encodePositiveInt (m : Nat) = .ok c → encodePositiveInt (n : Nat) = .ok d →
      c <+: d → c = d ∧ m = n) ∧
    (∀ o : Operand, ∃ w, o.code = .ok w) ∧
    (∀ (o p : Operand) (w : List Char), o.code = .ok w → p.code = .ok w → o.constant = p.constant) ∧
    PrefixFree words ∧ UniquelyDecodable words := by
  refine ⟨?_, ?_, ?_, ?_, ?_, ?_, words_prefixFree, words_prefixFree.uniquelyDecodable nil_notMem_words⟩
  · intro n h
    obtain ⟨_, hencode, b, rest, rfl, hlen, hvalue⟩ := encodeU256_coded h
    exact ⟨b, rest, hencode, hlen, hvalue⟩
  · intro n h
    obtain ⟨_, hencode, b, rest, rfl, hlen, hvalue⟩ := encodePositiveInt_coded h
    exact ⟨b, rest, hencode, hlen, hvalue⟩
  · intro m hm n hn c d hc hd
    obtain ⟨c', hc', hcoded⟩ := encodeU256_coded hm
    obtain ⟨d', hd', hcoded'⟩ := encodeU256_coded hn
    obtain rfl : c' = c := Except.ok.inj (hc'.symm.trans hc)
    obtain rfl : d' = d := Except.ok.inj (hd'.symm.trans hd)
    exact hcoded.eq_of_starts hcoded'
  · intro m hm n hn c d hc hd
    obtain ⟨c', hc', hcoded⟩ := encodePositiveInt_coded hm
    obtain ⟨d', hd', hcoded'⟩ := encodePositiveInt_coded hn
    obtain rfl : c' = c := Except.ok.inj (hc'.symm.trans hc)
    obtain rfl : d' = d := Except.ok.inj (hd'.symm.trans hd)
    exact hcoded.eq_of_starts hcoded'
  · intro o
    obtain ⟨w, hcode, -⟩ := o.code_piece
    exact ⟨w, hcode⟩
  · intro o p w ho hp
    exact ((Operand.piece ho).eq_of_starts (Operand.piece hp) List.prefix_rfl).2

/-- The first number of five bytes. -/
theorem compact_integers_split_multi :
    2 ^ 30 < 2 ^ 256 ∧ ∃ b rest, encodeU256 (2 ^ 30 : Nat) = .ok (b :: rest) ∧ (b :: rest).length = codeLength b ∧
      codeValue (b :: rest) = 2 ^ 30 :=
  ⟨by norm_num, compact_integers_split.1 (2 ^ 30) (by norm_num)⟩

end Wormhole.JsSdk

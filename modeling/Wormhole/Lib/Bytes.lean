/-
# Wormhole.Lib.Bytes — big-endian numbers and slices of byte strings.

Wire formats are concatenations of fixed-width big-endian numbers, fixed-width byte strings and one
variable tail.  This file keeps the two sides of such a format apart: `beBytes w n` writes the `w`
low-order base-256 digits of `n`, `beNat` reads a byte string back, and `slice?` is the checked
sub-range a decoder cuts a field with.  `beNat_beBytes` and `beBytes_beNat` are the two directions of
the round trip, the `slice?_*` lemmas say which range of a concatenation is which field, and
`mem_of_aligned` finds an aligned range of a concatenation of equal blocks among the blocks.

Nothing here knows a particular format; strings are plain lists so that `simp` can normalise
concatenations.
-/
import Mathlib

namespace Wormhole.Lib.Bytes

/-- Byte strings of length exactly `n`. -/
abbrev FixedBytes (n : Nat) := {bs : List UInt8 // bs.length = n}

/-! ## Big-endian numbers -/

/-- The value of a byte string read as a base-256 numeral, most significant digit first. -/
def beNat : List UInt8 → Nat
  | [] => 0
  | b :: bs => b.toNat * 256 ^ bs.length + beNat bs

/-- The `w` low-order base-256 digits of `n`, most significant digit first. -/
def beBytes : Nat → Nat → List UInt8
  | 0, _ => []
  | w + 1, n => UInt8.ofNat (n / 256 ^ w) :: beBytes w n

@[simp]
theorem beBytes_length (w n : Nat) : (beBytes w n).length = w := by
  induction w with
  | zero => rfl
  | succ w ih => simp [beBytes, ih]

theorem beNat_lt (bs : List UInt8) : beNat bs < 256 ^ bs.length := by
  induction bs with
  | nil => simp [beNat]
  | cons b bs ih =>
    have hb : b.toNat < 256 := b.toNat_lt
    have hmul : (b.toNat + 1) * 256 ^ bs.length ≤ 256 * 256 ^ bs.length :=
      Nat.mul_le_mul_right _ hb
    simp only [beNat, List.length_cons, pow_succ']
    rw [Nat.succ_mul] at hmul
    omega

/-- Writing `w` digits keeps `n` modulo `256 ^ w`. -/
theorem beNat_beBytes_mod (w n : Nat) : beNat (beBytes w n) = n % 256 ^ w := by
  induction w with
  | zero => simp [beBytes, beNat, Nat.mod_one]
  | succ w ih =>
    have hdigit : (UInt8.ofNat (n / 256 ^ w)).toNat = n / 256 ^ w % 256 := UInt8.toNat_ofNat'
    rw [beBytes, beNat, beBytes_length, ih, hdigit, Nat.mod_pow_succ, Nat.mul_comm, Nat.add_comm]

/-- **Round trip, number side.** A number that fits is read back. -/
theorem beNat_beBytes {w n : Nat} (h : n < 256 ^ w) : beNat (beBytes w n) = n := by
  rw [beNat_beBytes_mod, Nat.mod_eq_of_lt h]

/-! The bounds of the fixed-width types, as `beNat_beBytes` wants them. -/

theorem toNat_lt_uint8 (x : UInt8) : x.toNat < 256 ^ 1 := x.toNat_lt
theorem toNat_lt_uint16 (x : UInt16) : x.toNat < 256 ^ 2 := x.toNat_lt
theorem toNat_lt_uint32 (x : UInt32) : x.toNat < 256 ^ 4 := x.toNat_lt
theorem toNat_lt_uint64 (x : UInt64) : x.toNat < 256 ^ 8 := x.toNat_lt

theorem beBytes_add_mul (w n k : Nat) : beBytes w (k * 256 ^ w + n) = beBytes w n := by
  suffices h : ∀ v ≤ w, beBytes v (k * 256 ^ w + n) = beBytes v n from h w le_rfl
  intro v hv
  induction v with
  | zero => rfl
  | succ v ih =>
    have hsplit : k * 256 ^ w = k * 256 ^ (w - (v + 1)) * 256 * 256 ^ v := by
      rw [Nat.mul_assoc, Nat.mul_assoc, ← pow_succ', ← pow_add]
      congr 2
      omega
    have hdiv : (k * 256 ^ w + n) / 256 ^ v = n / 256 ^ v + k * 256 ^ (w - (v + 1)) * 256 := by
      rw [hsplit, Nat.add_comm, Nat.add_mul_div_right _ _ (by positivity)]
    have hdigit : UInt8.ofNat ((k * 256 ^ w + n) / 256 ^ v) = UInt8.ofNat (n / 256 ^ v) := by
      apply UInt8.toNat_inj.mp
      rw [hdiv, UInt8.toNat_ofNat', UInt8.toNat_ofNat']
      exact Nat.add_mul_mod_self_right _ _ _
    rw [beBytes, beBytes, ih (by omega), hdigit]

/-- **Round trip, byte side.** A string is the digits of its own value. -/
theorem beBytes_beNat (bs : List UInt8) : beBytes bs.length (beNat bs) = bs := by
  induction bs with
  | nil => rfl
  | cons b bs ih =>
    have hdiv : beNat (b :: bs) / 256 ^ bs.length = b.toNat := by
      rw [beNat, Nat.add_comm, Nat.add_mul_div_right _ _ (by positivity),
        Nat.div_eq_of_lt (beNat_lt bs), Nat.zero_add]
    simp only [List.length_cons, beBytes, hdiv, UInt8.ofNat_toNat]
    rw [beNat, beBytes_add_mul, ih]

/-- Digits in two parts. -/
theorem beBytes_append (v w n : Nat) : beBytes (v + w) n = beBytes v (n / 256 ^ w) ++ beBytes w n := by
  induction v with
  | zero => rw [Nat.zero_add, beBytes, List.nil_append]
  | succ v ih =>
    rw [Nat.succ_add, beBytes, beBytes, ih, Nat.div_div_eq_div_mul, ← pow_add, Nat.add_comm w v]
    rfl

theorem beBytes_mod (w n : Nat) : beBytes w (n % 256 ^ w) = beBytes w n := by
  have h := beBytes_add_mul w (n % 256 ^ w) (n / 256 ^ w)
  rw [Nat.div_add_mod'] at h
  exact h.symm

/-- The last digits of a longer string. -/
theorem beBytes_beNat_drop {w k : Nat} {bs : List UInt8} (hbs : bs.length = k + w) :
    beBytes w (beNat bs) = bs.drop k := by
  induction k generalizing bs with
  | zero =>
    rw [Nat.zero_add] at hbs
    subst hbs
    exact beBytes_beNat bs
  | succ k ih =>
    cases bs with
    | nil =>
      rw [List.length_nil] at hbs
      omega
    | cons b bs =>
      have hlen : bs.length = k + w := by
        rw [List.length_cons] at hbs
        omega
      have hhigh : b.toNat * 256 ^ bs.length = b.toNat * 256 ^ k * 256 ^ w := by
        rw [hlen, pow_add, Nat.mul_assoc]
      rw [beNat, hhigh, beBytes_add_mul, ih hlen, List.drop_succ_cons]

theorem beBytes_injective {w m n : Nat} (hm : m < 256 ^ w) (hn : n < 256 ^ w)
    (h : beBytes w m = beBytes w n) : m = n := by
  rw [← beNat_beBytes hm, h, beNat_beBytes hn]

@[simp]
theorem beNat_singleton (b : UInt8) : beNat [b] = b.toNat := by simp [beNat]

theorem beBytes_one (n : Nat) : beBytes 1 n = [UInt8.ofNat n] := by simp [beBytes]

theorem beBytes_uint8 (b : UInt8) : beBytes 1 b.toNat = [b] := by rw [beBytes_one, UInt8.ofNat_toNat]

/-! ## Checked slices -/

variable {α : Type*}

/-- The elements at positions `i ≤ k < j`, or `none` when the range is not inside the list. -/
def slice? (l : List α) (i j : Nat) : Option (List α) :=
  if i ≤ j ∧ j ≤ l.length then some ((l.drop i).take (j - i)) else none

theorem slice?_eq_some {l s : List α} {i j : Nat} :
    slice? l i j = some s ↔ i ≤ j ∧ j ≤ l.length ∧ (l.drop i).take (j - i) = s := by
  unfold slice?
  split
  · rename_i h
    simp [h.1, h.2]
  · rename_i h
    simp only [reduceCtorEq, false_iff]
    rintro ⟨hij, hj, -⟩
    exact h ⟨hij, hj⟩

theorem slice?_length {l s : List α} {i j : Nat} (h : slice? l i j = some s) :
    s.length = j - i := by
  obtain ⟨hij, hj, rfl⟩ := slice?_eq_some.mp h
  simp only [List.length_take, List.length_drop]
  omega

/-- The middle field of a concatenation is the slice between the lengths around it. -/
theorem slice?_append (pre mid post : List α) :
    slice? (pre ++ (mid ++ post)) pre.length (pre.length + mid.length) = some mid := by
  rw [slice?_eq_some]
  refine ⟨by omega, by simp, ?_⟩
  simp

/-- `slice?_append` with the bounds left as numbers to be checked. -/
theorem slice?_mid {l pre mid post : List α} {i j : Nat} (hl : l = pre ++ (mid ++ post))
    (hi : i = pre.length) (hj : j = i + mid.length) : slice? l i j = some mid := by
  subst hl hi hj
  exact slice?_append pre mid post

/-- The last field of a concatenation runs to the end of the list. -/
theorem slice?_suffix {l pre post : List α} {i : Nat} (hl : l = pre ++ post)
    (hi : i = pre.length) : slice? l i l.length = some post := by
  have hl' : l = pre ++ (post ++ []) := by rw [hl, List.append_nil]
  exact slice?_mid hl' hi (by rw [hl, hi, List.length_append])

/-- The first field. -/
theorem slice?_head {pre : List α} {n : Nat} (hn : pre.length = n) (l : List α) :
    slice? (pre ++ l) 0 n = some pre :=
  slice?_mid (show pre ++ l = [] ++ (pre ++ l) from rfl) rfl (by rw [hn, Nat.zero_add])

/-- Slicing behind a prefix. -/
theorem slice?_skip {pre : List α} {n : Nat} (hn : pre.length = n) (l : List α) (i j : Nat) :
    slice? (pre ++ l) (n + i) (n + j) = slice? l i j := by
  subst hn
  unfold slice?
  rw [List.length_append, Nat.add_sub_add_left, List.drop_append, List.drop_eq_nil_of_le (by omega),
    List.nil_append, Nat.add_sub_cancel_left]
  simp only [Nat.add_le_add_iff_left]

/-- A successful slice splits the list in three. -/
theorem slice?_split {l s : List α} {i j : Nat} (h : slice? l i j = some s) :
    l = l.take i ++ (s ++ l.drop j) := by
  obtain ⟨hij, hj, rfl⟩ := slice?_eq_some.mp h
  have hdrop : (l.drop i).drop (j - i) = l.drop j := by
    rw [List.drop_drop]
    congr 1
    omega
  rw [← hdrop, List.take_append_drop, List.take_append_drop]

/-- A slice of a slice. -/
theorem slice?_slice? {l s u : List α} {i j a b : Nat} (h : slice? l i j = some s)
    (hu : slice? s a b = some u) : slice? l (i + a) (i + b) = some u := by
  have hsplit : l = (l.take i ++ s.take a) ++ (u ++ (s.drop b ++ l.drop j)) := by
    have hs := slice?_split hu
    calc l = l.take i ++ (s ++ l.drop j) := slice?_split h
      _ = l.take i ++ ((s.take a ++ (u ++ s.drop b)) ++ l.drop j) := by rw [← hs]
      _ = _ := by simp only [List.append_assoc]
  have hlen := slice?_length hu
  obtain ⟨hij, hj, -⟩ := slice?_eq_some.mp h
  obtain ⟨hab, hb, -⟩ := slice?_eq_some.mp hu
  refine slice?_mid hsplit ?_ ?_
  · rw [List.length_append, List.length_take_of_le (hij.trans hj), List.length_take_of_le (hab.trans hb)]
  · omega

/-! ## Blocks of one length -/

/-- A range of a concatenation of `w`-blocks that starts at a multiple of `w` is one of the blocks. -/
theorem mem_of_aligned {w : Nat} (hw : 0 < w) {blocks : List (List α)}
    (hblocks : ∀ b ∈ blocks, b.length = w) {pre x post : List α}
    (h : blocks.flatten = pre ++ (x ++ post)) (hx : x.length = w) (hpre : w ∣ pre.length) :
    x ∈ blocks := by
  induction blocks generalizing pre with
  | nil =>
    have := congrArg List.length h
    simp only [List.flatten_nil, List.length_nil, List.length_append] at this
    omega
  | cons b blocks ih =>
    have hb : b.length = w := hblocks b (by simp)
    rw [List.flatten_cons] at h
    rcases Nat.eq_zero_or_pos pre.length with hnil | hpos
    · rw [List.length_eq_zero_iff.mp hnil, List.nil_append] at h
      obtain ⟨rfl, -⟩ := List.append_inj h (by rw [hb, hx])
      exact List.mem_cons_self
    · have hle : w ≤ pre.length := Nat.le_of_dvd hpos hpre
      have hpre' : pre = b ++ pre.drop w := by
        have htake := congrArg (List.take w) h
        rw [List.take_left' hb, List.take_append_of_le_length hle] at htake
        rw [htake, List.take_append_drop]
      rw [hpre', List.append_assoc, List.append_right_inj] at h
      refine List.mem_cons_of_mem _ (ih (fun c hc => hblocks c (List.mem_cons_of_mem _ hc)) h ?_)
      rw [List.length_drop]
      exact Nat.dvd_sub hpre (dvd_refl w)

end Wormhole.Lib.Bytes

/-
# Wormhole.Lib.Codec — codecs with one writing for each value.

A codec is a writer and a reader of one type, under one law: the reader returns a value, and the bytes
behind it, exactly when the input starts with the writing of the value.  So what is written is read back,
and what is read was written in no other way.  Codecs are built from byte arrays and little-endian numbers
by pairing, by lists with a 32-bit count and by a partial bijection (`refine`), which also makes records.
-/
import Mathlib
import Wormhole.Lib.Bytes
import Wormhole.Lib.Failing
import Wormhole.Lib.Reader

namespace Wormhole.Lib

open Wormhole.Lib.Bytes

/-- A writer and a reader that fit. -/
structure Codec (ε α : Type) where
  write : α → List UInt8
  read : Reader ε α
  law : ∀ bs a rest, read.run bs = .ok (a, rest) ↔ bs = write a ++ rest

/-- Lists whose length a 32-bit count holds. -/
abbrev Vec (α : Type) := {l : List α // l.length < 2 ^ 32}

namespace Codec

variable {ε α β : Type}

/-- A whole byte string as one value. -/
def decode (c : Codec ε α) (err : ε) : List UInt8 → Except ε α :=
  Reader.decode do
    let a ← c.read
    Reader.finished err
    return a

/-- **What a codec accepts** is what it writes. -/
theorem decode_eq_ok {c : Codec ε α} {err : ε} {bs : List UInt8} {a : α} :
    c.decode err bs = .ok a ↔ bs = c.write a := by
  rw [decode, Reader.decode_eq_ok]
  constructor
  · rintro ⟨rest, h⟩
    obtain ⟨a', mid, hread, hrest⟩ := Reader.bind_eq_ok.mp h
    obtain ⟨u, mid', hfinished, hpure⟩ := Reader.bind_eq_ok.mp hrest
    obtain ⟨rfl, rfl⟩ := Reader.finished_eq_ok.mp hfinished
    obtain ⟨rfl, rfl⟩ := Reader.pure_eq_ok.mp hpure
    rw [(c.law bs a' []).mp hread, List.append_nil]
  · rintro rfl
    refine ⟨[], Reader.bind_eq_ok.mpr ⟨a, [], ?_, ?_⟩⟩
    · exact (c.law _ a []).mpr (List.append_nil _).symm
    · exact Reader.bind_eq_ok.mpr ⟨(), [], Reader.finished_nil, Reader.pure_eq_ok.mpr ⟨rfl, rfl⟩⟩

/-- Two values are written differently, whatever follows. -/
theorem write_append_inj {c : Codec ε α} {a b : α} {rest rest' : List UInt8}
    (h : c.write a ++ rest = c.write b ++ rest') : a = b ∧ rest = rest' := by
  have ha : c.read.run (c.write a ++ rest) = .ok (a, rest) := (c.law _ a rest).mpr rfl
  have hb : c.read.run (c.write a ++ rest) = .ok (b, rest') := (c.law _ b rest').mpr h
  exact Prod.mk.inj (Except.ok.inj (ha.symm.trans hb))

/-! ## Combinators -/

/-- Byte strings of a fixed length. -/
def array (err : ε) (n : Nat) : Codec ε (FixedBytes n) where
  write a := a.val
  read := Reader.array err n
  law _ _ _ := Reader.array_eq_ok

/-- One value behind another. -/
def pair (c : Codec ε α) (d : Codec ε β) : Codec ε (α × β) where
  write p := c.write p.1 ++ d.write p.2
  read := do
    let a ← c.read
    let b ← d.read
    return (a, b)
  law bs p rest := by
    constructor
    · intro h
      obtain ⟨a, mid, ha, h⟩ := Reader.bind_eq_ok.mp h
      obtain ⟨b, mid', hb, h⟩ := Reader.bind_eq_ok.mp h
      obtain ⟨rfl, rfl⟩ := Reader.pure_eq_ok.mp h
      rw [(c.law bs a mid).mp ha, (d.law mid b mid').mp hb, List.append_assoc]
    · rintro rfl
      refine Reader.bind_eq_ok.mpr ⟨p.1, d.write p.2 ++ rest, ?_, ?_⟩
      · exact (c.law _ _ _).mpr (List.append_assoc _ _ _)
      · refine Reader.bind_eq_ok.mpr ⟨p.2, rest, (d.law _ _ _).mpr rfl, ?_⟩
        exact Reader.pure_eq_ok.mpr ⟨rfl, rfl⟩

/-- The values `b`, each in place of the one value `g b` that `f` takes to it. -/
def refine (c : Codec ε α) (err : ε) (f : α → Option β) (g : β → α) (h : ∀ a b, f a = some b ↔ a = g b) :
    Codec ε β where
  write b := c.write (g b)
  read := do
    let a ← c.read
    match f a with
    | some b => return b
    | none => throw err
  law bs b rest := by
    constructor
    · intro hread
      obtain ⟨a, mid, ha, hread⟩ := Reader.bind_eq_ok.mp hread
      cases hf : f a with
      | none =>
        rw [hf] at hread
        cases hread
      | some b' =>
        rw [hf] at hread
        obtain ⟨rfl, rfl⟩ := Reader.pure_eq_ok.mp hread
        rw [(c.law bs a mid).mp ha, (h a b').mp hf]
    · rintro rfl
      refine Reader.bind_eq_ok.mpr ⟨g b, rest, (c.law _ _ _).mpr rfl, ?_⟩
      rw [(h (g b) b).mpr rfl]
      exact Reader.pure_eq_ok.mpr ⟨rfl, rfl⟩

/-- The same values under other names. -/
def iso (c : Codec ε α) (e : α ≃ β) : Codec ε β where
  write b := c.write (e.symm b)
  read := do
    let a ← c.read
    return e a
  law bs b rest := by
    constructor
    · intro hread
      obtain ⟨a, mid, ha, hread⟩ := Reader.bind_eq_ok.mp hread
      obtain ⟨rfl, rfl⟩ := Reader.pure_eq_ok.mp hread
      rw [(c.law bs a mid).mp ha, e.symm_apply_apply]
    · rintro rfl
      refine Reader.bind_eq_ok.mpr ⟨e.symm b, rest, (c.law _ _ _).mpr rfl, ?_⟩
      exact Reader.pure_eq_ok.mpr ⟨e.apply_symm_apply b, rfl⟩

/-! ## Lists -/

/-- A counted repetition reads what was written one value after another. -/
theorem replicate_eq_ok (c : Codec ε α) {n : Nat} {bs : List UInt8} {as : List α} {rest : List UInt8} :
    (Reader.replicate c.read n).run bs = .ok (as, rest) ↔
      as.length = n ∧ bs = as.flatMap c.write ++ rest := by
  induction n generalizing bs as with
  | zero =>
    rw [Reader.replicate, Reader.pure_eq_ok]
    constructor
    · rintro ⟨rfl, rfl⟩
      exact ⟨rfl, rfl⟩
    · rintro ⟨hlen, hbs⟩
      obtain rfl := List.length_eq_zero_iff.mp hlen
      exact ⟨rfl, hbs⟩
  | succ n ih =>
    rw [Reader.replicate, Reader.bind_eq_ok]
    constructor
    · rintro ⟨a, mid, ha, h⟩
      obtain ⟨as', mid', has, h⟩ := Reader.bind_eq_ok.mp h
      obtain ⟨rfl, rfl⟩ := Reader.pure_eq_ok.mp h
      obtain ⟨hlen, hmid⟩ := ih.mp has
      refine ⟨congrArg (· + 1) hlen, ?_⟩
      rw [(c.law bs a mid).mp ha, hmid, List.flatMap_cons, List.append_assoc]
    · rintro ⟨hlen, rfl⟩
      cases as with
      | nil => cases hlen
      | cons a as =>
        rw [List.flatMap_cons, List.append_assoc]
        refine ⟨a, as.flatMap c.write ++ rest, (c.law _ _ _).mpr rfl, ?_⟩
        refine Reader.bind_eq_ok.mpr ⟨as, rest, ih.mpr ⟨Nat.succ.inj hlen, rfl⟩, ?_⟩
        exact Reader.pure_eq_ok.mpr ⟨rfl, rfl⟩

/-- A list behind its count. -/
def list (count : Codec ε UInt32) (c : Codec ε α) (err : ε) : Codec ε (Vec α) where
  write l := count.write (UInt32.ofNat l.val.length) ++ l.val.flatMap c.write
  read := do
    let n ← count.read
    let as ← Reader.replicate c.read n.toNat
    if h : as.length < 2 ^ 32 then return ⟨as, h⟩ else throw err
  law bs l rest := by
    constructor
    · intro hread
      obtain ⟨n, mid, hn, hread⟩ := Reader.bind_eq_ok.mp hread
      obtain ⟨as, mid', has, hread⟩ := Reader.bind_eq_ok.mp hread
      obtain ⟨hlen, hmid⟩ := c.replicate_eq_ok.mp has
      split at hread
      · obtain ⟨rfl, rfl⟩ := Reader.pure_eq_ok.mp hread
        show bs = count.write (UInt32.ofNat as.length) ++ as.flatMap c.write ++ mid'
        rw [(count.law bs n mid).mp hn, hmid, hlen, UInt32.ofNat_toNat, List.append_assoc]
      · cases hread
    · rintro rfl
      have hcount : (UInt32.ofNat l.val.length).toNat = l.val.length := by
        rw [UInt32.toNat_ofNat']
        exact Nat.mod_eq_of_lt l.property
      refine Reader.bind_eq_ok.mpr ⟨UInt32.ofNat l.val.length, l.val.flatMap c.write ++ rest, ?_, ?_⟩
      · exact (count.law _ _ _).mpr (List.append_assoc _ _ _)
      · refine Reader.bind_eq_ok.mpr ⟨l.val, rest, c.replicate_eq_ok.mpr ⟨hcount.symm, rfl⟩, ?_⟩
        rw [dif_pos l.property]
        exact Reader.pure_eq_ok.mpr ⟨rfl, rfl⟩

/-! ## Numbers -/

/-- Little-endian numbers of `w` bytes, as the type that holds exactly these. -/
def little (err : ε) (w : Nat) (ofNat : Nat → α) (toNat : α → Nat) (hlt : ∀ a, toNat a < 256 ^ w)
    (hof : ∀ a, ofNat (toNat a) = a) (hto : ∀ n, n < 256 ^ w → toNat (ofNat n) = n) : Codec ε α :=
  (array err w).refine err (fun bs => some (ofNat (beNat bs.val.reverse)))
    (fun a => ⟨(beBytes w (toNat a)).reverse, by simp⟩) fun bs a => by
      rw [Option.some.injEq]
      constructor
      · rintro rfl
        apply Subtype.ext
        have hlen : bs.val.reverse.length = w := by rw [List.length_reverse, bs.property]
        have hbound : beNat bs.val.reverse < 256 ^ w := by
          have h := beNat_lt bs.val.reverse
          rwa [hlen] at h
        have hbytes : beBytes w (beNat bs.val.reverse) = bs.val.reverse := by
          have h := beBytes_beNat bs.val.reverse
          rwa [hlen] at h
        show bs.val = (beBytes w (toNat (ofNat (beNat bs.val.reverse)))).reverse
        rw [hto _ hbound, hbytes, List.reverse_reverse]
      · rintro rfl
        show ofNat (beNat (beBytes w (toNat a)).reverse.reverse) = a
        rw [List.reverse_reverse, beNat_beBytes (hlt a), hof]

def uint8 (err : ε) : Codec ε UInt8 :=
  little err 1 UInt8.ofNat UInt8.toNat toNat_lt_uint8 (fun _ => UInt8.ofNat_toNat)
    fun _ h => by rw [UInt8.toNat_ofNat']; exact Nat.mod_eq_of_lt h

def uint16 (err : ε) : Codec ε UInt16 :=
  little err 2 UInt16.ofNat UInt16.toNat toNat_lt_uint16 (fun _ => UInt16.ofNat_toNat)
    fun _ h => by rw [UInt16.toNat_ofNat']; exact Nat.mod_eq_of_lt h

def uint32 (err : ε) : Codec ε UInt32 :=
  little err 4 UInt32.ofNat UInt32.toNat toNat_lt_uint32 (fun _ => UInt32.ofNat_toNat)
    fun _ h => by rw [UInt32.toNat_ofNat']; exact Nat.mod_eq_of_lt h

def uint64 (err : ε) : Codec ε UInt64 :=
  little err 8 UInt64.ofNat UInt64.toNat toNat_lt_uint64 (fun _ => UInt64.ofNat_toNat)
    fun _ h => by rw [UInt64.toNat_ofNat']; exact Nat.mod_eq_of_lt h

/-- A truth value is a byte 0 or 1. -/
def bool (err : ε) : Codec ε Bool :=
  (uint8 err).refine err (fun b => if b = 0 then some false else if b = 1 then some true else none)
    (fun b => if b then 1 else 0) fun a b => by
      by_cases h0 : a = 0
      · subst h0
        cases b <;> simp
      · by_cases h1 : a = 1
        · subst h1
          cases b <;> simp
        · cases b <;> simp [h0, h1]

/-! ## Errors -/

section Errors

variable {err : ε}

/-- The codec's reader fails with this error only. -/
def FailsWith (c : Codec ε α) (err : ε) : Prop := Reader.FailsWith err c.read

namespace FailsWith

theorem pair {c : Codec ε α} {d : Codec ε β} (hc : c.FailsWith err) (hd : d.FailsWith err) :
    (c.pair d).FailsWith err :=
  .bind hc fun _ => .bind hd fun _ => .pure

theorem iso {c : Codec ε α} (hc : c.FailsWith err) (e : α ≃ β) : (c.iso e).FailsWith err :=
  .bind hc fun _ => .pure

theorem little {w : Nat} {ofNat : Nat → α} {toNat : α → Nat} {hlt : ∀ a, toNat a < 256 ^ w}
    {hof : ∀ a, ofNat (toNat a) = a} {hto : ∀ n, n < 256 ^ w → toNat (ofNat n) = n} :
    (little err w ofNat toNat hlt hof hto).FailsWith err :=
  .bind .array fun _ => .pure

theorem uint32 : (uint32 err).FailsWith err := little

theorem uint64 : (uint64 err).FailsWith err := little

theorem array : (Codec.array err n).FailsWith err := Reader.FailsWith.array

theorem refine {c : Codec ε α} (hc : c.FailsWith err) {f : α → Option β} {g : β → α}
    {h : ∀ a b, f a = some b ↔ a = g b} : (c.refine err f g h).FailsWith err := by
  apply Reader.FailsWith.bind hc
  intro a
  cases f a with
  | none => exact Reader.FailsWith.throw
  | some b => exact Reader.FailsWith.pure

theorem bool : (Codec.bool err).FailsWith err := .refine .little

theorem list {count : Codec ε UInt32} {c : Codec ε α} (hcount : count.FailsWith err) (hc : c.FailsWith err) :
    (Codec.list count c err).FailsWith err := by
  apply Reader.FailsWith.bind hcount
  intro n
  apply Reader.FailsWith.bind (Reader.FailsWith.replicate hc n.toNat)
  intro as
  split
  · exact Reader.FailsWith.pure
  · exact Reader.FailsWith.throw

/-- Bytes that are left over are the same error. -/
theorem decode {c : Codec ε α} (hc : c.FailsWith err) {bs : List UInt8} {err' : ε} (hne : err' ≠ err) :
    Failing.Never err' (c.decode err bs) :=
  Reader.FailsWith.decode (.bind hc fun _ => .bind .finished fun _ => .pure) hne

end FailsWith

end Errors

/-! ## Lengths -/

section Length

variable (err : ε)

@[simp]
theorem array_write {n : Nat} (a : FixedBytes n) : (array err n).write a = a.val := rfl

@[simp]
theorem pair_write (c : Codec ε α) (d : Codec ε β) (p : α × β) :
    (c.pair d).write p = c.write p.1 ++ d.write p.2 := rfl

@[simp]
theorem uint8_write (b : UInt8) : (uint8 err).write b = [b] := by
  show (beBytes 1 b.toNat).reverse = [b]
  rw [beBytes_uint8, List.reverse_singleton]

@[simp]
theorem uint16_write (n : UInt16) : (uint16 err).write n = (beBytes 2 n.toNat).reverse := rfl

@[simp]
theorem uint32_write (n : UInt32) : (uint32 err).write n = (beBytes 4 n.toNat).reverse := rfl

@[simp]
theorem uint64_write (n : UInt64) : (uint64 err).write n = (beBytes 8 n.toNat).reverse := rfl

@[simp]
theorem bool_write (b : Bool) : (bool err).write b = [if b then 1 else 0] := by
  show (uint8 err).write (if b then 1 else 0) = _
  rw [uint8_write]

@[simp]
theorem list_write (count : Codec ε UInt32) (c : Codec ε α) (l : Vec α) :
    (list count c err).write l = count.write (UInt32.ofNat l.val.length) ++ l.val.flatMap c.write := rfl

/-- The writing of equally long values. -/
theorem flatMap_write_length {c : Codec ε α} {w : Nat} (h : ∀ a, (c.write a).length = w) (l : List α) :
    (l.flatMap c.write).length = l.length * w := by
  induction l with
  | nil => simp
  | cons a l ih =>
    rw [List.flatMap_cons, List.length_append, h, ih, List.length_cons, Nat.succ_mul, Nat.add_comm]

end Length

end Codec

end Wormhole.Lib

/-
# Wormhole.Lib.Reader — readers that consume a byte string from the front.

A reader takes the bytes that are left and returns a value with the bytes that are left then, or an error.
A decoder is a sequence of readers.  What it does on a concatenation of fields is computed field by field
(`array_append`, `number_append`); what it accepted is read off with `array_eq_ok` and its like.
-/
import Mathlib
import Wormhole.Lib.Bytes
import Wormhole.Lib.Failing

namespace Wormhole.Lib

open Wormhole.Lib.Bytes

/-- A decoder that fails with an `ε`. -/
abbrev Reader (ε : Type) := StateT (List UInt8) (Except ε)

namespace Reader

variable {ε α β : Type}

/-- The next `n` bytes; fails when fewer are left. -/
def array (err : ε) (n : Nat) : Reader ε (FixedBytes n) := fun bs =>
  if h : n ≤ bs.length then .ok (⟨bs.take n, List.length_take_of_le h⟩, bs.drop n) else .error err

/-- The next `n` bytes, or what is left of them followed by zeros; never fails. -/
def upTo (n : Nat) : Reader ε (FixedBytes n) := fun bs =>
  .ok (⟨(bs ++ List.replicate n 0x00).take n, by simp⟩, bs.drop n)

/-- The next `w` bytes as a big-endian number. -/
def number (err : ε) (w : Nat) : Reader ε Nat := do
  let bs ← array err w
  return beNat bs.val

/-- Fail unless the condition holds. -/
def check (c : Prop) [Decidable c] (err : ε) : Reader ε Unit := fun bs =>
  if c then .ok ((), bs) else .error err

/-- Fail unless everything has been read. -/
def finished (err : ε) : Reader ε Unit := fun bs =>
  if bs = [] then .ok ((), bs) else .error err

/-- `n` values of one reader. -/
def replicate (x : Reader ε α) : Nat → Reader ε (List α)
  | 0 => return []
  | n + 1 => do
    let a ← x
    return a :: (← replicate x n)

/-- What a decoder returns for a byte string. -/
def decode (x : Reader ε α) (bs : List UInt8) : Except ε α := (x.run bs).map Prod.fst

/-! ## Concatenations -/

section Append

variable {n w : Nat} {bs rest : List UInt8} {err : ε}

theorem bind_run (x : Reader ε α) (f : α → Reader ε β) (bs : List UInt8) :
    (x >>= f).run bs = x.run bs >>= fun p => (f p.1).run p.2 := rfl

theorem array_append (a : FixedBytes n) : (array err n).run (a.val ++ rest) = .ok (a, rest) := by
  have hlen : n ≤ (a.val ++ rest).length := by
    rw [List.length_append, a.property]
    exact Nat.le_add_right _ _
  show array err n (a.val ++ rest) = .ok (a, rest)
  rw [array, dif_pos hlen]
  congr 2
  · exact Subtype.ext (List.take_left' a.property)
  · exact List.drop_left' a.property

theorem upTo_append (a : FixedBytes n) : (upTo n : Reader ε _).run (a.val ++ rest) = .ok (a, rest) := by
  show upTo n (a.val ++ rest) = .ok (a, rest)
  rw [upTo]
  congr 2
  · apply Subtype.ext
    show (a.val ++ rest ++ List.replicate n 0x00).take n = a.val
    rw [List.append_assoc]
    exact List.take_left' a.property
  · exact List.drop_left' a.property

/-- An array at the end. -/
theorem array_end (a : FixedBytes n) : (array err n).run a.val = .ok (a, []) := by
  have h : (array err n).run (a.val ++ []) = .ok (a, []) := array_append a
  rwa [List.append_nil] at h

/-- A number is read by its bytes. -/
theorem number_array (a : FixedBytes w) : (number err w).run (a.val ++ rest) = .ok (beNat a.val, rest) := by
  rw [number, bind_run, array_append]
  rfl

theorem number_append {k : Nat} (hk : k < 256 ^ w) :
    (number err w).run (beBytes w k ++ rest) = .ok (k, rest) := by
  have h : (number err w).run (beBytes w k ++ rest) = .ok (beNat (beBytes w k), rest) :=
    number_array ⟨beBytes w k, beBytes_length w k⟩
  rwa [beNat_beBytes hk] at h

/-- A number at the end. -/
theorem number_end {k : Nat} (hk : k < 256 ^ w) : (number err w).run (beBytes w k) = .ok (k, []) := by
  have h : (number err w).run (beBytes w k ++ []) = .ok (k, []) := number_append hk
  rwa [List.append_nil] at h

theorem check_true {c : Prop} [Decidable c] (hc : c) : (check c err).run bs = .ok ((), bs) := if_pos hc

theorem check_false {c : Prop} [Decidable c] (hc : ¬c) : (check c err).run bs = .error err := if_neg hc

theorem finished_nil : (finished err).run [] = .ok ((), []) := rfl

/-- A repeated reader on the concatenation of what it reads one by one. -/
theorem replicate_append {x : Reader ε α} {enc : α → List UInt8}
    (hx : ∀ a rest, x.run (enc a ++ rest) = .ok (a, rest)) (as : List α) :
    (replicate x as.length).run (as.flatMap enc ++ rest) = .ok (as, rest) := by
  induction as with
  | nil => rfl
  | cons a as ih =>
    rw [List.flatMap_cons, List.append_assoc, List.length_cons, replicate, bind_run, hx, Failing.ok_bind,
      bind_run, ih]
    rfl

end Append

/-! ## Accepted inputs -/

section Accepted

variable {n w : Nat} {bs rest : List UInt8} {err : ε}

theorem bind_eq_ok {x : Reader ε α} {f : α → Reader ε β} {b : β} :
    (x >>= f).run bs = .ok (b, rest) ↔ ∃ a mid, x.run bs = .ok (a, mid) ∧ (f a).run mid = .ok (b, rest) := by
  rw [bind_run, Failing.bind_eq_ok]
  exact Prod.exists

theorem pure_eq_ok {a b : α} : (pure a : Reader ε α).run bs = .ok (b, rest) ↔ a = b ∧ bs = rest := by
  show Except.ok (a, bs) = Except.ok (b, rest) ↔ _
  rw [Except.ok.injEq, Prod.mk.injEq]

theorem array_eq_ok {a : FixedBytes n} : (array err n).run bs = .ok (a, rest) ↔ bs = a.val ++ rest := by
  constructor
  · intro h
    replace h : array err n bs = .ok (a, rest) := h
    rw [array] at h
    split at h
    · obtain ⟨rfl, rfl⟩ := Prod.mk.inj (Except.ok.inj h)
      exact (List.take_append_drop n bs).symm
    · cases h
  · rintro rfl
    exact array_append a

theorem number_eq_ok {k : Nat} :
    (number err w).run bs = .ok (k, rest) ↔ k < 256 ^ w ∧ bs = beBytes w k ++ rest := by
  constructor
  · intro h
    obtain ⟨a, mid, ha, hk⟩ := bind_eq_ok.mp h
    obtain ⟨rfl, rfl⟩ := pure_eq_ok.mp hk
    have hlt := beNat_lt a.val
    have hbytes := beBytes_beNat a.val
    rw [a.property] at hlt hbytes
    exact ⟨hlt, by rw [array_eq_ok.mp ha, hbytes]⟩
  · rintro ⟨hk, rfl⟩
    exact number_append hk

/-- Integers of a type that holds the numbers of `w` bytes and no others. -/
theorem ofNat_eq_ok {ofNat : Nat → α} {toNat : α → Nat} (hofNat : ∀ k < 256 ^ w, toNat (ofNat k) = k)
    (htoNat : ∀ x, ofNat (toNat x) = x) (hlt : ∀ x, toNat x < 256 ^ w) {x : α} :
    (number err w >>= fun k => pure (ofNat k)).run bs = .ok (x, rest) ↔ bs = beBytes w (toNat x) ++ rest := by
  constructor
  · intro h
    obtain ⟨k, mid, hk, hx⟩ := bind_eq_ok.mp h
    obtain ⟨rfl, rfl⟩ := pure_eq_ok.mp hx
    obtain ⟨hlt, rfl⟩ := number_eq_ok.mp hk
    rw [hofNat k hlt]
  · rintro rfl
    exact bind_eq_ok.mpr ⟨toNat x, rest, number_append (hlt x), pure_eq_ok.mpr ⟨htoNat x, rfl⟩⟩

theorem check_eq_ok {c : Prop} [Decidable c] {u : Unit} :
    (check c err).run bs = .ok (u, rest) ↔ c ∧ bs = rest := by
  show check c err bs = .ok (u, rest) ↔ _
  unfold check
  split <;> simp_all

theorem finished_eq_ok {u : Unit} : (finished err).run bs = .ok (u, rest) ↔ bs = [] ∧ rest = [] := by
  show finished err bs = .ok (u, rest) ↔ _
  unfold finished
  split <;> simp_all [eq_comm]

theorem upTo_eq_ok {a : FixedBytes n} :
    (upTo n : Reader ε _).run bs = .ok (a, rest) ↔
      a.val = (bs ++ List.replicate n 0x00).take n ∧ rest = bs.drop n := by
  show upTo n bs = .ok (a, rest) ↔ _
  rw [upTo, Except.ok.injEq, Prod.mk.injEq, Subtype.ext_iff]
  exact and_congr eq_comm eq_comm

/-- A repeated reader of what is there never fails. -/
theorem replicate_upTo (n k : Nat) (bs : List UInt8) :
    ∃ as, (replicate (upTo n : Reader ε _) k).run bs = .ok (as, bs.drop (n * k)) := by
  induction k generalizing bs with
  | zero => exact ⟨[], rfl⟩
  | succ k ih =>
    obtain ⟨a, ha⟩ : ∃ a, (upTo n : Reader ε _).run bs = .ok (a, bs.drop n) := ⟨_, rfl⟩
    obtain ⟨as, has⟩ := ih (bs.drop n)
    refine ⟨a :: as, bind_eq_ok.mpr ⟨a, _, ha, bind_eq_ok.mpr ⟨as, _, has, ?_⟩⟩⟩
    rw [pure_eq_ok, List.drop_drop, Nat.mul_succ, Nat.add_comm]
    exact ⟨rfl, rfl⟩

/-- A repeated reader of what is there: nothing is left over, or all is read in full. -/
theorem replicate_upTo_eq_ok {k : Nat} {as : List (FixedBytes n)}
    (h : (replicate (upTo n : Reader ε _) k).run bs = .ok (as, rest)) :
    as.length = k ∧ rest = bs.drop (n * k) ∧
      (n * k ≤ bs.length → as.flatMap Subtype.val = bs.take (n * k)) := by
  induction k generalizing bs as with
  | zero =>
    obtain ⟨rfl, rfl⟩ := pure_eq_ok.mp h
    exact ⟨rfl, rfl, fun _ => rfl⟩
  | succ k ih =>
    obtain ⟨a, mid, ha, h⟩ := bind_eq_ok.mp h
    obtain ⟨as', mid', has', h⟩ := bind_eq_ok.mp h
    obtain ⟨rfl, rfl⟩ := pure_eq_ok.mp h
    obtain ⟨hval, rfl⟩ := upTo_eq_ok.mp ha
    obtain ⟨hlength, hrest, hkeys⟩ := ih has'
    have hsplit : n * (k + 1) = n + n * k := by rw [Nat.mul_succ, Nat.add_comm]
    refine ⟨by rw [List.length_cons, hlength], ?_, ?_⟩
    · rw [hrest, List.drop_drop, hsplit]
    · intro hle
      have hfull : n ≤ bs.length := by omega
      rw [List.flatMap_cons, hkeys (by rw [List.length_drop]; omega), hval, List.take_append_of_le_length hfull,
        hsplit, List.take_add]

theorem decode_eq_ok {x : Reader ε α} {a : α} : x.decode bs = .ok a ↔ ∃ rest, x.run bs = .ok (a, rest) := by
  rw [decode, Failing.map_eq_ok]
  constructor
  · rintro ⟨⟨b, rest⟩, h, rfl⟩
    exact ⟨rest, h⟩
  · rintro ⟨rest, h⟩
    exact ⟨(a, rest), h, rfl⟩

end Accepted

/-! ## Errors -/

section Errors

variable {n : Nat} {err : ε}

/-- The reader fails with this error only. -/
def FailsWith (err : ε) (x : Reader ε α) : Prop := ∀ bs err', err' ≠ err → Failing.Never err' (x.run bs)

namespace FailsWith

theorem pure {a : α} : FailsWith err (Pure.pure a : Reader ε α) := fun _ _ _ => .ok

theorem bind {x : Reader ε α} {f : α → Reader ε β} (hx : FailsWith err x) (hf : ∀ a, FailsWith err (f a)) :
    FailsWith err (x >>= f) := by
  intro bs err' hne
  apply Failing.Never.bind (hx bs err' hne)
  intro p _
  exact hf p.1 p.2 err' hne

theorem array : FailsWith err (Reader.array err n) := by
  intro bs err' hne
  show Failing.Never err' (Reader.array err n bs)
  unfold Reader.array
  split
  · exact .ok
  · exact .error hne.symm

theorem finished : FailsWith err (Reader.finished err) := by
  intro bs err' hne
  show Failing.Never err' (Reader.finished err bs)
  unfold Reader.finished
  split
  · exact .ok
  · exact .error hne.symm

theorem throw : FailsWith err (MonadExcept.throw err : Reader ε α) := fun _ _ hne => .error hne.symm

theorem replicate {x : Reader ε α} (hx : FailsWith err x) : ∀ n, FailsWith err (Reader.replicate x n)
  | 0 => .pure
  | n + 1 => .bind hx fun _ => .bind (replicate hx n) fun _ => .pure

theorem decode {x : Reader ε α} (hx : FailsWith err x) {bs : List UInt8} {err' : ε} (hne : err' ≠ err) :
    Failing.Never err' (x.decode bs) := by
  have h := hx bs err' hne
  unfold Reader.decode
  cases hrun : x.run bs with
  | ok p => exact .ok
  | error err'' =>
    rw [hrun] at h
    exact .error fun heq => h (congrArg _ heq)

end FailsWith

end Errors

end Reader

end Wormhole.Lib

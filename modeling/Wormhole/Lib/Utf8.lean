/-
# Wormhole.Lib.Utf8 — text in fields of bytes.

Strings are lists of characters.  `encode` writes one as UTF-8, and `decode?` reads what has been written
(`decode?_eq_some`).  Bytes that need not be UTF-8 are read by a lossy decoder: it puts U+FFFD where it finds
no character, and what is left without these is text of the field (`strip`).  Of such a decoder two things are
assumed (`Lossy`), and `lossy` has them.  A text that has been stripped out of a field fits into it, and is
stripped out of it again (`Lossy.strip_pad`).
-/
import Mathlib

namespace Wormhole.Lib.Utf8

/-! ## Strings -/

/-- The bytes of a string. -/
def encode (s : List Char) : List UInt8 := s.flatMap String.utf8EncodeChar

/-- The string with these bytes, if there is one. -/
def decode? (bytes : List UInt8) : Option (List Char) := (String.fromUTF8? ⟨bytes.toArray⟩).map String.toList

@[simp]
theorem encode_cons (c : Char) (s : List Char) : encode (c :: s) = String.utf8EncodeChar c ++ encode s :=
  List.flatMap_cons

theorem utf8Encode_data (s : List Char) : s.utf8Encode.data.toList = encode s := by
  rw [List.utf8Encode, List.data_toByteArray]
  rfl

/-- **Reading what is written**, and nothing else. -/
theorem decode?_eq_some {bytes : List UInt8} {s : List Char} : decode? bytes = some s ↔ encode s = bytes := by
  unfold decode? String.fromUTF8?
  constructor
  · intro h
    split at h
    · obtain ⟨t, ht, rfl⟩ := Option.map_eq_some_iff.mp h
      rw [← utf8Encode_data, String.utf8Encode_toList, ← Option.some.inj ht]
      exact List.toList_toArray
    · cases h
  · rintro rfl
    have hbytes : (⟨(encode s).toArray⟩ : ByteArray) = s.utf8Encode := by
      apply ByteArray.ext
      rw [← utf8Encode_data, Array.toArray_toList]
    have hstring : String.fromUTF8 ⟨(encode s).toArray⟩ ⟨s, hbytes⟩ = String.ofList s := by
      apply String.toByteArray_inj.mp
      rw [String.toByteArray_ofList]
      exact hbytes
    rw [dif_pos ⟨s, hbytes⟩, Option.map_some, hstring, String.toList_ofList]

/-! ## Lossy decoding -/

/-- What stands where no character was found. -/
def replacement : Char := '\uFFFD'

/-- **A lossy decoder** reads a string as it is, and finds its characters in the bytes, one behind the
other. -/
structure Lossy (chars : List UInt8 → List Char) : Prop where
  valid : ∀ s, chars (encode s) = s
  sublist : ∀ bytes, (encode ((chars bytes).filter (· ≠ replacement))).Sublist bytes

/-- The text of a field: without zeros, and without what is no character. -/
def strip (chars : List UInt8 → List Char) (field : List UInt8) : List Char :=
  (chars (field.filter (· ≠ 0x00))).filter (· ≠ replacement)

section Strip

variable {chars : List UInt8 → List Char} {field : List UInt8}

theorem Lossy.encode_strip_sublist (h : Lossy chars) :
    (encode (strip chars field)).Sublist (field.filter (· ≠ 0x00)) := h.sublist _

/-- The text fits into its field. -/
theorem Lossy.strip_length (h : Lossy chars) : (encode (strip chars field)).length ≤ field.length :=
  (h.encode_strip_sublist.trans List.filter_sublist).length_le

/-- The text, padded with zeros, is stripped again. -/
theorem Lossy.strip_pad (h : Lossy chars) (k : Nat) :
    strip chars (encode (strip chars field) ++ List.replicate k 0x00) = strip chars field := by
  have hnonzero : ∀ b ∈ encode (strip chars field), b ≠ 0x00 := by
    intro b hb
    have hmem := h.encode_strip_sublist.subset hb
    simpa using (List.mem_filter.mp hmem).2
  have hfilter : (encode (strip chars field) ++ List.replicate k 0x00).filter (· ≠ 0x00) =
      encode (strip chars field) := by
    rw [List.filter_append, List.filter_eq_self.mpr (by simpa using hnonzero), List.filter_replicate]
    simp
  rw [strip, hfilter, h.valid]
  exact List.filter_eq_self.mpr fun c hc => (List.mem_filter.mp hc).2

end Strip

/-! ## A lossy decoder -/

/-- Character by character; a byte that starts none counts as one that is none. -/
def lossyAux : Nat → List UInt8 → List Char
  | _, [] => []
  | 0, _ => []
  | n + 1, b :: rest =>
    match ByteArray.utf8DecodeChar? ⟨(b :: rest).toArray⟩ 0 with
    | some c => c :: lossyAux n ((b :: rest).drop c.utf8Size)
    | none => replacement :: lossyAux n rest

def lossy (bytes : List UInt8) : List Char := lossyAux bytes.length bytes

theorem decodeChar_append (c : Char) (rest : List UInt8) :
    ByteArray.utf8DecodeChar? ⟨(String.utf8EncodeChar c ++ rest).toArray⟩ 0 = some c := by
  have hbytes : (⟨(String.utf8EncodeChar c ++ rest).toArray⟩ : ByteArray) =
      (String.utf8EncodeChar c).toByteArray ++ rest.toByteArray := by
    apply ByteArray.ext
    rw [ByteArray.data_append, List.data_toByteArray, List.data_toByteArray, List.append_toArray]
  rw [hbytes]
  exact ByteArray.utf8DecodeChar?_utf8EncodeChar_append

/-- A character that is found stands at the front. -/
theorem eq_append_of_decodeChar {bytes : List UInt8} {c : Char}
    (h : ByteArray.utf8DecodeChar? ⟨bytes.toArray⟩ 0 = some c) :
    bytes = String.utf8EncodeChar c ++ bytes.drop c.utf8Size := by
  have hextract := String.toByteArray_utf8EncodeChar_of_utf8DecodeChar?_eq_some h
  have htake : String.utf8EncodeChar c = bytes.take c.utf8Size := by
    have hdata := congrArg (fun b : ByteArray => b.data.toList) hextract
    simpa [ByteArray.data_extract] using hdata
  rw [htake]
  exact (List.take_append_drop ..).symm

theorem lossyAux_encode (s : List Char) (n : Nat) (hn : (encode s).length ≤ n) : lossyAux n (encode s) = s := by
  induction s generalizing n with
  | nil => cases n <;> rfl
  | cons c s ih =>
    have hsize := c.utf8Size_pos
    rw [encode_cons] at hn ⊢
    rw [List.length_append, String.length_utf8EncodeChar] at hn
    cases n with
    | zero => omega
    | succ n =>
      have hdecode := decodeChar_append c (encode s)
      have hdrop : (String.utf8EncodeChar c ++ encode s).drop c.utf8Size = encode s :=
        List.drop_left' (String.length_utf8EncodeChar c)
      cases hbytes : String.utf8EncodeChar c ++ encode s with
      | nil =>
        have hlength := congrArg List.length hbytes
        rw [List.length_append, String.length_utf8EncodeChar, List.length_nil] at hlength
        omega
      | cons b rest =>
        rw [hbytes] at hdecode hdrop
        rw [lossyAux, hdecode]
        show c :: lossyAux n ((b :: rest).drop c.utf8Size) = c :: s
        rw [hdrop, ih n (by omega)]

theorem lossyAux_sublist (n : Nat) (bytes : List UInt8) :
    (encode ((lossyAux n bytes).filter (· ≠ replacement))).Sublist bytes := by
  induction n generalizing bytes with
  | zero => cases bytes <;> exact List.nil_sublist _
  | succ n ih =>
    cases bytes with
    | nil => exact List.nil_sublist _
    | cons b rest =>
      rw [lossyAux]
      cases hdecode : ByteArray.utf8DecodeChar? ⟨(b :: rest).toArray⟩ 0 with
      | none =>
        have hskip := ih rest
        simpa using hskip.trans (List.sublist_cons_self b rest)
      | some c =>
        have hsplit := eq_append_of_decodeChar hdecode
        have hrest := ih ((b :: rest).drop c.utf8Size)
        by_cases hc : c = replacement
        · rw [hc] at hrest ⊢
          simpa using hrest.trans (List.drop_sublist _ _)
        · have hfilter : (c :: lossyAux n ((b :: rest).drop c.utf8Size)).filter (· ≠ replacement) =
              c :: (lossyAux n ((b :: rest).drop c.utf8Size)).filter (· ≠ replacement) :=
            List.filter_cons_of_pos (by simpa using hc)
          show (encode ((c :: lossyAux n ((b :: rest).drop c.utf8Size)).filter (· ≠ replacement))).Sublist _
          rw [hfilter, encode_cons, hsplit]
          refine (List.Sublist.refl _).append ?_
          rwa [← hsplit]

/-- **It is one.** -/
theorem lossy_lossy : Lossy lossy where
  valid := fun s => lossyAux_encode s _ le_rfl
  sublist := fun bytes => lossyAux_sublist _ bytes

end Wormhole.Lib.Utf8

/-
# Wormhole.Solana.SignatureBounds — what `verify_signatures` reads.

`verify_signatures` (`bridge/program/src/api/verify_signature.rs`) walks over the entries in the data of the
secp256k1 instruction before it, takes the message of the first one, and marks a slot for each signer that
the caller names.  Every read of the data, of the guardian keys and of the slots is indexed by a number that
the caller chose, and panics out of bounds.

`bounded_iff` says when no read does: `InBounds` follows the order of the reads.  The source compares the
index of a signer with the number of guardians by `>`, so that an index equal to it reads a key behind the
last, `fifthSigner_panics`.
-/
import Mathlib
import Wormhole.Lib.Bytes
import Wormhole.Lib.Failing
import Wormhole.Lib.Codec
import Wormhole.Lib.Transition
import Wormhole.Solana.Solitaire
import Wormhole.Solana.Accounts
import Wormhole.Solana.Core
import Wormhole.Solana.Instructions
import Wormhole.Solana.PostedVaa

namespace Wormhole.Solana.Core

open Wormhole.Lib Wormhole.Lib.Bytes Wormhole.Lib.Transition

/-! ## The entries, as they stand in the data -/

section Entries

variable (data : List UInt8)

/-- A byte, zero behind the end. -/
def byteAt (k : Nat) : UInt8 := data.getD k 0x00

/-- A little-endian number of two bytes. -/
def u16At (k : Nat) : UInt16 := UInt16.ofNat (beNat [byteAt data (k + 1), byteAt data k])

def entryAt (i : Nat) : SecpEntry where
  sigIx := byteAt data (1 + 11 * i + 2)
  addressOffset := u16At data (1 + 11 * i + 3)
  addressIx := byteAt data (1 + 11 * i + 5)
  msgOffset := u16At data (1 + 11 * i + 6)
  msgSize := u16At data (1 + 11 * i + 8)
  msgIx := byteAt data (1 + 11 * i + 10)

def partAt (i : Nat) : SecpInstructionPart where
  address := (data.drop (entryAt data i).addressOffset.toNat).take 20
  msgOffset := (entryAt data i).msgOffset
  msgSize := (entryAt data i).msgSize

/-- The entry is there. -/
def EntryIn (i : Nat) : Prop := 1 + 11 * i + 11 ≤ data.length

/-- Its address is there. -/
def AddressIn (i : Nat) : Prop := (entryAt data i).addressOffset.toNat + 20 ≤ data.length

/-- The entry is about data of the instruction `ix`. -/
def Names (ix : UInt8) (i : Nat) : Prop :=
  (entryAt data i).addressIx = ix ∧ (entryAt data i).msgIx = ix ∧ (entryAt data i).sigIx = ix

/-- It has the message of the first entry. -/
def SameMessage (i : Nat) : Prop :=
  (entryAt data i).msgOffset = (entryAt data 0).msgOffset ∧ (entryAt data i).msgSize = (entryAt data 0).msgSize

/-- The entry passes the checks. -/
structure EntryPasses (ix : UInt8) (i : Nat) : Prop where
  entryIn : EntryIn data i
  names : Names data ix i
  addressIn : AddressIn data i
  message : SameMessage data i

/-- Reading the entry stays within the data. -/
def EntryBounds (ix : UInt8) (i : Nat) : Prop := EntryIn data i ∧ (Names data ix i → AddressIn data i)

instance (i : Nat) : Decidable (EntryIn data i) := inferInstanceAs (Decidable (_ ≤ _))

instance (i : Nat) : Decidable (AddressIn data i) := inferInstanceAs (Decidable (_ ≤ _))

instance (ix : UInt8) (i : Nat) : Decidable (Names data ix i) := inferInstanceAs (Decidable (_ ∧ _))

instance (i : Nat) : Decidable (SameMessage data i) := inferInstanceAs (Decidable (_ ∧ _))

variable {data} {ix : UInt8} {i n : Nat}

theorem readU8At_eq (k : Nat) :
    readU8At data k = if k < data.length then .ok (byteAt data k) else .error .panicked := by
  rw [readU8At, byteAt, List.getD_eq_getElem?_getD]
  split
  · rename_i h
    rw [List.getElem?_eq_getElem h]
    rfl
  · rename_i h
    rw [List.getElem?_eq_none (Nat.le_of_not_lt h)]
    rfl

theorem readU16At_eq (k : Nat) :
    readU16At data k = if k + 2 ≤ data.length then .ok (u16At data k) else .error .panicked := by
  rw [readU16At, slice?]
  split
  · rename_i h
    have hbytes : (data.drop k).take (k + 2 - k) = [byteAt data k, byteAt data (k + 1)] := by
      rw [Nat.add_sub_cancel_left, List.drop_eq_getElem_cons (show k < data.length by omega),
        List.drop_eq_getElem_cons (show k + 1 < data.length by omega), byteAt, byteAt,
        List.getD_eq_getElem _ _ (show k < data.length by omega),
        List.getD_eq_getElem _ _ (show k + 1 < data.length by omega)]
      rfl
    rw [if_pos h.2, hbytes]
    rfl
  · rename_i h
    rw [if_neg (fun hle => h ⟨by omega, hle⟩)]
    rfl

theorem secpEntry_eq (i : Nat) :
    secpEntry data (1 + 11 * i) = if EntryIn data i then .ok (entryAt data i) else .error .panicked := by
  simp only [secpEntry, readU16At_eq, readU8At_eq]
  by_cases hentry : EntryIn data i
  all_goals have h := hentry
  all_goals unfold EntryIn at h
  · rw [if_pos (show 1 + 11 * i + 2 ≤ data.length by omega), if_pos (show 1 + 11 * i + 2 < data.length by omega),
      if_pos (show 1 + 11 * i + 3 + 2 ≤ data.length by omega), if_pos (show 1 + 11 * i + 5 < data.length by omega),
      if_pos (show 1 + 11 * i + 6 + 2 ≤ data.length by omega),
      if_pos (show 1 + 11 * i + 8 + 2 ≤ data.length by omega),
      if_pos (show 1 + 11 * i + 10 < data.length by omega), if_pos hentry]
    rfl
  · rw [if_neg (show ¬1 + 11 * i + 10 < data.length by omega), if_neg hentry]
    -- whichever read is the first to fail
    split_ifs <;> rfl

/-- The parts of the first entries. -/
def partsAt (data : List UInt8) (n : Nat) : List SecpInstructionPart := (List.range n).map (partAt data)

theorem partsAt_head? (hn : 0 < n) : (partsAt data n).head? = some (partAt data 0) := by
  cases n with
  | zero => cases hn
  | succ n =>
    rw [partsAt, List.range_succ_eq_map]
    rfl

theorem addressSlice_eq (i : Nat) :
    unwrap (slice? data (entryAt data i).addressOffset.toNat ((entryAt data i).addressOffset.toNat + 20)) =
      if AddressIn data i then .ok (partAt data i).address else .error .panicked := by
  rw [slice?]
  split
  · rename_i h
    rw [if_pos (show AddressIn data i from h.2), Nat.add_sub_cancel_left]
    rfl
  · rename_i h
    rw [if_neg (show ¬AddressIn data i from fun hle => h ⟨by omega, hle⟩)]
    rfl

theorem sameMessage_iff :
    (∀ first, (partsAt data i).head? = some first →
      (entryAt data i).msgOffset = first.msgOffset ∧ (entryAt data i).msgSize = first.msgSize) ↔
    SameMessage data i := by
  cases i with
  | zero => exact ⟨fun _ => ⟨rfl, rfl⟩, fun _ _ h => by cases h⟩
  | succ i =>
    rw [partsAt_head? (Nat.succ_pos i)]
    exact ⟨fun h => h _ rfl, fun h _ hfirst => Option.some.inj hfirst ▸ h⟩

theorem partsAt_succ (data : List UInt8) (i : Nat) : partsAt data (i + 1) = partsAt data i ++ [partAt data i] := by
  rw [partsAt, List.range_succ, List.map_append]
  rfl

theorem secpPart_eq (i : Nat) :
    secpPart data ix (partsAt data i) i =
      if EntryIn data i then
        if Names data ix i then
          if AddressIn data i then
            if SameMessage data i then .ok (partsAt data (i + 1)) else .error Error.invalidSecpInstruction.into
          else .error .panicked
        else .error Error.invalidSecpInstruction.into
      else .error .panicked := by
  rw [secpPart, secpEntry_eq]
  by_cases hentry : EntryIn data i
  · rw [if_pos hentry, if_pos hentry, Failing.ok_bind, ensure_bind]
    show (if Names data ix i then _ else _) = _
    by_cases hnames : Names data ix i
    · rw [if_pos hnames, if_pos hnames, addressSlice_eq]
      by_cases haddress : AddressIn data i
      · rw [if_pos haddress, if_pos haddress, Failing.ok_bind, ensure_bind, partsAt_succ]
        by_cases hsame : SameMessage data i
        · rw [if_pos (sameMessage_iff.mpr hsame), if_pos hsame]
          rfl
        · rw [if_neg (mt sameMessage_iff.mp hsame), if_neg hsame]
      · rw [if_neg haddress, if_neg haddress]
        rfl
    · rw [if_neg hnames, if_neg hnames]
  · rw [if_neg hentry, if_neg hentry]
    rfl

/-- A round takes the part of an entry that passes. -/
theorem secpPart_eq_ok {parts : List SecpInstructionPart} :
    secpPart data ix (partsAt data i) i = .ok parts ↔ EntryPasses data ix i ∧ parts = partsAt data (i + 1) := by
  rw [secpPart_eq]
  split_ifs with hentry hnames haddress hsame
  · exact ⟨fun h => ⟨⟨hentry, hnames, haddress, hsame⟩, (Except.ok.inj h).symm⟩, fun h => h.2 ▸ rfl⟩
  · exact ⟨fun h => (by cases h), fun h => absurd h.1.message hsame⟩
  · exact ⟨fun h => (by cases h), fun h => absurd h.1.addressIn haddress⟩
  · exact ⟨fun h => (by cases h), fun h => absurd h.1.names hnames⟩
  · exact ⟨fun h => (by cases h), fun h => absurd h.1.entryIn hentry⟩

/-- And panics where it reads out of the data. -/
theorem secpPart_panics : secpPart data ix (partsAt data i) i = .error .panicked ↔ ¬EntryBounds data ix i := by
  rw [secpPart_eq, EntryBounds]
  split_ifs with hentry hnames haddress hsame
  · exact ⟨fun h => (by cases h), fun h => absurd ⟨hentry, fun _ => haddress⟩ h⟩
  · exact ⟨fun h => (by cases h), fun h => absurd ⟨hentry, fun _ => haddress⟩ h⟩
  · exact ⟨fun _ h => haddress (h.2 hnames), fun _ => rfl⟩
  · exact ⟨fun h => (by cases h), fun h => absurd ⟨hentry, fun hn => absurd hn hnames⟩ h⟩
  · exact ⟨fun _ h => hentry h.1, fun _ => rfl⟩

/-! ## The loop over the entries -/

theorem secpRounds_eq_ok {parts : List SecpInstructionPart} :
    (List.range n).foldlM (secpPart data ix) [] = .ok parts ↔
      (∀ i < n, EntryPasses data ix i) ∧ parts = partsAt data n := by
  induction n generalizing parts with
  | zero => exact ⟨fun h => ⟨fun i hi => (by cases hi), (Except.ok.inj h).symm⟩, fun h => h.2 ▸ rfl⟩
  | succ n ih =>
    rw [List.range_succ, List.foldlM_append, Failing.bind_eq_ok]
    constructor
    · rintro ⟨before, hbefore, hlast⟩
      obtain ⟨hpass, rfl⟩ := ih.mp hbefore
      rw [List.foldlM_cons] at hlast
      obtain ⟨after, hround, hnil⟩ := Failing.bind_eq_ok.mp hlast
      obtain rfl : after = parts := Except.ok.inj hnil
      obtain ⟨hn, rfl⟩ := secpPart_eq_ok.mp hround
      refine ⟨fun i hi => ?_, rfl⟩
      rcases Nat.lt_succ_iff_lt_or_eq.mp hi with hlt | rfl
      · exact hpass i hlt
      · exact hn
    · rintro ⟨hpass, rfl⟩
      refine ⟨partsAt data n, ih.mpr ⟨fun i hi => hpass i (Nat.lt_succ_of_lt hi), rfl⟩, ?_⟩
      rw [List.foldlM_cons, secpPart_eq_ok.mpr ⟨hpass n (Nat.lt_succ_self n), rfl⟩]
      rfl

/-- The loop panics where some entry, behind entries that pass, is out of bounds. -/
theorem secpRounds_panics :
    (List.range n).foldlM (secpPart data ix) [] = .error .panicked ↔
      ∃ i < n, (∀ j < i, EntryPasses data ix j) ∧ ¬EntryBounds data ix i := by
  induction n with
  | zero => exact ⟨fun h => (by cases h), fun ⟨i, hi, _⟩ => (by cases hi)⟩
  | succ n ih =>
    rw [List.range_succ, List.foldlM_append]
    constructor
    · intro h
      rcases Failing.bind_eq_error.mp h with hbefore | ⟨before, hbefore, hlast⟩
      · obtain ⟨i, hi, hpass, hout⟩ := ih.mp hbefore
        exact ⟨i, Nat.lt_succ_of_lt hi, hpass, hout⟩
      · obtain ⟨hpass, rfl⟩ := secpRounds_eq_ok.mp hbefore
        rw [List.foldlM_cons] at hlast
        rcases Failing.bind_eq_error.mp hlast with hround | ⟨_, _, hnil⟩
        · exact ⟨n, Nat.lt_succ_self n, hpass, secpPart_panics.mp hround⟩
        · cases hnil
    · rintro ⟨i, hi, hpass, hout⟩
      rw [Failing.bind_eq_error]
      rcases Nat.lt_succ_iff_lt_or_eq.mp hi with hlt | rfl
      · exact .inl (ih.mpr ⟨i, hlt, hpass, hout⟩)
      · refine .inr ⟨partsAt data i, secpRounds_eq_ok.mpr ⟨hpass, rfl⟩, ?_⟩
        rw [List.foldlM_cons, secpPart_panics.mpr hout]
        rfl

/-! ## The message -/

/-- The message of the first entry is there, and its end is a number of two bytes. -/
def MessageIn (data : List UInt8) : Prop :=
  (entryAt data 0).msgOffset.toNat + 32 < 2 ^ 16 ∧ (entryAt data 0).msgOffset.toNat + 32 ≤ data.length

def messageAt (data : List UInt8) : List UInt8 := (data.drop (entryAt data 0).msgOffset.toNat).take 32

theorem messageAt_length (h : MessageIn data) : (messageAt data).length = 32 := by
  have hle := h.2
  rw [messageAt, List.length_take, List.length_drop]
  omega

/-- The range of the message: where its end wraps around it is before the start. -/
theorem messageSlice_eq {offset : UInt16} :
    unwrap (slice? data offset.toNat (offset + 32).toNat) =
      if offset.toNat + 32 < 2 ^ 16 ∧ offset.toNat + 32 ≤ data.length then .ok ((data.drop offset.toNat).take 32)
      else .error .panicked := by
  have hend : (offset + 32).toNat = (offset.toNat + 32) % 2 ^ 16 := UInt16.toNat_add offset 32
  have hlt : offset.toNat < 2 ^ 16 := offset.toNat_lt
  rw [slice?, hend]
  by_cases hwrap : offset.toNat + 32 < 2 ^ 16
  · rw [Nat.mod_eq_of_lt hwrap, Nat.add_sub_cancel_left]
    by_cases hle : offset.toNat + 32 ≤ data.length
    · rw [if_pos ⟨by omega, hle⟩, if_pos ⟨hwrap, hle⟩]
      rfl
    · rw [if_neg (fun h => hle h.2), if_neg (fun h => hle h.2)]
      rfl
  · have hbefore : ¬(offset.toNat ≤ (offset.toNat + 32) % 2 ^ 16 ∧
        (offset.toNat + 32) % 2 ^ 16 ≤ data.length) := by omega
    rw [if_neg hbefore, if_neg (fun h => hwrap h.1)]
    rfl

instance (data : List UInt8) : Decidable (MessageIn data) := inferInstanceAs (Decidable (_ ∧ _))

theorem secpMessage_eq (hn : 0 < n) :
    secpMessage data (partsAt data n) =
      if (entryAt data 0).msgSize = 32 then
        if h : MessageIn data then .ok ⟨messageAt data, messageAt_length h⟩ else .error .panicked
      else .error (.programError .invalidArgument) := by
  have hfirst : unwrap (partsAt data n).head? = .ok (partAt data 0) := by
    rw [partsAt_head? hn]
    rfl
  rw [secpMessage, hfirst, Failing.ok_bind, ensure_bind]
  show (if (entryAt data 0).msgSize = 32 then _ else _) = _
  by_cases hsize : (entryAt data 0).msgSize = 32
  · have hslice : unwrap (slice? data (partAt data 0).msgOffset.toNat
        ((partAt data 0).msgOffset + (partAt data 0).msgSize).toNat) =
          if MessageIn data then .ok (messageAt data) else .error .panicked := by
      show unwrap (slice? data _ ((entryAt data 0).msgOffset + (entryAt data 0).msgSize).toNat) = _
      rw [hsize]
      exact messageSlice_eq
    rw [if_pos hsize, if_pos hsize, hslice]
    by_cases hin : MessageIn data
    · rw [if_pos hin, dif_pos hin, Failing.ok_bind, dif_pos (messageAt_length hin)]
    · rw [if_neg hin, dif_neg hin]
      rfl
  · rw [if_neg hsize, if_neg hsize]

/-- The hash is the message of the first entry. -/
theorem secpMessage_eq_ok {hash : FixedBytes 32} :
    secpMessage data (partsAt data n) = .ok hash ↔
      0 < n ∧ (entryAt data 0).msgSize = 32 ∧ MessageIn data ∧ hash.val = messageAt data := by
  rcases Nat.eq_zero_or_pos n with rfl | hn
  · exact ⟨fun h => (by cases h), fun h => absurd h.1 (Nat.lt_irrefl 0)⟩
  rw [secpMessage_eq hn]
  split_ifs with hsize hin
  · exact ⟨fun h => ⟨hn, hsize, hin, congrArg Subtype.val (Except.ok.inj h).symm⟩,
      fun h => congrArg _ (Subtype.ext h.2.2.2.symm)⟩
  · exact ⟨fun h => (by cases h), fun h => absurd h.2.2.1 hin⟩
  · exact ⟨fun h => (by cases h), fun h => absurd h.2.1 hsize⟩

theorem secpMessage_panics :
    secpMessage data (partsAt data n) = .error .panicked ↔
      n = 0 ∨ (entryAt data 0).msgSize = 32 ∧ ¬MessageIn data := by
  rcases Nat.eq_zero_or_pos n with rfl | hn
  · exact ⟨fun _ => .inl rfl, fun _ => rfl⟩
  rw [secpMessage_eq hn]
  split_ifs with hsize hin
  · exact ⟨fun h => (by cases h), fun h => absurd hin (h.resolve_left hn.ne').2⟩
  · exact ⟨fun _ => .inr ⟨hsize, hin⟩, fun _ => rfl⟩
  · exact ⟨fun h => (by cases h), fun h => absurd (h.resolve_left hn.ne').1 hsize⟩

end Entries

/-! ## The signers -/

section Signers

/-- Minus one is no signer. -/
theorem sigIndex_lt {data : VerifySignaturesData} {s : SigInfo} (h : s ∈ sigInfos data) : s.sigIndex.toNat < 255 := by
  obtain ⟨⟨p, i⟩, -, hp⟩ := List.mem_filterMap.mp h
  dsimp only at hp
  split at hp
  · cases hp
  · rename_i hne
    obtain rfl := (Option.some.inj hp).symm
    have hbyte : p.toUInt8 ≠ 255 := by
      intro hmax
      apply hne
      show Int8.ofUInt8 p.toUInt8 = -1
      rw [hmax]
      rfl
    have hlt : p.toUInt8.toNat < 256 := p.toUInt8.toNat_lt
    have hnat : p.toUInt8.toNat ≠ 255 := fun heq => hbyte (UInt8.toNat_inj.mp heq)
    show p.toUInt8.toNat < 255
    omega

variable {g : GuardianSetData} {data : List UInt8} {sigLen : UInt8} {slots : Nat} {s : SigInfo}

/-- The key at the signer's index is the address of its entry. -/
def KeyMatches (g : GuardianSetData) (data : List UInt8) (s : SigInfo) : Prop :=
  ∃ key, g.keys.val[s.signerIndex.toNat]? = some key ∧ key.val = (partAt data s.sigIndex.toNat).address

/-- The signer passes the checks, and has a slot. -/
structure SignerPasses (g : GuardianSetData) (data : List UInt8) (sigLen : UInt8) (slots : Nat) (s : SigInfo) :
    Prop where
  guardian : s.signerIndex ≤ g.numGuardians
  entry : s.sigIndex.toNat < sigLen.toNat
  key : KeyMatches g data s
  slot : s.signerIndex.toNat < slots

/-- The key of a signer that is not refused is there, and its slot when the key matches. -/
def SignerBounds (g : GuardianSetData) (data : List UInt8) (sigLen : UInt8) (slots : Nat) (s : SigInfo) : Prop :=
  s.signerIndex ≤ g.numGuardians → s.sigIndex.toNat < sigLen.toNat →
    s.signerIndex.toNat < g.keys.val.length ∧ (KeyMatches g data s → s.signerIndex.toNat < slots)

theorem partsAt_getElem? {n i : Nat} (h : i < n) : (partsAt data n)[i]? = some (partAt data i) := by
  rw [partsAt, List.getElem?_map, List.getElem?_range h]
  rfl

/-- One round of the marking: what it returns, and when it panics. -/
theorem markSigner_cases (hs : s.sigIndex.toNat < 255) (t : SignatureSetData) :
    (SignerPasses g data sigLen t.signatures.val.length s ∧
      ∃ t', markSigner g (partsAt data sigLen.toNat) sigLen t s = .ok t') ∨
    (¬SignerBounds g data sigLen t.signatures.val.length s ∧
      markSigner g (partsAt data sigLen.toNat) sigLen t s = .error .panicked) ∨
    (¬SignerPasses g data sigLen t.signatures.val.length s ∧ SignerBounds g data sigLen t.signatures.val.length s ∧
      markSigner g (partsAt data sigLen.toNat) sigLen t s = .error (.programError .invalidArgument)) := by
  have hentry : s.sigIndex + 1 ≤ sigLen ↔ s.sigIndex.toNat < sigLen.toNat := by
    rw [UInt8.le_iff_toNat_le, UInt8.toNat_add, Nat.mod_eq_of_lt (show s.sigIndex.toNat + (1 : UInt8).toNat < 2 ^ 8 by
      show s.sigIndex.toNat + 1 < 256
      omega)]
    rfl
  rw [markSigner, ensure_bind]
  by_cases hguardian : s.signerIndex ≤ g.numGuardians
  case neg =>
    rw [if_neg hguardian]
    exact .inr (.inr ⟨fun h => hguardian h.guardian, fun h => absurd h hguardian, rfl⟩)
  rw [if_pos hguardian, ensure_bind]
  by_cases hin : s.sigIndex.toNat < sigLen.toNat
  case neg =>
    rw [if_neg (mt hentry.mp hin)]
    exact .inr (.inr ⟨fun h => hin h.entry, fun _ h => absurd h hin, rfl⟩)
  rw [if_pos (hentry.mpr hin)]
  cases hkey : g.keys.val[s.signerIndex.toNat]? with
  | none =>
    refine .inr (.inl ⟨fun h => ?_, rfl⟩)
    rw [List.getElem?_eq_getElem (h hguardian hin).1] at hkey
    cases hkey
  | some key =>
    have hlt : s.signerIndex.toNat < g.keys.val.length := (List.getElem?_eq_some_iff.mp hkey).1
    have hmatches : KeyMatches g data s ↔ key.val = (partAt data s.sigIndex.toNat).address := by
      constructor
      · rintro ⟨key', hkey', heq⟩
        rw [hkey] at hkey'
        rwa [Option.some.inj hkey']
      · exact fun heq => ⟨key, hkey, heq⟩
    rw [partsAt_getElem? hin]
    show (_ ∧ ∃ t', (ensure (key.val = (partAt data s.sigIndex.toNat).address) _ >>= _) = .ok t') ∨
      (_ ∧ (ensure _ _ >>= _) = _) ∨ (_ ∧ _ ∧ (ensure _ _ >>= _) = _)
    simp only [ensure_bind]
    by_cases haddress : key.val = (partAt data s.sigIndex.toNat).address
    case neg =>
      rw [if_neg haddress]
      exact .inr (.inr ⟨fun h => haddress (hmatches.mp h.key),
        fun _ _ => ⟨hlt, fun h => absurd (hmatches.mp h) haddress⟩, rfl⟩)
    rw [if_pos haddress]
    by_cases hslot : s.signerIndex.toNat < t.signatures.val.length
    · rw [if_pos hslot]
      exact .inl ⟨⟨hguardian, hin, hmatches.mpr haddress, hslot⟩, _, rfl⟩
    · rw [if_neg hslot]
      exact .inr (.inl ⟨fun h => hslot ((h hguardian hin).2 (hmatches.mpr haddress)), rfl⟩)

theorem markSigner_length {parts : List SecpInstructionPart} {t t' : SignatureSetData}
    (h : markSigner g parts sigLen t s = .ok t') : t'.signatures.val.length = t.signatures.val.length := by
  have hfold : [s].foldlM (markSigner g parts sigLen) t = .ok t' := by
    rw [List.foldlM_cons, h]
    rfl
  exact (markSigners_eq_ok hfold).length

variable {infos : List SigInfo}

theorem markSigner_returns (hs : s.sigIndex.toNat < 255) {t : SignatureSetData} :
    (∃ t', markSigner g (partsAt data sigLen.toNat) sigLen t s = .ok t') ↔
      SignerPasses g data sigLen t.signatures.val.length s := by
  rcases markSigner_cases hs t with ⟨hpass, hok⟩ | ⟨hout, herr⟩ | ⟨hpass, -, herr⟩
  · exact ⟨fun _ => hpass, fun _ => hok⟩
  · refine ⟨fun ⟨t', ht'⟩ => ?_, fun h => absurd (fun _ _ => ⟨?_, fun _ => h.slot⟩) hout⟩
    · rw [herr] at ht'
      cases ht'
    · obtain ⟨key, hkey, -⟩ := h.key
      exact (List.getElem?_eq_some_iff.mp hkey).1
  · refine ⟨fun ⟨t', ht'⟩ => ?_, fun h => absurd h hpass⟩
    rw [herr] at ht'
    cases ht'

theorem markSigner_panics (hs : s.sigIndex.toNat < 255) {t : SignatureSetData} :
    markSigner g (partsAt data sigLen.toNat) sigLen t s = .error .panicked ↔
      ¬SignerBounds g data sigLen t.signatures.val.length s := by
  rcases markSigner_cases hs t with ⟨hpass, t', hok⟩ | ⟨hout, herr⟩ | ⟨-, hin, herr⟩
  · rw [hok]
    refine ⟨fun h => (by cases h), fun h => absurd (fun _ _ => ⟨?_, fun _ => hpass.slot⟩) h⟩
    obtain ⟨key, hkey, -⟩ := hpass.key
    exact (List.getElem?_eq_some_iff.mp hkey).1
  · exact ⟨fun _ => hout, fun _ => herr⟩
  · rw [herr]
    exact ⟨fun h => (by cases h), fun h => absurd hin h⟩

/-- The loop returns when every signer passes. -/
theorem markSigners_returns (hinfos : ∀ s ∈ infos, s.sigIndex.toNat < 255) {t : SignatureSetData} :
    (∃ t', infos.foldlM (markSigner g (partsAt data sigLen.toNat) sigLen) t = .ok t') ↔
      ∀ s ∈ infos, SignerPasses g data sigLen t.signatures.val.length s := by
  induction infos generalizing t with
  | nil => exact ⟨fun _ s hs => (by cases hs), fun _ => ⟨t, rfl⟩⟩
  | cons s infos ih =>
    have hs := hinfos s List.mem_cons_self
    have hrest : ∀ r ∈ infos, r.sigIndex.toNat < 255 := fun r hr => hinfos r (List.mem_cons_of_mem s hr)
    simp only [List.foldlM_cons, Failing.bind_eq_ok]
    constructor
    · rintro ⟨t', u, hu, ht'⟩ r hr
      have hlen := markSigner_length hu
      rcases List.mem_cons.mp hr with rfl | hr
      · exact (markSigner_returns hs).mp ⟨u, hu⟩
      · exact hlen ▸ (ih hrest).mp ⟨t', ht'⟩ r hr
    · intro h
      obtain ⟨u, hu⟩ := (markSigner_returns hs).mpr (h s List.mem_cons_self)
      have hlen := markSigner_length hu
      obtain ⟨t', ht'⟩ := (ih hrest).mpr fun r hr => hlen.symm ▸ h r (List.mem_cons_of_mem s hr)
      exact ⟨t', u, hu, ht'⟩

/-- And panics at the first signer, behind signers that pass, that is out of bounds. -/
theorem markSigners_panics (hinfos : ∀ s ∈ infos, s.sigIndex.toNat < 255) {t : SignatureSetData} :
    infos.foldlM (markSigner g (partsAt data sigLen.toNat) sigLen) t = .error .panicked ↔
      ∃ pre s post, infos = pre ++ s :: post ∧
        (∀ r ∈ pre, SignerPasses g data sigLen t.signatures.val.length r) ∧
        ¬SignerBounds g data sigLen t.signatures.val.length s := by
  rw [Failing.foldlM_eq_error]
  constructor
  · rintro ⟨pre, s, post, u, rfl, hpre, hs⟩
    have hlen := (markSigners_eq_ok hpre).length
    have hpass := (markSigners_returns fun r hr => hinfos r (List.mem_append_left _ hr)).mp ⟨u, hpre⟩
    rw [markSigner_panics (hinfos s (by simp)), hlen] at hs
    exact ⟨pre, s, post, rfl, hpass, hs⟩
  · rintro ⟨pre, s, post, rfl, hpass, hs⟩
    obtain ⟨u, hu⟩ := (markSigners_returns fun r hr => hinfos r (List.mem_append_left _ hr)).mpr hpass
    refine ⟨pre, s, post, u, rfl, hu, ?_⟩
    rw [markSigner_panics (hinfos s (by simp)), (markSigners_eq_ok hu).length]
    exact hs

end Signers

variable {Pubkey : Type} [DecidableEq Pubkey] (P : CoreProgram Pubkey) (L : Ledger Pubkey)

/-! ## What comes before -/

/-- The index of the instruction before the current one. -/
def secpIndex (current : UInt16) : UInt8 := (current - 1).toUInt8

/-- The checks before the entries pass, for the guardian set and the signature set that they read and the data of the
instruction before. -/
structure Reaches (accs : VerifySignatures Pubkey) (tx : List (Instruction Pubkey)) (current : UInt16)
    (g : GuardianSetData) (σ : SignatureSetData) (data : List UInt8) : Prop where
  payer : accs.payer.isWritable = true ∧ accs.payer.isSigner = true
  guardianSet : peelData GuardianSetData .initialized P.programId L true accs.guardianSet = .ok g
  signer : accs.signatureSet.isWritable = true ∧ accs.signatureSet.isSigner = true
  signatureSet : peelData SignatureSetData .maybeInitialized P.programId L false accs.signatureSet = .ok σ
  readonly : accs.instructionAcc.isWritable = false
  derived : P.derive (guardianSetSeeds g.index) = accs.guardianSet.key
  instructions : accs.instructionAcc.key = P.instructions
  notFirst : current ≠ 0
  secp : ∃ ix, tx[(secpIndex current).toNat]? = some ix ∧ ix.programId = P.secp256k1Program ∧ ix.data = data
  length : 2 ≤ data.length

/-- `verify_signatures`, from the entries on. -/
def verifyEntries (accs : VerifySignatures Pubkey) (secpIxIndex : UInt8) (data : VerifySignaturesData)
    (guardianSet : GuardianSetData) (signatureSet : SignatureSetData) (secpData : List UInt8) :
    Result (Ledger Pubkey) := do
  let sigLen ← readU8At secpData 0
  let secpIxs ← secpParts secpData secpIxIndex sigLen
  ensure ((sigInfos data).length = secpIxs.length) (.programError .invalidArgument)
  let msgHash ← secpMessage secpData secpIxs
  let opened ← openSignatureSet P L accs guardianSet signatureSet msgHash
  let marked ← (sigInfos data).foldlM (markSigner guardianSet secpIxs sigLen) opened.2
  persist P.toProgram opened.1 accs.signatureSet marked

variable {P L} {accs : VerifySignatures Pubkey} {tx : List (Instruction Pubkey)} {current : UInt16}
  {data : VerifySignaturesData} {g : GuardianSetData} {σ : SignatureSetData} {secpData : List UInt8}

theorem secpInstruction_iff {index : UInt8} {ix : Instruction Pubkey} :
    secpInstruction P tx index = .ok ix ↔
      tx[index.toNat]? = some ix ∧ ix.programId = P.secp256k1Program ∧ 2 ≤ ix.data.length := by
  unfold secpInstruction
  cases tx[index.toNat]? with
  | none => exact ⟨fun h => (by cases h), fun h => (by cases h.1)⟩
  | some ix' =>
    simp only [ensure_bind]
    split_ifs with hprogram hlen
    · constructor
      · intro h
        obtain rfl : ix' = ix := Except.ok.inj h
        exact ⟨rfl, hprogram, hlen⟩
      · rintro ⟨h, -, -⟩
        obtain rfl : ix' = ix := Option.some.inj h
        rfl
    · exact ⟨fun h => (by cases h), fun h => absurd (Option.some.inj h.1 ▸ h.2.2) hlen⟩
    · exact ⟨fun h => (by cases h), fun h => absurd (Option.some.inj h.1 ▸ h.2.1) hprogram⟩

theorem verifySignatures_of_reaches (h : Reaches P L accs tx current g σ secpData) :
    verifySignatures P L accs tx current data = verifyEntries P L accs (secpIndex current) data g σ secpData := by
  obtain ⟨ix, hix, hprogram, rfl⟩ := h.secp
  have hsecp : secpInstruction P tx (current - 1).toUInt8 = .ok ix :=
    secpInstruction_iff.mpr ⟨hix, hprogram, h.length⟩
  have hinstructions :
      ensure (accs.instructionAcc.key = P.instructions) (.programError .unsupportedSysvar) = .ok () :=
    ensure_eq_ok.mpr h.instructions
  have hfirst : ensure (current ≠ 0) Error.instructionAtWrongIndex.into = .ok () := ensure_eq_ok.mpr h.notFirst
  have hinfo : peelInfo true accs.instructionAcc = .ok () := by
    rw [peelInfo, ensure_eq_ok, h.readonly]
    simp
  have hderived : verifyDerivation P.toProgram (guardianSetSeeds g.index) accs.guardianSet = .ok () :=
    ensure_eq_ok.mpr h.derived
  have hwritable : peelMut accs.payer = .ok () := ensure_eq_ok.mpr h.payer.1
  have hsigner : peelSigner accs.payer = .ok () := ensure_eq_ok.mpr h.payer.2
  have hwritable' : peelMut accs.signatureSet = .ok () := ensure_eq_ok.mpr h.signer.1
  have hsigner' : peelSigner accs.signatureSet = .ok () := ensure_eq_ok.mpr h.signer.2
  simp only [verifySignatures, hwritable, hsigner, h.guardianSet, hwritable', hsigner', h.signatureSet, hinfo,
    hderived, hinstructions, hfirst, hsecp, Failing.ok_bind]
  rfl

/-- Not refused: it returns, or panics. -/
def Hard {α : Type} (x : Result α) : Prop := x = .error .panicked ∨ ∃ a, x = .ok a

theorem Hard.parts {α β : Type} {x : Result α} {f : α → Result β} (h : Hard (x >>= f)) :
    x = .error .panicked ∨ ∃ a, x = .ok a ∧ Hard (f a) := by
  rcases h with h | ⟨b, h⟩
  · rcases Failing.bind_eq_error.mp h with herr | ⟨a, ha, hf⟩
    · exact .inl herr
    · exact .inr ⟨a, ha, .inl hf⟩
  · obtain ⟨a, ha, hf⟩ := Failing.bind_eq_ok.mp h
    exact .inr ⟨a, ha, .inr ⟨b, hf⟩⟩

/-- What does not panic has returned, in a sequence that is not refused. -/
theorem Hard.bind {α β : Type} {x : Result α} {f : α → Result β} (hx : Failing.Never .panicked x)
    (h : Hard (x >>= f)) : ∃ a, x = .ok a ∧ Hard (f a) := h.parts.resolve_left hx

theorem guardianSet_never (bs : List UInt8) :
    Failing.Never .panicked (AccountData.deserialize bs : Result GuardianSetData) := by
  have hcodec : GuardianSetData.codec.FailsWith .ioError := by
    apply Codec.FailsWith.iso
    exact .pair .uint32 (.pair (.list .uint32 .array) (.pair .uint32 .uint32))
  exact hcodec.decode (by decide)

theorem signatureSet_never (bs : List UInt8) :
    Failing.Never .panicked (AccountData.deserialize bs : Result SignatureSetData) := by
  have hcodec : SignatureSetData.codec.FailsWith .ioError := by
    apply Codec.FailsWith.iso
    exact .pair (.list .uint32 .bool) (.pair .array .uint32)
  exact hcodec.decode (by decide)

theorem reaches_of_hard (h : Hard (verifySignatures P L accs tx current data)) :
    ∃ g σ secpData, Reaches P L accs tx current g σ secpData := by
  obtain ⟨_, hwritable, h⟩ := h.bind (ensure_never (by decide))
  obtain ⟨_, hsigner, h⟩ := h.bind (ensure_never (by decide))
  obtain ⟨g, hg, h⟩ := h.bind (peelData_never (by decide) (by decide) (by decide) guardianSet_never)
  obtain ⟨_, hwritable', h⟩ := h.bind (ensure_never (by decide))
  obtain ⟨_, hsigner', h⟩ := h.bind (ensure_never (by decide))
  obtain ⟨σ, hσ, h⟩ := h.bind (peelData_never (by decide) (by decide) (by decide) signatureSet_never)
  obtain ⟨_, hinfo, h⟩ := h.bind (ensure_never (by decide))
  obtain ⟨_, hderived, h⟩ := h.bind (ensure_never (by decide))
  obtain ⟨_, hinstructions, h⟩ := h.bind (ensure_never (by decide))
  obtain ⟨_, hfirst, h⟩ := h.bind (ensure_never (by decide))
  have hsecpNever : Failing.Never .panicked (secpInstruction P tx (current - 1).toUInt8) := by
    unfold secpInstruction
    split
    · exact .error (by decide)
    · exact .bind (ensure_never (by decide)) fun _ _ => .bind (ensure_never (by decide)) fun _ _ => .ok
  obtain ⟨ix, hix, h⟩ := h.bind hsecpNever
  rw [ensure_eq_ok] at hwritable hsigner hwritable' hsigner' hinfo hderived hinstructions hfirst
  obtain ⟨hsome, hprogram, hlen⟩ := secpInstruction_iff.mp hix
  refine ⟨g, σ, ix.data, ⟨hwritable, hsigner⟩, hg, ⟨hwritable', hsigner'⟩, hσ, ?_, hderived, hinstructions, hfirst,
    ⟨ix, hsome, hprogram, rfl⟩, hlen⟩
  exact eq_false_of_ne_true fun h => hinfo ⟨rfl, h⟩

/-! ## The signature set -/

variable (P L) in
/-- The signature set is of this guardian set and this hash, or can be created. -/
def Opens (accs : VerifySignatures Pubkey) (g : GuardianSetData) (σ : SignatureSetData) (hash : List UInt8) : Prop :=
  if isInitialized L accs.signatureSet then σ.guardianSetIndex = g.index ∧ σ.hash.val = hash
  else ∃ L', createAccount P.toProgram L accs.payer accs.signatureSet none
    (minimumBalance (40 + g.keys.val.length)) (40 + g.keys.val.length) P.programId = .ok L'

variable (L) in
/-- The slots for signatures, in the set that is there or in a new one. -/
def slotCount (accs : VerifySignatures Pubkey) (g : GuardianSetData) (σ : SignatureSetData) : Nat :=
  if isInitialized L accs.signatureSet then σ.signatures.val.length else g.keys.val.length

theorem openSignatureSet_never {hash : FixedBytes 32} :
    Failing.Never .panicked (openSignatureSet P L accs g σ hash) := by
  unfold openSignatureSet
  split
  · exact .bind (ensure_never (by decide)) fun _ _ => .bind (ensure_never (by decide)) fun _ _ => .ok
  · exact .bind (createAccount_never (by decide)) fun _ _ => .ok

/-- What is opened has the slots, and room for as many. -/
theorem openSignatureSet_cases (hash : FixedBytes 32)
    (hσ : peelData SignatureSetData .maybeInitialized P.programId L false accs.signatureSet = .ok σ) :
    (Opens P L accs g σ hash.val ∧ ∃ r, openSignatureSet P L accs g σ hash = .ok r ∧
      r.2.signatures.val.length = slotCount L accs g σ ∧
      40 + slotCount L accs g σ ≤ (r.1 accs.signatureSet.key).data.length) ∨
    (¬Opens P L accs g σ hash.val ∧ ∃ e, e ≠ .panicked ∧ openSignatureSet P L accs g σ hash = .error e) := by
  unfold openSignatureSet Opens slotCount
  rcases peelData_maybeInitialized hσ with ⟨hnew, -⟩ | ⟨hold, hread, -⟩
  · rw [if_neg hnew, if_neg hnew, if_neg hnew]
    dsimp only
    have hsize (s : SignatureSetData) : (AccountData.serialize s).length = 40 + s.signatures.val.length :=
      s.write_length
    rw [hsize, List.length_replicate]
    cases hcreate : createAccount P.toProgram L accs.payer accs.signatureSet none
        (minimumBalance (40 + g.keys.val.length)) (40 + g.keys.val.length) P.programId with
    | error e =>
      refine .inr ⟨fun ⟨_, h⟩ => (by cases h), e, ?_, rfl⟩
      rintro rfl
      exact createAccount_never (by decide) hcreate
    | ok L' =>
      refine .inl ⟨⟨L', rfl⟩, _, rfl, List.length_replicate, ?_⟩
      show _ ≤ (L' accs.signatureSet.key).data.length
      rw [(createAccount_eq_ok hcreate).data, List.length_replicate]
  · rw [if_pos hold, if_pos hold, if_pos hold]
    simp only [ensure_bind]
    split_ifs with hindex hhash
    · refine .inl ⟨⟨hindex, congrArg Subtype.val hhash⟩, _, rfl, rfl, ?_⟩
      rw [Codec.decode_eq_ok.mp hread, SignatureSetData.write_length]
    · exact .inr ⟨fun h => hhash (Subtype.ext h.2), _, by decide, rfl⟩
    · exact .inr ⟨fun h => hindex h.1, _, by decide, rfl⟩

/-! ## The whole -/

/-- The number of entries. -/
abbrev entryCount (secpData : List UInt8) : Nat := (byteAt secpData 0).toNat

/-- Everything before the signers passes. -/
structure Prepared (P : CoreProgram Pubkey) (L : Ledger Pubkey) (accs : VerifySignatures Pubkey) (ix : UInt8)
    (infos : List SigInfo) (g : GuardianSetData) (σ : SignatureSetData) (secpData : List UInt8) : Prop where
  entries : ∀ i < entryCount secpData, EntryPasses secpData ix i
  count : infos.length = entryCount secpData
  nonempty : 0 < entryCount secpData
  size : (entryAt secpData 0).msgSize = 32
  message : MessageIn secpData
  opens : Opens P L accs g σ (messageAt secpData)

/-- All reads, in the order in which they are reached, are within their bounds, and no signer that is marked has the
number of guardians as its index. -/
structure InBounds (P : CoreProgram Pubkey) (L : Ledger Pubkey) (accs : VerifySignatures Pubkey) (ix : UInt8)
    (infos : List SigInfo) (g : GuardianSetData) (σ : SignatureSetData) (secpData : List UInt8) : Prop where
  entries : ∀ i < entryCount secpData, (∀ j < i, EntryPasses secpData ix j) → EntryBounds secpData ix i
  message : (∀ i < entryCount secpData, EntryPasses secpData ix i) → infos.length = entryCount secpData →
    0 < entryCount secpData ∧ ((entryAt secpData 0).msgSize = 32 → MessageIn secpData)
  marking : Prepared P L accs ix infos g σ secpData → ∀ pre s post, infos = pre ++ s :: post →
    (∀ r ∈ pre, SignerPasses g secpData (byteAt secpData 0) (slotCount L accs g σ) r) →
    SignerBounds g secpData (byteAt secpData 0) (slotCount L accs g σ) s
  counted : Prepared P L accs ix infos g σ secpData →
    (∀ s ∈ infos, SignerPasses g secpData (byteAt secpData 0) (slotCount L accs g σ) s) →
    ∀ s ∈ infos, s.signerIndex ≠ g.numGuardians

/-- All reads, in the order in which they are reached, are within their bounds. -/
structure ReadsIn (P : CoreProgram Pubkey) (L : Ledger Pubkey) (accs : VerifySignatures Pubkey) (ix : UInt8)
    (infos : List SigInfo) (g : GuardianSetData) (σ : SignatureSetData) (secpData : List UInt8) : Prop where
  entries : ∀ i < entryCount secpData, (∀ j < i, EntryPasses secpData ix j) → EntryBounds secpData ix i
  message : (∀ i < entryCount secpData, EntryPasses secpData ix i) → infos.length = entryCount secpData →
    0 < entryCount secpData ∧ ((entryAt secpData 0).msgSize = 32 → MessageIn secpData)
  marking : Prepared P L accs ix infos g σ secpData → ∀ pre s post, infos = pre ++ s :: post →
    (∀ r ∈ pre, SignerPasses g secpData (byteAt secpData 0) (slotCount L accs g σ) r) →
    SignerBounds g secpData (byteAt secpData 0) (slotCount L accs g σ) s

/-- Everything passes, each signer included. -/
structure Passes (P : CoreProgram Pubkey) (L : Ledger Pubkey) (accs : VerifySignatures Pubkey) (ix : UInt8)
    (infos : List SigInfo) (g : GuardianSetData) (σ : SignatureSetData) (secpData : List UInt8) : Prop
    extends Prepared P L accs ix infos g σ secpData where
  signers : ∀ s ∈ infos, SignerPasses g secpData (byteAt secpData 0) (slotCount L accs g σ) s

/-- The bounds are those of the reads, and that of the marked signers. -/
theorem inBounds_iff {ix : UInt8} {infos : List SigInfo} :
    InBounds P L accs ix infos g σ secpData ↔ ReadsIn P L accs ix infos g σ secpData ∧
      (Passes P L accs ix infos g σ secpData → ∀ s ∈ infos, s.signerIndex ≠ g.numGuardians) := by
  constructor
  · intro h
    exact ⟨⟨h.entries, h.message, h.marking⟩, fun hpass => h.counted hpass.toPrepared hpass.signers⟩
  · intro h
    exact ⟨h.1.entries, h.1.message, h.1.marking, fun hprepared hpass => h.2 ⟨hprepared, hpass⟩⟩

/-- Once the signature set is open, only the marking is left to fail. -/
theorem verifyEntries_of_prepared {ix : UInt8}
    (hσ : peelData SignatureSetData .maybeInitialized P.programId L false accs.signatureSet = .ok σ)
    (hlen : 2 ≤ secpData.length) (h : Prepared P L accs ix (sigInfos data) g σ secpData) :
    ∃ r : Ledger Pubkey × SignatureSetData, r.2.signatures.val.length = slotCount L accs g σ ∧
      40 + slotCount L accs g σ ≤ (r.1 accs.signatureSet.key).data.length ∧
      verifyEntries P L accs ix data g σ secpData =
        (sigInfos data).foldlM (markSigner g (partsAt secpData (entryCount secpData)) (byteAt secpData 0)) r.2 >>=
          fun marked => persist P.toProgram r.1 accs.signatureSet marked := by
  have hread : readU8At secpData 0 = .ok (byteAt secpData 0) := by rw [readU8At_eq, if_pos (by omega)]
  have hparts : secpParts secpData ix (byteAt secpData 0) = .ok (partsAt secpData (entryCount secpData)) :=
    secpRounds_eq_ok.mpr ⟨h.entries, rfl⟩
  have hcount : ensure ((sigInfos data).length = (partsAt secpData (entryCount secpData)).length)
      (.programError .invalidArgument) = .ok () := by
    rw [ensure_eq_ok, h.count, partsAt, List.length_map, List.length_range]
  have hhash : secpMessage secpData (partsAt secpData (entryCount secpData)) =
      .ok ⟨messageAt secpData, messageAt_length h.message⟩ :=
    secpMessage_eq_ok.mpr ⟨h.nonempty, h.size, h.message, rfl⟩
  rcases openSignatureSet_cases ⟨messageAt secpData, messageAt_length h.message⟩ hσ with
    ⟨-, r, hopen, hslots, hroom⟩ | ⟨hclosed, -⟩
  · refine ⟨r, hslots, hroom, ?_⟩
    simp only [verifyEntries, hread, hparts, hcount, hhash, hopen, Failing.ok_bind]
  · exact absurd h.opens hclosed

/-- What is not refused before the marking panics in the entries or at the message, or is prepared. -/
theorem verifyEntries_hard {ix : UInt8}
    (hσ : peelData SignatureSetData .maybeInitialized P.programId L false accs.signatureSet = .ok σ)
    (hlen : 2 ≤ secpData.length) (h : Hard (verifyEntries P L accs ix data g σ secpData)) :
    ((∃ i < entryCount secpData, (∀ j < i, EntryPasses secpData ix j) ∧ ¬EntryBounds secpData ix i) ∨
      ((∀ i < entryCount secpData, EntryPasses secpData ix i) ∧ (sigInfos data).length = entryCount secpData ∧
        ¬(0 < entryCount secpData ∧ ((entryAt secpData 0).msgSize = 32 → MessageIn secpData)))) ∨
    Prepared P L accs ix (sigInfos data) g σ secpData := by
  have hread : readU8At secpData 0 = .ok (byteAt secpData 0) := by rw [readU8At_eq, if_pos (by omega)]
  rw [verifyEntries, hread, Failing.ok_bind] at h
  rcases h.parts with hpanics | ⟨parts, hparts, h⟩
  · exact .inl (.inl (secpRounds_panics.mp hpanics))
  obtain ⟨hpass, rfl⟩ := secpRounds_eq_ok.mp hparts
  obtain ⟨_, hcount, h⟩ := h.bind (ensure_never (by decide))
  rw [ensure_eq_ok, partsAt, List.length_map, List.length_range] at hcount
  rcases h.parts with hpanics | ⟨hash, hhash, h⟩
  · refine .inl (.inr ⟨hpass, hcount, ?_⟩)
    rintro ⟨hpos, hin⟩
    rcases secpMessage_panics.mp hpanics with hzero | ⟨hsize, hout⟩
    · exact hpos.ne' hzero
    · exact hout (hin hsize)
  obtain ⟨hpos, hsize, hin, hval⟩ := secpMessage_eq_ok.mp hhash
  obtain ⟨r, hopen, -⟩ := h.bind openSignatureSet_never
  refine .inr ⟨hpass, hcount, hpos, hsize, hin, ?_⟩
  rcases openSignatureSet_cases hash hσ with ⟨hopens, -⟩ | ⟨-, e, -, herr⟩
  · exact hval ▸ hopens
  · rw [herr] at hopen
    cases hopen

/-- `verify_signatures` reads no guardian key, entry or slot that is not there, and accepts only signers whose
index is below the number of guardians, and which name one of the entries. -/
def Bounded (P : CoreProgram Pubkey) (L : Ledger Pubkey) (accs : VerifySignatures Pubkey)
    (tx : List (Instruction Pubkey)) (current : UInt16) (data : VerifySignaturesData) : Prop :=
  verifySignatures P L accs tx current data ≠ .error .panicked ∧
  ∀ L' g ix, verifySignatures P L accs tx current data = .ok L' →
    AccountData.deserialize (L accs.guardianSet.key).data = .ok g → tx[(secpIndex current).toNat]? = some ix →
    ∀ s ∈ sigInfos data, s.signerIndex.toNat < (g : GuardianSetData).numGuardians.toNat ∧
      s.sigIndex.toNat < entryCount ix.data

theorem sigInfos_lt : ∀ s ∈ sigInfos data, s.sigIndex.toNat < 255 := fun _ hs => sigIndex_lt hs

/-- From the entries on, it panics exactly where a read is out of its bounds. -/
theorem verifyEntries_panics {ix : UInt8}
    (hσ : peelData SignatureSetData .maybeInitialized P.programId L false accs.signatureSet = .ok σ)
    (hlen : 2 ≤ secpData.length) :
    verifyEntries P L accs ix data g σ secpData = .error .panicked ↔
      ¬ReadsIn P L accs ix (sigInfos data) g σ secpData := by
  have hread : readU8At secpData 0 = .ok (byteAt secpData 0) := by rw [readU8At_eq, if_pos (by omega)]
  constructor
  · intro hpanics hin
    rcases verifyEntries_hard hσ hlen (.inl hpanics) with (⟨i, hi, hpass, hout⟩ | ⟨hpass, hcount, hout⟩) | hprepared
    · exact hout (hin.entries i hi hpass)
    · exact hout (hin.message hpass hcount)
    · obtain ⟨r, hslots, hroom, hentries⟩ := verifyEntries_of_prepared hσ hlen hprepared
      rw [hentries] at hpanics
      rcases Failing.bind_eq_error.mp hpanics with hmark | ⟨marked, -, hpersist⟩
      · obtain ⟨pre, s, post, hsplit, hpass, hout⟩ := (markSigners_panics sigInfos_lt).mp hmark
        rw [hslots] at hpass hout
        exact hout (hin.marking hprepared pre s post hsplit hpass)
      · exact persist_never (by decide) hpersist
  -- the other way: each of the three kinds of reads leads to a panic of its own
  · intro hout
    by_contra hpanics
    apply hout
    refine ⟨?_, ?_, ?_⟩
    · intro i hi hpass
      by_contra hout
      apply hpanics
      rw [verifyEntries, hread, Failing.ok_bind, secpParts, secpRounds_panics.mpr ⟨i, hi, hpass, hout⟩]
      rfl
    · intro hpass hcount
      by_contra hout
      apply hpanics
      have hensure : ensure ((sigInfos data).length = (partsAt secpData (entryCount secpData)).length)
          (.programError .invalidArgument) = .ok () := by
        rw [ensure_eq_ok, hcount, partsAt, List.length_map, List.length_range]
      have hmessage : secpMessage secpData (partsAt secpData (entryCount secpData)) = .error .panicked := by
        rw [secpMessage_panics]
        by_contra hno
        rw [not_or, not_and, not_not] at hno
        exact hout ⟨Nat.pos_of_ne_zero hno.1, hno.2⟩
      have hparts : secpParts secpData ix (byteAt secpData 0) = .ok (partsAt secpData (entryCount secpData)) :=
        secpRounds_eq_ok.mpr ⟨hpass, rfl⟩
      simp only [verifyEntries, hread, hparts, hensure, hmessage, Failing.ok_bind]
      rfl
    · intro hprepared pre s post hsplit hpass
      by_contra hout
      apply hpanics
      obtain ⟨r, hslots, -, hentries⟩ := verifyEntries_of_prepared hσ hlen hprepared
      rw [hentries, Failing.bind_eq_error]
      refine .inl ((markSigners_panics sigInfos_lt).mpr ⟨pre, s, post, hsplit, ?_, ?_⟩)
      · rw [hslots]
        exact hpass
      · rw [hslots]
        exact hout

/-- And returns exactly where everything passes: there is room for what it writes. -/
theorem verifyEntries_returns {ix : UInt8}
    (hσ : peelData SignatureSetData .maybeInitialized P.programId L false accs.signatureSet = .ok σ)
    (hlen : 2 ≤ secpData.length) :
    (∃ L', verifyEntries P L accs ix data g σ secpData = .ok L') ↔
      Passes P L accs ix (sigInfos data) g σ secpData := by
  constructor
  · rintro ⟨L', hok⟩
    have hnot : ReadsIn P L accs ix (sigInfos data) g σ secpData := by
      by_contra hout
      rw [(verifyEntries_panics hσ hlen).mpr hout] at hok
      cases hok
    rcases verifyEntries_hard hσ hlen (.inr ⟨L', hok⟩) with (⟨i, hi, hpass, hout⟩ | ⟨hpass, hcount, hout⟩) | hprepared
    · exact absurd (hnot.entries i hi hpass) hout
    · exact absurd (hnot.message hpass hcount) hout
    · obtain ⟨r, hslots, -, hentries⟩ := verifyEntries_of_prepared hσ hlen hprepared
      rw [hentries] at hok
      obtain ⟨marked, hmarked, -⟩ := Failing.bind_eq_ok.mp hok
      have hpass := (markSigners_returns sigInfos_lt).mp ⟨marked, hmarked⟩
      rw [hslots] at hpass
      exact ⟨hprepared, hpass⟩
  · intro h
    obtain ⟨r, hslots, hroom, hentries⟩ := verifyEntries_of_prepared hσ hlen h.toPrepared
    obtain ⟨marked, hmarked⟩ := (markSigners_returns sigInfos_lt).mpr (hslots.symm ▸ h.signers)
    have hfits : (AccountData.serialize marked).length ≤ (r.1 accs.signatureSet.key).data.length := by
      have hsame := (markSigners_eq_ok hmarked).length
      show (SignatureSetData.codec.write marked).length ≤ _
      rw [SignatureSetData.write_length, hsame, hslots]
      exact hroom
    obtain ⟨L', hL'⟩ := persist_returns hfits
    refine ⟨L', ?_⟩
    rw [hentries, hmarked]
    exact hL'

/-- It panics exactly where it reaches a read out of bounds. -/
theorem verifySignatures_panics :
    verifySignatures P L accs tx current data = .error .panicked ↔
      ∃ g σ secpData, Reaches P L accs tx current g σ secpData ∧
        ¬ReadsIn P L accs (secpIndex current) (sigInfos data) g σ secpData := by
  constructor
  · intro hpanics
    obtain ⟨g, σ, secpData, hreach⟩ := reaches_of_hard (.inl hpanics)
    rw [verifySignatures_of_reaches hreach] at hpanics
    exact ⟨g, σ, secpData, hreach, (verifyEntries_panics hreach.signatureSet hreach.length).mp hpanics⟩
  · rintro ⟨g, σ, secpData, hreach, hout⟩
    rw [verifySignatures_of_reaches hreach]
    exact (verifyEntries_panics hreach.signatureSet hreach.length).mpr hout

/-- What an accepted call has read: the guardian set of the account, and the data of the instruction before. -/
theorem passes_of_accepted {L' : Ledger Pubkey} {ix : Instruction Pubkey}
    (hok : verifySignatures P L accs tx current data = .ok L')
    (hg : AccountData.deserialize (L accs.guardianSet.key).data = .ok g)
    (hix : tx[(secpIndex current).toNat]? = some ix) :
    ∃ σ, Reaches P L accs tx current g σ ix.data ∧
      Passes P L accs (secpIndex current) (sigInfos data) g σ ix.data := by
  obtain ⟨g', σ, secpData, hreach⟩ := reaches_of_hard (.inr ⟨L', hok⟩)
  obtain rfl : g' = g := Except.ok.inj ((peelData_initialized.mp hreach.guardianSet).2.1.symm.trans hg)
  obtain ⟨ix', hix', -, rfl⟩ := hreach.secp
  obtain rfl : ix' = ix := Option.some.inj (hix'.symm.trans hix)
  rw [verifySignatures_of_reaches hreach] at hok
  exact ⟨σ, hreach, (verifyEntries_returns hreach.signatureSet hreach.length).mp ⟨L', hok⟩⟩

/-- The comparison leaves one index too many. -/
theorem SignerPasses.lt_iff {g : GuardianSetData} {sigLen : UInt8} {slots : Nat} {s : SigInfo}
    (h : SignerPasses g secpData sigLen slots s) :
    s.signerIndex.toNat < g.numGuardians.toNat ↔ s.signerIndex ≠ g.numGuardians := by
  have hle : s.signerIndex.toNat ≤ g.numGuardians.toNat := UInt8.le_iff_toNat_le.mp h.guardian
  rw [Ne, ← UInt8.toNat_inj]
  omega

theorem Bounded.inBounds (h : Bounded P L accs tx current data) (hreach : Reaches P L accs tx current g σ secpData) :
    InBounds P L accs (secpIndex current) (sigInfos data) g σ secpData := by
  obtain ⟨hpanics, haccepted⟩ := h
  rw [inBounds_iff]
  constructor
  · by_contra hout
    exact hpanics (verifySignatures_panics.mpr ⟨g, σ, secpData, hreach, hout⟩)
  · intro hpass s hs
    obtain ⟨L', hok⟩ := (verifyEntries_returns hreach.signatureSet hreach.length).mpr hpass
    rw [← verifySignatures_of_reaches hreach] at hok
    obtain ⟨ix, hix, -, -⟩ := hreach.secp
    have hlt := (haccepted L' g ix hok (peelData_initialized.mp hreach.guardianSet).2.1 hix s hs).1
    exact (hpass.signers s hs).lt_iff.mp hlt

theorem bounded_of_inBounds
    (h : ∀ g σ secpData, Reaches P L accs tx current g σ secpData →
      InBounds P L accs (secpIndex current) (sigInfos data) g σ secpData) :
    Bounded P L accs tx current data := by
  constructor
  · intro hpanics
    obtain ⟨g, σ, secpData, hreach, hout⟩ := verifySignatures_panics.mp hpanics
    exact hout (inBounds_iff.mp (h g σ secpData hreach)).1
  · intro L' g ix hok hg hix s hs
    obtain ⟨σ, hreach, hpass⟩ := passes_of_accepted hok hg hix
    have hne := (inBounds_iff.mp (h g σ ix.data hreach)).2 hpass s hs
    exact ⟨(hpass.signers s hs).lt_iff.mpr hne, (hpass.signers s hs).entry⟩

/-- **The bounds** hold exactly when the reads that are reached are within them. -/
theorem bounded_iff :
    Bounded P L accs tx current data ↔
      ∀ g σ secpData, Reaches P L accs tx current g σ secpData →
        InBounds P L accs (secpIndex current) (sigInfos data) g σ secpData :=
  ⟨fun h _ _ _ hreach => h.inBounds hreach, bounded_of_inBounds⟩

/-- **Where `verify_signatures` keeps to its bounds.**  A read is out of bounds exactly where it panics; and the
signers of a call that is accepted name entries that are there, and guardians that are there exactly if none of them
has the number of guardians as its index. -/
theorem accesses_iff :
    (verifySignatures P L accs tx current data ≠ .error .panicked ↔
      ∀ g σ secpData, Reaches P L accs tx current g σ secpData →
        ReadsIn P L accs (secpIndex current) (sigInfos data) g σ secpData) ∧
    ∀ L' g ix, verifySignatures P L accs tx current data = .ok L' →
      AccountData.deserialize (L accs.guardianSet.key).data = .ok g → tx[(secpIndex current).toNat]? = some ix →
      ((∀ s ∈ sigInfos data, s.signerIndex.toNat < (g : GuardianSetData).numGuardians.toNat ∧
          s.sigIndex.toNat < entryCount ix.data) ↔
        ∀ s ∈ sigInfos data, s.signerIndex ≠ g.numGuardians) := by
  constructor
  · rw [Ne, verifySignatures_panics]
    constructor
    · intro h g σ secpData hreach
      by_contra hout
      exact h ⟨g, σ, secpData, hreach, hout⟩
    · rintro h ⟨g, σ, secpData, hreach, hout⟩
      exact hout (h g σ secpData hreach)
  · intro L' g ix hok hg hix
    obtain ⟨σ, -, hpass⟩ := passes_of_accepted hok hg hix
    constructor
    · intro h s hs
      exact (hpass.signers s hs).lt_iff.mp (h s hs).1
    · intro h s hs
      exact ⟨(hpass.signers s hs).lt_iff.mpr (h s hs), (hpass.signers s hs).entry⟩

/-! ## A fifth signer -/

section Samples

/-- The program is initialized for four guardians. -/
def fourGuardians : Ledger SampleKey := attempt (Core.step sampleProgram) sampleLedger sampleInitialize

/-- The signer behind the last guardian. -/
def fifthSigner : List Int8 := -1 :: -1 :: -1 :: -1 :: 0 :: List.replicate 14 (-1)

theorem fifthSigner_length : fifthSigner.length = MAX_LEN_GUARDIAN_KEYS := by decide

/-- The fourth guardian's signature is there, and the caller says that it is a fifth guardian's: the key of this
one is read. -/
theorem fifthSigner_panics :
    Run (Core.step sampleProgram) (fun L input => input.Admissible sampleProgram Set.univ SampleSigned L) sampleLedger
      fourGuardians ∧
    SecpVerifies SampleSigned [secondSecp sampleHash] (secondSecp sampleHash).data ∧
    verifySignatures sampleProgram fourGuardians sampleVerifyAccounts [secondSecp sampleHash] 1
      { signers := ⟨fifthSigner, fifthSigner_length⟩ } = .error .panicked ∧
    ¬Bounded sampleProgram fourGuardians sampleVerifyAccounts [secondSecp sampleHash] 1
      { signers := ⟨fifthSigner, fifthSigner_length⟩ } := by
  have hpanics : (verifySignatures sampleProgram fourGuardians sampleVerifyAccounts [secondSecp sampleHash] 1
      { signers := ⟨fifthSigner, fifthSigner_length⟩ }).map (fun _ => ()) = .error .panicked := by decide +kernel
  have hpanics : verifySignatures sampleProgram fourGuardians sampleVerifyAccounts [secondSecp sampleHash] 1
      { signers := ⟨fifthSigner, fifthSigner_length⟩ } = .error .panicked := by
    cases hcase : verifySignatures sampleProgram fourGuardians sampleVerifyAccounts [secondSecp sampleHash] 1
        { signers := ⟨fifthSigner, fifthSigner_length⟩ } with
    | ok L' =>
      rw [hcase] at hpanics
      cases hpanics
    | error e =>
      rw [hcase] at hpanics
      exact congrArg Except.error (Except.error.inj hpanics)
  refine ⟨?_, secondSecp_verifies (.inl rfl), hpanics, fun h => h.1 hpanics⟩
  exact (Run.refl sampleLedger).attempt sampleInitialize
    (sample_admissible (by decide) (by rintro _ _ _ _ ⟨⟩) (by rintro _ ⟨⟩))

end Samples

end Wormhole.Solana.Core

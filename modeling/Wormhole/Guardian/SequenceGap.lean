/-
# Wormhole.Guardian.SequenceGap — the missing sequence numbers of an emitter.

`FindEmitterSequenceGap` scans the stored VAAs of an emitter, puts their sequence numbers into a map, takes the
smallest and the largest number in a loop over the map, and counts from one to the other.

The loop that should take the smallest number has a flag for its first round that is never set, so it always
finds 0, and where nothing is stored 0 is reported as missing.  The count compares with the largest number, and
does not end if that is the last number there is.  `gap_found_iff` says when what is found is right: exactly if
the stored VAAs can be decoded, 0 is stored, and the last number is not.
-/
import Mathlib
import Wormhole.Lib.Bytes
import Wormhole.Lib.Go
import Wormhole.Lib.Scan
import Wormhole.Lib.SortedMap
import Wormhole.Guardian.Codec
import Wormhole.Guardian.Db
import Wormhole.Guardian.Vaa
import Wormhole.Guardian.VaaIds

namespace Wormhole.Guardian

open Wormhole.Lib Wormhole.Lib.Bytes Wormhole.Lib.SortedMap

/-! ## The store, in order -/

/-- The store, with its keys in the order of the iterator. -/
structure Store where
  entries : List (String × List UInt8)
  sorted : Sorted entries

namespace Store

def empty : Store := ⟨[], .nil⟩

def put (store : Store) (key : String) (bytes : List UInt8) : Store :=
  ⟨insert key bytes store.entries, store.sorted.insert key bytes⟩

/-- The contents, by key. -/
def database (store : Store) : Database := fun key =>
  (store.entries.find? fun entry => entry.1 = key).map Prod.snd

variable {store : Store} {key : String} {bytes : List UInt8}

theorem mem_of_find {entry : String × List UInt8}
    (h : (store.entries.find? fun entry => entry.1 = key) = some entry) :
    entry ∈ store.entries ∧ entry.1 = key :=
  ⟨List.mem_of_find?_eq_some h, by simpa using List.find?_some h⟩

theorem database_eq_some : store.database key = some bytes ↔ (key, bytes) ∈ store.entries := by
  constructor
  · intro h
    obtain ⟨⟨k, b⟩, hfind, rfl⟩ := Option.map_eq_some_iff.mp h
    obtain ⟨hmem, rfl⟩ := mem_of_find hfind
    exact hmem
  · intro h
    have hisSome : (store.entries.find? fun entry => entry.1 = key).isSome :=
      List.find?_isSome.mpr ⟨_, h, decide_eq_true rfl⟩
    obtain ⟨entry, hfind⟩ := Option.isSome_iff_exists.mp hisSome
    obtain ⟨hmem, hkey⟩ := mem_of_find hfind
    -- there is one entry of a key
    rw [database, hfind, List.inj_on_of_nodup_map store.sorted.nodup_keys hmem h hkey]
    rfl

/-- Writing to the store is writing to its contents. -/
theorem database_put : (store.put key bytes).database = Function.update store.database key (some bytes) := by
  funext k
  apply Option.ext
  intro b
  rw [database_eq_some, Function.update_apply]
  refine (mem_insert store.sorted).trans ?_
  by_cases hk : k = key
  · subst hk
    rw [if_pos rfl, Prod.mk.injEq, Option.some_inj]
    constructor
    · rintro (⟨-, rfl⟩ | ⟨-, hne⟩)
      · rfl
      · exact absurd rfl hne
    · rintro rfl
      exact .inl ⟨rfl, rfl⟩
  · rw [if_neg hk, database_eq_some, Prod.mk.injEq]
    constructor
    · rintro (⟨hkey, -⟩ | ⟨hmem, -⟩)
      · exact absurd hkey hk
      · exact hmem
    · intro hmem
      exact .inr ⟨hmem, hk⟩

/-- A store of VAAs, each with its signatures, one byte of them at most, and under its own key. -/
def OfVAAs (store : Store) : Prop :=
  ∀ entry ∈ store.entries, ∃ v : VAA, v.signatures ≠ [] ∧ v.signatures.length ≤ 255 ∧
    entry = ((vaaIDFromVAA v).bytes, marshal v)

theorem OfVAAs.empty : empty.OfVAAs := by
  intro entry h
  cases h

theorem OfVAAs.put (h : store.OfVAAs) {v : VAA} (hsigned : v.signatures ≠ [])
    (hle : v.signatures.length ≤ 255) :
    (store.put (vaaIDFromVAA v).bytes (marshal v)).OfVAAs := by
  intro entry hentry
  rcases (mem_insert store.sorted).mp hentry with rfl | ⟨hentry, -⟩
  · exact ⟨v, hsigned, hle, rfl⟩
  · exact h entry hentry

/-- **Storing a VAA.** -/
theorem OfVAAs.storeSignedVAA (h : store.OfVAAs) {v : VAA} (hle : v.signatures.length ≤ 255) {fails : Bool}
    {d : Database} (hstore : storeSignedVAA store.database v fails = .done d) :
    ∃ store' : Store, store'.OfVAAs ∧ store'.database = d := by
  obtain ⟨hsigned, rfl⟩ := storeSignedVAA_eq_done hstore
  exact ⟨_, h.put hsigned hle, database_put⟩

end Store

/-! ## The search -/

/-- The key of a sequence number of an emitter. -/
def VAAID.keyOf (emitter : VAAID) (sequence : UInt64) : String := { emitter with sequence }.bytes

/-- The items from the prefix of the emitter on, as long as they are valid for it. -/
def Store.scanEmitter (store : Store) (emitter : VAAID) : List (String × List UInt8) :=
  scan emitter.emitterPrefixBytes (hasPrefix emitter.emitterPrefixBytes) store.entries

/-- The value of an item, decoded. -/
def readSequence (entry : String × List UInt8) : Go UInt64 :=
  match unmarshal entry.2 with
  | .ok v => .ok v.sequence
  | .error err => .error ("failed to unmarshal VAA for " ++ entry.1 ++ ": " ++ err)

/-- An order of the keys of every map. -/
structure MapOrder where
  order : List UInt64 → List UInt64
  perm : ∀ keys, (order keys).Perm keys.dedup

/-- The variables of the loop over the map. -/
structure Extremes where
  first : Bool
  firstSeq : UInt64
  lastSeq : UInt64

def Extremes.round (e : Extremes) (k : UInt64) : Extremes :=
  let e := if e.first then { e with firstSeq := k, first := false } else e
  let e := if k < e.firstSeq then { e with firstSeq := k } else e
  if k > e.lastSeq then { e with lastSeq := k } else e

/-- Find min/max. -/
def findExtremes (keys : List UInt64) : Extremes := keys.foldl Extremes.round ⟨false, 0, 0⟩

/-- Figure out gaps, in at most `fuel` rounds. -/
def gapLoop (seqs : List UInt64) (lastSeq : UInt64) : Nat → UInt64 → List UInt64 → Option (List UInt64)
  | 0, _, _ => none
  | fuel + 1, i, resp =>
    if i ≤ lastSeq then gapLoop seqs lastSeq fuel (i + 1) (if i ∈ seqs then resp else resp ++ [i])
    else some resp

structure Gap where
  resp : List UInt64
  firstSeq : UInt64
  lastSeq : UInt64
  deriving DecidableEq

/-- What is found when the sequence numbers have been read. -/
def findGap (order : MapOrder) (fuel : Nat) (seqs : List UInt64) : Option Gap :=
  let e := findExtremes (order.order seqs)
  (gapLoop seqs e.lastSeq fuel e.firstSeq []).map fun resp => ⟨resp, e.firstSeq, e.lastSeq⟩

/-- `FindEmitterSequenceGap`.  Nothing is returned if the count does not end within `fuel` rounds. -/
def findEmitterSequenceGap (order : MapOrder) (store : Store) (emitter : VAAID) (fuel : Nat) :
    Option (Go Gap) :=
  match (store.scanEmitter emitter).mapM readSequence with
  | .ok seqs => (findGap order fuel seqs).map .ok
  | .error reason => some (.error reason)
  | .panic reason => some (.panic reason)

/-! ## What should be found -/

/-- The sequence numbers that are stored for an emitter. -/
def Store.sequences (store : Store) (emitter : VAAID) : Set UInt64 :=
  {n | (store.database (emitter.keyOf n)).isSome}

/-- The smallest and the largest number, and in order those between them that are not there. -/
structure Gap.Correct (gap : Gap) (stored : Set UInt64) : Prop where
  firstSeq : stored.Nonempty → gap.firstSeq ∈ stored ∧ ∀ n ∈ stored, gap.firstSeq ≤ n
  lastSeq : stored.Nonempty → gap.lastSeq ∈ stored ∧ ∀ n ∈ stored, n ≤ gap.lastSeq
  ascending : gap.resp.Pairwise (· < ·)
  missing : ∀ i, i ∈ gap.resp ↔ i ∉ stored ∧ ∃ a ∈ stored, ∃ b ∈ stored, a < i ∧ i < b

/-- All stored VAAs of the emitter can be decoded. -/
def Store.Decodes (store : Store) (emitter : VAAID) : Prop :=
  ∀ n bytes, store.database (emitter.keyOf n) = some bytes → ∃ v, unmarshal bytes = .ok v

/-! ## What is read -/

section Reading

variable {store : Store} {emitter : VAAID} {entry : String × List UInt8} {seqs : List UInt64}

/-- The sequence number is read back. -/
theorem unmarshal_marshal_sequence {v v' : VAA} (hle : v.signatures.length ≤ 255)
    (h : unmarshal (marshal v) = .ok v') : v'.sequence = v.sequence := by
  obtain ⟨payload, hencodes, -⟩ := unmarshal_eq_ok.mp h
  have hbody : serializeBody { v' with payload } = serializeBody v := by
    rw [← hencodes.bodyOf, bodyOf_marshal hle]
  have hread := body_sequence { v' with payload }
  rw [hbody, body_sequence] at hread
  have hnat := beBytes_injective v.sequence.toNat_lt v'.sequence.toNat_lt (Option.some.inj hread)
  exact (UInt64.toNat_inj.mp hnat).symm

/-- **What the scan sees**: the entries of the emitter. -/
theorem mem_scan (hstore : store.OfVAAs) :
    entry ∈ store.scanEmitter emitter ↔
      entry ∈ store.entries ∧ ∃ n, entry.1 = emitter.keyOf n := by
  rw [Store.scanEmitter, scan_eq_filter (startsAt_hasPrefix _) store.sorted, List.mem_filter]
  refine and_congr_right fun hentry => ?_
  obtain ⟨v, -, -, rfl⟩ := hstore entry hentry
  rw [hasPrefix_iff, emitterPrefix_prefix_iff]
  constructor
  · rintro ⟨hchain, haddress⟩
    refine ⟨v.sequence, ?_⟩
    rw [VAAID.keyOf, hchain, haddress]
    rfl
  · rintro ⟨n, hkey⟩
    have hid : vaaIDFromVAA v = { emitter with sequence := n } := VAAID.bytes_injective hkey
    rw [hid]
    exact ⟨rfl, rfl⟩

/-- What is read of an entry is the number in its key. -/
theorem readSequence_of_key (hstore : store.OfVAAs) (hentry : entry ∈ store.entries) {n m : UInt64}
    (hkey : entry.1 = emitter.keyOf n) (h : readSequence entry = .ok m) : m = n := by
  obtain ⟨v, -, hle, rfl⟩ := hstore entry hentry
  have hsequence : v.sequence = n := congrArg VAAID.sequence (VAAID.bytes_injective hkey)
  unfold readSequence at h
  split at h
  · rename_i v' hunmarshal
    rw [← Go.ok.inj h, unmarshal_marshal_sequence hle hunmarshal, hsequence]
  · cases h

/-- **The numbers that are read** are those that are stored. -/
theorem mem_seqs (hstore : store.OfVAAs)
    (h : (store.scanEmitter emitter).mapM readSequence = .ok seqs) (n : UInt64) :
    n ∈ seqs ↔ n ∈ store.sequences emitter := by
  rw [Go.mem_of_mapM_eq_ok h]
  constructor
  · rintro ⟨entry, hscan, hread⟩
    obtain ⟨hentry, m, hkey⟩ := (mem_scan hstore).mp hscan
    obtain rfl := readSequence_of_key hstore hentry hkey hread
    show (store.database (emitter.keyOf n)).isSome
    rw [← hkey, Store.database_eq_some.mpr hentry]
    rfl
  · intro hn
    obtain ⟨bytes, hbytes⟩ := Option.isSome_iff_exists.mp hn
    have hentry := Store.database_eq_some.mp hbytes
    have hscan : (emitter.keyOf n, bytes) ∈ store.scanEmitter emitter :=
      (mem_scan hstore).mpr ⟨hentry, n, rfl⟩
    obtain ⟨m, hread⟩ := Go.isOk_of_mapM_eq_ok h _ hscan
    obtain rfl := readSequence_of_key hstore hentry rfl hread
    exact ⟨_, hscan, hread⟩

/-- **The scan goes through** exactly if all VAAs of the emitter can be decoded. -/
theorem mapM_readSequence_isOk (hstore : store.OfVAAs) :
    ((store.scanEmitter emitter).mapM readSequence).IsOk ↔ store.Decodes emitter := by
  constructor
  · rintro ⟨seqs, h⟩ n bytes hbytes
    have hscan : (emitter.keyOf n, bytes) ∈ store.scanEmitter emitter :=
      (mem_scan hstore).mpr ⟨Store.database_eq_some.mp hbytes, n, rfl⟩
    obtain ⟨m, hread⟩ := Go.isOk_of_mapM_eq_ok h _ hscan
    unfold readSequence at hread
    split at hread
    · rename_i v hunmarshal
      exact ⟨v, hunmarshal⟩
    · cases hread
  · intro h
    refine Go.mapM_isOk ?_
    intro entry hscan
    obtain ⟨hentry, n, hkey⟩ := (mem_scan hstore).mp hscan
    obtain ⟨v, hunmarshal⟩ := h n entry.2 (by rw [← hkey]; exact Store.database_eq_some.mpr hentry)
    refine ⟨v.sequence, ?_⟩
    rw [readSequence, hunmarshal]

end Reading

/-! ## The loops -/

section Loops

variable {seqs resp out : List UInt64} {lastSeq i k : UInt64} {fuel : Nat}

/-- Without the flag the first number is always 0, and the last number only grows. -/
theorem Extremes.round_eq (last k : UInt64) : Extremes.round ⟨false, 0, last⟩ k =
    ⟨false, 0, if k > last then k else last⟩ := by
  have hzero : ¬k < 0 := UInt64.not_lt_zero
  unfold Extremes.round
  dsimp only
  rw [if_neg Bool.false_ne_true, if_neg hzero]
  split
  · rfl
  · rfl

/-- **The loop over the map**: it finds 0, and the largest number. -/
theorem foldl_round (keys : List UInt64) (last : UInt64) :
    ∃ last', keys.foldl Extremes.round ⟨false, 0, last⟩ = ⟨false, 0, last'⟩ ∧ last ≤ last' ∧
      (∀ k ∈ keys, k ≤ last') ∧ (last' = last ∨ last' ∈ keys) := by
  induction keys generalizing last with
  | nil => exact ⟨last, rfl, UInt64.le_refl last, nofun, .inl rfl⟩
  | cons k keys ih =>
    obtain ⟨last', hfold, hle, hall, hmem⟩ := ih (if k > last then k else last)
    rw [List.foldl_cons, Extremes.round_eq]
    refine ⟨last', hfold, ?_⟩
    by_cases hgt : k > last
    · rw [if_pos hgt] at hle hmem
      refine ⟨UInt64.le_trans (UInt64.le_of_lt hgt) hle, List.forall_mem_cons.mpr ⟨hle, hall⟩, .inr ?_⟩
      rcases hmem with rfl | hmem
      · exact List.mem_cons_self
      · exact List.mem_cons_of_mem _ hmem
    · rw [if_neg hgt] at hle hmem
      refine ⟨hle, List.forall_mem_cons.mpr ⟨UInt64.le_trans (UInt64.not_lt.mp hgt) hle, hall⟩, ?_⟩
      exact hmem.imp_right (List.mem_cons_of_mem _)

/-- The last number there is. -/
def maxUint64 : UInt64 := 18446744073709551615

theorem le_maxUint64 (i : UInt64) : i ≤ maxUint64 := by
  have := i.toNat_lt
  rw [UInt64.le_iff_toNat_le]
  show i.toNat ≤ 18446744073709551615
  omega

theorem toNat_succ (h : i < maxUint64) : (i + 1).toNat = i.toNat + 1 := by
  have hlt : i.toNat < 18446744073709551615 := UInt64.lt_iff_toNat_lt.mp h
  rw [UInt64.toNat_add]
  exact Nat.mod_eq_of_lt (by show i.toNat + 1 < 2 ^ 64; omega)

/-- **The count to the last number** does not end. -/
theorem gapLoop_maxUint64 : gapLoop seqs maxUint64 fuel i resp = none := by
  induction fuel generalizing i resp with
  | zero => rfl
  | succ fuel ih =>
    rw [gapLoop, if_pos (le_maxUint64 i)]
    exact ih

/-- **Any other count** adds the numbers that are missing, in order. -/
theorem gapLoop_eq_some (hlast : lastSeq < maxUint64) (h : gapLoop seqs lastSeq fuel i resp = some out) :
    ∃ missing, out = resp ++ missing ∧ missing.Pairwise (· < ·) ∧
      ∀ j, j ∈ missing ↔ i ≤ j ∧ j ≤ lastSeq ∧ j ∉ seqs := by
  induction fuel generalizing i resp with
  | zero => cases h
  | succ fuel ih =>
    rw [gapLoop] at h
    split at h
    · rename_i hle
      obtain ⟨missing, rfl, hascending, hmissing⟩ := ih h
      have hsucc := toNat_succ (UInt64.lt_of_le_of_lt hle hlast)
      have hrest : ∀ j, i + 1 ≤ j ↔ i ≤ j ∧ j ≠ i := by
        intro j
        rw [UInt64.le_iff_toNat_le, UInt64.le_iff_toNat_le, hsucc, ne_eq, ← UInt64.toNat_inj]
        omega
      split
      · rename_i hstored
        refine ⟨missing, rfl, hascending, ?_⟩
        intro j
        rw [hmissing, hrest]
        constructor
        · rintro ⟨⟨hij, -⟩, hj⟩
          exact ⟨hij, hj⟩
        · rintro ⟨hij, hj, hjs⟩
          exact ⟨⟨hij, fun heq => hjs (heq ▸ hstored)⟩, hj, hjs⟩
      · rename_i hnot
        refine ⟨i :: missing, by rw [List.append_assoc]; rfl, List.pairwise_cons.mpr ⟨?_, hascending⟩, ?_⟩
        · intro j hj
          have hij := ((hmissing j).mp hj).1
          rw [UInt64.le_iff_toNat_le, hsucc] at hij
          exact UInt64.lt_iff_toNat_lt.mpr hij
        · intro j
          rw [List.mem_cons, hmissing, hrest]
          constructor
          · rintro (rfl | ⟨⟨hij, -⟩, hj⟩)
            · exact ⟨UInt64.le_refl _, hle, hnot⟩
            · exact ⟨hij, hj⟩
          · rintro ⟨hij, hj⟩
            by_cases heq : j = i
            · exact .inl heq
            · exact .inr ⟨⟨hij, heq⟩, hj⟩
    · rename_i hgt
      refine ⟨[], by rw [List.append_nil, Option.some.inj h], .nil, ?_⟩
      intro j
      constructor
      · nofun
      · rintro ⟨hij, hj, -⟩
        exact absurd (UInt64.le_trans hij hj) hgt

/-- It ends. -/
theorem gapLoop_ends (hlast : lastSeq < maxUint64) (n : Nat) (hn : lastSeq.toNat + 1 - i.toNat = n) :
    (gapLoop seqs lastSeq (n + 1) i resp).isSome := by
  induction n generalizing i resp with
  | zero =>
    have hgt : ¬i ≤ lastSeq := by
      rw [UInt64.le_iff_toNat_le]
      omega
    rw [gapLoop, if_neg hgt]
    rfl
  | succ n ih =>
    have hle : i ≤ lastSeq := by
      rw [UInt64.le_iff_toNat_le]
      omega
    rw [gapLoop, if_pos hle]
    refine ih ?_
    rw [toNat_succ (UInt64.lt_of_le_of_lt hle hlast)]
    omega

end Loops

/-! ## What is found -/

section Found

variable {store : Store} {emitter : VAAID} {seqs : List UInt64} {fuel : Nat} {gap : Gap}

theorem uint64_lt_of_le_of_ne {a b : UInt64} (hle : a ≤ b) (hne : a ≠ b) : a < b := by
  rw [UInt64.le_iff_toNat_le] at hle
  rw [ne_eq, ← UInt64.toNat_inj] at hne
  exact UInt64.lt_iff_toNat_lt.mpr (lt_of_le_of_ne hle hne)

/-- **What the loops find** in a set of numbers: 0, the largest number, and what is missing up to there. -/
theorem findGap_eq_some (order : MapOrder) (h : findGap order fuel seqs = some gap) :
    gap.firstSeq = 0 ∧ gap.lastSeq < maxUint64 ∧ (∀ k ∈ seqs, k ≤ gap.lastSeq) ∧
      (gap.lastSeq = 0 ∨ gap.lastSeq ∈ seqs) ∧ gap.resp.Pairwise (· < ·) ∧
      ∀ j, j ∈ gap.resp ↔ j ≤ gap.lastSeq ∧ j ∉ seqs := by
  obtain ⟨lastSeq, hextremes, -, hall, hmem⟩ := foldl_round (order.order seqs) 0
  have hkeys : ∀ k, k ∈ order.order seqs ↔ k ∈ seqs := by
    intro k
    rw [(order.perm seqs).mem_iff, List.mem_dedup]
  rw [hkeys] at hmem
  obtain ⟨resp, hloop, rfl⟩ := Option.map_eq_some_iff.mp h
  rw [findExtremes, hextremes] at hloop ⊢
  have hlast : lastSeq < maxUint64 := by
    refine uint64_lt_of_le_of_ne (le_maxUint64 _) ?_
    rintro rfl
    cases gapLoop_maxUint64.symm.trans hloop
  obtain ⟨missing, rfl, hascending, hmissing⟩ := gapLoop_eq_some hlast hloop
  refine ⟨rfl, hlast, fun k hk => hall k ((hkeys k).mpr hk), hmem, hascending, ?_⟩
  intro j
  exact (hmissing j).trans (and_iff_right UInt64.zero_le)

/-- They end unless the last number is there. -/
theorem findGap_ends (order : MapOrder) (hmax : maxUint64 ∉ seqs) :
    ∃ fuel gap, findGap order fuel seqs = some gap := by
  obtain ⟨lastSeq, hextremes, -, -, hmem⟩ := foldl_round (order.order seqs) 0
  rw [(order.perm seqs).mem_iff, List.mem_dedup] at hmem
  have hlast : lastSeq < maxUint64 := by
    refine uint64_lt_of_le_of_ne (le_maxUint64 _) ?_
    rintro rfl
    rcases hmem with hzero | hmem
    · exact absurd hzero (by decide)
    · exact hmax hmem
  have hends : (gapLoop seqs lastSeq (lastSeq.toNat + 1 - (0 : UInt64).toNat + 1) 0 []).isSome :=
    gapLoop_ends hlast _ rfl
  obtain ⟨resp, hloop⟩ := Option.isSome_iff_exists.mp hends
  refine ⟨lastSeq.toNat + 1 - (0 : UInt64).toNat + 1, ⟨resp, 0, lastSeq⟩, ?_⟩
  rw [findGap, findExtremes, hextremes]
  dsimp only
  rw [hloop]
  rfl

/-- A search that returns has read the stored VAAs. -/
theorem findEmitterSequenceGap_eq_ok {order : MapOrder}
    (h : findEmitterSequenceGap order store emitter fuel = some (.ok gap)) :
    ∃ seqs, (store.scanEmitter emitter).mapM readSequence = .ok seqs ∧ findGap order fuel seqs = some gap := by
  unfold findEmitterSequenceGap at h
  split at h
  · rename_i seqs hseqs
    obtain ⟨gap', hgap, heq⟩ := Option.map_eq_some_iff.mp h
    obtain rfl := Go.ok.inj heq
    exact ⟨seqs, hseqs, hgap⟩
  · cases h
  · cases h

/-- **When the search is right**: the stored VAAs of the emitter can be decoded, 0 is stored, and the last
number is not.  Otherwise it fails, it finds 0 though 0 is not stored, or it does not end. -/
theorem gap_found_iff (hstore : store.OfVAAs) (order : MapOrder) (emitter : VAAID) :
    (∃ fuel gap, findEmitterSequenceGap order store emitter fuel = some (.ok gap) ∧
      gap.Correct (store.sequences emitter)) ↔
    store.Decodes emitter ∧ 0 ∈ store.sequences emitter ∧ maxUint64 ∉ store.sequences emitter := by
  rw [← mapM_readSequence_isOk hstore]
  constructor
  · rintro ⟨fuel, gap, hfind, hcorrect⟩
    obtain ⟨seqs, hseqs, hgap⟩ := findEmitterSequenceGap_eq_ok hfind
    obtain ⟨-, hlast, hle, -, -, hmissing⟩ := findGap_eq_some order hgap
    refine ⟨⟨seqs, hseqs⟩, ?_, ?_⟩
    · by_contra hzero
      -- 0 is missing, though no number is smaller
      have hresp := (hmissing 0).mpr ⟨UInt64.zero_le, fun hmem => hzero ((mem_seqs hstore hseqs 0).mp hmem)⟩
      obtain ⟨-, a, -, b, -, hlt, -⟩ := (hcorrect.missing 0).mp hresp
      exact UInt64.not_lt_zero hlt
    · intro hmax
      exact UInt64.not_le.mpr hlast (hle _ ((mem_seqs hstore hseqs _).mpr hmax))
  · rintro ⟨⟨seqs, hseqs⟩, hzero, hmax⟩
    have hmem := mem_seqs hstore hseqs
    obtain ⟨fuel, gap, hgap⟩ := findGap_ends order fun h => hmax ((hmem _).mp h)
    obtain ⟨hfirst, -, hle, hlast, hascending, hmissing⟩ := findGap_eq_some order hgap
    have hlast : gap.lastSeq ∈ store.sequences emitter := by
      rcases hlast with hlast | hlast
      · rw [hlast]
        exact hzero
      · exact (hmem _).mp hlast
    refine ⟨fuel, gap, by rw [findEmitterSequenceGap, hseqs]; simp only [hgap, Option.map_some], ?_⟩
    constructor
    · intro _
      rw [hfirst]
      exact ⟨hzero, fun n _ => UInt64.zero_le⟩
    · intro _
      exact ⟨hlast, fun n hn => hle n ((hmem n).mpr hn)⟩
    · exact hascending
    · intro i
      rw [hmissing, hmem]
      constructor
      · rintro ⟨hi, hnot⟩
        refine ⟨hnot, 0, hzero, gap.lastSeq, hlast, uint64_lt_of_le_of_ne UInt64.zero_le ?_, uint64_lt_of_le_of_ne hi ?_⟩
        · rintro rfl
          exact hnot hzero
        · rintro rfl
          exact hnot hlast
      · rintro ⟨hnot, a, -, b, hb, -, hlt⟩
        exact ⟨UInt64.le_trans (UInt64.le_of_lt hlt) (hle b ((hmem b).mpr hb)), hnot⟩

end Found

/-! ## Inputs -/

/-- A VAA of one emitter. -/
def sampleNumbered (n : UInt64) : VAA := { sampleInbound [0] with sequence := n }

def sampleEmitter : VAAID := vaaIDFromVAA (sampleNumbered 0)

/-- The store with some of its VAAs. -/
def sampleStore : List UInt64 → Store
  | [] => .empty
  | n :: ns => (sampleStore ns).put (vaaIDFromVAA (sampleNumbered n)).bytes (marshal (sampleNumbered n))

def sampleOrder : MapOrder := ⟨List.dedup, fun _ => .refl _⟩

theorem sampleStore_ofVAAs (ns : List UInt64) : (sampleStore ns).OfVAAs := by
  induction ns with
  | nil => exact .empty
  | cons n ns ih =>
    have hle : (sampleInbound [0]).signatures.length ≤ 255 := by decide
    exact ih.put (List.cons_ne_nil _ _) hle

theorem sampleStore_database (ns : List UInt64) (n : UInt64) :
    (sampleStore ns).database (sampleEmitter.keyOf n) =
      if n ∈ ns then some (marshal (sampleNumbered n)) else none := by
  induction ns with
  | nil => rfl
  | cons m ns ih =>
    rw [sampleStore, Store.database_put, Function.update_apply, ih]
    by_cases hnm : n = m
    · subst hnm
      rw [if_pos List.mem_cons_self]
      exact if_pos rfl
    · have hkey : sampleEmitter.keyOf n ≠ (vaaIDFromVAA (sampleNumbered m)).bytes :=
        fun h => hnm (congrArg VAAID.sequence (VAAID.bytes_injective h))
      rw [if_neg hkey]
      exact if_congr (by rw [List.mem_cons, or_iff_right hnm]) rfl rfl

theorem mem_sampleStore {ns : List UInt64} {n : UInt64} :
    n ∈ (sampleStore ns).sequences sampleEmitter ↔ n ∈ ns := by
  show ((sampleStore ns).database _).isSome ↔ _
  rw [sampleStore_database]
  split
  · rename_i hmem
    exact iff_of_true rfl hmem
  · rename_i hmem
    exact iff_of_false Bool.false_ne_true hmem

/-- 0 and 2 are stored, and 1 is found. -/
theorem sampleStore_found : ∃ fuel gap,
    findEmitterSequenceGap sampleOrder (sampleStore [2, 0]) sampleEmitter fuel = some (.ok gap) ∧
      gap.Correct ((sampleStore [2, 0]).sequences sampleEmitter) := by
  refine (gap_found_iff (sampleStore_ofVAAs [2, 0]) sampleOrder sampleEmitter).mpr ⟨?_, ?_, ?_⟩
  · intro n bytes hbytes
    rw [sampleStore_database] at hbytes
    split at hbytes
    · rw [← Option.some.inj hbytes]
      have hsigs : (sampleInbound [0]).signatures.length ≤ 255 := by decide
      have htime : (sampleInbound [0]).timestamp.Whole := by decide
      have hpayload : (sampleInbound [0]).payload.length ≤ 1000 := by decide
      have hlength : minVAALength ≤
          57 + 66 * (sampleInbound [0]).signatures.length + (sampleInbound [0]).payload.length := by decide
      have hread : ReadBack (sampleNumbered n) := ⟨rfl, List.cons_ne_nil _ _, hpayload, hlength⟩
      exact ⟨sampleNumbered n, (unmarshal_marshal_iff (v := sampleNumbered n) hsigs htime).mpr hread⟩
    · cases hbytes
  · exact mem_sampleStore.mpr (by decide)
  · exact fun h => absurd (mem_sampleStore.mp h) (by decide)

/-- **Only 5 is stored.** 0 is found as the smallest number, and everything below 5 is missing. -/
theorem sampleStore_lost :
    findEmitterSequenceGap sampleOrder (sampleStore [5]) sampleEmitter 10 =
      some (.ok { resp := [0, 1, 2, 3, 4], firstSeq := 0, lastSeq := 5 }) ∧
    (∀ n, n ∈ (sampleStore [5]).sequences sampleEmitter ↔ n = 5) ∧
    ¬∃ fuel gap, findEmitterSequenceGap sampleOrder (sampleStore [5]) sampleEmitter fuel = some (.ok gap) ∧
      gap.Correct ((sampleStore [5]).sequences sampleEmitter) := by
  have hstored : ∀ n, n ∈ (sampleStore [5]).sequences sampleEmitter ↔ n = 5 := by
    intro n
    rw [mem_sampleStore, List.mem_singleton]
  refine ⟨?_, hstored, ?_⟩
  · rw [findEmitterSequenceGap, Store.scanEmitter,
      scan_eq_filter (startsAt_hasPrefix _) (sampleStore [5]).sorted]
    decide +kernel
  rintro ⟨fuel, gap, hfind, hcorrect⟩
  obtain ⟨seqs, -, hgap⟩ := findEmitterSequenceGap_eq_ok hfind
  have hfirst := (hcorrect.firstSeq ⟨5, (hstored 5).mpr rfl⟩).1
  rw [(findGap_eq_some sampleOrder hgap).1, hstored] at hfirst
  exact absurd hfirst (by decide)

end Wormhole.Guardian

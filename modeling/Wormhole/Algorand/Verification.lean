/-
# Wormhole.Algorand.Verification — when a committed VAA has a quorum.

The loop over the signatures of a step ends at the first guardian index that is not below the signature count, and
that count is an argument of the step: the signatures behind it are not looked at.  The steps are checked against
their own notes, which need not be the one that is committed, and the first transaction of a long group is not
checked to be a step at all.

`committed_sound_iff` says which groups commit what a quorum has signed: those whose steps for the committed note
have enough signatures before that end.  `unsigned_committed` is a group that commits without any.
-/
import Mathlib
import Wormhole.Lib.Bytes
import Wormhole.Algorand.VaaProcessor

namespace Wormhole.Algorand

open Wormhole.Lib.Bytes

/-! ## Quorum -/

/-- The guardians of a quorum. -/
def quorum (numGuardians : Nat) : Nat := 2 * numGuardians / 3 + 1

section

variable (env : Environment) (s : State) (appId : Nat) (group : List Txn)

/-- A step of the group has recovered a signature over the note to the stored key of the guardian. -/
def Recovered (note : List UInt8) (guardian : Nat) : Prop :=
  ∃ t tx recoveries key, group[t]? = some tx ∧ tx.sender = s.vphash ∧ tx.note = note ∧
    vaaVerifyProgram env appId group.length t tx = some recoveries ∧ ⟨guardian, key⟩ ∈ recoveries ∧
    s.guardians[guardian]? = some key

/-- The signatures, from the one at `si`, before the first guardian index that is not below the count. -/
def leadingFrom (signatures : List UInt8) (vaaSignatureCount : Nat) : Nat → Nat → Nat
  | 0, _ => 0
  | fuel + 1, si =>
    match signatures[si]? with
    | none => 0
    | some gi => if gi.toNat < vaaSignatureCount then leadingFrom signatures vaaSignatureCount fuel (si + 66) + 1 else 0

/-- The signatures of a step before the end of its loop. -/
def leading (tx : Txn) : Nat :=
  match tx.logicSigArgs with
  | signatures :: vaaSignatureCount :: _ => leadingFrom signatures (beNat vaaSignatureCount) signatures.length 0
  | _ => 0

/-- Those of the transaction `t`, if it is a step for the note. -/
def leadingAt (note : List UInt8) (t : Nat) : Nat :=
  match group[t]? with
  | some tx => if tx.sender = s.vphash ∧ tx.note = note then leading tx else 0
  | none => 0

/-- The signatures of all steps for the note. -/
def examined (note : List UInt8) : Nat := ∑ t ∈ Finset.range (group.length - 1), leadingAt s group note t

end

/-! ## The loop over the signatures -/

section Loop

variable {env : Environment} {signatures digest keys : List UInt8} {vaaSignatureCount groupIndex : Nat}

theorem extract_one {bytes b : List UInt8} {i : Nat} (h : extract bytes i 1 = some b) :
    ∃ x, bytes[i]? = some x ∧ b = [x] := by
  obtain ⟨-, hle, rfl⟩ := slice?_eq_some.mp h
  have hlt : i < bytes.length := by omega
  refine ⟨bytes[i], List.getElem?_eq_getElem hlt, ?_⟩
  rw [Nat.add_sub_cancel_left, List.drop_eq_getElem_cons hlt]
  rfl

/-- **The loop** recovers the leading signatures, in order, each to the key at its place. -/
theorem sigCheckFrom_eq_some {fuel si ki i : Nat} {recoveries : List Recovery}
    (h : sigCheckFrom env signatures digest keys vaaSignatureCount groupIndex fuel si ki i = some recoveries) :
    recoveries.length = leadingFrom signatures vaaSignatureCount fuel si ∧
      ∀ k r, recoveries[k]? = some r →
        r.guardian = i + k + groupIndex * 8 ∧ extract keys (ki + k * 20) 20 = some r.key := by
  induction fuel generalizing si ki i recoveries with
  | zero =>
    obtain rfl := Option.some.inj h
    exact ⟨rfl, nofun⟩
  | succ fuel ih =>
    unfold sigCheckFrom at h
    unfold leadingFrom
    split at h
    · obtain ⟨b, hbyte, h⟩ := Option.bind_eq_some_iff.mp h
      obtain ⟨gi, hgi, h⟩ := Option.bind_eq_some_iff.mp h
      obtain ⟨x, hx, rfl⟩ := extract_one hbyte
      obtain rfl : gi = x.toNat := by
        simpa [btoi, beNat_singleton] using hgi.symm
      rw [hx]
      split at h
      · rename_i hge
        obtain rfl := Option.some.inj h
        show [].length = (if x.toNat < vaaSignatureCount then _ else 0) ∧ _
        rw [if_neg (not_lt.mpr hge)]
        exact ⟨rfl, nofun⟩
      · rename_i hlt
        obtain ⟨_, hindex, h⟩ := Option.bind_eq_some_iff.mp h
        obtain ⟨_, -, h⟩ := Option.bind_eq_some_iff.mp h
        obtain ⟨v, -, h⟩ := Option.bind_eq_some_iff.mp h
        obtain ⟨_, -, h⟩ := Option.bind_eq_some_iff.mp h
        obtain ⟨_, -, h⟩ := Option.bind_eq_some_iff.mp h
        obtain ⟨⟨px, py⟩, -, h⟩ := Option.bind_eq_some_iff.mp h
        obtain ⟨key, hkey, h⟩ := Option.bind_eq_some_iff.mp h
        obtain ⟨address, -, h⟩ := Option.bind_eq_some_iff.mp h
        obtain ⟨_, hsame, h⟩ := Option.bind_eq_some_iff.mp h
        obtain ⟨rest, hrest, h⟩ := Option.bind_eq_some_iff.mp h
        obtain rfl := assert_eq_some.mp hsame
        obtain rfl := Option.some.inj h
        obtain ⟨hlength, hall⟩ := ih hrest
        show (_ :: rest).length = (if x.toNat < vaaSignatureCount then _ else 0) ∧ _
        rw [if_pos (not_le.mp hlt), List.length_cons, hlength]
        refine ⟨rfl, ?_⟩
        intro k r hk
        cases k with
        | zero =>
          obtain rfl := Option.some.inj hk
          refine ⟨assert_eq_some.mp hindex, ?_⟩
          rwa [Nat.zero_mul, Nat.add_zero]
        | succ k =>
          obtain ⟨hguardian, hslice⟩ := hall k r hk
          refine ⟨by rw [hguardian]; omega, ?_⟩
          rw [← hslice]
          congr 1
          omega
    · rename_i hend
      obtain rfl := Option.some.inj h
      rw [List.getElem?_eq_none (not_lt.mp hend)]
      exact ⟨rfl, nofun⟩

/-- There are not more leading signatures than signatures. -/
theorem leadingFrom_le {count : Nat} (hlength : signatures.length = count * 66) (fuel k : Nat) :
    leadingFrom signatures vaaSignatureCount fuel (k * 66) ≤ count - k := by
  induction fuel generalizing k with
  | zero => exact Nat.zero_le _
  | succ fuel ih =>
    unfold leadingFrom
    split
    · exact Nat.zero_le _
    · rename_i gi hgi
      split
      · have hlt := (List.getElem?_eq_some_iff.mp hgi).1
        have hnext := ih (k + 1)
        rw [Nat.add_mul, Nat.one_mul] at hnext
        omega
      · exact Nat.zero_le _

end Loop

/-! ## The steps -/

section Steps

variable {env : Environment} {s : State} {appId : Nat} {group : List Txn} {tx : Txn} {t : Nat}
  {slots : List (Option TealValue)}

theorem getSigCountInStep_le (step numGuardians : Nat) : getSigCountInStep step numGuardians ≤ 8 := by
  have hmod := Nat.mod_lt numGuardians (show 0 < 8 by decide)
  unfold getSigCountInStep MAX_SIGNATURES_PER_VERIFICATION_STEP
  split
  · exact le_rfl
  · split
    · exact le_rfl
    · exact hmod.le

/-- All guardians have their place in the steps. -/
theorem le_getGroupSize (numGuardians : Nat) : numGuardians ≤ getGroupSize numGuardians * 8 := by
  unfold getGroupSize ceil MAX_SIGNATURES_PER_VERIFICATION_STEP
  split <;> omega

/-- What the program has checked when it signs for a step. -/
structure Signs (appId groupSize t : Nat) (tx : Txn) (recoveries : List Recovery) : Prop where
  applicationId : tx.applicationId = appId
  typeEnum : tx.typeEnum = .applicationCall
  length_eq : recoveries.length = leading tx
  leading_le : leading tx ≤ 8
  bounded : ∀ {size numGuardians}, tx.applicationArgs[2]? = some size → btoi size = some numGuardians →
    leading tx ≤ getSigCountInStep t numGuardians
  recovered : ∀ {keys}, tx.applicationArgs[1]? = some keys → ∀ k r, recoveries[k]? = some r →
    r.guardian = k + t * 8 ∧ extract keys (k * 20) 20 = some r.key
  guardian : ∀ r ∈ recoveries, t * 8 ≤ r.guardian

theorem vaaVerifyProgram_signs {groupSize : Nat} {recoveries : List Recovery}
    (h : vaaVerifyProgram env appId groupSize t tx = some recoveries) : Signs appId groupSize t tx recoveries := by
  simp only [vaaVerifyProgram, Option.bind_eq_bind, Option.bind_eq_some_iff, assert_eq_some] at h
  obtain ⟨signatures, hsignatures, count, hcount, vaaSignatureCount, hbtoi, _, -, _, -, keys, hkeys, size, hsize,
    numGuardians, hnum, minimum, -, _, -, _, hlength, _, -, _, happ, _, htype, _, -, h⟩ := h
  have hleading : leading tx = leadingFrom signatures vaaSignatureCount signatures.length 0 := by
    obtain ⟨rest, hargs⟩ : ∃ rest, tx.logicSigArgs = signatures :: count :: rest := by
      rcases hargs : tx.logicSigArgs with _ | ⟨a, _ | ⟨b, rest⟩⟩
      · simp [hargs] at hsignatures
      · simp [hargs] at hcount
      · simp only [hargs, List.getElem?_cons_zero, List.getElem?_cons_succ, Option.some.injEq] at hsignatures hcount
        exact ⟨rest, by rw [hsignatures, hcount]⟩
    rw [leading, hargs]
    unfold btoi at hbtoi
    split at hbtoi
    · rw [← Option.some.inj hbtoi]
    · cases hbtoi
  obtain ⟨hcount', hall⟩ := sigCheckFrom_eq_some h
  have hle : leading tx ≤ getSigCountInStep t numGuardians := by
    rw [hleading]
    have hle : leadingFrom signatures vaaSignatureCount signatures.length (0 * 66) ≤ _ :=
      leadingFrom_le hlength signatures.length 0
    rwa [Nat.zero_mul, Nat.sub_zero] at hle
  have hplace : ∀ k r, recoveries[k]? = some r → r.guardian = k + t * 8 ∧ extract keys (k * 20) 20 = some r.key := by
    intro k r hk
    have hr := hall k r hk
    simpa only [Nat.zero_add] using hr
  refine ⟨happ, htype, by rw [hcount', hleading], hle.trans (getSigCountInStep_le ..), ?_, ?_, ?_⟩
  · intro size' numGuardians' hsize' hnum'
    rw [hsize] at hsize'
    obtain rfl := Option.some.inj hsize'
    rw [hnum] at hnum'
    obtain rfl := Option.some.inj hnum'
    exact hle
  · intro keys' hkeys'
    rw [hkeys] at hkeys'
    obtain rfl := Option.some.inj hkeys'
    exact hplace
  · intro r hr
    obtain ⟨k, hk⟩ := List.mem_iff_getElem?.mp hr
    rw [(hplace k r hk).1]
    exact Nat.le_add_left _ _

theorem forM_eq_some {α : Type} {f : α → Option Unit} {l : List α} {u : Unit} (h : l.forM f = some u) :
    ∀ a ∈ l, f a = some () := by
  induction l with
  | nil => nofun
  | cons b l ih =>
    obtain ⟨_, hb, hl⟩ := Option.bind_eq_some_iff.mp h
    intro a ha
    rcases List.mem_cons.mp ha with rfl | ha
    · exact hb
    · exact ih hl a ha

/-- The keys of a step are those of the guardians. -/
structure Checked (s : State) (t : Nat) (tx : Txn) : Prop where
  keys : ∃ keys, tx.applicationArgs[1]? = some keys ∧ ∀ k, k < getSigCountInStep t s.numGuardians →
    ∃ stored, s.guardians[k + t * 8]? = some stored ∧ extract keys (k * 20) 20 = some stored
  size : ∃ size, tx.applicationArgs[2]? = some size ∧ btoi size = some s.numGuardians

theorem verifyChecks_checked {value : TealValue} (h : verifyChecks s appId group t tx slots = some value) :
    Checked s t tx ∧ group.length = getGroupSize s.numGuardians + 1 ∧ tx.sender = s.vphash := by
  simp only [verifyChecks, Option.bind_eq_bind, Option.bind_eq_some_iff, assert_eq_some] at h
  obtain ⟨_, hlength, last, -, _, -, _, -, _, -, _, hsender, size, hsize, num, hnum, _, hsame, keys, hkeys, _, hsubset,
    -⟩ := h
  subst hsame
  refine ⟨⟨⟨keys, hkeys, ?_⟩, size, hsize, hnum⟩, hlength, hsender⟩
  intro k hk
  have hkey := forM_eq_some hsubset k (List.mem_range.mpr hk)
  simp only [Option.bind_eq_bind, Option.bind_eq_some_iff, assert_eq_some] at hkey
  obtain ⟨stored, hstored, key, hkey, rfl⟩ := hkey
  refine ⟨stored, ?_, hkey⟩
  rwa [MAX_SIGNATURES_PER_VERIFICATION_STEP, Nat.mul_comm] at hstored

/-- The last step looks at the bits of the others. -/
theorem verifyChecks_final {value : TealValue} (h : verifyChecks s appId group t tx slots = some value)
    (hlast : t = group.length - 2) : checkFinalVerificationState appId group slots = some () := by
  simp only [verifyChecks, Option.bind_eq_bind, Option.bind_eq_some_iff] at h
  obtain ⟨_, -, _, -, _, -, _, -, _, -, _, -, _, -, _, -, _, -, _, -, _, -, h⟩ := h
  rw [if_pos hlast] at h
  obtain ⟨_, hfinal, -⟩ := Option.bind_eq_some_iff.mp h
  exact hfinal

/-- A call that leaves a bit has passed the checks of a step. -/
theorem vaaProcessorProgram_bit {value : TealValue} (h : vaaProcessorProgram s appId group t tx slots = some value)
    (hbit : value.getBit t = some true) : Checked s t tx := by
  have hzero : (TealValue.uint 0).getBit t ≠ some true := by
    show (if t < 64 then some (Nat.testBit 0 t) else none) ≠ some true
    split
    · rw [Nat.zero_testBit]
      nofun
    · nofun
  unfold vaaProcessorProgram at h
  split at h
  · obtain ⟨_, -, h⟩ := Option.bind_eq_some_iff.mp h
    rw [← Option.some.inj h] at hbit
    exact absurd hbit hzero
  · obtain ⟨_, -, h⟩ := Option.bind_eq_some_iff.mp h
    rw [← Option.some.inj h] at hbit
    exact absurd hbit hzero
  · obtain ⟨method, -, h⟩ := Option.bind_eq_some_iff.mp h
    split at h
    · obtain ⟨_, -, h⟩ := Option.bind_eq_some_iff.mp h
      rw [← Option.some.inj h] at hbit
      exact absurd hbit hzero
    · split at h
      · obtain ⟨bits, hchecks, -⟩ := Option.bind_eq_some_iff.mp h
        exact (verifyChecks_checked hchecks).1
      · obtain ⟨_, -, h⟩ := Option.bind_eq_some_iff.mp h
        rw [← Option.some.inj h] at hbit
        exact absurd hbit hzero
  · rw [← Option.some.inj h] at hbit
    exact absurd hbit hzero
  · cases h

/-- What the earlier transactions have left. -/
theorem runTo_eq_some {m : Nat} (h : runTo s appId group m = some slots) :
    slots.length = m ∧ ∀ t tx, t < m → group[t]? = some tx →
      ∃ earlier slot, runTxn s appId group t tx earlier = some slot ∧ slots[t]? = some slot := by
  induction m generalizing slots with
  | zero =>
    obtain rfl := Option.some.inj h
    exact ⟨rfl, nofun⟩
  | succ m ih =>
    simp only [runTo, Option.bind_eq_bind, Option.bind_eq_some_iff] at h
    obtain ⟨earlier, hearlier, tx, htx, slot, hslot, h⟩ := h
    obtain rfl := Option.some.inj h
    obtain ⟨hlength, hall⟩ := ih hearlier
    refine ⟨by rw [List.length_append, hlength]; rfl, ?_⟩
    intro t tx' ht htx'
    rcases Nat.lt_succ_iff_lt_or_eq.mp ht with hlt | rfl
    · obtain ⟨earlier', slot', hrun, hslot'⟩ := hall t tx' hlt htx'
      exact ⟨earlier', slot', hrun, by rw [List.getElem?_append_left (by omega), hslot']⟩
    · obtain rfl := Option.some.inj (htx.symm.trans htx')
      refine ⟨earlier, slot, hslot, ?_⟩
      rw [← hlength, List.getElem?_concat_length]

end Steps

/-! ## Committed groups -/

section Committed

variable {env : Environment} {s : State} {appId : Nat} {group : List Txn} {tx : Txn} {note : List UInt8}

theorem authorized_signs (h : authorized s appId group env = true) {t : Nat} {tx : Txn} (htx : group[t]? = some tx)
    (hsender : tx.sender = s.vphash) :
    ∃ recoveries, vaaVerifyProgram env appId group.length t tx = some recoveries := by
  have hall := List.all_eq_true.mp h (tx, t) (List.mk_mem_zipIdx_iff_getElem?.mpr htx)
  rw [decide_eq_true_eq] at hall
  exact Option.isSome_iff_exists.mp (hall.resolve_left (not_not.mpr hsender))

theorem committing_authorized (h : committing s appId group env = some tx) : authorized s appId group env = true := by
  obtain ⟨_, hauthorized, -⟩ := Option.bind_eq_some_iff.mp h
  exact assert_eq_some.mp hauthorized

/-- **In a group that commits,** every transaction that the program has signed for, but for the last, has passed the
checks of a step. -/
theorem committing_checked (h : committing s appId group env = some tx) :
    group.length = getGroupSize s.numGuardians + 1 ∧ 2 ≤ group.length ∧
      ∀ t tx', t < group.length - 1 → group[t]? = some tx' → tx'.sender = s.vphash → Checked s t tx' := by
  simp only [committing, Option.bind_eq_bind, Option.bind_eq_some_iff, assert_eq_some] at h
  obtain ⟨_, hauthorized, last, hlast, tx₁, htx₁, slots, hslots, _, -, value, hchecks, h⟩ := h
  have hsub : 2 ≤ group.length ∧ last = group.length - 2 := by
    unfold subU64 at hlast
    split at hlast
    · rename_i hle
      exact ⟨hle, (Option.some.inj hlast).symm⟩
    · cases hlast
  obtain ⟨htwo, rfl⟩ := hsub
  obtain ⟨hchecked, hlength, -⟩ := verifyChecks_checked hchecks
  refine ⟨hlength, htwo, ?_⟩
  intro t tx' ht htx' hsender
  by_cases heq : t = group.length - 2
  · subst heq
    obtain rfl := Option.some.inj (htx₁.symm.trans htx')
    exact hchecked
  · have hlt : t < group.length - 2 := by omega
    obtain ⟨recoveries, hsigns⟩ := authorized_signs hauthorized htx' hsender
    have hsigns := vaaVerifyProgram_signs hsigns
    obtain ⟨-, hall⟩ := runTo_eq_some hslots
    obtain ⟨earlier, slot, hrun, hslot⟩ := hall t tx' hlt htx'
    rw [runTxn, if_pos hsigns.typeEnum, if_pos hsigns.applicationId] at hrun
    obtain ⟨value', hprogram, rfl⟩ := Option.map_eq_some_iff.mp hrun
    -- the committing step has looked at the bit
    have hbit := forM_eq_some (verifyChecks_final hchecks rfl) t (List.mem_range.mpr hlt)
    simp only [Option.bind_eq_bind, Option.bind_eq_some_iff, assert_eq_some, hslot] at hbit
    obtain ⟨_, -, _, -, _, -, slot, hslot', value'', hvalue, bit, hbit, rfl⟩ := hbit
    rw [← Option.some.inj hslot'] at hvalue
    obtain rfl := Option.some.inj hvalue
    exact vaaProcessorProgram_bit hprogram hbit

section Counting

variable (s group) in
/-- The guardians of the leading signatures. -/
def examinedGuardians (note : List UInt8) : Finset Nat :=
  (Finset.range (group.length - 1)).biUnion fun t => (Finset.range (leadingAt s group note t)).image (· + t * 8)

theorem leadingAt_pos {t : Nat} (h : 0 < leadingAt s group note t) :
    ∃ tx, group[t]? = some tx ∧ tx.sender = s.vphash ∧ tx.note = note ∧ leadingAt s group note t = leading tx := by
  unfold leadingAt at h ⊢
  split at h
  · rename_i tx htx
    split at h
    · rename_i hstep
      rw [htx]
      exact ⟨tx, rfl, hstep.1, hstep.2, if_pos hstep⟩
    · cases h
  · cases h

theorem leadingAt_le (h : authorized s appId group env = true) (t : Nat) : leadingAt s group note t ≤ 8 := by
  rcases Nat.eq_zero_or_pos (leadingAt s group note t) with hzero | hpos
  · rw [hzero]
    exact Nat.zero_le _
  · obtain ⟨tx, htx, hsender, -, heq⟩ := leadingAt_pos hpos
    obtain ⟨recoveries, hsigns⟩ := authorized_signs h htx hsender
    rw [heq]
    exact (vaaVerifyProgram_signs hsigns).leading_le

/-- The steps examine different guardians. -/
theorem card_examinedGuardians (h : authorized s appId group env = true) :
    (examinedGuardians s group note).card = examined s group note := by
  rw [examinedGuardians, Finset.card_biUnion]
  · apply Finset.sum_congr rfl
    intro t _
    rw [Finset.card_image_of_injective _ (add_left_injective _), Finset.card_range]
  · intro t _ t' _ hne
    rw [Function.onFun, Finset.disjoint_left]
    intro j hj hj'
    obtain ⟨k, hk, rfl⟩ := Finset.mem_image.mp hj
    obtain ⟨k', hk', heq⟩ := Finset.mem_image.mp hj'
    have hlt := (Finset.mem_range.mp hk).trans_le (leadingAt_le h t)
    have hlt' := (Finset.mem_range.mp hk').trans_le (leadingAt_le h t')
    omega

/-- **What a committed group has recovered** are the leading signatures. -/
theorem recovered_iff (h : committing s appId group env = some tx) {guardian : Nat} :
    Recovered env s appId group note guardian ↔ guardian ∈ examinedGuardians s group note := by
  obtain ⟨hlength, -, hchecked⟩ := committing_checked h
  have hauthorized := committing_authorized h
  simp only [examinedGuardians, Finset.mem_biUnion, Finset.mem_image, Finset.mem_range]
  constructor
  · rintro ⟨t, step, recoveries, key, hstep, hsender, hnote, hprogram, hmem, hstored⟩
    have hsigns := vaaVerifyProgram_signs hprogram
    have ht : t < group.length - 1 := by
      have hlt := (List.getElem?_eq_some_iff.mp hstep).1
      have hguardian := (List.getElem?_eq_some_iff.mp hstored).1
      have hplace := hsigns.guardian _ hmem
      have hsize := le_getGroupSize s.numGuardians
      rw [State.numGuardians] at hsize hlength
      dsimp only at hplace
      omega
    obtain ⟨⟨keys, hkeys, -⟩, -⟩ := hchecked t step ht hstep hsender
    obtain ⟨k, hk⟩ := List.mem_iff_getElem?.mp hmem
    refine ⟨t, ht, k, ?_, ((hsigns.recovered hkeys k _ hk).1).symm⟩
    rw [leadingAt, hstep]
    show k < if step.sender = s.vphash ∧ step.note = note then leading step else 0
    rw [if_pos ⟨hsender, hnote⟩, ← hsigns.length_eq]
    exact (List.getElem?_eq_some_iff.mp hk).1
  · rintro ⟨t, ht, k, hk, rfl⟩
    obtain ⟨step, hstep, hsender, hnote, heq⟩ := leadingAt_pos (Nat.zero_lt_of_lt hk)
    rw [heq] at hk
    obtain ⟨recoveries, hprogram⟩ := authorized_signs hauthorized hstep hsender
    have hsigns := vaaVerifyProgram_signs hprogram
    obtain ⟨⟨keys, hkeys, hsubset⟩, size, hsize, hnum⟩ := hchecked t step ht hstep hsender
    obtain ⟨stored, hstored, hkey⟩ := hsubset k (hk.trans_le (hsigns.bounded hsize hnum))
    have hlt : k < recoveries.length := by
      rw [hsigns.length_eq]
      exact hk
    have hrecovery : recoveries[k]? = some recoveries[k] := List.getElem?_eq_getElem hlt
    obtain ⟨hguardian, hslice⟩ := hsigns.recovered hkeys k _ hrecovery
    have heq : recoveries[k] = ⟨k + t * 8, stored⟩ := by
      rw [← hguardian, ← Option.some.inj (hslice.symm.trans hkey)]
    refine ⟨t, step, recoveries, stored, hstep, hsender, hnote, hprogram, ?_, hstored⟩
    rw [← heq]
    exact List.getElem_mem hlt

end Counting

/-- **Which groups commit what a quorum has signed.** -/
theorem committed_sound_iff (h : committing s appId group env = some tx) :
    (∃ guardians : Finset Nat, quorum s.numGuardians ≤ guardians.card ∧
      ∀ guardian ∈ guardians, Recovered env s appId group tx.note guardian) ↔
    quorum s.numGuardians ≤ examined s group tx.note := by
  have hcard : (examinedGuardians s group tx.note).card = _ := card_examinedGuardians (committing_authorized h)
  constructor
  · rintro ⟨guardians, hquorum, hrecovered⟩
    rw [← hcard]
    apply hquorum.trans
    apply Finset.card_le_card
    intro guardian hguardian
    exact (recovered_iff h).mp (hrecovered guardian hguardian)
  · intro hquorum
    refine ⟨examinedGuardians s group tx.note, by rwa [hcard], ?_⟩
    intro guardian hguardian
    exact (recovered_iff h).mpr hguardian

end Committed

/-! ## Groups of one step, and of two -/

section Samples

/-- Hashes are padded or cut to 32 bytes, and a signature is its public key. -/
def sampleEnvironment : Environment where
  keccak256 := fun bytes => (bytes ++ List.replicate 32 0x00).take 32
  ecdsaPkRecover := fun _ _ r s => some (r, s)

def sampleVphash : List UInt8 := List.replicate 32 0x77

/-- One guardian. -/
def sampleState : State where
  creator := List.replicate 32 0x01
  vphash := sampleVphash
  authid := 9
  guardians := [List.replicate 20 0x11]

/-- The step with the argument of the program, for a price message. -/
def sampleStep (signature : List UInt8) : Txn where
  typeEnum := .applicationCall
  sender := sampleVphash
  fee := 1000
  note := List.replicate 8 0x00 ++ [0x00, 0x01] ++ PYTH2WORMHOLE_EMITTER_ID
  rekeyTo := List.replicate 32 0x00
  applicationId := 7
  onCompletion := .noOp
  applicationArgs := [verifyMethod, List.replicate 20 0x11, [0x01]]
  logicSigArgs := [signature, [0x02]]
  slot := .uint 0

/-- The consumer of the VAA. -/
def sampleConsumer : Txn where
  typeEnum := .applicationCall
  sender := List.replicate 32 0x01
  fee := 1000
  note := []
  rekeyTo := List.replicate 32 0x00
  applicationId := 9
  onCompletion := .noOp
  applicationArgs := []
  logicSigArgs := []
  slot := .uint 0

/-- The guardian index is 255, and nothing is signed. -/
def unsignedStep : Txn := sampleStep (0xff :: List.replicate 65 0x00)

/-- **A VAA without a signature** is committed. -/
theorem unsigned_committed :
    committing sampleState 7 [unsignedStep, sampleConsumer] sampleEnvironment = some unsignedStep ∧
    commitVaa unsignedStep.note = some () ∧
    ¬∃ guardians : Finset Nat, quorum sampleState.numGuardians ≤ guardians.card ∧ ∀ guardian ∈ guardians,
      Recovered sampleEnvironment sampleState 7 [unsignedStep, sampleConsumer] unsignedStep.note guardian := by
  have hcommits : committing sampleState 7 [unsignedStep, sampleConsumer] sampleEnvironment = some unsignedStep := by
    decide
  refine ⟨hcommits, by decide, ?_⟩
  rintro ⟨guardians, hquorum, hrecovered⟩
  have hnone : examinedGuardians sampleState [unsignedStep, sampleConsumer] unsignedStep.note = ∅ := by
    decide
  obtain ⟨guardian, hguardian⟩ := Finset.card_pos.mp (Nat.zero_lt_of_lt hquorum)
  have hmem := (recovered_iff hcommits).mp (hrecovered guardian hguardian)
  rw [hnone] at hmem
  cases hmem

/-- Twelve guardians, nine of which are a quorum. -/
def twelveGuardians : State :=
  { sampleState with guardians := (List.range 12).map fun i => List.replicate 20 (UInt8.ofNat (0x11 + i)) }

/-- The signature of a guardian. -/
def sampleSignature (i : Nat) : List UInt8 :=
  UInt8.ofNat i :: (List.replicate 32 (UInt8.ofNat (0x11 + i)) ++ List.replicate 33 0x00)

/-- A step for some of them, of a VAA with ten signatures. -/
def splitStep (guardians : List Nat) : Txn :=
  { sampleStep [] with
    applicationArgs := [verifyMethod,
      guardians.flatMap fun i => List.replicate 20 (UInt8.ofNat (0x11 + i)), [0x0c]]
    logicSigArgs := [guardians.flatMap sampleSignature, [0x0a]] }

/-- Eight signatures are checked in the first step, and two of the four in the second. -/
def splitGroup : List Txn := [splitStep (List.range 8), splitStep [8, 9, 10, 11], sampleConsumer]

/-- A VAA with a quorum of signatures is committed, of which neither step alone has enough. -/
theorem signed_committed :
    (leading (splitStep (List.range 8)) = 8 ∧ leading (splitStep [8, 9, 10, 11]) = 2) ∧
    ∃ guardians : Finset Nat, quorum twelveGuardians.numGuardians ≤ guardians.card ∧ ∀ guardian ∈ guardians,
      Recovered sampleEnvironment twelveGuardians 7 splitGroup (splitStep [8, 9, 10, 11]).note guardian := by
  have hcommits : committing twelveGuardians 7 splitGroup sampleEnvironment = some (splitStep [8, 9, 10, 11]) := by
    decide +kernel
  have hexamined : quorum twelveGuardians.numGuardians ≤
      examined twelveGuardians splitGroup (splitStep [8, 9, 10, 11]).note := by decide +kernel
  exact ⟨by decide +kernel, (committed_sound_iff hcommits).mpr hexamined⟩

end Samples

end Wormhole.Algorand

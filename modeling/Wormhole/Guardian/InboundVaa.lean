/-
# Wormhole.Guardian.InboundVaa — VAAs received from the gossip network.

`handleInboundSignedVAAWithQuorum` (`node/pkg/processor/observation.go`) verifies a received VAA
against the node's guardian set and stores it when it has as many signatures as the quorum asks for.
The signatures are counted, not the guardians: `stored_distinct_iff` says that a stored VAA is signed
by a quorum of guardians exactly when that many different indices occur among its signatures.
-/
import Mathlib
import Wormhole.Guardian.Db

namespace Wormhole.Guardian

open Wormhole.Lib.Bytes

/-! ## The handler -/

/-- `common.GuardianSet`. -/
structure GuardianSet where
  Keys : List EthAddress
  Index : UInt32

/-- The part of the processor the handler reads and writes: the guardian set, nil until the first one
is received, the store, and the VAAs reported to `attestationEvents`. -/
structure Processor where
  gs : Option GuardianSet
  db : Database
  reported : List VAA

/-- Which badger transactions of the call fail. -/
structure DbFaults where
  view : Bool
  update : Bool

/-- `CalculateQuorum`. -/
def calculateQuorum (numGuardians : Nat) : Nat := ((numGuardians * 10 / 3) * 2) / 10 + 1

/-- `handleInboundSignedVAAWithQuorum`: the processor afterwards, or the message of a panic.  Every
other exit of the source logs and returns. -/
def handleInboundSignedVAAWithQuorum (crypto : Crypto) (p : Processor) (m : List UInt8)
    (faults : DbFaults) : Except String Processor :=
  match unmarshal m with
  | .error _ => .ok p -- received invalid VAA
  | .ok v =>
    match p.gs with
    | none => .ok p -- we haven't initialized our guardian set yet
    | some gs =>
      -- Verify VAA signature to prevent a DoS attack on our local store.
      if !verifySignatures crypto v gs.Keys then .ok p
      else if v.signatures.length < calculateQuorum gs.Keys.length then .ok p
      else
        -- Check if we already store this VAA
        match getSignedVAABytes p.db (vaaIDFromVAA v) faults.view with
        | .found _ => .ok p
        | .failed => .ok p
        | .ErrVAANotFound =>
          match storeSignedVAA p.db v faults.update with
          | .panic msg => .error msg
          | .failed => .ok p
          | .done db => .ok { p with db, reported := p.reported ++ [v] }

/-! ## Stored VAAs -/

/-- The call stores `v`, which was not there before. -/
def Stores (crypto : Crypto) (p : Processor) (m : List UInt8) (faults : DbFaults) (v : VAA) : Prop :=
  unmarshal m = .ok v ∧ p.db (vaaIDFromVAA v).bytes = none ∧
    ∃ p', handleInboundSignedVAAWithQuorum crypto p m faults = .ok p' ∧
      p'.db (vaaIDFromVAA v).bytes = some (marshal v)

/-- At least a quorum of different guardian indices have a signature in `v` that recovers to the key
at that index. -/
def SignedByQuorum (crypto : Crypto) (gs : GuardianSet) (v : VAA) : Prop :=
  ∃ I : Finset Nat, calculateQuorum gs.Keys.length ≤ I.card ∧ ∀ i ∈ I, ∃ sig ∈ v.signatures,
    sig.index.toNat = i ∧ ∃ pubKey, crypto.Ecrecover (signingMsg crypto v) sig.signature = some pubKey ∧
      gs.Keys[i]? = some (pubKeyAddress crypto pubKey)

/-- The different guardian indices among the signatures. -/
def signerIndices (v : VAA) : Finset Nat := (v.signatures.map (·.index.toNat)).toFinset

/-- What the handler has checked of a VAA it stores. -/
theorem Stores.checked {crypto : Crypto} {p : Processor} {m : List UInt8} {faults : DbFaults} {v : VAA}
    (h : Stores crypto p m faults v) : ∃ gs, p.gs = some gs ∧
      verifySignatures crypto v gs.Keys = true ∧
      calculateQuorum gs.Keys.length ≤ v.signatures.length := by
  obtain ⟨hv, hfresh, p', hrun, hstored⟩ := h
  have hchanged : p' ≠ p := by
    rintro rfl
    rw [hfresh] at hstored
    cases hstored
  unfold handleInboundSignedVAAWithQuorum at hrun
  rw [hv] at hrun
  cases hgs : p.gs with
  | none =>
    rw [hgs] at hrun
    exact absurd (Except.ok.inj hrun).symm hchanged
  | some gs =>
    rw [hgs] at hrun
    dsimp only at hrun
    split at hrun
    · exact absurd (Except.ok.inj hrun).symm hchanged
    · split at hrun
      · exact absurd (Except.ok.inj hrun).symm hchanged
      · rename_i hverify hquorum
        exact ⟨gs, rfl, by simpa using hverify, by omega⟩

/-- The quorum is never 0. -/
theorem calculateQuorum_pos (n : Nat) : 0 < calculateQuorum n := by
  unfold calculateQuorum
  omega

/-- A new VAA that passes the checks is stored. -/
theorem stores_of_checked {crypto : Crypto} {p : Processor} {gs : GuardianSet} {m : List UInt8} {v : VAA}
    (hv : unmarshal m = .ok v) (hgs : p.gs = some gs)
    (hverify : verifySignatures crypto v gs.Keys = true)
    (hquorum : calculateQuorum gs.Keys.length ≤ v.signatures.length)
    (hfresh : p.db (vaaIDFromVAA v).bytes = none) :
    Stores crypto p m { view := false, update := false } v := by
  refine ⟨hv, hfresh, { p with
    db := Function.update p.db (vaaIDFromVAA v).bytes (some (marshal v))
    reported := p.reported ++ [v] }, ?_, Function.update_self _ _ _⟩
  have hsigned : v.signatures.length ≠ 0 := by
    have := calculateQuorum_pos gs.Keys.length
    omega
  simp [handleInboundSignedVAAWithQuorum, hv, hgs, hverify, Nat.not_lt.mpr hquorum,
    getSignedVAABytes, hfresh, storeSignedVAA, hsigned]

/-- **The handler never panics**: a VAA that passes the quorum test has a signature. -/
theorem handleInbound_no_panic (crypto : Crypto) (p : Processor) (m : List UInt8)
    (faults : DbFaults) : ∃ p', handleInboundSignedVAAWithQuorum crypto p m faults = .ok p' := by
  unfold handleInboundSignedVAAWithQuorum
  split
  · exact ⟨p, rfl⟩
  · rename_i v _
    split
    · exact ⟨p, rfl⟩
    · rename_i gs _
      split
      · exact ⟨p, rfl⟩
      · split
        · exact ⟨p, rfl⟩
        · rename_i hquorum
          have hsigned : v.signatures.length ≠ 0 := by
            have := calculateQuorum_pos gs.Keys.length
            omega
          split
          · exact ⟨p, rfl⟩
          · exact ⟨p, rfl⟩
          · rw [storeSignedVAA, if_neg hsigned]
            cases faults.update <;> exact ⟨_, rfl⟩

/-- **A stored VAA is signed by a quorum exactly when a quorum of indices occurs in it.** The keys
need not be distinct for this. -/
theorem stored_distinct_iff {crypto : Crypto} {p : Processor} {gs : GuardianSet} {m : List UInt8}
    {faults : DbFaults} {v : VAA} (hgs : p.gs = some gs) (h : Stores crypto p m faults v) :
    SignedByQuorum crypto gs v ↔ calculateQuorum gs.Keys.length ≤ (signerIndices v).card := by
  constructor
  · rintro ⟨I, hcard, hI⟩
    refine hcard.trans (Finset.card_le_card fun i hi => ?_)
    obtain ⟨sig, hsig, rfl, -⟩ := hI i hi
    exact List.mem_toFinset.mpr (List.mem_map_of_mem hsig)
  · intro hcard
    obtain ⟨gs', hgs', hverify, -⟩ := h.checked
    obtain rfl : gs = gs' := Option.some.inj (hgs.symm.trans hgs')
    have hvalid := ((verifySignatures_eq_true crypto).mp hverify).2
    refine ⟨signerIndices v, hcard, fun i hi => ?_⟩
    obtain ⟨sig, hsig, rfl⟩ := List.mem_map.mp (List.mem_toFinset.mp hi)
    obtain ⟨pubKey, hrecover, hkey⟩ := hvalid sig hsig
    exact ⟨sig, hsig, rfl, pubKey, hrecover, hkey⟩

/-! ## Inputs -/

theorem padded_length (bs : List UInt8) : ((bs ++ List.replicate 32 0x00).take 32).length = 32 := by simp

/-- Stand-ins for the cryptographic functions, to run the handler on an input: a signature is the
public key it recovers to. -/
def Crypto.sample : Crypto where
  Keccak256 := fun bs => ⟨(bs ++ List.replicate 32 0x00).take 32, padded_length bs⟩
  Ecrecover := fun _ sig => some sig

/-- The signature of guardian `i`, whose public key is 65 bytes `i`. -/
def sampleSignature (i : UInt8) : Signature := { index := i, signature := ⟨List.replicate 65 i, rfl⟩ }

/-- Three guardians with different keys. -/
def sampleGuardians : GuardianSet where
  Keys := [0, 1, 2].map fun i => ⟨List.replicate 20 i, by simp⟩
  Index := 4

/-- A node that stores nothing yet. -/
def sampleProcessor : Processor where
  gs := some sampleGuardians
  db := fun _ => none
  reported := []

/-- A one-byte message signed at the given indices. -/
def sampleInbound (indices : List UInt8) : VAA where
  version := 1
  guardianSetIndex := 4
  signatures := indices.map sampleSignature
  timestamp := { unix := 1650000000, nanosecond := 0 }
  nonce := 5
  sequence := 42
  consistencyLevel := 15
  emitterChain := 13
  emitterAddress := ⟨List.replicate 32 0x04, rfl⟩
  payload := [0x01]

theorem sampleInbound_stores {indices : List UInt8}
    (hread : unmarshal (marshal (sampleInbound indices)) = .ok (sampleInbound indices))
    (hverify : verifySignatures Crypto.sample (sampleInbound indices) sampleGuardians.Keys = true)
    (hquorum : calculateQuorum sampleGuardians.Keys.length ≤ indices.length) :
    Stores Crypto.sample sampleProcessor (marshal (sampleInbound indices))
      { view := false, update := false } (sampleInbound indices) :=
  stores_of_checked hread rfl hverify (by simpa [sampleInbound] using hquorum) rfl

theorem stored_distinct : SignedByQuorum Crypto.sample sampleGuardians (sampleInbound [0, 1, 2]) :=
  (stored_distinct_iff rfl (sampleInbound_stores (by decide +kernel) (by decide)
    (by decide))).mpr (by decide)

/-- **One guardian makes a quorum.** A VAA with three copies of the signature of guardian 0 is stored,
although the set has three guardians with different keys and needs all three. -/
theorem stored_repeated :
    sampleGuardians.Keys.Nodup ∧
    Stores Crypto.sample sampleProcessor (marshal (sampleInbound [0, 0, 0]))
      { view := false, update := false } (sampleInbound [0, 0, 0]) ∧
    ¬SignedByQuorum Crypto.sample sampleGuardians (sampleInbound [0, 0, 0]) := by
  refine ⟨by decide, sampleInbound_stores (by decide +kernel) (by decide)
    (by decide), ?_⟩
  rintro ⟨I, hcard, hI⟩
  have hsub : I ⊆ {0} := by
    intro i hi
    obtain ⟨sig, hsig, rfl, -⟩ := hI i hi
    have hsig' : sig = sampleSignature 0 := by simpa [sampleInbound] using hsig
    rw [hsig']
    decide
  have := Finset.card_le_card hsub
  have hthree : calculateQuorum sampleGuardians.Keys.length = 3 := by decide
  rw [hthree] at hcard
  simp at this
  omega

end Wormhole.Guardian

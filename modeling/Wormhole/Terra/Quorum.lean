/-
# Wormhole.Terra.Quorum — what an accepted VAA carries on Terra.

A VAA that `parse_and_verify_vaa` accepts is signed by a quorum of the live guardian set that it names and
was not executed before, as long as no stored set is empty (`verified`).  The contract does not see to
that: `quorum` asks for no signatures of an empty set, and an upgrade may name no keys
(`unsigned_accepted`).
-/
import Mathlib
import Wormhole.Lib.Bytes
import Wormhole.Lib.Mapping
import Wormhole.Lib.Transition
import Wormhole.Terra.Cosmwasm
import Wormhole.Terra.Core

namespace Wormhole.Terra.Core

open Wormhole.Lib Wormhole.Lib.Bytes Wormhole.Lib.Transition

variable {ρ κ : Type} {crypto : Crypto ρ κ} {api : Api}

/-! ## Signatures -/

/-- A signature of a VAA, with the index of its guardian. -/
structure VaaSignature where
  index : Nat
  signature : List UInt8
  recoveryId : Nat

/-- The signature at offset `pos`. -/
def signatureAt (data : List UInt8) (pos : Nat) : StdResult VaaSignature := do
  let index ← getU8 data pos
  let signature ← getBytes data (pos + ParsedVAA.SIG_DATA_POS) ParsedVAA.SIG_DATA_LEN
  let recoveryId ← getU8 data (pos + ParsedVAA.SIG_RECOVERY_POS)
  return { index, signature, recoveryId }

/-- The address a signature recovers to. -/
def recoveredAddress (crypto : Crypto ρ κ) (hash : List UInt8) (sig : VaaSignature) :
    Option (List UInt8) := do
  let recoverable ← crypto.recoverableSignature sig.signature sig.recoveryId
  let verifyKey ← crypto.recoverVerifyKey recoverable hash
  let point ← crypto.decompress verifyKey
  return (crypto.keccak256 (point.drop 1)).val.drop 12

theorem keysEqual_eq_true {a : κ} {b : List UInt8} :
    keysEqual crypto a b = true ↔
      ∃ point, crypto.decompress a = some point ∧ (crypto.keccak256 (point.drop 1)).val.drop 12 = b := by
  unfold keysEqual
  cases crypto.decompress a with
  | none => simp
  | some point => simp

/-- The signature recovers to the guardian whose index it has. -/
def OfGuardian (crypto : Crypto ρ κ) (hash : List UInt8) (addresses : List (List UInt8))
    (sig : VaaSignature) : Prop :=
  sig.index < addresses.length ∧ recoveredAddress crypto hash sig = addresses[sig.index]?

theorem verifySignature_eq_ok {data hash : List UInt8} {addresses : List (List UInt8)} {pos index : Nat}
    {lastIndex : Int} (h : verifySignature crypto data hash addresses pos lastIndex = .ok index) :
    ∃ sig, signatureAt data pos = .ok sig ∧ sig.index = index ∧ lastIndex < sig.index ∧
      OfGuardian crypto hash addresses sig := by
  simp only [verifySignature, Go.bind_eq_ok, ensure_eq_ok, okOr_eq_ok] at h
  obtain ⟨_, -, i, hindex, _, hlast, signature, hsignature, id, hid, recoverable, hdecode, verifyKey,
    hrecover, address, haddress, _, hequal, heq⟩ := h
  obtain rfl := Go.ok.inj heq
  refine ⟨⟨i, signature, id⟩, ?_, rfl, hlast, ?_, ?_⟩
  · simp only [signatureAt, hindex, hsignature, hid, Go.ok_bind]
    rfl
  · exact (List.getElem?_eq_some_iff.mp haddress).1
  · obtain ⟨point, hpoint, rfl⟩ := keysEqual_eq_true.mp hequal
    rw [haddress]
    simp [recoveredAddress, hdecode, hrecover, hpoint]

/-- **The loop.** One signature after the other, from `pos` on. -/
theorem verifySignatures_eq_ok {data hash : List UInt8} {addresses : List (List UInt8)} {n pos : Nat}
    {lastIndex : Int} (h : verifySignatures crypto data hash addresses n pos lastIndex = .ok ()) :
    ∃ sigs : List VaaSignature, sigs.length = n ∧
      (∀ i sig, sigs[i]? = some sig → signatureAt data (pos + ParsedVAA.SIGNATURE_LEN * i) = .ok sig) ∧
      (∀ sig ∈ sigs, lastIndex < sig.index) ∧ sigs.Pairwise (fun a b => a.index < b.index) ∧
      ∀ sig ∈ sigs, OfGuardian crypto hash addresses sig := by
  induction n generalizing pos lastIndex with
  | zero => exact ⟨[], rfl, nofun, nofun, List.Pairwise.nil, nofun⟩
  | succ n ih =>
    obtain ⟨index, hfirst, hrest⟩ := Go.bind_eq_ok.mp h
    obtain ⟨sig, hsig, rfl, hlast, hguardian⟩ := verifySignature_eq_ok hfirst
    obtain ⟨sigs, hlength, hread, habove, hascending, hguardians⟩ := ih hrest
    refine ⟨sig :: sigs, by rw [List.length_cons, hlength], ?_, ?_, ?_, ?_⟩
    · intro i other hother
      cases i with
      | zero =>
        obtain rfl := Option.some.inj hother
        exact hsig
      | succ i =>
        have hpos : pos + ParsedVAA.SIGNATURE_LEN * (i + 1) =
            pos + ParsedVAA.SIGNATURE_LEN + ParsedVAA.SIGNATURE_LEN * i := by
          rw [Nat.mul_succ, Nat.add_assoc, Nat.add_comm ParsedVAA.SIGNATURE_LEN]
        rw [hpos]
        exact hread i other hother
    · intro other hother
      rcases List.mem_cons.mp hother with rfl | hother
      · exact hlast
      · exact hlast.trans (habove other hother)
    · refine List.Pairwise.cons ?_ hascending
      intro other hother
      exact Int.ofNat_lt.mp (habove other hother)
    · intro other hother
      rcases List.mem_cons.mp hother with rfl | hother
      · exact hguardian
      · exact hguardians other hother

/-! ## One VAA -/

/-- The fixed-point formula is the quorum, for a set with keys. -/
theorem quorum_eq_floor {set : GuardianSetInfo} (h : set.addresses ≠ []) :
    set.quorum = 2 * set.addresses.length / 3 + 1 := by
  have hpos := List.length_pos_of_ne_nil h
  unfold GuardianSetInfo.quorum
  rw [if_neg hpos.ne']
  omega

/-- What an accepted VAA carries; `executed` are the hashes of the VAAs that were executed before. -/
structure Accepted (crypto : Crypto ρ κ) (s : State) (executed : List (List UInt8)) (data : List UInt8)
    (blockTime : Nat) (vaa : ParsedVAA) (set : GuardianSetInfo) (sigs : List VaaSignature) : Prop where
  stored : guardianSetGet s vaa.guardianSetIndex = .ok set
  keys : 1 ≤ set.addresses.length
  live : set.expirationTime = 0 ∨ blockTime ≤ set.expirationTime
  fresh : vaa.hash ∉ executed
  /-- the signatures are those of the VAA -/
  count : sigs.length = vaa.lenSigners
  carried : ∀ i sig, sigs[i]? = some sig →
    signatureAt data (ParsedVAA.HEADER_LEN + ParsedVAA.SIGNATURE_LEN * i) = .ok sig
  signed : 1 ≤ sigs.length
  quorum : 2 * set.addresses.length / 3 + 1 ≤ sigs.length
  ascending : sigs.Pairwise (fun a b => a.index < b.index)
  guardians : ∀ sig ∈ sigs, OfGuardian crypto vaa.hash set.addresses sig

theorem deserialize_hash {keccak256 : List UInt8 → FixedBytes 32} {data : List UInt8} {vaa : ParsedVAA}
    (h : ParsedVAA.deserialize keccak256 data = .ok vaa) : vaa.hash.length = 32 := by
  simp only [ParsedVAA.deserialize, Go.bind_eq_ok] at h
  obtain ⟨_, -, _, -, _, -, _, -, body, -, _, -, _, -, _, -, _, -, _, -, _, -, _, -, _, -, heq⟩ := h
  rw [← Go.ok.inj heq]
  exact (keccak256 (keccak256 body).val).property

/-- **Verification.** The checks come to what a VAA should carry, unless its set is empty. -/
theorem parseAndVerifyVaa_eq_ok {s : State} {data : List UInt8} {blockTime : Nat} {vaa : ParsedVAA}
    (h : parseAndVerifyVaa crypto s data blockTime = .ok vaa) :
    ParsedVAA.deserialize crypto.keccak256 data = .ok vaa ∧
      s.guardianSetBucket vaa.hash ≠ some .executed ∧
      ∃ set, guardianSetGet s vaa.guardianSetIndex = .ok set ∧
        ∀ executed, set.addresses ≠ [] → vaa.hash ∉ executed →
          ∃ sigs, Accepted crypto s executed data blockTime vaa set sigs := by
  simp only [parseAndVerifyVaa, Go.bind_eq_ok, ensure_eq_ok, okOr_eq_ok, committed_eq_some] at h
  obtain ⟨vaa', hparse, _, -, _, hfresh, set, hset, _, hlive, _, hquorum, _, hverify, heq⟩ := h
  obtain rfl := Go.ok.inj heq
  refine ⟨hparse, of_decide_eq_false hfresh, set, hset, ?_⟩
  intro executed hkeys hnew
  obtain ⟨sigs, hcount, hcarried, -, hascending, hguardians⟩ := verifySignatures_eq_ok hverify
  rw [quorum_eq_floor hkeys, ← hcount] at hquorum
  refine ⟨sigs, ?_⟩
  constructor
  · exact hset
  · exact List.length_pos_of_ne_nil hkeys
  · exact hlive
  · exact hnew
  · exact hcount
  · exact hcarried
  · exact (Nat.le_add_left 1 _).trans hquorum
  · exact hquorum
  · exact hascending
  · exact hguardians

/-! ## Runs -/

/-- The hash of the VAA that a message executes. -/
def executedHash (crypto : Crypto ρ κ) (_ : State) : ExecuteMsg → List (List UInt8)
  | .submitVAA _ data =>
    match ParsedVAA.deserialize crypto.keccak256 data with
    | .ok vaa => [vaa.hash]
    | _ => []
  | .postMessage .. => []

/-- The keys of the guardian set that a VAA upgrades to. -/
def upgradeKeys (crypto : Crypto ρ κ) (data : List UInt8) : StdResult (List (List UInt8)) := do
  let vaa ← ParsedVAA.deserialize crypto.keccak256 data
  let packet ← GovernancePacket.deserialize vaa.payload
  ensure (packet.action = 2) "InvalidVAAAction"
  let upgrade ← GuardianSetUpgrade.deserialize packet.payload
  return upgrade.newGuardianSet.addresses

/-- A message that does not upgrade to an empty guardian set. -/
def NamesKeys (crypto : Crypto ρ κ) : ExecuteMsg → Prop
  | .submitVAA _ data => upgradeKeys crypto data ≠ .ok []
  | .postMessage .. => True

/-- Every stored set has a key, and every executed VAA is archived. -/
structure Sound (s : State × List (List UInt8)) : Prop where
  keys : ∀ key set, s.1.guardianSetBucket key = some (.guardianSet set) → set.addresses ≠ []
  archived : ∀ hash ∈ s.2, hash.length = 32 ∧ s.1.guardianSetBucket hash = some .executed

namespace Sound

variable {s s' : State} {log : List (List UInt8)}

theorem guardianSetSet (h : Sound (s, log)) {index : Nat} {set : GuardianSetInfo}
    (hkeys : set.addresses ≠ []) : Sound (guardianSetSet s index set, log) := by
  constructor
  · intro key other hother
    rcases Mapping.update_eq_some hother with ⟨-, hnew⟩ | hold
    · rw [Entry.guardianSet.injEq] at hnew
      rwa [← hnew]
    · exact h.keys key other hold
  · intro hash hmem
    obtain ⟨hlength, hexecuted⟩ := h.archived hash hmem
    refine ⟨hlength, ?_⟩
    -- an index has four bytes, a hash thirty-two
    have hne : hash ≠ beBytes 4 index := by
      rintro rfl
      rw [beBytes_length] at hlength
      cases hlength
    exact (Function.update_of_ne hne _ _).trans hexecuted

theorem config (h : Sound (s, log)) (config : ConfigInfo) : Sound ({ s with config }, log) :=
  ⟨h.keys, h.archived⟩

theorem vaaArchiveAdd (h : Sound (s, log)) {hash : List UInt8} (hlength : hash.length = 32) :
    Sound (vaaArchiveAdd s hash, log ++ [hash]) := by
  constructor
  · intro key set hset
    rcases Mapping.update_eq_some hset with ⟨-, hnew⟩ | hold
    · cases hnew
    · exact h.keys key set hold
  · intro other hmem
    show other.length = 32 ∧ Function.update s.guardianSetBucket hash _ other = _
    by_cases heq : other = hash
    · rw [heq, Function.update_self]
      exact ⟨hlength, rfl⟩
    · rw [Function.update_of_ne heq]
      rcases List.mem_append.mp hmem with hold | hlast
      · exact h.archived other hold
      · exact absurd (List.mem_singleton.mp hlast) heq

theorem stored (h : Sound (s, log)) {index : Nat} {set : GuardianSetInfo}
    (hset : guardianSetGet s index = .ok set) : set.addresses ≠ [] := by
  unfold guardianSetGet at hset
  split at hset
  · rename_i other hother
    obtain rfl := Go.ok.inj hset
    exact h.keys _ _ hother
  · cases hset

theorem vaaUpdateGuardianSet (h : Sound (s, log)) {blockTime : Nat} {data : List UInt8}
    {response : Response} (hupdate : vaaUpdateGuardianSet s blockTime data = .ok (s', response))
    (hkeys : ∀ upgrade, GuardianSetUpgrade.deserialize data = .ok upgrade →
      upgrade.newGuardianSet.addresses ≠ []) : Sound (s', log) := by
  simp only [Core.vaaUpdateGuardianSet, Go.bind_eq_ok, ensure_eq_ok] at hupdate
  obtain ⟨upgrade, hparse, _, -, _, -, old, hold, expirationTime, -, heq⟩ := hupdate
  obtain ⟨rfl, -⟩ := Prod.mk.inj (Go.ok.inj heq)
  have hnew : Sound (Core.guardianSetSet s upgrade.newGuardianSetIndex upgrade.newGuardianSet, log) :=
    h.guardianSetSet (hkeys upgrade hparse)
  have hold : old.addresses ≠ [] := (hnew.config _).stored hold
  exact (hnew.config _).guardianSetSet hold

/-- **Governance.** -/
theorem handleGovernancePayload (h : Sound (s, log)) {blockTime : Nat} {data : List UInt8}
    {response : Response} (hgovern : handleGovernancePayload api s blockTime data = .ok (s', response))
    (hkeys : ∀ packet upgrade, GovernancePacket.deserialize data = .ok packet → packet.action = 2 →
      GuardianSetUpgrade.deserialize packet.payload = .ok upgrade →
      upgrade.newGuardianSet.addresses ≠ []) : Sound (s', log) := by
  simp only [Core.handleGovernancePayload, Go.bind_eq_ok, ensure_eq_ok] at hgovern
  obtain ⟨packet, hparse, _, -, _, -, _, -, haction⟩ := hgovern
  split at haction
  · obtain ⟨_, -, heq⟩ := Go.bind_eq_ok.mp haction
    obtain ⟨rfl, -⟩ := Prod.mk.inj (Go.ok.inj heq)
    exact h
  · rename_i htwo
    exact h.vaaUpdateGuardianSet haction fun upgrade => hkeys packet upgrade hparse htwo
  · obtain ⟨fee, -, heq⟩ := Go.bind_eq_ok.mp haction
    obtain ⟨rfl, -⟩ := Prod.mk.inj (Go.ok.inj heq)
    exact h.config _
  · simp only [handleTransferFee, Go.bind_eq_ok] at haction
    obtain ⟨_, -, _, -, heq⟩ := haction
    obtain ⟨rfl, -⟩ := Prod.mk.inj (Go.ok.inj heq)
    exact h
  · cases haction

/-- **Messages.** -/
theorem step {t : State × List (List UInt8)} {msg : ExecuteMsg} (h : Sound (s, log))
    (hnames : NamesKeys crypto msg)
    (hstep : logging (step crypto api) (executedHash crypto) (s, log) msg = some t) : Sound t := by
  obtain ⟨s', log'⟩ := t
  rw [logging_eq_some] at hstep
  obtain ⟨hstep, hlog⟩ := hstep
  dsimp only at hstep hlog
  subst hlog
  obtain ⟨⟨s₁, response⟩, hexecute, rfl⟩ := Option.map_eq_some_iff.mp hstep
  rw [committed_eq_some] at hexecute
  cases msg with
  | submitVAA blockTime data =>
    simp only [execute, handleSubmitVaa, Go.bind_eq_ok, ensure_eq_ok] at hexecute
    obtain ⟨vaa, hverify, _, -, _, -, hgovern⟩ := hexecute
    obtain ⟨hparse, -⟩ := parseAndVerifyVaa_eq_ok hverify
    rw [executedHash, hparse]
    refine (h.vaaArchiveAdd (deserialize_hash hparse)).handleGovernancePayload hgovern ?_
    intro packet upgrade hpacket haction hupgrade hempty
    have hkeys : upgradeKeys crypto data = .ok upgrade.newGuardianSet.addresses := by
      simp only [upgradeKeys, hparse, hpacket, hupgrade, haction, ensure, Go.ok_bind]
      rfl
    rw [hempty] at hkeys
    exact hnames hkeys
  | postMessage blockTime sender funds message nonce =>
    simp only [execute, handlePostMessage, Go.bind_eq_ok] at hexecute
    obtain ⟨_, -, _, -, _, -, _, -, heq⟩ := hexecute
    obtain ⟨rfl, -⟩ := Prod.mk.inj (Go.ok.inj heq)
    rw [executedHash, List.append_nil]
    exact ⟨h.keys, h.archived⟩

theorem instantiate {msg : InstantiateMsg} (hkeys : msg.initialGuardianSet.addresses ≠ []) :
    Sound (instantiate msg, []) := by
  refine guardianSetSet ⟨?_, ?_⟩ hkeys
  · intro key set hset
    cases hset
  · intro hash hmem
    cases hmem

end Sound

/-- **Quorums.** In every run from a set with keys in which no upgrade names none: an accepted VAA carries
signatures of a quorum of the set it names, which is live, and it was not executed before. -/
theorem verified {msg : InstantiateMsg} (hinitial : msg.initialGuardianSet.addresses ≠ []) {s : State}
    {log : List (List UInt8)}
    (hrun : Run (logging (step crypto api) (executedHash crypto)) (fun _ msg => NamesKeys crypto msg)
      (instantiate msg, []) (s, log)) {data : List UInt8} {blockTime : Nat} {vaa : ParsedVAA}
    (h : parseAndVerifyVaa crypto s data blockTime = .ok vaa) :
    ∃ set sigs, Accepted crypto s log data blockTime vaa set sigs := by
  have hsound := hrun.invariant (I := Sound) (fun _ _ _ hs hnames hstep => hs.step hnames hstep)
    (Sound.instantiate hinitial)
  obtain ⟨-, hfresh, set, hset, hsigned⟩ := parseAndVerifyVaa_eq_ok h
  have hnew : vaa.hash ∉ log := fun hmem => hfresh (hsound.archived vaa.hash hmem).2
  exact ⟨set, hsigned log (hsound.stored hset) hnew⟩

/-! ## Inputs -/

theorem sampleKeccak_length (bs : List UInt8) : ((bs ++ List.replicate 32 0x00).take 32).length = 32 := by simp

/-- The first bytes of the input, filled up to 32. -/
def sampleKeccak (bs : List UInt8) : FixedBytes 32 := ⟨(bs ++ List.replicate 32 0x00).take 32, sampleKeccak_length bs⟩

/-- A signature is the key that it recovers to. -/
def sampleCrypto : Crypto (List UInt8) (List UInt8) where
  keccak256 := sampleKeccak
  recoverableSignature := fun signature id => if id < 2 then some signature else none
  recoverVerifyKey := fun signature _ => some signature
  decompress := fun key => some (0x04 :: key)

def sampleApi : Api where
  addrCanonicalize := fun _ => .error ""
  addrHumanize := fun _ => .error ""

/-- Four guardians, three of which are a quorum. -/
def sampleKeys : List (List UInt8) := [0x07, 0x08, 0x09, 0x0a].map (List.replicate 20)

/-- The signature of the guardian with the index. -/
def sampleSignature (index b : UInt8) : List UInt8 := [index] ++ List.replicate 64 b ++ [0x00]

/-- All but the second guardian have signed. -/
def sampleSignatures : List (List UInt8) :=
  [sampleSignature 0 0x07, sampleSignature 2 0x09, sampleSignature 3 0x0a]

/-- Governance of chain 1 at `0x04…`. -/
def sampleMsg : InstantiateMsg where
  govChain := 1
  govAddress := List.replicate 32 0x04
  initialGuardianSet := { addresses := sampleKeys, expirationTime := 0 }
  guardianSetExpirity := 86400

/-- A VAA of governance, of the guardian set `index`. -/
def sampleVaa (index : Nat) (signatures : List (List UInt8)) (timestamp : Nat) (payload : List UInt8) :
    List UInt8 :=
  [0x01] ++ beBytes 4 index ++ beBytes 1 signatures.length ++ signatures.flatten ++ beBytes 4 timestamp ++
    beBytes 4 0 ++ beBytes 2 1 ++ List.replicate 32 0x04 ++ beBytes 8 0 ++ [0x00] ++ payload

/-- The upgrade to the set 1. -/
def sampleUpgrade (keys : List (List UInt8)) : List UInt8 :=
  List.replicate 28 0x00 ++ [0x43, 0x6f, 0x72, 0x65] ++ [0x02] ++ beBytes 2 0 ++ beBytes 4 1 ++
    beBytes 1 keys.length ++ keys.flatten

/-- The contract after that upgrade, signed by the quorum. -/
def sampleUpgraded (keys : List (List UInt8)) : State × List (List UInt8) :=
  attempts (logging (step sampleCrypto sampleApi) (executedHash sampleCrypto)) (instantiate sampleMsg, [])
    [.submitVAA 1 (sampleVaa 0 sampleSignatures 1 (sampleUpgrade keys))]

/-- After the upgrade to the same four guardians, a VAA that three of them have signed is accepted. -/
theorem verified_sample : ∃ vaa set sigs,
    parseAndVerifyVaa sampleCrypto (sampleUpgraded sampleKeys).1 (sampleVaa 1 sampleSignatures 2 []) 3 =
      .ok vaa ∧ vaa.guardianSetIndex = 1 ∧
    Accepted sampleCrypto (sampleUpgraded sampleKeys).1 (sampleUpgraded sampleKeys).2
      (sampleVaa 1 sampleSignatures 2 []) 3 vaa set sigs := by
  have haccepted : (committed (parseAndVerifyVaa sampleCrypto (sampleUpgraded sampleKeys).1
      (sampleVaa 1 sampleSignatures 2 []) 3)).map ParsedVAA.guardianSetIndex = some 1 := by
    decide +kernel
  obtain ⟨vaa, hvaa, hindex⟩ := Option.map_eq_some_iff.mp haccepted
  rw [committed_eq_some] at hvaa
  have hnames : NamesKeys sampleCrypto
      (.submitVAA 1 (sampleVaa 0 sampleSignatures 1 (sampleUpgrade sampleKeys))) := by
    show upgradeKeys _ _ ≠ _
    decide +kernel
  have hrun : Run (logging (step sampleCrypto sampleApi) (executedHash sampleCrypto))
      (fun _ msg => NamesKeys sampleCrypto msg) (instantiate sampleMsg, [])
      ((sampleUpgraded sampleKeys).1, (sampleUpgraded sampleKeys).2) := by
    rw [Prod.mk.eta]
    exact run_attempts (P := NamesKeys sampleCrypto) _ _ (by simpa using hnames)
  obtain ⟨set, sigs, h⟩ := verified (List.cons_ne_nil _ _) hrun hvaa
  exact ⟨vaa, set, sigs, hvaa, hindex, h⟩

/-- **An empty guardian set.** The guardians sign an upgrade that names no keys; from then on a VAA of the
new set is accepted without a signature. -/
theorem unsigned_accepted : ∃ s log vaa,
    sampleMsg.initialGuardianSet.addresses ≠ [] ∧
    Run (logging (step sampleCrypto sampleApi) (executedHash sampleCrypto)) (fun _ _ => True)
      (instantiate sampleMsg, []) (s, log) ∧
    parseAndVerifyVaa sampleCrypto s (sampleVaa 1 [] 2 []) 3 = .ok vaa ∧ vaa.lenSigners = 0 ∧
    ¬∃ set sigs, Accepted sampleCrypto s log (sampleVaa 1 [] 2 []) 3 vaa set sigs := by
  have haccepted : (committed (parseAndVerifyVaa sampleCrypto (sampleUpgraded []).1
      (sampleVaa 1 [] 2 []) 3)).map ParsedVAA.lenSigners = some 0 := by
    decide +kernel
  obtain ⟨vaa, hvaa, hsigners⟩ := Option.map_eq_some_iff.mp haccepted
  rw [committed_eq_some] at hvaa
  have hrun : Run (logging (step sampleCrypto sampleApi) (executedHash sampleCrypto)) (fun _ _ => True)
      (instantiate sampleMsg, []) ((sampleUpgraded []).1, (sampleUpgraded []).2) := by
    rw [Prod.mk.eta]
    exact run_attempts (P := fun _ => True) _ _ fun _ _ => trivial
  refine ⟨(sampleUpgraded []).1, (sampleUpgraded []).2, vaa, List.cons_ne_nil _ _, hrun, hvaa, hsigners,
    ?_⟩
  rintro ⟨set, sigs, h⟩
  have hsigned := h.signed
  rw [h.count, hsigners] at hsigned
  cases hsigned

end Wormhole.Terra.Core

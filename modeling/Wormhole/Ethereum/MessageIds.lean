/-
# Wormhole.Ethereum.MessageIds — the messages of the EVM core contract.

`Implementation.sol`: `publishMessage` takes the fee, gives the message the next sequence number of its
sender and emits it for the guardians.  Publications by anyone are interleaved with the governance of the
same contract, which changes the fee, the guardians and the implementation but no counter, as long as a new
implementation leaves the counters alone when it is initialised (`KeepsSequences`).  Over any run from the setup the
messages of a sender carry the numbers `0, 1, 2, …` (`messages_numbered`), so the emitter and the sequence, as the
guardians read them, name one message.
-/
import Mathlib
import Wormhole.Lib.Counters
import Wormhole.Lib.Failing
import Wormhole.Lib.Transition
import Wormhole.Ethereum.Evm
import Wormhole.Ethereum.Governance

namespace Wormhole.Ethereum.Implementation

open Wormhole.Lib.Counters Wormhole.Lib.Failing Wormhole.Lib.Transition

/-! ## Publication -/

/-- `Storage.WormholeState`. -/
structure State extends Governance.State where
  /-- Sequence numbers per emitter -/
  sequences : Address → Nat

/-- The event `LogMessagePublished`. -/
structure LogMessagePublished where
  sender : Address
  sequence : Nat
  nonce : UInt32
  payload : List UInt8
  consistencyLevel : UInt8
  deriving DecidableEq

/-- `uint64` addition. -/
def addUint64 (x y : Nat) : Revert Nat :=
  if x + y < 2 ^ 64 then .ok (x + y) else .error arithmeticPanic

def nextSequence (s : State) (emitter : Address) : Nat := s.sequences emitter

def setNextSequence (s : State) (emitter : Address) (sequence : Nat) : State :=
  { s with sequences := Function.update s.sequences emitter sequence }

def useSequence (s : State) (emitter : Address) : Revert (State × Nat) := do
  let sequence := nextSequence s emitter
  let next ← addUint64 sequence 1
  return (setNextSequence s emitter next, sequence)

/-- Publish a message to be attested by the Wormhole network -/
def publishMessage (s : State) (sender : Address) (value : Nat) (nonce : UInt32) (payload : List UInt8)
    (consistencyLevel : UInt8) : Revert (State × LogMessagePublished) := do
  -- check fee
  require (value = s.messageFee) "invalid fee"
  let (s, sequence) ← useSequence s sender
  return (s, { sender, sequence, nonce, payload, consistencyLevel })

/-- The storage after the proxy has been set up. -/
def setup (implementation : Address) (initialGuardians : List Address) (chainId governanceChainId : Nat)
    (governanceContract : List UInt8) : Revert State := do
  let s ← Governance.setup implementation initialGuardians chainId governanceChainId governanceContract
  return { s with sequences := fun _ => 0 }

/-! ## The contract -/

inductive Transaction (ν : Type) where
  | publishMessage (sender : Address) (value : Nat) (nonce : UInt32) (payload : List UInt8)
      (consistencyLevel : UInt8)
  | governance (call : Governance.Call ν)

/-- The chain around the contract, with what the `initialize()` of a new implementation makes of the counters. -/
structure Environment (ν : Type) extends Governance.Environment ν where
  initializeSequences : ν → Governance.State → (Address → Nat) → Address → Nat

/-- An implementation leaves the counters alone when it is initialised. -/
def Environment.KeepsSequences {ν : Type} (env : Environment ν) : Prop :=
  ∀ e governed sequences, env.initializeSequences e governed sequences = sequences

section

variable {ν : Type} (env : Environment ν)

/-- The counters behind a governance call: only the code of a new implementation can write them. -/
def governedSequences (s : State) (governed : Governance.State) (c : Governance.Call ν) : Address → Nat :=
  match c.entryPoint with
  | .submitContractUpgrade => env.initializeSequences c.chain governed s.sequences
  | .submitSetMessageFee | .submitNewGuardianSet | .submitTransferFees => s.sequences

/-- A transaction, with the events it emits. -/
def transact (s : State) : Transaction ν → Revert (State × List LogMessagePublished)
  | .publishMessage sender value nonce payload consistencyLevel => do
    let (s, message) ← publishMessage s sender value nonce payload consistencyLevel
    return (s, [message])
  | .governance call => do
    let governed ← Governance.call env.toEnvironment s.toState call
    return ({ governed with sequences := governedSequences env s governed call }, [])

/-- The contract next to all it has emitted; what reverts changes nothing. -/
def step (t : State × List LogMessagePublished) (tx : Transaction ν) :
    Option (State × List LogMessagePublished) := do
  let (s, events) ← (transact env t.1 tx).toOption
  return (s, t.2 ++ events)

end

/-! ## The numbers -/

section

variable {s s' : State} {sender : Address} {value : Nat} {nonce : UInt32} {payload : List UInt8}
  {consistencyLevel : UInt8}

theorem addUint64_eq_ok {x y z : Nat} : addUint64 x y = .ok z ↔ x + y < 2 ^ 64 ∧ z = x + y := by
  unfold addUint64
  split <;> simp_all [eq_comm]

theorem useSequence_eq_ok {r : State × Nat} :
    useSequence s sender = .ok r ↔ s.sequences sender + 1 < 2 ^ 64 ∧
      r = (setNextSequence s sender (s.sequences sender + 1), s.sequences sender) := by
  simp only [useSequence, nextSequence, bind_eq_ok, addUint64_eq_ok, pure, Except.pure, Except.ok.injEq]
  constructor
  · rintro ⟨_, ⟨hroom, rfl⟩, rfl⟩
    exact ⟨hroom, rfl⟩
  · rintro ⟨hroom, rfl⟩
    exact ⟨_, ⟨hroom, rfl⟩, rfl⟩

/-- **A publication** needs the fee and a number that is left; it counts its sender on. -/
theorem publishMessage_eq_ok {r : State × LogMessagePublished} :
    publishMessage s sender value nonce payload consistencyLevel = .ok r ↔
      value = s.messageFee ∧ s.sequences sender + 1 < 2 ^ 64 ∧
        r = (setNextSequence s sender (s.sequences sender + 1),
          { sender, sequence := s.sequences sender, nonce, payload, consistencyLevel }) := by
  simp only [publishMessage, bind_eq_ok, require_eq_ok, useSequence_eq_ok, pure, Except.pure,
    Except.ok.injEq]
  constructor
  · rintro ⟨-, hfee, _, ⟨hroom, rfl⟩, rfl⟩
    exact ⟨hfee, hroom, rfl⟩
  · rintro ⟨hfee, hroom, rfl⟩
    exact ⟨(), hfee, _, ⟨hroom, rfl⟩, rfl⟩

end

/-- **The invariant**: the counters number the messages, and stay in their 64 bits. -/
structure Counted (t : State × List LogMessagePublished) : Prop where
  numbered : Numbered id LogMessagePublished.sender LogMessagePublished.sequence t.1.sequences t.2
  bounded : ∀ emitter, t.1.sequences emitter < 2 ^ 64

section

variable {ν : Type} {env : Environment ν}

theorem governedSequences_eq (hkeeps : env.KeepsSequences) (governed : Governance.State) (c : Governance.Call ν) :
    governedSequences env s governed c = s.sequences := by
  unfold governedSequences
  split
  · exact hkeeps _ _ _
  · rfl
  · rfl
  · rfl

/-- **Step.** -/
theorem Counted.step (hkeeps : env.KeepsSequences) {t t' : State × List LogMessagePublished} {tx : Transaction ν}
    (ht : Counted t) (h : Implementation.step env t tx = some t') : Counted t' := by
  obtain ⟨⟨s, events⟩, htransact, h⟩ := Option.bind_eq_some_iff.mp h
  obtain rfl := Option.some.inj h
  have htransact := toOption_eq_some htransact
  cases tx with
  | publishMessage sender value nonce payload consistencyLevel =>
    obtain ⟨r, hpublish, hr⟩ := bind_eq_ok.mp htransact
    obtain ⟨-, hroom, rfl⟩ := publishMessage_eq_ok.mp hpublish
    obtain ⟨rfl, rfl⟩ := Prod.mk.inj (Except.ok.inj hr)
    refine ⟨ht.numbered.append rfl, ?_⟩
    intro emitter
    by_cases hemitter : emitter = sender
    · subst hemitter
      rw [show (setNextSequence t.1 emitter (t.1.sequences emitter + 1)).sequences emitter
        = t.1.sequences emitter + 1 from Function.update_self ..]
      exact hroom
    · rw [show (setNextSequence t.1 sender (t.1.sequences sender + 1)).sequences emitter
        = t.1.sequences emitter from Function.update_of_ne hemitter ..]
      exact ht.bounded emitter
  | governance call =>
    obtain ⟨governed, -, hr⟩ := bind_eq_ok.mp htransact
    obtain ⟨rfl, rfl⟩ := Prod.mk.inj (Except.ok.inj hr)
    rw [governedSequences_eq hkeeps]
    refine ⟨?_, ht.bounded⟩
    simpa only [List.append_nil] using ht.numbered

theorem Counted.of_setup {implementation : Address} {initialGuardians : List Address}
    {chainId governanceChainId : Nat} {governanceContract : List UInt8} {s : State}
    (h : setup implementation initialGuardians chainId governanceChainId governanceContract = .ok s) :
    Counted (s, []) := by
  obtain ⟨governed, -, hs⟩ := bind_eq_ok.mp h
  obtain rfl := Except.ok.inj hs
  exact ⟨Numbered.nil, fun _ => Nat.two_pow_pos 64⟩

end

/-- **Message ids.** In every state that publications and governance reach after the setup, in any order:
the messages of a sender carry the sequence numbers from zero up to its counter, in the order of their
emission; the padded sender and the sequence name one message; and a message is published exactly when the
fee in force is paid and the counter has not come to its end. -/
theorem messages_numbered {ν : Type} (env : Environment ν) (hkeeps : env.KeepsSequences)
    {implementation : Address} {initialGuardians : List Address} {chainId governanceChainId : Nat}
    {governanceContract : List UInt8} {s₀ : State}
    (hsetup : setup implementation initialGuardians chainId governanceChainId governanceContract = .ok s₀)
    {t : State × List LogMessagePublished} (hrun : Run (step env) (fun _ _ => True) (s₀, []) t) :
    (∀ emitter, (t.2.filter fun m => m.sender = emitter).map LogMessagePublished.sequence =
      List.range (t.1.sequences emitter)) ∧
    (t.2.map fun m => (m.sender.toWord, m.sequence)).Nodup ∧
    (∀ emitter, t.1.sequences emitter < 2 ^ 64) ∧
    ∀ sender value nonce payload consistencyLevel,
      (∃ r, publishMessage t.1 sender value nonce payload consistencyLevel = .ok r) ↔
        value = t.1.messageFee ∧ t.1.sequences sender + 1 < 2 ^ 64 := by
  have ht : Counted t := hrun.invariant (fun _ _ _ ht _ hstep => ht.step hkeeps hstep) (Counted.of_setup hsetup)
  refine ⟨fun emitter => (ht.numbered emitter).trans (List.map_id _), ?_, ht.bounded, ?_⟩
  · have hpad : Function.Injective fun id : Address × Nat => (id.1.toWord, id.2) := by
      rintro ⟨a, m⟩ ⟨b, n⟩ h
      obtain ⟨hword, hnumber⟩ := Prod.mk.inj h
      have hbytes := congrArg Subtype.val hword
      exact Prod.ext (Subtype.ext (List.append_cancel_left hbytes)) hnumber
    have hnodup := (ht.numbered.nodup fun _ => Function.injective_id.injOn).map hpad
    rwa [List.map_map] at hnodup
  · intro sender value nonce payload consistencyLevel
    simp only [publishMessage_eq_ok]
    constructor
    · rintro ⟨r, hfee, hroom, -⟩
      exact ⟨hfee, hroom⟩
    · rintro ⟨hfee, hroom⟩
      exact ⟨_, hfee, hroom, rfl⟩

/-- Two equal messages of one sender, with an update of the guardians between them. -/
def sampleTransactions : List (Transaction Unit) :=
  [.publishMessage sampleKey 0 7 [0x01] 1, .governance (Governance.sampleUpdate 1000),
    .publishMessage sampleKey 0 7 [0x01] 1]

def sampleEnvironment : Environment Unit :=
  { Governance.sampleEnvironment with initializeSequences := fun _ _ sequences => sequences }

theorem sampleEnvironment_keepsSequences : sampleEnvironment.KeepsSequences := fun _ _ _ => rfl

def sampleStart : State := { Governance.sampleStart with sequences := fun _ => 0 }

/-- The equal messages have different ids. -/
theorem sample_numbered :
    ∃ t, Run (step sampleEnvironment) (fun _ _ => True) (sampleStart, []) t ∧
      t.1.guardianSetIndex = 1 ∧ (t.2.map LogMessagePublished.payload) = [[0x01], [0x01]] ∧
      (t.2.filter fun m => m.sender = sampleKey).map LogMessagePublished.sequence =
        List.range (t.1.sequences sampleKey) := by
  let t := attempts (step sampleEnvironment) (sampleStart, []) sampleTransactions
  have hrun : Run (step sampleEnvironment) (fun _ _ => True) (sampleStart, []) t :=
    run_attempts (P := fun _ => True) _ _ fun _ _ => trivial
  have hsetup : setup sampleKey sampleKeys 4 2 sampleKey.toWord.val = .ok sampleStart := rfl
  have hcomputed : t.1.guardianSetIndex = 1 ∧
      t.2.map LogMessagePublished.payload = [[0x01], [0x01]] := by
    decide +kernel
  exact ⟨t, hrun, hcomputed.1, hcomputed.2,
    (messages_numbered sampleEnvironment sampleEnvironment_keepsSequences hsetup hrun).1 sampleKey⟩

end Wormhole.Ethereum.Implementation

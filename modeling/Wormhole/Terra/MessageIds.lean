/-
# Wormhole.Terra.MessageIds — the messages of Terra's core contract.

`handle_post_message` numbers the messages of an emitter, `handle_submit_vaa` does not touch the numbers.
Over any run of the contract the messages of an emitter carry the numbers `0, 1, 2, …` (`posts_numbered`).  The log
of a run keeps every message next to the transaction that has posted it: the emitter is the padded address of whoever
has sent this transaction.
-/
import Mathlib
import Wormhole.Lib.Bytes
import Wormhole.Lib.Counters
import Wormhole.Lib.Go
import Wormhole.Lib.Transition
import Wormhole.Terra.Core
import Wormhole.Terra.Cosmwasm
import Wormhole.Terra.Quorum

namespace Wormhole.Terra.Core

open Wormhole.Lib Wormhole.Lib.Bytes Wormhole.Lib.Counters Wormhole.Lib.Transition

section

variable {ρ κ : Type} {crypto : Crypto ρ κ} {api : Api} {s : State} {r : State × Response}

/-! ## What a message does to the numbers -/

/-- Governance neither counts nor posts. -/
structure KeepsNumbers (s : State) (r : State × Response) : Prop where
  sequences : r.1.sequences = s.sequences
  posted : r.2.posted = none

theorem vaaUpdateGuardianSet_keepsNumbers {blockTime : Nat} {data : List UInt8}
    (h : vaaUpdateGuardianSet s blockTime data = .ok r) : KeepsNumbers s r := by
  obtain ⟨upgrade, -, h⟩ := Go.bind_eq_ok.mp h
  obtain ⟨expected, -, h⟩ := Go.bind_eq_ok.mp h
  obtain ⟨_, -, h⟩ := Go.bind_eq_ok.mp h
  obtain ⟨oldGuardianSet, -, h⟩ := Go.bind_eq_ok.mp h
  obtain ⟨expirationTime, -, h⟩ := Go.bind_eq_ok.mp h
  obtain rfl := Go.ok.inj h
  exact ⟨rfl, rfl⟩

theorem handleGovernancePayload_keepsNumbers {blockTime : Nat} {data : List UInt8}
    (h : handleGovernancePayload api s blockTime data = .ok r) : KeepsNumbers s r := by
  obtain ⟨govPacket, -, h⟩ := Go.bind_eq_ok.mp h
  obtain ⟨module', -, h⟩ := Go.bind_eq_ok.mp h
  obtain ⟨_, -, h⟩ := Go.bind_eq_ok.mp h
  obtain ⟨_, -, h⟩ := Go.bind_eq_ok.mp h
  split at h
  · obtain ⟨newContract, -, h⟩ := Go.bind_eq_ok.mp h
    obtain rfl := Go.ok.inj h
    exact ⟨rfl, rfl⟩
  · exact vaaUpdateGuardianSet_keepsNumbers h
  · obtain ⟨fee, -, h⟩ := Go.bind_eq_ok.mp h
    obtain rfl := Go.ok.inj h
    exact ⟨rfl, rfl⟩
  · obtain ⟨transfer, -, h⟩ := Go.bind_eq_ok.mp h
    obtain ⟨toAddress, -, h⟩ := Go.bind_eq_ok.mp h
    obtain rfl := Go.ok.inj h
    exact ⟨rfl, rfl⟩
  · cases h

theorem handleSubmitVaa_keepsNumbers {blockTime : Nat} {data : List UInt8}
    (h : handleSubmitVaa crypto api s blockTime data = .ok r) : KeepsNumbers s r := by
  obtain ⟨vaa, -, h⟩ := Go.bind_eq_ok.mp h
  obtain ⟨_, -, h⟩ := Go.bind_eq_ok.mp h
  obtain ⟨_, -, h⟩ := Go.bind_eq_ok.mp h
  obtain ⟨hsequences, hposted⟩ := handleGovernancePayload_keepsNumbers h
  exact ⟨hsequences, hposted⟩

/-- **A post** takes the number that is next for the padded sender. -/
theorem handlePostMessage_eq_ok {blockTime : Nat} {sender : String} {funds : List Coin}
    {message : List UInt8} {nonce : Nat}
    (h : handlePostMessage api s blockTime sender funds message nonce = .ok r) :
    ∃ canonical : List UInt8, api.addrCanonicalize sender = .ok canonical ∧ canonical.length = 20 ∧
      s.sequences (List.replicate 12 0x00 ++ canonical) + 1 < 2 ^ 64 ∧
      r.1.sequences = Function.update s.sequences (List.replicate 12 0x00 ++ canonical)
        (s.sequences (List.replicate 12 0x00 ++ canonical) + 1) ∧
      r.2.posted = some {
        message
        sender := List.replicate 12 0x00 ++ canonical
        chainId := CHAIN_ID
        nonce
        sequence := s.sequences (List.replicate 12 0x00 ++ canonical)
        blockTime } := by
  obtain ⟨_, -, h⟩ := Go.bind_eq_ok.mp h
  obtain ⟨canonical, hcanonical, h⟩ := Go.bind_eq_ok.mp h
  obtain ⟨emitter, hemitter, h⟩ := Go.bind_eq_ok.mp h
  obtain ⟨next, hnext, h⟩ := Go.bind_eq_ok.mp h
  obtain ⟨hlength, rfl⟩ : canonical.length = 20 ∧ List.replicate 12 0x00 ++ canonical = emitter := by
    simpa [extendAddressTo32] using hemitter
  obtain ⟨hroom, rfl⟩ : s.sequences (List.replicate 12 0x00 ++ canonical) + 1 < 2 ^ 64 ∧
      s.sequences (List.replicate 12 0x00 ++ canonical) + 1 = next := by
    simpa [addUint] using hnext
  obtain rfl := Go.ok.inj h
  exact ⟨canonical, hcanonical, hlength, hroom, rfl, rfl⟩

end

/-! ## Runs -/

section

variable {ρ κ : Type} (crypto : Crypto ρ κ) (api : Api)

/-- What a transaction posts. -/
def posts (s : State) (msg : ExecuteMsg) : List PostedMessage :=
  ((committed (execute crypto api s msg)).bind fun r => r.2.posted).toList

/-- What a transaction posts, next to the transaction. -/
def postings (s : State) (msg : ExecuteMsg) : List (ExecuteMsg × PostedMessage) :=
  (posts crypto api s msg).map fun m => (msg, m)

/-- The message is the one that the caller of the transaction has handed over, under the caller's padded address. -/
def PostedBy (msg : ExecuteMsg) (m : PostedMessage) : Prop :=
  ∃ sender funds canonical, msg = .postMessage m.blockTime sender funds m.message m.nonce ∧
    api.addrCanonicalize sender = .ok canonical ∧ canonical.length = 20 ∧
    m.sender = List.replicate 12 0x00 ++ canonical

/-- What is posted is what a caller has handed over. -/
theorem postedBy_of_mem_posts {s : State} {msg : ExecuteMsg} {m : PostedMessage}
    (h : m ∈ posts crypto api s msg) : PostedBy api msg m := by
  rw [posts, Option.mem_toList, Option.bind_eq_some_iff] at h
  obtain ⟨r, hr, hposted⟩ := h
  have hexecute := committed_eq_some.mp hr
  cases msg with
  | submitVAA blockTime vaa =>
    rw [(handleSubmitVaa_keepsNumbers hexecute).posted] at hposted
    cases hposted
  | postMessage blockTime sender funds message nonce =>
    obtain ⟨canonical, hcanonical, hlength, -, -, hm⟩ := handlePostMessage_eq_ok hexecute
    obtain rfl := Option.some.inj (hm.symm.trans hposted)
    exact ⟨sender, funds, canonical, rfl, hcanonical, hlength, rfl⟩

/-- The messages alone are what `posts` says. -/
theorem map_postings (s : State) (msg : ExecuteMsg) :
    (postings crypto api s msg).map Prod.snd = posts crypto api s msg := by
  rw [postings, List.map_map]
  exact List.map_id _

/-- **The invariant.** -/
structure Counted (t : State × List PostedMessage) : Prop where
  numbered : Numbered id PostedMessage.sender PostedMessage.sequence t.1.sequences t.2
  bounded : ∀ emitter, t.1.sequences emitter < 2 ^ 64
  emitted : ∀ m ∈ t.2, m.chainId = CHAIN_ID ∧ m.sender.length = 32

end

section

variable {ρ κ : Type} {crypto : Crypto ρ κ} {api : Api}

theorem Counted.of_instantiate (msg : InstantiateMsg) : Counted (instantiate msg, []) :=
  ⟨Numbered.nil, fun _ => Nat.two_pow_pos 64, by simp⟩

/-- **Step.** -/
theorem Counted.step {t t' : State × List PostedMessage} {msg : ExecuteMsg} (ht : Counted t)
    (h : logging (Core.step crypto api) (posts crypto api) t msg = some t') : Counted t' := by
  obtain ⟨hstep, hlog⟩ := logging_eq_some.mp h
  obtain ⟨r, hr, hs⟩ := Option.map_eq_some_iff.mp hstep
  have hexecute := committed_eq_some.mp hr
  rw [posts, hr, Option.bind_some] at hlog
  cases msg with
  | submitVAA blockTime vaa =>
    obtain ⟨hsequences, hposted⟩ := handleSubmitVaa_keepsNumbers hexecute
    rw [hposted, Option.toList_none, List.append_nil] at hlog
    rw [hs] at hsequences
    refine ⟨?_, ?_, ?_⟩
    · rw [hlog, hsequences]
      exact ht.numbered
    · rw [hsequences]
      exact ht.bounded
    · rw [hlog]
      exact ht.emitted
  | postMessage blockTime sender funds message nonce =>
    obtain ⟨canonical, hcanonical, hlength, hroom, hsequences, hposted⟩ := handlePostMessage_eq_ok hexecute
    rw [hposted, Option.toList_some] at hlog
    rw [hs] at hsequences
    refine ⟨?_, ?_, ?_⟩
    · rw [hlog, hsequences]
      exact ht.numbered.append rfl
    · intro emitter
      rw [hsequences]
      by_cases hemitter : emitter = List.replicate 12 0x00 ++ canonical
      · rw [hemitter, Function.update_self]
        exact hroom
      · rw [Function.update_of_ne hemitter]
        exact ht.bounded emitter
    · intro m hm
      rw [hlog, List.mem_append, List.mem_singleton] at hm
      rcases hm with hm | rfl
      · exact ht.emitted m hm
      · refine ⟨rfl, ?_⟩
        rw [List.length_append, List.length_replicate, hlength]

/-- **Run.** -/
theorem counted_of_run {msg : InstantiateMsg} {ok : State × List PostedMessage → ExecuteMsg → Prop}
    {t : State × List PostedMessage}
    (hrun : Run (logging (Core.step crypto api) (posts crypto api)) ok (instantiate msg, []) t) : Counted t :=
  hrun.invariant (fun _ _ _ ht _ hstep => ht.step hstep) (Counted.of_instantiate msg)

end

section

variable {ρ κ : Type} {crypto : Crypto ρ κ} {api : Api}

/-- A run remembers who has posted what. -/
theorem postedBy_of_run {s₀ : State} {t : State × List (ExecuteMsg × PostedMessage)}
    (hrun : Run (logging (Core.step crypto api) (postings crypto api)) (fun _ _ => True) (s₀, []) t) :
    ∀ p ∈ t.2, PostedBy api p.1 p.2 := by
  refine hrun.invariant (I := fun t => ∀ p ∈ t.2, PostedBy api p.1 p.2) ?_ (by simp)
  intro t msg t' ht _ hstep p hp
  rw [(logging_eq_some.mp hstep).2, List.mem_append] at hp
  rcases hp with hp | hp
  · exact ht p hp
  · obtain ⟨m, hm, rfl⟩ := List.mem_map.mp hp
    exact postedBy_of_mem_posts crypto api hm

/-- Without the transactions it is a run of the messages. -/
theorem run_posts {s₀ : State} {t : State × List (ExecuteMsg × PostedMessage)}
    (hrun : Run (logging (Core.step crypto api) (postings crypto api)) (fun _ _ => True) (s₀, []) t) :
    Run (logging (Core.step crypto api) (posts crypto api)) (fun _ _ => True) (s₀, []) (t.1, t.2.map Prod.snd) := by
  have hmessages := Run.map_log Prod.snd (fun _ _ => True) hrun
  simp only [map_postings] at hmessages
  exact hmessages

end

/-- **Message ids.** In every state that the contract reaches, by posts and by governance in any order: the
messages of an emitter carry the sequence numbers from zero up to its counter, in the order in which they
have been posted; chain, emitter and sequence name one message; and every message is the one that a transaction
of this run has handed over, its emitter the padded address of this transaction's caller. -/
theorem posts_numbered {ρ κ : Type} (crypto : Crypto ρ κ) (api : Api) (msg : InstantiateMsg)
    {t : State × List (ExecuteMsg × PostedMessage)}
    (hrun : Run (logging (step crypto api) (postings crypto api)) (fun _ _ => True) (instantiate msg, []) t) :
    (∀ emitter, ((t.2.map Prod.snd).filter fun m => m.sender = emitter).map PostedMessage.sequence =
      List.range (t.1.sequences emitter)) ∧
    ((t.2.map Prod.snd).map fun m => (m.chainId, m.sender, m.sequence)).Nodup ∧
    (∀ emitter, t.1.sequences emitter < 2 ^ 64) ∧
    ∀ p ∈ t.2, p.2.chainId = CHAIN_ID ∧ PostedBy api p.1 p.2 := by
  have ht := counted_of_run (run_posts hrun)
  refine ⟨fun emitter => (ht.numbered emitter).trans (List.map_id _), ?_, ht.bounded, ?_⟩
  · have hids := ht.numbered.nodup fun _ => Function.injective_id.injOn
    refine List.Nodup.of_map Prod.snd ?_
    rwa [List.map_map]
  · intro p hp
    exact ⟨(ht.emitted p.2 (List.mem_map_of_mem hp)).1, postedBy_of_run hrun p hp⟩

/-- Every account has the same address. -/
def oneAddress : Api where
  addrCanonicalize := fun _ => .ok (List.replicate 20 0x09)
  addrHumanize := fun _ => .error ""

/-- The same post twice, with an update of the guardians between them. -/
def sampleMessages : List ExecuteMsg :=
  [.postMessage 1 "terra1sender" [] [0x01] 7,
    .submitVAA 1 (sampleVaa 0 sampleSignatures 1 (sampleUpgrade sampleKeys)),
    .postMessage 1 "terra1sender" [] [0x01] 7]

/-- The address of an account is its name, filled up. -/
def spelledAddresses : Api where
  addrCanonicalize := fun account => .ok ((asBytes account ++ List.replicate 20 0x00).take 20)
  addrHumanize := fun _ => .error ""

/-- Another account posts the same message behind the two. -/
def sampleCalls : List ExecuteMsg :=
  sampleMessages ++ [.postMessage 1 "terra1other" [] [0x01] 7]

/-- Equal messages have different ids, and the third counts for its own caller. -/
theorem sample_posts : ∃ t,
    Run (logging (step sampleCrypto spelledAddresses) (postings sampleCrypto spelledAddresses)) (fun _ _ => True)
      (instantiate sampleMsg, []) t ∧
    t.1.config.guardianSetIndex = 1 ∧
    t.2.map (fun p => (p.2.message, p.2.sequence)) = [([0x01], 0), ([0x01], 1), ([0x01], 0)] ∧
    ((t.2.map Prod.snd).map fun m => (m.chainId, m.sender, m.sequence)).Nodup ∧
    ∀ p ∈ t.2, PostedBy spelledAddresses p.1 p.2 := by
  let t := attempts (logging (step sampleCrypto spelledAddresses) (postings sampleCrypto spelledAddresses))
    (instantiate sampleMsg, []) sampleCalls
  have hrun : Run (logging (step sampleCrypto spelledAddresses) (postings sampleCrypto spelledAddresses))
      (fun _ _ => True) (instantiate sampleMsg, []) t :=
    run_attempts (P := fun _ => True) _ _ fun _ _ => trivial
  have hcomputed : t.1.config.guardianSetIndex = 1 ∧
      t.2.map (fun p => (p.2.message, p.2.sequence)) = [([0x01], 0), ([0x01], 1), ([0x01], 0)] := by
    decide +kernel
  obtain ⟨-, hids, -, hcallers⟩ := posts_numbered sampleCrypto spelledAddresses sampleMsg hrun
  exact ⟨t, hrun, hcomputed.1, hcomputed.2, hids, fun p hp => (hcallers p hp).2⟩

end Wormhole.Terra.Core

/-
# Wormhole.Alephium.MessageIds — which messages share an id.

The id of a message is its emitter and its sequence number.  `TokenBridge` counts the messages it
publishes itself (`nextSequence`), for attestations and transfers alike, and a contract of somebody else
cannot publish in its name.  Any other contract hands the sequence number to
`Governance.publishMessage`, which checks nothing: the ids are unique in the runs in which no caller hands
over a number that it has used before (`messageIds_unique`).
-/
import Mathlib
import Wormhole.Lib.Transition
import Wormhole.Alephium.Vm
import Wormhole.Alephium.Governance
import Wormhole.Alephium.TokenBridge
import Wormhole.Alephium.World
import Wormhole.Alephium.Publication

namespace Wormhole.Alephium

open Wormhole.Lib Wormhole.Lib.Transition Wormhole.Alephium.Vm
open Wormhole.Alephium.Governance (Body Crypto WormholeMessage publishMessage)

/-! ## Ids -/

/-- The event `WormholeMessage` of an entry of the log. -/
def Entry.message? : Entry → Option WormholeMessage
  | .published _ m => some m
  | _ => none

namespace World

/-- The events `WormholeMessage`, in order. -/
def messages (w : World) : List WormholeMessage := w.log.filterMap Entry.message?

/-- No two messages have the same sender and the same sequence number. -/
def UniqueIds (w : World) : Prop :=
  w.messages.Pairwise fun m m' => m.sender = m'.sender → m.sequence ≠ m'.sequence

theorem messages_record_published (w : World) (origin : ContractId) (m : WormholeMessage) :
    (w.record (.published origin m)).messages = w.messages ++ [m] := by
  simp [messages, Entry.message?]

/-- One message more. -/
theorem UniqueIds.append {w w' : World} {m : WormholeMessage} (h : w.UniqueIds)
    (hmessages : w'.messages = w.messages ++ [m])
    (hfresh : ∀ m' ∈ w.messages, m'.sender = m.sender → m'.sequence ≠ m.sequence) : w'.UniqueIds := by
  rw [UniqueIds, hmessages, List.pairwise_append]
  refine ⟨h, List.pairwise_singleton _ _, ?_⟩
  intro m' hm' m'' hm''
  rw [List.mem_singleton.mp hm'']
  exact hfresh m' hm'

end World

/-- **The condition.** Who publishes directly has not used the sequence number before. -/
def FreshSequence (w : World) (tx : Tx) : Prop :=
  ∀ caller sequence nonce payload consistencyLevel,
    tx.call = .publishMessage caller sequence nonce payload consistencyLevel →
    ∀ m ∈ w.messages, m.sender = caller → m.sequence ≠ sequence

/-! ## The counter of the token bridge -/

section TokenBridge

variable {distance : Nat} {bridgeId : ContractId} {t t' : TokenBridge.State}

theorem nextSequence_eq_some {sequence : Nat} (h : TokenBridge.nextSequence t = some (t', sequence)) :
    sequence = t.sequence ∧ t'.sequence = t.sequence + 1 := by
  simp only [TokenBridge.nextSequence, Option.bind_eq_bind, Option.bind_eq_some_iff, U256.add_eq_some,
    Option.pure_def, Option.some_inj] at h
  obtain ⟨_, ⟨-, rfl⟩, heq⟩ := h
  obtain ⟨rfl, rfl⟩ := Prod.mk.inj heq
  exact ⟨rfl, rfl⟩

/-- A message of the token bridge takes the next number. -/
structure Counted (bridgeId : ContractId) (t t' : TokenBridge.State) (m : WormholeMessage) : Prop where
  sender : m.sender = bridgeId
  sequence : m.sequence = t.sequence
  next : t'.sequence = t.sequence + 1

theorem counted_attestToken {tokenId nonce : ByteVec} {token : TokenInfo} {consistencyLevel : Nat}
    {m : WormholeMessage}
    (h : TokenBridge.attestToken bridgeId t tokenId token nonce consistencyLevel = some (t', m)) :
    Counted bridgeId t t' m := by
  simp only [TokenBridge.attestToken, Option.bind_eq_bind, Option.bind_eq_some_iff, Option.pure_def,
    Option.some_inj] at h
  obtain ⟨_, -, _, -, _, -, _, -, _, -, _, -, ⟨t₁, sequence⟩, hnext, heq⟩ := h
  obtain ⟨rfl, rfl⟩ := Prod.mk.inj heq
  obtain ⟨hsequence, hcount⟩ := nextSequence_eq_some hnext
  exact ⟨rfl, hsequence, hcount⟩

theorem counted_publishTransfer {caller : ContractId} {data nonce : ByteVec} {consistencyLevel : Nat}
    {m : WormholeMessage}
    (h : TokenBridge.publishTransfer bridgeId caller t data nonce consistencyLevel = some (t', m)) :
    Counted bridgeId t t' m := by
  simp only [TokenBridge.publishTransfer, Option.bind_eq_bind, Option.bind_eq_some_iff, Option.pure_def,
    Option.some_inj] at h
  obtain ⟨⟨t₁, sequence⟩, hnext, heq⟩ := h
  obtain ⟨rfl, rfl⟩ := Prod.mk.inj heq
  obtain ⟨hsequence, hcount⟩ := nextSequence_eq_some hnext
  exact ⟨rfl, hsequence, hcount⟩

/-- A registration publishes nothing. -/
theorem registerChain_sequence {msg : Body} {s : TokenBridgeForChain.State}
    (h : TokenBridge.registerChain distance bridgeId t msg = some (t', s)) : t'.sequence = t.sequence := by
  simp only [TokenBridge.registerChain, TokenBridge.parseRegisterChain,
    TokenBridge.verifyGovernanceVAA, Option.bind_eq_bind, Option.bind_eq_some_iff, Option.pure_def,
    Option.some_inj] at h
  obtain ⟨_, ⟨_, ⟨_, -, _, -, _, -, rfl⟩, _, -, _, -, _, -, _, -, _, -, _, -, _, -, _, -, _, -, rfl⟩,
    _, -, heq⟩ := h
  obtain rfl : _ = t' := congrArg Prod.fst heq
  rfl

end TokenBridge

/-! ## Every run -/

/-- The ids are unique, and those of the token bridge are below its counter. -/
structure Ids (w : World) : Prop where
  tokenBridge : w.contracts w.tokenBridgeId = some .deployed
  unique : w.UniqueIds
  counted : ∀ m ∈ w.messages, m.sender = w.tokenBridgeId → m.sequence < w.tokenBridge.sequence

namespace Ids

variable {crypto : Crypto} {distance : Nat} {w w' : World} {tx : Tx}

theorem of_fresh (h : w.Fresh) : Ids w := by
  have hnil : w.messages = [] := by rw [World.messages, h.log, List.filterMap_nil]
  refine ⟨h.tokenBridge, ?_, ?_⟩
  · rw [World.UniqueIds, hnil]
    exact List.Pairwise.nil
  · rw [hnil]
    nofun

/-- A call that publishes nothing. -/
theorem congr (h : Ids w) (htokenBridge : w'.contracts w'.tokenBridgeId = some .deployed)
    (hid : w'.tokenBridgeId = w.tokenBridgeId) (hmessages : w'.messages = w.messages)
    (hsequence : w'.tokenBridge.sequence = w.tokenBridge.sequence) : Ids w' := by
  refine ⟨htokenBridge, ?_, ?_⟩
  · rw [World.UniqueIds, hmessages]
    exact h.unique
  · rw [hmessages, hid, hsequence]
    exact h.counted

/-- The token bridge takes the next number. -/
theorem count (h : Ids w) {t' : TokenBridge.State} {origin : ContractId} {m : WormholeMessage}
    (hm : Counted w.tokenBridgeId w.tokenBridge t' m) :
    Ids ({ w with tokenBridge := t' }.record (.published origin m)) := by
  have hmessages := World.messages_record_published { w with tokenBridge := t' } origin m
  refine ⟨h.tokenBridge, h.unique.append hmessages ?_, ?_⟩
  · intro m' hm' hsender
    have hlt := h.counted m' hm' (hsender.trans hm.sender)
    rw [hm.sequence]
    exact hlt.ne
  · intro m' hm' hsender
    rw [hmessages] at hm'
    show m'.sequence < t'.sequence
    rw [hm.next]
    rcases List.mem_append.mp hm' with hold | hnew
    · exact (h.counted m' hold hsender).trans (Nat.lt_succ_self _)
    · rw [List.mem_singleton.mp hnew, hm.sequence]
      exact Nat.lt_succ_self _

/-- **Step.** A call keeps the ids unique unless its caller uses a number again. -/
theorem effect (h : Ids w) (hfresh : FreshSequence w tx) (heffect : Effect crypto distance w tx w') :
    Ids w' := by
  have htokenBridge : w'.contracts w'.tokenBridgeId = some .deployed := by
    rw [heffect.tokenBridgeId]
    exact heffect.contracts h.tokenBridge (by simp)
  have hid := heffect.tokenBridgeId
  cases heffect with
  | governance => exact h.congr htokenBridge hid rfl rfl
  | deploy => exact h.congr htokenBridge hid rfl rfl
  | publish caller sequence nonce payload consistencyLevel hcall hcaller =>
    have hmessages := World.messages_record_published w caller
      (publishMessage caller sequence nonce payload consistencyLevel)
    refine ⟨htokenBridge, h.unique.append hmessages ?_, ?_⟩
    · exact hfresh caller sequence nonce payload consistencyLevel hcall
    · intro m hm hsender
      rw [hmessages] at hm
      rcases List.mem_append.mp hm with hold | hnew
      · exact h.counted m hold hsender
      · -- the token bridge is not the caller
        rw [List.mem_singleton.mp hnew] at hsender
        have hsame : caller = w.tokenBridgeId := hsender
        rw [hsame, h.tokenBridge] at hcaller
        cases hcaller
  | register vaa new msg tokenBridge s hcall hmsg hregister hnew =>
    refine h.congr htokenBridge hid ?_ (registerChain_sequence hregister)
    simp [World.messages, Entry.message?]
  | attest tokenId token nonce consistencyLevel tokenBridge message hattest =>
    exact h.count (counted_attestToken hattest)
  | wrapFor | wrapOther | complete =>
    exact h.congr htokenBridge hid (by simp [World.messages, Entry.message?]) rfl
  | transfer wrapper toAddress amount arbiterFee nonce consistencyLevel s data tokenBridge message
      hcall hs hdata hbridge hpublish =>
    exact h.count (counted_publishTransfer hpublish)

end Ids

/-- **Message ids are unique.** In every run from a fresh world, of any calls by anybody, in which nobody
publishes directly under a sequence number that it has used before, no two `WormholeMessage` events with
the same sender carry the same sequence number. -/
theorem messageIds_unique {crypto : Crypto} {distance : Nat} {w₀ w : World} (hfresh : w₀.Fresh)
    (hrun : Run (step crypto distance) FreshSequence w₀ w) : w.UniqueIds := by
  have hids : Ids w := hrun.invariant
    (fun _ _ _ h hok hstep => h.effect hok (step_effect hstep)) (.of_fresh hfresh)
  exact hids.unique

/-! ## Inputs -/

/-- The contract 0xee.. publishes under a sequence number. -/
def publishAs (sequence : Nat) (payload : ByteVec) : Call :=
  .publishMessage (sampleId 0xee) sequence (List.replicate 4 0x00) payload 0

theorem publishAs_unique : (worldAfter [publishAs 0 [0x01], publishAs 1 [0x02]]).UniqueIds := by
  have hok : ∀ calls sequence payload,
      (∀ m ∈ (worldAfter calls).messages, m.sequence ≠ sequence) →
      FreshSequence (worldAfter calls) ⟨5, publishAs sequence payload⟩ := by
    intro calls sequence payload hnew caller sequence' nonce payload' level hcall m hm _
    obtain ⟨-, rfl, -⟩ := Call.publishMessage.inj hcall
    exact hnew m hm
  have hrun : Run (step Governance.Crypto.sample 64) FreshSequence freshWorld
      (worldAfter [publishAs 0 [0x01], publishAs 1 [0x02]]) :=
    run_worldAfter [publishAs 0 [0x01]] (run_worldAfter [] (Run.refl freshWorld) _
      (hok [] 0 _ (by decide +kernel))) _ (hok _ 1 _ (by decide +kernel))
  exact messageIds_unique freshWorld_fresh hrun

/-- **Two messages with one id.** A contract publishes two different messages under the number 0. -/
theorem publishAs_twice :
    Run (step Governance.Crypto.sample 64) (fun _ _ => True) freshWorld
      (worldAfter [publishAs 0 [0x01], publishAs 0 [0x02]]) ∧
    ¬(worldAfter [publishAs 0 [0x01], publishAs 0 [0x02]]).UniqueIds := by
  refine ⟨run_attempts (P := fun _ => True) _ _ fun _ _ => trivial, ?_⟩
  have hmessages : (worldAfter [publishAs 0 [0x01], publishAs 0 [0x02]]).messages =
      [publishMessage (sampleId 0xee) 0 (List.replicate 4 0x00) [0x01] 0,
        publishMessage (sampleId 0xee) 0 (List.replicate 4 0x00) [0x02] 0] := by decide +kernel
  intro hunique
  rw [World.UniqueIds, hmessages] at hunique
  exact (List.pairwise_cons.mp hunique).1 _ (List.mem_singleton_self _) rfl rfl

end Wormhole.Alephium

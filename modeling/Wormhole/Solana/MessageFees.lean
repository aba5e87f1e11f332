/-
# Wormhole.Solana.MessageFees — what the messages are posted for.

`post_message` does not take its fee.  It looks at the lamports of the fee collector, compares them with those
that the bridge remembers from the last message, and remembers the new ones; the payment is a plain transfer
before it.  So the collector must never have less than what is remembered.

`initialize` and `post_message` remember what is there, others only give, and `set_fees` moves nothing.
`transfer_fees` takes lamports out and leaves what is remembered as it is: the next messages fail until the
difference is paid once more.  `Spares` is the condition that it takes no more than has come in since the last
message; under it the fees are kept in every run, `feesKept_run`.
-/
import Mathlib
import Wormhole.Lib.Bytes
import Wormhole.Lib.Failing
import Wormhole.Lib.Codec
import Wormhole.Lib.Transition
import Wormhole.Solana.Payloads
import Wormhole.Solana.Solitaire
import Wormhole.Solana.Accounts
import Wormhole.Solana.Core
import Wormhole.Solana.Instructions
import Wormhole.Solana.PostedVaa

namespace Wormhole.Solana

open Wormhole.Lib Wormhole.Lib.Bytes Wormhole.Lib.Transition

/-! ## Lamports -/

section Lamports

variable {Pubkey : Type} [DecidableEq Pubkey] {P : Program Pubkey} {L L' : Ledger Pubkey}
  {m payer : AccountMeta Pubkey} {k : Pubkey} {n : Nat}

/-- The address has these lamports in what is returned. -/
abbrev Leaves (k : Pubkey) (n : Nat) : Result (Ledger Pubkey) → Prop :=
  Failing.Returns fun L => (L k).lamports = n

/-- To write data moves no lamports. -/
theorem leaves_persist {T : Type} [AccountData T] {t : T} (h : (L k).lamports = n) :
    Leaves k n (persist P L m t) := by
  intro L' hpersist
  unfold persist at hpersist
  split at hpersist
  · rwa [← Except.ok.inj hpersist]
  split at hpersist
  · rwa [← Except.ok.inj hpersist]
  split at hpersist
  · cases hpersist
  rw [← Except.ok.inj hpersist]
  by_cases hk : k = m.key
  · subst hk
    rwa [Ledger.write, Function.update_self]
  · rwa [Ledger.write, Function.update_of_ne hk]

/-- What leaves an account is on it, and nothing else changes. -/
theorem debit_lamports {signed : Option Pubkey} {amount : Nat} (h : debit P L m signed amount = .ok L') :
    amount ≤ (L m.key).lamports ∧ (L' m.key).lamports = (L m.key).lamports - amount := by
  obtain ⟨_, -, h⟩ := Failing.bind_eq_ok.mp h
  obtain ⟨_, -, h⟩ := Failing.bind_eq_ok.mp h
  obtain ⟨_, hamount, h⟩ := Failing.bind_eq_ok.mp h
  rw [← Except.ok.inj h, Function.update_self]
  exact ⟨ensure_eq_ok.mp hamount, rfl⟩

/-- A transfer to the account itself leaves it what it had. -/
theorem transfer_lamports {recipient : AccountMeta Pubkey} {signed : Option Pubkey} {amount : Nat}
    (h : transfer P L m recipient signed amount = .ok L') :
    amount ≤ (L m.key).lamports ∧
      (L' m.key).lamports =
        if recipient.key = m.key then (L m.key).lamports else (L m.key).lamports - amount := by
  obtain ⟨_, -, h⟩ := Failing.bind_eq_ok.mp h
  obtain ⟨L₁, hdebit, h⟩ := Failing.bind_eq_ok.mp h
  obtain ⟨hamount, hafter⟩ := debit_lamports hdebit
  rw [← Except.ok.inj h]
  refine ⟨hamount, ?_⟩
  by_cases hk : recipient.key = m.key
  · rw [if_pos hk, hk, Function.update_self]
    show (L₁ m.key).lamports + amount = _
    rw [hafter, Nat.sub_add_cancel hamount]
  · rw [if_neg hk, Function.update_of_ne (Ne.symm hk), hafter]

/-- An address that nobody signs for has the lamports it had. -/
theorem leaves_createAccount {signed : Option Pubkey} {lamports space : Nat} {owner : Pubkey}
    (hpayer : payer.isSigner = true → payer.key ≠ k) (hm : m.isSigner = true → m.key ≠ k)
    (hsigned : signed ≠ some k) (h : (L k).lamports = n) :
    Leaves k n (createAccount P L payer m signed lamports space owner) := by
  apply Failing.Returns.bind
  intro _ hcreator
  apply Failing.Returns.bind
  intro _ _
  apply Failing.Returns.bind
  intro _ _
  apply Failing.Returns.bind
  intro L₁ hdebit
  have hne : k ≠ m.key := by
    rintro rfl
    rcases (ensure_eq_ok.mp hcreator).2 with hsigner | hseeds
    · exact hm hsigner rfl
    · exact hsigned hseeds
  have hnePayer : k ≠ payer.key := by
    rintro rfl
    obtain ⟨_, hpays, -⟩ := Failing.bind_eq_ok.mp hdebit
    rcases (ensure_eq_ok.mp hpays).2 with hsigner | hseeds
    · exact hpayer hsigner rfl
    · cases hseeds
  apply Failing.Returns.ok
  rw [Function.update_of_ne hne, (debit_eq_ok hdebit).2 k hnePayer]
  exact h

end Lamports

namespace Core

variable {Pubkey : Type} [DecidableEq Pubkey] {P : CoreProgram Pubkey} {used : Set (List (List UInt8))}
  {L L' : Ledger Pubkey} {Signed : List UInt8 → List UInt8 → Prop} {input : Input Pubkey}

omit [DecidableEq Pubkey] in
/-- The address of the fee collector. -/
abbrev collectorKey (P : CoreProgram Pubkey) : Pubkey := P.derive [feeCollectorSeed]

section Balance

/-- Nobody signs for the fee collector. -/
abbrev Unsigned (P : CoreProgram Pubkey) (ms : List (AccountMeta Pubkey)) : Prop :=
  ∀ m ∈ ms, m.isSigner = true → m.key ≠ collectorKey P

variable {n : Nat}

omit [DecidableEq Pubkey] in
/-- The collector's seed has 13 bytes, so seeds of another length are derived elsewhere. -/
theorem derive_ne (hfree : P.CollisionFree used) {seeds : List (List UInt8)} (hused : seeds ∈ used)
    (h : seeds.flatten.length ≠ 13) : some (P.derive seeds) ≠ some (collectorKey P) :=
  fun heq => hfree.ne hused hfree.feeCollector h (Option.some.inj heq)

/-- A derived account that is created is not the collector, -/
theorem leaves_create (hfree : P.CollisionFree used) {payer m : AccountMeta Pubkey}
    (hs : Unsigned P [payer, m]) {T : Type} [AccountData T] {t : T} {seeds : List (List UInt8)}
    (hused : seeds ∈ used) (hseeds : seeds.flatten.length ≠ 13) (h : (L (collectorKey P)).lamports = n) :
    Leaves (collectorKey P) n (create P.toProgram L payer m seeds t) :=
  leaves_createAccount (hs payer (by simp)) (hs m (by simp)) (derive_ne hfree hused hseeds) h

/-- and neither is that of a claim. -/
theorem leaves_claimIt (hfree : P.CollisionFree used) {v : ClaimableVAA Pubkey} {payer : AccountMeta Pubkey}
    (hs : Unsigned P [payer, v.claim]) {m : MessageData} {claim : ClaimData} (hused : claimSeeds m ∈ used)
    (h : (L (collectorKey P)).lamports = n) :
    Failing.Returns (fun r => (r.1 (collectorKey P)).lamports = n)
      (v.claimIt P.toProgram L payer m claim) := by
  have hseeds : (claimSeeds m).flatten.length ≠ 13 := by
    rw [claimSeeds_length]
    decide
  apply Failing.Returns.bind
  intro _ _
  apply Failing.Returns.bind
  intro L₁ hcreate
  have hL₁ := leaves_create hfree hs hused hseeds h L₁ hcreate
  exact Failing.Returns.ok hL₁

/-- The seeds that come up in the input are in use. -/
abbrev Derived (P : CoreProgram Pubkey) (used : Set (List (List UInt8))) (L : Ledger Pubkey)
    (input : Input Pubkey) : Prop := ∀ seeds, input.Derives P L seeds → seeds ∈ used

/-- To post a message takes nothing from the collector and gives it nothing: the payer has paid before. -/
theorem leaves_postMessage (hfree : P.CollisionFree used) {accs : PostMessage Pubkey} {clock : Int}
    {data : PostMessageData} (hs : Unsigned P (Input.postMessage accs clock data).metas)
    (hused : Derived P used L (.postMessage accs clock data))
    (h : (L (collectorKey P)).lamports = n) :
    Leaves (collectorKey P) n (postMessage P L accs clock data) := by
  -- the checks
  iterate 17
    apply Failing.Returns.bind
    intro _ _
  have hopen : ∀ t, Leaves (collectorKey P) n (openSequence P L accs t) := by
    intro t
    unfold openSequence
    split
    · exact Failing.Returns.ok h
    · refine leaves_create hfree ?_ (hused _ rfl) (by rw [sequenceSeeds_length]; decide) h
      intro m hm
      exact hs m (by simp only [Input.metas, List.mem_cons] at hm ⊢; tauto)
  apply Failing.Returns.bind
  intro L₁ hopened
  have hL₁ := hopen _ L₁ hopened
  apply Failing.Returns.bind
  intro L₂ hcreate
  have hL₂ : (L₂ (collectorKey P)).lamports = n :=
    leaves_createAccount (hs accs.payer (by simp [Input.metas])) (hs accs.message (by simp [Input.metas]))
      (Option.some_ne_none _).symm hL₁ L₂ hcreate
  apply Failing.Returns.bind
  intro L₃ hpersist
  have hL₃ := leaves_persist hL₂ L₃ hpersist
  apply Failing.Returns.bind
  intro L₄ hpersist
  have hL₄ := leaves_persist hL₃ L₄ hpersist
  exact leaves_persist hL₄

/-- Nor does the verification of signatures, -/
theorem leaves_verifySignatures {accs : VerifySignatures Pubkey} {tx : List (Instruction Pubkey)}
    {current : UInt16} {data : VerifySignaturesData}
    (hs : Unsigned P (Input.verifySignatures accs tx current data).metas)
    (h : (L (collectorKey P)).lamports = n) :
    Leaves (collectorKey P) n (verifySignatures P L accs tx current data) := by
  iterate 15
    apply Failing.Returns.bind
    intro _ _
  have hopen : ∀ g s hash, Failing.Returns (fun r => (r.1 (collectorKey P)).lamports = n)
      (openSignatureSet P L accs g s hash) := by
    intro g s hash
    unfold openSignatureSet
    split
    · iterate 2
        apply Failing.Returns.bind
        intro _ _
      exact Failing.Returns.ok h
    · apply Failing.Returns.bind
      intro L₁ hcreate
      exact Failing.Returns.ok (leaves_createAccount (hs accs.payer (by simp [Input.metas]))
        (hs accs.signatureSet (by simp [Input.metas])) (Option.some_ne_none _).symm h L₁ hcreate)
  apply Failing.Returns.bind
  intro opened hopen'
  have hopened := hopen _ _ _ opened hopen'
  apply Failing.Returns.bind
  intro _ _
  exact leaves_persist hopened

/-- nor a posted VAA, -/
theorem leaves_postVaa (hfree : P.CollisionFree used) {accs : PostVAA Pubkey} {clock : Int} {vaa : PostVAAData}
    (hs : Unsigned P (Input.postVaa accs clock vaa).metas) (hused : Derived P used L (.postVaa accs clock vaa))
    (h : (L (collectorKey P)).lamports = n) :
    Leaves (collectorKey P) n (postVaa P L accs clock vaa) := by
  iterate 3
    apply Failing.Returns.bind
    intro _ _
  apply Failing.Returns.bind
  intro signatureSet hsignatureSet
  iterate 7
    apply Failing.Returns.bind
    intro _ _
  split
  · exact leaves_persist h
  have hseeds : (postedVaaSeeds signatureSet.hash).flatten.length ≠ 13 := by
    rw [postedVaaSeeds_length]
    decide
  have hs' : Unsigned P [accs.payer, accs.message] := by
    intro m hm
    exact hs m (by simp only [Input.metas, List.mem_cons] at hm ⊢; tauto)
  iterate 4
    apply Failing.Returns.bind
    intro _ _
  apply Failing.Returns.bind
  intro L₁ hcreate
  have hposted := hused _ ⟨signatureSet, peelSignatureSet hsignatureSet, rfl⟩
  have hL₁ := leaves_create hfree hs' hposted hseeds h L₁ hcreate
  exact leaves_persist hL₁

/-- nor a new guardian set, -/
theorem leaves_upgradeGuardianSet (hfree : P.CollisionFree used) {accs : UpgradeGuardianSet Pubkey} {clock : Int}
    (hs : Unsigned P (Input.upgradeGuardianSet accs clock).metas)
    (hused : Derived P used L (.upgradeGuardianSet accs clock)) (h : (L (collectorKey P)).lamports = n) :
    Leaves (collectorKey P) n (upgradeGuardianSet P L accs) := by
  iterate 5
    apply Failing.Returns.bind
    intro _ _
  apply Failing.Returns.bind
  intro vaa hvaa
  iterate 10
    apply Failing.Returns.bind
    intro _ _
  have hsClaim : Unsigned P [accs.payer, accs.vaa.claim] := by
    intro m hm
    exact hs m (by simp only [Input.metas, List.mem_cons] at hm ⊢; tauto)
  have hsNew : Unsigned P [accs.payer, accs.guardianSetNew] := by
    intro m hm
    exact hs m (by simp only [Input.metas, List.mem_cons] at hm ⊢; tauto)
  have hseeds : (guardianSetSeeds (UInt32.ofNat vaa.2.1.newGuardianSetIndex)).flatten.length ≠ 13 := by
    rw [guardianSetSeeds_length]
    decide
  apply Failing.Returns.bind
  intro claimed hclaim
  have hclaimUsed := hused _ ⟨vaa.1, ClaimableVAA.peel_read hvaa, rfl⟩
  have hclaimed := leaves_claimIt hfree hsClaim hclaimUsed h claimed hclaim
  apply Failing.Returns.bind
  intro _ _
  apply Failing.Returns.bind
  intro L₁ hcreate
  have hL₁ := leaves_create hfree hsNew (hfree.guardianSet _) hseeds hclaimed L₁ hcreate
  apply Failing.Returns.bind
  intro L₂ hpersist
  have hL₂ := leaves_persist hL₁ L₂ hpersist
  apply Failing.Returns.bind
  intro L₃ hpersist
  have hL₃ := leaves_persist hL₂ L₃ hpersist
  apply Failing.Returns.bind
  intro L₄ hpersist
  have hL₄ := leaves_persist hL₃ L₄ hpersist
  exact leaves_persist hL₄

/-- nor a new fee. -/
theorem leaves_setFees (hfree : P.CollisionFree used) {accs : SetFees Pubkey}
    (hs : Unsigned P (Input.setFees accs).metas) (hused : Derived P used L (.setFees accs))
    (h : (L (collectorKey P)).lamports = n) : Leaves (collectorKey P) n (setFees P L accs) := by
  iterate 5
    apply Failing.Returns.bind
    intro _ _
  apply Failing.Returns.bind
  intro vaa hvaa
  iterate 2
    apply Failing.Returns.bind
    intro _ _
  have hsClaim : Unsigned P [accs.payer, accs.vaa.claim] := by
    intro m hm
    exact hs m (by simp only [Input.metas, List.mem_cons] at hm ⊢; tauto)
  apply Failing.Returns.bind
  intro claimed hclaim
  have hclaimUsed := hused _ ⟨vaa.1, ClaimableVAA.peel_read hvaa, rfl⟩
  have hclaimed := leaves_claimIt hfree hsClaim hclaimUsed h claimed hclaim
  apply Failing.Returns.bind
  intro _ _
  apply Failing.Returns.bind
  intro L₁ hpersist
  have hL₁ := leaves_persist hclaimed L₁ hpersist
  exact leaves_persist hL₁

end Balance

/-! ## The bridge's memory -/

section Memory

/-- The bridge has these data. -/
abbrev HoldsBridge (P : CoreProgram Pubkey) (L : Ledger Pubkey) (b : BridgeData) : Prop :=
  Holds P.toProgram L (bridgeKey P) (BridgeData.codec.write b)

/-- What `initialize` remembers is the rent of the collector, which it has just created. -/
theorem initializeBridge_fees {accs : Initialize Pubkey} {clock : Int} {data : InitializeData}
    (h : initializeBridge P L accs clock data = .ok L') :
    ∃ b, HoldsBridge P L' b ∧ b.lastLamports.toNat = minimumBalance 0 ∧
      (L' (collectorKey P)).lamports = minimumBalance 0 := by
  obtain ⟨_, hmutBridge, h⟩ := Failing.bind_eq_ok.mp h
  obtain ⟨_, hbridgeKey, h⟩ := Failing.bind_eq_ok.mp h
  obtain ⟨bridge, -, h⟩ := Failing.bind_eq_ok.mp h
  obtain ⟨_, -, h⟩ := Failing.bind_eq_ok.mp h
  obtain ⟨gs, -, h⟩ := Failing.bind_eq_ok.mp h
  obtain ⟨_, -, h⟩ := Failing.bind_eq_ok.mp h
  obtain ⟨_, hcollectorKey, h⟩ := Failing.bind_eq_ok.mp h
  obtain ⟨_, -, h⟩ := Failing.bind_eq_ok.mp h
  obtain ⟨_, -, h⟩ := Failing.bind_eq_ok.mp h
  obtain ⟨_, -, h⟩ := Failing.bind_eq_ok.mp h
  obtain ⟨_, -, h⟩ := Failing.bind_eq_ok.mp h
  obtain ⟨L₁, hcreateGs, h⟩ := Failing.bind_eq_ok.mp h
  obtain ⟨L₂, hcreateBridge, h⟩ := Failing.bind_eq_ok.mp h
  obtain ⟨L₃, hcreateFee, h⟩ := Failing.bind_eq_ok.mp h
  obtain ⟨L₄, hpersistBridge, h⟩ := Failing.bind_eq_ok.mp h
  rw [peelMut, ensure_eq_ok] at hmutBridge
  rw [peelDerive, ensure_eq_ok] at hbridgeKey hcollectorKey
  have hbridgeCreated := create_eq_ok hcreateBridge
  have hfeeCreated := createAccount_eq_ok hcreateFee
  have hgsCreated := create_eq_ok hcreateGs
  have hne : accs.guardianSet.key ≠ accs.bridge.key := hbridgeCreated.ne_of_holds hgsCreated.holds
  have hlamports : (L₃ accs.feeCollector.key).lamports = minimumBalance 0 := createAccount_lamports hcreateFee
  -- the collector is created behind the bridge, and then the bridge is written
  have hbridgeAfter := hbridgeCreated.holds
  have hbridgeAfter := (hfeeCreated.kept _ (hfeeCreated.ne_of_holds hbridgeAfter)).holds hbridgeAfter
  have hbridgeAfter := (persist_eq_ok hpersistBridge).holds hmutBridge hbridgeAfter (by
    rw [List.length_replicate]
    exact (BridgeData.write_length _).trans (BridgeData.write_length _).symm)
  have hbridgeAfter := ((persist_eq_ok h).kept hne.symm).holds hbridgeAfter
  refine ⟨{ bridge with
    guardianSetIndex := 0
    config := ⟨data.guardianSetExpirationTime, data.fee⟩
    lastLamports := UInt64.ofNat (L₃ accs.feeCollector.key).lamports }, ?_, ?_, ?_⟩
  · rw [HoldsBridge, bridgeKey, hbridgeKey]
    exact hbridgeAfter
  · show (UInt64.ofNat (L₃ accs.feeCollector.key).lamports).toNat = minimumBalance 0
    rw [hlamports]
    decide
  · rw [collectorKey, hcollectorKey]
    exact leaves_persist (leaves_persist hlamports L₄ hpersistBridge) L' h

/-- `post_message` remembers what the collector has; the fee is there above what was remembered. -/
theorem postMessage_fees {accs : PostMessage Pubkey} {clock : Int} {data : PostMessageData}
    (h : postMessage P L accs clock data = .ok L') :
    ∃ b, HoldsBridge P L b ∧ b.lastLamports.toNat ≤ (L (collectorKey P)).lamports ∧
      b.config.fee.toNat ≤ (L (collectorKey P)).lamports - b.lastLamports.toNat ∧
      HoldsBridge P L' { b with lastLamports := UInt64.ofNat (L (collectorKey P)).lamports } := by
  obtain ⟨_, hmutBridge, h⟩ := Failing.bind_eq_ok.mp h
  obtain ⟨_, hbridgeKey, h⟩ := Failing.bind_eq_ok.mp h
  obtain ⟨bridge, hbridge, h⟩ := Failing.bind_eq_ok.mp h
  obtain ⟨_, -, h⟩ := Failing.bind_eq_ok.mp h
  obtain ⟨_, -, h⟩ := Failing.bind_eq_ok.mp h
  obtain ⟨message, -, h⟩ := Failing.bind_eq_ok.mp h
  obtain ⟨_, -, h⟩ := Failing.bind_eq_ok.mp h
  obtain ⟨_, -, h⟩ := Failing.bind_eq_ok.mp h
  obtain ⟨sequence, hsequence, h⟩ := Failing.bind_eq_ok.mp h
  obtain ⟨_, -, h⟩ := Failing.bind_eq_ok.mp h
  obtain ⟨_, -, h⟩ := Failing.bind_eq_ok.mp h
  obtain ⟨_, -, h⟩ := Failing.bind_eq_ok.mp h
  obtain ⟨_, hcollectorKey, h⟩ := Failing.bind_eq_ok.mp h
  obtain ⟨_, -, h⟩ := Failing.bind_eq_ok.mp h
  obtain ⟨_, -, h⟩ := Failing.bind_eq_ok.mp h
  obtain ⟨_, hremembered, h⟩ := Failing.bind_eq_ok.mp h
  obtain ⟨_, hfee, h⟩ := Failing.bind_eq_ok.mp h
  obtain ⟨L₁, hopen, h⟩ := Failing.bind_eq_ok.mp h
  obtain ⟨L₂, hcreate, h⟩ := Failing.bind_eq_ok.mp h
  obtain ⟨L₃, hpersistBridge, h⟩ := Failing.bind_eq_ok.mp h
  obtain ⟨L₄, hpersistMessage, h⟩ := Failing.bind_eq_ok.mp h
  rw [peelMut, ensure_eq_ok] at hmutBridge
  rw [peelDerive, ensure_eq_ok] at hbridgeKey hcollectorKey
  rw [ensure_eq_ok] at hremembered hfee
  simp only [HoldsBridge, collectorKey, bridgeKey, hcollectorKey, hbridgeKey]
  have hbridgeHolds := peelBridge hbridge
  obtain ⟨hkept, hneSequence, -⟩ := openSequence_eq_ok hsequence hbridgeHolds hopen
  have hcreated := createAccount_eq_ok hcreate
  have hbridgeAfter := (hkept _ hneSequence.symm).holds hbridgeHolds
  have hneMessage : accs.bridge.key ≠ accs.message.key := hcreated.ne_of_holds hbridgeAfter
  have hbridgeAfter := (hcreated.kept _ hneMessage).holds hbridgeAfter
  have hbridgeAfter := (persist_eq_ok hpersistBridge).holds hmutBridge hbridgeAfter
    ((BridgeData.write_length _).trans (BridgeData.write_length _).symm)
  have hbridgeAfter := ((persist_eq_ok hpersistMessage).kept hneMessage).holds hbridgeAfter
  have hbridgeAfter := ((persist_eq_ok h).kept hneSequence.symm).holds hbridgeAfter
  exact ⟨bridge, hbridgeHolds, hremembered, hfee, hbridgeAfter⟩

/-- `transfer_fees` takes its amount from the collector, and the bridge is not written. -/
theorem transferFees_fees (hfree : P.CollisionFree used) {accs : TransferFees Pubkey}
    (hs : Unsigned P (Input.transferFees accs).metas) (hused : Derived P used L (.transferFees accs))
    (h : transferFees P L accs = .ok L') :
    ∃ m c b, MessageData.deserialize (L accs.vaa.message.key).data = .ok m ∧
      GovernancePayloadTransferFees.deserialize m.payload.val = .ok c ∧ HoldsBridge P L b ∧
      HoldsBridge P L' b ∧ c.amount ≤ (L (collectorKey P)).lamports ∧
      (L' (collectorKey P)).lamports =
        if accs.recipient.key = collectorKey P then (L (collectorKey P)).lamports
        else (L (collectorKey P)).lamports - c.amount := by
  obtain ⟨_, -, h⟩ := Failing.bind_eq_ok.mp h
  obtain ⟨_, -, h⟩ := Failing.bind_eq_ok.mp h
  obtain ⟨_, hbridgeKey, h⟩ := Failing.bind_eq_ok.mp h
  obtain ⟨bridge, hbridge, h⟩ := Failing.bind_eq_ok.mp h
  obtain ⟨vaa, hvaa, h⟩ := Failing.bind_eq_ok.mp h
  obtain ⟨_, -, h⟩ := Failing.bind_eq_ok.mp h
  obtain ⟨_, hcollectorKey, h⟩ := Failing.bind_eq_ok.mp h
  obtain ⟨_, -, h⟩ := Failing.bind_eq_ok.mp h
  obtain ⟨_, -, h⟩ := Failing.bind_eq_ok.mp h
  obtain ⟨_, -, h⟩ := Failing.bind_eq_ok.mp h
  obtain ⟨_, -, h⟩ := Failing.bind_eq_ok.mp h
  obtain ⟨_, -, h⟩ := Failing.bind_eq_ok.mp h
  obtain ⟨amount, hamount, h⟩ := Failing.bind_eq_ok.mp h
  obtain ⟨_, -, h⟩ := Failing.bind_eq_ok.mp h
  obtain ⟨claimed, hclaim, h⟩ := Failing.bind_eq_ok.mp h
  obtain ⟨L₁, htransfer, h⟩ := Failing.bind_eq_ok.mp h
  rw [peelDerive, ensure_eq_ok] at hbridgeKey hcollectorKey
  have hbridgeHolds := peelBridge hbridge
  obtain ⟨-, -, hpayload, -, -⟩ := ClaimableVAA.peel_eq_ok hvaa
  have hm := ClaimableVAA.peel_read hvaa
  have hcreated := ClaimableVAA.claimIt_eq_ok hclaim
  have hne : accs.bridge.key ≠ accs.vaa.claim.key := hcreated.ne_of_holds hbridgeHolds
  have hbridgeAfter := (hcreated.kept _ hne).holds hbridgeHolds
  have hbridgeAfter := (transfer_eq_ok htransfer _).holds hbridgeAfter
  have hbridgeAfter := ((persist_eq_ok h).kept hne).holds hbridgeAfter
  have hsClaim : Unsigned P [accs.payer, accs.vaa.claim] := by
    intro m hm
    exact hs m (by simp only [Input.metas, List.mem_cons] at hm ⊢; tauto)
  have hbefore : (claimed.1 accs.feeCollector.key).lamports = (L accs.feeCollector.key).lamports := by
    rw [← hcollectorKey]
    exact leaves_claimIt hfree hsClaim (hused _ ⟨vaa.1, hm, rfl⟩) rfl claimed hclaim
  obtain ⟨hle, hafter⟩ := transfer_lamports htransfer
  rw [hbefore] at hle hafter
  rw [asU64_eq_ok hamount] at hle hafter
  refine ⟨vaa.1, vaa.2.1, bridge, hm, hpayload, ?_, ?_, ?_, ?_⟩
  · rw [HoldsBridge, bridgeKey, hbridgeKey]
    exact hbridgeHolds
  · rw [HoldsBridge, bridgeKey, hbridgeKey]
    exact hbridgeAfter
  · rw [collectorKey, hcollectorKey]
    exact hle
  · rw [collectorKey, hcollectorKey]
    exact leaves_persist hafter L' h

end Memory

/-! ## The fee check -/

section FeeCheck

/-- `post_message` does not fail for its fee. -/
def FeeAccepted (r : Result (Ledger Pubkey)) : Prop :=
  Failing.Never Error.mathOverflow.into r ∧ Failing.Never Error.insufficientFees.into r

/-- A payment into the collector, with whatever else does not touch the bridge. -/
structure Pays (P : CoreProgram Pubkey) (L L' : Ledger Pubkey) (fee : UInt64) : Prop where
  bridge : Kept P.toProgram L L' (bridgeKey P)
  collector : (L (collectorKey P)).lamports + fee.toNat ≤ (L' (collectorKey P)).lamports

variable {code : Nat}

omit [DecidableEq Pubkey] in
/-- The bridge's data fail to be read with an I/O error only, -/
theorem never_bridge (bs : List UInt8) :
    Failing.Never (.custom code) (AccountData.deserialize bs : Result BridgeData) := by
  have hcodec : BridgeData.codec.FailsWith .ioError := by
    apply Codec.FailsWith.iso
    exact .pair .uint32 (.pair .uint64 (.pair .uint32 .uint64))
  exact hcodec.decode (by simp)

omit [DecidableEq Pubkey] in
/-- and so do those of a counter. -/
theorem never_sequence (bs : List UInt8) :
    Failing.Never (.custom code) (AccountData.deserialize bs : Result SequenceTracker) := by
  have hcodec : SequenceTracker.codec.FailsWith .ioError := by
    apply Codec.FailsWith.iso
    exact .uint64
  exact hcodec.decode (by simp)

/-- A new account is refused with one of the framework's errors. -/
theorem never_peelUninitialized {T : Type} [AccountData T] {owner : Pubkey} {immutable : Bool}
    {m : AccountMeta Pubkey} :
    Failing.Never (.custom code) (peelData T .uninitialized owner L immutable m) := by
  apply Failing.Never.bind (ensure_never (by simp))
  intro _ _
  apply Failing.Never.bind (ensure_never (by simp))
  intro _ _
  exact .ok

/-- Only the fee check fails with an error of the program's own. -/
theorem postMessage_never {accs : PostMessage Pubkey} {clock : Int} {data : PostMessageData} {b : BridgeData}
    (hb : HoldsBridge P L b) (hcovered : b.lastLamports.toNat ≤ (L (collectorKey P)).lamports)
    (hfee : b.config.fee.toNat ≤ (L (collectorKey P)).lamports - b.lastLamports.toNat) :
    Failing.Never (.custom code) (postMessage P L accs clock data) := by
  apply Failing.Never.bind (ensure_never (by simp))
  intro _ _
  apply Failing.Never.bind (ensure_never (by simp))
  intro _ hbridgeKey
  apply Failing.Never.bind (peelData_never (by simp) (by simp) (by simp) never_bridge)
  intro bridge hbridge
  rw [ensure_eq_ok] at hbridgeKey
  have hread := peelBridge hbridge
  rw [← hbridgeKey] at hread
  obtain rfl : bridge = b := codec_inj hread hb
  iterate 2
    apply Failing.Never.bind (ensure_never (by simp))
    intro _ _
  apply Failing.Never.bind never_peelUninitialized
  intro _ _
  iterate 2
    apply Failing.Never.bind (ensure_never (by simp))
    intro _ _
  apply Failing.Never.bind (peelData_never (by simp) (by simp) (by simp) never_sequence)
  intro sequence _
  iterate 3
    apply Failing.Never.bind (ensure_never (by simp))
    intro _ _
  apply Failing.Never.bind (ensure_never (by simp))
  intro _ hcollectorKey
  rw [ensure_eq_ok] at hcollectorKey
  rw [collectorKey, hcollectorKey] at hcovered hfee
  iterate 2
    apply Failing.Never.bind (ensure_never (by simp))
    intro _ _
  -- the fee check passes
  rw [ensure, if_pos hcovered, Failing.ok_bind, ensure, if_pos hfee, Failing.ok_bind]
  have hopen : Failing.Never (.custom code) (openSequence P L accs sequence) := by
    unfold openSequence
    split
    · exact .ok
    · exact createAccount_never (by simp)
  apply Failing.Never.bind hopen
  intro _ _
  apply Failing.Never.bind (createAccount_never (by simp))
  intro _ _
  iterate 2
    apply Failing.Never.bind (persist_never (by simp))
    intro _ _
  exact persist_never (by simp)

/-- A message is accepted behind a payment of the fee, when the collector has what is remembered. -/
theorem feeAccepted_of_pays {b : BridgeData} (hb : HoldsBridge P L b)
    (hcovered : b.lastLamports.toNat ≤ (L (collectorKey P)).lamports) (hpays : Pays P L L' b.config.fee)
    (accs : PostMessage Pubkey) (clock : Int) (data : PostMessageData) :
    FeeAccepted (postMessage P L' accs clock data) := by
  have hcollector := hpays.collector
  have hb' : HoldsBridge P L' b := hpays.bridge.holds hb
  exact ⟨postMessage_never hb' (by omega) (by omega), postMessage_never hb' (by omega) (by omega)⟩

end FeeCheck

/-! ## Steps -/

section Steps

/-- A message that was posted: its fee, and the lamports of the collector, from the first to behind the last,
that it was posted for. -/
structure Posting where
  fee : Nat
  first : Nat
  last : Nat
  deriving DecidableEq

/-- What an input that succeeds posts. -/
def posting (P : CoreProgram Pubkey) (L : Ledger Pubkey) : Input Pubkey → List Posting
  | .postMessage _ _ _ =>
    match (AccountData.deserialize (L (bridgeKey P)).data : Result BridgeData) with
    | .ok b => [⟨b.config.fee.toNat, b.lastLamports.toNat, (L (collectorKey P)).lamports⟩]
    | .error _ => []
  | _ => []

omit [DecidableEq Pubkey] in
/-- A message is posted for the lamports from what is remembered up to what is there. -/
theorem posting_postMessage {b : BridgeData} (hb : HoldsBridge P L b) (accs : PostMessage Pubkey)
    (clock : Int) (data : PostMessageData) :
    posting P L (.postMessage accs clock data) =
      [⟨b.config.fee.toNat, b.lastLamports.toNat, (L (collectorKey P)).lamports⟩] := by
  have hread : (AccountData.deserialize (L (bridgeKey P)).data : Result BridgeData) = .ok b := by
    rw [hb.2]
    exact Codec.decode_eq_ok.mpr rfl
  rw [posting, hread]

/-- The ledger and the messages that were posted, in their order. -/
abbrev feeStep (P : CoreProgram Pubkey) :
    Ledger Pubkey × List Posting → Input Pubkey → Option (Ledger Pubkey × List Posting) :=
  logging (step P) (posting P)

/-- What the runtime promises of the collector: lamports have 64 bits, and others only give. -/
structure Input.Funded (P : CoreProgram Pubkey) (L : Ledger Pubkey) (input : Input Pubkey) : Prop where
  bounded : (L (collectorKey P)).lamports < 2 ^ 64
  others : ∀ L', input = .others L' → (L (collectorKey P)).lamports ≤ (L' (collectorKey P)).lamports

/-- A transfer of fees takes no more than what the collector has above the remembered lamports, or it goes to
the collector itself. -/
def Input.Spares (P : CoreProgram Pubkey) (L : Ledger Pubkey) : Input Pubkey → Prop
  | .transferFees accs => ∀ m c b, MessageData.deserialize (L accs.vaa.message.key).data = .ok m →
      GovernancePayloadTransferFees.deserialize m.payload.val = .ok c → HoldsBridge P L b →
        accs.recipient.key = collectorKey P ∨
          c.amount + b.lastLamports.toNat ≤ (L (collectorKey P)).lamports
  | _ => True

/-- What a step does to the bridge's memory and the collector, by what it posts. -/
inductive FeeStep (P : CoreProgram Pubkey) (L L' : Ledger Pubkey) : List Posting → Prop
  | absent (before : (L (bridgeKey P)).owner ≠ P.programId) (after : (L' (bridgeKey P)).owner ≠ P.programId) :
    FeeStep P L L' []
  | created (before : (L (bridgeKey P)).owner ≠ P.programId) (b : BridgeData) (after : HoldsBridge P L' b)
      (covered : b.lastLamports.toNat ≤ (L' (collectorKey P)).lamports) : FeeStep P L L' []
  | kept (b b' : BridgeData) (before : HoldsBridge P L b) (after : HoldsBridge P L' b')
      (remembered : b'.lastLamports = b.lastLamports)
      (covered : b.lastLamports.toNat ≤ (L (collectorKey P)).lamports →
        b.lastLamports.toNat ≤ (L' (collectorKey P)).lamports) : FeeStep P L L' []
  | posted (b : BridgeData) (before : HoldsBridge P L b)
      (paid : b.lastLamports.toNat + b.config.fee.toNat ≤ (L (collectorKey P)).lamports)
      (after : HoldsBridge P L' { b with lastLamports := UInt64.ofNat (L (collectorKey P)).lamports })
      (same : (L' (collectorKey P)).lamports = (L (collectorKey P)).lamports) :
    FeeStep P L L' [⟨b.config.fee.toNat, b.lastLamports.toNat, (L (collectorKey P)).lamports⟩]

omit [DecidableEq Pubkey] in
/-- An admissible input is not signed by the collector, since its seeds are in use. -/
theorem Input.Admissible.unsigned (hfree : P.CollisionFree used) (h : input.Admissible P used Signed L) :
    Unsigned P input.metas := by
  intro m hm hsigner heq
  exact h.signers m hm hsigner ⟨_, hfree.feeCollector, heq⟩

/-- A step that leaves the bridge alone. -/
theorem FeeStep.of_kept (hkept : Kept P.toProgram L L' (bridgeKey P))
    (hbridge : (L (bridgeKey P)).owner = P.programId → ∃ b, HoldsBridge P L b)
    (hle : (L (collectorKey P)).lamports ≤ (L' (collectorKey P)).lamports) : FeeStep P L L' [] := by
  by_cases howner : (L (bridgeKey P)).owner = P.programId
  · obtain ⟨b, hb⟩ := hbridge howner
    exact .kept b b hb (hkept.holds hb) rfl fun h => h.trans hle
  · exact .absent howner fun h => howner (hkept.1.mp h)

/-- **One step.** -/
theorem fees_step (hfree : P.CollisionFree used) (hadmissible : input.Admissible P used Signed L)
    (hfunded : input.Funded P L) (hspares : input.Spares P L) (hstep : step P L input = some L')
    (hbridge : (L (bridgeKey P)).owner = P.programId → ∃ b, HoldsBridge P L b) :
    FeeStep P L L' (posting P L input) := by
  have h : execute P L input = .ok L' := Failing.toOption_eq_some hstep
  have hs := hadmissible.unsigned hfree
  have hused := hadmissible.seeds
  cases input with
  | initializeBridge accs clock data =>
    obtain ⟨b, hb, hlast, hlamports⟩ := initializeBridge_fees h
    exact .created (initializeBridge_eq_ok h).newBridge b hb (by omega)
  | postMessage accs clock data =>
    obtain ⟨b, hb, hcovered, hfee, hb'⟩ := postMessage_fees h
    rw [posting_postMessage hb]
    exact .posted b hb (by omega) hb' (leaves_postMessage hfree hs hused rfl L' h)
  | verifySignatures accs tx current data =>
    obtain ⟨g, msgHash, secpIxs, hdone, -⟩ := verifySignatures_eq_ok h
    have hne : bridgeKey P ≠ accs.signatureSet.key := by
      intro heq
      refine hadmissible.signers accs.signatureSet (by simp [Input.metas]) hdone.signer ?_
      exact ⟨_, hfree.bridge, heq.symm⟩
    exact .of_kept (hdone.others _ hne) hbridge (leaves_verifySignatures hs rfl L' h).ge
  | postVaa accs clock vaa =>
    have hkept : Kept P.toProgram L L' (bridgeKey P) := by
      rcases postVaa_eq_ok h with ⟨-, hdone⟩ | ⟨-, g, s, hdone⟩
      · obtain ⟨s, hset, hkey⟩ := hdone.messageKey
        obtain ⟨m, -, hpersisted⟩ := hdone.message
        refine hpersisted.kept ?_
        rw [hkey]
        refine hfree.ne hfree.bridge (hused _ ⟨s, hset, rfl⟩) ?_
        rw [postedVaaSeeds_length]
        decide
      · refine hdone.others _ (hfree.ne hfree.bridge (hused _ ⟨s, hdone.signatureSet, rfl⟩) ?_)
        rw [postedVaaSeeds_length]
        decide
    exact .of_kept hkept hbridge (leaves_postVaa hfree hs hused rfl L' h).ge
  | upgradeGuardianSet accs clock =>
    obtain ⟨m, bridge, old, new, -, hdone⟩ := upgradeGuardianSet_eq_ok hfree h
    have hsame := leaves_upgradeGuardianSet hfree hs hused rfl L' h
    exact .kept bridge _ hdone.bridgeBefore hdone.bridgeAfter rfl fun hle => hle.trans hsame.ge
  | setFees accs =>
    obtain ⟨b, fee, hb, hb'⟩ := setFees_bridge h
    have hsame := leaves_setFees hfree hs hused rfl L' h
    exact .kept b _ hb hb' rfl fun hle => hle.trans hsame.ge
  | transferFees accs =>
    obtain ⟨m, c, b, hm, hc, hb, hb', hle, hafter⟩ := transferFees_fees hfree hs hused h
    have hspared : accs.recipient.key = collectorKey P ∨
        c.amount + b.lastLamports.toNat ≤ (L (collectorKey P)).lamports := hspares m c b hm hc hb
    refine .kept b b hb hb' rfl ?_
    intro hcovered
    rw [hafter]
    split
    · exact hcovered
    · rcases hspared with hself | hamount
      · exact absurd hself ‹_›
      · omega
  | others Ln =>
    obtain rfl := Except.ok.inj h
    rcases hadmissible.others Ln rfl (bridgeKey P) with hkept | ⟨hfresh, -, -⟩
    · exact .of_kept hkept hbridge (hfunded.others Ln rfl)
    · exact absurd ⟨_, hfree.bridge, rfl⟩ hfresh

/-- The condition is no more than is needed: a transfer that leaves the collector with what is remembered
meets it. -/
theorem Input.Spares.of_covered (hfree : P.CollisionFree used) {accs : TransferFees Pubkey}
    (hadmissible : Input.Admissible P used Signed L (.transferFees accs))
    (hstep : step P L (.transferFees accs) = some L')
    (hcovered : ∀ b, HoldsBridge P L' b → b.lastLamports.toNat ≤ (L' (collectorKey P)).lamports) :
    Input.Spares P L (.transferFees accs) := by
  obtain ⟨m, c, b, hm, hc, hb, hb', hle, hafter⟩ :=
    transferFees_fees hfree (hadmissible.unsigned hfree) hadmissible.seeds (Failing.toOption_eq_some hstep)
  intro m' c' b' hm' hc' hbefore
  obtain rfl : m = m' := Except.ok.inj (hm.symm.trans hm')
  obtain rfl : c = c' := Except.ok.inj (hc.symm.trans hc')
  obtain rfl : b = b' := codec_inj hb hbefore
  by_cases hself : accs.recipient.key = collectorKey P
  · exact .inl hself
  · have hcollector := hcovered b hb'
    rw [hafter, if_neg hself] at hcollector
    exact .inr (by omega)

end Steps

/-! ## Runs -/

section Runs

variable {s t : Ledger Pubkey × List Posting}

/-- The fees are kept: the collector has what is remembered, a payment of the fee is enough for a message, and
the messages were posted for lamports of the collector, no two for the same. -/
structure FeesKept (P : CoreProgram Pubkey) (s : Ledger Pubkey × List Posting) : Prop where
  covered : ∀ b, HoldsBridge P s.1 b → b.lastLamports.toNat ≤ (s.1 (collectorKey P)).lamports
  accepted : ∀ b, HoldsBridge P s.1 b → ∀ L', Pays P s.1 L' b.config.fee → ∀ accs clock data,
    FeeAccepted (postMessage P L' accs clock data)
  paid : ∀ p ∈ s.2, p.first + p.fee ≤ p.last ∧ p.last ≤ (s.1 (collectorKey P)).lamports
  apart : s.2.Pairwise fun p q => p.last ≤ q.first

/-- The invariant: what is remembered is where the last message's lamports end. -/
structure Balanced (P : CoreProgram Pubkey) (s : Ledger Pubkey × List Posting) : Prop where
  remembered : ((s.1 (bridgeKey P)).owner ≠ P.programId ∧ s.2 = []) ∨
    ∃ b, HoldsBridge P s.1 b ∧ b.lastLamports.toNat ≤ (s.1 (collectorKey P)).lamports ∧
      ∀ p ∈ s.2, p.last ≤ b.lastLamports.toNat
  paid : ∀ p ∈ s.2, p.first + p.fee ≤ p.last
  apart : s.2.Pairwise fun p q => p.last ≤ q.first

omit [DecidableEq Pubkey] in
/-- What the program owns at the bridge's address is a bridge. -/
theorem Balanced.bridge (h : Balanced P s) (howner : (s.1 (bridgeKey P)).owner = P.programId) :
    ∃ b, HoldsBridge P s.1 b := by
  rcases h.remembered with ⟨hforeign, -⟩ | ⟨b, hb, -⟩
  · exact absurd howner hforeign
  · exact ⟨b, hb⟩

omit [DecidableEq Pubkey] in
/-- At a bridge that is there. -/
theorem Balanced.at_bridge (h : Balanced P s) {b : BridgeData} (hb : HoldsBridge P s.1 b) :
    b.lastLamports.toNat ≤ (s.1 (collectorKey P)).lamports ∧ ∀ p ∈ s.2, p.last ≤ b.lastLamports.toNat := by
  rcases h.remembered with ⟨hforeign, -⟩ | ⟨b', hb', hrest⟩
  · exact absurd hb.1 hforeign
  · obtain rfl := codec_inj hb hb'
    exact hrest

omit [DecidableEq Pubkey] in
/-- Before the first message. -/
theorem Balanced.of_nothing (h : (L (bridgeKey P)).owner ≠ P.programId ∨
    ∃ b, HoldsBridge P L b ∧ b.lastLamports.toNat ≤ (L (collectorKey P)).lamports) : Balanced P (L, []) where
  remembered := by
    rcases h with hforeign | ⟨b, hb, hcovered⟩
    · exact .inl ⟨hforeign, rfl⟩
    · refine .inr ⟨b, hb, hcovered, ?_⟩
      intro p hp
      cases hp
  paid _ hp := by cases hp
  apart := .nil

omit [DecidableEq Pubkey] in
/-- Without a bridge nothing has been posted. -/
theorem Balanced.nothing {postings : List Posting} (h : Balanced P (L, postings))
    (hforeign : (L (bridgeKey P)).owner ≠ P.programId) : postings = [] := by
  rcases h.remembered with ⟨-, hnil⟩ | ⟨b, hb, -⟩
  · exact hnil
  · exact absurd hb.1 hforeign

omit [DecidableEq Pubkey] in
/-- **Step lemma.**  Whatever a step does to the memory and the collector, the messages remain paid for and apart. -/
theorem Balanced.of_feeStep {postings postings' : List Posting} (h : Balanced P (L, postings))
    (hstep : FeeStep P L L' postings') (hbounded : (L (collectorKey P)).lamports < 2 ^ 64) :
    Balanced P (L', postings ++ postings') := by
  cases hstep with
  | absent hbefore hafter =>
    rw [h.nothing hbefore]
    exact .of_nothing (.inl hafter)
  | created hbefore b hb hcovered =>
    rw [h.nothing hbefore]
    exact .of_nothing (.inr ⟨b, hb, hcovered⟩)
  | kept b b' hb hb' hremembered hcovered =>
    obtain ⟨hle, hlast⟩ := h.at_bridge hb
    rw [List.append_nil]
    refine ⟨.inr ⟨b', hb', ?_, ?_⟩, h.paid, h.apart⟩
    · rw [hremembered]
      exact hcovered hle
    · rw [hremembered]
      exact hlast
  | posted b hb hpaid hb' hsame =>
    obtain ⟨-, hlast⟩ := h.at_bridge hb
    have hnow : (UInt64.ofNat (L (collectorKey P)).lamports).toNat = (L (collectorKey P)).lamports := by
      rw [UInt64.toNat_ofNat']
      exact Nat.mod_eq_of_lt hbounded
    refine ⟨.inr ⟨_, hb', ?_, ?_⟩, ?_, ?_⟩
    · show (UInt64.ofNat (L (collectorKey P)).lamports).toNat ≤ (L' (collectorKey P)).lamports
      rw [hnow, hsame]
    · show ∀ p : Posting, p ∈ _ → p.last ≤ (UInt64.ofNat (L (collectorKey P)).lamports).toNat
      rw [hnow]
      intro p hp
      rcases List.mem_append.mp hp with hold | hnew
      · have hbefore := hlast p hold
        omega
      · rw [List.mem_singleton.mp hnew]
    · intro p hp
      rcases List.mem_append.mp hp with hold | hnew
      · exact h.paid p hold
      · rw [List.mem_singleton.mp hnew]
        exact hpaid
    · -- the new message's lamports start where the last ones end
      refine List.pairwise_append.mpr ⟨h.apart, List.pairwise_singleton _ _, ?_⟩
      intro p hp q hq
      rw [List.mem_singleton.mp hq]
      exact hlast p hp

/-- What the invariant says of the fees. -/
theorem Balanced.feesKept (h : Balanced P s) : FeesKept P s where
  covered b hb := (h.at_bridge hb).1
  accepted b hb L' hpays := feeAccepted_of_pays hb (h.at_bridge hb).1 hpays
  paid p hp := by
    refine ⟨h.paid p hp, ?_⟩
    rcases h.remembered with ⟨-, hnil⟩ | ⟨b, -, hcovered, hlast⟩
    · rw [hnil] at hp
      cases hp
    · exact (hlast p hp).trans hcovered
  apart := h.apart

/-- **The fees are kept in every run whose transfers of fees spare what messages were posted for.** -/
theorem feesKept_run (hfree : P.CollisionFree used) {L₀ : Ledger Pubkey} (h₀ : Undeployed P L₀)
    (hrun : Run (feeStep P)
      (fun s input => input.Admissible P used Signed s.1 ∧ input.Funded P s.1 ∧ input.Spares P s.1) (L₀, []) s) :
    FeesKept P s := by
  apply Balanced.feesKept
  refine hrun.invariant (I := Balanced P) ?_ (.of_nothing (.inl (h₀ _)))
  rintro ⟨L, postings⟩ input ⟨L', postings'⟩ hbalanced ⟨hadmissible, hfunded, hspares⟩ hstep
  obtain ⟨hstep, rfl⟩ := logging_eq_some.mp hstep
  exact hbalanced.of_feeStep (fees_step hfree hadmissible hfunded hspares hstep hbalanced.bridge)
    hfunded.bounded

end Runs

/-! ## Inputs -/

section Samples

/-- Governance of Solana at `0x04`: 600 lamports of the fees go to the account 12. -/
def feeVaa : PostVAAData := { sampleVaa 0 with
  payload := ⟨padModule MODULE ++ [0x04] ++ beBytes 2 0 ++ beBytes 32 600 ++ beBytes 32 12, by decide⟩ }

/-- Its hash. -/
def feeHash : FixedBytes 32 :=
  ⟨beBytes 32 0x2fe1fea7bef5e01099bd998469471c9da47340b8064f75ca09e9e121833e3c7f, beBytes_length 32 _⟩

theorem feeBytes_length (n : Nat) : (beBytes 32 n).length = 32 := beBytes_length 32 n

/-- The sample program, with a hash for the body of the VAA. -/
def feeProgram : CoreProgram SampleKey := { sampleProgram with
  toBytes := fun
    | .inl n => ⟨beBytes 32 n, feeBytes_length n⟩
    | .inr _ => zeros 32
  keccak256 := fun bs => if bs = feeVaa.body then feeHash else zeros 32 }

/-- The guardian has signed the VAA, and nothing else. -/
def FeeSigned (address message : List UInt8) : Prop := address = sampleGuardian.val ∧ message = feeHash.val

theorem feeGuardians_length : [sampleGuardian].length < 2 ^ 32 := by decide

/-- The fee of a message is 100. -/
def feeInitialize : Input SampleKey :=
  .initializeBridge
    { bridge := sampleWritable [bridgeSeed]
      guardianSet := sampleWritable (guardianSetSeeds 0)
      feeCollector := sampleWritable [feeCollectorSeed]
      payer := sampleSigner (.inl 10)
      clock := sampleReadonly (.inl 2) }
    1600000000
    { guardianSetExpirationTime := 86400
      fee := 100
      initialGuardians := ⟨[sampleGuardian], feeGuardians_length⟩ }

/-- A payment into the collector. -/
def pay (L : Ledger SampleKey) (lamports : Nat) : Ledger SampleKey :=
  Function.update L (collectorKey feeProgram)
    { L (collectorKey feeProgram) with lamports := (L (collectorKey feeProgram)).lamports + lamports }

/-- A message into the account `n`. -/
def feeMessageAccounts (n : Nat) : PostMessage SampleKey where
  bridge := sampleWritable [bridgeSeed]
  message := sampleSigner (.inl n)
  emitter := sampleSigner (.inl 14)
  sequence := sampleWritable (sequenceSeeds (feeProgram.toBytes (.inl 14)))
  payer := sampleSigner (.inl 10)
  feeCollector := sampleWritable [feeCollectorSeed]
  clock := sampleReadonly (.inl 2)

/-- A message of one byte. -/
def feeMessageData : PostMessageData where
  nonce := 0
  payload := ⟨[0x01], by decide⟩
  consistencyLevel := .Finalized

/-- The instruction with the guardian's signature, as the native program reads it. -/
def feeSecp : Instruction SampleKey where
  programId := .inl 5
  data := [0x01] ++ [0x40, 0x00, 0x00, 0x0c, 0x00, 0x00, 0x20, 0x00, 0x20, 0x00, 0x00] ++
    sampleGuardian.val ++ feeHash.val

theorem feeSigners_length : (0 :: List.replicate 18 (-1) : List Int8).length = MAX_LEN_GUARDIAN_KEYS := by decide

/-- The signature is checked, -/
def feeVerify : Input SampleKey :=
  .verifySignatures
    { payer := sampleSigner (.inl 10)
      guardianSet := sampleReadonly (.inr (guardianSetSeeds 0).flatten)
      signatureSet := sampleSigner (.inl 11)
      instructionAcc := sampleReadonly (.inl 3) }
    [feeSecp] 1 { signers := ⟨0 :: List.replicate 18 (-1), feeSigners_length⟩ }

/-- the VAA is posted, -/
def feePost : Input SampleKey :=
  .postVaa
    { guardianSet := sampleReadonly (.inr (guardianSetSeeds 0).flatten)
      bridgeInfo := sampleReadonly (.inr bridgeSeed)
      signatureSet := sampleReadonly (.inl 11)
      message := sampleWritable (postedVaaSeeds feeHash)
      payer := sampleSigner (.inl 10)
      clock := sampleReadonly (.inl 2) }
    1600000000 feeVaa

/-- and the fees are transferred, as it says. -/
def feeTransfer : Input SampleKey :=
  .transferFees
    { payer := sampleSigner (.inl 10)
      bridge := sampleReadonly (.inr bridgeSeed)
      vaa :=
        { message := sampleReadonly (.inr (postedVaaSeeds feeHash).flatten)
          claim := sampleWritable (claimSeeds (postedOf ⟨MessageData.new⟩ feeVaa (zeros 32)).message) }
      feeCollector := sampleWritable [feeCollectorSeed]
      recipient := ⟨.inl 12, false, true⟩
      rent := sampleReadonly (.inl 4) }

/-- One message is posted, for a payment of 1000. -/
def feeInitialized : Ledger SampleKey × List Posting :=
  attempt (feeStep feeProgram) (sampleLedger, []) feeInitialize

def feePaid : Ledger SampleKey × List Posting :=
  attempt (feeStep feeProgram) feeInitialized (.others (pay feeInitialized.1 1000))

/-- The message that is paid for. -/
def feePosting : Input SampleKey := .postMessage (feeMessageAccounts 13) 1600000000 feeMessageData

def feePosted : Ledger SampleKey × List Posting := attempt (feeStep feeProgram) feePaid feePosting

def feeVerified : Ledger SampleKey × List Posting := attempt (feeStep feeProgram) feePosted feeVerify

def feeAttested : Ledger SampleKey × List Posting := attempt (feeStep feeProgram) feeVerified feePost

/-- Then 600 of the 1000 are transferred. -/
def feeDrained : Ledger SampleKey × List Posting := attempt (feeStep feeProgram) feeAttested feeTransfer

/-- The addresses are the seeds here, so no two are alike. -/
theorem feeProgram_collisionFree : feeProgram.CollisionFree Set.univ where
  derive _ _ _ _ h := Sum.inr.inj h
  bridge := Set.mem_univ _
  feeCollector := Set.mem_univ _
  guardianSet _ := Set.mem_univ _

/-- Only addresses of keys sign. -/
theorem fee_signers {ms : List (AccountMeta SampleKey)}
    (h : ∀ m ∈ ms, m.isSigner = true → m.key.isLeft = true) :
    ∀ m ∈ ms, m.isSigner = true → ¬feeProgram.IsDerived Set.univ m.key := by
  rintro m hm hsigner ⟨seeds, -, hkey⟩
  have hleft := h m hm hsigner
  rw [hkey] at hleft
  cases hleft

/-- A payment takes nothing from the collector. -/
theorem pay_funded {L : Ledger SampleKey} {n : Nat} (h : (L (collectorKey feeProgram)).lamports < 2 ^ 64) :
    Input.Funded feeProgram L (.others (pay L n)) := by
  refine ⟨h, ?_⟩
  intro L' heq
  rw [← Input.others.inj heq, pay, Function.update_self]
  exact Nat.le_add_right _ _

/-- Whoever pays changes lamports only. -/
theorem pay_admissible (L : Ledger SampleKey) (n : Nat) :
    Input.Admissible feeProgram Set.univ FeeSigned L (.others (pay L n)) := by
  refine ⟨fun _ h => (by cases h), fun _ _ _ _ h => (by cases h), ?_, fun _ _ => Set.mem_univ _⟩
  intro L' heq k
  rw [← Input.others.inj heq]
  exact .inl .of_lamports

/-- An input that is not a change by others, nor a verification of signatures. -/
theorem fee_admissible {L : Ledger SampleKey} {input : Input SampleKey}
    (hsigners : ∀ m ∈ input.metas, m.isSigner = true → m.key.isLeft = true)
    (hverify : ∀ accs tx current data, input ≠ .verifySignatures accs tx current data)
    (hothers : ∀ L', input ≠ .others L') (hbounded : (L (collectorKey feeProgram)).lamports < 2 ^ 64) :
    input.Admissible feeProgram Set.univ FeeSigned L ∧ input.Funded feeProgram L :=
  ⟨⟨fee_signers hsigners, fun _ _ _ _ h => absurd h (hverify _ _ _ _), fun _ h => absurd h (hothers _),
      fun _ _ => Set.mem_univ _⟩,
    ⟨hbounded, fun _ h => absurd h (hothers _)⟩⟩

/-- The native program accepts the guardian's signature. -/
theorem feeSecp_verifies : SecpVerifies FeeSigned [feeSecp] feeSecp.data := by
  intro count hcount i hi
  obtain rfl : count = 1 := (Option.some.inj hcount).symm
  obtain rfl : i = 0 := Nat.lt_one_iff.mp hi
  refine ⟨⟨0, 12, 0, 32, 32, 0⟩, feeSecp, feeSecp, sampleGuardian.val, feeHash.val, ?_, rfl, rfl, ?_, ?_, rfl,
    rfl⟩
  · decide +kernel
  · decide +kernel
  · decide +kernel

theorem eq_error_of_map {α : Type} {r : Result α} {err : SolitaireError}
    (h : r.map (fun _ => ()) = .error err) : r = .error err := by
  cases r with
  | ok a => cases h
  | error err' => exact congrArg Except.error (Except.error.inj h)

/-- The collector's lamports fit up to the transfer.  After it 891280 are left there and 891880 are
remembered, and a message behind a payment of its fee fails. -/
theorem feeRun_evaluated :
    (∀ s ∈ [(sampleLedger, []), feeInitialized, feePaid, feePosted, feeVerified, feeAttested],
      (s.1 (collectorKey feeProgram)).lamports < 2 ^ 64) ∧
    ((feeDrained.1 (bridgeKey feeProgram)).owner = feeProgram.programId ∧
      (feeDrained.1 (bridgeKey feeProgram)).data
        = BridgeData.codec.write ⟨0, 891880, ⟨86400, 100⟩⟩) ∧
    ¬891880 ≤ (feeDrained.1 (collectorKey feeProgram)).lamports ∧
    (postMessage feeProgram (pay feeDrained.1 100) (feeMessageAccounts 15) 1600000000 feeMessageData).map
      (fun _ => ()) = .error Error.mathOverflow.into := by decide +kernel

/-- The collector of a state of the run. -/
theorem feeRun_fits {s : Ledger SampleKey × List Posting}
    (h : s ∈ [(sampleLedger, []), feeInitialized, feePaid, feePosted, feeVerified, feeAttested]) :
    (s.1 (collectorKey feeProgram)).lamports < 2 ^ 64 :=
  feeRun_evaluated.1 s h

/-- What the samples' steps meet. -/
abbrev FeeOk (s : Ledger SampleKey × List Posting) (input : Input SampleKey) : Prop :=
  input.Admissible feeProgram Set.univ FeeSigned s.1 ∧ input.Funded feeProgram s.1 ∧ input.Spares feeProgram s.1

/-- The steps of the run, one after the other: the program is initialized, -/
theorem feeInitialized_run : Run (feeStep feeProgram) FeeOk (sampleLedger, []) feeInitialized := by
  rw [feeInitialized]
  refine (Run.refl _).attempt feeInitialize ?_
  have hbounded : (sampleLedger (collectorKey feeProgram)).lamports < 2 ^ 64 :=
    feeRun_fits List.mem_cons_self
  have h : feeInitialize.Admissible feeProgram Set.univ FeeSigned sampleLedger ∧
      feeInitialize.Funded feeProgram sampleLedger :=
    fee_admissible (by decide)
    (fun _ _ _ _ h => by cases h) (fun _ h => by cases h) hbounded
  exact ⟨h.1, h.2, trivial⟩

/-- 1000 lamports are paid, -/
theorem feePaid_run : Run (feeStep feeProgram) FeeOk (sampleLedger, []) feePaid := by
  have hbounded : (feeInitialized.1 (collectorKey feeProgram)).lamports < 2 ^ 64 := feeRun_fits (by simp)
  rw [feePaid]
  exact feeInitialized_run.attempt _ ⟨pay_admissible _ _, pay_funded hbounded, trivial⟩

/-- and a message is posted for them. -/
theorem feePosted_run : Run (feeStep feeProgram) FeeOk (sampleLedger, []) feePosted := by
  have hbounded : (feePaid.1 (collectorKey feeProgram)).lamports < 2 ^ 64 := feeRun_fits (by simp)
  rw [feePosted]
  refine feePaid_run.attempt _ ?_
  generalize feePaid = s at hbounded
  have h : Input.Admissible feeProgram Set.univ FeeSigned s.1 feePosting ∧ feePosting.Funded feeProgram s.1 :=
    fee_admissible (by decide) (fun _ _ _ _ h => by cases h) (fun _ h => by cases h) hbounded
  exact ⟨h.1, h.2, trivial⟩

/-- The message that was posted is accounted for. -/
theorem feePosted_kept : FeesKept feeProgram feePosted :=
  feesKept_run feeProgram_collisionFree sampleLedger_undeployed feePosted_run

/-- What they meet but for the condition. -/
abbrev FeeAdmissible (s : Ledger SampleKey × List Posting) (input : Input SampleKey) : Prop :=
  input.Admissible feeProgram Set.univ FeeSigned s.1 ∧ input.Funded feeProgram s.1

/-- From here on the condition need not hold. -/
theorem feeVerified_run : Run (feeStep feeProgram) FeeAdmissible (sampleLedger, []) feeVerified := by
  have hrun : Run (feeStep feeProgram) FeeAdmissible (sampleLedger, []) feePosted :=
    feePosted_run.mono fun _ _ h => ⟨h.1, h.2.1⟩
  have hbounded : (feePosted.1 (collectorKey feeProgram)).lamports < 2 ^ 64 := feeRun_fits (by simp)
  rw [feeVerified]
  refine hrun.attempt _
    ⟨⟨fee_signers (by decide), ?_, fun _ h => (by cases h), fun _ _ => Set.mem_univ _⟩, hbounded,
      fun _ h => (by cases h)⟩
  intro accs tx current data h ix hix hprogram
  obtain ⟨-, rfl, -, -⟩ := Input.verifySignatures.inj h
  rw [List.mem_singleton.mp hix]
  exact feeSecp_verifies

theorem feeAttested_run : Run (feeStep feeProgram) FeeAdmissible (sampleLedger, []) feeAttested := by
  have hbounded : (feeVerified.1 (collectorKey feeProgram)).lamports < 2 ^ 64 := feeRun_fits (by simp)
  rw [feeAttested]
  refine feeVerified_run.attempt _ ?_
  exact fee_admissible (by decide) (fun _ _ _ _ h => by cases h) (fun _ h => by cases h) hbounded

/-- The transfer is admissible, but does not spare what is remembered. -/
theorem feeDrained_run : Run (feeStep feeProgram) FeeAdmissible (sampleLedger, []) feeDrained := by
  have hbounded : (feeAttested.1 (collectorKey feeProgram)).lamports < 2 ^ 64 := feeRun_fits (by simp)
  rw [feeDrained]
  refine feeAttested_run.attempt _ ?_
  exact fee_admissible (by decide) (fun _ _ _ _ h => by cases h) (fun _ h => by cases h) hbounded

/-- After the transfer the collector has 891280 lamports, and 891880 are remembered. -/
theorem feeDrained_uncovered : ¬FeesKept feeProgram feeDrained := by
  obtain ⟨-, ⟨howner, hdata⟩, hlow, -⟩ := feeRun_evaluated
  intro h
  have hbridge : HoldsBridge feeProgram feeDrained.1 ⟨0, 891880, ⟨86400, 100⟩⟩ := by
    constructor
    · exact howner
    · exact hdata
  exact hlow (h.covered _ hbridge)

/-- A message behind a payment of its fee fails. -/
theorem feeDrained_blocked :
    Run (feeStep feeProgram) FeeAdmissible (sampleLedger, []) feeDrained ∧ ¬FeesKept feeProgram feeDrained ∧
      postMessage feeProgram (pay feeDrained.1 100) (feeMessageAccounts 15) 1600000000 feeMessageData =
        .error Error.mathOverflow.into := by
  obtain ⟨-, -, -, hblocked⟩ := feeRun_evaluated
  exact ⟨feeDrained_run, feeDrained_uncovered, eq_error_of_map hblocked⟩

end Samples

end Core

end Wormhole.Solana

/-
# Wormhole.Solana.Replay — no VAA is executed twice on Solana.

The core program, the token bridge and the NFT bridge over one ledger, with all their instructions.  Thirteen of
them execute a VAA: each derives the account of the claim from the VAA, creates it, and fails if that fails.  An
account can be created only where the system program owns it, and what one of the three programs owns remains its
own (`Retained`); so a claim is made once, and whoever comes later fails, `executed_once`.

The metadata of a wrapped NFT are written without a claim.  Their account must be empty, so they are written once
for each mint.

The proof follows the instructions.  Each of them gets one lemma: `…_retained` if it executes no VAA, `…_executed` if
it does.  Both walk through its checks in the order of the source and keep only the steps that write; the others are
passed over by their number.
-/
import Mathlib
import Wormhole.Lib.Bytes
import Wormhole.Lib.Failing
import Wormhole.Lib.Transition
import Wormhole.Solana.Payloads
import Wormhole.Solana.Solitaire
import Wormhole.Solana.Accounts
import Wormhole.Solana.Core
import Wormhole.Solana.Spl
import Wormhole.Solana.PlainTokens
import Wormhole.Solana.TokenBridge
import Wormhole.Solana.TokenTransfers
import Wormhole.Solana.NftBridge
import Wormhole.Solana.NftCustody
import Wormhole.Solana.Upgrades

namespace Wormhole.Solana.Replay

open Wormhole.Lib Wormhole.Lib.Bytes Wormhole.Lib.Transition

variable {Pubkey : Type}

/-! ## What programs keep -/

/-- The accounts of the programs `R` remain theirs, and do not lose their data. -/
def Retained (R : Set Pubkey) (L L' : Ledger Pubkey) : Prop :=
  ∀ k, (L k).owner ∈ R → (L' k).owner = (L k).owner ∧ ((L k).data ≠ [] → (L' k).data ≠ [])

section Retained

variable {R : Set Pubkey} {P : Program Pubkey} {L L' L'' : Ledger Pubkey}

theorem Retained.refl (L : Ledger Pubkey) : Retained R L L := fun _ _ => ⟨rfl, id⟩

/-- What is the programs' after the first step is still theirs before the second, so the steps add up. -/
theorem Retained.trans (h : Retained R L L') (h' : Retained R L' L'') : Retained R L L'' := by
  intro k hk
  obtain ⟨howner, hdata⟩ := h k hk
  have hk' : (L' k).owner ∈ R := by rwa [howner]
  obtain ⟨howner', hdata'⟩ := h' k hk'
  exact ⟨howner'.trans howner, fun hne => hdata' (hdata hne)⟩

/-- Nothing is lost where neither an owner nor data changes, as when lamports move. -/
theorem Retained.of_same (h : ∀ k, (L' k).owner = (L k).owner ∧ (L' k).data = (L k).data) : Retained R L L' := by
  intro k _
  refine ⟨(h k).1, ?_⟩
  rw [(h k).2]
  exact id

variable [DecidableEq Pubkey] {m payer : AccountMeta Pubkey} {signed : Option Pubkey}

/-- Lamports move, and the accounts keep owner and data. -/
theorem transfer_retained {recipient : AccountMeta Pubkey} {amount : Nat}
    (h : transfer P L m recipient signed amount = .ok L') : Retained R L L' := .of_same (transfer_same h)

/-- What is created was the system program's. -/
theorem createAccount_retained (hsystem : P.systemProgram ∉ R) {lamports space : Nat} {owner : Pubkey}
    (h : createAccount P L payer m signed lamports space owner = .ok L') : Retained R L L' := by
  intro k hk
  have hne : k ≠ m.key := by
    rintro rfl
    rw [(createAccount_eq_ok h).free] at hk
    exact hsystem hk
  obtain ⟨howner, hdata⟩ := createAccount_same h hne
  refine ⟨howner, ?_⟩
  rw [hdata]
  exact id

/-- A derived account is created like any other. -/
theorem create_retained (hsystem : P.systemProgram ∉ R) {T : Type} [AccountData T] {seeds : List (List UInt8)}
    {t : T} (h : create P L payer m seeds t = .ok L') : Retained R L L' := createAccount_retained hsystem h

/-- A program that writes its data back changes no owner, and writes over the beginning of what was there. -/
theorem persist_retained {T : Type} [AccountData T] {t : T} (h : persist P L m t = .ok L') : Retained R L L' := by
  have hpersisted := persist_eq_ok h
  intro k _
  refine ⟨hpersisted.owners k, ?_⟩
  intro hdata
  by_cases hk : k = m.key
  · subst hk
    by_cases hwrite : (L m.key).owner = P.programId ∧ m.isWritable = true
    -- the data is written over, and what is behind it stays
    · rw [hpersisted.data hwrite.1 hwrite.2]
      intro hnil
      obtain ⟨hbytes, hrest⟩ := List.append_eq_nil_iff.mp hnil
      rw [hbytes] at hrest
      exact hdata hrest
    -- the account is not the program's or not writable, and nothing is written
    · rw [not_and_or, Bool.not_eq_true] at hwrite
      rwa [hpersisted.foreign hwrite]
  · rwa [hpersisted.others k hk]

end Retained

/-! ## Claims -/

section Claims

variable [DecidableEq Pubkey] {R : Set Pubkey} {P : Program Pubkey} {L L' : Ledger Pubkey}
  {v : ClaimableVAA Pubkey}

/-- The message that a claimable VAA is about. -/
def message? (L : Ledger Pubkey) (v : ClaimableVAA Pubkey) : Option MessageData :=
  (AccountData.deserialize (L v.message.key).data : Result PostedVAAData).toOption.map PostedVAAData.message

/-- A VAA is executed: its claim, which was free, is made. -/
structure Executed (P : Program Pubkey) (R : Set Pubkey) (v : ClaimableVAA Pubkey) (L L' : Ledger Pubkey) :
    Prop where
  retained : Retained R L L'
  claimed : ∃ m, message? L v = some m ∧ (L (P.derive (claimSeeds m))).owner = P.systemProgram ∧
    (L' (P.derive (claimSeeds m))).owner = P.programId

/-- To claim is to create the account that the claim is kept in. -/
theorem claimIt_eq_ok {payer : AccountMeta Pubkey} {m : MessageData} {c : ClaimData}
    {claimed : Ledger Pubkey × ClaimData} (h : v.claimIt P L payer m c = .ok claimed) :
    create P L payer v.claim (claimSeeds m) c = .ok claimed.1 := by
  obtain ⟨_, -, h⟩ := Failing.bind_eq_ok.mp h
  obtain ⟨L₁, hcreate, h⟩ := Failing.bind_eq_ok.mp h
  rw [← Except.ok.inj h]
  exact hcreate

/-- **The rule for the instructions that execute a VAA.**  The derivation is checked, the claim is created, and the
rest keeps it: an instruction only has to show that what comes after the claim takes nothing from the programs. -/
theorem executed_of_claim (hsystem : P.systemProgram ∉ R) (hprogram : P.programId ∈ R) {bridge : Pubkey} {T : Type}
    {deserialize : List UInt8 → Result T} {vaa : MessageData × T × ClaimData}
    (hpeel : v.peel P bridge L deserialize = .ok vaa) {u : Unit} (hverify : v.verify P vaa.1 = .ok u)
    {payer : AccountMeta Pubkey} {claimed : Ledger Pubkey × ClaimData}
    (hclaim : v.claimIt P L payer vaa.1 vaa.2.2 = .ok claimed) (hrest : Retained R claimed.1 L') :
    Executed P R v L L' := by
  have hcreate := claimIt_eq_ok hclaim
  have hcreated := create_eq_ok hcreate
  -- the account that is created is the one that belongs to the VAA
  have hkey : P.derive (claimSeeds vaa.1) = v.claim.key := by
    rw [ClaimableVAA.verify, verifyDerivation, ensure_eq_ok] at hverify
    exact hverify
  obtain ⟨data, hdata, hpeel⟩ := Failing.bind_eq_ok.mp hpeel
  obtain ⟨payload, -, hpeel⟩ := Failing.bind_eq_ok.mp hpeel
  obtain ⟨_, -, hpeel⟩ := Failing.bind_eq_ok.mp hpeel
  obtain ⟨claim, -, hpeel⟩ := Failing.bind_eq_ok.mp hpeel
  refine ⟨(create_retained hsystem hcreate).trans hrest, vaa.1, ?_, ?_, ?_⟩
  -- the message is the one in the posted VAA
  · rw [message?, (peelData_initialized.mp hdata).2.1, ← Except.ok.inj hpeel]
    rfl
  · rw [hkey]
    exact hcreated.free
  · rw [hkey]
    have howner : (claimed.1 v.claim.key).owner = P.programId := hcreated.owner
    have hmine : (claimed.1 v.claim.key).owner ∈ R := by rwa [howner]
    exact (hrest _ hmine).1.trans howner

end Claims

/-! ## The core program -/

section Core

variable [DecidableEq Pubkey] {R : Set Pubkey} {P : CoreProgram Pubkey} {L L' : Ledger Pubkey}

/-- The bridge, the guardian set and the fee collector are created. -/
theorem initializeBridge_retained (hsystem : P.systemProgram ∉ R) {accs : Initialize Pubkey} {clock : Int}
    {data : InitializeData} (h : Core.initializeBridge P L accs clock data = .ok L') : Retained R L L' := by
  iterate 11 obtain ⟨_, -, h⟩ := Failing.bind_eq_ok.mp h
  obtain ⟨L₁, hset, h⟩ := Failing.bind_eq_ok.mp h
  obtain ⟨L₂, hbridge, h⟩ := Failing.bind_eq_ok.mp h
  obtain ⟨L₃, hcollector, h⟩ := Failing.bind_eq_ok.mp h
  obtain ⟨L₄, hwrite, hwrite'⟩ := Failing.bind_eq_ok.mp h
  exact (((create_retained hsystem hset).trans (create_retained hsystem hbridge)).trans
    (createAccount_retained hsystem hcollector)).trans ((persist_retained hwrite).trans (persist_retained hwrite'))

/-- The message is created, and the counter of the emitter with the first one. -/
theorem postMessage_retained (hsystem : P.systemProgram ∉ R) {accs : PostMessage Pubkey} {clock : Int}
    {data : PostMessageData} (h : Core.postMessage P L accs clock data = .ok L') : Retained R L L' := by
  iterate 17 obtain ⟨_, -, h⟩ := Failing.bind_eq_ok.mp h
  obtain ⟨L₁, hopen, h⟩ := Failing.bind_eq_ok.mp h
  obtain ⟨L₂, hcreate, h⟩ := Failing.bind_eq_ok.mp h
  obtain ⟨L₃, hbridge, h⟩ := Failing.bind_eq_ok.mp h
  obtain ⟨L₄, hmessage, hsequence⟩ := Failing.bind_eq_ok.mp h
  have hopened : Retained R L L₁ := by
    unfold Core.openSequence at hopen
    split at hopen
    · rw [← Except.ok.inj hopen]
      exact .refl L
    · exact create_retained hsystem hopen
  exact ((hopened.trans (createAccount_retained hsystem hcreate)).trans (persist_retained hbridge)).trans
    ((persist_retained hmessage).trans (persist_retained hsequence))

/-- The set of verified signatures is created by the first instruction for it, and marked by each. -/
theorem verifySignatures_retained (hsystem : P.systemProgram ∉ R) {accs : VerifySignatures Pubkey}
    {tx : List (Instruction Pubkey)} {current : UInt16} {data : VerifySignaturesData}
    (h : Core.verifySignatures P L accs tx current data = .ok L') : Retained R L L' := by
  iterate 14 obtain ⟨_, -, h⟩ := Failing.bind_eq_ok.mp h
  obtain ⟨msgHash, -, h⟩ := Failing.bind_eq_ok.mp h
  obtain ⟨opened, hopen, h⟩ := Failing.bind_eq_ok.mp h
  obtain ⟨marked, -, hpersist⟩ := Failing.bind_eq_ok.mp h
  have hopened : Retained R L opened.1 := by
    unfold Core.openSignatureSet at hopen
    split at hopen
    · iterate 2 obtain ⟨_, -, hopen⟩ := Failing.bind_eq_ok.mp hopen
      rw [← Except.ok.inj hopen]
      exact .refl L
    · obtain ⟨L₁, hcreate, hopen⟩ := Failing.bind_eq_ok.mp hopen
      rw [← Except.ok.inj hopen]
      exact createAccount_retained hsystem hcreate
  exact hopened.trans (persist_retained hpersist)

/-- A VAA that has been posted is written again, and a new one is created.  To post it is not to execute it. -/
theorem postVaa_retained (hsystem : P.systemProgram ∉ R) {accs : PostVAA Pubkey} {clock : Int} {vaa : PostVAAData}
    (h : Core.postVaa P L accs clock vaa = .ok L') : Retained R L L' := by
  iterate 11 obtain ⟨_, -, h⟩ := Failing.bind_eq_ok.mp h
  split at h
  · exact persist_retained h
  · iterate 4 obtain ⟨_, -, h⟩ := Failing.bind_eq_ok.mp h
    obtain ⟨L₁, hcreate, hpersist⟩ := Failing.bind_eq_ok.mp h
    exact (create_retained hsystem hcreate).trans (persist_retained hpersist)

/-- The new guardian set is created behind the claim; the old one is written, with its expiration. -/
theorem upgradeGuardianSet_executed (hsystem : P.systemProgram ∉ R) (hprogram : P.programId ∈ R)
    {accs : UpgradeGuardianSet Pubkey} (h : Core.upgradeGuardianSet P L accs = .ok L') :
    Executed P.toProgram R accs.vaa L L' := by
  iterate 5 obtain ⟨_, -, h⟩ := Failing.bind_eq_ok.mp h
  obtain ⟨vaa, hpeel, h⟩ := Failing.bind_eq_ok.mp h
  -- the two sets, that the new index is the next one, and the governance emitter
  iterate 7 obtain ⟨_, -, h⟩ := Failing.bind_eq_ok.mp h
  obtain ⟨_, hverify, h⟩ := Failing.bind_eq_ok.mp h
  iterate 2 obtain ⟨_, -, h⟩ := Failing.bind_eq_ok.mp h
  obtain ⟨claimed, hclaim, h⟩ := Failing.bind_eq_ok.mp h
  obtain ⟨keys, -, h⟩ := Failing.bind_eq_ok.mp h
  obtain ⟨L₁, hcreate, h⟩ := Failing.bind_eq_ok.mp h
  obtain ⟨L₂, hbridge, h⟩ := Failing.bind_eq_ok.mp h
  obtain ⟨L₃, hmade, h⟩ := Failing.bind_eq_ok.mp h
  obtain ⟨L₄, hold, hnew⟩ := Failing.bind_eq_ok.mp h
  apply executed_of_claim hsystem hprogram hpeel hverify hclaim
  exact ((create_retained hsystem hcreate).trans (persist_retained hbridge)).trans
    ((persist_retained hmade).trans ((persist_retained hold).trans (persist_retained hnew)))

/-- The fee is written into the bridge's own account. -/
theorem setFees_executed (hsystem : P.systemProgram ∉ R) (hprogram : P.programId ∈ R) {accs : SetFees Pubkey}
    (h : Core.setFees P L accs = .ok L') : Executed P.toProgram R accs.vaa L L' := by
  iterate 5 obtain ⟨_, -, h⟩ := Failing.bind_eq_ok.mp h
  obtain ⟨vaa, hpeel, h⟩ := Failing.bind_eq_ok.mp h
  obtain ⟨_, -, h⟩ := Failing.bind_eq_ok.mp h
  obtain ⟨_, hverify, h⟩ := Failing.bind_eq_ok.mp h
  obtain ⟨claimed, hclaim, h⟩ := Failing.bind_eq_ok.mp h
  obtain ⟨fee, -, h⟩ := Failing.bind_eq_ok.mp h
  obtain ⟨L₁, hbridge, hmade⟩ := Failing.bind_eq_ok.mp h
  apply executed_of_claim hsystem hprogram hpeel hverify hclaim
  exact (persist_retained hbridge).trans (persist_retained hmade)

/-- The fees are paid out of the collector, in lamports. -/
theorem transferFees_executed (hsystem : P.systemProgram ∉ R) (hprogram : P.programId ∈ R)
    {accs : TransferFees Pubkey} (h : Core.transferFees P L accs = .ok L') :
    Executed P.toProgram R accs.vaa L L' := by
  iterate 4 obtain ⟨_, -, h⟩ := Failing.bind_eq_ok.mp h
  obtain ⟨vaa, hpeel, h⟩ := Failing.bind_eq_ok.mp h
  iterate 6 obtain ⟨_, -, h⟩ := Failing.bind_eq_ok.mp h
  obtain ⟨_, hverify, h⟩ := Failing.bind_eq_ok.mp h
  iterate 2 obtain ⟨_, -, h⟩ := Failing.bind_eq_ok.mp h
  obtain ⟨claimed, hclaim, h⟩ := Failing.bind_eq_ok.mp h
  obtain ⟨L₁, htransfer, hmade⟩ := Failing.bind_eq_ok.mp h
  apply executed_of_claim hsystem hprogram hpeel hverify hclaim
  exact (transfer_retained htransfer).trans (persist_retained hmade)

variable {upgrade : Loader Pubkey}

/-- The loader is called behind the claim, and takes nothing from the programs. -/
theorem coreUpgrade_executed (hsystem : P.systemProgram ∉ R) (hprogram : P.programId ∈ R)
    (hupgrade : ∀ {L program contract authority spill signed L'},
      upgrade L program contract authority spill signed = .ok L' → Retained R L L')
    {bridge : AccountMeta Pubkey} {accs : UpgradeContract Pubkey}
    (h : Core.upgradeContract P upgrade L bridge accs = .ok L') : Executed P.toProgram R accs.vaa L L' := by
  iterate 5 obtain ⟨_, -, h⟩ := Failing.bind_eq_ok.mp h
  obtain ⟨vaa, hpeel, h⟩ := Failing.bind_eq_ok.mp h
  iterate 2 obtain ⟨_, -, h⟩ := Failing.bind_eq_ok.mp h
  obtain ⟨_, hverify, h⟩ := Failing.bind_eq_ok.mp h
  obtain ⟨claimed, hclaim, h⟩ := Failing.bind_eq_ok.mp h
  obtain ⟨L₁, hinvoke, h⟩ := Failing.bind_eq_ok.mp h
  obtain ⟨L₂, hbridge, hmade⟩ := Failing.bind_eq_ok.mp h
  apply executed_of_claim hsystem hprogram hpeel hverify hclaim
  exact (hupgrade hinvoke).trans ((persist_retained hbridge).trans (persist_retained hmade))

end Core

/-! ## The token bridge -/

section TokenBridge

open Wormhole.Solana.TokenBridge

variable [DecidableEq Pubkey] {R : Set Pubkey} {P : TokenBridgeProgram Pubkey} {L L' : Ledger Pubkey}

/-- The configuration is created. -/
theorem initializeConfig_retained (hsystem : P.systemProgram ∉ R) {accs : TokenBridge.Initialize Pubkey}
    {data : TokenBridge.InitializeData} (h : initializeConfig P L accs data = .ok L') : Retained R L L' := by
  iterate 5 obtain ⟨_, -, h⟩ := Failing.bind_eq_ok.mp h
  obtain ⟨L₁, hcreate, hpersist⟩ := Failing.bind_eq_ok.mp h
  exact (create_retained hsystem hcreate).trans (persist_retained hpersist)

/-- The endpoint is created behind the claim. -/
theorem registerChain_executed (hsystem : P.systemProgram ∉ R) (hprogram : P.programId ∈ R)
    {accs : RegisterChain Pubkey} (h : registerChain P L accs = .ok L') :
    Executed P.toProgram R accs.vaa L L' := by
  iterate 5 obtain ⟨_, -, h⟩ := Failing.bind_eq_ok.mp h
  obtain ⟨vaa, hpeel, h⟩ := Failing.bind_eq_ok.mp h
  iterate 2 obtain ⟨_, -, h⟩ := Failing.bind_eq_ok.mp h
  obtain ⟨_, hverify, h⟩ := Failing.bind_eq_ok.mp h
  obtain ⟨claimed, hclaim, h⟩ := Failing.bind_eq_ok.mp h
  obtain ⟨L₁, hcreate, h⟩ := Failing.bind_eq_ok.mp h
  obtain ⟨L₂, hendpoint, hmade⟩ := Failing.bind_eq_ok.mp h
  apply executed_of_claim hsystem hprogram hpeel hverify hclaim
  exact (create_retained hsystem hcreate).trans ((persist_retained hendpoint).trans (persist_retained hmade))

variable (hinvoke : ∀ {L ix signed L'}, P.invoke L ix signed = .ok L' → Retained R L L')

include hinvoke

/-- Two calls of the token program follow the claim: the recipient is paid, and the fee. -/
theorem completeNative_executed (hsystem : P.systemProgram ∉ R) (hprogram : P.programId ∈ R)
    {accs : CompleteNative Pubkey} (h : completeNative P L accs = .ok L') :
    Executed P.toProgram R accs.vaa L L' := by
  iterate 3 obtain ⟨_, -, h⟩ := Failing.bind_eq_ok.mp h
  obtain ⟨vaa, hpeel, h⟩ := Failing.bind_eq_ok.mp h
  iterate 17 obtain ⟨_, -, h⟩ := Failing.bind_eq_ok.mp h
  obtain ⟨_, hverify, h⟩ := Failing.bind_eq_ok.mp h
  obtain ⟨claimed, hclaim, h⟩ := Failing.bind_eq_ok.mp h
  iterate 3 obtain ⟨_, -, h⟩ := Failing.bind_eq_ok.mp h
  obtain ⟨L₁, hpaid, h⟩ := Failing.bind_eq_ok.mp h
  obtain ⟨L₂, hfee, hmade⟩ := Failing.bind_eq_ok.mp h
  apply executed_of_claim hsystem hprogram hpeel hverify hclaim
  exact (hinvoke hpaid).trans ((hinvoke hfee).trans (persist_retained hmade))

/-- Here the two calls mint. -/
theorem completeWrapped_executed (hsystem : P.systemProgram ∉ R) (hprogram : P.programId ∈ R)
    {accs : CompleteWrapped Pubkey} (h : completeWrapped P L accs = .ok L') :
    Executed P.toProgram R accs.vaa L L' := by
  iterate 3 obtain ⟨_, -, h⟩ := Failing.bind_eq_ok.mp h
  obtain ⟨vaa, hpeel, h⟩ := Failing.bind_eq_ok.mp h
  iterate 15 obtain ⟨_, -, h⟩ := Failing.bind_eq_ok.mp h
  obtain ⟨_, hverify, h⟩ := Failing.bind_eq_ok.mp h
  obtain ⟨claimed, hclaim, h⟩ := Failing.bind_eq_ok.mp h
  iterate 3 obtain ⟨_, -, h⟩ := Failing.bind_eq_ok.mp h
  obtain ⟨L₁, hpaid, h⟩ := Failing.bind_eq_ok.mp h
  obtain ⟨L₂, hfee, hmade⟩ := Failing.bind_eq_ok.mp h
  apply executed_of_claim hsystem hprogram hpeel hverify hclaim
  exact (hinvoke hpaid).trans ((hinvoke hfee).trans (persist_retained hmade))

/-- The wrapped mint is there and its metadata are updated, or mint, meta and metadata are made. -/
theorem createOrUpdate_retained (hsystem : P.systemProgram ∉ R) {accs : CreateWrapped Pubkey}
    {vaa : PayloadAssetMeta} {wrapped : WrappedMeta} {done : Ledger Pubkey × WrappedMeta}
    (h : createOrUpdate P L accs vaa wrapped = .ok done) : Retained R L done.1 := by
  unfold createOrUpdate at h
  split at h
  · iterate 2 obtain ⟨_, -, h⟩ := Failing.bind_eq_ok.mp h
    obtain ⟨L₁, hupdate, h⟩ := Failing.bind_eq_ok.mp h
    rw [← Except.ok.inj h]
    exact hinvoke hupdate
  · obtain ⟨L₁, hmint, h⟩ := Failing.bind_eq_ok.mp h
    obtain ⟨L₂, hinit, h⟩ := Failing.bind_eq_ok.mp h
    obtain ⟨L₃, hmeta, h⟩ := Failing.bind_eq_ok.mp h
    obtain ⟨_, -, h⟩ := Failing.bind_eq_ok.mp h
    obtain ⟨L₄, hmetadata, h⟩ := Failing.bind_eq_ok.mp h
    rw [← Except.ok.inj h]
    exact ((createAccount_retained hsystem hmint).trans (hinvoke hinit)).trans
      ((create_retained hsystem hmeta).trans (hinvoke hmetadata))

/-- Whether the mint is new or not, the attestation is claimed before it is looked at. -/
theorem createWrapped_executed (hsystem : P.systemProgram ∉ R) (hprogram : P.programId ∈ R)
    {accs : CreateWrapped Pubkey} (h : createWrapped P L accs = .ok L') :
    Executed P.toProgram R accs.vaa L L' := by
  iterate 4 obtain ⟨_, -, h⟩ := Failing.bind_eq_ok.mp h
  obtain ⟨vaa, hpeel, h⟩ := Failing.bind_eq_ok.mp h
  iterate 11 obtain ⟨_, -, h⟩ := Failing.bind_eq_ok.mp h
  obtain ⟨_, hverify, h⟩ := Failing.bind_eq_ok.mp h
  obtain ⟨claimed, hclaim, h⟩ := Failing.bind_eq_ok.mp h
  obtain ⟨done, hdone, h⟩ := Failing.bind_eq_ok.mp h
  obtain ⟨L₁, hmade, hmeta⟩ := Failing.bind_eq_ok.mp h
  apply executed_of_claim hsystem hprogram hpeel hverify hclaim
  exact (createOrUpdate_retained hinvoke hsystem hdone).trans
    ((persist_retained hmade).trans (persist_retained hmeta))

omit hinvoke

variable {rent : Pubkey} {upgrade : Loader Pubkey}

/-- The token bridge is upgraded as the core program is, and changes no account of its own but the claim. -/
theorem tokenBridgeUpgrade_executed (hsystem : P.systemProgram ∉ R) (hprogram : P.programId ∈ R)
    (hupgrade : ∀ {L program contract authority spill signed L'},
      upgrade L program contract authority spill signed = .ok L' → Retained R L L')
    {accs : UpgradeContract Pubkey} (h : upgradeContract P rent upgrade L accs = .ok L') :
    Executed P.toProgram R accs.vaa L L' := by
  obtain ⟨_, -, h⟩ := Failing.bind_eq_ok.mp h
  obtain ⟨vaa, hpeel, h⟩ := Failing.bind_eq_ok.mp h
  iterate 2 obtain ⟨_, -, h⟩ := Failing.bind_eq_ok.mp h
  obtain ⟨_, hverify, h⟩ := Failing.bind_eq_ok.mp h
  obtain ⟨claimed, hclaim, h⟩ := Failing.bind_eq_ok.mp h
  obtain ⟨L₁, hloaded, hmade⟩ := Failing.bind_eq_ok.mp h
  apply executed_of_claim hsystem hprogram hpeel hverify hclaim
  exact (hupgrade hloaded).trans (persist_retained hmade)

end TokenBridge

/-! ### Its messages

These execute no VAA: they post one. -/

section Transfers

open Wormhole.Solana.TokenBridge

variable [DecidableEq Pubkey] {R : Set Pubkey} {P : TransferProgram Pubkey} {L L' : Ledger Pubkey}

omit [DecidableEq Pubkey] in
/-- The core program is called with the payload, and nothing else is done. -/
theorem postPayload_retained {Q : Program Pubkey} {invokePostMessage : InvokePostMessage Pubkey}
    (hpost : ∀ {L program accs data signed L'},
      invokePostMessage L program accs data signed = .ok L' → Retained R L L')
    {config : Config} {payer : AccountMeta Pubkey} {accs : CoreAccounts Pubkey} {nonce : UInt32}
    {bytes : List UInt8} (h : postPayload Q invokePostMessage L config payer accs nonce bytes = .ok L') :
    Retained R L L' := by
  obtain ⟨payload, -, hposted⟩ := Failing.bind_eq_ok.mp h
  exact hpost hposted

variable (hpost : ∀ {L program accs data signed L'},
  P.invokePostMessage L program accs data signed = .ok L' → Retained R L L')

include hpost

/-- The fee is paid and the metadata are posted. -/
theorem attestToken_retained {accs : AttestToken Pubkey} {data : AttestTokenData}
    (h : attestToken P L accs data = .ok L') : Retained R L L' := by
  iterate 8 obtain ⟨_, -, h⟩ := Failing.bind_eq_ok.mp h
  obtain ⟨L₁, hfee, h⟩ := Failing.bind_eq_ok.mp h
  iterate 3 obtain ⟨_, -, h⟩ := Failing.bind_eq_ok.mp h
  obtain ⟨L₂, hposted, hpersist⟩ := Failing.bind_eq_ok.mp h
  exact ((transfer_retained hfee).trans (postPayload_retained hpost hposted)).trans (persist_retained hpersist)

variable (hinvoke : ∀ {L ix signed L'}, P.spl.invoke L ix signed = .ok L' → Retained R L L')

include hinvoke

/-- The custody account is created with the first transfer of a mint, and holds what is moved. -/
theorem transferNative_retained (hsystem : P.systemProgram ∉ R) {accs : TransferNative Pubkey} {data : TransferData}
    (h : transferNative P L accs data = .ok L') : Retained R L L' := by
  iterate 15 obtain ⟨_, -, h⟩ := Failing.bind_eq_ok.mp h
  obtain ⟨L₁, hopen, h⟩ := Failing.bind_eq_ok.mp h
  iterate 2 obtain ⟨_, -, h⟩ := Failing.bind_eq_ok.mp h
  obtain ⟨L₂, hmoved, h⟩ := Failing.bind_eq_ok.mp h
  obtain ⟨L₃, hfee, hposted⟩ := Failing.bind_eq_ok.mp h
  have hopened : Retained R L L₁ := by
    unfold openCustody at hopen
    split at hopen
    · rw [← Except.ok.inj hopen]
      exact .refl L
    · obtain ⟨L₀, hcreate, hinit⟩ := Failing.bind_eq_ok.mp hopen
      exact (createAccount_retained hsystem hcreate).trans (hinvoke hinit)
  exact ((hopened.trans (hinvoke hmoved)).trans (transfer_retained hfee)).trans
    (postPayload_retained hpost hposted)

/-- What is sent is burned. -/
theorem transferWrapped_retained {accs : TransferWrapped Pubkey} {data : TransferData}
    (h : transferWrapped P L accs data = .ok L') : Retained R L L' := by
  iterate 15 obtain ⟨_, -, h⟩ := Failing.bind_eq_ok.mp h
  obtain ⟨L₁, hburnt, h⟩ := Failing.bind_eq_ok.mp h
  obtain ⟨L₂, hfee, hposted⟩ := Failing.bind_eq_ok.mp h
  exact ((hinvoke hburnt).trans (transfer_retained hfee)).trans (postPayload_retained hpost hposted)

end Transfers

/-! ## The NFT bridge -/

section NftBridge

open Wormhole.Solana.NftBridge

variable [DecidableEq Pubkey] {R : Set Pubkey} {P : NftBridgeProgram Pubkey} {L L' : Ledger Pubkey}

/-- What the programs that the NFT bridge calls leave to the programs `R`. -/
structure NftKeeps (P : NftBridgeProgram Pubkey) (R : Set Pubkey) : Prop where
  invoke : ∀ {L ix signed L'}, P.invoke L ix signed = .ok L' → Retained R L L'
  associated : ∀ {L payer wallet mint L'}, P.createAssociated L payer wallet mint = .ok L' → Retained R L L'
  metadata : ∀ {L data signed L'}, P.createMetadata L data signed = .ok L' → Retained R L L'
  post : ∀ {L program accs data signed L'},
    P.invokePostMessage L program accs data signed = .ok L' → Retained R L L'

/-- The configuration is created. -/
theorem nftInitializeConfig_retained (hsystem : P.systemProgram ∉ R) {accs : TokenBridge.Initialize Pubkey}
    {data : TokenBridge.InitializeData} (h : initializeConfig P L accs data = .ok L') : Retained R L L' := by
  iterate 4 obtain ⟨_, -, h⟩ := Failing.bind_eq_ok.mp h
  obtain ⟨L₁, hcreate, hpersist⟩ := Failing.bind_eq_ok.mp h
  exact (create_retained hsystem hcreate).trans (persist_retained hpersist)

/-- The endpoint is created behind the claim, as by the token bridge. -/
theorem nftRegisterChain_executed (hsystem : P.systemProgram ∉ R) (hprogram : P.programId ∈ R)
    {accs : RegisterChain Pubkey} (h : registerChain P L accs = .ok L') :
    Executed P.toProgram R accs.vaa L L' := by
  iterate 4 obtain ⟨_, -, h⟩ := Failing.bind_eq_ok.mp h
  obtain ⟨vaa, hpeel, h⟩ := Failing.bind_eq_ok.mp h
  iterate 2 obtain ⟨_, -, h⟩ := Failing.bind_eq_ok.mp h
  obtain ⟨_, hverify, h⟩ := Failing.bind_eq_ok.mp h
  obtain ⟨claimed, hclaim, h⟩ := Failing.bind_eq_ok.mp h
  obtain ⟨_, -, h⟩ := Failing.bind_eq_ok.mp h
  obtain ⟨L₁, hcreate, h⟩ := Failing.bind_eq_ok.mp h
  obtain ⟨L₂, hendpoint, hmade⟩ := Failing.bind_eq_ok.mp h
  apply executed_of_claim hsystem hprogram hpeel hverify hclaim
  exact (create_retained hsystem hcreate).trans ((persist_retained hendpoint).trans (persist_retained hmade))

/-- The recipient's account is there, or it is the associated one and is created. -/
theorem openRecipient_retained (hkeeps : NftKeeps P R) {payer to' toAuthority mint : AccountMeta Pubkey}
    {account : Spl.Account Pubkey} (h : openRecipient P L payer to' toAuthority mint account = .ok L') :
    Retained R L L' := by
  unfold openRecipient at h
  split at h
  · obtain ⟨_, -, h⟩ := Failing.bind_eq_ok.mp h
    rw [← Except.ok.inj h]
    exact .refl L
  · obtain ⟨_, -, hcreate⟩ := Failing.bind_eq_ok.mp h
    exact hkeeps.associated hcreate

/-- The NFT leaves the custody account behind the claim. -/
theorem nftCompleteNative_executed (hkeeps : NftKeeps P R) (hsystem : P.systemProgram ∉ R)
    (hprogram : P.programId ∈ R) {accs : CompleteNative Pubkey} (h : completeNative P L accs = .ok L') :
    Executed P.toProgram R accs.vaa L L' := by
  iterate 2 obtain ⟨_, -, h⟩ := Failing.bind_eq_ok.mp h
  obtain ⟨vaa, hpeel, h⟩ := Failing.bind_eq_ok.mp h
  iterate 15 obtain ⟨_, -, h⟩ := Failing.bind_eq_ok.mp h
  obtain ⟨_, hverify, h⟩ := Failing.bind_eq_ok.mp h
  obtain ⟨claimed, hclaim, h⟩ := Failing.bind_eq_ok.mp h
  obtain ⟨L₁, hopen, h⟩ := Failing.bind_eq_ok.mp h
  obtain ⟨L₂, hmoved, hmade⟩ := Failing.bind_eq_ok.mp h
  apply executed_of_claim hsystem hprogram hpeel hverify hclaim
  exact (openRecipient_retained hkeeps hopen).trans ((hkeeps.invoke hmoved).trans (persist_retained hmade))

/-- The mint of the NFT is there, or it is made with its meta. -/
theorem openWrapped_retained (hkeeps : NftKeeps P R) (hsystem : P.systemProgram ∉ R) {accs : CompleteWrapped Pubkey}
    {vaa : PayloadTransfer} {wrapped : WrappedMeta} {opened : Ledger Pubkey × WrappedMeta}
    (h : openWrapped P L accs vaa wrapped = .ok opened) : Retained R L opened.1 := by
  unfold openWrapped at h
  split at h
  · rw [← Except.ok.inj h]
    exact .refl L
  · obtain ⟨L₁, hmint, h⟩ := Failing.bind_eq_ok.mp h
    obtain ⟨L₂, hinit, h⟩ := Failing.bind_eq_ok.mp h
    obtain ⟨L₃, hmeta, h⟩ := Failing.bind_eq_ok.mp h
    rw [← Except.ok.inj h]
    exact (createAccount_retained hsystem hmint).trans ((hkeeps.invoke hinit).trans (create_retained hsystem hmeta))

/-- The NFT is minted behind the claim.  Its metadata are not written here. -/
theorem nftCompleteWrapped_executed (hkeeps : NftKeeps P R) (hsystem : P.systemProgram ∉ R)
    (hprogram : P.programId ∈ R) {accs : CompleteWrapped Pubkey} (h : completeWrapped P L accs = .ok L') :
    Executed P.toProgram R accs.vaa L L' := by
  iterate 2 obtain ⟨_, -, h⟩ := Failing.bind_eq_ok.mp h
  obtain ⟨vaa, hpeel, h⟩ := Failing.bind_eq_ok.mp h
  iterate 10 obtain ⟨_, -, h⟩ := Failing.bind_eq_ok.mp h
  obtain ⟨_, hverify, h⟩ := Failing.bind_eq_ok.mp h
  obtain ⟨claimed, hclaim, h⟩ := Failing.bind_eq_ok.mp h
  obtain ⟨opened, hwrapped, h⟩ := Failing.bind_eq_ok.mp h
  obtain ⟨L₁, hopen, h⟩ := Failing.bind_eq_ok.mp h
  obtain ⟨L₂, hminted, h⟩ := Failing.bind_eq_ok.mp h
  obtain ⟨L₃, hmade, hmeta⟩ := Failing.bind_eq_ok.mp h
  apply executed_of_claim hsystem hprogram hpeel hverify hclaim
  exact ((openWrapped_retained hkeeps hsystem hwrapped).trans (openRecipient_retained hkeeps hopen)).trans
    ((hkeeps.invoke hminted).trans ((persist_retained hmade).trans (persist_retained hmeta)))

/-- The custody account is one for each NFT, and is created when the NFT is first sent. -/
theorem nftTransferNative_retained (hkeeps : NftKeeps P R) (hsystem : P.systemProgram ∉ R)
    {accs : TransferNative Pubkey} {data : TransferData} (h : transferNative P L accs data = .ok L') :
    Retained R L L' := by
  iterate 16 obtain ⟨_, -, h⟩ := Failing.bind_eq_ok.mp h
  obtain ⟨L₁, hopen, h⟩ := Failing.bind_eq_ok.mp h
  obtain ⟨L₂, hmoved, h⟩ := Failing.bind_eq_ok.mp h
  obtain ⟨L₃, hfee, h⟩ := Failing.bind_eq_ok.mp h
  obtain ⟨metadata, -, h⟩ := Failing.bind_eq_ok.mp h
  obtain ⟨bytes, -, hposted⟩ := Failing.bind_eq_ok.mp h
  have hopened : Retained R L L₁ := by
    unfold openCustody at hopen
    split at hopen
    · rw [← Except.ok.inj hopen]
      exact .refl L
    · obtain ⟨L₀, hcreate, hinit⟩ := Failing.bind_eq_ok.mp hopen
      exact (createAccount_retained hsystem hcreate).trans (hkeeps.invoke hinit)
  exact ((hopened.trans (hkeeps.invoke hmoved)).trans (transfer_retained hfee)).trans
    (postPayload_retained hkeeps.post hposted)

/-- The NFT is burned. -/
theorem nftTransferWrapped_retained (hkeeps : NftKeeps P R) {accs : TransferWrapped Pubkey} {data : TransferData}
    (h : transferWrapped P L accs data = .ok L') : Retained R L L' := by
  iterate 14 obtain ⟨_, -, h⟩ := Failing.bind_eq_ok.mp h
  obtain ⟨L₁, hburnt, h⟩ := Failing.bind_eq_ok.mp h
  obtain ⟨L₂, hfee, h⟩ := Failing.bind_eq_ok.mp h
  iterate 5 obtain ⟨_, -, h⟩ := Failing.bind_eq_ok.mp h
  obtain ⟨bytes, -, hposted⟩ := Failing.bind_eq_ok.mp h
  exact ((hkeeps.invoke hburnt).trans (transfer_retained hfee)).trans (postPayload_retained hkeeps.post hposted)

/-- The metadata of a mint. -/
def metadataKey (P : NftBridgeProgram Pubkey) (mint : Pubkey) : Pubkey :=
  (P.findProgramAddress (TokenBridge.splTokenMetaSeeds (P.toBytes P.tokenMetadataProgram) (P.toBytes mint))
    P.tokenMetadataProgram).1

/-- The metadata have been empty, and are created. -/
theorem completeWrappedMeta_eq_ok {accs : CompleteWrappedMeta Pubkey} (h : completeWrappedMeta P L accs = .ok L') :
    (L (metadataKey P accs.mint.key)).data = [] ∧
      ∃ data signed, data.metadata = metadataKey P accs.mint.key ∧ P.createMetadata L data signed = .ok L' := by
  iterate 12 obtain ⟨_, -, h⟩ := Failing.bind_eq_ok.mp h
  obtain ⟨_, hempty, h⟩ := Failing.bind_eq_ok.mp h
  obtain ⟨_, hkey, hcreate⟩ := Failing.bind_eq_ok.mp h
  rw [verifySplMetadata, ensure_eq_ok] at hkey
  rw [ensure_eq_ok] at hempty
  rw [metadataKey, hkey]
  exact ⟨hempty, _, _, rfl, hcreate⟩

variable {rent : Pubkey} {upgrade : Loader Pubkey}

/-- The NFT bridge is upgraded as the others are. -/
theorem nftUpgrade_executed (hsystem : P.systemProgram ∉ R) (hprogram : P.programId ∈ R)
    (hupgrade : ∀ {L program contract authority spill signed L'},
      upgrade L program contract authority spill signed = .ok L' → Retained R L L')
    {accs : UpgradeContract Pubkey} (h : upgradeContract P rent upgrade L accs = .ok L') :
    Executed P.toProgram R accs.vaa L L' := by
  obtain ⟨_, -, h⟩ := Failing.bind_eq_ok.mp h
  obtain ⟨vaa, hpeel, h⟩ := Failing.bind_eq_ok.mp h
  iterate 2 obtain ⟨_, -, h⟩ := Failing.bind_eq_ok.mp h
  obtain ⟨_, hverify, h⟩ := Failing.bind_eq_ok.mp h
  obtain ⟨claimed, hclaim, h⟩ := Failing.bind_eq_ok.mp h
  obtain ⟨L₁, hloaded, hmade⟩ := Failing.bind_eq_ok.mp h
  apply executed_of_claim hsystem hprogram hpeel hverify hclaim
  exact (hupgrade hloaded).trans (persist_retained hmade)

end NftBridge

/-! ## The three programs -/

/-- The programs that execute VAAs. -/
inductive Which where
  | core
  | tokenBridge
  | nftBridge
  deriving DecidableEq

/-- What a VAA is known by. -/
structure VaaId where
  emitterChain : UInt16
  emitterAddress : FixedBytes 32
  sequence : UInt64
  deriving DecidableEq

/-- A claim is derived from these three, and from nothing else in the message. -/
def VaaId.of (m : MessageData) : VaaId := ⟨m.emitterChain, m.emitterAddress, m.sequence⟩

/-- The programs with the loader. -/
structure Deployment (Pubkey : Type) where
  core : CoreProgram Pubkey
  tokenBridge : TokenBridge.TransferProgram Pubkey
  nftBridge : NftBridge.NftBridgeProgram Pubkey
  upgrade : Loader Pubkey

/-- An instruction of one of the programs, or what others do to the ledger. -/
inductive Input (Pubkey : Type) where
  | core (input : Core.Input Pubkey)
  | coreUpgrade (bridge : AccountMeta Pubkey) (accs : UpgradeContract Pubkey)
  | tokenBridge (input : TokenBridge.Input Pubkey)
  | attestToken (accs : TokenBridge.AttestToken Pubkey) (data : TokenBridge.AttestTokenData)
  | transferNative (accs : TokenBridge.TransferNative Pubkey) (data : TokenBridge.TransferData)
  | transferWrapped (accs : TokenBridge.TransferWrapped Pubkey) (data : TokenBridge.TransferData)
  | tokenBridgeUpgrade (accs : UpgradeContract Pubkey)
  | nftBridge (input : NftBridge.Input Pubkey)
  | nftBridgeUpgrade (accs : UpgradeContract Pubkey)

/-- A VAA has been executed by a program, or the metadata of a mint have been written. -/
inductive Event (Pubkey : Type) where
  | executed (program : Which) (vaa : VaaId)
  | described (mint : Pubkey)
  deriving DecidableEq

/-- The VAA that an instruction executes. -/
def Input.vaa : Input Pubkey → Option (Which × ClaimableVAA Pubkey)
  | .core (.upgradeGuardianSet accs _) => some (.core, accs.vaa)
  | .core (.setFees accs) => some (.core, accs.vaa)
  | .core (.transferFees accs) => some (.core, accs.vaa)
  | .coreUpgrade _ accs => some (.core, accs.vaa)
  | .tokenBridge (.registerChain accs) => some (.tokenBridge, accs.vaa)
  | .tokenBridge (.completeNative accs) => some (.tokenBridge, accs.vaa)
  | .tokenBridge (.completeWrapped accs) => some (.tokenBridge, accs.vaa)
  | .tokenBridge (.createWrapped accs) => some (.tokenBridge, accs.vaa)
  | .tokenBridgeUpgrade accs => some (.tokenBridge, accs.vaa)
  | .nftBridge (.registerChain accs) => some (.nftBridge, accs.vaa)
  | .nftBridge (.completeNative accs) => some (.nftBridge, accs.vaa)
  | .nftBridge (.completeWrapped accs) => some (.nftBridge, accs.vaa)
  | .nftBridgeUpgrade accs => some (.nftBridge, accs.vaa)
  | _ => none

/-- The mint that an instruction writes metadata of. -/
def Input.mint : Input Pubkey → Option Pubkey
  | .nftBridge (.completeWrappedMeta accs) => some accs.mint.key
  | _ => none

/-- What an instruction does once it has succeeded. -/
def report (L : Ledger Pubkey) (input : Input Pubkey) : List (Event Pubkey) :=
  (input.vaa.bind fun p => (message? L p.2).map fun m => .executed p.1 (VaaId.of m)).toList ++
    (input.mint.map .described).toList

/-- What others have done. -/
def Input.others : Input Pubkey → Option (Ledger Pubkey)
  | .core (.others L) => some L
  | .tokenBridge (.others L) => some L
  | .nftBridge (.others L) => some L
  | _ => none

section Deployment

variable (D : Deployment Pubkey)

/-- The program as it runs: its address, its derivations and the system program. -/
def Deployment.program : Which → Program Pubkey
  | .core => D.core.toProgram
  | .tokenBridge => D.tokenBridge.toProgram
  | .nftBridge => D.nftBridge.toProgram

/-- The programs whose accounts matter: the three, and that of the metadata. -/
def Deployment.owners : Set Pubkey :=
  {D.core.programId, D.tokenBridge.programId, D.nftBridge.programId, D.nftBridge.tokenMetadataProgram}

/-- The account that claims a VAA for a program. -/
def Deployment.claimKey (w : Which) (vaa : VaaId) : Pubkey :=
  (D.program w).derive
    [vaa.emitterAddress.val, beBytes 2 vaa.emitterChain.toNat, beBytes 8 vaa.sequence.toNat]

/-- The event has left its mark: the claim is made, or the metadata are there. -/
def Marked (L : Ledger Pubkey) : Event Pubkey → Prop
  | .executed w vaa => (L (D.claimKey w vaa)).owner = (D.program w).programId
  | .described mint => (L (metadataKey D.nftBridge mint)).owner = D.nftBridge.tokenMetadataProgram ∧
      (L (metadataKey D.nftBridge mint)).data ≠ []

variable [DecidableEq Pubkey]

/-- One instruction, by the program that it is for. -/
def execute (L : Ledger Pubkey) : Input Pubkey → Result (Ledger Pubkey)
  | .core input => Core.execute D.core L input
  | .coreUpgrade bridge accs => Core.upgradeContract D.core D.upgrade L bridge accs
  | .tokenBridge input => TokenBridge.execute D.tokenBridge.toTokenBridgeProgram L input
  | .attestToken accs data => TokenBridge.attestToken D.tokenBridge L accs data
  | .transferNative accs data => TokenBridge.transferNative D.tokenBridge L accs data
  | .transferWrapped accs data => TokenBridge.transferWrapped D.tokenBridge L accs data
  | .tokenBridgeUpgrade accs =>
    TokenBridge.upgradeContract D.tokenBridge.toTokenBridgeProgram D.core.rent D.upgrade L accs
  | .nftBridge input => NftBridge.execute D.nftBridge L input
  | .nftBridgeUpgrade accs => NftBridge.upgradeContract D.nftBridge D.core.rent D.upgrade L accs

/-- A failed instruction changes nothing. -/
def step (L : Ledger Pubkey) (input : Input Pubkey) : Option (Ledger Pubkey) := (execute D L input).toOption

/-- What the runtime and the programs that are called promise: only its owner gives an account away or empties
it, which the called programs do not do; the addresses of programs differ; and metadata that are created belong to
the metadata program. -/
structure Lawful : Prop where
  system : ∀ w, (D.program w).systemProgram ∉ D.owners
  spl : ∀ {L ix signed L'}, D.tokenBridge.invoke L ix signed = .ok L' → Retained D.owners L L'
  token : ∀ {L ix signed L'}, D.tokenBridge.spl.invoke L ix signed = .ok L' → Retained D.owners L L'
  post : ∀ {L program accs data signed L'},
    D.tokenBridge.invokePostMessage L program accs data signed = .ok L' → Retained D.owners L L'
  nft : NftKeeps D.nftBridge D.owners
  metadata : ∀ {L data signed L'}, D.nftBridge.createMetadata L data signed = .ok L' →
    (L' data.metadata).owner = D.nftBridge.tokenMetadataProgram ∧ (L' data.metadata).data ≠ []
  upgrade : ∀ {L program contract authority spill signed L'},
    D.upgrade L program contract authority spill signed = .ok L' → Retained D.owners L L'

/-- Others cannot take an account from its program. -/
def Input.Admissible (L : Ledger Pubkey) (input : Input Pubkey) : Prop :=
  ∀ L', input.others = some L' → Retained D.owners L L'

end Deployment

section Steps

variable [DecidableEq Pubkey] {D : Deployment Pubkey} {L L' : Ledger Pubkey} {input : Input Pubkey}

/-- What an instruction that succeeds has done. -/
structure Effect (D : Deployment Pubkey) (input : Input Pubkey) (L L' : Ledger Pubkey) : Prop where
  retained : Retained D.owners L L'
  executed : ∀ w v, input.vaa = some (w, v) → Executed (D.program w) D.owners v L L'
  described : ∀ mint, input.mint = some mint →
    (L (metadataKey D.nftBridge mint)).data = [] ∧ Marked D L' (.described mint)

omit [DecidableEq Pubkey] in
/-- An instruction that executes no VAA and writes no metadata leaves the programs theirs. -/
theorem Effect.of_retained (hvaa : input.vaa = none) (hmint : input.mint = none) (h : Retained D.owners L L') :
    Effect D input L L' where
  retained := h
  executed := by
    intro w v hv
    rw [hvaa] at hv
    cases hv
  described := by
    intro mint hm
    rw [hmint] at hm
    cases hm

omit [DecidableEq Pubkey] in
/-- An instruction that executes a VAA has made its claim. -/
theorem Effect.of_executed {w : Which} {v : ClaimableVAA Pubkey} (hvaa : input.vaa = some (w, v))
    (hmint : input.mint = none) (h : Executed (D.program w) D.owners v L L') : Effect D input L L' where
  retained := h.retained
  executed := by
    intro w' v' hv
    rw [hvaa] at hv
    cases hv
    exact h
  described := by
    intro mint hm
    rw [hmint] at hm
    cases hm

omit [DecidableEq Pubkey] in
/-- The three programs are among those whose accounts matter. -/
theorem program_mem (w : Which) : (D.program w).programId ∈ D.owners := by
  cases w with
  | core => exact .inl rfl
  | tokenBridge => exact .inr (.inl rfl)
  | nftBridge => exact .inr (.inr (.inl rfl))

/-- Of the core program's instructions three execute a VAA; the upgrade is the fourth. -/
theorem core_effect (hlaw : Lawful D) {input : Core.Input Pubkey} (hok : Input.Admissible D L (.core input))
    (h : Core.execute D.core L input = .ok L') : Effect D (.core input) L L' := by
  have hsystem : D.core.systemProgram ∉ D.owners := hlaw.system .core
  have hprogram : D.core.programId ∈ D.owners := program_mem .core
  cases input with
  | initializeBridge accs clock data => exact .of_retained rfl rfl (initializeBridge_retained hsystem h)
  | postMessage accs clock data => exact .of_retained rfl rfl (postMessage_retained hsystem h)
  | verifySignatures accs tx current data => exact .of_retained rfl rfl (verifySignatures_retained hsystem h)
  | postVaa accs clock vaa => exact .of_retained rfl rfl (postVaa_retained hsystem h)
  | upgradeGuardianSet accs clock => exact .of_executed rfl rfl (upgradeGuardianSet_executed hsystem hprogram h)
  | setFees accs => exact .of_executed rfl rfl (setFees_executed hsystem hprogram h)
  | transferFees accs => exact .of_executed rfl rfl (transferFees_executed hsystem hprogram h)
  | others L₁ => exact .of_retained rfl rfl (hok L' (congrArg some (Except.ok.inj h)))

/-- Of the token bridge's, all but the initialisation. -/
theorem tokenBridge_effect (hlaw : Lawful D) {input : TokenBridge.Input Pubkey}
    (hok : Input.Admissible D L (.tokenBridge input))
    (h : TokenBridge.execute D.tokenBridge.toTokenBridgeProgram L input = .ok L') :
    Effect D (.tokenBridge input) L L' := by
  have hsystem : D.tokenBridge.systemProgram ∉ D.owners := hlaw.system .tokenBridge
  have hprogram : D.tokenBridge.programId ∈ D.owners := program_mem .tokenBridge
  cases input with
  | initializeConfig accs data => exact .of_retained rfl rfl (initializeConfig_retained hsystem h)
  | registerChain accs => exact .of_executed rfl rfl (registerChain_executed hsystem hprogram h)
  | completeNative accs => exact .of_executed rfl rfl (completeNative_executed hlaw.spl hsystem hprogram h)
  | completeWrapped accs => exact .of_executed rfl rfl (completeWrapped_executed hlaw.spl hsystem hprogram h)
  | createWrapped accs => exact .of_executed rfl rfl (createWrapped_executed hlaw.spl hsystem hprogram h)
  | others L₁ => exact .of_retained rfl rfl (hok L' (congrArg some (Except.ok.inj h)))

/-- Of the NFT bridge's, three; `completeWrappedMeta` checks the VAA and makes no claim. -/
theorem nftBridge_effect (hlaw : Lawful D) {input : NftBridge.Input Pubkey}
    (hok : Input.Admissible D L (.nftBridge input)) (h : NftBridge.execute D.nftBridge L input = .ok L') :
    Effect D (.nftBridge input) L L' := by
  have hsystem : D.nftBridge.systemProgram ∉ D.owners := hlaw.system .nftBridge
  have hprogram : D.nftBridge.programId ∈ D.owners := program_mem .nftBridge
  cases input with
  | initializeConfig accs data => exact .of_retained rfl rfl (nftInitializeConfig_retained hsystem h)
  | registerChain accs => exact .of_executed rfl rfl (nftRegisterChain_executed hsystem hprogram h)
  | completeNative accs => exact .of_executed rfl rfl (nftCompleteNative_executed hlaw.nft hsystem hprogram h)
  | completeWrapped accs => exact .of_executed rfl rfl (nftCompleteWrapped_executed hlaw.nft hsystem hprogram h)
  | completeWrappedMeta accs =>
    -- the account of the metadata is empty, and then it is not
    obtain ⟨hempty, data, signed, hkey, hcreate⟩ := completeWrappedMeta_eq_ok h
    refine ⟨hlaw.nft.metadata hcreate, fun _ _ hv => (by cases hv), ?_⟩
    intro mint hmint
    obtain rfl : accs.mint.key = mint := Option.some.inj hmint
    refine ⟨hempty, ?_⟩
    rw [Marked, ← hkey]
    exact hlaw.metadata hcreate
  | transferNative accs data => exact .of_retained rfl rfl (nftTransferNative_retained hlaw.nft hsystem h)
  | transferWrapped accs data => exact .of_retained rfl rfl (nftTransferWrapped_retained hlaw.nft h)
  | others L₁ => exact .of_retained rfl rfl (hok L' (congrArg some (Except.ok.inj h)))

/-- **What one instruction does**, whichever program it is for. -/
theorem execute_effect (hlaw : Lawful D) (hok : input.Admissible D L) (h : execute D L input = .ok L') :
    Effect D input L L' := by
  cases input with
  | core input => exact core_effect hlaw hok h
  | coreUpgrade bridge accs =>
    exact .of_executed rfl rfl (coreUpgrade_executed (hlaw.system .core) (program_mem .core) hlaw.upgrade h)
  | tokenBridge input => exact tokenBridge_effect hlaw hok h
  | attestToken accs data => exact .of_retained rfl rfl (attestToken_retained hlaw.post h)
  | transferNative accs data =>
    exact .of_retained rfl rfl (transferNative_retained hlaw.post hlaw.token (hlaw.system .tokenBridge) h)
  | transferWrapped accs data => exact .of_retained rfl rfl (transferWrapped_retained hlaw.post hlaw.token h)
  | tokenBridgeUpgrade accs =>
    exact .of_executed rfl rfl (tokenBridgeUpgrade_executed (hlaw.system .tokenBridge) (program_mem .tokenBridge)
      hlaw.upgrade h)
  | nftBridge input => exact nftBridge_effect hlaw hok h
  | nftBridgeUpgrade accs =>
    exact .of_executed rfl rfl (nftUpgrade_executed (hlaw.system .nftBridge) (program_mem .nftBridge)
      hlaw.upgrade h)

omit [DecidableEq Pubkey] in
/-- Marks remain. -/
theorem Marked.retained {e : Event Pubkey} (h : Marked D L e) (hretained : Retained D.owners L L') :
    Marked D L' e := by
  cases e with
  | executed w vaa =>
    have howner : (L (D.claimKey w vaa)).owner = (D.program w).programId := h
    have hmine : (L (D.claimKey w vaa)).owner ∈ D.owners := by
      rw [howner]
      exact program_mem w
    exact (hretained _ hmine).1.trans howner
  | described mint =>
    have hmine : (L (metadataKey D.nftBridge mint)).owner ∈ D.owners := by
      rw [h.1]
      exact .inr (.inr (.inr rfl))
    obtain ⟨howner, hdata⟩ := hretained _ hmine
    exact ⟨howner.trans h.1, hdata h.2⟩

omit [DecidableEq Pubkey] in
/-- One instruction does nothing twice. -/
theorem report_nodup : (report L input).Nodup := by
  apply List.Nodup.append
  · exact Option.toList_nodup _
  · exact Option.toList_nodup _
  · intro e hexecuted hdescribed
    rw [Option.mem_toList, Option.bind_eq_some_iff] at hexecuted
    rw [Option.mem_toList, Option.map_eq_some_iff] at hdescribed
    obtain ⟨p, -, hp⟩ := hexecuted
    obtain ⟨m, -, rfl⟩ := Option.map_eq_some_iff.mp hp
    obtain ⟨mint, -, heq⟩ := hdescribed
    cases heq

omit [DecidableEq Pubkey] in
/-- What an instruction does had no mark before, and has one then. -/
theorem Effect.marks (h : Effect D input L L') (hlaw : Lawful D) {e : Event Pubkey} (he : e ∈ report L input) :
    ¬Marked D L e ∧ Marked D L' e := by
  rcases List.mem_append.mp he with hexecuted | hdescribed
  · rw [Option.mem_toList, Option.bind_eq_some_iff] at hexecuted
    obtain ⟨⟨w, v⟩, hvaa, hp⟩ := hexecuted
    obtain ⟨m, hm, rfl⟩ := Option.map_eq_some_iff.mp hp
    obtain ⟨m', hm', hfree, hmade⟩ := (h.executed w v hvaa).claimed
    obtain rfl : m = m' := Option.some.inj (hm.symm.trans hm')
    refine ⟨?_, hmade⟩
    -- the claim was the system program's, which is none of the three
    intro hmarked
    have hsame : (D.program w).systemProgram = (D.program w).programId := hfree.symm.trans hmarked
    apply hlaw.system w
    rw [hsame]
    exact program_mem w
  · rw [Option.mem_toList, Option.map_eq_some_iff] at hdescribed
    obtain ⟨mint, hmint, rfl⟩ := hdescribed
    obtain ⟨hempty, hmade⟩ := h.described mint hmint
    exact ⟨fun hmarked => hmarked.2 hempty, hmade⟩

end Steps

/-! ## Runs -/

section Runs

variable [DecidableEq Pubkey] {D : Deployment Pubkey} {L₀ : Ledger Pubkey}
  {s : Ledger Pubkey × List (Event Pubkey)}

/-- Every event is marked, and has occurred once. -/
theorem marked_run (hlaw : Lawful D)
    (hrun : Run (logging (step D) report) (fun s input => input.Admissible D s.1) (L₀, []) s) :
    s.2.Nodup ∧ ∀ e ∈ s.2, Marked D s.1 e := by
  refine hrun.invariant (I := fun s => s.2.Nodup ∧ ∀ e ∈ s.2, Marked D s.1 e) ?_ ?_
  · rintro s input t ⟨hnodup, hmarked⟩ hok h
    obtain ⟨hstep, hlog⟩ := logging_eq_some.mp h
    have heffect := execute_effect hlaw hok (Failing.toOption_eq_some hstep)
    rw [hlog]
    constructor
    · apply List.Nodup.append hnodup report_nodup
      intro e hold hnew
      exact (heffect.marks hlaw hnew).1 (hmarked e hold)
    · intro e he
      rcases List.mem_append.mp he with hold | hnew
      · exact (hmarked e hold).retained heffect.retained
      · exact (heffect.marks hlaw hnew).2
  · exact ⟨List.nodup_nil, fun e he => by cases he⟩

/-- **No VAA is executed twice.**  In every run of the three programs each of them executes a VAA at most once, and
has claimed it; an instruction for a VAA that is claimed fails; and one that fails leaves the ledger, the claim
included, as it was. -/
theorem executed_once (hlaw : Lawful D)
    (hrun : Run (logging (step D) report) (fun s input => input.Admissible D s.1) (L₀, []) s) :
    (∀ w vaa, s.2.count (.executed w vaa) ≤ 1) ∧
    (∀ w vaa, .executed w vaa ∈ s.2 → (s.1 (D.claimKey w vaa)).owner = (D.program w).programId) ∧
    (∀ mint, s.2.count (.described mint) ≤ 1) ∧
    (∀ input, input.Admissible D s.1 → ∀ w vaa, .executed w vaa ∈ report s.1 input →
      (s.1 (D.claimKey w vaa)).owner = (D.program w).programId → ∃ err, execute D s.1 input = .error err) ∧
    ∀ input err, execute D s.1 input = .error err → attempt (logging (step D) report) s input = s := by
  obtain ⟨hnodup, hmarked⟩ := marked_run hlaw hrun
  refine ⟨?_, ?_, ?_, ?_, ?_⟩
  · intro w vaa
    exact List.nodup_iff_count_le_one.mp hnodup _
  · intro w vaa he
    exact hmarked _ he
  · intro mint
    exact List.nodup_iff_count_le_one.mp hnodup _
  · intro input hok w vaa he hclaimed
    cases h : execute D s.1 input with
    | error err => exact ⟨err, rfl⟩
    | ok L' => exact absurd hclaimed ((execute_effect hlaw hok h).marks hlaw he).1
  · intro input err h
    apply attempt_eq_of_none
    rw [logging, step, h]
    rfl

end Runs

/-! ## A fee that is set

The three programs are deployed over the plain token program.  The loader does nothing, and neither associated
accounts nor metadata are created. -/

section Samples

open PlainTokens
open NftBridge (nftAddress nftBytes nftCore nftProgram)

/-- Governance comes from the address of zeros. -/
def replayCore : CoreProgram Key := { nftCore with EMITTER_ADDRESS := some (zeros 32) }

/-- The token bridge next to the sample NFT bridge. -/
def replayTokenBridge : TokenBridge.TransferProgram Key where
  programId := .inl 9
  systemProgram := .inl 1
  clock := .inl 4
  instructions := .inl 5
  toBytes := nftBytes
  findProgramAddress := nftAddress
  programId_ne_system := by decide
  bridgeAddress := .inl 6
  tokenProgram := tokenKey
  tokenMetadataProgram := .inl 2
  EMITTER_ADDRESS := zeros 32
  unpackMint := fun data => (plainTokens.unpackMint data).map fun m => ⟨m.decimals⟩
  unpackAccount := fun data => (plainTokens.unpackAccount data).map fun a => ⟨a.mint, a.owner⟩
  unpackMetadata := nftProgram.unpackMetadata
  chars := nftProgram.chars
  invoke := fun L ix signed => match ix with
    | .transfer source destination authority amount =>
      plainTokens.invoke L (.transfer source destination authority amount) signed
    | .mintTo mint destination authority amount =>
      plainTokens.invoke L (.mintTo mint destination authority amount) signed
    | .initializeMint mint mintAuthority decimals =>
      plainTokens.invoke L (.initializeMint mint mintAuthority decimals) signed
    | _ => .error .invokeFailed
  programId_ne_token := by decide
  spl := plainTokens
  invokePostMessage := nftProgram.invokePostMessage

/-- The three programs over one ledger. -/
def replayDeployment : Deployment Key where
  core := replayCore
  tokenBridge := replayTokenBridge
  nftBridge := nftProgram
  upgrade := fun L _ _ _ _ _ => .ok L

/-- Neither the system program nor the token program is one of them. -/
theorem replayDeployment_owners {k : Key} (hk : k ∈ replayDeployment.owners) : k ≠ .inl 1 ∧ k ≠ tokenKey := by
  rcases hk with rfl | rfl | rfl | rfl
  all_goals exact ⟨by decide, by decide⟩

/-- The token program leaves the accounts of others alone. -/
theorem plainTokens_retained {L L' : Ledger Key} {ix : Spl.Instruction Key} {signed : Option Key}
    (h : plainTokens.invoke L ix signed = .ok L') : Retained replayDeployment.owners L L' := by
  intro k hk
  rw [plainTokens_lawful.foreign h k (replayDeployment_owners hk).2]
  exact ⟨rfl, id⟩

/-- To post a message is an instruction of the core program, which keeps its accounts. -/
theorem nftCore_retained {L L' : Ledger Key} {program : FixedBytes 32} {accs : PostMessage Key}
    {data : PostMessageData} {signed : Key} (h : nftProgram.invokePostMessage L program accs data signed = .ok L') :
    Retained replayDeployment.owners L L' := by
  obtain ⟨_, -, h⟩ := Failing.bind_eq_ok.mp h
  exact postMessage_retained (fun hk => (replayDeployment_owners hk).1 rfl) h

/-- What the deployed programs promise holds here. -/
theorem replayDeployment_lawful : Lawful replayDeployment where
  system := by
    intro w hk
    apply (replayDeployment_owners hk).1
    cases w <;> rfl
  spl := by
    intro L ix signed L' h
    cases ix with
    | transfer source destination authority amount =>
      exact @plainTokens_retained L L' (.transfer source destination authority amount) signed h
    | mintTo mint destination authority amount =>
      exact @plainTokens_retained L L' (.mintTo mint destination authority amount) signed h
    | initializeMint mint mintAuthority decimals =>
      exact @plainTokens_retained L L' (.initializeMint mint mintAuthority decimals) signed h
    | createMetadataAccounts | updateMetadataAccounts => cases h
  token := plainTokens_retained
  post := nftCore_retained
  nft :=
    { invoke := plainTokens_retained
      associated := fun h => by cases h
      metadata := fun h => by cases h
      post := nftCore_retained }
  metadata := fun h => by cases h
  upgrade := fun h => by
    rw [← Except.ok.inj h]
    exact .refl _

/-- A message of the emitter that sets the fee to 7. -/
def feeMessage : MessageData where
  vaaVersion := 1
  consistencyLevel := 32
  vaaTime := 0
  vaaSignatureAccount := zeros 32
  submissionTime := 0
  nonce := 0
  sequence := 5
  emitterChain := 1
  emitterAddress := zeros 32
  payload := ⟨padModule MODULE ++ [3] ++ [0, 1] ++ beBytes 32 7, by decide⟩

/-- The bridge, a posted VAA and a payer. -/
def feeLedger (k : Key) : Account Key :=
  if k = .inl 12 then ⟨10 ^ 10, .inl 1, []⟩
  else if k = .inl 40 then ⟨1, .inl 6, AccountData.serialize (T := PostedVAAData) ⟨feeMessage⟩⟩
  else if k = replayCore.derive [bridgeSeed] then
    ⟨1, .inl 6, AccountData.serialize (T := BridgeData) ⟨0, 890880, ⟨86400, 10⟩⟩⟩
  else ⟨0, .inl 1, []⟩

/-- The instruction that executes it. -/
def feeInput : Input Key :=
  .core (.setFees
    { payer := ⟨.inl 12, true, true⟩
      bridge := ⟨replayCore.derive [bridgeSeed], false, true⟩
      vaa :=
        { message := ⟨.inl 40, false, false⟩
          claim := ⟨replayCore.derive (claimSeeds feeMessage), false, true⟩ } })

/-- The ledger after it, with what has been done. -/
def feeSet : Ledger Key × List (Event Key) :=
  attempt (logging (step replayDeployment) report) (feeLedger, []) feeInput

/-- The fee is set once, and the VAA fails when it comes again. -/
theorem feeSet_once :
    feeSet.2 = [.executed .core (VaaId.of feeMessage)] ∧
    ∃ err, execute replayDeployment feeSet.1 feeInput = .error err := by
  have hlog : feeSet.2 = [.executed .core (VaaId.of feeMessage)] := by decide +kernel
  have hadmissible : ∀ L, feeInput.Admissible replayDeployment L := fun _ _ h => by cases h
  have hagain : Event.executed .core (VaaId.of feeMessage) ∈ report feeSet.1 feeInput := by decide +kernel
  refine ⟨hlog, ?_⟩
  have hrun : Run (logging (step replayDeployment) report)
      (fun s input => input.Admissible replayDeployment s.1) (feeLedger, []) feeSet :=
    (Run.refl (feeLedger, [])).attempt feeInput (hadmissible _)
  generalize feeSet = s at hlog hagain hrun
  obtain ⟨-, hclaimed, -, hfails, -⟩ := executed_once replayDeployment_lawful hrun
  apply hfails feeInput (hadmissible _) .core (VaaId.of feeMessage) hagain
  apply hclaimed
  rw [hlog]
  exact List.mem_singleton_self _

end Samples

end Wormhole.Solana.Replay

/-
# Wormhole.Attestations — attestations may come in any order.

On Ethereum the sequence of the last attestation is kept by the wrapped token, on Terra by the bridge; creation and
update are two entry points on Ethereum, and two transactions of different length on Terra.  Either way the wrapped
token is a register that takes larger sequences only, so that it shows the newest of all attestations submitted.

`Newest` and `offer` say this of any list and any order of keys.  What is left here is that a run of submissions is a
run of offers: on Ethereum `wrappedBy_submissions`, one call each, and on Terra `Held.submissions`, where a submission
is a transaction with the messages it sends, and fails when its VAA has been executed before.
-/
import Mathlib
import Wormhole.Lib.Bytes
import Wormhole.Lib.Newest
import Wormhole.Lib.Transition
import Wormhole.Ethereum.Messages
import Wormhole.Ethereum.Bridge
import Wormhole.Ethereum.Accounting
import Wormhole.Ethereum.Attestations
import Wormhole.Terra.NativeCoins
import Wormhole.Terra.TokenContract
import Wormhole.Terra.WrappedRegistry
import Wormhole.Terra.Attestations

namespace Wormhole.Attestations

open Wormhole.Lib Wormhole.Lib.Bytes Wormhole.Lib.Transition

/-! ## Ethereum -/

section Ethereum

open Wormhole.Ethereum Wormhole.Ethereum.Bridge

variable {ν : Type} {env : Environment ν} {w w₁ : World ν} {token : Address} {tokenChain : Nat} {tokenAddress : Word}
  {first : Attestation w.bridge tokenChain tokenAddress} {rest : List (Attestation w.bridge tokenChain tokenAddress)}

/-- **The newest is shown**, whatever the order of the others.  That the sequences differ is needed for the newest to
be one attestation. -/
theorem ethereum_newest (hcreate : createWrapped env w first.vm true "" = .ok (w₁, token))
    (hdistinct : Set.InjOn Attestation.sequence {a | a ∈ first :: rest})
    {newest : Attestation w.bridge tokenChain tokenAddress}
    (hnewest : Newest Attestation.sequence (first :: rest) newest) :
    queryMetadata env (rest.foldl Attestation.submit w₁) token = .ok newest.metadata := by
  have hheld := wrappedBy_submissions (wrappedBy_createWrapped hcreate) rest
  rw [Newest.unique hdistinct hnewest (newest_offers first rest)]
  exact hheld.queryMetadata

/-- **A late attestation changes nothing**: its sequence is not larger than the one that the token keeps, which is the
largest so far. -/
theorem ethereum_late (hcreate : createWrapped env w first.vm true "" = .ok (w₁, token))
    {a late : Attestation w.bridge tokenChain tokenAddress} (ha : a ∈ first :: rest)
    (hlate : late.sequence ≤ a.sequence) :
    queryMetadata env (late.submit (rest.foldl Attestation.submit w₁)) token =
      queryMetadata env (rest.foldl Attestation.submit w₁) token := by
  have hheld := wrappedBy_submissions (wrappedBy_createWrapped hcreate) rest
  -- one of them has a sequence as large, and the token has taken the largest
  have hle := hlate.trans ((newest_offers first rest).le a ha)
  have hlater : WrappedBy w.bridge (late.submit (rest.foldl Attestation.submit w₁)) token
      (offer Attestation.sequence (rest.foldl (offer Attestation.sequence) first) late) := hheld.submit
  rw [offer, if_neg (not_lt.mpr hle)] at hlater
  rw [hheld.queryMetadata, hlater.queryMetadata]

end Ethereum

/-! ## Terra -/

section Terra

open Wormhole.Terra.TokenBridge

variable {keccak256 : List UInt8 → FixedBytes 32} {addresses : Addresses} {getStringFrom32 : List UInt8 → String}
  {w w₁ w' : Chain} {tokenChain : Nat} {tokenAddress : List UInt8}
  {first : Attestation w.bridge tokenChain tokenAddress} {rest : List (Attestation w.bridge tokenChain tokenAddress)}

/-- **The contract of the asset holds the newest attestation.**  A VAA whose hash is in the archive is refused, so an
attestation that is offered must not have been executed before: the first one has, and no other. -/
theorem terra_held (hcreate : first.Creates keccak256 addresses getStringFrom32 w w₁)
    (hsubmissions : Attestation.Submissions keccak256 addresses getStringFrom32 rest w₁ w')
    (hhashes : ∀ a ∈ first :: rest, ∀ b ∈ first :: rest, a.vaa.hash = b.vaa.hash → a.sequence = b.sequence)
    (hfresh : ∀ a ∈ rest, w.bridge.vaaArchive a.vaa.hash = false) :
    ∃ contractAddr, Held keccak256 addresses getStringFrom32 contractAddr w'
      (rest.foldl (offer Attestation.sequence) first) := by
  obtain ⟨⟨contractAddr, hheld⟩, harchive⟩ := hcreate.holds ⟨rfl, rfl, rfl⟩
  refine ⟨contractAddr, hheld.submissions hsubmissions ?_ fun a ha b hb =>
    hhashes a (List.mem_cons_of_mem first ha) b (List.mem_cons_of_mem first hb)⟩
  intro a ha hhash
  -- the archive has changed at the first attestation only, and to offer it again is to offer nothing new
  by_cases heq : a.vaa.hash = first.vaa.hash
  · rw [hhashes a (List.mem_cons_of_mem first ha) first List.mem_cons_self heq]
  · rw [harchive, Function.update_of_ne heq, hfresh a ha] at hhash
    cases hhash

end Terra

/-! ## Any order -/

/-- **Attestations in any order.**  Once the first attestation of a token has created the wrapped token, and whatever
the order of the others and whichever of them fail, the wrapped token has the name and the symbol of the one with
the largest sequence; and an attestation whose sequence is not larger than one of theirs changes neither.  On Terra
the hash of a VAA stands for the VAA, and none of the others has been executed before. -/
theorem attestations_any_order :
    (∀ {ν : Type} (env : Ethereum.Bridge.Environment ν) (w w₁ : Ethereum.Bridge.World ν) (token : Ethereum.Address)
      (tokenChain : Nat) (tokenAddress : Ethereum.Word)
      (first : Ethereum.Bridge.Attestation w.bridge tokenChain tokenAddress)
      (rest : List (Ethereum.Bridge.Attestation w.bridge tokenChain tokenAddress)),
      Ethereum.Bridge.createWrapped env w first.vm true "" = .ok (w₁, token) →
      Set.InjOn Ethereum.Bridge.Attestation.sequence {a | a ∈ first :: rest} →
      (∀ newest, Newest Ethereum.Bridge.Attestation.sequence (first :: rest) newest →
        Ethereum.Bridge.queryMetadata env (rest.foldl Ethereum.Bridge.Attestation.submit w₁) token =
          .ok newest.metadata) ∧
      ∀ a ∈ first :: rest, ∀ late : Ethereum.Bridge.Attestation w.bridge tokenChain tokenAddress,
        late.sequence ≤ a.sequence →
        Ethereum.Bridge.queryMetadata env (late.submit (rest.foldl Ethereum.Bridge.Attestation.submit w₁)) token =
          Ethereum.Bridge.queryMetadata env (rest.foldl Ethereum.Bridge.Attestation.submit w₁) token) ∧
    (∀ (keccak256 : List UInt8 → FixedBytes 32) (addresses : Terra.TokenBridge.Addresses)
      (getStringFrom32 : List UInt8 → String) (w w₁ w' : Terra.TokenBridge.Chain) (tokenChain : Nat)
      (tokenAddress : List UInt8) (first : Terra.TokenBridge.Attestation w.bridge tokenChain tokenAddress)
      (rest : List (Terra.TokenBridge.Attestation w.bridge tokenChain tokenAddress)),
      first.Creates keccak256 addresses getStringFrom32 w w₁ →
      Terra.TokenBridge.Attestation.Submissions keccak256 addresses getStringFrom32 rest w₁ w' →
      Set.InjOn Terra.TokenBridge.Attestation.sequence {a | a ∈ first :: rest} →
      (∀ a ∈ first :: rest, ∀ b ∈ first :: rest, a.vaa.hash = b.vaa.hash → a.sequence = b.sequence) →
      (∀ a ∈ rest, w.bridge.vaaArchive a.vaa.hash = false) →
      (∀ newest, Newest Terra.TokenBridge.Attestation.sequence (first :: rest) newest →
        Terra.TokenBridge.queryMetadata keccak256 w' tokenChain tokenAddress =
          some (newest.metadata getStringFrom32)) ∧
      ∀ a ∈ first :: rest, ∀ (late : Terra.TokenBridge.Attestation w.bridge tokenChain tokenAddress) (w'' : _),
        late.sequence ≤ a.sequence → late.Submits keccak256 addresses getStringFrom32 w' w'' →
        Terra.TokenBridge.queryMetadata keccak256 w'' tokenChain tokenAddress =
          Terra.TokenBridge.queryMetadata keccak256 w' tokenChain tokenAddress) := by
  constructor
  -- Ethereum: every submission is one call, and a call that fails leaves the world as it was
  · intro ν env w w₁ token tokenChain tokenAddress first rest hcreate hdistinct
    exact ⟨fun newest hnewest => ethereum_newest hcreate hdistinct hnewest,
      fun a ha late hlate => ethereum_late hcreate ha hlate⟩
  -- Terra: the submissions have run to their end, failed or completed
  · intro keccak256 addresses getStringFrom32 w w₁ w' tokenChain tokenAddress first rest hcreate hsubmissions
      hdistinct hhashes hfresh
    obtain ⟨contractAddr, hheld⟩ := terra_held hcreate hsubmissions hhashes hfresh
    have hoffered : Newest Terra.TokenBridge.Attestation.sequence (first :: rest) _ := newest_offers first rest
    constructor
    · intro newest hnewest
      rw [Newest.unique hdistinct hnewest hoffered]
      exact hheld.queryMetadata
    · intro a ha late w'' hlate hsubmits
      rw [hheld.submits_old hsubmits (hlate.trans (hoffered.le a ha))]

/-! ## A sample on each chain

Three attestations of one token, of which the second is submitted after the third. -/

section EthereumSample

open Wormhole.Ethereum Wormhole.Ethereum.Bridge

/-- A word is 32 bytes long. -/
theorem sampleWord_length (n : UInt8) : (List.replicate 32 n).length = 32 := rfl

/-- One byte, in every place of the word. -/
def sampleWord (n : UInt8) : Word := ⟨List.replicate 32 n, sampleWord_length n⟩

/-- The bridge of the chain 2 is registered. -/
def sampleBridges : World Nat :=
  { sampleWETHWorld with
    bridge := { sampleWETHWorld.bridge with
      bridgeImplementations := Function.update sampleWETHWorld.bridge.bridgeImplementations 2 (sampleWord 0x08) } }

/-- The metadata of a token of the chain 2, named by a byte. -/
def sampleMeta (n : UInt8) : AssetMeta where
  tokenAddress := sampleWord 0x09
  tokenChain := 2
  decimals := 8
  symbol := sampleWord n
  name := sampleWord n

/-- Each attestation has the name of its sequence. -/
def ethereumAttestation (n : UInt8) (parse : parseAssetMeta (encodeAssetMeta (sampleMeta n)) = .ok (sampleMeta n)) :
    Attestation sampleBridges.bridge 2 (sampleWord 0x09) where
  vm := { sampleVM 2 (List.replicate 32 0x08) (encodeAssetMeta (sampleMeta n)) [n] with sequence := n.toNat }
  assetMeta := sampleMeta n
  parse := parse
  chain := rfl
  address := rfl
  emitter := rfl

/-- These have the sequences 0x41, 0x42 and 0x43. -/
def ethereumFirst : Attestation sampleBridges.bridge 2 (sampleWord 0x09) := ethereumAttestation 0x41 rfl
def ethereumSecond : Attestation sampleBridges.bridge 2 (sampleWord 0x09) := ethereumAttestation 0x42 rfl
def ethereumThird : Attestation sampleBridges.bridge 2 (sampleWord 0x09) := ethereumAttestation 0x43 rfl

/-- The world in which the first attestation has created the token. -/
def sampleCreated : World Nat × Address :=
  (createWrapped sampleWETHEnvironment sampleBridges ethereumFirst.vm true "").toOption.getD (sampleBridges, zeroAddress)

/-- The creation succeeds. -/
theorem sampleCreated_eq :
    createWrapped sampleWETHEnvironment sampleBridges ethereumFirst.vm true "" = .ok sampleCreated := by
  have hok : (createWrapped sampleWETHEnvironment sampleBridges ethereumFirst.vm true "").toOption.isSome := by
    decide +kernel
  obtain ⟨created, hcreated⟩ := Option.isSome_iff_exists.mp hok
  have heq := Failing.toOption_eq_some hcreated
  rw [sampleCreated, heq]
  rfl

/-- Their sequences differ, and the third one's is the largest. -/
theorem ethereum_sequences :
    Newest Attestation.sequence [ethereumFirst, ethereumThird, ethereumSecond] ethereumThird ∧
      Set.InjOn Attestation.sequence {a | a ∈ [ethereumFirst, ethereumThird, ethereumSecond]} := by
  refine ⟨⟨by simp, ?_⟩, List.inj_on_of_nodup_map (by decide)⟩
  simp only [List.forall_mem_cons, List.not_mem_nil, false_implies, implies_true, and_true]
  decide

end EthereumSample

section TerraSample

open Wormhole.Terra.TokenBridge

/-- The same on Terra, over the bridge on which the chain 2 has been registered. -/
def terraAttestation (n : UInt8)
    (parse : ∃ payload, TokenBridgeMessage.deserialize (sampleAttestation n.toNat n).payload =
      .ok (Action.ATTEST_META, payload) ∧ AssetMeta.deserialize payload = .ok (sampleAssetMeta n)) :
    Attestation afterRegistration.chain.bridge 2 (List.replicate 32 0x09) where
  vaa := sampleAttestation n.toNat n
  assetMeta := sampleAssetMeta n
  parse := parse
  chain := rfl
  address := rfl
  emitter := by
    show afterRegistration.chain.bridge.bridgeContracts 2 = some [0x08]
    decide +kernel
  not_governance := by
    show ¬(afterRegistration.chain.bridge.govChain = 2 ∧ afterRegistration.chain.bridge.govAddress = [0x08])
    decide +kernel

/-- These have the sequences 1, 2 and 3. -/
def terraFirst : Attestation afterRegistration.chain.bridge 2 (List.replicate 32 0x09) :=
  terraAttestation 0x01 ⟨_, rfl, rfl⟩
def terraSecond : Attestation afterRegistration.chain.bridge 2 (List.replicate 32 0x09) :=
  terraAttestation 0x02 ⟨_, rfl, rfl⟩
def terraThird : Attestation afterRegistration.chain.bridge 2 (List.replicate 32 0x09) :=
  terraAttestation 0x03 ⟨_, rfl, rfl⟩

/-- Whatever is chosen, the core contract reads the VAA as the attestation. -/
theorem sampleChoice_verifies {c : Config} {newAddress : String} {n : UInt8}
    (hpermitted : Permitted plainAddresses c (sampleChoice newAddress))
    (hvaa : sampleContractEnv.verifyVaa [n] = .ok (sampleAttestation n.toNat n)) :
    Verifies plainAddresses sampleContractEnv.getStringFrom32 [n] (sampleAttestation n.toNat n) c
      (sampleChoice newAddress) :=
  ⟨hpermitted, hvaa, rfl⟩

/-- The transaction of the first attestation takes three steps: the bridge asks for a contract, the contract is made,
and the bridge registers it. -/
theorem terraFirst_creates : terraFirst.Creates plainKeccak plainAddresses sampleContractEnv.getStringFrom32
    afterRegistration.chain registered.chain := by
  refine ⟨by decide +kernel, "account", [], [0x01], ?_⟩
  have hstart : Run (step plainKeccak plainAddresses)
      (Verifies plainAddresses sampleContractEnv.getStringFrom32 [0x01] (sampleAttestation 1 0x01))
      (submission afterRegistration.chain 0x01) (submission afterRegistration.chain 0x01) := .refl _
  have hattested := hstart.attempt (sampleChoice "asset")
    (sampleChoice_verifies (sampleChoice_permitted (by decide) (by decide +kernel)) rfl)
  have hinstantiated := hattested.attempt (sampleChoice "asset")
    (sampleChoice_verifies (sampleChoice_permitted (by decide) (by decide +kernel)) rfl)
  have hregistered := hinstantiated.attempt (sampleChoice "asset2")
    (sampleChoice_verifies (sampleChoice_permitted (by decide) (by decide +kernel)) rfl)
  have hstack : registered.stack = [] := List.isEmpty_iff.mp (by decide +kernel)
  -- no message is left to be sent
  have hend : registered = ⟨registered.chain, []⟩ := by
    rw [← hstack]
  rw [← hend]
  exact hregistered

/-- The third attestation is with the bridge. -/
def recording : Config :=
  attempt (step plainKeccak plainAddresses) (submission registered.chain 0x03) (sampleChoice "asset2")

/-- The asset has its metadata. -/
def updated : Config := attempt (step plainKeccak plainAddresses) recording (sampleChoice "asset2")

/-- The third attestation takes two steps: the bridge, and the contract of the asset. -/
theorem terraThird_submits : terraThird.Submits plainKeccak plainAddresses sampleContractEnv.getStringFrom32
    registered.chain updated.chain := by
  refine ⟨"account", [], [0x03], ?_⟩
  have hstart : Run (step plainKeccak plainAddresses)
      (Verifies plainAddresses sampleContractEnv.getStringFrom32 [0x03] (sampleAttestation 3 0x03))
      (submission registered.chain 0x03) (submission registered.chain 0x03) := .refl _
  have hrecording := hstart.attempt (sampleChoice "asset2")
    (sampleChoice_verifies (sampleChoice_permitted (by decide) (by decide +kernel)) rfl)
  have hupdated := hrecording.attempt (sampleChoice "asset2")
    (sampleChoice_verifies (sampleChoice_permitted (by decide) (by decide +kernel)) rfl)
  have hstack : updated.stack = [] := List.isEmpty_iff.mp (by decide +kernel)
  have hend : updated = ⟨updated.chain, []⟩ := by
    rw [← hstack]
  refine .completed ?_
  rw [← hend]
  exact hupdated

/-- The second attestation comes too late. -/
theorem terraSecond_submits : terraSecond.Submits plainKeccak plainAddresses sampleContractEnv.getStringFrom32
    updated.chain updated.chain := by
  have hok : Verifies plainAddresses sampleContractEnv.getStringFrom32 [0x02] (sampleAttestation 2 0x02)
      (submission updated.chain 0x02) (sampleChoice "asset2") :=
    sampleChoice_verifies (sampleChoice_permitted (by decide) (by decide +kernel)) rfl
  have hfails : (step plainKeccak plainAddresses (submission updated.chain 0x02) (sampleChoice "asset2")).isNone := by
    decide +kernel
  exact ⟨"account", [], [0x02], .failed (.refl _) hok (List.cons_ne_nil _ _) (Option.isNone_iff_eq_none.mp hfails)⟩

/-- Their sequences differ, the third one's is the largest, and the hashes tell them apart. -/
theorem terra_sequences :
    Newest Attestation.sequence [terraFirst, terraThird, terraSecond] terraThird ∧
      Set.InjOn Attestation.sequence {a | a ∈ [terraFirst, terraThird, terraSecond]} ∧
      ∀ a ∈ [terraFirst, terraThird, terraSecond], ∀ b ∈ [terraFirst, terraThird, terraSecond],
        a.vaa.hash = b.vaa.hash → a.sequence = b.sequence := by
  refine ⟨⟨by simp, ?_⟩, ?_, ?_⟩
  · simp only [List.forall_mem_cons, List.not_mem_nil, false_implies, implies_true, and_true]
    decide
  · exact List.inj_on_of_nodup_map (by decide)
  · simp only [List.forall_mem_cons, List.not_mem_nil, false_implies, implies_true, and_true]
    decide

end TerraSample

/-- The second attestation comes last, and the third one is shown. -/
theorem attestations_any_order_sample :
    Ethereum.Bridge.queryMetadata Ethereum.Bridge.sampleWETHEnvironment
        ([ethereumThird, ethereumSecond].foldl Ethereum.Bridge.Attestation.submit sampleCreated.1) sampleCreated.2 =
      .ok ethereumThird.metadata ∧
    Terra.TokenBridge.queryMetadata Terra.TokenBridge.plainKeccak updated.chain 2 (List.replicate 32 0x09) =
      some (terraThird.metadata Terra.TokenBridge.sampleContractEnv.getStringFrom32) := by
  obtain ⟨hethereum, hterra⟩ := attestations_any_order
  obtain ⟨hnewest, hdistinct⟩ := ethereum_sequences
  obtain ⟨hnewest', hdistinct', hhashes⟩ := terra_sequences
  have hsubmissions := Terra.TokenBridge.Attestation.Submissions.cons terraThird_submits
    (.cons terraSecond_submits .nil)
  have hfresh : ∀ a ∈ [terraThird, terraSecond],
      Terra.TokenBridge.afterRegistration.chain.bridge.vaaArchive a.vaa.hash = false := by
    simp only [List.forall_mem_cons, List.not_mem_nil, false_implies, implies_true, and_true]
    decide +kernel
  constructor
  · exact (hethereum Ethereum.Bridge.sampleWETHEnvironment sampleBridges sampleCreated.1 sampleCreated.2 2
      (sampleWord 0x09) ethereumFirst [ethereumThird, ethereumSecond] sampleCreated_eq hdistinct).1 _ hnewest
  · exact (hterra _ _ _ _ _ _ _ _ terraFirst [terraThird, terraSecond] terraFirst_creates hsubmissions hdistinct'
      hhashes hfresh).1 _ hnewest'

end Wormhole.Attestations

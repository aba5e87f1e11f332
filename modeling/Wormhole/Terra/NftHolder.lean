/-
# Wormhole.Terra.NftHolder — whose NFTs the bridge takes.

A `cw721` contract checks the rights of whoever calls it.  When an NFT is bridged out that is the bridge,
which burns the NFT or transfers it to itself, and the bridge does not ask who called it.  So the call
succeeds on the rights of the bridge alone: an owner who has approved the bridge has approved everybody
(`initiateTransfer_holderOnly_iff`).
-/
import Mathlib
import Wormhole.Lib.Transition
import Wormhole.Terra.NftBridge

namespace Wormhole.Terra.NftBridge

open Wormhole.Lib Wormhole.Lib.Bytes Wormhole.Lib.Transition

/-! ## Rights -/

/-- The account may send the token: it is the owner, or the owner has approved it, for this token or as an
operator, and the approval has not expired. -/
def MaySend (nft : Cw721.State) (block : BlockInfo) (account : String) (token : Cw721.TokenInfo) : Prop :=
  token.owner = account ∨
    (∃ approval ∈ token.approvals, approval.spender = account ∧ approval.expires block = false) ∨
    ∃ expires, nft.operators token.owner account = some expires ∧ expires block = false

theorem isOperator_iff {nft : Cw721.State} {block : BlockInfo} {owner operator : String} :
    Cw721.isOperator nft block owner operator = true ↔
      ∃ expires, nft.operators owner operator = some expires ∧ expires block = false := by
  unfold Cw721.isOperator
  split
  · rename_i ex h
    simp [h]
  · rename_i h
    simp [h]

theorem checkCanSend_iff {nft : Cw721.State} {block : BlockInfo} {account : String} {token : Cw721.TokenInfo} :
    Cw721.checkCanSend nft block account token = true ↔ MaySend nft block account token := by
  simp only [Cw721.checkCanSend, Bool.or_eq_true, isOperator_iff, List.any_eq_true, Bool.and_eq_true,
    decide_eq_true_eq, Bool.not_eq_true', MaySend, or_assoc]

/-- The account may send the NFT, in a world. -/
def World.MaySend (w : World) (block : BlockInfo) (account asset tokenId : String) : Prop :=
  ∃ nft token, w.nfts asset = some nft ∧ nft.tokens tokenId = some token ∧
    NftBridge.MaySend nft block account token

/-- What a transfer from `w` to `w'` should respect: its sender may send the NFT, and every NFT that the
sender may not send stays as it is. -/
structure HolderOnly (block : BlockInfo) (w w' : World) (sender asset tokenId : String) : Prop where
  holder : w.MaySend block sender asset tokenId
  others : ∀ a nft id token, w.nfts a = some nft → nft.tokens id = some token →
    ¬MaySend nft block sender token → ∃ nft', w'.nfts a = some nft' ∧ nft'.tokens id = some token

/-! ## What the bridge takes -/

section Take

variable {env : Env} {chain : Chain} {w w' : World} {sender asset tokenId : String}

/-- The contract lets the bridge take the NFT on the bridge's own rights; every other token stays. -/
theorem takes_eq_ok {nft nft' : Cw721.State} {msg : Cw721.ExecuteMsg} (htakes : Takes env tokenId msg)
    (h : Cw721.execute env.api chain.block nft env.self msg = .ok nft') :
    (∃ token, nft.tokens tokenId = some token ∧ MaySend nft chain.block env.self token) ∧
      ∀ id, id ≠ tokenId → nft'.tokens id = nft.tokens id := by
  cases htakes with
  | burn =>
    obtain ⟨token, htoken, hcan, -, hnft'⟩ := Cw721.burn_eq_ok h
    refine ⟨⟨token, htoken, checkCanSend_iff.mp hcan⟩, ?_⟩
    intro id hid
    rw [hnft']
    exact Function.update_of_ne hid ..
  | lock =>
    obtain ⟨token, htoken, hcan, rfl⟩ := Cw721.transferNft_eq_ok h
    refine ⟨⟨token, htoken, checkCanSend_iff.mp hcan⟩, ?_⟩
    intro id hid
    exact Function.update_of_ne hid ..

/-- **Only the holder, or the bridge's own rights.** A transfer that succeeds respects the holder exactly
when it does not rest on the rights of the bridge alone. -/
theorem initiateTransfer_holderOnly_iff {recipientChain : UInt16} {recipient : List UInt8} {nonce : Nat}
    (h : initiateTransfer env chain w sender asset tokenId recipientChain recipient nonce = .ok w') :
    HolderOnly chain.block w w' sender asset tokenId ↔
      ¬(w.MaySend chain.block env.self asset tokenId ∧ ¬w.MaySend chain.block sender asset tokenId) := by
  obtain ⟨-, msg, nft, nft', htakes, hnft, hexecute, hnfts⟩ := initiateTransfer_eq_ok h
  obtain ⟨⟨token, htoken, hbridge⟩, hothers⟩ := takes_eq_ok htakes hexecute
  constructor
  · rintro hholder ⟨-, hsender⟩
    exact hsender hholder.holder
  · intro hrights
    have hsender : w.MaySend chain.block sender asset tokenId := by
      by_contra hno
      exact hrights ⟨⟨nft, token, hnft, htoken, hbridge⟩, hno⟩
    refine ⟨hsender, ?_⟩
    intro a nft₁ id token₁ hnft₁ htoken₁ hother
    by_cases ha : a = asset
    · subst ha
      obtain rfl : nft = nft₁ := Option.some.inj (hnft.symm.trans hnft₁)
      -- the sender may send the NFT that goes, so it is not this one
      have hid : id ≠ tokenId := by
        rintro rfl
        obtain ⟨nft₂, token₂, hnft₂, htoken₂, hcan⟩ := hsender
        obtain rfl : nft = nft₂ := Option.some.inj (hnft.symm.trans hnft₂)
        obtain rfl : token₁ = token₂ := Option.some.inj (htoken₁.symm.trans htoken₂)
        exact hother hcan
      refine ⟨nft', by rw [hnfts, Function.update_self], ?_⟩
      rw [hothers id hid, htoken₁]
    · exact ⟨nft₁, by rw [hnfts, Function.update_of_ne ha, hnft₁], htoken₁⟩

end Take

/-! ## Sample transactions -/

theorem sampleKeccak_length (bytes : List UInt8) : ((bytes ++ List.replicate 32 0x00).take 32).length = 32 := by simp

/-- A contract that pads texts to addresses and hashes. -/
def sampleEnv : Env where
  api := {
    addrValidate := fun _ => true
    addrHumanize := fun bytes => .ok ((fromUtf8 bytes).getD "")
    addrCanonicalize := fun address => .ok ((asBytes address ++ List.replicate 20 0x00).take 20) }
  keccak256 := fun bytes => ⟨(bytes ++ List.replicate 32 0x00).take 32, sampleKeccak_length bytes⟩
  getStringFrom32 := fun bytes => (fromUtf8 (bytes.filter (· ≠ 0x00))).getD ""
  formatU256 := fun tokenId => (beNat tokenId.val).repr
  fromDecStr := fun number =>
    let n := Nat.ofDigitChars 10 number.toList 0
    if n < 256 ^ 32 then some ⟨beBytes 32 n, beBytes_length 32 n⟩ else none
  self := "bridge"

def sampleBlock : BlockInfo := { height := 1, time := 1 }

def sampleChain (newAddress : String) : Chain := { block := sampleBlock, newAddress, posted := true }

/-- A bridge that knows no other bridge and no NFT. -/
def freshWorld : World where
  bridge := {
    govChain := 1
    govAddress := []
    wormholeContract := "wormhole"
    bridgeContracts := fun _ => none
    wrappedAsset := fun _ => none
    wrappedAssetAddress := fun _ => none
    splCache := fun _ => none
    tokenIdHashes := fun _ _ _ => none
    vaaArchive := fun _ => false }
  nfts := fun _ => none

theorem freshWorld_fresh : Fresh freshWorld := ⟨fun _ => rfl, fun _ => rfl, fun _ => rfl, fun _ => rfl⟩

/-- `alice` has an NFT, and has approved the bridge. -/
def approvedWorld : World :=
  attempts (step sampleEnv) freshWorld
    [.instantiate "nft" "n" "s" "alice" none,
      .nft sampleBlock "alice" "nft" (.mint "1" "alice" (some "u")),
      .nft sampleBlock "alice" "nft" (.approveAll "bridge" none)]

theorem approvedWorld_reachable :
    ∃ w, Fresh w ∧ Run (step sampleEnv) (fun _ _ => True) w approvedWorld :=
  ⟨freshWorld, freshWorld_fresh, run_attempts (P := fun _ => True) _ _ fun _ _ => trivial⟩

/-- Whose token it is, and whether an account may send it. -/
def holders (w : World) (asset tokenId account : String) : Option (String × Bool) := do
  let nft ← w.nfts asset
  let token ← nft.tokens tokenId
  return (token.owner, Cw721.checkCanSend nft sampleBlock account token)

theorem maySend_iff_of_holders {w : World} {asset tokenId account owner : String} {may : Bool}
    (h : holders w asset tokenId account = some (owner, may)) :
    w.MaySend sampleBlock account asset tokenId ↔ may = true := by
  simp only [holders, Option.bind_eq_bind, Option.bind_eq_some_iff, Option.pure_def, Option.some.injEq,
    Prod.mk.injEq] at h
  obtain ⟨nft, hnft, token, htoken, -, rfl⟩ := h
  rw [checkCanSend_iff]
  constructor
  · rintro ⟨nft₁, token₁, hnft₁, htoken₁, hcan⟩
    obtain rfl : nft = nft₁ := Option.some.inj (hnft.symm.trans hnft₁)
    obtain rfl : token = token₁ := Option.some.inj (htoken.symm.trans htoken₁)
    exact hcan
  · intro hcan
    exact ⟨nft, token, hnft, htoken, hcan⟩

/-- An account sends the NFT of `approvedWorld` to a recipient of its choice. -/
def sampleTransfer (sender : String) : StdResult World :=
  initiateTransfer sampleEnv (sampleChain "") approvedWorld sender "nft" "1" 2 (List.replicate 32 0x08) 0

/-- `alice` sends her own NFT. -/
theorem initiateTransfer_alice :
    ∃ w', sampleTransfer "alice" = .ok w' ∧ HolderOnly sampleBlock approvedWorld w' "alice" "nft" "1" := by
  have hok : (committed (sampleTransfer "alice")).isSome = true := by decide
  obtain ⟨w', hw'⟩ := Option.isSome_iff_exists.mp hok
  have h : initiateTransfer sampleEnv (sampleChain "") approvedWorld "alice" "nft" "1" 2 _ 0 = .ok w' :=
    committed_eq_some.mp hw'
  have halice : holders approvedWorld "nft" "1" "alice" = some ("alice", true) := by decide
  refine ⟨w', h, (initiateTransfer_holderOnly_iff h).mpr ?_⟩
  rintro ⟨-, hno⟩
  exact hno ((maySend_iff_of_holders halice).mpr rfl)

/-- **Anyone can bridge an NFT out whose owner has approved the bridge.** `mallory` sends the NFT of
`alice`: the call succeeds and locks it. -/
theorem initiateTransfer_mallory :
    ¬∀ (env : Env) (chain : Chain) (w w' : World) (sender asset tokenId : String) (recipientChain : UInt16)
        (recipient : List UInt8) (nonce : Nat),
      (∃ w₀, Fresh w₀ ∧ Run (step env) (fun _ _ => True) w₀ w) →
      initiateTransfer env chain w sender asset tokenId recipientChain recipient nonce = .ok w' →
      HolderOnly chain.block w w' sender asset tokenId := by
  intro hall
  have hok : (committed (sampleTransfer "mallory")).bind
      (fun w' => holders w' "nft" "1" "mallory") = some ("bridge", false) := by decide
  obtain ⟨w', hw', -⟩ := Option.bind_eq_some_iff.mp hok
  have hmallory : holders approvedWorld "nft" "1" "mallory" = some ("alice", false) := by decide
  have hholder := hall sampleEnv (sampleChain "") approvedWorld w' "mallory" "nft" "1" 2 _ 0
    approvedWorld_reachable (committed_eq_some.mp hw')
  cases (maySend_iff_of_holders hmallory).mp hholder.holder

end Wormhole.Terra.NftBridge

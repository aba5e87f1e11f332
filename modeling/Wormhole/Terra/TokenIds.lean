/-
# Wormhole.Terra.TokenIds — token ids inside and outside of Terra.

The id of an NFT is a string on Terra and 32 bytes in a message.  A foreign id is written as a decimal
number, and read back as one.  The id of an NFT of Terra leaves as its hash, and the bridge keeps the id
under the hash, in a table for each collection that is only ever written by the ids that leave.

Both ways are inverse to each other (`tokenIds_inverse`) if no two of the ids that are used have the same
hash, and what has left once can come back at any later time: other ids that leave do not overwrite it
(`maps_stored`).  What the contract does with the tables in a transaction is to map one id, or nothing
(`step_maps`), so that the same holds over its transactions (`run_stored`).
-/
import Mathlib
import Wormhole.Lib.Bytes
import Wormhole.Lib.Go
import Wormhole.Lib.Text
import Wormhole.Lib.Transition
import Wormhole.Terra.Cosmwasm
import Wormhole.Terra.NftBridge
import Wormhole.Terra.NftHolder

namespace Wormhole.Terra.NftBridge

open Wormhole.Lib Wormhole.Lib.Bytes Wormhole.Lib.Text Wormhole.Lib.Transition

variable {env : Env} {s s' : State} {nftChain : UInt16} {nftAddress x : FixedBytes 32} {id : String}

/-! ## Foreign ids -/

theorem u256_length (n : Nat) : (beBytes 32 n).length = 32 := beBytes_length 32 n

/-- A number as 32 bytes, if it fits. -/
def u256 (n : Nat) : Option (FixedBytes 32) :=
  if n < 256 ^ 32 then some ⟨beBytes 32 n, u256_length n⟩ else none

theorem u256_beNat (x : FixedBytes 32) : u256 (beNat x.val) = some x := by
  have hlt := beNat_lt x.val
  have hbytes := beBytes_beNat x.val
  rw [x.property] at hlt hbytes
  rw [u256, if_pos hlt]
  exact congrArg some (Subtype.ext hbytes)

/-- The decimal numbers of `bigint`: a `U256` is written as one, and a text of digits is read as the
number it stands for, unless that is too large. -/
structure DecimalNumbers (env : Env) : Prop where
  format : ∀ x, env.formatU256 x = (beNat x.val).repr
  parse : ∀ str n, parseDecimal str = some n → env.fromDecStr str = u256 n

theorem DecimalNumbers.fromDecStr_formatU256 (h : DecimalNumbers env) (x : FixedBytes 32) :
    env.fromDecStr (env.formatU256 x) = some x := by
  rw [h.format, h.parse _ _ (parseDecimal_repr _), u256_beNat]

/-- **Foreign ids** come back as they were, in any state. -/
theorem toExternalTokenId_fromExternalTokenId (h : DecimalNumbers env) (hchain : nftChain ≠ CHAIN_ID)
    (hid : fromExternalTokenId env s nftChain nftAddress x = .ok id) (s' : State) (nftAddress' : FixedBytes 32) :
    toExternalTokenId env s' nftChain nftAddress' id = .ok (s', x) := by
  rw [fromExternalTokenId, if_neg hchain] at hid
  obtain rfl := Go.ok.inj hid
  rw [toExternalTokenId, if_neg hchain, h.fromDecStr_formatU256]
  rfl

/-! ## Ids of Terra -/

/-- The hash of an id. -/
def Env.hash (env : Env) (id : String) : FixedBytes 32 := env.keccak256 (asBytes id)

/-- The id is in the table of its collection, under its hash. -/
def Stored (env : Env) (s : State) (nftAddress : FixedBytes 32) (id : String) : Prop :=
  s.tokenIdHashes CHAIN_ID nftAddress (env.hash id) = some id

theorem Stored.fromExternalTokenId (h : Stored env s nftAddress id) :
    fromExternalTokenId env s CHAIN_ID nftAddress (env.hash id) = .ok id := by
  rw [NftBridge.fromExternalTokenId, if_pos rfl]
  exact okOr_eq_ok.mpr h

theorem Stored.congr (h : Stored env s nftAddress id) (htable : s'.tokenIdHashes = s.tokenIdHashes) :
    Stored env s' nftAddress id := by
  rw [Stored, htable]
  exact h

/-- What is read after a save. -/
theorem saveTokenIdHash_apply (s : State) (chain chain' : UInt16)
    (address address' hash hash' : FixedBytes 32) (id : String) :
    (saveTokenIdHash s chain address hash id).tokenIdHashes chain' address' hash' =
      if chain' = chain ∧ address' = address ∧ hash' = hash then some id
      else s.tokenIdHashes chain' address' hash' := by
  unfold saveTokenIdHash
  dsimp only
  by_cases hchain : chain' = chain
  · subst hchain
    rw [Function.update_self]
    by_cases haddress : address' = address
    · subst haddress
      rw [Function.update_self, Function.update_apply]
      simp only [true_and]
    · rw [Function.update_of_ne haddress, if_neg fun h => haddress h.2.1]
  · rw [Function.update_of_ne hchain, if_neg fun h => hchain h.1]

/-- An id that leaves is stored, and goes by its hash. -/
theorem toExternalTokenId_stored (h : toExternalTokenId env s CHAIN_ID nftAddress id = .ok (s', x)) :
    x = env.hash id ∧ Stored env s' nftAddress id := by
  rw [toExternalTokenId, if_pos rfl] at h
  obtain ⟨rfl, rfl⟩ := Prod.mk.inj (Go.ok.inj h)
  refine ⟨rfl, ?_⟩
  rw [Stored, saveTokenIdHash_apply]
  exact if_pos ⟨rfl, rfl, rfl⟩

/-- An id to be mapped, with the collection that it belongs to. -/
structure Mapping where
  nftChain : UInt16
  nftAddress : FixedBytes 32
  tokenId : String

/-- Map an id. -/
def mapId (env : Env) (s : State) (m : Mapping) : Option State :=
  (committed (toExternalTokenId env s m.nftChain m.nftAddress m.tokenId)).map Prod.fst

/-- **A mapping** of the same id, or of an id with another hash, leaves what is stored. -/
theorem Stored.mapId (h : Stored env s nftAddress id) {m : Mapping}
    (hhash : env.hash m.tokenId = env.hash id → m.tokenId = id) (hmap : mapId env s m = some s') :
    Stored env s' nftAddress id := by
  obtain ⟨⟨t, x⟩, hto, rfl⟩ := Option.map_eq_some_iff.mp hmap
  rw [committed_eq_some] at hto
  by_cases hchain : m.nftChain = CHAIN_ID
  · rw [toExternalTokenId, if_pos hchain] at hto
    obtain ⟨rfl, -⟩ := Prod.mk.inj (Go.ok.inj hto)
    show (saveTokenIdHash s m.nftChain m.nftAddress (env.hash m.tokenId) m.tokenId).tokenIdHashes _ _ _ = _
    rw [saveTokenIdHash_apply]
    split
    · rename_i hsame
      rw [hhash hsame.2.2.symm]
    · exact h
  · rw [toExternalTokenId, if_neg hchain] at hto
    obtain ⟨_, -, hto⟩ := Go.bind_eq_ok.mp hto
    obtain ⟨rfl, -⟩ := Prod.mk.inj (Go.ok.inj hto)
    exact h

variable {used : Set String}

/-- **Any number of mappings** leaves what is stored. -/
theorem maps_stored (hinj : Set.InjOn env.hash used) (hid : id ∈ used) (h : Stored env s nftAddress id)
    (hrun : Run (mapId env) (fun _ m => m.tokenId ∈ used) s s') : Stored env s' nftAddress id := by
  refine hrun.invariant (I := fun s => Stored env s nftAddress id) ?_ h
  intro s m t hstored hm hmap
  exact hstored.mapId (fun hhash => hinj hm hid hhash) hmap

/-! ## Transactions -/

section Transactions

variable {w w' : World} {chain : Chain}

/-- No message to another contract writes the tables. -/
theorem deliver_tokenIdHashes {message : Message} (h : deliver env chain w message = .ok w') :
    w'.bridge.tokenIdHashes = w.bridge.tokenIdHashes := by
  cases message with
  | execute contractAddr msg =>
    obtain ⟨_, _, -, -, rfl⟩ := deliver_execute_eq_ok.mp h
    rfl
  | instantiate name symbol asset tokenId owner tokenUri assetId =>
    obtain ⟨-, _, _, _, -, -, -, rfl⟩ := deliver_instantiate_eq_ok h
    rfl
  | postMessage contractAddr message nonce =>
    obtain ⟨_, -, h⟩ := Go.bind_eq_ok.mp h
    rw [Go.ok.inj h]

theorem dispatch_tokenIdHashes {messages : List Message} (h : dispatch env chain w (s, messages) = .ok w') :
    w'.bridge.tokenIdHashes = s.tokenIdHashes := by
  have hdeliver : ∀ w₁, messages.foldlM (deliver env chain) w₁ = .ok w' →
      w'.bridge.tokenIdHashes = w₁.bridge.tokenIdHashes := by
    clear h
    induction messages with
    | nil =>
      intro w₁ h
      rw [Go.ok.inj h]
    | cons message messages ih =>
      intro w₁ h
      obtain ⟨w₂, hfirst, hrest⟩ := Go.bind_eq_ok.mp h
      exact (ih w₂ hrest).trans (deliver_tokenIdHashes hfirst)
  exact hdeliver _ h

/-- Nor does a transfer that is completed. -/
theorem submitVaa_tokenIdHashes {vaa : ParsedVAA} {messages : List Message}
    (h : submitVaa env s vaa = .ok (s', messages)) : s'.tokenIdHashes = s.tokenIdHashes := by
  obtain ⟨_, -, h⟩ := Go.bind_eq_ok.mp h
  dsimp only at h
  split at h
  · simp only [handleGovernancePayload, handleRegisterChain, Go.bind_eq_ok] at h
    obtain ⟨_, -, _, -, _, -, _, -, _, ⟨_, -, _, -, _, -, hregister⟩, h⟩ := h
    obtain rfl := Go.ok.inj hregister
    obtain ⟨rfl, -⟩ := Prod.mk.inj (Go.ok.inj h)
    rfl
  · simp only [handleCompleteTransfer, Go.bind_eq_ok] at h
    obtain ⟨info, -, _, -, _, -, _, -, _, -, tokenId, -, h⟩ := h
    split at h
    · obtain ⟨tokenUri, -, h⟩ := Go.bind_eq_ok.mp h
      dsimp only at h
      split at h
      · obtain ⟨rfl, -⟩ := Prod.mk.inj (Go.ok.inj h)
        rfl
      · obtain ⟨_, _, hdeployed⟩ := @deployWrapped_eq env _ info tokenId _ tokenUri
        obtain ⟨rfl, -⟩ := Prod.mk.inj (hdeployed.symm.trans (Go.ok.inj h))
        rfl
    · obtain ⟨_, -, h⟩ := Go.bind_eq_ok.mp h
      obtain ⟨rfl, -⟩ := Prod.mk.inj (Go.ok.inj h)
      rfl

/-- The id that a transaction sends out. -/
def Input.tokenId : Input → Option String
  | .initiateTransfer _ _ _ tokenId _ _ _ => some tokenId
  | _ => none

/-- **A transaction** maps the id that it sends out, or leaves the tables as they are. -/
theorem step_maps {input : Input} (h : step env w input = some w') :
    w'.bridge.tokenIdHashes = w.bridge.tokenIdHashes ∨
      ∃ m t, input.tokenId = some m.tokenId ∧ mapId env w.bridge m = some t ∧
        w'.bridge.tokenIdHashes = t.tokenIdHashes := by
  rw [step, committed_eq_some] at h
  cases input with
  | initiateTransfer chain sender asset tokenId recipientChain recipient nonce =>
    simp only [run, initiateTransfer, handleInitiateTransfer, Go.bind_eq_ok] at h
    obtain ⟨_, -, ⟨t, messages⟩, ⟨_, -, _, -, ⟨take, nftChain, nftAddress⟩, -, ⟨t', x⟩, hto, _, -, _, -, _, -,
      _, -, heq⟩, hdispatch⟩ := h
    obtain ⟨rfl, -⟩ := Prod.mk.inj (Go.ok.inj heq)
    refine .inr ⟨⟨nftChain, nftAddress, tokenId⟩, t', rfl, ?_, dispatch_tokenIdHashes hdispatch⟩
    exact Option.map_eq_some_iff.mpr ⟨_, committed_eq_some.mpr hto, rfl⟩
  | submitVaa chain vaa =>
    obtain ⟨⟨t, messages⟩, hsubmit, hdispatch⟩ := Go.bind_eq_ok.mp h
    exact .inl ((dispatch_tokenIdHashes hdispatch).trans (submitVaa_tokenIdHashes hsubmit))
  | registerAssetHook sender assetId =>
    obtain ⟨t, hregister, heq⟩ := Go.bind_eq_ok.mp h
    obtain ⟨-, _, -, rfl⟩ := handleRegisterAsset_eq_ok hregister
    rw [← Go.ok.inj heq]
    exact .inl rfl
  | nft block sender contractAddr msg =>
    simp only [run, Go.bind_eq_ok] at h
    obtain ⟨_, -, _, -, _, -, heq⟩ := h
    rw [← Go.ok.inj heq]
    exact .inl rfl
  | instantiate contractAddr name symbol minter asset =>
    simp only [run, Go.bind_eq_ok] at h
    obtain ⟨_, -, _, -, heq⟩ := h
    rw [← Go.ok.inj heq]
    exact .inl rfl

/-- **What has left can come back**, after any transactions. -/
theorem run_stored (hinj : Set.InjOn env.hash used) (hid : id ∈ used)
    (h : Stored env w.bridge nftAddress id)
    (hrun : Run (step env) (fun _ input => ∀ tokenId ∈ input.tokenId, tokenId ∈ used) w w') :
    fromExternalTokenId env w'.bridge CHAIN_ID nftAddress (env.hash id) = .ok id := by
  refine Stored.fromExternalTokenId
    (hrun.invariant (I := fun w => Stored env w.bridge nftAddress id) ?_ h)
  intro w₁ input w₂ hstored hinput hstep
  rcases step_maps hstep with hsame | ⟨m, t, htokenId, hmap, htable⟩
  · exact hstored.congr hsame
  · have hm := hinput m.tokenId htokenId
    exact (hstored.mapId (fun hhash => hinj hm hid hhash) hmap).congr htable

end Transactions

/-- **Token ids are mapped there and back.** Foreign ids are the same when they leave again, and the ids of
Terra are the same when they come back, whatever other ids have been mapped meanwhile, and after any transactions. -/
theorem tokenIds_inverse (hdecimal : DecimalNumbers env) (hinj : Set.InjOn env.hash used) (s : State) :
    (∀ nftChain ≠ CHAIN_ID, ∀ nftAddress x, ∃ id, fromExternalTokenId env s nftChain nftAddress x = .ok id ∧
      ∀ s' nftAddress', toExternalTokenId env s' nftChain nftAddress' id = .ok (s', x)) ∧
    (∀ nftAddress, ∀ id ∈ used, ∀ s₁ x, toExternalTokenId env s CHAIN_ID nftAddress id = .ok (s₁, x) →
      ∀ s₂, Run (mapId env) (fun _ m => m.tokenId ∈ used) s₁ s₂ →
        fromExternalTokenId env s₂ CHAIN_ID nftAddress x = .ok id) ∧
    ∀ nftAddress, ∀ id ∈ used, ∀ s₁ x, toExternalTokenId env s CHAIN_ID nftAddress id = .ok (s₁, x) →
      ∀ w w', w.bridge = s₁ → Run (step env) (fun _ input => ∀ tokenId ∈ input.tokenId, tokenId ∈ used) w w' →
        fromExternalTokenId env w'.bridge CHAIN_ID nftAddress x = .ok id := by
  refine ⟨?_, ?_, ?_⟩
  · intro nftChain hchain nftAddress x
    have hid : fromExternalTokenId env s nftChain nftAddress x = .ok (env.formatU256 x) := by
      rw [fromExternalTokenId, if_neg hchain]
    exact ⟨_, hid, toExternalTokenId_fromExternalTokenId hdecimal hchain hid⟩
  · intro nftAddress id hid s₁ x hto s₂ hrun
    obtain ⟨rfl, hstored⟩ := toExternalTokenId_stored hto
    exact (maps_stored hinj hid hstored hrun).fromExternalTokenId
  · intro nftAddress id hid s₁ x hto w w' hbridge hrun
    obtain ⟨rfl, hstored⟩ := toExternalTokenId_stored hto
    rw [← hbridge] at hstored
    exact run_stored hinj hid hstored hrun

/-! ## Inputs -/

theorem sampleEnv_decimal : DecimalNumbers sampleEnv where
  format := fun _ => rfl
  parse := by
    intro str n h
    unfold parseDecimal at h
    split at h
    · rw [← Option.some.inj h]
      rfl
    · cases h

/-- Two ids of a collection of Terra. -/
def sampleIds : Set String := {"alpha", "beta"}

theorem sampleIds_injOn : Set.InjOn sampleEnv.hash sampleIds := by
  have hne : sampleEnv.hash "alpha" ≠ sampleEnv.hash "beta" := by decide +kernel
  rintro a (rfl | rfl) b (rfl | rfl) h
  · rfl
  · exact absurd h hne
  · exact absurd h.symm hne
  · rfl

theorem sampleCollection_length : (List.replicate 32 (0x11 : UInt8)).length = 32 := rfl

def sampleCollection : FixedBytes 32 := ⟨List.replicate 32 0x11, sampleCollection_length⟩

/-- A foreign id leaves as it came, and "alpha" comes back after "beta" has left. -/
theorem sampleIds_inverse :
    (∃ id, fromExternalTokenId sampleEnv freshWorld.bridge 2 sampleCollection sampleCollection = .ok id ∧
      toExternalTokenId sampleEnv freshWorld.bridge 2 sampleCollection id =
        .ok (freshWorld.bridge, sampleCollection)) ∧
    ∀ s₁ x, toExternalTokenId sampleEnv freshWorld.bridge CHAIN_ID sampleCollection "alpha" = .ok (s₁, x) →
      ∀ s₂, mapId sampleEnv s₁ ⟨CHAIN_ID, sampleCollection, "beta"⟩ = some s₂ →
        fromExternalTokenId sampleEnv s₂ CHAIN_ID sampleCollection x = .ok "alpha" := by
  obtain ⟨hforeign, hnative, -⟩ := tokenIds_inverse sampleEnv_decimal sampleIds_injOn freshWorld.bridge
  constructor
  · obtain ⟨id, hid, hback⟩ := hforeign 2 (by decide) sampleCollection sampleCollection
    exact ⟨id, hid, hback _ _⟩
  · intro s₁ x hto s₂ hmap
    exact hnative _ "alpha" (.inl rfl) s₁ x hto s₂
      ((Run.refl s₁).snoc (a := ⟨CHAIN_ID, sampleCollection, "beta"⟩) (.inr rfl) hmap)

end Wormhole.Terra.NftBridge

/-
# Wormhole.Ethereum.SplCache — the metadata of Solana's NFTs.

All NFTs of Solana share one wrapped collection, so the bridge keeps the name and the symbol of each in
`splCache`, under the token id alone: `completeTransfer` writes them when it mints, `transferNFT` publishes
and clears them when it burns.  `Cached` is the invariant: the wrapped collections and the registry agree
(`Registry.Consistent`), Solana has one collection, and the cache of every outstanding NFT is what the
message that last minted it says.  It rests on Solana's NFT bridge, which gives all its NFTs one address.
-/
import Mathlib
import Wormhole.Lib.Failing
import Wormhole.Lib.Mapping
import Wormhole.Lib.Registry
import Wormhole.Lib.Transition
import Wormhole.Ethereum.NFTBridge

namespace Wormhole.Ethereum.NFTBridge

open Wormhole.Lib Wormhole.Lib.Bytes Wormhole.Lib.Failing Wormhole.Lib.Transition
open Wormhole.Lib.Mapping (replay replay_concat update_eq_some)

variable {ν : Type}

/-! ## What is minted -/

/-- The token address that Solana's NFT bridge publishes for each of its NFTs. -/
def solanaAddress : Word := ⟨List.replicate 32 0x01, rfl⟩

/-- The messages that have minted a wrapped NFT, in order. -/
abbrev Mints := List Transfer

/-- The message with which a transaction mints. -/
def minted (w : World ν) : Input ν → Mints
  | .completeTransfer vm _ _ _ =>
    match parseTransfer vm.payload with
    | .ok transfer => if transfer.tokenChain = w.bridge.chainId then [] else [transfer]
    | .error _ => []
  | _ => []

/-- Chain, token address and token id. -/
def Transfer.nft (transfer : Transfer) : Nat × Word × Word :=
  (transfer.tokenChain, transfer.tokenAddress, transfer.tokenID)

/-- The message that has last minted an NFT. -/
def lastMint (log : Mints) : Nat × Word × Word → Option Transfer :=
  replay none (log.map fun transfer => (transfer.nft, some transfer))

/-- The metadata that a message carries. -/
def Transfer.metadata (transfer : Transfer) : SPLCache :=
  { name := transfer.name, symbol := transfer.symbol }

/-- Solana's side of the protocol: every NFT of Solana is sent under the one address. -/
def Input.SolanaAddress : Input ν → Prop
  | .completeTransfer vm valid _ _ => valid = true → ∀ transfer, parseTransfer vm.payload = .ok transfer →
      transfer.tokenChain = 1 → transfer.tokenAddress = solanaAddress
  | _ => True

theorem lastMint_concat (log : Mints) (transfer : Transfer) :
    lastMint (log ++ [transfer]) = Function.update (lastMint log) transfer.nft (some transfer) := by
  unfold lastMint
  rw [List.map_append, List.map_singleton]
  exact replay_concat _ transfer.nft (some transfer)

/-! ## The invariant -/

/-- Chain and address of a wrapped collection. -/
def collection (nft : NFTImplementation.State) : Nat × Word := (nft.chainId, nft.nativeContract)

/-- The registry of wrapped assets, read by pairs. -/
def assets (s : State) (key : Nat × Word) : Address := s.wrappedAssets key.1 key.2

/-- The registry, the collections and the cache agree with each other and with what was minted. -/
structure Cached (s : World ν × Mints) : Prop where
  wrapped : Wrapped s.1
  registry : Registry.Consistent zeroAddress (assets s.1.bridge) s.1.nfts collection
  solana : ∀ token nft, s.1.nfts token = some nft → nft.chainId = 1 → nft.nativeContract = solanaAddress
  cache : ∀ token nft id, s.1.nfts token = some nft → nft.chainId = 1 → nft.owners id ≠ zeroAddress →
    ∃ transfer, lastMint s.2 (1, solanaAddress, id) = some transfer ∧
      s.1.bridge.splCache id = transfer.metadata

/-- What the invariant reads of the bridge. -/
structure SameRegistry (w w' : World ν) : Prop extends SameBridge w w' where
  wrappedAssets : w'.bridge.wrappedAssets = w.bridge.wrappedAssets
  splCache : w'.bridge.splCache = w.bridge.splCache

namespace Cached

variable {w w' : World ν} {log : Mints}

/-- Solana has one collection. -/
theorem unique (h : Cached (w, log)) {token token' : Address} {nft nft' : NFTImplementation.State}
    (hnft : w.nfts token = some nft) (hchain : nft.chainId = 1) (hnft' : w.nfts token' = some nft')
    (hchain' : nft'.chainId = 1) : token' = token := by
  have hkey : collection nft' = collection nft := by
    unfold collection
    rw [hchain, hchain', h.solana token nft hnft hchain, h.solana token' nft' hnft' hchain']
  rw [← (h.registry.known token' nft' hnft').2, ← (h.registry.known token nft hnft).2, hkey]

theorem frame (h : Cached (w, log)) (hsame : SameRegistry w w') (hnfts : w'.nfts = w.nfts) :
    Cached (w', log) where
  wrapped := h.wrapped.frame hsame.toSameBridge hnfts
  registry := by
    have hassets : assets w'.bridge = assets w.bridge := by
      funext key
      unfold assets
      rw [hsame.wrappedAssets]
    show Registry.Consistent zeroAddress (assets w'.bridge) w'.nfts collection
    rw [hassets, hnfts]
    exact h.registry
  solana := by
    show ∀ token nft, w'.nfts token = some nft → _
    rw [hnfts]
    exact h.solana
  cache := by
    show ∀ token nft id, w'.nfts token = some nft → _ → _ → ∃ transfer, _ ∧ w'.bridge.splCache id = _
    rw [hnfts, hsame.splCache]
    exact h.cache

/-- A collection is written back; it mints nothing. -/
theorem setNft (h : Cached (w, log)) {token : Address} {nft nft' : NFTImplementation.State}
    (hnft : w.nfts token = some nft) (hsame : NFTImplementation.SameIdentity nft nft')
    (hold : ∀ id, nft'.owners id ≠ zeroAddress → nft.owners id ≠ zeroAddress) :
    Cached (w.setNft token nft', log) where
  wrapped := h.wrapped.setNft hnft hsame
  registry := h.registry.write hnft (by unfold collection; rw [hsame.chainId, hsame.nativeContract])
  solana := by
    intro token₁ nft₁ hnft₁ hchain
    rcases update_eq_some hnft₁ with ⟨-, rfl⟩ | hnft₁
    · rw [hsame.nativeContract]
      exact h.solana token nft hnft (hsame.chainId ▸ hchain)
    · exact h.solana token₁ nft₁ hnft₁ hchain
  cache := by
    intro token₁ nft₁ id hnft₁ hchain howned
    rcases update_eq_some hnft₁ with ⟨-, rfl⟩ | hnft₁
    · exact h.cache token nft id hnft (hsame.chainId ▸ hchain) (hold id howned)
    · exact h.cache token₁ nft₁ id hnft₁ hchain howned

end Cached

/-! ## Calls of the collections -/

section Collections

variable {nft nft' : NFTImplementation.State}

/-- A transfer makes nobody the holder of an NFT that is not outstanding. -/
theorem transfer_old {source recipient : Address} {tokenID : Word}
    (h : NFTImplementation.transfer nft source recipient tokenID = .ok nft') (id : Word)
    (howned : nft'.owners id ≠ zeroAddress) : nft.owners id ≠ zeroAddress := by
  have howners := (NFTImplementation.transfer_eq_ok h).2.2
  simp only [NFTImplementation.transfer, bind_eq_ok, NFTImplementation.ownerOf_eq_ok] at h
  obtain ⟨_, ⟨hexists, -⟩, -⟩ := h
  by_cases hid : id = tokenID
  · rw [hid]
    exact hexists
  · rw [howners, Function.update_of_ne hid] at howned
    exact howned

/-- A call of somebody who does not own the collection mints nothing. -/
theorem call_old {sender : Address} {c : NFTImplementation.Call} (h : c.run nft sender = .ok nft')
    (hsender : nft.owner ≠ sender) (hinit : nft.initialized = true) (id : Word)
    (howned : nft'.owners id ≠ zeroAddress) : nft.owners id ≠ zeroAddress := by
  cases c with
  | initializeContract name symbol owner chainId nativeContract =>
    obtain ⟨_, hreq, -⟩ := bind_eq_ok.mp h
    rw [require_eq_ok, hinit] at hreq
    cases hreq
  | approve recipient tokenId =>
    simp only [NFTImplementation.Call.run, NFTImplementation.approve, bind_eq_ok] at h
    obtain ⟨_, -, _, -, _, -, hset⟩ := h
    rwa [(NFTImplementation.setApproval_eq_ok hset).2] at howned
  | setApprovalForAll operator approved =>
    obtain ⟨_, -, heq⟩ := bind_eq_ok.mp h
    rwa [← Except.ok.inj heq] at howned
  | transferFrom source recipient tokenId =>
    simp only [NFTImplementation.Call.run, NFTImplementation.transferFrom, bind_eq_ok] at h
    obtain ⟨_, -, _, -, htransfer⟩ := h
    exact transfer_old htransfer id howned
  | safeTransferFrom source recipient tokenId received =>
    simp only [NFTImplementation.Call.run, NFTImplementation.safeTransferFrom,
      NFTImplementation.transferFrom, bind_eq_ok] at h
    obtain ⟨s', ⟨_, -, _, -, htransfer⟩, _, -, heq⟩ := h
    rw [← Except.ok.inj heq] at howned
    exact transfer_old htransfer id howned
  | mint recipient tokenId uri => exact absurd (NFTImplementation.mint_eq_ok h).2.1 hsender
  | burn tokenId => exact absurd (NFTImplementation.burn_eq_ok h).2.1 hsender

end Collections

/-! ## Incoming transfers -/

section Steps

variable {env : Environment ν} {w w' : World ν} {log : Mints}

/-- A transfer that the bridge asks for, of a collection or outside. -/
theorem Cached.callSafeTransferFrom {token source recipient : Address} {tokenID : Word}
    {received : Revert Unit} (hw : Cached (w, log))
    (h : NFTBridge.callSafeTransferFrom env w token source recipient tokenID received = .ok w') :
    Cached (w', log) ∧ SameRegistry w w' := by
  unfold NFTBridge.callSafeTransferFrom at h
  split at h
  · rename_i nft hnft
    simp only [NFTImplementation.safeTransferFrom, NFTImplementation.transferFrom, bind_eq_ok] at h
    obtain ⟨nft', ⟨s', ⟨_, -, _, -, htransfer⟩, _, -, hret⟩, heq⟩ := h
    obtain rfl := Except.ok.inj hret
    rw [← Except.ok.inj heq]
    refine ⟨hw.setNft hnft (NFTImplementation.transfer_eq_ok htransfer).1 ?_, ⟨⟨rfl, rfl, rfl⟩, rfl, rfl⟩⟩
    intro id howned
    exact transfer_old htransfer id howned
  · obtain ⟨e, -, heq⟩ := bind_eq_ok.mp h
    rw [← Except.ok.inj heq]
    exact ⟨hw.frame ⟨⟨rfl, rfl, rfl⟩, rfl, rfl⟩ rfl, ⟨⟨rfl, rfl, rfl⟩, rfl, rfl⟩⟩

/-- A new collection, in which nothing is minted yet. -/
theorem Cached.createWrapped {tokenChain : Nat} {tokenAddress name symbol : Word} {token : Address}
    (hw : Cached (w, log)) (hsolana : tokenChain = 1 → tokenAddress = solanaAddress)
    (h : NFTBridge.createWrapped env w tokenChain tokenAddress name symbol = .ok (w', token)) :
    Cached (w', log) ∧ w'.bridge.splCache = w.bridge.splCache ∧
      ∃ nft, w'.nfts token = some nft ∧ collection nft = (tokenChain, tokenAddress) := by
  have hwrapped := (hw.wrapped.createWrapped h).1
  simp only [NFTBridge.createWrapped, bind_eq_ok, require_eq_ok] at h
  obtain ⟨_, -, _, hunset, nft, hinit, _, ⟨hfree, -, -, hzero⟩, heq⟩ := h
  generalize env.create2 _ _ _ _ = wrapper at hfree hzero heq
  obtain ⟨rfl, rfl⟩ := Prod.mk.inj (Except.ok.inj heq)
  simp only [NFTImplementation.initializeContract, bind_eq_ok] at hinit
  obtain ⟨_, -, hnft⟩ := hinit
  have hkey : collection nft = (tokenChain, tokenAddress) := by
    rw [← Except.ok.inj hnft]
    rfl
  have howners : nft.owners = fun _ => zeroAddress := by
    rw [← Except.ok.inj hnft]
    rfl
  refine ⟨⟨hwrapped, ?_, ?_, ?_⟩, rfl, nft, Function.update_self _ _ _, hkey⟩
  · have hassets : assets (setWrappedAsset w.bridge tokenChain tokenAddress wrapper) =
        Function.update (assets w.bridge) (collection nft) wrapper := by
      rw [hkey]
      exact Registry.update_pair w.bridge.wrappedAssets tokenChain tokenAddress wrapper
    show Registry.Consistent zeroAddress (assets (setWrappedAsset _ _ _ _))
      (Function.update w.nfts wrapper (some nft)) collection
    rw [hassets]
    refine hw.registry.create ?_ (Option.isNone_iff_eq_none.mp hfree) hzero
    rw [hkey]
    exact hunset
  · intro token₁ nft₁ hnft₁ hchain
    rcases update_eq_some hnft₁ with ⟨-, rfl⟩ | hold
    · have hkey := Prod.mk.inj hkey
      exact hkey.2.trans (hsolana (hkey.1.symm.trans hchain))
    · exact hw.solana token₁ nft₁ hold hchain
  · intro token₁ nft₁ id hnft₁ hchain howned
    rcases update_eq_some hnft₁ with ⟨-, rfl⟩ | hold
    · rw [howners] at howned
      exact absurd rfl howned
    · exact hw.cache token₁ nft₁ id hold hchain howned

/-- The collection of an incoming transfer, created or found. -/
theorem Cached.wrappedAssetOf {transfer : Transfer} {token : Address} (hw : Cached (w, log))
    (hsolana : transfer.tokenChain = 1 → transfer.tokenAddress = solanaAddress)
    (h : NFTBridge.wrappedAssetOf env w transfer = .ok (w', token)) :
    Cached (w', log) ∧ w'.bridge.splCache = w.bridge.splCache ∧
      ∃ nft, w'.nfts token = some nft ∧ collection nft = (transfer.tokenChain, transfer.tokenAddress) := by
  unfold NFTBridge.wrappedAssetOf at h
  split at h
  · exact hw.createWrapped hsolana h
  · rename_i hset
    obtain ⟨rfl, rfl⟩ := Prod.mk.inj (Except.ok.inj h)
    exact ⟨hw, rfl, hw.registry.named (transfer.tokenChain, transfer.tokenAddress) hset⟩

/-- **A mint** keeps the cache in step: it writes the metadata of the NFT it mints, which was not
outstanding. -/
theorem Cached.mintWrapped {transfer : Transfer} (hw : Cached (w, log))
    (hsolana : transfer.tokenChain = 1 → transfer.tokenAddress = solanaAddress)
    (h : NFTBridge.mintWrapped env w transfer = .ok w') : Cached (w', log ++ [transfer]) := by
  have hwrapped := hw.wrapped.mintWrapped h
  simp only [NFTBridge.mintWrapped, bind_eq_ok, nftAt_eq_ok] at h
  obtain ⟨⟨w₁, token⟩, hasset, nft, hnft, nft', hmint, heq⟩ := h
  obtain ⟨hw₁, -, nft₁, hnft₁, hkey⟩ := hw.wrappedAssetOf hsolana hasset
  dsimp only at hnft
  rw [← Option.some.inj (hnft₁.symm.trans hnft)] at hmint
  obtain ⟨hsame, -, hfresh, howners⟩ := NFTImplementation.mint_eq_ok hmint
  have hkey' : collection nft' = (transfer.tokenChain, transfer.tokenAddress) := by
    rw [← hkey]
    unfold collection
    rw [hsame.chainId, hsame.nativeContract]
  have hregistry := hw₁.registry.write hnft₁ (hkey'.trans hkey.symm)
  have hnfts : w'.nfts = Function.update w₁.nfts token (some nft') := by
    rw [← Except.ok.inj heq]
    rfl
  have hassets : w'.bridge.wrappedAssets = w₁.bridge.wrappedAssets := by
    rw [← Except.ok.inj heq]
    simp only [World.setNft]
    split <;> rfl
  refine ⟨hwrapped, ?_, ?_, ?_⟩
  · show Registry.Consistent zeroAddress (assets w'.bridge) w'.nfts collection
    unfold assets
    rw [hnfts, hassets]
    exact hregistry
  · intro token₁ nft₂ hnft₂ hchain
    rw [hnfts] at hnft₂
    rcases update_eq_some hnft₂ with ⟨-, rfl⟩ | hold
    · have hkey' := Prod.mk.inj hkey'
      exact hkey'.2.trans (hsolana (hkey'.1.symm.trans hchain))
    · exact hw₁.solana token₁ nft₂ hold hchain
  · intro token₁ nft₂ id hnft₂ hchain howned
    rw [hnfts] at hnft₂
    have hcase : (1 : Nat) = transfer.tokenChain ∨ 1 ≠ transfer.tokenChain := eq_or_ne _ _
    rcases hcase with hone | hother
    · -- Solana's collection is the one that was minted in
      have hcache : w'.bridge.splCache =
          Function.update w₁.bridge.splCache transfer.tokenID transfer.metadata := by
        rw [← Except.ok.inj heq]
        simp only [World.setNft]
        rw [if_pos hone.symm]
        rfl
      have hnftKey : transfer.nft = (1, solanaAddress, transfer.tokenID) := by
        unfold Transfer.nft
        rw [← hone, hsolana hone.symm]
      rw [lastMint_concat, hnftKey, hcache]
      by_cases hid : id = transfer.tokenID
      · subst hid
        exact ⟨transfer, Function.update_self _ _ _, Function.update_self _ _ _⟩
      · have hne : ((1 : Nat), solanaAddress, id) ≠ (1, solanaAddress, transfer.tokenID) := by
          intro heq
          exact hid (Prod.mk.inj (Prod.mk.inj heq).2).2
        rw [Function.update_of_ne hne, Function.update_of_ne hid]
        rcases update_eq_some hnft₂ with ⟨-, rfl⟩ | hold
        · rw [howners, Function.update_of_ne hid] at howned
          exact hw₁.cache token nft₁ id hnft₁ ((Prod.mk.inj hkey).1.trans hone.symm) howned
        · exact hw₁.cache token₁ nft₂ id hold hchain howned
    · -- the collection of another chain
      have hcache : w'.bridge.splCache = w₁.bridge.splCache := by
        rw [← Except.ok.inj heq]
        simp only [World.setNft]
        rw [if_neg (Ne.symm hother)]
      have hne : ((1 : Nat), solanaAddress, id) ≠ transfer.nft := by
        intro heq
        exact hother (Prod.mk.inj heq).1
      rw [lastMint_concat, Function.update_of_ne hne, hcache]
      rcases update_eq_some hnft₂ with ⟨-, rfl⟩ | hold
      · exact absurd (hchain.symm.trans (Prod.mk.inj hkey').1) hother
      · exact hw₁.cache token₁ nft₂ id hold hchain howned

/-- An incoming transfer. -/
theorem Cached.completeTransfer {vm : VM} {valid : Bool} {reason : String} {received : Revert Unit}
    (hw : Cached (w, log)) (hsolana : (Input.completeTransfer (ν := ν) vm valid reason received).SolanaAddress)
    (h : NFTBridge.completeTransfer env w vm valid reason received = .ok w') :
    Cached (w', log ++ minted w (.completeTransfer vm valid reason received)) := by
  simp only [NFTBridge.completeTransfer, bind_eq_ok, require_eq_ok] at h
  obtain ⟨_, hvalid, _, -, transfer, hparse, _, -, _, -, h⟩ := h
  have hcompleted : Cached ({ w with bridge := setTransferCompleted w.bridge vm.hash }, log) :=
    hw.frame ⟨⟨rfl, rfl, rfl⟩, rfl, rfl⟩ rfl
  have hminted : minted w (.completeTransfer vm valid reason received) =
      if transfer.tokenChain = w.bridge.chainId then [] else [transfer] := by
    simp only [minted, hparse]
  rw [hminted]
  by_cases hnative : transfer.tokenChain = w.bridge.chainId
  · rw [if_pos (show transfer.tokenChain = (setTransferCompleted _ _).chainId from hnative)] at h
    rw [if_pos hnative, List.append_nil]
    exact (hcompleted.callSafeTransferFrom h).1
  · rw [if_neg (show ¬transfer.tokenChain = (setTransferCompleted _ _).chainId from hnative)] at h
    rw [if_neg hnative]
    exact hcompleted.mintWrapped (hsolana hvalid transfer hparse) h

/-! ## Outgoing transfers -/

/-- The bridge behind an outgoing transfer: the cache of an NFT of chain 1 is cleared. -/
def clearedFor (s : State) (tokenChain : Nat) (tokenID : Word) : State :=
  if tokenChain = 1 then clearSplCache s tokenID else s

/-- The symbol and the name that an outgoing transfer publishes. -/
def publishedMetadata (memory : Word) (s : State) (nft : NFTImplementation.State) (tokenID : Word) :
    SPLCache :=
  if nft.chainId = 1 then s.splCache tokenID
  else { name := firstWord memory nft.name, symbol := firstWord (lengthWord nft.name) nft.symbol }

/-- **A wrapped NFT goes out**: it is burned, its cache is cleared and the message carries its
metadata. -/
theorem transferNFT_wrapped {sender token : Address} {tokenID recipient : Word}
    {recipientChain nonce value sequence : Nat} {nft : NFTImplementation.State} (hw : Wrapped w)
    (hnft : w.nfts token = some nft)
    (h : transferNFT env w sender token tokenID recipientChain recipient nonce value = .ok (w', sequence)) :
    ∃ nft' encoded, NFTImplementation.burn nft w.bridge.self tokenID = .ok nft' ∧
      w'.nfts = Function.update w.nfts token (some nft') ∧
      w'.bridge = clearedFor w.bridge nft.chainId tokenID ∧
      encodeTransfer {
        tokenAddress := nft.nativeContract
        tokenChain := nft.chainId
        symbol := (publishedMetadata env.memory w.bridge nft tokenID).symbol
        name := (publishedMetadata env.memory w.bridge nft tokenID).name
        tokenID, uri := nft.tokenURIs tokenID, recipient, toChain := recipientChain } = .ok encoded ∧
      env.publishMessage w.env value nonce encoded 15 = .ok (sequence, w'.env) := by
  have hasset : w.bridge.isWrappedAsset token = true := by
    rw [← hw.isSome_iff, hnft]
    rfl
  have hforeign := (hw.nft token nft hnft).2.2
  simp only [transferNFT, tokenParameters, hasset, if_true, bind_eq_ok, nftAt_eq_ok] at h
  obtain ⟨⟨tokenChain, tokenAddress, symbol, name, uri⟩, ⟨nft₁, hnft₁, uri', huri, hparams⟩, w₂, hmove, hlog⟩ := h
  obtain rfl : nft = nft₁ := Option.some.inj (hnft.symm.trans hnft₁)
  simp only [NFTImplementation.tokenURI, bind_eq_ok] at huri
  obtain ⟨_, -, huri⟩ := huri
  obtain rfl := Except.ok.inj huri
  simp only [pure, Except.pure, Except.ok.injEq, Prod.mk.injEq] at hparams
  obtain ⟨rfl, rfl, rfl, rfl, rfl⟩ := hparams
  have hcleared : (if nft.chainId = 1 then { w with bridge := clearSplCache w.bridge tokenID } else w) =
      { w with bridge := clearedFor w.bridge nft.chainId tokenID } := by
    unfold clearedFor
    split <;> rfl
  have hself : (clearedFor w.bridge nft.chainId tokenID).self = w.bridge.self ∧
      (clearedFor w.bridge nft.chainId tokenID).chainId = w.bridge.chainId := by
    unfold clearedFor
    split <;> exact ⟨rfl, rfl⟩
  rw [hcleared] at hmove
  simp only [takeToken, hself, if_neg hforeign] at hmove
  obtain ⟨nft₂, nft', hnft₂, hburn, rfl⟩ := burnWrapped_eq_ok hmove
  obtain rfl : nft = nft₂ := Option.some.inj (hnft.symm.trans hnft₂)
  simp only [logTransfer, bind_eq_ok] at hlog
  obtain ⟨encoded, hencode, ⟨sequence', e⟩, hpublish, heq⟩ := hlog
  obtain ⟨rfl, rfl⟩ := Prod.mk.inj (Except.ok.inj heq)
  refine ⟨nft', encoded, ?_, rfl, rfl, ?_, hpublish⟩
  · rw [← hself.1]
    exact hburn
  · rw [← hencode]
    unfold publishedMetadata
    split <;> rfl

/-- Any other NFT goes out: no collection changes. -/
theorem transferNFT_native {sender token : Address} {tokenID recipient : Word}
    {recipientChain nonce value sequence : Nat} (hw : Wrapped w) (hnone : w.nfts token = none)
    (h : transferNFT env w sender token tokenID recipientChain recipient nonce value = .ok (w', sequence)) :
    w'.nfts = w.nfts ∧ w'.bridge = clearedFor w.bridge w.bridge.chainId tokenID := by
  simp only [transferNFT, bind_eq_ok] at h
  obtain ⟨⟨tokenChain, tokenAddress, symbol, name, uri⟩, hparams, w₂, hmove, hlog⟩ := h
  obtain ⟨e, rfl⟩ := logTransfer_eq_ok hlog
  rcases tokenParameters_eq_ok hparams with ⟨hwrapped, -⟩ | ⟨-, rfl⟩
  · rw [← hw.isSome_iff, hnone] at hwrapped
    cases hwrapped
  · have hcleared : (if w.bridge.chainId = 1 then { w with bridge := clearSplCache w.bridge tokenID } else w) =
        { w with bridge := clearedFor w.bridge w.bridge.chainId tokenID } := by
      unfold clearedFor
      split <;> rfl
    have hchain : (clearedFor w.bridge w.bridge.chainId tokenID).chainId = w.bridge.chainId := by
      unfold clearedFor
      split <;> rfl
    rw [hcleared, takeToken, if_pos hchain.symm] at hmove
    rcases callSafeTransferFrom_eq_ok hmove with ⟨nft, -, hnft, -⟩ | ⟨-, e', -, rfl⟩
    · rw [hnone] at hnft
      cases hnft
    · exact ⟨rfl, rfl⟩

/-- The bridge's chain has no collection of its own. -/
theorem Cached.cleared (hw : Cached (w, log)) {tokenID : Word} (hnfts : w'.nfts = w.nfts)
    (hbridge : w'.bridge = clearedFor w.bridge w.bridge.chainId tokenID) : Cached (w', log) := by
  unfold clearedFor at hbridge
  split at hbridge
  · rename_i hone
    have hsame : SameBridge w w' := by
      constructor <;> rw [hbridge] <;> rfl
    have hforeign : ∀ token nft, w'.nfts token = some nft → nft.chainId ≠ 1 := by
      intro token nft hnft
      rw [hnfts] at hnft
      rw [← hone]
      exact (hw.wrapped.nft token nft hnft).2.2
    refine ⟨hw.wrapped.frame hsame hnfts, ?_, ?_, ?_⟩
    · show Registry.Consistent zeroAddress (assets w'.bridge) w'.nfts collection
      rw [hnfts, hbridge]
      exact hw.registry
    · intro token nft hnft hchain
      exact absurd hchain (hforeign token nft hnft)
    · intro token nft id hnft hchain
      exact absurd hchain (hforeign token nft hnft)
  · refine hw.frame ⟨⟨?_, ?_, ?_⟩, ?_, ?_⟩ hnfts <;> rw [hbridge]

/-- **A burn** keeps the cache in step: it clears the cache of the NFT it burns. -/
theorem Cached.burnt (hw : Cached (w, log)) {token : Address} {tokenID : Word}
    {nft nft' : NFTImplementation.State} (hnft : w.nfts token = some nft)
    (hburn : NFTImplementation.burn nft w.bridge.self tokenID = .ok nft')
    (hnfts : w'.nfts = Function.update w.nfts token (some nft'))
    (hbridge : w'.bridge = clearedFor w.bridge nft.chainId tokenID) : Cached (w', log) := by
  obtain ⟨hsame, -, -, howners⟩ := NFTImplementation.burn_eq_ok hburn
  have hset : Cached (w.setNft token nft', log) := by
    refine hw.setNft hnft hsame ?_
    intro id howned hzero
    rw [howners] at howned
    by_cases hid : id = tokenID
    · rw [hid, Function.update_self] at howned
      exact howned rfl
    · rw [Function.update_of_ne hid] at howned
      exact howned hzero
  unfold clearedFor at hbridge
  split at hbridge
  · rename_i hone
    have hsame' : SameBridge (w.setNft token nft') w' := by
      constructor <;> rw [hbridge] <;> rfl
    refine ⟨hset.wrapped.frame hsame' hnfts, ?_, ?_, ?_⟩
    · show Registry.Consistent zeroAddress (assets w'.bridge) w'.nfts collection
      rw [hnfts, hbridge]
      exact hset.registry
    · intro token₁ nft₁ hnft₁
      rw [hnfts] at hnft₁
      exact hset.solana token₁ nft₁ hnft₁
    · intro token₁ nft₁ id hnft₁ hchain howned
      rw [hnfts] at hnft₁
      have hwrite : (w.setNft token nft').nfts token = some nft' := Function.update_self _ _ _
      have htoken := hset.unique hwrite (hsame.chainId.trans hone) hnft₁ hchain
      -- what is burned is not outstanding
      have hid : id ≠ tokenID := by
        rintro rfl
        rw [htoken, Function.update_self, Option.some_inj] at hnft₁
        rw [← hnft₁, howners, Function.update_self] at howned
        exact howned rfl
      obtain ⟨transfer, hlast, hcache⟩ := hset.cache token₁ nft₁ id hnft₁ hchain howned
      refine ⟨transfer, hlast, ?_⟩
      rw [hbridge]
      exact (Function.update_of_ne hid _ _).trans hcache
  · refine hset.frame ⟨⟨?_, ?_, ?_⟩, ?_, ?_⟩ hnfts <;> rw [hbridge] <;> rfl

theorem Cached.transferNFT {sender token : Address} {tokenID recipient : Word}
    {recipientChain nonce value sequence : Nat} (hw : Cached (w, log))
    (h : NFTBridge.transferNFT env w sender token tokenID recipientChain recipient nonce value
      = .ok (w', sequence)) : Cached (w', log) := by
  cases hnft : w.nfts token with
  | some nft =>
    obtain ⟨nft', encoded, hburn, hnfts, hbridge, -, -⟩ := transferNFT_wrapped hw.wrapped hnft h
    exact hw.burnt hnft hburn hnfts hbridge
  | none =>
    obtain ⟨hnfts, hbridge⟩ := transferNFT_native hw.wrapped hnft h
    exact hw.cleared hnfts hbridge

/-! ## Runs -/

/-- A registration of an emitter. -/
theorem Cached.registerChain {vm : VM} {valid : Bool} {reason : String} {bridge : State}
    (hw : Cached (w, log)) (h : NFTBridge.registerChain w.bridge vm valid reason = .ok bridge) :
    Cached ({ w with bridge }, log) := by
  simp only [NFTBridge.registerChain, bind_eq_ok] at h
  obtain ⟨_, -, _, -, _, -, heq⟩ := h
  refine hw.frame ⟨⟨?_, ?_, ?_⟩, ?_, ?_⟩ rfl <;> rw [← Except.ok.inj heq]

/-- **Step.** Every transaction keeps the invariant. -/
theorem Cached.of_step {s t : World ν × Mints} {input : Input ν} (hs : Cached s)
    (hsolana : input.SolanaAddress) (h : logging (step env) minted s input = some t) : Cached t := by
  obtain ⟨w, log⟩ := s
  obtain ⟨w', log'⟩ := t
  rw [logging_eq_some] at h
  obtain ⟨hstep, hlog⟩ := h
  dsimp only at hstep hlog
  subst hlog
  cases input with
  | transferNFT sender token tokenID recipientChain recipient nonce value =>
    obtain ⟨⟨w₁, sequence⟩, htransfer, rfl⟩ := map_toOption_eq_some hstep
    show Cached (_, log ++ [])
    rw [List.append_nil]
    exact hs.transferNFT htransfer
  | completeTransfer vm valid reason received =>
    exact hs.completeTransfer hsolana (toOption_eq_some hstep)
  | registerChain vm valid reason =>
    obtain ⟨bridge, hregister, rfl⟩ := map_toOption_eq_some hstep
    show Cached (_, log ++ [])
    rw [List.append_nil]
    exact hs.registerChain hregister
  | nft sender token call =>
    show Cached (_, log ++ [])
    rw [List.append_nil]
    simp only [step] at hstep
    split at hstep
    · cases hstep
    · rename_i hsender
      obtain ⟨nft, hnft, hcall⟩ := bind_eq_ok.mp (toOption_eq_some hstep)
      obtain ⟨nft', hrun, rfl⟩ := map_eq_ok.mp hcall
      rw [nftAt_eq_ok] at hnft
      obtain ⟨hinit, howner, -⟩ := hs.wrapped.nft token nft hnft
      refine hs.setNft hnft (NFTImplementation.Call.run_sameIdentity hrun hinit) ?_
      intro id howned
      refine call_old hrun ?_ hinit id howned
      rw [howner]
      exact fun heq => hsender heq.symm
  | rest e =>
    show Cached (_, log ++ [])
    rw [List.append_nil, ← Option.some.inj hstep]
    exact hs.frame ⟨⟨rfl, rfl, rfl⟩, rfl, rfl⟩ rfl

/-- A bridge that has entered no wrapped asset yet. -/
structure Unused (w : World ν) : Prop where
  fresh : Fresh w
  wrappedAssets : ∀ tokenChain tokenAddress, w.bridge.wrappedAssets tokenChain tokenAddress = zeroAddress

theorem Cached.of_unused (h : Unused w) : Cached (w, []) where
  wrapped := .of_fresh h.fresh
  registry := .of_empty (fun key => h.wrappedAssets key.1 key.2) h.fresh.2
  solana := by
    intro token nft hnft
    rw [h.fresh.2 token] at hnft
    cases hnft
  cache := by
    intro token nft id hnft
    rw [h.fresh.2 token] at hnft
    cases hnft

/-- **Run.** -/
theorem Cached.of_run {w₀ : World ν} {s : World ν × Mints} (hunused : Unused w₀)
    (hrun : Run (logging (step env) minted) (fun _ input => input.SolanaAddress) (w₀, []) s) : Cached s :=
  hrun.invariant (fun _ _ _ hs hsolana h => hs.of_step hsolana h) (.of_unused hunused)

/-- **The metadata of Solana's NFTs.** In every run in which all NFTs of Solana come under the one address,
each outstanding one has the name and the symbol of the message that last minted it in the cache; a
transfer of it publishes exactly these and clears the cache. -/
theorem splCache_kept (env : Environment ν) {w₀ w : World ν} {log : Mints} (hunused : Unused w₀)
    (hrun : Run (logging (step env) minted) (fun _ input => input.SolanaAddress) (w₀, []) (w, log))
    {token : Address} {nft : NFTImplementation.State} (hnft : w.nfts token = some nft)
    (hchain : nft.chainId = 1) {tokenID : Word} (howned : nft.owners tokenID ≠ zeroAddress) :
    ∃ transfer, lastMint log (1, nft.nativeContract, tokenID) = some transfer ∧
      w.bridge.splCache tokenID = { name := transfer.name, symbol := transfer.symbol } ∧
      ∀ sender recipientChain recipient nonce value w' sequence,
        transferNFT env w sender token tokenID recipientChain recipient nonce value = .ok (w', sequence) →
        w'.bridge.splCache tokenID = { name := zeroWord, symbol := zeroWord } ∧
        ∃ encoded, encodeTransfer {
            tokenAddress := nft.nativeContract, tokenChain := 1, symbol := transfer.symbol
            name := transfer.name, tokenID, uri := nft.tokenURIs tokenID, recipient
            toChain := recipientChain } = .ok encoded ∧
          env.publishMessage w.env value nonce encoded 15 = .ok (sequence, w'.env) := by
  have hcached := Cached.of_run hunused hrun
  have hsolana := hcached.solana token nft hnft hchain
  obtain ⟨transfer, hlast, hcache⟩ := hcached.cache token nft tokenID hnft hchain howned
  refine ⟨transfer, ?_, hcache, ?_⟩
  · rw [hsolana]
    exact hlast
  · intro sender recipientChain recipient nonce value w' sequence h
    obtain ⟨nft', encoded, -, -, hbridge, hencode, hpublish⟩ :=
      transferNFT_wrapped hcached.wrapped hnft h
    constructor
    · rw [hbridge, clearedFor, if_pos hchain]
      exact Function.update_self _ _ _
    · refine ⟨encoded, ?_, hpublish⟩
      rw [publishedMetadata, if_pos hchain, hcache, hchain] at hencode
      exact hencode

end Steps

/-! ## Inputs -/

/-- The NFT `0x0707…` of Solana is sent to `alice`. -/
def solanaVM : VM :=
  sampleVM 4 (sampleWord 0x05).val
    ([0x01] ++ solanaAddress.val ++ [0x00, 0x01] ++ (sampleWord 0x53).val ++ (sampleWord 0x4e).val ++
      (sampleWord 0x07).val ++ [0x00] ++ alice.toWord.val ++ [0x00, 0x02]) 1

/-- The world in which `alice` holds it. -/
def solanaWorld : World Unit × Mints :=
  attempts (logging (step sampleEnvironment) minted) (freshWorld, [])
    [.registerChain registerVM true "", .completeTransfer solanaVM true "" (.ok ())]

theorem solanaWorld_run :
    Run (logging (step sampleEnvironment) minted) (fun _ input => input.SolanaAddress) (freshWorld, [])
      solanaWorld := by
  rw [solanaWorld, attempts_cons, attempts_cons, attempts_nil]
  refine ((Run.refl _).attempt _ trivial).attempt _ ?_
  intro _ transfer hparse _
  have haddress : (parseTransfer solanaVM.payload).toOption.map Transfer.tokenAddress = some solanaAddress := by
    decide +kernel
  rw [hparse] at haddress
  exact Option.some.inj haddress

/-- Her NFT keeps its name and its symbol. -/
theorem solanaWorld_kept : ∃ nft transfer, solanaWorld.1.nfts (sampleAddress 0xcc) = some nft ∧
    lastMint solanaWorld.2 (1, nft.nativeContract, sampleWord 0x07) = some transfer ∧
    solanaWorld.1.bridge.splCache (sampleWord 0x07) = { name := transfer.name, symbol := transfer.symbol } := by
  have hholder : (solanaWorld.1.nfts (sampleAddress 0xcc)).map
      (fun nft => (nft.chainId, nft.owners (sampleWord 0x07))) = some (1, alice) := by decide +kernel
  have hrun := solanaWorld_run
  generalize solanaWorld = s at hholder hrun ⊢
  obtain ⟨w, log⟩ := s
  obtain ⟨nft, hnft, hfields⟩ := Option.map_eq_some_iff.mp hholder
  obtain ⟨hchain, howner⟩ := Prod.mk.inj hfields
  have hunused : Unused freshWorld := ⟨⟨fun _ => rfl, fun _ => rfl⟩, fun _ _ => rfl⟩
  obtain ⟨transfer, hlast, hcache, -⟩ := splCache_kept sampleEnvironment hunused hrun hnft hchain
    (show nft.owners (sampleWord 0x07) ≠ zeroAddress by
      rw [howner]
      decide)
  exact ⟨nft, transfer, hnft, hlast, hcache⟩

end Wormhole.Ethereum.NFTBridge

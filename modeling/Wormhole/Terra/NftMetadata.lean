/-
# Wormhole.Terra.NftMetadata — the names of Solana's NFTs on Terra.

NFTs of Solana share one contract on Terra, so the bridge keeps the name and the symbol of each in a cache
of its own (`splCache`), and publishes them from there when the NFT goes out.  The cache is written for the
first NFT of the contract only, when the contract is deployed: any later one cannot be sent out again, unless
its id had been cached before.  `splMetadata_iff` says which messages keep every NFT of Solana able to leave
with its own name.
-/
import Mathlib
import Wormhole.Lib.Mapping
import Wormhole.Lib.Totals
import Wormhole.Lib.Transition
import Wormhole.Terra.Cw721
import Wormhole.Terra.NftBridge
import Wormhole.Terra.NftHolder
import Wormhole.Terra.NftMessage

namespace Wormhole.Terra

open Wormhole.Lib Wormhole.Lib.Bytes Wormhole.Lib.Transition

/-! ## The contracts of the bridge -/

namespace Cw721

/-- The counter counts the tokens. -/
def Counted (s : State) : Prop := Total (fun id => if (s.tokens id).isSome then 1 else 0) s.tokenCount

section Counted

variable {api : Api} {block : BlockInfo} {s s' : State} {sender tokenId : String}

/-- The tokens, as amounts of 1. -/
theorem counts_update (tokens : String → Option TokenInfo) (tokenId : String) (token : Option TokenInfo) :
    (fun id => if (Function.update tokens tokenId token id).isSome then 1 else 0) =
      Function.update (fun id => if (tokens id).isSome then 1 else 0) tokenId (if token.isSome then 1 else 0) := by
  funext id
  by_cases hid : id = tokenId
  · rw [hid, Function.update_self, Function.update_self]
  · rw [Function.update_of_ne hid, Function.update_of_ne hid]

theorem Counted.save {token token' : TokenInfo} (hs : Counted s) (htoken : s.tokens tokenId = some token) :
    Counted (save s tokenId token') := by
  show Total (fun id => if (Function.update s.tokens tokenId (some token') id).isSome then 1 else 0) s.tokenCount
  rw [counts_update]
  exact hs.update tokenId (by simp [htoken])

theorem Counted.mint {owner : String} {tokenUri : Option String} (hs : Counted s)
    (h : Cw721.mint api s sender tokenId owner tokenUri = .ok s') : Counted s' := by
  obtain ⟨-, hnone, rfl⟩ := mint_eq_ok h
  show Total (fun id => if (Function.update s.tokens tokenId _ id).isSome then 1 else 0) (s.tokenCount + 1)
  rw [counts_update]
  exact hs.update tokenId (by simp [hnone])

theorem Counted.burn (hs : Counted s) (h : Cw721.burn block s sender tokenId = .ok s') : Counted s' := by
  obtain ⟨token, htoken, -, hcount, hs'⟩ := burn_eq_ok h
  have htotal : Total (Function.update (fun id => if (s.tokens id).isSome then 1 else 0) tokenId 0)
      s'.tokenCount := by
    apply hs.update tokenId
    simp [htoken, hcount]
  rw [Counted, hs']
  show Total (fun id => if (Function.update s.tokens tokenId none id).isSome then 1 else 0) s'.tokenCount
  rw [counts_update]
  exact htotal

theorem Counted.execute {msg : ExecuteMsg} (hs : Counted s) (h : Cw721.execute api block s sender msg = .ok s') :
    Counted s' := by
  cases msg with
  | transferNft recipient tokenId | sendNft recipient tokenId =>
    obtain ⟨token, htoken, -, rfl⟩ := transferNft_eq_ok h
    exact hs.save htoken
  | approve spender tokenId expires =>
    obtain ⟨token, approvals, htoken, rfl⟩ := updateApprovals_eq_ok
      (show updateApprovals api block s sender spender tokenId (some _) = .ok s' from h)
    exact hs.save htoken
  | revoke spender tokenId =>
    obtain ⟨token, approvals, htoken, rfl⟩ := updateApprovals_eq_ok
      (show updateApprovals api block s sender spender tokenId none = .ok s' from h)
    exact hs.save htoken
  | approveAll operator expires =>
    simp only [Cw721.execute, approveAll, Go.bind_eq_ok] at h
    obtain ⟨_, -, _, -, h⟩ := h
    rw [← Go.ok.inj h]
    exact hs
  | revokeAll operator =>
    simp only [Cw721.execute, revokeAll, Go.bind_eq_ok] at h
    obtain ⟨_, -, h⟩ := h
    rw [← Go.ok.inj h]
    exact hs
  | mint tokenId owner tokenUri => exact hs.mint h
  | burn tokenId => exact hs.burn h

/-- A token that is there can be burned by whoever may send it. -/
theorem burn_ok {token : TokenInfo} (hs : Counted s) (htoken : s.tokens tokenId = some token)
    (hcan : checkCanSend s block sender token = true) : ∃ s', Cw721.burn block s sender tokenId = .ok s' := by
  have hcount : 1 ≤ s.tokenCount := by
    have := hs.le tokenId
    simpa [htoken] using this
  refine ⟨{ s with tokens := Function.update s.tokens tokenId none, tokenCount := s.tokenCount - 1 }, ?_⟩
  rw [Cw721.burn, load_eq_ok.mpr htoken, Go.ok_bind, (ensure_eq_ok (u := ())).mpr hcan, Go.ok_bind, decrementTokens,
    checkedSub, if_pos hcount]
  rfl

end Counted

end Cw721

namespace NftBridge

section Contracts

variable {env : Env} {chain : Chain} {nft nft' : Cw721.State} {w w' : World}

/-- What the bridge can rely on in a contract it deployed. -/
structure OwnContract (env : Env) (nft : Cw721.State) : Prop where
  minter : nft.minter = env.self
  asset : ∃ asset, nft.wrappedAssetInfo = some asset ∧ asset.assetAddress.length = 32
  tokens : ∀ id token, nft.tokens id = some token → (∃ tokenId, id = env.formatU256 tokenId) ∧
    ∃ uri, token.tokenUri = some uri ∧ (asBytes uri).length ≤ 200
  counted : Cw721.Counted nft

/-- The bridge's contracts are there and registered. -/
structure OwnContracts (env : Env) (w : World) : Prop where
  contract : ∀ assetId contractAddr, w.bridge.wrappedAsset assetId = some contractAddr →
    contractAddr ≠ wrappedAssetUpdating ∧
    (∃ canonical, env.api.addrCanonicalize contractAddr = .ok canonical ∧
      (w.bridge.wrappedAssetAddress canonical).isSome) ∧
    ∃ nft, w.nfts contractAddr = some nft ∧ OwnContract env nft

theorem OwnContracts.of_fresh (h : Fresh w) : OwnContracts env w := by
  constructor
  intro assetId contractAddr hasset
  rw [h.wrappedAsset assetId] at hasset
  cases hasset

/-- Nobody but the bridge mints. -/
theorem OwnContract.sameTokens (h : OwnContract env nft) (hsame : Cw721.SameTokens nft nft')
    (hcounted : Cw721.Counted nft') : OwnContract env nft' := by
  constructor
  · exact hsame.minter.trans h.minter
  · rw [hsame.wrappedAssetInfo]
    exact h.asset
  · intro id token' htoken'
    obtain ⟨token, htoken, huri⟩ := hsame.old id token' htoken'
    rw [huri]
    exact h.tokens id token htoken
  · exact hcounted

/-- The bridge mints. -/
theorem OwnContract.mint {sender recipient tokenUri : String} {info : TransferInfo} (h : OwnContract env nft)
    (huri : asBytes tokenUri = info.uri.val)
    (hmint : Cw721.mint env.api nft sender (env.formatU256 info.tokenId) recipient (some tokenUri) = .ok nft') :
    OwnContract env nft' := by
  have hcounted := h.counted.mint hmint
  obtain ⟨-, -, rfl⟩ := Cw721.mint_eq_ok hmint
  constructor
  · exact h.minter
  · exact h.asset
  · intro id token htoken
    rcases Mapping.update_eq_some htoken with ⟨rfl, rfl⟩ | htoken
    · exact ⟨⟨info.tokenId, rfl⟩, tokenUri, rfl, by rw [huri]; exact info.uri.property⟩
    · exact h.tokens id token htoken
  · exact hcounted

/-- A world whose contracts are the same, but for one call of one of them. -/
theorem OwnContracts.write (h : OwnContracts env w) {contractAddr : String} (hnft : w.nfts contractAddr = some nft)
    (hassets : SameAssets w.bridge w'.bridge) (hnfts : w'.nfts = Function.update w.nfts contractAddr (some nft'))
    (hkeep : OwnContract env nft → OwnContract env nft') : OwnContracts env w' := by
  constructor
  intro assetId a hasset
  rw [hassets.wrappedAsset] at hasset
  obtain ⟨hne, hcanonical, nft₁, hnft₁, hown⟩ := h.contract assetId a hasset
  rw [hassets.wrappedAssetAddress, hnfts]
  refine ⟨hne, hcanonical, ?_⟩
  by_cases ha : a = contractAddr
  · subst ha
    obtain rfl : nft = nft₁ := Option.some.inj (hnft.symm.trans hnft₁)
    exact ⟨nft', Function.update_self .., hkeep hown⟩
  · exact ⟨nft₁, by rw [Function.update_of_ne ha, hnft₁], hown⟩

/-- **Completing** keeps the bridge's contracts. -/
theorem OwnContracts.completes {vaa : ParsedVAA} (h : OwnContracts env w) (hstep : Completes env chain w vaa w') :
    OwnContracts env w' := by
  cases hstep with
  | governance _ hassets hnfts =>
    constructor
    intro assetId a hasset
    rw [hassets.wrappedAsset] at hasset
    rw [hassets.wrappedAssetAddress, hnfts]
    exact h.contract assetId a hasset
  | mint _ _ _ huri _ hnft hmint hassets hnfts =>
    exact h.write hnft hassets hnfts fun hown => hown.mint huri hmint
  | @deploy info name symbol recipient tokenUri nft nft' canonical _ _ _ huri _ hunused hnft hmint hcanonical
      hasset haddress _ hnfts =>
    obtain ⟨hfree, -, hupdating⟩ := hunused
    have hown : OwnContract env nft := by
      simp only [Cw721.instantiate, Go.bind_eq_ok, Cw721.validated_eq_ok] at hnft
      obtain ⟨_, ⟨-, rfl⟩, hnft⟩ := hnft
      cases hnft
      exact ⟨rfl, ⟨_, rfl, info.nftAddress.property⟩, (fun _ _ h => by cases h), Total.zero⟩
    constructor
    intro assetId a ha
    rw [hasset] at ha
    rw [haddress, hnfts]
    rcases Mapping.update_eq_some ha with ⟨rfl, rfl⟩ | ha
    · exact ⟨hupdating, ⟨canonical, hcanonical, Mapping.isSome_update_self⟩, nft', Function.update_self ..,
        hown.mint huri hmint⟩
    · obtain ⟨hne, ⟨canonical₁, hcanonical₁, hsome⟩, nft₁, hnft₁, hown₁⟩ := h.contract assetId a ha
      refine ⟨hne, ⟨canonical₁, hcanonical₁, Mapping.isSome_update hsome⟩, nft₁, ?_, hown₁⟩
      rw [Function.update_of_ne, hnft₁]
      rintro rfl
      rw [hfree] at hnft₁
      cases hnft₁
  | native _ _ _ hnft htransfer hassets hnfts =>
    refine h.write hnft hassets hnfts fun hown => ?_
    obtain ⟨token, htoken, -, rfl⟩ := Cw721.transferNft_eq_ok htransfer
    exact hown.sameTokens (.save htoken rfl) (hown.counted.save htoken)

/-- What the bridge takes is no new token. -/
theorem Takes.sameTokens {tokenId : String} {msg : Cw721.ExecuteMsg} (htakes : Takes env tokenId msg)
    (h : Cw721.execute env.api chain.block nft env.self msg = .ok nft') : Cw721.SameTokens nft nft' := by
  cases htakes with
  | burn => exact .burn h
  | lock =>
    obtain ⟨token, htoken, -, rfl⟩ := Cw721.transferNft_eq_ok h
    exact .save htoken rfl

/-- What a transaction other than a message does to the NFTs: no contract of the bridge gets a new token. -/
structure NoNewTokens (env : Env) (w w' : World) : Prop where
  assets : SameAssets w.bridge w'.bridge
  nfts : ∀ contractAddr nft, w.nfts contractAddr = some nft → OwnContract env nft →
    ∃ nft', w'.nfts contractAddr = some nft' ∧ Cw721.SameTokens nft nft' ∧ Cw721.Counted nft'

theorem OwnContracts.noNewTokens (h : OwnContracts env w) (hstep : NoNewTokens env w w') : OwnContracts env w' := by
  constructor
  intro assetId a hasset
  rw [hstep.assets.wrappedAsset] at hasset
  obtain ⟨hne, hcanonical, nft, hnft, hown⟩ := h.contract assetId a hasset
  obtain ⟨nft', hnft', hsame, hcounted⟩ := hstep.nfts a nft hnft hown
  rw [hstep.assets.wrappedAssetAddress]
  exact ⟨hne, hcanonical, nft', hnft', hown.sameTokens hsame hcounted⟩

/-- One contract is called. -/
theorem NoNewTokens.write {contractAddr : String} (hassets : SameAssets w.bridge w'.bridge)
    (hnft : w.nfts contractAddr = some nft) (hnfts : w'.nfts = Function.update w.nfts contractAddr (some nft'))
    (hkeep : OwnContract env nft → Cw721.SameTokens nft nft' ∧ Cw721.Counted nft') : NoNewTokens env w w' := by
  refine ⟨hassets, ?_⟩
  intro a nft₁ hnft₁ hown
  rw [hnfts]
  by_cases ha : a = contractAddr
  · subst ha
    obtain rfl : nft = nft₁ := Option.some.inj (hnft.symm.trans hnft₁)
    exact ⟨nft', Function.update_self .., hkeep hown⟩
  · exact ⟨nft₁, by rw [Function.update_of_ne ha, hnft₁], .refl nft₁, hown.counted⟩

/-- **A transaction that is not a message.** -/
theorem step_noNewTokens {input : Input} (h : OwnContracts env w) (hstep : step env w input = some w')
    (hinput : ∀ chain vaa, input ≠ .submitVaa chain vaa) : NoNewTokens env w w' := by
  have hrun := committed_eq_some.mp hstep
  cases input with
  | initiateTransfer chain sender asset tokenId recipientChain recipient nonce =>
    obtain ⟨hbridge, msg, nft, nft', htakes, hnft, hexecute, hnfts⟩ := initiateTransfer_eq_ok hrun
    have hassets : SameAssets w.bridge w'.bridge := by
      rw [hbridge]
      exact ⟨rfl, rfl, rfl⟩
    exact .write hassets hnft hnfts fun hown => ⟨htakes.sameTokens hexecute, hown.counted.execute hexecute⟩
  | submitVaa chain vaa => exact absurd rfl (hinput chain vaa)
  | registerAssetHook sender assetId =>
    obtain ⟨bridge, hregister, -⟩ := Go.bind_eq_ok.mp hrun
    obtain ⟨hupdating, -⟩ := handleRegisterAsset_eq_ok hregister
    exact absurd rfl (h.contract assetId _ hupdating).1
  | nft block sender contractAddr msg =>
    simp only [run, query, Go.bind_eq_ok, ensure_eq_ok, okOr_eq_ok] at hrun
    obtain ⟨_, hsender, nft, hnft, nft', hexecute, hw'⟩ := hrun
    cases hw'
    refine .write ⟨rfl, rfl, rfl⟩ hnft rfl fun hown => ⟨?_, hown.counted.execute hexecute⟩
    apply Cw721.execute_sameTokens hexecute
    rw [hown.minter]
    exact hsender
  | instantiate contractAddr name symbol minter asset =>
    simp only [run, Go.bind_eq_ok, ensure_eq_ok] at hrun
    obtain ⟨_, ⟨hfree, -, -⟩, nft', -, hw'⟩ := hrun
    cases hw'
    refine ⟨⟨rfl, rfl, rfl⟩, ?_⟩
    intro a nft hnft hown
    have ha : a ≠ contractAddr := by
      rintro rfl
      rw [hfree] at hnft
      cases hnft
    exact ⟨nft, by rw [← hnft]; exact Function.update_of_ne ha .., .refl nft, hown.counted⟩

end Contracts

/-! ## Leaving -/

section Leaving

variable {env : Env} {w : World}

/-- An NFT of Solana: a token of a contract of the bridge, which wraps an asset of chain 1. -/
structure Held (w : World) (contractAddr id : String) : Prop where
  registered : ∃ assetId, w.bridge.wrappedAsset assetId = some contractAddr
  token : ∃ nft token asset, w.nfts contractAddr = some nft ∧ nft.tokens id = some token ∧
    nft.wrappedAssetInfo = some asset ∧ asset.assetChain = 1

/-- The NFT can be sent to any other chain, by any account with an address of 20 bytes: the bridge burns it and
publishes it with that name and symbol, and the burn succeeds when the bridge may send the NFT. -/
def Leaves (env : Env) (w : World) (contractAddr id : String) (item : SplCacheItem) : Prop :=
  ∀ (sender : String) (recipientChain : UInt16) (recipient : FixedBytes 32) (nonce : Nat) (canonical : List UInt8),
    recipientChain ≠ CHAIN_ID → env.api.addrCanonicalize sender = .ok canonical → canonical.length = 20 →
    ∃ s' info, handleInitiateTransfer env w.nfts w.bridge sender contractAddr id recipientChain recipient nonce =
        .ok (s', [.execute contractAddr (.burn id),
          .postMessage w.bridge.wormholeContract (transferMessage info) nonce]) ∧
      info.name = item.name ∧ info.symbol = item.symbol ∧
      ∀ chain : Chain, w.MaySend chain.block env.self contractAddr id → chain.posted = true →
        ∃ w', initiateTransfer env chain w sender contractAddr id recipientChain recipient.val nonce = .ok w'

/-- What the bridge answers, when an NFT of Solana is to go: all but the cache is in order. -/
theorem handleInitiateTransfer_held (h : OwnContracts env w)
    (hdec : ∀ tokenId, env.fromDecStr (env.formatU256 tokenId) = some tokenId) {contractAddr sender : String}
    {tokenId : FixedBytes 32} (hheld : Held w contractAddr (env.formatU256 tokenId)) {recipientChain : UInt16}
    (recipient : FixedBytes 32) (nonce : Nat) {canonical : List UInt8} (hchain : recipientChain ≠ CHAIN_ID)
    (hsender : env.api.addrCanonicalize sender = .ok canonical) (hlength : canonical.length = 20) :
    ∃ nftAddress uri, handleInitiateTransfer env w.nfts w.bridge sender contractAddr (env.formatU256 tokenId)
        recipientChain recipient nonce = (do
      let item ← okOr "SplCacheItem not found" (w.bridge.splCache tokenId)
      return (w.bridge, [.execute contractAddr (.burn (env.formatU256 tokenId)),
        .postMessage w.bridge.wormholeContract (transferMessage {
          nftAddress, nftChain := 1, symbol := item.symbol, name := item.name, tokenId, uri, recipient,
          recipientChain }) nonce])) := by
  obtain ⟨assetId, hasset⟩ := hheld.registered
  obtain ⟨-, ⟨canonical₁, hcanonical, hsome⟩, nft, hnft, hown⟩ := h.contract assetId contractAddr hasset
  obtain ⟨nft₁, token, asset, hnft₁, htoken, hinfo, hsolana⟩ := hheld.token
  obtain rfl : nft = nft₁ := Option.some.inj (hnft.symm.trans hnft₁)
  obtain ⟨asset₁, hinfo₁, haddress⟩ := hown.asset
  obtain rfl : asset = asset₁ := Option.some.inj (hinfo.symm.trans hinfo₁)
  obtain ⟨-, uri, huri, hbound⟩ := hown.tokens _ token htoken
  obtain ⟨assetId₁, hregistered⟩ := Option.isSome_iff_exists.mp hsome
  have htake : takeNft env w.nfts w.bridge contractAddr canonical₁ (env.formatU256 tokenId) =
      .ok (.execute contractAddr (.burn (env.formatU256 tokenId)), 1, ⟨asset.assetAddress, haddress⟩) := by
    simp only [takeNft, hregistered, query, hnft, okOr, Go.ok_bind, hinfo, toArray, haddress, dite_true, hsolana]
    rfl
  have hid : toExternalTokenId env w.bridge 1 ⟨asset.assetAddress, haddress⟩ (env.formatU256 tokenId) =
      .ok (w.bridge, tokenId) := by
    rw [toExternalTokenId, if_neg (by decide), hdec tokenId]
    rfl
  have htokenUri : tokenUri w.nfts contractAddr (env.formatU256 tokenId) = .ok ⟨asBytes uri, hbound⟩ := by
    simp only [tokenUri, query, hnft, okOr, Go.ok_bind, Cw721.load, htoken, huri, unwrap, BoundedVec.new, hbound,
      dite_true]
  have hextend : extendAddressTo32 canonical = .ok (List.replicate 12 0x00 ++ canonical) := by
    rw [extendAddressTo32, if_pos hlength]
    rfl
  refine ⟨⟨asset.assetAddress, haddress⟩, ⟨asBytes uri, hbound⟩, ?_⟩
  rw [handleInitiateTransfer, (ensure_eq_ok (u := ())).mpr hchain, Go.ok_bind, hcanonical, Go.ok_bind, htake,
    Go.ok_bind]
  dsimp only
  rw [hid, Go.ok_bind]
  dsimp only
  rw [show metadata w.nfts w.bridge contractAddr 1 tokenId =
    okOr "SplCacheItem not found" (w.bridge.splCache tokenId) from if_pos rfl]
  cases hcache : w.bridge.splCache tokenId with
  | none => rfl
  | some item =>
    rw [okOr, Go.ok_bind, htokenUri, Go.ok_bind, hsender, Go.ok_bind, hextend, Go.ok_bind, Go.ok_bind]

/-- **An NFT of Solana can leave with a name** exactly when the cache has it. -/
theorem leaves_iff (h : OwnContracts env w)
    (hdec : ∀ tokenId, env.fromDecStr (env.formatU256 tokenId) = some tokenId)
    (haccount : ∃ sender canonical, env.api.addrCanonicalize sender = .ok canonical ∧ canonical.length = 20)
    {contractAddr : String} {tokenId : FixedBytes 32} (hheld : Held w contractAddr (env.formatU256 tokenId))
    {item : SplCacheItem} :
    Leaves env w contractAddr (env.formatU256 tokenId) item ↔ w.bridge.splCache tokenId = some item := by
  constructor
  · intro hleaves
    obtain ⟨sender, canonical, hsender, hlength⟩ := haccount
    let recipient : FixedBytes 32 := ⟨List.replicate 32 0x00, rfl⟩
    have hchain : (0 : UInt16) ≠ CHAIN_ID := by decide
    obtain ⟨nftAddress, uri, hinitiate⟩ := handleInitiateTransfer_held h hdec hheld recipient 0 hchain hsender hlength
    obtain ⟨s', info, hok, hname, hsymbol, -⟩ := hleaves sender 0 recipient 0 canonical hchain hsender hlength
    rw [hinitiate] at hok
    obtain ⟨cached, hcached, hok⟩ := Go.bind_eq_ok.mp hok
    have hmessages := (Prod.mk.inj (Go.ok.inj hok)).2
    have hmessage := (List.cons.inj (List.cons.inj hmessages).2).1
    have hinfo := transferMessage_injective (Message.postMessage.inj hmessage).2.1
    subst hinfo
    rw [okOr_eq_ok.mp hcached]
    obtain ⟨name, symbol⟩ := cached
    obtain rfl : name = item.name := hname
    obtain rfl : symbol = item.symbol := hsymbol
    rfl
  · intro hcache sender recipientChain recipient nonce canonical hchain hsender hlength
    obtain ⟨nftAddress, uri, hinitiate⟩ := handleInitiateTransfer_held h hdec hheld recipient nonce hchain hsender hlength
    rw [hcache, okOr, Go.ok_bind] at hinitiate
    refine ⟨_, _, hinitiate, rfl, rfl, ?_⟩
    rintro chain ⟨nft, token, hnft, htoken, hcan⟩ hposted
    obtain ⟨assetId, hasset⟩ := hheld.registered
    obtain ⟨-, -, nft₁, hnft₁, hown⟩ := h.contract assetId contractAddr hasset
    obtain rfl : nft = nft₁ := Option.some.inj (hnft.symm.trans hnft₁)
    obtain ⟨nft', hburn⟩ := Cw721.burn_ok hown.counted htoken (checkCanSend_iff.mpr hcan)
    have harray : toArray recipient.val = .ok recipient := dif_pos recipient.property
    have htaken : deliver env chain { w with bridge := w.bridge } (.execute contractAddr
        (.burn (env.formatU256 tokenId))) = .ok (w.setNft contractAddr nft') :=
      deliver_execute_eq_ok.mpr ⟨nft, nft', hnft, hburn, rfl⟩
    refine ⟨w.setNft contractAddr nft', Go.bind_eq_ok.mpr ⟨recipient, harray, Go.bind_eq_ok.mpr
      ⟨_, hinitiate, ?_⟩⟩⟩
    rw [dispatch, List.foldlM_cons, htaken, Go.ok_bind, List.foldlM_cons, deliver,
      (ensure_eq_ok (u := ())).mpr hposted]
    rfl

end Leaving

/-! ## Runs -/

section Runs

variable (env : Env)

/-- The name and the symbol of a transfer. -/
def itemOf (info : TransferInfo) : SplCacheItem := { name := info.name, symbol := info.symbol }

/-- By which transfer an NFT was minted. -/
abbrev Mints := List ((String × String) × Option TransferInfo)

/-- The last transfer that minted the NFT. -/
def mintedBy (log : Mints) (contractAddr id : String) : Option TransferInfo :=
  Mapping.replay none log (contractAddr, id)

/-- What a transaction mints. -/
def minted (w : World) : Input → Mints
  | .submitVaa chain vaa =>
    if IsGovernance w.bridge vaa then [] else
    match parseTransferMessage vaa.payload with
    | .ok info =>
      if info.nftChain = CHAIN_ID then [] else
      let contractAddr := w.bridge.wrappedAsset (buildAssetId env info.nftChain info.nftAddress)
      [((contractAddr.getD chain.newAddress, env.formatU256 info.tokenId), some info)]
    | _ => []
  | _ => []

/-- Every NFT of Solana can leave with the name and the symbol it came with. -/
def Kept (s : World × Mints) : Prop :=
  ∀ contractAddr id, Held s.1 contractAddr id →
    ∃ info, mintedBy s.2 contractAddr id = some info ∧ Leaves env s.1 contractAddr id (itemOf info)

/-- The cache has a transfer's name and symbol before the transfer mints into a contract of Solana's, or, when
it deploys that contract, before the cache is overwritten for an NFT with the same id. -/
def Faithful (w : World) : Input → Prop
  | .submitVaa _ vaa =>
    ¬IsGovernance w.bridge vaa → ∀ info, parseTransferMessage vaa.payload = .ok info → info.nftChain ≠ CHAIN_ID →
    match w.bridge.wrappedAsset (buildAssetId env info.nftChain info.nftAddress) with
    | some contractAddr => ∀ nft asset, w.nfts contractAddr = some nft → nft.wrappedAssetInfo = some asset →
        asset.assetChain = 1 → w.bridge.splCache info.tokenId = some (itemOf info)
    | none => info.nftChain = 1 → ∀ contractAddr, Held w contractAddr (env.formatU256 info.tokenId) →
        w.bridge.splCache info.tokenId = some (itemOf info)
  | _ => True

/-- The cache has every NFT of Solana. -/
def Cached (s : World × Mints) : Prop :=
  ∀ contractAddr tokenId, Held s.1 contractAddr (env.formatU256 tokenId) →
    ∃ info, mintedBy s.2 contractAddr (env.formatU256 tokenId) = some info ∧
      s.1.bridge.splCache tokenId = some (itemOf info)

section Steps

variable {env} {s t : World × Mints} {chain : Chain} {vaa : ParsedVAA}

theorem kept_iff_cached (h : OwnContracts env s.1)
    (hdec : ∀ tokenId, env.fromDecStr (env.formatU256 tokenId) = some tokenId)
    (haccount : ∃ sender canonical, env.api.addrCanonicalize sender = .ok canonical ∧ canonical.length = 20) :
    Kept env s ↔ Cached env s := by
  constructor
  · intro hkept contractAddr tokenId hheld
    obtain ⟨info, hminted, hleaves⟩ := hkept contractAddr _ hheld
    exact ⟨info, hminted, (leaves_iff h hdec haccount hheld).mp hleaves⟩
  · intro hcached contractAddr id hheld
    obtain ⟨assetId, hasset⟩ := hheld.registered
    obtain ⟨-, -, nft, hnft, hown⟩ := h.contract assetId contractAddr hasset
    obtain ⟨nft₁, token, -, hnft₁, htoken, -⟩ := hheld.token
    obtain rfl : nft = nft₁ := Option.some.inj (hnft.symm.trans hnft₁)
    obtain ⟨⟨tokenId, rfl⟩, -⟩ := hown.tokens id token htoken
    obtain ⟨info, hminted, hcache⟩ := hcached contractAddr tokenId hheld
    exact ⟨info, hminted, (leaves_iff h hdec haccount hheld).mpr hcache⟩

/-- A decimal number is written one way. -/
theorem formatU256_injective (hdec : ∀ tokenId, env.fromDecStr (env.formatU256 tokenId) = some tokenId)
    {tokenId tokenId' : FixedBytes 32} (h : env.formatU256 tokenId = env.formatU256 tokenId') : tokenId = tokenId' := by
  have hread := hdec tokenId
  rw [h, hdec] at hread
  exact (Option.some.inj hread).symm

/-- An NFT that is held was held before. -/
theorem Held.of_noNewTokens {w w' : World} {contractAddr id : String} (hheld : Held w' contractAddr id)
    (h : OwnContracts env w) (hstep : NoNewTokens env w w') : Held w contractAddr id := by
  obtain ⟨assetId, hasset⟩ := hheld.registered
  rw [hstep.assets.wrappedAsset] at hasset
  obtain ⟨-, -, nft, hnft, hown⟩ := h.contract assetId contractAddr hasset
  obtain ⟨nft', hnft', hsame, -⟩ := hstep.nfts contractAddr nft hnft hown
  obtain ⟨nft₁, token', asset, hnft₁, htoken', hinfo, hsolana⟩ := hheld.token
  obtain rfl : nft' = nft₁ := Option.some.inj (hnft'.symm.trans hnft₁)
  obtain ⟨token, htoken, -⟩ := hsame.old id token' htoken'
  exact ⟨⟨assetId, hasset⟩, nft, token, asset, hnft, htoken, hsame.wrappedAssetInfo ▸ hinfo, hsolana⟩

theorem Cached.noNewTokens (hcached : Cached env s) (h : OwnContracts env s.1) (hstep : NoNewTokens env s.1 t.1)
    (hlog : t.2 = s.2) : Cached env t := by
  intro contractAddr tokenId hheld
  rw [hlog, hstep.assets.splCache]
  exact hcached contractAddr tokenId (hheld.of_noNewTokens h hstep)

/-- **A mint** needs the cache. -/
theorem cached_mint_iff {info : TransferInfo} {contractAddr recipient tokenUri : String} {nft nft' : Cw721.State}
    (hdec : ∀ tokenId, env.fromDecStr (env.formatU256 tokenId) = some tokenId) (hcached : Cached env s)
    {assetId : List UInt8} (hwrapped : s.1.bridge.wrappedAsset assetId = some contractAddr)
    (hnft : s.1.nfts contractAddr = some nft)
    (hmint : Cw721.mint env.api nft env.self (env.formatU256 info.tokenId) recipient (some tokenUri) = .ok nft')
    (hassets : SameAssets s.1.bridge t.1.bridge)
    (hnfts : t.1.nfts = Function.update s.1.nfts contractAddr (some nft'))
    (hlog : t.2 = s.2 ++ [((contractAddr, env.formatU256 info.tokenId), some info)]) :
    Cached env t ↔ ∀ asset, nft.wrappedAssetInfo = some asset → asset.assetChain = 1 →
      s.1.bridge.splCache info.tokenId = some (itemOf info) := by
  obtain ⟨-, -, hnft'⟩ := Cw721.mint_eq_ok hmint
  have hasset' : nft'.wrappedAssetInfo = nft.wrappedAssetInfo := by rw [hnft']; rfl
  have htokens : nft'.tokens = Function.update nft.tokens (env.formatU256 info.tokenId)
      (some { owner := recipient, approvals := [], tokenUri := some tokenUri }) := by rw [hnft']; rfl
  have hnew : mintedBy t.2 contractAddr (env.formatU256 info.tokenId) = some info := by
    rw [mintedBy, hlog, Mapping.replay_concat, Function.update_self]
  constructor
  · intro hcached' asset hinfo hsolana
    have hheld : Held t.1 contractAddr (env.formatU256 info.tokenId) := by
      refine ⟨⟨assetId, by rw [hassets.wrappedAsset, hwrapped]⟩, nft', _, asset, ?_,
        (by rw [htokens, Function.update_self]), hasset'.trans hinfo, hsolana⟩
      rw [hnfts, Function.update_self]
    obtain ⟨info₁, hminted, hcache⟩ := hcached' _ _ hheld
    obtain rfl : info = info₁ := Option.some.inj (hnew.symm.trans hminted)
    rwa [hassets.splCache] at hcache
  · intro hneeded a tokenId hheld
    obtain ⟨assetId₁, hasset⟩ := hheld.registered
    obtain ⟨nft₁, token, asset, hnft₁, htoken, hinfo, hsolana⟩ := hheld.token
    rw [hassets.wrappedAsset] at hasset
    rw [hnfts] at hnft₁
    rw [hassets.splCache]
    by_cases hkey : (a, env.formatU256 tokenId) = (contractAddr, env.formatU256 info.tokenId)
    · obtain ⟨rfl, hid⟩ := Prod.mk.inj hkey
      obtain rfl : tokenId = info.tokenId := formatU256_injective hdec hid
      rw [Function.update_self] at hnft₁
      cases hnft₁
      exact ⟨info, hnew, hneeded asset (hasset'.symm.trans hinfo) hsolana⟩
    · have hheld : Held s.1 a (env.formatU256 tokenId) := by
        rcases Mapping.update_eq_some hnft₁ with ⟨rfl, rfl⟩ | hnft₁
        · have hid : env.formatU256 tokenId ≠ env.formatU256 info.tokenId := fun heq => hkey (by rw [heq])
          rw [htokens, Function.update_of_ne hid] at htoken
          exact ⟨⟨assetId₁, hasset⟩, nft, token, asset, hnft, htoken, hasset'.symm.trans hinfo, hsolana⟩
        · exact ⟨⟨assetId₁, hasset⟩, nft₁, token, asset, hnft₁, htoken, hinfo, hsolana⟩
      obtain ⟨info₁, hminted, hcache⟩ := hcached a tokenId hheld
      refine ⟨info₁, ?_, hcache⟩
      rw [mintedBy, hlog, Mapping.replay_concat, Function.update_of_ne hkey]
      exact hminted

/-- **A deployment** writes the cache. -/
theorem cached_deploy_iff {info : TransferInfo} {recipient tokenUri : String} {nft nft' : Cw721.State}
    {newAddress : String}
    (hdec : ∀ tokenId, env.fromDecStr (env.formatU256 tokenId) = some tokenId) (hcached : Cached env s)
    {assetId : List UInt8} (hwrapped : s.1.bridge.wrappedAsset assetId = none) (hfree : s.1.nfts newAddress = none)
    (hempty : ∀ id, nft.tokens id = none)
    (hinfo : nft.wrappedAssetInfo = some { assetChain := info.nftChain, assetAddress := info.nftAddress.val })
    (hmint : Cw721.mint env.api nft env.self (env.formatU256 info.tokenId) recipient (some tokenUri) = .ok nft')
    (hasset : t.1.bridge.wrappedAsset = Function.update s.1.bridge.wrappedAsset assetId (some newAddress))
    (hcache : t.1.bridge.splCache = cacheDeployed s.1.bridge info)
    (hnfts : t.1.nfts = Function.update s.1.nfts newAddress (some nft'))
    (hlog : t.2 = s.2 ++ [((newAddress, env.formatU256 info.tokenId), some info)]) :
    Cached env t ↔ (info.nftChain = 1 → ∀ contractAddr, Held s.1 contractAddr (env.formatU256 info.tokenId) →
      s.1.bridge.splCache info.tokenId = some (itemOf info)) := by
  obtain ⟨-, -, hnft'⟩ := Cw721.mint_eq_ok hmint
  have hasset' : nft'.wrappedAssetInfo = nft.wrappedAssetInfo := by rw [hnft']; rfl
  have htokens : nft'.tokens = Function.update nft.tokens (env.formatU256 info.tokenId)
      (some { owner := recipient, approvals := [], tokenUri := some tokenUri }) := by rw [hnft']; rfl
  have hnew : mintedBy t.2 newAddress (env.formatU256 info.tokenId) = some info := by
    rw [mintedBy, hlog, Mapping.replay_concat, Function.update_self]
  -- an NFT that was held before is in another contract
  have hother : ∀ a id, Held s.1 a id → a ≠ newAddress := by
    rintro a id hheld rfl
    obtain ⟨nft₁, -, -, hnft₁, -⟩ := hheld.token
    rw [hfree] at hnft₁
    cases hnft₁
  have hold : ∀ a id, a ≠ newAddress → mintedBy t.2 a id = mintedBy s.2 a id := by
    intro a id ha
    have hkey : (a, id) ≠ (newAddress, env.formatU256 info.tokenId) := fun heq => ha (congrArg Prod.fst heq)
    rw [mintedBy, hlog, Mapping.replay_concat, Function.update_of_ne hkey]
    rfl
  constructor
  · intro hcached' hsolana a hheld
    have ha := hother a _ hheld
    obtain ⟨info₁, hminted, hcached₁⟩ := hcached a info.tokenId hheld
    have hheld' : Held t.1 a (env.formatU256 info.tokenId) := by
      obtain ⟨assetId₁, hasset₁⟩ := hheld.registered
      obtain ⟨nft₁, token, asset, hnft₁, htoken⟩ := hheld.token
      refine ⟨⟨assetId₁, ?_⟩, nft₁, token, asset, ?_, htoken⟩
      · rw [hasset, Function.update_of_ne, hasset₁]
        rintro rfl
        rw [hwrapped] at hasset₁
        cases hasset₁
      · rw [hnfts, Function.update_of_ne ha, hnft₁]
    obtain ⟨info₂, hminted₂, hcached₂⟩ := hcached' a info.tokenId hheld'
    rw [hold a _ ha] at hminted₂
    obtain rfl : info₁ = info₂ := Option.some.inj (hminted.symm.trans hminted₂)
    rw [hcache, cacheDeployed, if_pos hsolana, Function.update_self] at hcached₂
    rw [hcached₁, ← hcached₂]
    rfl
  · intro hneeded a tokenId hheld
    obtain ⟨assetId₁, hasset₁⟩ := hheld.registered
    obtain ⟨nft₁, token, asset, hnft₁, htoken, hinfo₁, hsolana⟩ := hheld.token
    rw [hnfts] at hnft₁
    by_cases ha : a = newAddress
    · subst ha
      rw [Function.update_self] at hnft₁
      cases hnft₁
      rw [htokens] at htoken
      rw [hasset', hinfo] at hinfo₁
      cases hinfo₁
      rcases Mapping.update_eq_some htoken with ⟨hid, -⟩ | htoken
      · obtain rfl : tokenId = info.tokenId := formatU256_injective hdec hid
        refine ⟨info, hnew, ?_⟩
        rw [hcache, cacheDeployed, if_pos hsolana, Function.update_self]
        rfl
      · rw [hempty] at htoken
        cases htoken
    · rw [Function.update_of_ne ha] at hnft₁
      have hheld : Held s.1 a (env.formatU256 tokenId) := by
        rw [hasset] at hasset₁
        rcases Mapping.update_eq_some hasset₁ with ⟨-, heq⟩ | hasset₁
        · exact absurd heq.symm ha
        · exact ⟨⟨assetId₁, hasset₁⟩, nft₁, token, asset, hnft₁, htoken, hinfo₁, hsolana⟩
      obtain ⟨info₁, hminted, hcached₁⟩ := hcached a tokenId hheld
      refine ⟨info₁, by rw [hold a _ ha, hminted], ?_⟩
      rw [hcache, cacheDeployed]
      split
      · rename_i hchain
        by_cases hid : tokenId = info.tokenId
        · subst hid
          rw [Function.update_self, ← hcached₁]
          exact (hneeded hchain a hheld).symm
        · rw [Function.update_of_ne hid, hcached₁]
      · exact hcached₁

/-- **Step.** A transaction keeps the cache complete exactly when it is faithful. -/
theorem cached_step_iff {input : Input} (h : OwnContracts env s.1)
    (hdec : ∀ tokenId, env.fromDecStr (env.formatU256 tokenId) = some tokenId) (hcached : Cached env s)
    (hstep : step env s.1 input = some t.1) (hlog : t.2 = s.2 ++ minted env s.1 input) :
    Cached env t ↔ Faithful env s.1 input := by
  by_cases hinput : ∀ chain vaa, input ≠ .submitVaa chain vaa
  · have hquiet : minted env s.1 input = [] ∧ Faithful env s.1 input := by
      cases input with
      | submitVaa chain vaa => exact absurd rfl (hinput chain vaa)
      | _ => exact ⟨rfl, trivial⟩
    rw [hquiet.1, List.append_nil] at hlog
    exact iff_of_true (hcached.noNewTokens h (step_noNewTokens h hstep hinput) hlog) hquiet.2
  · simp only [not_forall, not_not] at hinput
    obtain ⟨chain, vaa, rfl⟩ := hinput
    cases completeTransfer_eq_ok (committed_eq_some.mp hstep) with
    | governance hgovernance hassets hnfts =>
      rw [minted, if_pos hgovernance, List.append_nil] at hlog
      apply iff_of_true
      · refine hcached.noNewTokens h ⟨hassets, ?_⟩ hlog
        intro a nft hnft hown
        exact ⟨nft, by rw [hnfts, hnft], .refl nft, hown.counted⟩
      · intro hno
        exact absurd hgovernance hno
    | @mint info contractAddr recipient tokenUri nft nft' hgovernance hparse hchain _ hwrapped hnft hmint hassets
        hnfts =>
      simp only [minted, if_neg hgovernance, hparse, if_neg hchain, hwrapped, Option.getD_some] at hlog
      rw [cached_mint_iff hdec hcached hwrapped hnft hmint hassets hnfts hlog]
      constructor
      · intro hneeded _ info₁ hparse₁ _
        obtain rfl : info = info₁ := Go.ok.inj (hparse.symm.trans hparse₁)
        simp only [hwrapped]
        intro nft₁ asset hnft₁
        obtain rfl : nft = nft₁ := Option.some.inj (hnft.symm.trans hnft₁)
        exact hneeded asset
      · intro hfaithful asset hinfo hsolana
        have hneeded := hfaithful hgovernance info hparse hchain
        simp only [hwrapped] at hneeded
        exact hneeded nft asset hnft hinfo hsolana
    | @deploy info name symbol recipient tokenUri nft nft' canonical hgovernance hparse hchain _ hwrapped hunused
        hinstantiate hmint _ hasset _ hcache hnfts =>
      simp only [minted, if_neg hgovernance, hparse, if_neg hchain, hwrapped, Option.getD_none] at hlog
      simp only [Cw721.instantiate, Go.bind_eq_ok, Cw721.validated_eq_ok] at hinstantiate
      obtain ⟨_, ⟨-, rfl⟩, hinstantiate⟩ := hinstantiate
      cases hinstantiate
      rw [cached_deploy_iff hdec hcached hwrapped hunused.1 (fun _ => rfl) rfl hmint hasset hcache hnfts hlog]
      constructor
      · intro hneeded _ info₁ hparse₁ _
        obtain rfl : info = info₁ := Go.ok.inj (hparse.symm.trans hparse₁)
        simp only [hwrapped]
        exact hneeded
      · intro hfaithful
        have hneeded := hfaithful hgovernance info hparse hchain
        simpa only [hwrapped] using hneeded
    | native hgovernance hparse hchain hnft htransfer hassets hnfts =>
      simp only [minted, if_neg hgovernance, hparse, if_pos hchain, List.append_nil] at hlog
      apply iff_of_true
      · refine hcached.noNewTokens h (.write hassets hnft hnfts fun hown => ?_) hlog
        obtain ⟨token, htoken, -, rfl⟩ := Cw721.transferNft_eq_ok htransfer
        exact ⟨.save htoken rfl, hown.counted.save htoken⟩
      · intro _ info₁ hparse₁ hforeign
        obtain rfl := Go.ok.inj (hparse.symm.trans hparse₁)
        exact absurd hchain hforeign

/-- The bridge's contracts after a transaction. -/
theorem OwnContracts.step {w w' : World} {input : Input} (h : OwnContracts env w)
    (hstep : NftBridge.step env w input = some w') : OwnContracts env w' := by
  by_cases hinput : ∀ chain vaa, input ≠ .submitVaa chain vaa
  · exact h.noNewTokens (step_noNewTokens h hstep hinput)
  · simp only [not_forall, not_not] at hinput
    obtain ⟨chain, vaa, rfl⟩ := hinput
    exact h.completes (completeTransfer_eq_ok (committed_eq_some.mp hstep))

end Steps

/-- **Solana's names on Terra.** In a run of accepted transactions every NFT of Solana can leave with its own
name and symbol, after each transaction, exactly when each transaction is faithful.  A decimal number of the
crate reads back as itself, and some account has an address of 20 bytes. -/
theorem splMetadata_iff {w₀ : World} {inputs : List Input} {s : World × Mints}
    (hdec : ∀ tokenId, env.fromDecStr (env.formatU256 tokenId) = some tokenId)
    (haccount : ∃ sender canonical, env.api.addrCanonicalize sender = .ok canonical ∧ canonical.length = 20)
    (hfresh : Fresh w₀) (hrun : inputs.foldlM (logging (step env) (minted env)) (w₀, []) = some s) :
    Along (logging (step env) (minted env))
        (fun s input => ∀ t, logging (step env) (minted env) s input = some t → Kept env t) (w₀, []) inputs ↔
      Along (logging (step env) (minted env)) (fun s input => Faithful env s.1 input) (w₀, []) inputs := by
  have hstart : OwnContracts env w₀ ∧ Cached env (w₀, []) := by
    refine ⟨.of_fresh hfresh, ?_⟩
    intro contractAddr tokenId hheld
    obtain ⟨assetId, hasset⟩ := hheld.registered
    rw [hfresh.wrappedAsset assetId] at hasset
    cases hasset
  refine along_iff (I := fun s : World × Mints => OwnContracts env s.1 ∧ Cached env s) hstart ?_ hrun
  rintro s input t ⟨hown, hcached⟩ hlogged
  obtain ⟨hstep, hlog⟩ := logging_eq_some.mp hlogged
  have hown' := hown.step hstep
  have hiff := cached_step_iff hown hdec hcached hstep hlog
  have hkept : (∀ t', logging (step env) (minted env) s input = some t' → Kept env t') ↔ Cached env t := by
    rw [← kept_iff_cached hown' hdec haccount]
    constructor
    · intro h
      exact h t hlogged
    · intro h t' ht'
      rwa [← Option.some.inj (hlogged.symm.trans ht')]
  refine ⟨hkept.trans hiff, ?_⟩
  intro hall
  exact ⟨hown', hkept.mp hall⟩

end Runs

/-! ## Sample runs -/

/-- A `bigint` reads back what it writes. -/
theorem sampleEnv_fromDecStr (tokenId : FixedBytes 32) :
    sampleEnv.fromDecStr (sampleEnv.formatU256 tokenId) = some tokenId := by
  have hread : Nat.ofDigitChars 10 (beNat tokenId.val).repr.toList 0 = beNat tokenId.val := by
    rw [Nat.toList_repr, Nat.ofDigitChars_ten_toDigits]
  have hlt : beNat tokenId.val < 256 ^ 32 := by
    have := beNat_lt tokenId.val
    rwa [tokenId.property] at this
  show (let n := Nat.ofDigitChars 10 (beNat tokenId.val).repr.toList 0
    if n < 256 ^ 32 then some (⟨beBytes 32 n, beBytes_length 32 n⟩ : FixedBytes 32) else none) = some tokenId
  rw [hread, if_pos hlt]
  have hbytes : beBytes 32 (beNat tokenId.val) = tokenId.val := by
    have := beBytes_beNat tokenId.val
    rwa [tokenId.property] at this
  exact congrArg some (Subtype.ext hbytes)

theorem sampleEnv_account :
    ∃ sender canonical, sampleEnv.api.addrCanonicalize sender = .ok canonical ∧ canonical.length = 20 :=
  ⟨"alice", _, rfl, by decide⟩

/-- Governance registers the NFT bridge of Solana. -/
def registerSolana : ParsedVAA where
  emitterChain := 1
  emitterAddress := []
  payload := List.replicate 23 0x00 ++ asBytes "NFTBridge" ++ [0x01, 0x00, 0x00, 0x00, 0x01] ++ List.replicate 32 0x05
  hash := [0x01]

theorem solanaAddress_length : (List.replicate 32 (0x01 : UInt8)).length = 32 := rfl

theorem solanaSymbol_length : (List.replicate 32 (0x53 : UInt8)).length = 32 := rfl

theorem solanaName_length (number : UInt8) : (List.replicate 32 number).length = 32 := rfl

theorem solanaTokenId_length (number : UInt8) : (List.replicate 31 0x00 ++ [number]).length = 32 := rfl

theorem solanaRecipient_length : (List.replicate 32 (0x61 : UInt8)).length = 32 := rfl

/-- An NFT of Solana. -/
def sampleSolana (number : UInt8) : TransferInfo where
  nftAddress := ⟨List.replicate 32 0x01, solanaAddress_length⟩
  nftChain := 1
  symbol := ⟨List.replicate 32 0x53, solanaSymbol_length⟩
  name := ⟨List.replicate 32 number, solanaName_length number⟩
  tokenId := ⟨List.replicate 31 0x00 ++ [number], solanaTokenId_length number⟩
  uri := ⟨asBytes "u", by decide⟩
  recipient := ⟨List.replicate 32 0x61, solanaRecipient_length⟩
  recipientChain := 3

/-- It comes to Terra. -/
def transferSolana (number : UInt8) : ParsedVAA where
  emitterChain := 1
  emitterAddress := List.replicate 32 0x05
  payload := transferMessage (sampleSolana number)
  hash := [number]

/-- The bridge after these messages. -/
def sampleRun (vaas : List ParsedVAA) : Option (World × Mints) :=
  (vaas.map (Input.submitVaa (sampleChain "solana"))).foldlM (logging (step sampleEnv) (minted sampleEnv))
    (freshWorld, [])

/-- **The first NFT** of Solana can leave with its name. -/
theorem splMetadata_first :
    ∃ s, sampleRun [registerSolana, transferSolana 7] = some s ∧
      Along (logging (step sampleEnv) (minted sampleEnv))
        (fun s input => ∀ t, logging (step sampleEnv) (minted sampleEnv) s input = some t → Kept sampleEnv t)
        (freshWorld, []) ([registerSolana, transferSolana 7].map (Input.submitVaa (sampleChain "solana"))) := by
  have hsome : (sampleRun [registerSolana, transferSolana 7]).isSome = true := by decide +kernel
  obtain ⟨s, hs⟩ := Option.isSome_iff_exists.mp hsome
  refine ⟨s, hs, (splMetadata_iff sampleEnv sampleEnv_fromDecStr sampleEnv_account freshWorld_fresh hs).mpr ?_⟩
  have hgovernance : IsGovernance freshWorld.bridge registerSolana := by decide
  refine ⟨fun hno => absurd hgovernance hno, ?_⟩
  intro t ht
  refine ⟨?_, fun _ _ => trivial⟩
  -- the registration leaves the bridge without a contract
  have hnone : t.1.bridge.wrappedAsset = fun _ => none := by
    cases completeTransfer_eq_ok (committed_eq_some.mp (logging_eq_some.mp ht).1) with
    | governance _ hassets => exact hassets.wrappedAsset
    | mint hno => exact absurd hgovernance hno
    | deploy hno => exact absurd hgovernance hno
    | native hno => exact absurd hgovernance hno
  intro _ info _ _
  simp only [hnone]
  intro _ contractAddr hheld
  obtain ⟨assetId, hasset⟩ := hheld.registered
  rw [hnone] at hasset
  cases hasset

/-- **The second NFT** of Solana cannot leave. -/
theorem splMetadata_second :
    ¬∀ (env : Env) (w₀ : World) (inputs : List Input) (s : World × Mints),
      (∀ tokenId, env.fromDecStr (env.formatU256 tokenId) = some tokenId) →
      (∃ sender canonical, env.api.addrCanonicalize sender = .ok canonical ∧ canonical.length = 20) →
      Fresh w₀ → inputs.foldlM (logging (step env) (minted env)) (w₀, []) = some s → Kept env s := by
  intro hall
  have hrun : (sampleRun [registerSolana, transferSolana 7, transferSolana 8]).bind (fun s => do
      let contractAddr ← s.1.bridge.wrappedAsset (buildAssetId sampleEnv 1 (sampleSolana 8).nftAddress)
      let nft ← s.1.nfts "solana"
      let _ ← nft.tokens "8"
      let asset ← nft.wrappedAssetInfo
      let sent := committed (handleInitiateTransfer sampleEnv s.1.nfts s.1.bridge "alice" "solana" "8" 2
        (sampleSolana 8).recipient 0)
      return (contractAddr, asset.assetChain, sent.isSome)) = some ("solana", 1, false) := by
    decide +kernel
  simp only [Option.bind_eq_bind, Option.bind_eq_some_iff, Option.pure_def, Option.some.injEq, Prod.mk.injEq] at hrun
  obtain ⟨s, hs, contractAddr, hasset, nft, hnft, token, htoken, asset, hinfo, rfl, hsolana, hrefused⟩ := hrun
  have hheld : Held s.1 "solana" "8" := ⟨⟨_, hasset⟩, nft, token, asset, hnft, htoken, hinfo, hsolana⟩
  obtain ⟨info, -, hleaves⟩ := hall sampleEnv freshWorld _ s sampleEnv_fromDecStr sampleEnv_account
    freshWorld_fresh hs "solana" "8" hheld
  obtain ⟨s', info', hsent, -⟩ := hleaves "alice" 2 (sampleSolana 8).recipient 0 _ (by decide) rfl (by decide)
  rw [hsent] at hrefused
  cases hrefused

end NftBridge

end Wormhole.Terra

/-
# Wormhole.Ethereum.Accounting — what the token bridge holds of a native token.

For one native token, over any run of the bridge: `outstandingBridged` is what the published messages
sent out minus what the completed ones took back, within 64 bits; the bridge holds at least that many
units of the token; and a message is completed once (`tokens_accounted`).

What was sent out is read off the payloads that the core contract was handed (`published`), as the bridge
at the other end reads them.  `recording` keeps these payloads for any chain.

The token is a parameter, standard or with a fee on transfers (`Native`): a transfer by the bridge costs
it no more than its amount, nobody else can take its tokens, and the token calls nobody.  Every other
token may do what it likes, also call the bridge during its own transfers.
-/
import Mathlib
import Wormhole.Lib.Failing
import Wormhole.Lib.Mapping
import Wormhole.Lib.Transition
import Wormhole.Ethereum.Evm
import Wormhole.Ethereum.Messages
import Wormhole.Ethereum.TokenImplementation
import Wormhole.Ethereum.Bridge

namespace Wormhole.Ethereum

open Wormhole.Lib.Bytes Wormhole.Lib.Failing Wormhole.Lib.Transition
open Wormhole.Lib.Mapping (update_eq_some isSome_update isSome_update_self)

/-! ## Wrapped token contracts keep their origin -/

namespace TokenImplementation

/-- Calls after the first one leave the chain of a wrapped token alone. -/
structure SameOrigin (s s' : State) : Prop where
  initialized : s'.initialized = s.initialized
  chainId : s'.chainId = s.chainId

variable {s s' : State} {msgSender owner spender sender recipient account : Address} {amount : Nat}

theorem SameContract.sameOrigin (h : SameContract s s') : SameOrigin s s' := ⟨h.initialized, h.chainId⟩

theorem moveTokens_sameOrigin (h : moveTokens s sender recipient amount = .ok s') : SameOrigin s s' :=
  (moveTokens_sameContract h).sameOrigin

theorem transferFrom_sameOrigin (h : transferFrom s msgSender sender recipient amount = .ok s') :
    SameOrigin s s' :=
  (transferFrom_sameContract h).sameOrigin

theorem mint_sameOrigin (h : mint s msgSender account amount = .ok s') : SameOrigin s s' :=
  (mint_sameContract h).sameOrigin

theorem burn_sameOrigin (h : burn s msgSender account amount = .ok s') : SameOrigin s s' :=
  (burn_sameContract h).sameOrigin

theorem updateDetails_sameOrigin {name symbol : List UInt8} {sequence : Nat}
    (h : updateDetails s msgSender name symbol sequence = .ok s') : SameOrigin s s' :=
  (updateDetails_sameContract h).sameOrigin

theorem Call.run_sameOrigin {c : Call} (hs : s.initialized = true) (h : c.run s msgSender = .ok s') :
    SameOrigin s s' :=
  (c.run_sameContract hs h).sameOrigin

end TokenImplementation

namespace Bridge

variable {ν : Type} {env : Environment ν}

/-! ## Amounts -/

/-- The units of a token that make one normalised unit. -/
def unit (decimals : Nat) : Nat := 10 ^ (decimals - 8)

theorem pow10_eq_ok {n p : Nat} (h : pow10 n = .ok p) : p = 10 ^ n := by
  unfold pow10 at h
  split at h
  · exact (Except.ok.inj h).symm
  · cases h

theorem normalizeAmount_eq_ok {amount decimals n : Nat} (h : normalizeAmount amount decimals = .ok n) :
    n = amount / unit decimals := by
  unfold normalizeAmount at h
  split at h
  · obtain ⟨p, hp, h⟩ := bind_eq_ok.mp h
    rw [← Except.ok.inj h, pow10_eq_ok hp, unit]
  · rename_i h8
    rw [← Except.ok.inj h, unit, Nat.sub_eq_zero_of_le (Nat.le_of_not_lt h8), Nat.pow_zero, Nat.div_one]

theorem deNormalizeAmount_eq_ok {amount decimals m : Nat}
    (h : deNormalizeAmount amount decimals = .ok m) : m = amount * unit decimals := by
  unfold deNormalizeAmount at h
  split at h
  · obtain ⟨p, hp, h⟩ := bind_eq_ok.mp h
    unfold mulUint at h
    split at h
    · rw [← Except.ok.inj h, pow10_eq_ok hp, unit]
    · cases h
  · rename_i h8
    rw [← Except.ok.inj h, unit, Nat.sub_eq_zero_of_le (Nat.le_of_not_lt h8), Nat.pow_zero, Nat.mul_one]

/-! ## The token -/

/-- **A native token**, standard or with a fee on transfers, and the rest of the chain as far as it can
touch what the bridge holds of it: `balance` is that holding. -/
structure Native (env : Environment ν) (bridge WETH token : Address) (decimals : UInt8)
    (balance : ν → Nat) : Prop where
  hasCode : ∀ e, env.hasCode e token = true
  decimals_eq : ∀ e, env.decimals e token = .ok decimals
  balanceOf : ∀ e, env.balanceOf e token bridge = .ok (balance e)
  /-- what arrives is kept, whatever the fee -/
  safeTransferFrom : ∀ e e' asset sender amount, sender ≠ bridge →
    env.safeTransferFrom e asset sender bridge amount = .ok e' → balance e ≤ balance e'
  /-- a transfer costs its amount -/
  safeTransfer : ∀ e e' asset recipient amount, env.safeTransfer e asset recipient amount = .ok e' →
    balance e ≤ balance e' + if asset = token then amount else 0
  /-- WETH is minted and burned one for one -/
  deposit : ∀ e e' amount, env.deposit e amount = .ok e' →
    balance e + (if WETH = token then amount else 0) ≤ balance e'
  withdraw : ∀ e e' amount, env.withdraw e amount = .ok e' →
    balance e ≤ balance e' + if WETH = token then amount else 0
  weth : WETH = token → decimals = 18
  sendEther : ∀ e e' recipient amount, env.sendEther e recipient amount = .ok e' →
    balance e ≤ balance e'
  publishMessage : ∀ e value nonce payload level sequence e',
    env.publishMessage e value nonce payload level = .ok (sequence, e') → balance e ≤ balance e'

/-- **The messages of the bridge**: `published` are the payloads it has handed to the core contract.  Its
other calls leave them alone. -/
structure Records (env : Environment ν) (published : ν → List (List UInt8)) : Prop where
  publishMessage : ∀ e value nonce payload level sequence e',
    env.publishMessage e value nonce payload level = .ok (sequence, e') →
      published e' = published e ++ [payload]
  safeTransferFrom : ∀ e e' asset sender recipient amount,
    env.safeTransferFrom e asset sender recipient amount = .ok e' → published e' = published e
  safeTransfer : ∀ e e' asset recipient amount,
    env.safeTransfer e asset recipient amount = .ok e' → published e' = published e
  deposit : ∀ e e' amount, env.deposit e amount = .ok e' → published e' = published e
  withdraw : ∀ e e' amount, env.withdraw e amount = .ok e' → published e' = published e
  sendEther : ∀ e e' recipient amount,
    env.sendEther e recipient amount = .ok e' → published e' = published e

/-- The chain `env` with a record of the payloads that are published. -/
def recording (env : Environment ν) : Environment (ν × List (List UInt8)) where
  hasCode := fun e => env.hasCode e.1
  decimals := fun e => env.decimals e.1
  symbol := fun e => env.symbol e.1
  name := fun e => env.name e.1
  balanceOf := fun e => env.balanceOf e.1
  safeTransferFrom := fun e token sender recipient amount =>
    (env.safeTransferFrom e.1 token sender recipient amount).map fun e' => (e', e.2)
  safeTransfer := fun e token recipient amount =>
    (env.safeTransfer e.1 token recipient amount).map fun e' => (e', e.2)
  messageFee := fun e => env.messageFee e.1
  deposit := fun e amount => (env.deposit e.1 amount).map fun e' => (e', e.2)
  withdraw := fun e amount => (env.withdraw e.1 amount).map fun e' => (e', e.2)
  sendEther := fun e recipient amount => (env.sendEther e.1 recipient amount).map fun e' => (e', e.2)
  publishMessage := fun e value nonce payload level =>
    (env.publishMessage e.1 value nonce payload level).map fun result =>
      (result.1, (result.2, e.2 ++ [payload]))
  create2 := env.create2
  memory := env.memory

theorem recording_records (env : Environment ν) : Records (recording env) Prod.snd where
  publishMessage := by
    intro e value nonce payload level sequence e' h
    obtain ⟨result, -, heq⟩ := map_eq_ok.mp h
    rw [← (Prod.mk.inj heq).2]
  safeTransferFrom := by
    intro e e' asset sender recipient amount h
    obtain ⟨e₁, -, rfl⟩ := map_eq_ok.mp h
    rfl
  safeTransfer := by
    intro e e' asset recipient amount h
    obtain ⟨e₁, -, rfl⟩ := map_eq_ok.mp h
    rfl
  deposit := by
    intro e e' amount h
    obtain ⟨e₁, -, rfl⟩ := map_eq_ok.mp h
    rfl
  withdraw := by
    intro e e' amount h
    obtain ⟨e₁, -, rfl⟩ := map_eq_ok.mp h
    rfl
  sendEther := by
    intro e e' recipient amount h
    obtain ⟨e₁, -, rfl⟩ := map_eq_ok.mp h
    rfl

/-- Keeping the record changes nothing else. -/
theorem Native.recording {bridge WETH token : Address} {decimals : UInt8} {balance : ν → Nat}
    (h : Native env bridge WETH token decimals balance) :
    Native (recording env) bridge WETH token decimals fun e => balance e.1 where
  hasCode := fun e => h.hasCode e.1
  decimals_eq := fun e => h.decimals_eq e.1
  balanceOf := fun e => h.balanceOf e.1
  safeTransferFrom := by
    intro e e' asset sender amount hsender hmove
    obtain ⟨e₁, hmoved, rfl⟩ := map_eq_ok.mp hmove
    exact h.safeTransferFrom _ _ asset _ _ hsender hmoved
  safeTransfer := by
    intro e e' asset recipient amount hmove
    obtain ⟨e₁, hmoved, rfl⟩ := map_eq_ok.mp hmove
    exact h.safeTransfer _ _ _ _ _ hmoved
  deposit := by
    intro e e' amount hdeposit
    obtain ⟨e₁, hdeposited, rfl⟩ := map_eq_ok.mp hdeposit
    exact h.deposit _ _ _ hdeposited
  withdraw := by
    intro e e' amount hwithdraw
    obtain ⟨e₁, hwithdrawn, rfl⟩ := map_eq_ok.mp hwithdraw
    exact h.withdraw _ _ _ hwithdrawn
  weth := h.weth
  sendEther := by
    intro e e' recipient amount hsend
    obtain ⟨e₁, hsent, rfl⟩ := map_eq_ok.mp hsend
    exact h.sendEther _ _ _ _ hsent
  publishMessage := by
    intro e value nonce payload level sequence e' hpublish
    obtain ⟨result, hpublish, heq⟩ := map_eq_ok.mp hpublish
    rw [← (Prod.mk.inj heq).2]
    exact h.publishMessage _ _ _ _ _ _ _ hpublish

/-- The wrapped tokens: deployed by the bridge for tokens of other chains, and never the native one. -/
structure Wrapped (token : Address) (w : World ν) : Prop where
  native : w.tokens token = none
  foreign : ∀ asset t, w.tokens asset = some t →
    t.initialized = true ∧ t.chainId ≠ w.bridge.chainId ∧ t.chainId < 2 ^ 16
  known : ∀ asset, w.bridge.isWrappedAsset asset = true → (w.tokens asset).isSome
  assets : ∀ tokenChain tokenAddress, w.bridge.wrappedAssets tokenChain tokenAddress ≠ zeroAddress →
    (w.tokens (w.bridge.wrappedAssets tokenChain tokenAddress)).isSome

/-- Only the contracts and the books of wrapped assets matter for this. -/
theorem Wrapped.congr {token : Address} {w w' : World ν} (h : Wrapped token w)
    (htokens : w'.tokens = w.tokens) (hchain : w'.bridge.chainId = w.bridge.chainId)
    (hknown : w'.bridge.isWrappedAsset = w.bridge.isWrappedAsset)
    (hassets : w'.bridge.wrappedAssets = w.bridge.wrappedAssets) : Wrapped token w' := by
  constructor
  · rw [htokens]
    exact h.native
  · rw [htokens, hchain]
    exact h.foreign
  · rw [htokens, hknown]
    exact h.known
  · rw [htokens, hassets]
    exact h.assets

/-- What a part of a call does as far as the token is concerned: the bridge loses at most `loss` of it and
publishes `payloads`, and its books stay as they are. -/
structure Moves (token : Address) (balance : ν → Nat) (published : ν → List (List UInt8)) (loss : Nat)
    (payloads : List (List UInt8)) (w w' : World ν) : Prop where
  self : w'.bridge.self = w.bridge.self
  chainId : w'.bridge.chainId = w.bridge.chainId
  WETH : w'.bridge.WETH = w.bridge.WETH
  outstanding : w'.bridge.outstandingBridged token = w.bridge.outstandingBridged token
  completed : w'.bridge.completedTransfers = w.bridge.completedTransfers
  held : balance w.env ≤ balance w'.env + loss
  published : published w'.env = published w.env ++ payloads
  wrapped : Wrapped token w → Wrapped token w'

namespace Moves

variable {token : Address} {balance : ν → Nat} {published : ν → List (List UInt8)} {loss loss' : Nat}
  {payloads payloads' : List (List UInt8)} {w w' w'' : World ν}

theorem refl (w : World ν) : Moves token balance published 0 [] w w :=
  ⟨rfl, rfl, rfl, rfl, rfl, le_rfl, (List.append_nil _).symm, id⟩

theorem trans (h : Moves token balance published loss payloads w w')
    (h' : Moves token balance published loss' payloads' w' w'') :
    Moves token balance published (loss + loss') (payloads ++ payloads') w w'' where
  self := h'.self.trans h.self
  chainId := h'.chainId.trans h.chainId
  WETH := h'.WETH.trans h.WETH
  outstanding := h'.outstanding.trans h.outstanding
  completed := h'.completed.trans h.completed
  held := by
    have hheld := h.held
    have hheld' := h'.held
    omega
  published := by rw [h'.published, h.published, List.append_assoc]
  wrapped := h'.wrapped ∘ h.wrapped

theorem mono (h : Moves token balance published loss payloads w w') (hle : loss ≤ loss') :
    Moves token balance published loss' payloads w w' :=
  { h with held := h.held.trans (Nat.add_le_add_left hle _) }

/-- A change of the rest of the chain. -/
theorem rest {e : ν} (h : balance w.env ≤ balance e + loss)
    (hpublished : published e = published w.env ++ payloads) :
    Moves token balance published loss payloads w { w with env := e } where
  self := rfl
  chainId := rfl
  WETH := rfl
  outstanding := rfl
  completed := rfl
  held := h
  published := hpublished
  wrapped := fun h => h.congr rfl rfl rfl rfl

/-- A change that publishes nothing. -/
theorem quietRest {e : ν} (h : balance w.env ≤ balance e + loss)
    (hpublished : published e = published w.env) :
    Moves token balance published loss [] w { w with env := e } :=
  rest h (by rw [hpublished, List.append_nil])

/-- A call of a wrapped token contract. -/
theorem setToken {asset : Address} {t t' : TokenImplementation.State} (ht : w.tokens asset = some t)
    (hsame : TokenImplementation.SameOrigin t t') :
    Moves token balance published 0 [] w (w.setToken asset t') where
  self := rfl
  chainId := rfl
  WETH := rfl
  outstanding := rfl
  completed := rfl
  held := le_rfl
  published := (List.append_nil _).symm
  wrapped := fun h => by
    refine ⟨?_, ?_, fun a ha => isSome_update (h.known a ha), fun c a ha =>
      isSome_update (h.assets c a ha)⟩
    · have hne : token ≠ asset := fun heq => by rw [← heq, h.native] at ht; cases ht
      show Function.update w.tokens asset (some t') token = none
      rw [Function.update_of_ne hne]
      exact h.native
    · intro a s hs
      rcases update_eq_some hs with ⟨-, rfl⟩ | hold
      · rw [hsame.initialized, hsame.chainId]
        exact h.foreign asset t ht
      · exact h.foreign a s hold

/-- Bookkeeping about another token. -/
theorem outstandingOther {asset : Address} {outstanding : Nat} (hne : asset ≠ token) :
    Moves token balance published 0 [] w
      { w with bridge := setOutstandingBridged w.bridge asset outstanding } where
  self := rfl
  chainId := rfl
  WETH := rfl
  outstanding := Function.update_of_ne (Ne.symm hne) _ _
  completed := rfl
  held := le_rfl
  published := (List.append_nil _).symm
  wrapped := fun h => h.congr rfl rfl rfl rfl

end Moves

/-! ## The parts of a call -/

section Parts

variable {bridge WETH token asset sender recipient : Address} {decimals : UInt8} {balance : ν → Nat}
  {published : ν → List (List UInt8)} {w w' : World ν} {amount : Nat}

theorem tokenAt_eq_ok {t : TokenImplementation.State} (h : tokenAt w asset = .ok t) :
    w.tokens asset = some t := by
  unfold tokenAt at h
  split at h
  · rename_i ht
    rw [ht, Except.ok.inj h]
  · cases h

theorem moves_safeTransferFrom (hn : Native env bridge WETH token decimals balance)
    (hrec : Records env published) (hself : w.bridge.self = bridge) (hsender : sender ≠ bridge)
    (h : safeTransferFrom env w asset sender w.bridge.self amount = .ok w') :
    Moves token balance published 0 [] w w' := by
  unfold safeTransferFrom at h
  split at h
  · rename_i t ht
    obtain ⟨t', hmove, h⟩ := bind_eq_ok.mp h
    rw [← Except.ok.inj h]
    exact .setToken ht (TokenImplementation.transferFrom_sameOrigin hmove)
  · obtain ⟨e, hmove, h⟩ := bind_eq_ok.mp h
    rw [← Except.ok.inj h]
    rw [hself] at hmove
    exact .quietRest (hn.safeTransferFrom _ _ _ _ _ hsender hmove) (hrec.safeTransferFrom _ _ _ _ _ _ hmove)

theorem moves_safeTransfer (hn : Native env bridge WETH token decimals balance) (hrec : Records env published)
    (h : safeTransfer env w asset recipient amount = .ok w') :
    Moves token balance published (if asset = token then amount else 0) [] w w' := by
  unfold safeTransfer at h
  split at h
  · rename_i t ht
    obtain ⟨t', hmove, h⟩ := bind_eq_ok.mp h
    rw [← Except.ok.inj h]
    exact (Moves.setToken ht (TokenImplementation.moveTokens_sameOrigin hmove)).mono (Nat.zero_le _)
  · obtain ⟨e, hmove, h⟩ := bind_eq_ok.mp h
    rw [← Except.ok.inj h]
    exact .quietRest (hn.safeTransfer _ _ _ _ _ hmove) (hrec.safeTransfer _ _ _ _ _ hmove)

theorem moves_mintWrapped (h : mintWrapped w asset recipient amount = .ok w') :
    Moves token balance published 0 [] w w' := by
  obtain ⟨t, ht, h⟩ := bind_eq_ok.mp h
  obtain ⟨t', hmint, h⟩ := bind_eq_ok.mp h
  rw [← Except.ok.inj h]
  exact .setToken (tokenAt_eq_ok ht) (TokenImplementation.mint_sameOrigin hmint)

theorem moves_burnWrapped (h : burnWrapped w asset amount = .ok w') :
    Moves token balance published 0 [] w w' := by
  obtain ⟨t, ht, h⟩ := bind_eq_ok.mp h
  obtain ⟨t', hburn, h⟩ := bind_eq_ok.mp h
  rw [← Except.ok.inj h]
  exact .setToken (tokenAt_eq_ok ht) (TokenImplementation.burn_sameOrigin hburn)

/-- **Publishing.** -/
theorem moves_publishMessage (hn : Native env bridge WETH token decimals balance)
    (hrec : Records env published) {callValue nonce sequence : Nat} {payload : List UInt8}
    (h : publishMessage env w callValue nonce payload = .ok (w', sequence)) :
    Moves token balance published 0 [payload] w w' := by
  obtain ⟨⟨sequence', e⟩, hpublish, h⟩ := bind_eq_ok.mp h
  obtain ⟨rfl, -⟩ := Prod.mk.inj (Except.ok.inj h)
  exact .rest (hn.publishMessage _ _ _ _ _ _ _ hpublish) (hrec.publishMessage _ _ _ _ _ _ _ hpublish)

theorem moves_logTransfer (hn : Native env bridge WETH token decimals balance)
    (hrec : Records env published) {transfer : Transfer} {callValue nonce sequence : Nat}
    (h : logTransfer env w transfer callValue nonce = .ok (w', sequence)) :
    Moves token balance published 0 [encodeTransfer transfer] w w' := by
  obtain ⟨_, -, h⟩ := bind_eq_ok.mp h
  exact moves_publishMessage hn hrec h

/-- **Payments.** A payment in the token costs its amount, any other one nothing. -/
theorem moves_pay (hn : Native env bridge WETH token decimals balance) (hrec : Records env published)
    {unwrapWETH : Bool} {tokenChain : Nat} (hunwrap : unwrapWETH = true → asset = WETH)
    (h : pay env w unwrapWETH tokenChain asset recipient amount = .ok w') :
    Moves token balance published (if asset = token then amount else 0) [] w w' := by
  unfold pay at h
  split at h
  · rename_i hunwrapped
    obtain ⟨e, hwithdraw, h⟩ := bind_eq_ok.mp h
    obtain ⟨e', hsend, h⟩ := bind_eq_ok.mp h
    rw [← Except.ok.inj h]
    have hrecorded : published e' = published w.env :=
      (hrec.sendEther _ _ _ _ hsend).trans (hrec.withdraw _ _ _ hwithdraw)
    have hwithdraw := hn.withdraw _ _ _ hwithdraw
    have hsend := hn.sendEther _ _ _ _ hsend
    rw [hunwrap hunwrapped]
    exact .quietRest (hwithdraw.trans (Nat.add_le_add_right hsend _)) hrecorded
  · split at h
    · exact (moves_mintWrapped h).mono (Nat.zero_le _)
    · exact moves_safeTransfer hn hrec h

theorem moves_payFee (hn : Native env bridge WETH token decimals balance) (hrec : Records env published)
    {unwrapWETH : Bool} {tokenChain nativeAmount : Nat} (hunwrap : unwrapWETH = true → asset = WETH)
    (h : payFee env w unwrapWETH tokenChain asset sender amount nativeAmount = .ok w') :
    Moves token balance published (if asset = token then amount else 0) [] w w' := by
  unfold payFee at h
  split at h
  · obtain ⟨_, -, h⟩ := bind_eq_ok.mp h
    exact moves_pay hn hrec hunwrap h
  · rw [← Except.ok.inj h]
    exact (Moves.refl w).mono (Nat.zero_le _)

theorem moves_takeTokens {frame : Frame} (h : takeTokens env w frame asset = .ok (w', amount)) :
    Moves token balance published 0 [] w w' := by
  unfold takeTokens at h
  split at h
  · simp only [bind_eq_ok] at h
    obtain ⟨_, -, _, -, h⟩ := h
    obtain ⟨rfl, -⟩ := Prod.mk.inj (Except.ok.inj h)
    exact .refl w
  · obtain ⟨w₁, hburn, h⟩ := bind_eq_ok.mp h
    obtain ⟨rfl, -⟩ := Prod.mk.inj (Except.ok.inj h)
    exact moves_burnWrapped hburn

theorem moves_updateWrapped {vm : VM} {valid : Bool} {reason : String} {wrapped : Address}
    (h : updateWrapped w vm valid reason = .ok (w', wrapped)) :
    Moves token balance published 0 [] w w' := by
  simp only [updateWrapped, updateWrappedDetails, bind_eq_ok] at h
  obtain ⟨_, -, _, -, _, -, t, ht, t', hupdate, h⟩ := h
  obtain ⟨rfl, -⟩ := Prod.mk.inj (Except.ok.inj h)
  exact .setToken (tokenAt_eq_ok ht) (TokenImplementation.updateDetails_sameOrigin hupdate)

theorem moves_registerChain {s : State} {vm : VM} {valid : Bool} {reason : String}
    (h : registerChain w.bridge vm valid reason = .ok s) :
    Moves token balance published 0 [] w { w with bridge := s } := by
  simp only [registerChain, bind_eq_ok] at h
  obtain ⟨_, -, _, -, _, -, _, -, h⟩ := h
  rw [← Except.ok.inj h]
  exact ⟨rfl, rfl, rfl, rfl, rfl, le_rfl, (List.append_nil _).symm, fun hw => hw.congr rfl rfl rfl rfl⟩

theorem parseAssetMeta_tokenChain {encoded : List UInt8} {meta' : AssetMeta}
    (h : parseAssetMeta encoded = .ok meta') : meta'.tokenChain < 2 ^ 16 := by
  simp only [parseAssetMeta, bind_eq_ok] at h
  obtain ⟨_, -, _, -, _, -, tokenChain, hchain, _, -, _, -, _, -, _, -, h⟩ := h
  rw [← Except.ok.inj h]
  exact (toUint_eq_ok hchain).2

/-- The contract of a new wrapped token is none of the existing ones. -/
theorem moves_createWrapped (hn : Native env bridge WETH token decimals balance) {vm : VM}
    {valid : Bool} {reason : String} {wrapped : Address}
    (h : createWrapped env w vm valid reason = .ok (w', wrapped)) :
    Moves token balance published 0 [] w w' := by
  simp only [createWrapped, deployWrapped, bind_eq_ok, require_eq_ok] at h
  obtain ⟨_, -, meta', hparse, _, hforeign, _, -, t, hinit, _, ⟨-, hcode, -, -⟩, h⟩ := h
  obtain ⟨rfl, rfl⟩ := Prod.mk.inj (Except.ok.inj h)
  generalize env.create2 meta'.tokenChain meta'.tokenAddress _ _ _ _ = new at *
  have hne : token ≠ new := by
    rintro rfl
    rw [hn.hasCode] at hcode
    cases hcode
  simp only [TokenImplementation.initializeContract, bind_eq_ok] at hinit
  obtain ⟨_, -, hinit⟩ := hinit
  have hinitialized : t.initialized = true := by rw [← Except.ok.inj hinit]
  have hchain : t.chainId = meta'.tokenChain := by rw [← Except.ok.inj hinit]
  refine ⟨rfl, rfl, rfl, rfl, rfl, le_rfl, (List.append_nil _).symm, ?_⟩
  intro hw
  refine ⟨(Function.update_of_ne hne _ _).trans hw.native, ?_, ?_, ?_⟩
  · intro a s hs
    rcases update_eq_some hs with ⟨-, rfl⟩ | hold
    · rw [hchain]
      exact ⟨hinitialized, hforeign, parseAssetMeta_tokenChain hparse⟩
    · exact hw.foreign a s hold
  · intro a ha
    change Function.update w.bridge.isWrappedAsset new true a = true at ha
    by_cases heq : a = new
    · rw [heq]
      exact isSome_update_self
    · rw [Function.update_of_ne heq] at ha
      exact isSome_update (hw.known a ha)
  · intro c a ha
    change Function.update w.bridge.wrappedAssets meta'.tokenChain
      (Function.update (w.bridge.wrappedAssets meta'.tokenChain) meta'.tokenAddress new) c a ≠
        zeroAddress at ha
    change (Function.update w.tokens new (some t) (Function.update w.bridge.wrappedAssets
      meta'.tokenChain (Function.update (w.bridge.wrappedAssets meta'.tokenChain) meta'.tokenAddress
        new) c a)).isSome
    by_cases hc : c = meta'.tokenChain
    · subst hc
      rw [Function.update_self] at ha ⊢
      by_cases haddress : a = meta'.tokenAddress
      · rw [haddress, Function.update_self]
        exact isSome_update_self
      · rw [Function.update_of_ne haddress] at ha ⊢
        exact isSome_update (hw.assets _ a ha)
    · rw [Function.update_of_ne hc] at ha ⊢
      exact isSome_update (hw.assets c a ha)

end Parts

/-! ## What the books record -/

/-- A completed transfer, with the hash of its message. -/
abbrev Completion := List UInt8 × Transfer

/-- The amount that a published payload sends out, of the native token. -/
def sentOut (chainId : Nat) (token : Address) (payload : List UInt8) : Nat :=
  match parseTransfer payload with
  | .ok transfer =>
    if transfer.tokenChain = chainId ∧ transfer.tokenAddress = token.toWord then transfer.amount else 0
  | .error _ => 0

/-- The amount that a completion takes back: the upper bytes of a token address are ignored. -/
def takenBack (chainId : Nat) (token : Address) (completion : Completion) : Nat :=
  if completion.2.tokenChain = chainId ∧ completion.2.tokenAddress.toAddress = token then
    completion.2.amount
  else 0

/-- The completion in a call, by the message that it redeems. -/
def completions (_ : World ν) : Call ν → List Completion
  | .completeTransfer vm _ _ _ _ =>
    match parseTransfer vm.payload with
    | .ok transfer => [(vm.hash, transfer)]
    | .error _ => []
  | _ => []

/-- Nobody but the bridge moves the tokens it holds, or publishes in its name. -/
def Admissible (balance : ν → Nat) (published : ν → List (List UInt8)) (w : World ν) : Call ν → Prop
  | .rest e => balance w.env ≤ balance e ∧ published e = published w.env
  | _ => True

/-- A transaction.  The token makes no calls during its transfer; another token may. -/
inductive TokenStep (env : Environment ν) (token : Address) (balance : ν → Nat)
    (published : ν → List (List UInt8)) : World ν × List Completion → World ν × List Completion → Prop where
  | call {s t : World ν × List Completion} {c : Call ν} (hadmissible : Admissible balance published s.1 c)
      (hcall : logging (Bridge.call env) completions s c = some t) : TokenStep env token balance published s t
  | transferTokens {w w' : World ν} {log : List Completion} {t : World ν × List Completion} {frame : Frame}
      {sender asset : Address} {amount recipientChain : Nat} {recipient : Word}
      {arbiterFee nonce value sequence : Nat} (hsender : sender ≠ w.bridge.self)
      (hbegin : beginTransferTokens env w sender asset amount = .ok (w', frame))
      (hcalls : Run (logging (Bridge.call env) completions)
        (fun s c => asset ≠ token ∧ (w.tokens asset).isNone ∧ Admissible balance published s.1 c) (w', log) t)
      {w'' : World ν}
      (hfinish : finishTransferTokens env t.1 frame asset recipientChain recipient arbiterFee nonce
        value = .ok (w'', sequence)) :
      TokenStep env token balance published (w, log) (w'', t.2)

/-! ## What a payload sends out -/

theorem toWord_injective : Function.Injective Address.toWord := by
  intro a b h
  exact Subtype.ext (List.append_cancel_left (congrArg Subtype.val h))

/-- A published transfer counts with its amount, if it is one of the token. -/
theorem sentOut_encodeTransfer {chainId : Nat} {token : Address} {transfer : Transfer}
    (hchain : transfer.tokenChain < 2 ^ 16) :
    sentOut chainId token (encodeTransfer transfer) =
      if transfer.tokenChain = chainId ∧ transfer.tokenAddress = token.toWord then
        transfer.amount % 256 ^ 32
      else 0 := by
  have hmod : transfer.tokenChain % 256 ^ 2 = transfer.tokenChain := Nat.mod_eq_of_lt hchain
  rw [sentOut, parseTransfer_encodeTransfer]
  simp only [hmod]

theorem sentOut_encodeAssetMeta (chainId : Nat) (token : Address) (meta' : AssetMeta) :
    sentOut chainId token (encodeAssetMeta meta') = 0 := by
  rw [sentOut, parseTransfer_encodeAssetMeta]

/-- A transfer of an asset of this chain. -/
theorem sentOut_native {chainId : Nat} {token asset : Address} {transfer : Transfer}
    (hlt : chainId < 2 ^ 16) (hchain : transfer.tokenChain = chainId)
    (haddress : transfer.tokenAddress = asset.toWord) (hamount : transfer.amount ≤ 2 ^ 64 - 1) :
    sentOut chainId token (encodeTransfer transfer) = if asset = token then transfer.amount else 0 := by
  have hiff : (transfer.tokenChain = chainId ∧ transfer.tokenAddress = token.toWord) ↔ asset = token := by
    rw [hchain, haddress, toWord_injective.eq_iff]
    exact and_iff_right rfl
  have hfits : transfer.amount < 256 ^ 32 := lt_of_le_of_lt hamount (by norm_num)
  rw [sentOut_encodeTransfer (hchain ▸ hlt), Nat.mod_eq_of_lt hfits]
  simp only [hiff]

/-- What a call does to the books of the token: it publishes `payloads`, and `out` normalised units go out
and `back` of them come back. -/
structure Effect (token : Address) (balance : ν → Nat) (published : ν → List (List UInt8))
    (decimals : UInt8) (payloads : List (List UInt8)) (out back : Nat) (w w' : World ν) : Prop where
  self : w'.bridge.self = w.bridge.self
  chainId : w'.bridge.chainId = w.bridge.chainId
  WETH : w'.bridge.WETH = w.bridge.WETH
  outstanding : w'.bridge.outstandingBridged token + back = w.bridge.outstandingBridged token + out
  cap : w.bridge.outstandingBridged token ≤ 2 ^ 64 - 1 →
    w'.bridge.outstandingBridged token ≤ 2 ^ 64 - 1
  held : balance w.env + out * unit decimals.toNat ≤ balance w'.env + back * unit decimals.toNat
  published : published w'.env = published w.env ++ payloads
  wrapped : Wrapped token w → Wrapped token w'

theorem Moves.effect {token : Address} {balance : ν → Nat} {published : ν → List (List UInt8)}
    {decimals : UInt8} {payloads : List (List UInt8)} {w w' : World ν}
    (h : Moves token balance published 0 payloads w w') :
    Effect token balance published decimals payloads 0 0 w w' where
  self := h.self
  chainId := h.chainId
  WETH := h.WETH
  outstanding := by rw [h.outstanding]
  cap := fun hcap => by rwa [h.outstanding]
  held := by
    have := h.held
    omega
  published := h.published
  wrapped := h.wrapped

/-! ## What the calls record -/

section Calls

variable {bridge WETH token asset sender : Address} {decimals : UInt8} {balance : ν → Nat}
  {published : ν → List (List UInt8)} {payloads : List (List UInt8)} {w w' : World ν} {amount : Nat}

theorem subUint_eq_ok' {x y z : Nat} (h : subUint x y = .ok z) : z + y = x := by
  unfold subUint at h
  split at h
  · rename_i hle
    rw [← Except.ok.inj h]
    exact Nat.sub_add_cancel hle
  · cases h

theorem bridgeOut_eq_ok {s s' : State} {n : Nat} (h : bridgeOut s asset n = .ok s') :
    s' = setOutstandingBridged s asset (s.outstandingBridged asset + n) ∧
      s.outstandingBridged asset + n ≤ 2 ^ 64 - 1 := by
  simp only [bridgeOut, bind_eq_ok, require_eq_ok] at h
  obtain ⟨outstanding, hadd, _, hcap, h⟩ := h
  obtain rfl := addUint_eq_ok hadd
  exact ⟨(Except.ok.inj h).symm, hcap⟩

/-- Sending out `n` normalised units that have arrived. -/
theorem effect_bridgeOut (hmoves : Moves token balance published 0 [] w w') {e : ν} {n : Nat} {s : State}
    (h : bridgeOut w'.bridge asset n = .ok s)
    (harrived : balance w.env + (if asset = token then n else 0) * unit decimals.toNat ≤ balance e)
    (hpublished : published e = published w'.env) :
    Effect token balance published decimals [] (if asset = token then n else 0) 0 w
      { w' with bridge := s, env := e } := by
  obtain ⟨rfl, hcap⟩ := bridgeOut_eq_ok h
  have hheld : balance w.env + (if asset = token then n else 0) * unit decimals.toNat ≤
      balance e + 0 * unit decimals.toNat := by omega
  refine ⟨hmoves.self, hmoves.chainId, hmoves.WETH, ?_, ?_, hheld, hpublished.trans hmoves.published, ?_⟩
  · show Function.update w'.bridge.outstandingBridged asset _ token + 0 = _
    rw [← hmoves.outstanding]
    split
    · rename_i heq
      rw [heq, Function.update_self, Nat.add_zero]
    · rename_i hne
      rw [Function.update_of_ne (Ne.symm hne)]
  · intro hle
    show Function.update w'.bridge.outstandingBridged asset _ token ≤ _
    by_cases heq : asset = token
    · rw [heq] at hcap ⊢
      rwa [Function.update_self]
    · rwa [Function.update_of_ne (Ne.symm heq), hmoves.outstanding]
  · intro hw
    exact (hmoves.wrapped hw).congr rfl rfl rfl rfl

theorem Effect.log (h : Effect token balance published decimals [] amount 0 w w') {w'' : World ν}
    (hmoves : Moves token balance published 0 payloads w' w'') :
    Effect token balance published decimals payloads amount 0 w w'' where
  self := hmoves.self.trans h.self
  chainId := hmoves.chainId.trans h.chainId
  WETH := hmoves.WETH.trans h.WETH
  outstanding := by rw [hmoves.outstanding, h.outstanding]
  cap := fun hcap => by rw [hmoves.outstanding]; exact h.cap hcap
  held := by
    have hheld := h.held
    have hmoved := hmoves.held
    omega
  published := by rw [hmoves.published, h.published, List.append_nil]
  wrapped := hmoves.wrapped ∘ h.wrapped

/-- **Wrapping.** -/
theorem effect_wrapAndTransferETH (hn : Native env bridge WETH token decimals balance)
    (hrec : Records env published) (hWETH : w.bridge.WETH = WETH) (hlt : w.bridge.chainId < 2 ^ 16)
    {value recipientChain arbiterFee nonce sequence : Nat} {recipient : Word}
    (h : wrapAndTransferETH env w sender value recipientChain recipient arbiterFee nonce =
      .ok (w', sequence)) :
    ∃ payload, w'.bridge.completedTransfers = w.bridge.completedTransfers ∧
      Effect token balance published decimals [payload] (sentOut w.bridge.chainId token payload) 0 w w' := by
  simp only [wrapAndTransferETH, bind_eq_ok, require_eq_ok] at h
  obtain ⟨wormholeFee, hfee, _, -, _, -, n, hnormal, arbiter, harbiter, m, hm, dust, hdust, e, hrefund,
    x, hx, e', hdeposit, s, hout, hlog⟩ := h
  obtain ⟨hbooked, hcap⟩ := bridgeOut_eq_ok hout
  have hcompleted : s.completedTransfers = w.bridge.completedTransfers := by
    rw [hbooked]
    rfl
  have hsent : ∀ transfer : Transfer, transfer.tokenChain = w.bridge.chainId →
      transfer.tokenAddress = w.bridge.WETH.toWord → transfer.amount = n →
      sentOut w.bridge.chainId token (encodeTransfer transfer) = if w.bridge.WETH = token then n else 0 := by
    intro transfer hchain haddress hamount
    rw [sentOut_native hlt hchain haddress (by omega), hamount]
  obtain ⟨payload, hpayload, hlogged⟩ : ∃ payload,
      sentOut w.bridge.chainId token payload = (if w.bridge.WETH = token then n else 0) ∧
        Moves token balance published 0 [payload] { w with bridge := s, env := e' } w' := by
    refine ⟨_, ?_, moves_logTransfer hn hrec hlog⟩
    exact hsent _ rfl rfl rfl
  refine ⟨payload, hlogged.completed.trans hcompleted, ?_⟩
  rw [hpayload]
  have hrefunded : balance w.env ≤ balance e ∧ published e = published w.env := by
    unfold refundDust at hrefund
    split at hrefund
    · exact ⟨hn.sendEther _ _ _ _ hrefund, hrec.sendEther _ _ _ _ hrefund⟩
    · rw [← Except.ok.inj hrefund]
      exact ⟨le_rfl, rfl⟩
  refine Effect.log (effect_bridgeOut (Moves.refl w) hout ?_
    ((hrec.deposit _ _ _ hdeposit).trans hrefunded.2)) hlogged
  -- all of the amount but the dust has been wrapped
  obtain rfl := deNormalizeAmount_eq_ok hm
  have hdust := subUint_eq_ok' hdust
  have hx := subUint_eq_ok' hx
  obtain rfl : x = n * unit 18 := by omega
  have hdeposit := hn.deposit _ _ _ hdeposit
  rw [hWETH]
  split
  · rename_i heq
    rw [if_pos heq] at hdeposit
    rw [hn.weth heq]
    exact (Nat.add_le_add_right hrefunded.1 _).trans hdeposit
  · rename_i hne
    rw [if_neg hne] at hdeposit
    have hkept := hrefunded.1
    omega

/-! ## Completed transfers -/

/-- **Completions.** What the checks of a completion come to, and its two payments. -/
theorem completeTransfer_eq_ok {vm : VM} {valid unwrapWETH : Bool} {reason : String}
    (h : completeTransfer env w vm valid reason sender unwrapWETH = .ok w') :
    ∃ transfer s asset d nativeAmount nativeFee payment w₁,
      parseTransfer vm.payload = .ok transfer ∧ w.bridge.completedTransfers vm.hash = false ∧
      transferTokenOf (setTransferCompleted w.bridge vm.hash) transfer = .ok (s, asset) ∧
      (unwrapWETH = true → asset = s.WETH) ∧
      queryDecimals env { w with bridge := s } asset = .ok d ∧
      deNormalizeAmount transfer.amount d = .ok nativeAmount ∧
      deNormalizeAmount transfer.fee d = .ok nativeFee ∧ nativeFee + payment = nativeAmount ∧
      payFee env { w with bridge := s } unwrapWETH transfer.tokenChain asset sender nativeFee
        nativeAmount = .ok w₁ ∧
      pay env w₁ unwrapWETH transfer.tokenChain asset transfer.recipient.toAddress payment = .ok w' := by
  simp only [completeTransfer, executeTransfer, bind_eq_ok, require_eq_ok] at h
  obtain ⟨_, -, transfer, hparse, _, hfresh, _, -, ⟨s, asset⟩, htoken, _, hunwrap, d, hdecimals,
    nativeAmount, hamount, nativeFee, hfee, w₁, hpayFee, payment, hrest, hpay⟩ := h
  have hunwrap' : unwrapWETH = true → asset = s.WETH := by
    intro htrue
    rcases hunwrap with hfalse | hWETH
    · rw [htrue] at hfalse
      cases hfalse
    · exact hWETH
  have hrest : nativeFee + payment = nativeAmount := by
    have hrest := subUint_eq_ok' hrest
    omega
  exact ⟨transfer, s, asset, d, nativeAmount, nativeFee, payment, w₁, hparse, hfresh, htoken, hunwrap',
    hdecimals, hamount, hfee, hrest, hpayFee, hpay⟩

/-- The booking of a completion. -/
theorem transferTokenOf_eq_ok {s s' : State} {transfer : Transfer}
    (h : transferTokenOf s transfer = .ok (s', asset)) :
    transfer.tokenChain = s.chainId ∧ transfer.tokenAddress.toAddress = asset ∧
        transfer.amount ≤ s.outstandingBridged asset ∧
        s' = setOutstandingBridged s asset (s.outstandingBridged asset - transfer.amount) ∨
      transfer.tokenChain ≠ s.chainId ∧ s.wrappedAssets transfer.tokenChain transfer.tokenAddress = asset ∧
        asset ≠ zeroAddress ∧ s' = s := by
  unfold transferTokenOf at h
  split at h
  · rename_i hchain
    simp only [bridgedIn, bind_eq_ok] at h
    obtain ⟨_, ⟨outstanding, hsub, heq⟩, h⟩ := h
    obtain ⟨rfl, rfl⟩ := Prod.mk.inj (Except.ok.inj h)
    have hsub := subUint_eq_ok' hsub
    refine .inl ⟨hchain, rfl, by omega, ?_⟩
    rw [← Except.ok.inj heq, ← hsub, Nat.add_sub_cancel]
  · rename_i hchain
    simp only [bind_eq_ok, require_eq_ok] at h
    obtain ⟨_, hnonzero, h⟩ := h
    obtain ⟨rfl, rfl⟩ := Prod.mk.inj (Except.ok.inj h)
    exact .inr ⟨hchain, rfl, hnonzero, rfl⟩

/-- A completion takes the amount back from the token it pays in. -/
theorem back_eq {s : State} {transfer : Transfer} (hw : Wrapped token w) {hash : List UInt8}
    (h : transferTokenOf (setTransferCompleted w.bridge hash) transfer = .ok (s, asset)) :
    takenBack w.bridge.chainId token (hash, transfer) =
        (if asset = token then transfer.amount else 0) ∧
      s.outstandingBridged token + (if asset = token then transfer.amount else 0) =
        w.bridge.outstandingBridged token := by
  rcases transferTokenOf_eq_ok h with ⟨hchain, rfl, hle, rfl⟩ | ⟨hchain, hasset, hnonzero, rfl⟩
  · constructor
    · have hiff : (transfer.tokenChain = w.bridge.chainId ∧ transfer.tokenAddress.toAddress = token) ↔
          transfer.tokenAddress.toAddress = token := and_iff_right hchain
      simp only [takenBack, hiff]
    · show Function.update w.bridge.outstandingBridged _ _ token + _ = _
      change transfer.amount ≤ w.bridge.outstandingBridged _ at hle
      split
      · rename_i heq
        rw [heq] at hle ⊢
        rw [Function.update_self]
        exact Nat.sub_add_cancel hle
      · rename_i hne
        rw [Function.update_of_ne (Ne.symm hne), Nat.add_zero]
  · have hne : asset ≠ token := by
      rintro rfl
      change w.bridge.wrappedAssets transfer.tokenChain transfer.tokenAddress = asset at hasset
      have hsome := hw.assets transfer.tokenChain transfer.tokenAddress (by rw [hasset]; exact hnonzero)
      rw [hasset, hw.native] at hsome
      cases hsome
    rw [if_neg hne]
    refine ⟨?_, rfl⟩
    simp only [takenBack]
    exact if_neg fun hand => hchain hand.1

theorem queryDecimals_token (hn : Native env bridge WETH token decimals balance)
    (hw : Wrapped token w) {d : Nat} (h : queryDecimals env w token = .ok d) : d = decimals.toNat := by
  unfold queryDecimals at h
  rw [hw.native] at h
  dsimp only at h
  rw [hn.decimals_eq] at h
  exact (Except.ok.inj h).symm

/-- **Completing.** -/
theorem effect_completeTransfer (hn : Native env bridge WETH token decimals balance)
    (hrec : Records env published) (hWETH : w.bridge.WETH = WETH) (hw : Wrapped token w) {vm : VM}
    {valid unwrapWETH : Bool} {reason : String}
    (h : completeTransfer env w vm valid reason sender unwrapWETH = .ok w') :
    ∃ transfer, parseTransfer vm.payload = .ok transfer ∧
      w.bridge.completedTransfers vm.hash = false ∧
      w'.bridge.completedTransfers = Function.update w.bridge.completedTransfers vm.hash true ∧
      Effect token balance published decimals [] 0 (takenBack w.bridge.chainId token (vm.hash, transfer))
        w w' := by
  obtain ⟨transfer, s, asset, d, nativeAmount, nativeFee, payment, w₁, hparse, hfresh, htoken, hunwrap,
    hdecimals, hamount, -, hsum, hfee, hpay⟩ := completeTransfer_eq_ok h
  have hsame : s.self = w.bridge.self ∧ s.chainId = w.bridge.chainId ∧ s.WETH = w.bridge.WETH ∧
      s.completedTransfers = Function.update w.bridge.completedTransfers vm.hash true ∧
      s.isWrappedAsset = w.bridge.isWrappedAsset ∧ s.wrappedAssets = w.bridge.wrappedAssets := by
    rcases transferTokenOf_eq_ok htoken with ⟨-, -, -, rfl⟩ | ⟨-, -, -, rfl⟩
    · exact ⟨rfl, rfl, rfl, rfl, rfl, rfl⟩
    · exact ⟨rfl, rfl, rfl, rfl, rfl, rfl⟩
  obtain ⟨hself', hchainId, hWETH', hcompleted, hknown, hassets⟩ := hsame
  have hw' : Wrapped token w → Wrapped token { w with bridge := s } := by
    intro hw
    exact hw.congr rfl hchainId hknown hassets
  have hunwrap : unwrapWETH = true → asset = WETH := fun htrue => by
    rw [hunwrap htrue, hWETH', hWETH]
  have hpayments := (moves_payFee hn hrec hunwrap hfee).trans (moves_pay hn hrec hunwrap hpay)
  obtain ⟨hback, houtstanding⟩ := back_eq hw htoken
  refine ⟨transfer, hparse, hfresh, hpayments.completed.trans hcompleted, ?_⟩
  rw [hback]
  refine ⟨hpayments.self.trans hself', hpayments.chainId.trans hchainId, hpayments.WETH.trans hWETH',
    ?_, ?_, ?_, hpayments.published, hpayments.wrapped ∘ hw'⟩
  · rw [hpayments.outstanding, Nat.add_zero]
    exact houtstanding
  · intro hcap
    rw [hpayments.outstanding]
    show s.outstandingBridged token ≤ _
    omega
  · have hheld := hpayments.held
    change balance w.env ≤ _ at hheld
    split
    · rename_i heq
      rw [if_pos heq, if_pos heq] at hheld
      rw [heq] at hdecimals
      have hamount := deNormalizeAmount_eq_ok hamount
      rw [queryDecimals_token hn (hw' hw) hdecimals] at hamount
      omega
    · rename_i hne
      rw [if_neg hne, if_neg hne] at hheld
      omega

/-! ## Transferring tokens -/

theorem beginTransferTokens_eq_ok {frame : Frame}
    (h : beginTransferTokens env w sender asset amount = .ok (w', frame)) :
    tokenParameters w asset = .ok (frame.tokenChain, frame.tokenAddress) ∧
      queryDecimals env w asset = .ok frame.decimals ∧
      queryBalanceBefore env w frame.tokenChain asset = .ok frame.balanceBefore ∧
      safeTransferFrom env w asset sender w.bridge.self frame.amount = .ok w' := by
  simp only [beginTransferTokens, bind_eq_ok] at h
  obtain ⟨⟨tokenChain, tokenAddress⟩, hparameters, d, hdecimals, n, -, m, -, before, hbefore, w₁,
    htransfer, heq⟩ := h
  obtain ⟨rfl, rfl⟩ := Prod.mk.inj (Except.ok.inj heq)
  exact ⟨hparameters, hdecimals, hbefore, htransfer⟩

/-- What the rest of a transfer does, and which transfer it publishes. -/
theorem finishTransferTokens_eq_ok {frame : Frame} {recipientChain arbiterFee nonce value sequence : Nat}
    {recipient : Word} (h : finishTransferTokens env w frame asset recipientChain recipient arbiterFee
      nonce value = .ok (w', sequence)) :
    ∃ transfer w₁ taken s, takeTokens env w frame asset = .ok (w₁, taken) ∧
      transfer.tokenChain = frame.tokenChain ∧ transfer.tokenAddress = frame.tokenAddress ∧
      transfer.amount = taken / unit frame.decimals ∧
      trackOutstanding w₁.bridge frame.tokenChain asset transfer.amount = .ok s ∧
      logTransfer env { w₁ with bridge := s } transfer value nonce = .ok (w', sequence) := by
  simp only [finishTransferTokens, bind_eq_ok] at h
  obtain ⟨⟨w₁, taken⟩, htake, n, hnormal, arbiter, -, s, htrack, hlog⟩ := h
  exact ⟨_, w₁, taken, s, htake, rfl, rfl, normalizeAmount_eq_ok hnormal, htrack, hlog⟩

/-- An asset of this chain goes out under its own address, a wrapped one under its foreign chain. -/
theorem tokenParameters_eq_ok (hw : Wrapped token w) {tokenChain : Nat} {tokenAddress : Word}
    (h : tokenParameters w asset = .ok (tokenChain, tokenAddress)) :
    asset = token ∧ tokenChain = w.bridge.chainId ∧ tokenAddress = token.toWord ∨
      asset ≠ token ∧ (tokenChain = w.bridge.chainId ∨ tokenChain < 2 ^ 16) ∧
        (tokenChain ≠ w.bridge.chainId ∨ tokenAddress ≠ token.toWord) := by
  unfold tokenParameters at h
  split at h
  · rename_i hknown
    obtain ⟨t, ht, h⟩ := bind_eq_ok.mp h
    obtain ⟨rfl, rfl⟩ := Prod.mk.inj (Except.ok.inj h)
    have ht := tokenAt_eq_ok ht
    obtain ⟨-, hforeign, hlt⟩ := hw.foreign asset t ht
    refine .inr ⟨?_, .inr hlt, .inl hforeign⟩
    rintro rfl
    rw [hw.native] at ht
    cases ht
  · obtain ⟨rfl, rfl⟩ := Prod.mk.inj (Except.ok.inj h)
    by_cases heq : asset = token
    · exact .inl ⟨heq, rfl, congrArg _ heq⟩
    · exact .inr ⟨heq, .inl rfl, .inr fun hword => heq (toWord_injective hword)⟩

/-- **Transferring the token.** What arrives is measured, and what is sent out is no more than that. -/
theorem effect_transferTokens (hn : Native env bridge WETH token decimals balance)
    (hrec : Records env published) (hself : w.bridge.self = bridge) (hlt : w.bridge.chainId < 2 ^ 16)
    (hw : Wrapped token w) (hsender : sender ≠ w.bridge.self) {frame : Frame}
    {recipientChain arbiterFee nonce value sequence : Nat} {recipient : Word} {w'' : World ν}
    (hbegin : beginTransferTokens env w sender token amount = .ok (w', frame))
    (hfinish : finishTransferTokens env w' frame token recipientChain recipient arbiterFee nonce
      value = .ok (w'', sequence)) :
    ∃ payload, w''.bridge.completedTransfers = w.bridge.completedTransfers ∧
      Effect token balance published decimals [payload] (sentOut w.bridge.chainId token payload) 0 w w'' := by
  obtain ⟨hparameters, hdecimals, hbefore, harrive⟩ := beginTransferTokens_eq_ok hbegin
  obtain ⟨transfer, w₁, taken, s, htake, hchain, haddress, hamount, htrack, hlog⟩ :=
    finishTransferTokens_eq_ok hfinish
  have harrive := moves_safeTransferFrom hn hrec hself (hself ▸ hsender) harrive
  have hw' := harrive.wrapped hw
  rcases tokenParameters_eq_ok hw hparameters with ⟨-, hframe, hword⟩ | ⟨hne, -⟩
  swap
  · exact absurd rfl hne
  -- the two balances
  have hqueried : ∀ v : World ν, v.bridge.self = bridge → Wrapped token v →
      queryBalance env v token = .ok (balance v.env) := by
    intro v hv hwv
    unfold queryBalance
    rw [hwv.native]
    dsimp only
    rw [hv]
    exact hn.balanceOf v.env
  rw [queryBalanceBefore, if_pos hframe, hqueried w hself hw] at hbefore
  have hbefore := Except.ok.inj hbefore
  rw [takeTokens, if_pos (hframe.trans harrive.chainId.symm),
    hqueried w' (harrive.self.trans hself) hw'] at htake
  simp only [ok_bind, bind_eq_ok] at htake
  obtain ⟨arrived, hsub, htake⟩ := htake
  obtain ⟨rfl, rfl⟩ := Prod.mk.inj (Except.ok.inj htake)
  have hsub := subUint_eq_ok' hsub
  rw [trackOutstanding, if_pos (hframe.trans harrive.chainId.symm)] at htrack
  have hlogged := moves_logTransfer hn hrec hlog
  obtain ⟨hbooked, hcap⟩ := bridgeOut_eq_ok htrack
  refine ⟨encodeTransfer transfer, ?_, ?_⟩
  · rw [hlogged.completed, hbooked]
    exact harrive.completed
  · rw [sentOut_native hlt (hchain.trans hframe) (haddress.trans hword) (by omega)]
    have hunit : frame.decimals = decimals.toNat := queryDecimals_token hn hw hdecimals
    rw [hunit] at hamount
    have hle : transfer.amount * unit decimals.toNat ≤ arrived := by
      rw [hamount]
      exact Nat.div_mul_le_self arrived _
    refine Effect.log (effect_bridgeOut harrive htrack ?_ rfl) hlogged
    rw [if_pos rfl]
    omega

/-- **Transferring another asset**, after the calls that it made. -/
theorem effect_transferOther (hn : Native env bridge WETH token decimals balance)
    (hrec : Records env published) (hself : w.bridge.self = bridge) (hlt : w.bridge.chainId < 2 ^ 16)
    (hw : Wrapped token w) (hsender : sender ≠ w.bridge.self) (hne : asset ≠ token) {frame : Frame}
    (hbegin : beginTransferTokens env w sender asset amount = .ok (w', frame)) :
    Moves token balance published 0 [] w w' ∧
      ∀ {w₁ w'' : World ν} {recipientChain arbiterFee nonce value sequence : Nat} {recipient : Word},
        finishTransferTokens env w₁ frame asset recipientChain recipient arbiterFee nonce value =
          .ok (w'', sequence) →
        ∃ payload, sentOut w.bridge.chainId token payload = 0 ∧
          Moves token balance published 0 [payload] w₁ w'' := by
  obtain ⟨hparameters, -, -, harrive⟩ := beginTransferTokens_eq_ok hbegin
  refine ⟨moves_safeTransferFrom hn hrec hself (hself ▸ hsender) harrive, ?_⟩
  intro w₁ w'' recipientChain arbiterFee nonce value sequence recipient hfinish
  obtain ⟨transfer, w₂, taken, s, htake, hchain, haddress, -, htrack, hlog⟩ :=
    finishTransferTokens_eq_ok hfinish
  refine ⟨encodeTransfer transfer, ?_, ?_⟩
  · rcases tokenParameters_eq_ok hw hparameters with ⟨heq, -⟩ | ⟨-, hbound, hother⟩
    · exact absurd heq hne
    · have hframe : frame.tokenChain < 2 ^ 16 := by
        rcases hbound with hown | hforeign
        · rw [hown]
          exact hlt
        · exact hforeign
      rw [sentOut_encodeTransfer (hchain ▸ hframe), hchain, haddress]
      exact if_neg fun hand => hother.elim (fun h => h hand.1) (fun h => h hand.2)
  · have htracked : Moves token balance published 0 [] w₂ { w₂ with bridge := s } := by
      unfold trackOutstanding at htrack
      split at htrack
      · rw [(bridgeOut_eq_ok htrack).1]
        exact .outstandingOther hne
      · rw [← Except.ok.inj htrack]
        exact .refl w₂
    exact ((moves_takeTokens htake).trans htracked).trans (moves_logTransfer hn hrec hlog)

end Calls

/-! ## Runs -/

/-- The books and the holding agree with what was published and with the completions in the log. -/
structure Accounted (bridge WETH token : Address) (chainId : Nat) (balance : ν → Nat)
    (published : ν → List (List UInt8)) (decimals : UInt8) (s : World ν × List Completion) : Prop where
  self : s.1.bridge.self = bridge
  chainId_eq : s.1.bridge.chainId = chainId
  WETH_eq : s.1.bridge.WETH = WETH
  wrapped : Wrapped token s.1
  outstanding : s.1.bridge.outstandingBridged token + (s.2.map (takenBack chainId token)).sum =
    ((published s.1.env).map (sentOut chainId token)).sum
  cap : s.1.bridge.outstandingBridged token ≤ 2 ^ 64 - 1
  held : s.1.bridge.outstandingBridged token * unit decimals.toNat ≤ balance s.1.env
  nodup : (s.2.map Prod.fst).Nodup
  completed : ∀ hash ∈ s.2.map Prod.fst, s.1.bridge.completedTransfers hash = true

namespace Accounted

variable {bridge WETH token : Address} {chainId : Nat} {balance : ν → Nat}
  {published : ν → List (List UInt8)} {decimals : UInt8} {payloads : List (List UInt8)} {w w' : World ν}
  {log : List Completion}

/-- A call with what it publishes and completes. -/
theorem effect (h : Accounted bridge WETH token chainId balance published decimals (w, log))
    {out back : Nat} (heffect : Effect token balance published decimals payloads out back w w')
    {completed : List Completion} (hout : (payloads.map (sentOut chainId token)).sum = out)
    (hback : (completed.map (takenBack chainId token)).sum = back)
    (hnodup : ((log ++ completed).map Prod.fst).Nodup)
    (hcompleted : ∀ hash ∈ (log ++ completed).map Prod.fst, w'.bridge.completedTransfers hash = true) :
    Accounted bridge WETH token chainId balance published decimals (w', log ++ completed) where
  self := heffect.self.trans h.self
  chainId_eq := heffect.chainId.trans h.chainId_eq
  WETH_eq := heffect.WETH.trans h.WETH_eq
  wrapped := heffect.wrapped h.wrapped
  outstanding := by
    have hbefore := h.outstanding
    have hbooked := heffect.outstanding
    dsimp only at hbefore ⊢
    rw [heffect.published, List.map_append, List.map_append, List.sum_append, List.sum_append, hout, hback]
    omega
  cap := heffect.cap h.cap
  held := by
    have hbefore := h.held
    have hheld := heffect.held
    have hbooked := congrArg (· * unit decimals.toNat) heffect.outstanding
    simp only [Nat.add_mul] at hbooked
    dsimp only at hbefore ⊢
    omega
  nodup := hnodup
  completed := hcompleted

/-- A call that completes nothing. -/
theorem effect_sent (h : Accounted bridge WETH token chainId balance published decimals (w, log)) {out : Nat}
    (heffect : Effect token balance published decimals payloads out 0 w w')
    (hout : (payloads.map (sentOut chainId token)).sum = out)
    (hcompleted : w'.bridge.completedTransfers = w.bridge.completedTransfers) :
    Accounted bridge WETH token chainId balance published decimals (w', log) := by
  rw [← List.append_nil log]
  refine h.effect heffect hout rfl ?_ ?_
  · rw [List.append_nil]
    exact h.nodup
  · rw [List.append_nil, hcompleted]
    exact h.completed

/-- A call that moves nothing of the token. -/
theorem moves (h : Accounted bridge WETH token chainId balance published decimals (w, log))
    (hmoves : Moves token balance published 0 payloads w w')
    (hout : (payloads.map (sentOut chainId token)).sum = 0) :
    Accounted bridge WETH token chainId balance published decimals (w', log) :=
  h.effect_sent hmoves.effect hout hmoves.completed

/-- The same, as the log has it. -/
theorem quiet (h : Accounted bridge WETH token chainId balance published decimals (w, log))
    (hmoves : Moves token balance published 0 payloads w w')
    (hout : (payloads.map (sentOut chainId token)).sum = 0) {completed : List Completion}
    (hnone : completed = []) :
    Accounted bridge WETH token chainId balance published decimals (w', log ++ completed) := by
  rw [hnone, List.append_nil]
  exact h.moves hmoves hout

/-- **Completions.** -/
theorem completeTransfer (hn : Native env bridge WETH token decimals balance) (hrec : Records env published)
    (h : Accounted bridge WETH token chainId balance published decimals (w, log)) {vm : VM}
    {valid unwrapWETH : Bool} {reason : String} {sender : Address}
    (hcall : Bridge.completeTransfer env w vm valid reason sender unwrapWETH = .ok w') :
    Accounted bridge WETH token chainId balance published decimals
      (w', log ++ completions w (.completeTransfer vm valid reason sender unwrapWETH)) := by
  obtain ⟨transfer, hparse, hfresh, hcompleted, heffect⟩ :=
    effect_completeTransfer hn hrec h.WETH_eq h.wrapped hcall
  have hchain : w.bridge.chainId = chainId := h.chainId_eq
  rw [hchain] at heffect
  rw [completions, hparse]
  dsimp only
  have hhashes : (log ++ [(vm.hash, transfer)]).map Prod.fst = log.map Prod.fst ++ [vm.hash] := by
    simp
  have hnew : vm.hash ∉ log.map Prod.fst := by
    intro hmem
    have htrue := h.completed vm.hash hmem
    dsimp only at htrue
    rw [hfresh] at htrue
    cases htrue
  refine h.effect heffect rfl (by simp) ?_ ?_
  · rw [hhashes, List.nodup_append]
    refine ⟨h.nodup, List.nodup_singleton _, ?_⟩
    intro a ha b hb heq
    rw [heq, List.mem_singleton.mp hb] at ha
    exact hnew ha
  · rw [hhashes, hcompleted]
    intro hash hmem
    by_cases heq : hash = vm.hash
    · rw [heq, Function.update_self]
    · rw [Function.update_of_ne heq]
      rcases List.mem_append.mp hmem with hold | hlast
      · exact h.completed hash hold
      · exact absurd (List.mem_singleton.mp hlast) heq

/-- **Calls.** -/
theorem call (hn : Native env bridge WETH token decimals balance) (hrec : Records env published)
    (hlt : chainId < 2 ^ 16) {s t : World ν × List Completion} {c : Call ν}
    (h : Accounted bridge WETH token chainId balance published decimals s)
    (hadmissible : Admissible balance published s.1 c)
    (hcall : logging (Bridge.call env) completions s c = some t) :
    Accounted bridge WETH token chainId balance published decimals t := by
  obtain ⟨w, log⟩ := s
  obtain ⟨w', log'⟩ := t
  rw [logging_eq_some] at hcall
  obtain ⟨hcall, hlog⟩ := hcall
  dsimp only at hcall hlog
  subst hlog
  have hchain : w.bridge.chainId = chainId := h.chainId_eq
  cases c with
  | attestToken tokenAddress nonce value =>
    obtain ⟨⟨w₁, sequence⟩, hattest, rfl⟩ := map_toOption_eq_some hcall
    simp only [attestToken, bind_eq_ok] at hattest
    obtain ⟨_, -, _, -, _, -, hpublish⟩ := hattest
    exact h.quiet (moves_publishMessage hn hrec hpublish) (by simp [sentOut_encodeAssetMeta]) rfl
  | wrapAndTransferETH sender value recipientChain recipient arbiterFee nonce =>
    obtain ⟨⟨w₁, sequence⟩, hwrap, rfl⟩ := map_toOption_eq_some hcall
    obtain ⟨payload, hcompleted, heffect⟩ :=
      effect_wrapAndTransferETH hn hrec h.WETH_eq (hchain ▸ hlt) hwrap
    rw [hchain] at heffect
    have hsent := h.effect_sent heffect (by simp) hcompleted
    rwa [← List.append_nil log] at hsent
  | updateWrapped vm valid reason =>
    obtain ⟨⟨w₁, wrapped⟩, hupdate, rfl⟩ := map_toOption_eq_some hcall
    exact h.quiet (moves_updateWrapped hupdate) rfl rfl
  | createWrapped vm valid reason =>
    obtain ⟨⟨w₁, wrapped⟩, hcreate, rfl⟩ := map_toOption_eq_some hcall
    exact h.quiet (moves_createWrapped hn hcreate) rfl rfl
  | completeTransfer vm valid reason sender unwrapWETH =>
    exact h.completeTransfer hn hrec (toOption_eq_some hcall)
  | registerChain vm valid reason =>
    obtain ⟨s, hregister, rfl⟩ := map_toOption_eq_some hcall
    exact h.quiet (moves_registerChain hregister) rfl rfl
  | token sender asset c =>
    simp only [Bridge.call] at hcall
    split at hcall
    · cases hcall
    · obtain ⟨t, ht, hrun⟩ := bind_eq_ok.mp (toOption_eq_some hcall)
      obtain ⟨t', hcalled, rfl⟩ := map_eq_ok.mp hrun
      have ht := tokenAt_eq_ok ht
      have hinitialized := (h.wrapped.foreign asset t ht).1
      exact h.quiet (.setToken ht (TokenImplementation.Call.run_sameOrigin hinitialized hcalled)) rfl rfl
  | rest e =>
    rw [← Option.some.inj hcall]
    exact h.quiet (.quietRest hadmissible.1 hadmissible.2) rfl rfl

/-- **Transactions.** -/
theorem step (hn : Native env bridge WETH token decimals balance) (hrec : Records env published)
    (hlt : chainId < 2 ^ 16) {s t : World ν × List Completion}
    (h : Accounted bridge WETH token chainId balance published decimals s)
    (hstep : TokenStep env token balance published s t) :
    Accounted bridge WETH token chainId balance published decimals t := by
  cases hstep with
  | call hadmissible hcall => exact h.call hn hrec hlt hadmissible hcall
  | @transferTokens w w₁ log t frame sender asset amount recipientChain recipient arbiterFee nonce value
      sequence hsender hbegin hcalls w₂ hfinish =>
    have hchain : w.bridge.chainId = chainId := h.chainId_eq
    by_cases heq : asset = token
    · -- the token calls nobody
      subst heq
      have ht : t = (w₁, log) := by
        rcases Relation.ReflTransGen.cases_head hcalls with heq | ⟨_, ⟨c, ⟨hne, -⟩, -⟩, -⟩
        · exact heq.symm
        · exact absurd rfl hne
      subst ht
      obtain ⟨payload, hcompleted, heffect⟩ :=
        effect_transferTokens hn hrec h.self (hchain ▸ hlt) h.wrapped hsender hbegin hfinish
      rw [hchain] at heffect
      exact h.effect_sent heffect (by simp) hcompleted
    · obtain ⟨hmoves, hrest⟩ :=
        effect_transferOther hn hrec h.self (hchain ▸ hlt) h.wrapped hsender heq hbegin
      have hnested := hcalls.invariant
        (fun _ _ _ hs hok hcall => Accounted.call hn hrec hlt hs hok.2.2 hcall) (h.moves hmoves rfl)
      obtain ⟨payload, hout, hmoves'⟩ := hrest hfinish
      rw [hchain] at hout
      exact hnested.moves hmoves' (by simp [hout])

end Accounted

/-- What a completion of `amount` normalised units has booked when it pays. -/
def booked (w : World ν) (hash : List UInt8) (token : Address) (amount : Nat) : World ν :=
  let s := setTransferCompleted w.bridge hash
  { w with bridge := setOutstandingBridged s token (s.outstandingBridged token - amount) }

/-- **The accounts of a native token.** In every run: what is outstanding is what the published messages
sent out minus what was completed, within 64 bits; the bridge holds it; no message is completed twice; and
a completion pays a fee and a rest that add up to the amount of its message. -/
theorem tokens_accounted {bridge WETH token : Address} {decimals : UInt8} {balance : ν → Nat}
    {published : ν → List (List UInt8)} (hn : Native env bridge WETH token decimals balance)
    (hrec : Records env published) {w₀ w : World ν} {log : List Completion} (hfresh : Fresh w₀)
    (hself : w₀.bridge.self = bridge) (hWETH : w₀.bridge.WETH = WETH) (hlt : w₀.bridge.chainId < 2 ^ 16)
    (hnone : published w₀.env = [])
    (hrun : Relation.ReflTransGen (TokenStep env token balance published) (w₀, []) (w, log)) :
    w.bridge.outstandingBridged token + (log.map (takenBack w.bridge.chainId token)).sum =
        ((published w.env).map (sentOut w.bridge.chainId token)).sum ∧
      w.bridge.outstandingBridged token ≤ 2 ^ 64 - 1 ∧
      (∃ held, queryBalance env w token = .ok held ∧
        w.bridge.outstandingBridged token * unit decimals.toNat ≤ held) ∧
      (log.map Prod.fst).Nodup ∧
      ∀ vm valid reason sender unwrapWETH w',
        completeTransfer env w vm valid reason sender unwrapWETH = .ok w' →
        vm.hash ∉ log.map Prod.fst ∧
        ∃ transfer, parseTransfer vm.payload = .ok transfer ∧
          (transfer.tokenChain = w.bridge.chainId → transfer.tokenAddress.toAddress = token →
            ∃ nativeAmount nativeFee payment w₁,
              deNormalizeAmount transfer.amount decimals.toNat = .ok nativeAmount ∧
              deNormalizeAmount transfer.fee decimals.toNat = .ok nativeFee ∧
              nativeFee + payment = nativeAmount ∧
              payFee env (booked w vm.hash token transfer.amount) unwrapWETH transfer.tokenChain token
                sender nativeFee nativeAmount = .ok w₁ ∧
              pay env w₁ unwrapWETH transfer.tokenChain token transfer.recipient.toAddress payment =
                .ok w') := by
  have hstart :
      Accounted bridge WETH token w₀.bridge.chainId balance published decimals (w₀, []) := by
    refine ⟨hself, rfl, hWETH, ⟨hfresh.tokens token, ?_, ?_, ?_⟩, ?_, ?_, ?_, List.nodup_nil, ?_⟩
    · intro asset t ht
      rw [hfresh.tokens] at ht
      cases ht
    · intro asset hknown
      rw [hfresh.isWrappedAsset] at hknown
      cases hknown
    · intro tokenChain tokenAddress hne
      exact absurd (hfresh.wrappedAssets tokenChain tokenAddress) hne
    · dsimp only
      rw [hfresh.outstandingBridged, hnone]
      rfl
    · dsimp only
      rw [hfresh.outstandingBridged]
      exact Nat.zero_le _
    · dsimp only
      rw [hfresh.outstandingBridged, Nat.zero_mul]
      exact Nat.zero_le _
    · intro hash hmem
      cases hmem
  have hend : Accounted bridge WETH token w₀.bridge.chainId balance published decimals (w, log) :=
    Relation.ReflTransGen.head_induction_on
      (motive := fun s _ => Accounted bridge WETH token w₀.bridge.chainId balance published decimals s →
        Accounted bridge WETH token w₀.bridge.chainId balance published decimals (w, log))
      hrun (fun h => h) (fun hstep _ ih h => ih (h.step hn hrec hlt hstep)) hstart
  have hchain : w.bridge.chainId = w₀.bridge.chainId := hend.chainId_eq
  have hbalance : queryBalance env w token = .ok (balance w.env) := by
    unfold queryBalance
    rw [hend.wrapped.native, hend.self]
    exact hn.balanceOf w.env
  rw [hchain]
  refine ⟨hend.outstanding, hend.cap, ⟨_, hbalance, hend.held⟩, hend.nodup, ?_⟩
  intro vm valid reason sender unwrapWETH w' h
  obtain ⟨transfer, s, asset, d, nativeAmount, nativeFee, payment, w₁, hparse, hnew, htoken, -, hdecimals,
    hamount, hfee, hsum, hpayFee, hpay⟩ := completeTransfer_eq_ok h
  refine ⟨?_, transfer, hparse, ?_⟩
  · intro hmem
    have htrue := hend.completed vm.hash hmem
    dsimp only at htrue
    rw [hnew] at htrue
    cases htrue
  · intro htokenChain haddress
    rcases transferTokenOf_eq_ok htoken with ⟨-, rfl, -, rfl⟩ | ⟨hforeign, -⟩
    · rw [haddress] at hdecimals hpayFee hpay
      have hw : Wrapped token (booked w vm.hash token transfer.amount) :=
        ⟨hend.wrapped.native, hend.wrapped.foreign, hend.wrapped.known, hend.wrapped.assets⟩
      rw [queryDecimals_token hn hw hdecimals] at hamount hfee
      exact ⟨nativeAmount, nativeFee, payment, w₁, hamount, hfee, hsum, hpayFee, hpay⟩
    · exact absurd (htokenChain.trans hchain.symm) hforeign

/-! ## Inputs -/

def sampleSelf : Address := ⟨List.replicate 20 0xbb, rfl⟩

def sampleWETH : Address := ⟨List.replicate 20 0xee, rfl⟩

/-- A chain with no token but WETH; its state is what the bridge holds of it. -/
def sampleWETHEnvironment : Environment Nat where
  hasCode := fun _ account => account = sampleWETH
  decimals := fun _ token => if token = sampleWETH then .ok 18 else .error ""
  symbol := fun _ _ => .error ""
  name := fun _ _ => .error ""
  balanceOf := fun held token account =>
    if token = sampleWETH ∧ account = sampleSelf then .ok held else .error ""
  safeTransferFrom := fun held token sender recipient amount =>
    if token = sampleWETH ∧ sender ≠ sampleSelf then
      .ok (if recipient = sampleSelf then held + amount else held)
    else .error ""
  safeTransfer := fun held token _ amount =>
    if token = sampleWETH ∧ amount ≤ held then .ok (held - amount) else .error ""
  messageFee := fun _ => .ok 0
  deposit := fun held amount => .ok (held + amount)
  withdraw := fun held amount => if amount ≤ held then .ok (held - amount) else .error ""
  sendEther := fun held _ _ => .ok held
  publishMessage := fun held _ _ _ _ => .ok (0, held)
  create2 := fun _ _ _ _ _ _ => ⟨List.replicate 20 0xcc, rfl⟩
  memory := zeroWord

theorem sampleWETHEnvironment_native :
    Native sampleWETHEnvironment sampleSelf sampleWETH sampleWETH 18 id where
  hasCode := fun _ => by simp [sampleWETHEnvironment]
  decimals_eq := fun _ => rfl
  balanceOf := fun _ => rfl
  safeTransferFrom := by
    intro e e' asset sender amount _ h
    simp only [sampleWETHEnvironment] at h
    split at h
    · rw [← Except.ok.inj h, if_pos trivial]
      exact Nat.le_add_right e amount
    · cases h
  safeTransfer := by
    intro e e' asset recipient amount h
    simp only [sampleWETHEnvironment] at h
    split at h
    · rename_i hpaid
      rw [← Except.ok.inj h, if_pos hpaid.1]
      exact (Nat.sub_add_cancel hpaid.2).ge
    · cases h
  deposit := by
    intro e e' amount h
    rw [← Except.ok.inj h, if_pos rfl]
    exact le_rfl
  withdraw := by
    intro e e' amount h
    simp only [sampleWETHEnvironment] at h
    split at h
    · rename_i hpaid
      rw [← Except.ok.inj h, if_pos rfl]
      exact (Nat.sub_add_cancel hpaid).ge
    · cases h
  weth := fun _ => rfl
  sendEther := by
    intro e e' recipient amount h
    exact (Except.ok.inj h).le
  publishMessage := by
    intro e value nonce payload level sequence e' h
    exact (Prod.mk.inj (Except.ok.inj h)).2.le

theorem sampleGovernance_length : (List.replicate 32 (0x04 : UInt8)).length = 32 := rfl

/-- The token bridge of chain 4, as deployed. -/
def sampleWETHWorld : World Nat where
  bridge := {
    self := sampleSelf
    chainId := 4
    governanceChainId := 1
    governanceContract := ⟨List.replicate 32 0x04, sampleGovernance_length⟩
    WETH := sampleWETH
    consumedGovernanceActions := fun _ => false
    completedTransfers := fun _ => false
    wrappedAssets := fun _ _ => zeroAddress
    isWrappedAsset := fun _ => false
    outstandingBridged := fun _ => 0
    bridgeImplementations := fun _ => zeroWord }
  tokens := fun _ => none
  env := 0

/-- A message of the emitter `0x08…` on a chain. -/
def sampleVM (chainId : Nat) (emitter payload hash : List UInt8) : VM where
  version := 1
  timestamp := 0
  nonce := 0
  emitterChainId := chainId
  emitterAddress := emitter
  sequence := 0
  consistencyLevel := 15
  payload := payload
  guardianSetIndex := 0
  signatures := []
  hash := hash

/-- The same chain and bridge, with a record of what is published. -/
def sampleRecorded : World (Nat × List (List UInt8)) :=
  { bridge := sampleWETHWorld.bridge, tokens := sampleWETHWorld.tokens, env := (0, []) }

/-- Governance registers chain 2; three units of ether and some dust go out; two come back. -/
def sampleTransfers : List (Call (Nat × List (List UInt8))) := [
  .registerChain (sampleVM 1 (List.replicate 32 0x04)
    (module ++ [0x01, 0x00, 0x00, 0x00, 0x02] ++ List.replicate 32 0x08) [0x01]) true "",
  .wrapAndTransferETH zeroAddress 30000000005 2 zeroWord 0 0,
  .completeTransfer (sampleVM 2 (List.replicate 32 0x08)
    (encodeTransfer {
      amount := 2, tokenAddress := sampleWETH.toWord, tokenChain := 4, recipient := zeroWord,
      toChain := 4, fee := 1 }) [0x02]) true "" zeroAddress true]

/-- The calls one after another are transactions. -/
theorem transactions {token : Address} {balance : ν → Nat} {published : ν → List (List UInt8)}
    {s t : World ν × List Completion}
    (h : Run (logging (call env) completions) (fun s c => Admissible balance published s.1 c) s t) :
    Relation.ReflTransGen (TokenStep env token balance published) s t := by
  induction h with
  | refl => exact .refl
  | tail _ hlast ih =>
    obtain ⟨c, hadmissible, hcall⟩ := hlast
    exact ih.tail (.call hadmissible hcall)

/-- The bridge after these. -/
def sampleTransferred : World (Nat × List (List UInt8)) × List Completion :=
  attempts (logging (call (recording sampleWETHEnvironment)) completions) (sampleRecorded, [])
    sampleTransfers

theorem sampleTransferred_run :
    Relation.ReflTransGen
      (TokenStep (recording sampleWETHEnvironment) sampleWETH (fun e => e.1) Prod.snd) (sampleRecorded, [])
      (sampleTransferred.1, sampleTransferred.2) := by
  have hrun : Run (logging (call (recording sampleWETHEnvironment)) completions)
      (fun _ c => ∀ e, c ≠ Call.rest e) (sampleRecorded, []) sampleTransferred :=
    run_attempts (P := fun c => ∀ e, c ≠ Call.rest e) _ sampleTransfers (by simp [sampleTransfers])
  rw [Prod.mk.eta]
  refine transactions (hrun.mono ?_)
  intro s c hc
  cases c with
  | rest e => exact absurd rfl (hc e)
  | _ => trivial

/-- Three units were sent out and two came back: the message published says so. -/
theorem tokens_accounted_sample :
    sampleTransferred.1.bridge.outstandingBridged sampleWETH = 1 ∧
      sampleTransferred.1.env.1 = 10000000000 ∧ sampleTransferred.2.map Prod.fst = [[0x02]] ∧
      sampleTransferred.1.env.2.map (sentOut 4 sampleWETH) = [3] ∧
      1 + 2 = (sampleTransferred.1.env.2.map
        (sentOut sampleTransferred.1.bridge.chainId sampleWETH)).sum := by
  have hfresh : Fresh sampleRecorded := ⟨rfl, fun _ => rfl, fun _ _ => rfl, fun _ => rfl, fun _ => rfl⟩
  have hchain : sampleRecorded.bridge.chainId < 2 ^ 16 := by decide
  have hone : sampleTransferred.1.bridge.outstandingBridged sampleWETH = 1 := by decide +kernel
  have htwo : (sampleTransferred.2.map
      (takenBack sampleTransferred.1.bridge.chainId sampleWETH)).sum = 2 := by decide +kernel
  obtain ⟨hbooks, -⟩ := tokens_accounted sampleWETHEnvironment_native.recording
    (recording_records sampleWETHEnvironment) hfresh rfl rfl hchain rfl sampleTransferred_run
  rw [hone, htwo] at hbooks
  exact ⟨hone, by decide +kernel, by decide +kernel, by decide +kernel, hbooks⟩

end Bridge

end Wormhole.Ethereum

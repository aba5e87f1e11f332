/-
# Wormhole.Ethereum.TokenCalls — how the token bridge calls the wrapped tokens.

Everything that happens to a wrapped token contract after its deployment is a call of one of its functions.
`Calls` lists the calls that lead from one world to the next, when the bridge's registry of wrapped
assets stays as it is; there is one lemma for each function of the bridge.  Only `mint` and `burn` change
a supply (`minted`, `burned`), and only transfers that are completed and `transferTokens` make such calls.
-/
import Mathlib
import Wormhole.Lib.Failing
import Wormhole.Lib.Totals
import Wormhole.Ethereum.Accounting
import Wormhole.Ethereum.Bridge
import Wormhole.Ethereum.TokenImplementation

namespace Wormhole.Ethereum

open Wormhole.Lib Wormhole.Lib.Failing

/-! ## The supply of a token -/

namespace TokenImplementation

/-- The amount a call mints. -/
def Call.minted : Call → Nat
  | .mint _ amount => amount
  | _ => 0

/-- The amount a call burns. -/
def Call.burned : Call → Nat
  | .burn _ amount => amount
  | _ => 0

/-- The supply is what the accounts hold. -/
def Supplied (s : State) : Prop := Total s.balances s.totalSupply

variable {s s' : State} {msgSender sender recipient : Address} {amount : Nat}

theorem moveTokens_supply (hs : Supplied s) (h : moveTokens s sender recipient amount = .ok s') :
    Supplied s' ∧ s'.totalSupply = s.totalSupply := by
  obtain ⟨hle, rfl⟩ := moveTokens_eq_ok h
  exact ⟨hs.move sender recipient hle, rfl⟩

theorem setAllowance_supply {owner spender : Address} (hs : Supplied s)
    (h : setAllowance s owner spender amount = .ok s') : Supplied s' ∧ s'.totalSupply = s.totalSupply := by
  rw [setAllowance_eq_ok h]
  exact ⟨hs, rfl⟩

/-- **Step.** A call keeps the supply the sum of the balances, and changes it by what it mints or burns. -/
theorem Call.run_supply {c : Call} (hs : Supplied s) (h : c.run s msgSender = .ok s') :
    Supplied s' ∧ s'.totalSupply + c.burned = s.totalSupply + c.minted := by
  cases c with
  | initializeContract =>
    obtain ⟨-, rfl⟩ := initializeContract_eq_ok h
    exact ⟨hs, rfl⟩
  | transfer => exact moveTokens_supply hs h
  | approve => exact setAllowance_supply hs h
  | transferFrom sender recipient amount =>
    obtain ⟨hle, hs'⟩ := transferFrom_eq_ok h
    rw [hs']
    exact ⟨hs.move sender recipient hle, rfl⟩
  | increaseAllowance =>
    obtain ⟨_, -, h⟩ := bind_eq_ok.mp h
    exact setAllowance_supply hs h
  | decreaseAllowance =>
    obtain ⟨_, -, h⟩ := bind_eq_ok.mp h
    exact setAllowance_supply hs h
  | mint account amount =>
    obtain ⟨-, rfl⟩ := mint_eq_ok h
    exact ⟨hs.add account amount, rfl⟩
  | burn account amount =>
    obtain ⟨-, hle, rfl⟩ := burn_eq_ok h
    have htotal := hs.le account
    refine ⟨hs.sub account hle, ?_⟩
    show s.totalSupply - amount + amount = s.totalSupply
    omega
  | updateDetails =>
    rw [updateDetails_eq_ok h]
    exact ⟨hs, rfl⟩

/-- Only the owner mints and burns. -/
theorem Call.run_owner {c : Call} (h : c.run s msgSender = .ok s') :
    s.owner = msgSender ∨ c.minted = 0 ∧ c.burned = 0 := by
  cases c with
  | mint => exact .inl (mint_eq_ok h).1
  | burn => exact .inl (burn_eq_ok h).1
  | _ => exact .inr ⟨rfl, rfl⟩

end TokenImplementation

namespace Bridge

/-! ## Traces of calls -/

variable {ν : Type} {env : Environment ν}

/-- A call of a wrapped token contract. -/
structure TokenCall where
  token : Address
  sender : Address
  call : TokenImplementation.Call

/-- What calls mint of a token. -/
def minted (token : Address) (calls : List TokenCall) : Nat :=
  (calls.map fun c => if c.token = token then c.call.minted else 0).sum

/-- What calls burn of a token. -/
def burned (token : Address) (calls : List TokenCall) : Nat :=
  (calls.map fun c => if c.token = token then c.call.burned else 0).sum

/-- Calls that change no supply. -/
def Quiet (calls : List TokenCall) : Prop := ∀ c ∈ calls, c.call.minted = 0 ∧ c.call.burned = 0

/-- The registry of wrapped assets, and what the bridge is. -/
structure SameRegistry (s t : State) : Prop where
  self : t.self = s.self
  chainId : t.chainId = s.chainId
  WETH : t.WETH = s.WETH
  wrappedAssets : t.wrappedAssets = s.wrappedAssets
  isWrappedAsset : t.isWrappedAsset = s.isWrappedAsset

/-- The calls of wrapped token contracts between two worlds. -/
inductive Calls : World ν → List TokenCall → World ν → Prop where
  | rest {w w' : World ν} (hbridge : SameRegistry w.bridge w'.bridge) (htokens : w'.tokens = w.tokens) :
      Calls w [] w'
  | token {w : World ν} {token sender : Address} {call : TokenImplementation.Call}
      {t t' : TokenImplementation.State} (ht : w.tokens token = some t) (hcall : call.run t sender = .ok t') :
      Calls w [{ token, sender, call }] (w.setToken token t')
  | trans {w w' w'' : World ν} {calls calls' : List TokenCall} (h : Calls w calls w')
      (h' : Calls w' calls' w'') : Calls w (calls ++ calls') w''

section Lists

variable {token : Address} {calls calls' : List TokenCall}

theorem minted_append : minted token (calls ++ calls') = minted token calls + minted token calls' := by
  rw [minted, List.map_append, List.sum_append]
  rfl

theorem burned_append : burned token (calls ++ calls') = burned token calls + burned token calls' := by
  rw [burned, List.map_append, List.sum_append]
  rfl

theorem Quiet.nil : Quiet [] := nofun

theorem Quiet.append (h : Quiet calls) (h' : Quiet calls') : Quiet (calls ++ calls') := by
  intro c hc
  rcases List.mem_append.mp hc with hc | hc
  · exact h c hc
  · exact h' c hc

theorem Quiet.singleton {c : TokenCall} (hminted : c.call.minted = 0) (hburned : c.call.burned = 0) :
    Quiet [c] := by
  intro c' hc'
  rw [List.mem_singleton.mp hc']
  exact ⟨hminted, hburned⟩

theorem Quiet.supply (h : Quiet calls) (token : Address) : minted token calls = 0 ∧ burned token calls = 0 := by
  induction calls with
  | nil => exact ⟨rfl, rfl⟩
  | cons c calls ih =>
    obtain ⟨hminted, hburned⟩ := h c List.mem_cons_self
    obtain ⟨ihminted, ihburned⟩ := ih fun c' hc' => h c' (List.mem_cons_of_mem c hc')
    rw [minted] at ihminted ⊢
    rw [burned] at ihburned ⊢
    rw [List.map_cons, List.sum_cons, List.map_cons, List.sum_cons, ihminted, ihburned, hminted, hburned]
    simp

end Lists

/-! ## What calls keep -/

namespace SameRegistry

theorem refl (s : State) : SameRegistry s s := ⟨rfl, rfl, rfl, rfl, rfl⟩

theorem trans {s t u : State} (h : SameRegistry s t) (h' : SameRegistry t u) : SameRegistry s u :=
  ⟨h'.self.trans h.self, h'.chainId.trans h.chainId, h'.WETH.trans h.WETH,
    h'.wrappedAssets.trans h.wrappedAssets, h'.isWrappedAsset.trans h.isWrappedAsset⟩

end SameRegistry

namespace Calls

variable {w w' : World ν} {calls : List TokenCall} {token : Address} {t : TokenImplementation.State}

theorem sameRegistry (h : Calls w calls w') : SameRegistry w.bridge w'.bridge := by
  induction h with
  | rest hbridge => exact hbridge
  | token => exact .refl _
  | trans _ _ ih ih' => exact ih.trans ih'

/-- A contract that is there stays, with its constants. -/
theorem sameContract (h : Calls w calls w') (ht : w.tokens token = some t) (hinit : t.initialized = true) :
    ∃ t', w'.tokens token = some t' ∧ TokenImplementation.SameContract t t' := by
  induction h generalizing t with
  | rest _ htokens => exact ⟨t, by rw [htokens, ht], ⟨rfl, rfl, rfl, rfl, rfl⟩⟩
  | @token w asset sender call t₁ t₁' ht₁ hcall =>
    by_cases ha : token = asset
    · subst ha
      obtain rfl : t = t₁ := Option.some.inj (ht.symm.trans ht₁)
      exact ⟨t₁', Function.update_self .., call.run_sameContract hinit hcall⟩
    · refine ⟨t, ?_, ⟨rfl, rfl, rfl, rfl, rfl⟩⟩
      rw [← ht]
      exact Function.update_of_ne ha ..
  | trans _ _ ih ih' =>
    obtain ⟨t', ht', hsame⟩ := ih ht hinit
    obtain ⟨t'', ht'', hsame'⟩ := ih' ht' (hsame.initialized.trans hinit)
    exact ⟨t'', ht'', hsame'.decimals.trans hsame.decimals, hsame'.owner.trans hsame.owner,
      hsame'.initialized.trans hsame.initialized, hsame'.chainId.trans hsame.chainId,
      hsame'.nativeContract.trans hsame.nativeContract⟩

/-- A contract that is not there is not called. -/
theorem absent (h : Calls w calls w') (ht : w.tokens token = none) :
    w'.tokens token = none ∧ minted token calls = 0 ∧ burned token calls = 0 := by
  induction h with
  | rest _ htokens => exact ⟨by rw [htokens, ht], rfl, rfl⟩
  | @token w asset sender call t₁ t₁' ht₁ _ =>
    have ha : token ≠ asset := by
      rintro rfl
      rw [ht] at ht₁
      cases ht₁
    refine ⟨?_, ?_, ?_⟩
    · rw [← ht]
      exact Function.update_of_ne ha ..
    · simp [minted, Ne.symm ha]
    · simp [burned, Ne.symm ha]
  | trans _ _ ih ih' =>
    obtain ⟨ht', hminted, hburned⟩ := ih ht
    obtain ⟨ht'', hminted', hburned'⟩ := ih' ht'
    exact ⟨ht'', by rw [minted_append, hminted, hminted'], by rw [burned_append, hburned, hburned']⟩

/-- **The supply over several calls.** -/
theorem supply (h : Calls w calls w') (ht : w.tokens token = some t) (hs : TokenImplementation.Supplied t) :
    ∃ t', w'.tokens token = some t' ∧ TokenImplementation.Supplied t' ∧
      t'.totalSupply + burned token calls = t.totalSupply + minted token calls := by
  induction h generalizing t with
  | rest _ htokens => exact ⟨t, by rw [htokens, ht], hs, rfl⟩
  | @token w asset sender call t₁ t₁' ht₁ hcall =>
    by_cases ha : asset = token
    · subst ha
      obtain rfl : t = t₁ := Option.some.inj (ht.symm.trans ht₁)
      obtain ⟨hs', hsupply⟩ := call.run_supply hs hcall
      refine ⟨t₁', Function.update_self .., hs', ?_⟩
      simpa [minted, burned] using hsupply
    · refine ⟨t, ?_, hs, ?_⟩
      · rw [← ht]
        exact Function.update_of_ne (Ne.symm ha) ..
      · simp [minted, burned, ha]
  | trans _ _ ih ih' =>
    obtain ⟨t', ht', hs', hsupply⟩ := ih ht hs
    obtain ⟨t'', ht'', hs'', hsupply'⟩ := ih' ht' hs'
    refine ⟨t'', ht'', hs'', ?_⟩
    rw [minted_append, burned_append]
    omega

end Calls

/-! ## The calls of the bridge -/

section Functions

variable {w w' : World ν} {token sender recipient : Address} {amount : Nat}

/-- Nothing is minted or burned on the way. -/
def QuietCalls (w w' : World ν) : Prop := ∃ calls, Calls w calls w' ∧ Quiet calls

namespace QuietCalls

theorem rest (hbridge : SameRegistry w.bridge w'.bridge) (htokens : w'.tokens = w.tokens) : QuietCalls w w' :=
  ⟨[], .rest hbridge htokens, .nil⟩

theorem trans {w'' : World ν} (h : QuietCalls w w') (h' : QuietCalls w' w'') : QuietCalls w w'' := by
  obtain ⟨calls, hcalls, hquiet⟩ := h
  obtain ⟨calls', hcalls', hquiet'⟩ := h'
  exact ⟨calls ++ calls', hcalls.trans hcalls', hquiet.append hquiet'⟩

end QuietCalls

theorem safeTransferFrom_calls (h : safeTransferFrom env w token sender recipient amount = .ok w') :
    QuietCalls w w' := by
  unfold safeTransferFrom at h
  split at h
  · rename_i t ht
    obtain ⟨t', hcall, h⟩ := bind_eq_ok.mp h
    have hcall : (TokenImplementation.Call.transferFrom sender recipient amount).run t w.bridge.self =
        .ok t' := hcall
    rw [← Except.ok.inj h]
    exact ⟨_, .token ht hcall, .singleton rfl rfl⟩
  · obtain ⟨e, -, h⟩ := bind_eq_ok.mp h
    rw [← Except.ok.inj h]
    exact .rest (.refl _) rfl

theorem safeTransfer_calls (h : safeTransfer env w token recipient amount = .ok w') : QuietCalls w w' := by
  unfold safeTransfer at h
  split at h
  · rename_i t ht
    obtain ⟨t', hcall, h⟩ := bind_eq_ok.mp h
    have hcall : (TokenImplementation.Call.transfer recipient amount).run t w.bridge.self = .ok t' := hcall
    rw [← Except.ok.inj h]
    exact ⟨_, .token ht hcall, .singleton rfl rfl⟩
  · obtain ⟨e, -, h⟩ := bind_eq_ok.mp h
    rw [← Except.ok.inj h]
    exact .rest (.refl _) rfl

theorem mintWrapped_calls (h : mintWrapped w token recipient amount = .ok w') :
    Calls w [{ token, sender := w.bridge.self, call := .mint recipient amount }] w' := by
  obtain ⟨t, ht, h⟩ := bind_eq_ok.mp h
  obtain ⟨t', hmint, h⟩ := bind_eq_ok.mp h
  rw [← Except.ok.inj h]
  exact .token (tokenAt_eq_ok ht) hmint

theorem burnWrapped_calls (h : burnWrapped w token amount = .ok w') :
    Calls w [{ token, sender := w.bridge.self, call := .burn w.bridge.self amount }] w' := by
  obtain ⟨t, ht, h⟩ := bind_eq_ok.mp h
  obtain ⟨t', hburn, h⟩ := bind_eq_ok.mp h
  rw [← Except.ok.inj h]
  exact .token (tokenAt_eq_ok ht) hburn

theorem publishMessage_calls {callValue nonce sequence : Nat} {payload : List UInt8}
    (h : publishMessage env w callValue nonce payload = .ok (w', sequence)) : QuietCalls w w' := by
  obtain ⟨⟨sequence', e⟩, -, h⟩ := bind_eq_ok.mp h
  obtain ⟨rfl, -⟩ := Prod.mk.inj (Except.ok.inj h)
  exact .rest (.refl _) rfl

theorem logTransfer_calls {transfer : Transfer} {callValue nonce sequence : Nat}
    (h : logTransfer env w transfer callValue nonce = .ok (w', sequence)) : QuietCalls w w' := by
  obtain ⟨_, -, h⟩ := bind_eq_ok.mp h
  exact publishMessage_calls h

theorem attestToken_calls {nonce value sequence : Nat}
    (h : attestToken env w token nonce value = .ok (w', sequence)) : QuietCalls w w' := by
  simp only [attestToken, bind_eq_ok] at h
  obtain ⟨_, -, _, -, _, -, h⟩ := h
  exact publishMessage_calls h

theorem bridgeOut_sameRegistry {s s' : State} (h : bridgeOut s token amount = .ok s') : SameRegistry s s' := by
  simp only [bridgeOut, bind_eq_ok] at h
  obtain ⟨outstanding, -, _, -, h⟩ := h
  rw [← Except.ok.inj h]
  exact ⟨rfl, rfl, rfl, rfl, rfl⟩

theorem trackOutstanding_sameRegistry {s s' : State} {tokenChain : Nat}
    (h : trackOutstanding s tokenChain token amount = .ok s') : SameRegistry s s' := by
  unfold trackOutstanding at h
  split at h
  · exact bridgeOut_sameRegistry h
  · rw [← Except.ok.inj h]
    exact .refl s

theorem wrapAndTransferETH_calls {value recipientChain arbiterFee nonce sequence : Nat}
    {recipient : Word} (h : wrapAndTransferETH env w sender value recipientChain recipient arbiterFee nonce =
      .ok (w', sequence)) : QuietCalls w w' := by
  simp only [wrapAndTransferETH, bind_eq_ok] at h
  obtain ⟨_, -, _, -, _, -, _, -, _, -, _, -, _, -, e, -, _, -, e', -, bridge, hout, hlog⟩ := h
  have hbridge : QuietCalls w { w with bridge, env := e' } := .rest (bridgeOut_sameRegistry hout) rfl
  exact hbridge.trans (logTransfer_calls hlog)

theorem updateWrapped_calls {vm : VM} {valid : Bool} {reason : String} {wrapped : Address}
    (h : updateWrapped w vm valid reason = .ok (w', wrapped)) : QuietCalls w w' := by
  simp only [updateWrapped, updateWrappedDetails, bind_eq_ok] at h
  obtain ⟨_, -, meta', -, _, -, t, ht, t', hupdate, h⟩ := h
  obtain ⟨rfl, -⟩ := Prod.mk.inj (Except.ok.inj h)
  have hcall : (TokenImplementation.Call.updateDetails (bytes32ToString meta'.name) (bytes32ToString meta'.symbol)
      vm.sequence).run t w.bridge.self = .ok t' := hupdate
  exact ⟨_, .token (tokenAt_eq_ok ht) hcall, .singleton rfl rfl⟩

theorem registerChain_calls {s : State} {vm : VM} {valid : Bool} {reason : String}
    (h : registerChain w.bridge vm valid reason = .ok s) : QuietCalls w { w with bridge := s } := by
  simp only [registerChain, bind_eq_ok] at h
  obtain ⟨_, -, _, -, _, -, _, -, h⟩ := h
  rw [← Except.ok.inj h]
  exact .rest ⟨rfl, rfl, rfl, rfl, rfl⟩ rfl

theorem beginTransferTokens_calls {frame : Frame}
    (h : beginTransferTokens env w sender token amount = .ok (w', frame)) : QuietCalls w w' := by
  simp only [beginTransferTokens, bind_eq_ok] at h
  obtain ⟨_, -, _, -, _, -, _, -, _, -, w₁, htransfer, h⟩ := h
  obtain ⟨rfl, -⟩ := Prod.mk.inj (Except.ok.inj h)
  exact safeTransferFrom_calls htransfer

/-- What `transferTokens` burns: a wrapped token, without the dust. -/
def burnedBy (s : State) (frame : Frame) : Nat := if frame.tokenChain = s.chainId then 0 else frame.amount

theorem finishTransferTokens_calls {frame : Frame} {recipientChain arbiterFee nonce value sequence : Nat}
    {recipient : Word} (h : finishTransferTokens env w frame token recipientChain recipient arbiterFee nonce
      value = .ok (w', sequence)) :
    ∃ calls, Calls w calls w' ∧ ∀ asset, minted asset calls = 0 ∧
      burned asset calls = if asset = token then burnedBy w.bridge frame else 0 := by
  simp only [finishTransferTokens, bind_eq_ok] at h
  obtain ⟨⟨w₁, taken⟩, htake, _, -, _, -, bridge, hout, hlog⟩ := h
  have hbridge : QuietCalls w₁ { w₁ with bridge } := .rest (trackOutstanding_sameRegistry hout) rfl
  obtain ⟨calls, hcalls, hquiet⟩ := hbridge.trans (logTransfer_calls hlog)
  unfold takeTokens at htake
  split at htake
  · rename_i hnative
    simp only [bind_eq_ok] at htake
    obtain ⟨_, -, _, -, htake⟩ := htake
    obtain ⟨rfl, -⟩ := Prod.mk.inj (Except.ok.inj htake)
    refine ⟨calls, hcalls, ?_⟩
    intro asset
    rw [burnedBy, if_pos hnative, ite_self]
    exact hquiet.supply asset
  · rename_i hforeign
    obtain ⟨w₂, hburn, htake⟩ := bind_eq_ok.mp htake
    obtain ⟨rfl, -⟩ := Prod.mk.inj (Except.ok.inj htake)
    refine ⟨_, (burnWrapped_calls hburn).trans hcalls, ?_⟩
    intro asset
    obtain ⟨hminted, hburned⟩ := hquiet.supply asset
    rw [minted_append, burned_append, hminted, hburned, burnedBy, if_neg hforeign]
    by_cases ha : token = asset
    · simp [minted, burned, TokenImplementation.Call.minted, TokenImplementation.Call.burned, ha]
    · simp [minted, burned, ha, Ne.symm ha]

/-! ### Completed transfers -/

/-- An amount of one token is minted on the way, and nothing is burned. -/
def Mints (w : World ν) (token : Address) (amount : Nat) (w' : World ν) : Prop :=
  ∃ calls, Calls w calls w' ∧ ∀ asset, minted asset calls = (if asset = token then amount else 0) ∧
    burned asset calls = 0

namespace Mints

variable {amount' : Nat}

theorem of_quiet (h : QuietCalls w w') (token : Address) : Mints w token 0 w' := by
  obtain ⟨calls, hcalls, hquiet⟩ := h
  refine ⟨calls, hcalls, ?_⟩
  intro asset
  rw [ite_self]
  exact hquiet.supply asset

theorem of_mint (h : mintWrapped w token recipient amount = .ok w') : Mints w token amount w' := by
  refine ⟨_, mintWrapped_calls h, ?_⟩
  intro asset
  by_cases ha : token = asset
  · simp [minted, burned, TokenImplementation.Call.minted, TokenImplementation.Call.burned, ha]
  · simp [minted, burned, ha, Ne.symm ha]

theorem trans {w'' : World ν} (h : Mints w token amount w') (h' : Mints w' token amount' w'') :
    Mints w token (amount + amount') w'' := by
  obtain ⟨calls, hcalls, hsupply⟩ := h
  obtain ⟨calls', hcalls', hsupply'⟩ := h'
  refine ⟨calls ++ calls', hcalls.trans hcalls', ?_⟩
  intro asset
  obtain ⟨hminted, hburned⟩ := hsupply asset
  obtain ⟨hminted', hburned'⟩ := hsupply' asset
  rw [minted_append, burned_append, hminted, hburned, hminted', hburned']
  split <;> exact ⟨rfl, rfl⟩

theorem sameRegistry (h : Mints w token amount w') : SameRegistry w.bridge w'.bridge := by
  obtain ⟨_, hcalls, -⟩ := h
  exact hcalls.sameRegistry

end Mints

/-- What a payment mints: nothing when ether or a native token is paid. -/
def mintedBy (s : State) (unwrapWETH : Bool) (tokenChain amount : Nat) : Nat :=
  if unwrapWETH = true ∨ tokenChain = s.chainId then 0 else amount

theorem mintedBy_add {s s' : State} {unwrapWETH : Bool} {tokenChain a b : Nat} (h : s'.chainId = s.chainId) :
    mintedBy s unwrapWETH tokenChain a + mintedBy s' unwrapWETH tokenChain b =
      mintedBy s unwrapWETH tokenChain (a + b) := by
  unfold mintedBy
  rw [h]
  split <;> rfl

theorem pay_mints {unwrapWETH : Bool} {tokenChain : Nat}
    (h : pay env w unwrapWETH tokenChain token recipient amount = .ok w') :
    Mints w token (mintedBy w.bridge unwrapWETH tokenChain amount) w' := by
  unfold pay at h
  split at h
  · rename_i hunwrap
    simp only [bind_eq_ok] at h
    obtain ⟨e, -, e', -, h⟩ := h
    have hquiet : QuietCalls w { w with env := e' } := .rest (.refl _) rfl
    rw [← Except.ok.inj h, mintedBy, if_pos (.inl hunwrap)]
    exact .of_quiet hquiet token
  · rename_i hunwrap
    split at h
    · rename_i hforeign
      rw [mintedBy, if_neg (not_or.mpr ⟨hunwrap, hforeign⟩)]
      exact .of_mint h
    · rename_i hnative
      rw [mintedBy, if_pos (.inr (not_not.mp hnative))]
      exact .of_quiet (safeTransfer_calls h) token

theorem payFee_mints {unwrapWETH : Bool} {tokenChain nativeAmount : Nat}
    (h : payFee env w unwrapWETH tokenChain token sender amount nativeAmount = .ok w') :
    Mints w token (mintedBy w.bridge unwrapWETH tokenChain amount) w' := by
  unfold payFee at h
  split at h
  · obtain ⟨_, -, h⟩ := bind_eq_ok.mp h
    exact pay_mints h
  · rename_i hfee
    obtain rfl : amount = 0 := by omega
    rw [← Except.ok.inj h, mintedBy, ite_self]
    exact .of_quiet (.rest (.refl _) rfl) token

theorem transferTokenOf_registry {s s' : State} {transfer : Transfer}
    (h : transferTokenOf s transfer = .ok (s', token)) :
    SameRegistry s s' ∧ (transfer.tokenChain ≠ s.chainId →
      token = s.wrappedAssets transfer.tokenChain transfer.tokenAddress ∧ token ≠ zeroAddress) := by
  unfold transferTokenOf at h
  split at h
  · rename_i hnative
    simp only [bridgedIn, bind_eq_ok] at h
    obtain ⟨_, ⟨outstanding, -, hs⟩, h⟩ := h
    obtain ⟨rfl, -⟩ := Prod.mk.inj (Except.ok.inj h)
    rw [← Except.ok.inj hs]
    exact ⟨⟨rfl, rfl, rfl, rfl, rfl⟩, fun hforeign => absurd hnative hforeign⟩
  · simp only [bind_eq_ok, require_eq_ok] at h
    obtain ⟨_, hwrapped, h⟩ := h
    obtain ⟨rfl, rfl⟩ := Prod.mk.inj (Except.ok.inj h)
    exact ⟨.refl _, fun _ => ⟨rfl, hwrapped⟩⟩

/-- **A completed transfer** mints its amount, when its token is a wrapped one. -/
theorem completeTransfer_mints {vm : VM} {valid unwrapWETH : Bool} {reason : String}
    (h : completeTransfer env w vm valid reason sender unwrapWETH = .ok w') :
    ∃ transfer token decimals nativeAmount, parseTransfer vm.payload = .ok transfer ∧
      (transfer.tokenChain ≠ w.bridge.chainId →
        token = w.bridge.wrappedAssets transfer.tokenChain transfer.tokenAddress ∧ token ≠ zeroAddress) ∧
      (unwrapWETH = true → token = w.bridge.WETH) ∧ queryDecimals env w token = .ok decimals ∧
      deNormalizeAmount transfer.amount decimals = .ok nativeAmount ∧
      Mints w token (mintedBy w.bridge unwrapWETH transfer.tokenChain nativeAmount) w' := by
  simp only [completeTransfer, executeTransfer, bind_eq_ok, require_eq_ok] at h
  obtain ⟨_, -, transfer, hparse, _, -, _, -, ⟨bridge, token⟩, htoken, _, hunwrap, decimals, hdecimals,
    nativeAmount, hamount, nativeFee, -, w₁, hfee, transferAmount, hsub, hpay⟩ := h
  obtain ⟨hregistry, hwrapped⟩ := transferTokenOf_registry htoken
  refine ⟨transfer, token, decimals, nativeAmount, hparse, hwrapped, ?_, hdecimals, hamount, ?_⟩
  · intro hunwrapped
    rw [hunwrapped] at hunwrap
    rcases hunwrap with hunwrap | hWETH
    · cases hunwrap
    · exact hWETH.trans hregistry.WETH
  · have hbridge : SameRegistry w.bridge bridge := ⟨hregistry.self, hregistry.chainId, hregistry.WETH,
      hregistry.wrappedAssets, hregistry.isWrappedAsset⟩
    have hquiet : QuietCalls w { w with bridge } := .rest hbridge rfl
    have hstart : Mints w token 0 { w with bridge } := .of_quiet hquiet token
    have hfee := payFee_mints hfee
    have hall := (hstart.trans hfee).trans (pay_mints hpay)
    have hchain : w₁.bridge.chainId = bridge.chainId := hfee.sameRegistry.chainId
    have hsum : nativeFee + transferAmount = nativeAmount := by
      have hsub := subUint_eq_ok' hsub
      omega
    rw [Nat.zero_add, mintedBy_add hchain, hsum] at hall
    unfold mintedBy at hall ⊢
    rwa [hbridge.chainId] at hall

/-! ### Deployments -/

/-- **A deployment**: a new contract at a free address, under a key that has none. -/
theorem createWrapped_eq_ok {vm : VM} {valid : Bool} {reason : String}
    (h : createWrapped env w vm valid reason = .ok (w', token)) :
    ∃ (meta' : AssetMeta) (t : TokenImplementation.State), meta'.tokenChain ≠ w.bridge.chainId ∧
      w.bridge.wrappedAssets meta'.tokenChain meta'.tokenAddress = zeroAddress ∧
      t.chainId = meta'.tokenChain ∧ t.nativeContract = meta'.tokenAddress ∧ t.initialized = true ∧
      t.owner = w.bridge.self ∧ TokenImplementation.Supplied t ∧ t.totalSupply = 0 ∧
      w.tokens token = none ∧ env.hasCode w.env token = false ∧ token ≠ zeroAddress ∧
      w' = { w with
        bridge := setWrappedAsset w.bridge meta'.tokenChain meta'.tokenAddress token }.setToken token t := by
  simp only [createWrapped, deployWrapped, bind_eq_ok, require_eq_ok, Option.isNone_iff_eq_none] at h
  obtain ⟨_, -, meta', -, _, hforeign, _, hunset, t, hinit, _, ⟨hfree, hcode, -, hzero⟩, h⟩ := h
  obtain ⟨rfl, rfl⟩ := Prod.mk.inj (Except.ok.inj h)
  obtain ⟨-, rfl⟩ := TokenImplementation.initializeContract_eq_ok hinit
  refine ⟨meta', _, hforeign, hunset, rfl, rfl, rfl, rfl, ?_, rfl, hfree, hcode, hzero, rfl⟩
  exact Total.zero

variable (env) in
/-- What a call does to the wrapped tokens. -/
inductive TokenEffect (w : World ν) : Call ν → World ν → Prop where
  | quiet {c : Call ν} {w' : World ν} (hc : ∀ vm valid reason sender unwrapWETH,
      c ≠ .completeTransfer vm valid reason sender unwrapWETH) (h : QuietCalls w w') : TokenEffect w c w'
  | completeTransfer {vm : VM} {valid unwrapWETH : Bool} {reason : String} {sender : Address} {w' : World ν}
      (h : completeTransfer env w vm valid reason sender unwrapWETH = .ok w') :
      TokenEffect w (.completeTransfer vm valid reason sender unwrapWETH) w'
  | createWrapped {vm : VM} {valid : Bool} {reason : String} {token : Address} {w' : World ν}
      (h : createWrapped env w vm valid reason = .ok (w', token)) :
      TokenEffect w (.createWrapped vm valid reason) w'
  | token {sender token : Address} {call : TokenImplementation.Call} {t t' : TokenImplementation.State}
      (hsender : sender ≠ w.bridge.self) (ht : w.tokens token = some t) (hcall : call.run t sender = .ok t') :
      TokenEffect w (.token sender token call) (w.setToken token t')

/-- **A call** of the bridge or of a token. -/
theorem call_tokenEffect {c : Call ν} (h : call env w c = some w') : TokenEffect env w c w' := by
  cases c with
  | attestToken =>
    obtain ⟨⟨w₁, sequence⟩, hattest, rfl⟩ := map_toOption_eq_some h
    exact .quiet (by simp) (attestToken_calls hattest)
  | wrapAndTransferETH =>
    obtain ⟨⟨w₁, sequence⟩, hwrap, rfl⟩ := map_toOption_eq_some h
    exact .quiet (by simp) (wrapAndTransferETH_calls hwrap)
  | updateWrapped =>
    obtain ⟨⟨w₁, wrapped⟩, hupdate, rfl⟩ := map_toOption_eq_some h
    exact .quiet (by simp) (updateWrapped_calls hupdate)
  | createWrapped =>
    obtain ⟨⟨w₁, wrapped⟩, hcreate, rfl⟩ := map_toOption_eq_some h
    exact .createWrapped hcreate
  | completeTransfer => exact .completeTransfer (toOption_eq_some h)
  | registerChain =>
    obtain ⟨s, hregister, rfl⟩ := map_toOption_eq_some h
    exact .quiet (by simp) (registerChain_calls hregister)
  | token sender token call =>
    simp only [Bridge.call] at h
    split at h
    · cases h
    · rename_i hsender
      obtain ⟨t, ht, h⟩ := bind_eq_ok.mp (toOption_eq_some h)
      obtain ⟨t', hcall, rfl⟩ := map_eq_ok.mp h
      exact .token hsender (tokenAt_eq_ok ht) hcall
  | rest e =>
    cases h
    have hquiet : QuietCalls w { w with env := e } := .rest (.refl _) rfl
    exact .quiet (by simp) hquiet

/-- It makes calls of wrapped tokens, or it deploys one. -/
theorem TokenEffect.calls {c : Call ν} (h : TokenEffect env w c w') :
    (∃ calls, Calls w calls w') ∨
      ∃ vm valid reason token, Bridge.createWrapped env w vm valid reason = .ok (w', token) := by
  cases h with
  | quiet _ h =>
    obtain ⟨calls, hcalls, -⟩ := h
    exact .inl ⟨calls, hcalls⟩
  | completeTransfer h =>
    obtain ⟨_, _, _, _, -, -, -, -, -, calls, hcalls, -⟩ := completeTransfer_mints h
    exact .inl ⟨calls, hcalls⟩
  | createWrapped h => exact .inr ⟨_, _, _, _, h⟩
  | token _ ht hcall => exact .inl ⟨_, .token ht hcall⟩

end Functions

end Bridge

end Wormhole.Ethereum

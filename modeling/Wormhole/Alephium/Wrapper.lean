/-
# Wormhole.Alephium.Wrapper — one wrapper for each token.

The wrapper of a remote token is the token its holders hold, so two wrappers of one token split its
supply.  Nothing in `createWrapperForLocalToken` and `createWrapperForRemoteToken` remembers the tokens
wrapped before: an attestation with a new sequence number creates another wrapper.  In the runs in
which no `TokenBridgeForChain` is asked again for a token it has wrapped, each has at most one wrapper
for each token (`oneWrapper`).
-/
import Mathlib
import Wormhole.Lib.Transition
import Wormhole.Alephium.Vm
import Wormhole.Alephium.Governance
import Wormhole.Alephium.TokenBridge
import Wormhole.Alephium.World

namespace Wormhole.Alephium

open Wormhole.Lib.Bytes Wormhole.Lib.Transition Wormhole.Alephium.Vm
open Wormhole.Alephium.Governance (Body Crypto WormholeMessage)

/-! ## Wrappers and who asked for them -/

/-- The factory has created the wrapper `id` for the token `tokenId`, called by `caller`. -/
def World.WrapperOf (w : World) (id caller : ContractId) (tokenId : ByteVec) : Prop :=
  w.Wrapped id ∧ ∃ s, w.wrapperAt id = some s ∧ s.tokenBridgeForChainId = caller.val ∧
    s.tokenContractId = tokenId

/-- No `TokenBridgeForChain` is asked again for a token it has a wrapper of. -/
def FirstWrapper (crypto : Crypto) (w : World) (tx : Tx) : Prop :=
  ∀ bridge tokenId, wrapRequest crypto w tx = some (bridge, tokenId) → (w.bridgeAt bridge).isSome →
    ∀ id, ¬w.WrapperOf id bridge tokenId

/-- Every wrapper of the factory exists, and so does the contract that asked for it. -/
def Wrappers (w : World) : Prop :=
  ∀ id, w.Wrapped id → ∃ s caller, w.wrapperAt id = some s ∧
    s.tokenBridgeForChainId = caller.val ∧ w.contracts caller ≠ none

section Wrappers

variable {crypto : Crypto} {distance : Nat} {w w' : World} {tx : Tx}

theorem Wrappers.of_fresh (h : w.Fresh) : Wrappers w := by
  intro id hid
  simp [World.Wrapped, h.log] at hid

theorem WrappedBy.contracts_ne_none {s : TokenWrapper.State} {caller : ContractId}
    (h : WrappedBy crypto w tx s caller) : w.contracts caller ≠ none := by
  rcases h.origin with hother | ⟨b, hb, -⟩
  · rw [hother]
    simp
  · rw [World.bridgeAt_eq_some.mp hb]
    simp

theorem Wrappers.effect (h : Wrappers w) (heffect : Effect crypto distance w tx w') :
    Wrappers w' := by
  obtain ⟨new, hnew⟩ := heffect.wrapped
  intro id hid
  rcases hnew id hid with hid | ⟨-, -, s, caller, hs, hby⟩
  · obtain ⟨s, caller, hs, hbaked, hcaller⟩ := h id hid
    exact ⟨s, caller, heffect.wrapperAt hs, hbaked, heffect.contracts_ne_none hcaller⟩
  · exact ⟨s, caller, hs, hby.baked, heffect.contracts_ne_none hby.contracts_ne_none⟩

/-- A call adds at most one wrapper of a token, the one it asks for. -/
theorem Effect.wrapperOf (h : Effect crypto distance w tx w') (hwrappers : Wrappers w) :
    ∃ new, ∀ id caller tokenId, w'.WrapperOf id caller tokenId → w.WrapperOf id caller tokenId ∨
      id = new ∧ wrapRequest crypto w tx = some (caller, tokenId) ∧ w.contracts caller ≠ none := by
  obtain ⟨new, hnew⟩ := h.wrapped
  refine ⟨new, fun id caller tokenId ⟨hid, s', hs', hbaked', htoken⟩ => ?_⟩
  rcases hnew id hid with hid | ⟨hid, -, s, caller', hs, hby⟩
  · obtain ⟨s, -, hs, -⟩ := hwrappers id hid
    obtain rfl : s = s' := Option.some.inj ((h.wrapperAt hs).symm.trans hs')
    exact .inl ⟨hid, s, hs, hbaked', htoken⟩
  · obtain rfl : s = s' := Option.some.inj (hs.symm.trans hs')
    obtain rfl : caller' = caller := Subtype.ext (hby.baked.symm.trans hbaked')
    exact .inr ⟨hid, htoken ▸ hby.request, hby.contracts_ne_none⟩

/-- At most one wrapper for each `TokenBridgeForChain` and token. -/
def OneWrapper (w : World) : Prop :=
  ∀ bridge, (w.bridgeAt bridge).isSome → ∀ tokenId id₁ id₂, w.WrapperOf id₁ bridge tokenId →
    w.WrapperOf id₂ bridge tokenId → id₁ = id₂

/-- **Step.** A call that asks for no token again keeps the wrappers unique. -/
theorem OneWrapper.effect (h : OneWrapper w) (hwrappers : Wrappers w)
    (hok : FirstWrapper crypto w tx) (heffect : Effect crypto distance w tx w') : OneWrapper w' := by
  obtain ⟨new, hnew⟩ := heffect.wrapperOf hwrappers
  intro bridge hbridge tokenId id₁ id₂ h₁ h₂
  rcases heffect.isSome_bridgeAt hbridge with hbridge | hnone
  · rcases hnew id₁ bridge tokenId h₁ with h₁ | ⟨rfl, hrequest, -⟩ <;>
      rcases hnew id₂ bridge tokenId h₂ with h₂ | ⟨rfl, hrequest', -⟩
    · exact h bridge hbridge tokenId id₁ id₂ h₁ h₂
    · exact absurd h₁ (hok bridge tokenId hrequest' hbridge id₁)
    · exact absurd h₂ (hok bridge tokenId hrequest hbridge id₂)
    · rfl
  · -- a new `TokenBridgeForChain` has not asked for anything
    rcases hnew id₁ bridge tokenId h₁ with ⟨hid, s, hs, hbaked, -⟩ | ⟨-, -, hcaller⟩
    · obtain ⟨s', caller, hs', hbaked', hcaller⟩ := hwrappers id₁ hid
      obtain rfl : s = s' := Option.some.inj (hs.symm.trans hs')
      obtain rfl : caller = bridge := Subtype.ext (hbaked'.symm.trans hbaked)
      exact absurd hnone hcaller
    · exact absurd hnone hcaller

end Wrappers

/-- **One wrapper for each token.** In every run from a fresh world in which no `TokenBridgeForChain`
is asked again for a token it has a wrapper of, each of them has at most one wrapper for each token id,
and two units it has issued for one token are units of the same token. -/
theorem oneWrapper {crypto : Crypto} {distance : Nat} {w₀ w : World} (hfresh : w₀.Fresh)
    (hrun : Run (step crypto distance) (FirstWrapper crypto) w₀ w) {bridge : ContractId}
    (hbridge : (w.bridgeAt bridge).isSome) (tokenId : ByteVec) :
    (∀ id₁ id₂, w.WrapperOf id₁ bridge tokenId → w.WrapperOf id₂ bridge tokenId → id₁ = id₂) ∧
      ∀ id₁ id₂ s₁ s₂, w.WrapperOf id₁ bridge tokenId → w.WrapperOf id₂ bridge tokenId →
        w.wrapperAt id₁ = some s₁ → w.wrapperAt id₂ = some s₂ →
        TokenWrapper.getTokenId id₁ s₁ = TokenWrapper.getTokenId id₂ s₂ := by
  have hinv : Wrappers w ∧ OneWrapper w := by
    refine hrun.invariant (I := fun w => Wrappers w ∧ OneWrapper w)
      (fun w tx w' h hok hstep => ?_) ⟨.of_fresh hfresh, ?_⟩
    · have heffect := step_effect hstep
      exact ⟨h.1.effect heffect, h.2.effect h.1 hok heffect⟩
    · rintro _ - _ id₁ _ ⟨hid, -⟩
      simp [World.Wrapped, hfresh.log] at hid
  have hone := hinv.2 bridge hbridge tokenId
  refine ⟨hone, fun id₁ id₂ s₁ s₂ h₁ h₂ hs₁ hs₂ => ?_⟩
  obtain rfl := hone id₁ id₂ h₁ h₂
  obtain rfl : s₁ = s₂ := Option.some.inj (hs₁.symm.trans hs₂)
  rfl

/-! ## Inputs -/

/-- A token of chain 2 is attested once. -/
def oneAttestation : List Call :=
  [.registerChain (registerVaa 0 2) (sampleId 0xb1),
    .createWrapperForRemoteToken (sampleId 0xb1) (attestVaa 0 2 (sampleId 0xc1)) none
      (sampleId 0xd1)]

theorem oneAttestation_one :
    (worldAfter oneAttestation).Wrapped (sampleId 0xd1) ∧
    ∀ id₁ id₂, (worldAfter oneAttestation).WrapperOf id₁ (sampleId 0xb1) (sampleId 0xc1).val →
      (worldAfter oneAttestation).WrapperOf id₂ (sampleId 0xb1) (sampleId 0xc1).val → id₁ = id₂ := by
  -- nothing has been wrapped before the attestation
  have hfirst : ∀ w call, (∀ id, ¬w.Wrapped id) →
      FirstWrapper Governance.Crypto.sample w ⟨5, call⟩ :=
    fun w call hw bridge tokenId _ _ id hid => hw id hid.1
  have hlog : (worldAfter [.registerChain (registerVaa 0 2) (sampleId 0xb1)]).log =
      [.tokenBridgeForChainCreated (sampleId 0xb1)] := by decide +kernel
  have hrun : Run (step Governance.Crypto.sample 64) (FirstWrapper Governance.Crypto.sample)
      freshWorld (worldAfter oneAttestation) :=
    run_worldAfter _ (run_worldAfter [] (Run.refl freshWorld) _
      (hfirst _ _ (by simp [World.Wrapped, worldAfter, freshWorld]))) _
      (hfirst _ _ (by simp [World.Wrapped, hlog]))
  exact ⟨by decide +kernel, (oneWrapper freshWorld_fresh hrun (by decide +kernel) _).1⟩

/-- The same token is attested twice. -/
def twoAttestations : List Call :=
  [.registerChain (registerVaa 0 2) (sampleId 0xb1),
    .createWrapperForRemoteToken (sampleId 0xb1) (attestVaa 0 2 (sampleId 0xc1)) none
      (sampleId 0xd1),
    .createWrapperForRemoteToken (sampleId 0xb1) (attestVaa 1 2 (sampleId 0xc1)) none
      (sampleId 0xd2)]

/-- **A second attestation makes a second token.** -/
theorem twoAttestations_two :
    Run (step Governance.Crypto.sample 64) (fun _ _ => True) freshWorld
      (worldAfter twoAttestations) ∧
    ((worldAfter twoAttestations).bridgeAt (sampleId 0xb1)).isSome ∧
    (worldAfter twoAttestations).WrapperOf (sampleId 0xd1) (sampleId 0xb1) (sampleId 0xc1).val ∧
    (worldAfter twoAttestations).WrapperOf (sampleId 0xd2) (sampleId 0xb1) (sampleId 0xc1).val ∧
    sampleId 0xd1 ≠ sampleId 0xd2 := by
  have hof : ∀ (w : World) id caller tokenId, w.Wrapped id →
      (w.wrapperAt id).map (fun s => (s.tokenBridgeForChainId, s.tokenContractId))
        = some (caller.val, tokenId) → w.WrapperOf id caller tokenId := by
    intro w id caller tokenId hid hs
    obtain ⟨s, hs, heq⟩ := Option.map_eq_some_iff.mp hs
    exact ⟨hid, s, hs, congrArg Prod.fst heq, congrArg Prod.snd heq⟩
  exact ⟨run_attempts (P := fun _ => True) _ _ fun _ _ => trivial, by decide +kernel,
    hof _ _ _ _ (by decide +kernel) (by decide +kernel),
    hof _ _ _ _ (by decide +kernel) (by decide +kernel), by decide +kernel⟩

end Wormhole.Alephium

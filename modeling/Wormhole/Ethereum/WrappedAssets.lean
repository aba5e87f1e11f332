/-
# Wormhole.Ethereum.WrappedAssets — the token bridge's registry of wrapped assets.

`wrappedAssets` names a token contract for a chain and an address, `isWrappedAsset` knows which contracts
are such, and each contract has its chain and address in its own storage.  A deployment writes all three;
nothing else does.  So they agree in every world a run leads to, an entry is never written again, and no
two keys share a contract (`wrapped_registry`).  That two deployments get two addresses needs no property
of `create2` but that it fails where there is a contract.
-/
import Mathlib
import Wormhole.Lib.Mapping
import Wormhole.Lib.Registry
import Wormhole.Lib.Transition
import Wormhole.Ethereum.Accounting
import Wormhole.Ethereum.Bridge
import Wormhole.Ethereum.TokenCalls

namespace Wormhole.Ethereum.Bridge

open Wormhole.Lib Wormhole.Lib.Transition

variable {ν : Type} {env : Environment ν} {w w' : World ν}

/-! ## The registry -/

/-- What a wrapped token wraps. -/
def key (t : TokenImplementation.State) : Nat × Word := (t.chainId, t.nativeContract)

/-- The entry for a chain and an address. -/
def entry (s : State) (k : Nat × Word) : Address := s.wrappedAssets k.1 k.2

/-- The registry and the contracts agree. -/
structure AssetRegistry (w : World ν) : Prop where
  consistent : Registry.Consistent zeroAddress (entry w.bridge) w.tokens key
  known : ∀ a, w.bridge.isWrappedAsset a = true ↔ (w.tokens a).isSome
  foreign : ∀ a t, w.tokens a = some t → t.initialized = true ∧ t.chainId ≠ w.bridge.chainId

theorem AssetRegistry.of_fresh (h : Fresh w) : AssetRegistry w where
  consistent := .of_empty (fun k => h.wrappedAssets k.1 k.2) h.tokens
  known := by
    intro a
    rw [h.isWrappedAsset a, h.tokens a]
    exact Iff.rfl
  foreign := by
    intro a t ht
    rw [h.tokens a] at ht
    cases ht

/-- What a step does to the registry: it stays right, and its entries stay. -/
structure Evolves (w w' : World ν) : Prop where
  registry : AssetRegistry w → AssetRegistry w'
  entries : ∀ k, entry w.bridge k ≠ zeroAddress → entry w'.bridge k = entry w.bridge k

namespace Evolves

theorem refl (w : World ν) : Evolves w w := ⟨id, fun _ _ => rfl⟩

theorem trans {w'' : World ν} (h : Evolves w w') (h' : Evolves w' w'') : Evolves w w'' where
  registry := fun hw => h'.registry (h.registry hw)
  entries := by
    intro k hk
    have hkept := h.entries k hk
    rw [h'.entries k (by rwa [hkept]), hkept]

/-- Calls of wrapped tokens. -/
theorem calls {calls : List TokenCall} (h : Calls w calls w') : Evolves w w' := by
  induction h with
  | @rest w w' hbridge htokens =>
    have hentry : entry w'.bridge = entry w.bridge := by
      funext k
      rw [entry, hbridge.wrappedAssets]
      rfl
    refine ⟨?_, fun k _ => by rw [hentry]⟩
    intro hw
    constructor
    · rw [hentry, htokens]
      exact hw.consistent
    · rw [htokens, hbridge.isWrappedAsset]
      exact hw.known
    · rw [htokens, hbridge.chainId]
      exact hw.foreign
  | @token w token sender call t t' ht hcall =>
    refine ⟨?_, fun _ _ => rfl⟩
    intro hw
    obtain ⟨hinit, hchain⟩ := hw.foreign token t ht
    have hsame := call.run_sameContract hinit hcall
    constructor
    · exact hw.consistent.write ht (Prod.ext hsame.chainId hsame.nativeContract)
    · intro a
      rw [show (w.setToken token t').tokens = Function.update w.tokens token (some t') from rfl,
        Mapping.isSome_update_some ht]
      exact hw.known a
    · intro a t₁ ht₁
      rcases Mapping.update_eq_some ht₁ with ⟨rfl, rfl⟩ | ht₁
      · exact ⟨hsame.initialized.trans hinit, fun heq => hchain (hsame.chainId.symm.trans heq)⟩
      · exact hw.foreign a t₁ ht₁
  | trans _ _ ih ih' => exact ih.trans ih'

/-- **A deployment** enters a key that was unset. -/
theorem createWrapped {vm : VM} {valid : Bool} {reason : String} {token : Address}
    (h : Bridge.createWrapped env w vm valid reason = .ok (w', token)) : Evolves w w' := by
  obtain ⟨meta', t, hforeign, hunset, hchain, hcontract, hinit, -, -, -, hfree, -, hzero, rfl⟩ :=
    createWrapped_eq_ok h
  have hkey : key t = (meta'.tokenChain, meta'.tokenAddress) := Prod.ext hchain hcontract
  have hentry : entry (setWrappedAsset w.bridge meta'.tokenChain meta'.tokenAddress token) =
      Function.update (entry w.bridge) (key t) token := by
    rw [hkey]
    exact Registry.update_pair w.bridge.wrappedAssets meta'.tokenChain meta'.tokenAddress token
  have hfresh : entry w.bridge (key t) = zeroAddress := by
    rw [hkey]
    exact hunset
  refine ⟨?_, ?_⟩
  · intro hw
    constructor
    · show Registry.Consistent zeroAddress (entry (setWrappedAsset _ _ _ _))
        (Function.update w.tokens token (some t)) key
      rw [hentry]
      exact hw.consistent.create hfresh hfree hzero
    · intro a
      show Function.update w.bridge.isWrappedAsset token true a = true ↔
        (Function.update w.tokens token (some t) a).isSome
      by_cases ha : a = token
      · subst ha
        rw [Function.update_self, Function.update_self]
        exact Iff.rfl
      · rw [Function.update_of_ne ha, Function.update_of_ne ha]
        exact hw.known a
    · intro a t₁ ht₁
      rcases Mapping.update_eq_some ht₁ with ⟨rfl, rfl⟩ | ht₁
      · exact ⟨hinit, fun heq => hforeign (hchain.symm.trans heq)⟩
      · exact hw.foreign a t₁ ht₁
  · intro k hk
    show entry (setWrappedAsset _ _ _ _) k = _
    rw [hentry]
    apply Function.update_of_ne
    rintro rfl
    exact hk hfresh

theorem call {c : Call ν} (h : Bridge.call env w c = some w') : Evolves w w' := by
  rcases (call_tokenEffect h).calls with ⟨_, hcalls⟩ | ⟨_, _, _, _, hcreate⟩
  · exact .calls hcalls
  · exact .createWrapped hcreate

/-- **Step.** -/
theorem of_step {s s' : World ν × Registrations} (h : Step env s s') : Evolves s.1 s'.1 := by
  cases h with
  | call hcall => exact .call (logging_eq_some.mp hcall).1
  | transferTokens hbegin hcalls hfinish =>
    obtain ⟨_, hbegin, -⟩ := beginTransferTokens_calls hbegin
    obtain ⟨_, hfinish, -⟩ := finishTransferTokens_calls hfinish
    have hmiddle := hcalls.invariant (I := fun s => Evolves _ s.1)
      (fun s c t hs _ hstep => hs.trans (.call (logging_eq_some.mp hstep).1)) (.refl _)
    exact (Evolves.calls hbegin).trans (hmiddle.trans (.calls hfinish))

/-- **Run.** -/
theorem run {s s' : World ν × Registrations} (h : Relation.ReflTransGen (Step env) s s') : Evolves s.1 s'.1 := by
  induction h with
  | refl => exact .refl _
  | tail _ hlast ih => exact ih.trans (.of_step hlast)

end Evolves

theorem Reachable.assetRegistry {log : Registrations} (h : Reachable env w log) : AssetRegistry w := by
  obtain ⟨w₀, hfresh, hrun⟩ := h
  exact (Evolves.run hrun).registry (.of_fresh hfresh)

/-! ## The registry over runs -/

/-- **The registry of wrapped assets.** In every world a run leads to: an entry is a wrapped asset, its
contract says the chain and the address it is entered for, that chain is another one, and the entry stays; two
keys have two contracts; and every wrapped asset has an entry. -/
theorem wrapped_registry {log : Registrations} (hreach : Reachable env w log) :
    (∀ chain address, w.bridge.wrappedAssets chain address ≠ zeroAddress →
      w.bridge.isWrappedAsset (w.bridge.wrappedAssets chain address) = true ∧
      (∃ t, w.tokens (w.bridge.wrappedAssets chain address) = some t ∧ t.chainId = chain ∧
        t.nativeContract = address) ∧
      chain ≠ w.bridge.chainId ∧
      (∀ w' log', Relation.ReflTransGen (Step env) (w, log) (w', log') →
        w'.bridge.wrappedAssets chain address = w.bridge.wrappedAssets chain address) ∧
      ∀ chain' address', w.bridge.wrappedAssets chain' address' = w.bridge.wrappedAssets chain address →
        chain' = chain ∧ address' = address) ∧
    ∀ token, w.bridge.isWrappedAsset token = true →
      token ≠ zeroAddress ∧ ∃ chain address, w.bridge.wrappedAssets chain address = token := by
  have hw := hreach.assetRegistry
  refine ⟨?_, ?_⟩
  · intro chain address hset
    have hset : entry w.bridge (chain, address) ≠ zeroAddress := hset
    obtain ⟨t, ht, hkey⟩ := hw.consistent.named (chain, address) hset
    obtain ⟨rfl, rfl⟩ := Prod.mk.inj hkey
    refine ⟨?_, ⟨t, ht, rfl, rfl⟩, (hw.foreign _ t ht).2, ?_, ?_⟩
    · exact (hw.known _).mpr (Option.isSome_iff_exists.mpr ⟨t, ht⟩)
    · intro w' log' hrun
      exact (Evolves.run hrun).entries (t.chainId, t.nativeContract) hset
    · intro chain' address' heq
      have heq : entry w.bridge (t.chainId, t.nativeContract) = entry w.bridge (chain', address') := heq.symm
      exact Prod.mk.inj (hw.consistent.injective hset heq).symm
  · intro token htoken
    obtain ⟨t, ht⟩ := Option.isSome_iff_exists.mp ((hw.known token).mp htoken)
    obtain ⟨hzero, hentry⟩ := hw.consistent.known token t ht
    exact ⟨hzero, t.chainId, t.nativeContract, hentry⟩

/-! ## A sample run -/

theorem sampleAttested_length : (List.replicate 32 (0x09 : UInt8)).length = 32 := rfl

/-- Governance registers chain 2, whose bridge attests a token. -/
def sampleAttested : World Nat × Registrations :=
  attempts (logging (call sampleWETHEnvironment) registered) (sampleWETHWorld, []) [
    .registerChain (sampleVM 1 (List.replicate 32 0x04)
      (module ++ [0x01, 0x00, 0x00, 0x00, 0x02] ++ List.replicate 32 0x08) [0x01]) true "",
    .createWrapped (sampleVM 2 (List.replicate 32 0x08)
      (encodeAssetMeta {
        tokenAddress := ⟨List.replicate 32 0x09, sampleAttested_length⟩, tokenChain := 2, decimals := 8,
        symbol := zeroWord, name := zeroWord }) [0x02]) true ""]

theorem sampleAttested_reachable : Reachable sampleWETHEnvironment sampleAttested.1 sampleAttested.2 := by
  refine ⟨sampleWETHWorld, ⟨rfl, fun _ => rfl, fun _ _ => rfl, fun _ => rfl, fun _ => rfl⟩, ?_⟩
  have hrun : Run (logging (Bridge.call sampleWETHEnvironment) registered) (fun _ _ => True)
      (sampleWETHWorld, []) sampleAttested := run_attempts (P := fun _ => True) _ _ fun _ _ => trivial
  apply Relation.ReflTransGen.mono ?_ _ _ hrun
  rintro s t ⟨c, -, hcall⟩
  exact .call hcall

theorem sampleAttested_entry :
    sampleAttested.1.bridge.isWrappedAsset
      (sampleAttested.1.bridge.wrappedAssets 2 ⟨List.replicate 32 0x09, rfl⟩) = true :=
  ((wrapped_registry sampleAttested_reachable).1 2 _ (by decide +kernel)).1

end Wormhole.Ethereum.Bridge

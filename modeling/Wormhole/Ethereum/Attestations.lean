/-
# Wormhole.Ethereum.Attestations — the metadata of wrapped tokens on Ethereum.

`createWrapped` deploys the token of an attestation, and `updateWrapped` overwrites its name and its symbol when
an attestation has a larger sequence than the last one.  So a wrapped token is a register that takes larger
sequences only: it has the metadata of the newest of the attestations that were submitted, whatever their
order (`wrappedBy_submissions`).
-/
import Mathlib
import Wormhole.Lib.Failing
import Wormhole.Lib.Newest
import Wormhole.Ethereum.Messages
import Wormhole.Ethereum.TokenImplementation
import Wormhole.Ethereum.Bridge

namespace Wormhole.Ethereum.Bridge

open Wormhole.Lib Wormhole.Lib.Failing

variable {ν : Type} {env : Environment ν} {w w' : World ν}

/-! ## Attestations -/

/-- An attestation of a token that the bridge accepts, verified by the core contract. -/
structure Attestation (s : State) (tokenChain : Nat) (tokenAddress : Word) where
  vm : VM
  assetMeta : AssetMeta
  parse : parseAssetMeta vm.payload = .ok assetMeta
  chain : assetMeta.tokenChain = tokenChain
  address : assetMeta.tokenAddress = tokenAddress
  emitter : verifyBridgeVM s vm = true

variable {s : State} {tokenChain : Nat} {tokenAddress : Word}

namespace Attestation

def sequence (a : Attestation s tokenChain tokenAddress) : Nat := a.vm.sequence

/-- What `name()` and `symbol()` return of a token with the attested metadata. -/
def metadata (a : Attestation s tokenChain tokenAddress) : List UInt8 × List UInt8 :=
  (bytes32ToString a.assetMeta.name ++ [0x20, 0x28, 0x57, 0x6f, 0x72, 0x6d, 0x68, 0x6f, 0x6c, 0x65, 0x29],
    bytes32ToString a.assetMeta.symbol)

/-- The attestation is submitted as an update; a revert is ignored. -/
def submit (w : World ν) (a : Attestation s tokenChain tokenAddress) : World ν :=
  match updateWrapped w a.vm true "" with
  | .ok (w', _) => w'
  | .error _ => w

end Attestation

variable (env) in
/-- `name()` and `symbol()` of a token. -/
def queryMetadata (w : World ν) (token : Address) : Revert (List UInt8 × List UInt8) := do
  return (← queryName env w token, ← querySymbol env w token)

/-! ## The register -/

/-- The wrapped token has the metadata and the sequence of the attestation. -/
structure WrappedBy (s : State) (w : World ν) (token : Address) (a : Attestation s tokenChain tokenAddress) :
    Prop where
  emitters : w.bridge.bridgeImplementations = s.bridgeImplementations
  entry : w.bridge.wrappedAssets tokenChain tokenAddress = token
  token_ne_zero : token ≠ zeroAddress
  contract : ∃ t, w.tokens token = some t ∧ t.owner = w.bridge.self ∧
    t.name = bytes32ToString a.assetMeta.name ∧ t.symbol = bytes32ToString a.assetMeta.symbol ∧
    t.metaLastUpdatedSequence = a.sequence

theorem WrappedBy.queryMetadata {token : Address} {a : Attestation s tokenChain tokenAddress}
    (h : WrappedBy s w token a) : queryMetadata env w token = .ok a.metadata := by
  obtain ⟨t, ht, -, hname, hsymbol, -⟩ := h.contract
  simp only [Bridge.queryMetadata, queryName, querySymbol, ht, hname, hsymbol]
  rfl

/-- A deployed token has the metadata of the attestation it was deployed with. -/
theorem wrappedBy_createWrapped {token : Address} {a : Attestation w.bridge tokenChain tokenAddress}
    (h : createWrapped env w a.vm true "" = .ok (w', token)) : WrappedBy w.bridge w' token a := by
  simp only [createWrapped, deployWrapped, bind_eq_ok, require_eq_ok] at h
  obtain ⟨_, -, meta', hmeta, _, -, _, -, t, hinit, _, ⟨-, -, -, hzero⟩, h⟩ := h
  obtain rfl : a.assetMeta = meta' := Except.ok.inj (a.parse.symm.trans hmeta)
  obtain ⟨rfl, rfl⟩ := Prod.mk.inj (Except.ok.inj h)
  obtain ⟨-, rfl⟩ := TokenImplementation.initializeContract_eq_ok hinit
  constructor
  · rfl
  · show Function.update w.bridge.wrappedAssets _ _ tokenChain tokenAddress = _
    rw [a.chain, a.address, Function.update_self, Function.update_self]
  · exact hzero
  · exact ⟨_, Function.update_self .., rfl, rfl, rfl, rfl⟩

/-- **An update** is taken if its sequence is larger, and reverts otherwise. -/
theorem WrappedBy.submit {token : Address} {held new : Attestation s tokenChain tokenAddress}
    (h : WrappedBy s w token held) :
    WrappedBy s (new.submit w) token (offer Attestation.sequence held new) := by
  obtain ⟨t, ht, howner, hname, hsymbol, hsequence⟩ := h.contract
  have hcheck : checkBridgeVM w.bridge new.vm true "" = .ok () := by
    have hemitter : verifyBridgeVM w.bridge new.vm = true := by
      rw [verifyBridgeVM, h.emitters]
      exact new.emitter
    rw [checkBridgeVM, hemitter]
    rfl
  have hentry : w.bridge.wrappedAssets new.assetMeta.tokenChain new.assetMeta.tokenAddress = token := by
    rw [new.chain, new.address]
    exact h.entry
  have hupdate : updateWrapped w new.vm true "" = (TokenImplementation.updateDetails t w.bridge.self
      (bytes32ToString new.assetMeta.name) (bytes32ToString new.assetMeta.symbol) new.sequence).map
        fun t => (w.setToken token t, token) := by
    rw [updateWrapped, hcheck, ok_bind, new.parse, ok_bind, updateWrappedDetails, hentry, require,
      if_pos h.token_ne_zero, ok_bind, tokenAt, ht]
    rfl
  have hdetails : TokenImplementation.updateDetails t w.bridge.self (bytes32ToString new.assetMeta.name)
      (bytes32ToString new.assetMeta.symbol) new.sequence = if held.sequence < new.sequence then
        .ok { t with
          name := bytes32ToString new.assetMeta.name
          symbol := bytes32ToString new.assetMeta.symbol
          metaLastUpdatedSequence := new.sequence }
      else .error "current metadata is up to date" := by
    rw [TokenImplementation.updateDetails, TokenImplementation.onlyOwner, require, if_pos howner, ok_bind, require,
      hsequence]
    split <;> rfl
  rw [Attestation.submit, hupdate, hdetails, offer]
  by_cases hlt : held.sequence < new.sequence
  · rw [if_pos hlt, if_pos hlt]
    refine ⟨h.emitters, h.entry, h.token_ne_zero, ?_⟩
    exact ⟨_, Function.update_self .., howner, rfl, rfl, rfl⟩
  · rw [if_neg hlt, if_neg hlt]
    exact h

/-- **The submissions in any order** leave the newest attestation. -/
theorem wrappedBy_submissions {token : Address} {first : Attestation s tokenChain tokenAddress}
    (h : WrappedBy s w token first) (rest : List (Attestation s tokenChain tokenAddress)) :
    WrappedBy s (rest.foldl Attestation.submit w) token (rest.foldl (offer Attestation.sequence) first) := by
  induction rest generalizing w first with
  | nil => exact h
  | cons new rest ih => exact ih h.submit

end Wormhole.Ethereum.Bridge

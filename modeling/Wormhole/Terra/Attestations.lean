/-
# Wormhole.Terra.Attestations — the metadata of wrapped assets on Terra.

The bridge keeps the sequence of the last attestation of an asset, and the asset's contract keeps the name and the
symbol.  The first attestation goes through three calls, the bridge's, the instantiation and the hook; a later one
through two, the bridge's and the update.  `Outcome` is what becomes of such a transaction, with failures that
undo it.

As on Ethereum, a wrapped asset is a register that takes larger sequences only (`Held.submits`).
-/
import Mathlib
import Wormhole.Lib.Bytes
import Wormhole.Lib.Go
import Wormhole.Lib.Newest
import Wormhole.Lib.Transition
import Wormhole.Terra.Cosmwasm
import Wormhole.Terra.TokenBridge
import Wormhole.Terra.TokenContract
import Wormhole.Terra.WrappedRegistry

namespace Wormhole.Terra.TokenBridge

open Wormhole.Lib Wormhole.Lib.Bytes Wormhole.Lib.Transition

/-! ## Attestations -/

/-- An attestation of a token, as the core contract returns it, by a bridge that is registered. -/
structure Attestation (s : ContractState) (tokenChain : Nat) (tokenAddress : List UInt8) where
  vaa : ParsedVAA
  assetMeta : AssetMeta
  parse : ∃ payload, TokenBridgeMessage.deserialize vaa.payload = .ok (Action.ATTEST_META, payload) ∧
    AssetMeta.deserialize payload = .ok assetMeta
  chain : assetMeta.tokenChain = tokenChain
  address : assetMeta.tokenAddress = tokenAddress
  emitter : s.bridgeContracts vaa.emitterChain = some vaa.emitterAddress
  not_governance : ¬(s.govChain = vaa.emitterChain ∧ s.govAddress = vaa.emitterAddress)

/-- The name and the symbol in the answer of `query_token_info` of `cw20-wrapped`. -/
def queryTokenInfo (t : WrappedAsset) : String × String := (t.name ++ " (Wormhole)", t.symbol)

section Machine

variable (keccak256 : List UInt8 → FixedBytes 32) (addresses : Addresses) (getStringFrom32 : List UInt8 → String)

/-- The name and the symbol of the wrapped asset of a token. -/
def queryMetadata (w : Chain) (tokenChain : Nat) (tokenAddress : List UInt8) : Option (String × String) := do
  let contractAddr ← w.bridge.wrappedAsset (buildAssetId keccak256 tokenChain tokenAddress)
  let t ← w.wrapped contractAddr
  return queryTokenInfo t

/-- What becomes of a call under some choices: a failure undoes the transaction. -/
inductive Outcome (ok : Config → Choice → Prop) (w : Chain) (call : Call) : Chain → Prop where
  | completed {w' : Chain} (hrun : Run (step keccak256 addresses) ok ⟨w, [call]⟩ ⟨w', []⟩) : Outcome ok w call w'
  | failed {c : Config} {choice : Choice} (hrun : Run (step keccak256 addresses) ok ⟨w, [call]⟩ c)
      (hok : ok c choice) (hcall : c.stack ≠ []) (hfails : step keccak256 addresses c choice = none) :
      Outcome ok w call w

/-- The chain's choices, with a core contract that accepts the VAA. -/
structure Verifies (data : List UInt8) (vaa : ParsedVAA) (c : Config) (choice : Choice) : Prop where
  permitted : Permitted addresses c choice
  verifyVaa : choice.env.verifyVaa data = .ok vaa
  getStringFrom32 : choice.env.getStringFrom32 = getStringFrom32

variable {s : ContractState} {tokenChain : Nat} {tokenAddress : List UInt8}

namespace Attestation

def sequence (a : Attestation s tokenChain tokenAddress) : Nat := a.vaa.sequence

/-- The name and the symbol of an asset with the attested metadata. -/
def metadata (a : Attestation s tokenChain tokenAddress) : String × String :=
  (getStringFrom32 a.assetMeta.name ++ " (Wormhole)", getStringFrom32 a.assetMeta.symbol)

/-- Somebody submits the attestation. -/
def Submits (a : Attestation s tokenChain tokenAddress) (w w' : Chain) : Prop :=
  ∃ sender funds data, Outcome keccak256 addresses (Verifies addresses getStringFrom32 data a.vaa) w
    (.execute sender funds (.submitVaa data)) w'

/-- The attestation is submitted and creates the wrapped asset. -/
def Creates (a : Attestation s tokenChain tokenAddress) (w w' : Chain) : Prop :=
  w.bridge.wrappedAsset (buildAssetId keccak256 tokenChain tokenAddress) = none ∧
    ∃ sender funds data, Run (step keccak256 addresses) (Verifies addresses getStringFrom32 data a.vaa)
      ⟨w, [.execute sender funds (.submitVaa data)]⟩ ⟨w', []⟩

/-- Attestations are submitted one after the other. -/
inductive Submissions : List (Attestation s tokenChain tokenAddress) → Chain → Chain → Prop where
  | nil {w : Chain} : Submissions [] w w
  | cons {a : Attestation s tokenChain tokenAddress} {rest : List (Attestation s tokenChain tokenAddress)}
      {w w₁ w' : Chain} (hfirst : a.Submits keccak256 addresses getStringFrom32 w w₁)
      (hrest : Submissions rest w₁ w') : Submissions (a :: rest) w w'

end Attestation

end Machine

section Register

variable {keccak256 : List UInt8 → FixedBytes 32} {addresses : Addresses} {getStringFrom32 : List UInt8 → String}
  {env : ContractEnv} {s : ContractState} {tokenChain : Nat} {tokenAddress : List UInt8} {w w' : Chain}
  {sender contractAddr : String} {funds : List Coin} {data : List UInt8} {choice : Choice}

/-! ## The bridge's call -/

variable (s) in
/-- The bridges and the governance of the storage are those of `s`. -/
structure SameEmitters (s' : ContractState) : Prop where
  bridgeContracts : s'.bridgeContracts = s.bridgeContracts
  govChain : s'.govChain = s.govChain
  govAddress : s'.govAddress = s.govAddress

/-- The storage with the VAA marked as executed. -/
def archive (s : ContractState) (vaa : ParsedVAA) : ContractState :=
  { s with vaaArchive := Function.update s.vaaArchive vaa.hash true }

/-- **When an attestation is accepted,** given that the core contract accepts it. -/
theorem submitVaa_eq_ok {s' : ContractState} {r : Response} (hemitters : SameEmitters s s')
    (a : Attestation s tokenChain tokenAddress) (hverify : env.verifyVaa data = .ok a.vaa) :
    submitVaa keccak256 env s' sender data = .ok r ↔ s'.vaaArchive a.vaa.hash = false ∧ CHAIN_ID ≠ tokenChain ∧
      Attests keccak256 env (archive s' a.vaa) a.assetMeta a.sequence r := by
  obtain ⟨payload, hmessage, hmeta⟩ := a.parse
  have hgovernance : ¬(s'.govChain = a.vaa.emitterChain ∧ s'.govAddress = a.vaa.emitterAddress) := by
    rw [hemitters.govChain, hemitters.govAddress]
    exact a.not_governance
  have hemitter : (archive s' a.vaa).bridgeContracts a.vaa.emitterChain = some a.vaa.emitterAddress := by
    show s'.bridgeContracts a.vaa.emitterChain = _
    rw [hemitters.bridgeContracts]
    exact a.emitter
  have hdispatch : submitVaa keccak256 env s' sender data = (do
      ensure (s'.vaaArchive a.vaa.hash = false) "VaaAlreadyExecuted"
      handleAttestMeta keccak256 env (archive s' a.vaa) a.vaa.emitterChain a.vaa.emitterAddress a.vaa.sequence
        payload) := by
    rw [submitVaa, hverify]
    show (do
      ensure (s'.vaaArchive a.vaa.hash = false) "VaaAlreadyExecuted"
      if s'.govChain = a.vaa.emitterChain ∧ s'.govAddress = a.vaa.emitterAddress then
        handleGovernancePayload env (archive s' a.vaa) a.vaa.payload
      else handleMessage keccak256 env (archive s' a.vaa) sender a.vaa) = _
    rw [if_neg hgovernance, handleMessage, hmessage]
    rfl
  rw [hdispatch, Go.bind_eq_ok]
  constructor
  · rintro ⟨_, hfresh, hattest⟩
    obtain ⟨meta', hmeta', -, hchain, hattests⟩ := handleAttestMeta_eq_ok.mp hattest
    obtain rfl : a.assetMeta = meta' := Go.ok.inj (hmeta.symm.trans hmeta')
    rw [a.chain] at hchain
    exact ⟨ensure_eq_ok.mp hfresh, hchain, hattests⟩
  · rintro ⟨hfresh, hchain, hattests⟩
    rw [← a.chain] at hchain
    exact ⟨(), ensure_eq_ok.mpr hfresh, handleAttestMeta_eq_ok.mpr ⟨_, hmeta, hemitter, hchain, hattests⟩⟩

/-- The storage after an attestation of an asset that is there. -/
def recorded (keccak256 : List UInt8 → FixedBytes 32) (s' : ContractState)
    (a : Attestation s tokenChain tokenAddress) : ContractState :=
  setWrappedAssetSeq (archive s' a.vaa) (buildAssetId keccak256 tokenChain tokenAddress) a.sequence

variable (keccak256 addresses getStringFrom32) in
/-- The contract of the wrapped asset has the metadata of the attestation, and the bridge has its sequence. -/
structure Held (contractAddr : String) (w : Chain) (held : Attestation s tokenChain tokenAddress) : Prop where
  emitters : SameEmitters s w.bridge
  foreign : CHAIN_ID ≠ tokenChain
  entry : w.bridge.wrappedAsset (buildAssetId keccak256 tokenChain tokenAddress) = some contractAddr
  last : w.bridge.wrappedAssetSeq (buildAssetId keccak256 tokenChain tokenAddress) = some held.sequence
  contract : ∃ t, w.wrapped contractAddr = some t ∧ addresses.canonicalize addresses.self = .ok t.bridge ∧
    t.name = getStringFrom32 held.assetMeta.name ∧ t.symbol = getStringFrom32 held.assetMeta.symbol

variable {held new : Attestation s tokenChain tokenAddress}

theorem Held.queryMetadata (h : Held keccak256 addresses getStringFrom32 contractAddr w held) :
    queryMetadata keccak256 w tokenChain tokenAddress = some (held.metadata getStringFrom32) := by
  obtain ⟨t, ht, -, hname, hsymbol⟩ := h.contract
  simp only [TokenBridge.queryMetadata, h.entry, ht, Option.bind_eq_bind, Option.bind_some]
  rw [queryTokenInfo, hname, hsymbol]
  rfl

/-! ## An update -/

/-- The call of the bridge: the attestation must be new, and its sequence larger. -/
theorem Held.step_submitVaa (h : Held keccak256 addresses getStringFrom32 contractAddr w held) {c c' : Config}
    (hok : Verifies addresses getStringFrom32 data new.vaa c choice) :
    step keccak256 addresses ⟨w, [.execute sender funds (.submitVaa data)]⟩ choice = some c' ↔
      w.bridge.vaaArchive new.vaa.hash = false ∧ held.sequence < new.sequence ∧
        c' = ⟨{ w with bridge := recorded keccak256 w.bridge new }, [.updateMetadata addresses.self contractAddr
          (getStringFrom32 new.assetMeta.name) (getStringFrom32 new.assetMeta.symbol)]⟩ := by
  have hid : buildAssetId keccak256 new.assetMeta.tokenChain new.assetMeta.tokenAddress =
      buildAssetId keccak256 tokenChain tokenAddress := by
    rw [new.chain, new.address]
  rw [step_eq_some]
  constructor
  · rintro ⟨w', calls, hhandle, rfl⟩
    obtain ⟨r, hexecute, hhandle⟩ := Go.bind_eq_ok.mp hhandle
    obtain ⟨rfl, rfl⟩ := Prod.mk.inj (Go.ok.inj hhandle)
    obtain ⟨hfresh, -, hattests⟩ := (submitVaa_eq_ok h.emitters new hok.verifyVaa).mp hexecute
    cases hattests with
    | @update contractAddr' last hasset hlast hnewer =>
      rw [hid] at hasset hlast
      obtain rfl := Option.some.inj (h.entry.symm.trans hasset)
      obtain rfl := Option.some.inj (h.last.symm.trans hlast)
      refine ⟨hfresh, hnewer, ?_⟩
      rw [hid, hok.getStringFrom32]
      rfl
    | create hasset =>
      rw [hid] at hasset
      cases h.entry.symm.trans hasset
  · rintro ⟨hfresh, hlt, rfl⟩
    have hattests : Attests keccak256 choice.env (archive w.bridge new.vaa) new.assetMeta new.sequence _ :=
      .update (by rw [hid]; exact h.entry) (by rw [hid]; exact h.last) hlt
    have hexecute : submitVaa keccak256 choice.env w.bridge sender data = .ok _ :=
      (submitVaa_eq_ok h.emitters new hok.verifyVaa).mpr ⟨hfresh, h.foreign, hattests⟩
    refine ⟨_, _, Go.bind_eq_ok.mpr ⟨_, hexecute, rfl⟩, ?_⟩
    rw [hid, hok.getStringFrom32]
    rfl

/-- The call of the wrapped asset. -/
theorem step_updateMetadata {t : WrappedAsset} {c : Config} {name symbol : String}
    (ht : w.wrapped contractAddr = some t) (hbridge : addresses.canonicalize addresses.self = .ok t.bridge)
    (hok : Permitted addresses c choice) :
    step keccak256 addresses ⟨w, [.updateMetadata addresses.self contractAddr name symbol]⟩ choice =
      some ⟨w.setWrapped contractAddr { t with name, symbol }, []⟩ := by
  have hupdate : executeUpdateMetadata choice.env t addresses.self name symbol = .ok { t with name, symbol } := by
    rw [executeUpdateMetadata, hok.canonicalize, hbridge, Go.ok_bind]
    exact Go.bind_eq_ok.mpr ⟨(), ensure_eq_ok.mpr rfl, rfl⟩
  refine step_eq_some.mpr ⟨_, [], ?_, rfl⟩
  rw [handle, ht]
  show (executeUpdateMetadata choice.env t addresses.self name symbol).bind _ = _
  rw [hupdate]
  rfl

/-- An attestation that is not newer reverts, or has been executed before. -/
theorem Held.submits_old (h : Held keccak256 addresses getStringFrom32 contractAddr w held)
    (hsubmits : new.Submits keccak256 addresses getStringFrom32 w w') (hle : new.sequence ≤ held.sequence) :
    w' = w := by
  obtain ⟨sender, funds, data, houtcome⟩ := hsubmits
  have hstuck : ∀ {c}, Run (step keccak256 addresses) (Verifies addresses getStringFrom32 data new.vaa)
      ⟨w, [.execute sender funds (.submitVaa data)]⟩ c → c = ⟨w, [.execute sender funds (.submitVaa data)]⟩ := by
    intro c hrun
    refine hrun.invariant (I := fun c => c = _) ?_ rfl
    rintro _ choice c' rfl hok hstep
    obtain ⟨-, hlt, -⟩ := (h.step_submitVaa hok).mp hstep
    omega
  cases houtcome with
  | completed hrun => cases hstuck hrun
  | failed => rfl

/-- **A newer attestation** goes through. -/
theorem Held.submits_new (h : Held keccak256 addresses getStringFrom32 contractAddr w held)
    (hsubmits : new.Submits keccak256 addresses getStringFrom32 w w') (hlt : held.sequence < new.sequence)
    (hfresh : w.bridge.vaaArchive new.vaa.hash = false) :
    Held keccak256 addresses getStringFrom32 contractAddr w' new ∧
      w'.bridge.vaaArchive = Function.update w.bridge.vaaArchive new.vaa.hash true := by
  obtain ⟨sender, funds, data, houtcome⟩ := hsubmits
  obtain ⟨t, ht, hbridge, -, -⟩ := h.contract
  let recording : Config := ⟨{ w with bridge := recorded keccak256 w.bridge new },
    [.updateMetadata addresses.self contractAddr (getStringFrom32 new.assetMeta.name)
      (getStringFrom32 new.assetMeta.symbol)]⟩
  let t' : WrappedAsset := { t with
    name := getStringFrom32 new.assetMeta.name, symbol := getStringFrom32 new.assetMeta.symbol }
  let updated : Config := ⟨recording.chain.setWrapped contractAddr t', []⟩
  -- the two calls, neither of which can fail
  have hsubmit : ∀ {choice}, Verifies addresses getStringFrom32 data new.vaa
      ⟨w, [.execute sender funds (.submitVaa data)]⟩ choice →
      step keccak256 addresses ⟨w, [.execute sender funds (.submitVaa data)]⟩ choice = some recording :=
    fun hok => (h.step_submitVaa hok).mpr ⟨hfresh, hlt, rfl⟩
  have hupdate : ∀ {choice}, Verifies addresses getStringFrom32 data new.vaa recording choice →
      step keccak256 addresses recording choice = some updated :=
    fun hok => step_updateMetadata ht hbridge hok.permitted
  have hreaches : ∀ {c}, Run (step keccak256 addresses) (Verifies addresses getStringFrom32 data new.vaa)
      ⟨w, [.execute sender funds (.submitVaa data)]⟩ c →
      c = ⟨w, [.execute sender funds (.submitVaa data)]⟩ ∨ c = recording ∨ c = updated := by
    intro c hrun
    refine hrun.invariant (I := fun c => c = _ ∨ c = recording ∨ c = updated) ?_ (.inl rfl)
    rintro _ choice c' (rfl | rfl | rfl) hok hstep
    · exact .inr (.inl (Option.some.inj (hstep.symm.trans (hsubmit hok))))
    · exact .inr (.inr (Option.some.inj (hstep.symm.trans (hupdate hok))))
    · cases hstep
  cases houtcome with
  | completed hrun =>
    rcases hreaches hrun with hend | hend | hend
    · cases hend
    · exact absurd (congrArg Config.stack hend) (List.cons_ne_nil _ _).symm
    · obtain rfl : w' = updated.chain := congrArg Config.chain hend
      refine ⟨⟨⟨?_, ?_, ?_⟩, h.foreign, h.entry, Function.update_self .., t', Function.update_self .., hbridge, rfl,
        rfl⟩, rfl⟩
      · exact h.emitters.bridgeContracts
      · exact h.emitters.govChain
      · exact h.emitters.govAddress
  | failed hrun hok hcall hfails =>
    rcases hreaches hrun with rfl | rfl | rfl
    · cases hfails.symm.trans (hsubmit hok)
    · cases hfails.symm.trans (hupdate hok)
    · cases hcall rfl

/-- **One more attestation.** -/
theorem Held.submits (h : Held keccak256 addresses getStringFrom32 contractAddr w held)
    (hsubmits : new.Submits keccak256 addresses getStringFrom32 w w')
    (harchive : w.bridge.vaaArchive new.vaa.hash = true → new.sequence ≤ held.sequence) :
    Held keccak256 addresses getStringFrom32 contractAddr w' (offer Attestation.sequence held new) ∧
      ∀ hash, w'.bridge.vaaArchive hash = true → w.bridge.vaaArchive hash = true ∨ hash = new.vaa.hash := by
  by_cases hlt : held.sequence < new.sequence
  · have hfresh : w.bridge.vaaArchive new.vaa.hash = false := by
      rw [← Bool.not_eq_true]
      intro htrue
      exact absurd (harchive htrue) (not_le.mpr hlt)
    obtain ⟨hheld, harchived⟩ := h.submits_new hsubmits hlt hfresh
    rw [offer, if_pos hlt]
    refine ⟨hheld, ?_⟩
    intro hash hhash
    by_cases heq : hash = new.vaa.hash
    · exact .inr heq
    · rw [harchived, Function.update_of_ne heq] at hhash
      exact .inl hhash
  · obtain rfl := h.submits_old hsubmits (not_lt.mp hlt)
    rw [offer, if_neg hlt]
    exact ⟨h, fun _ => .inl⟩

/-- **The submissions in any order** leave the newest attestation. -/
theorem Held.submissions {rest : List (Attestation s tokenChain tokenAddress)}
    (h : Held keccak256 addresses getStringFrom32 contractAddr w held)
    (hsubmissions : Attestation.Submissions keccak256 addresses getStringFrom32 rest w w')
    (harchive : ∀ a ∈ rest, w.bridge.vaaArchive a.vaa.hash = true → a.sequence ≤ held.sequence)
    (hhashes : ∀ a ∈ rest, ∀ b ∈ rest, a.vaa.hash = b.vaa.hash → a.sequence = b.sequence) :
    Held keccak256 addresses getStringFrom32 contractAddr w' (rest.foldl (offer Attestation.sequence) held) := by
  induction hsubmissions generalizing held with
  | nil => exact h
  | @cons a rest w w₁ w' hfirst hrest ih =>
    obtain ⟨hheld, harchived⟩ := h.submits hfirst (harchive a List.mem_cons_self)
    refine ih hheld ?_ fun b hb c hc => hhashes b (List.mem_cons_of_mem a hb) c (List.mem_cons_of_mem a hc)
    intro b hb hhash
    rcases harchived b.vaa.hash hhash with hbefore | heq
    · exact (harchive b (List.mem_cons_of_mem a hb) hbefore).trans le_offer_held
    · rw [hhashes b (List.mem_cons_of_mem a hb) a List.mem_cons_self heq]
      exact le_offer_new

/-! ## The creation -/

variable (keccak256 addresses getStringFrom32) in
/-- **The transaction of a first attestation**: submitted, marked, instantiated, registered. -/
inductive Creating (first : Attestation s tokenChain tokenAddress) (w : Chain) (submission : Call) :
    Config → Prop where
  | submitted : Creating first w submission ⟨w, [submission]⟩
  | marked {w₁ : Chain} {init : WrappedInit} (hemitters : SameEmitters s w₁.bridge) (hforeign : CHAIN_ID ≠ tokenChain)
      (hlast : w₁.bridge.wrappedAssetSeq (buildAssetId keccak256 tokenChain tokenAddress) = some first.sequence)
      (harchive : w₁.bridge.vaaArchive = (archive w.bridge first.vaa).vaaArchive)
      (hname : init.name = getStringFrom32 first.assetMeta.name)
      (hsymbol : init.symbol = getStringFrom32 first.assetMeta.symbol)
      (hhook : init.initHook =
        some (.bridge (.registerAssetHook (buildAssetId keccak256 tokenChain tokenAddress)))) :
      Creating first w submission ⟨w₁, [.instantiate addresses.self init]⟩
  | instantiated {w₁ : Chain} {a : String} {t : WrappedAsset} (hemitters : SameEmitters s w₁.bridge)
      (hforeign : CHAIN_ID ≠ tokenChain)
      (hlast : w₁.bridge.wrappedAssetSeq (buildAssetId keccak256 tokenChain tokenAddress) = some first.sequence)
      (harchive : w₁.bridge.vaaArchive = (archive w.bridge first.vaa).vaaArchive)
      (ht : w₁.wrapped a = some t) (hbridge : addresses.canonicalize addresses.self = .ok t.bridge)
      (hname : t.name = getStringFrom32 first.assetMeta.name)
      (hsymbol : t.symbol = getStringFrom32 first.assetMeta.symbol) :
      Creating first w submission
        ⟨w₁, [.execute a [] (.registerAssetHook (buildAssetId keccak256 tokenChain tokenAddress))]⟩
  | registered {w₁ : Chain} {a : String} (hheld : Held keccak256 addresses getStringFrom32 a w₁ first)
      (harchive : w₁.bridge.vaaArchive = (archive w.bridge first.vaa).vaaArchive) :
      Creating first w submission ⟨w₁, []⟩

theorem Creating.of_step {first : Attestation s tokenChain tokenAddress} {c c' : Config}
    (hemitters : SameEmitters s w.bridge)
    (hunset : w.bridge.wrappedAsset (buildAssetId keccak256 tokenChain tokenAddress) = none)
    (h : Creating keccak256 addresses getStringFrom32 first w (.execute sender funds (.submitVaa data)) c)
    (hok : Verifies addresses getStringFrom32 data first.vaa c choice)
    (hstep : step keccak256 addresses c choice = some c') :
    Creating keccak256 addresses getStringFrom32 first w (.execute sender funds (.submitVaa data)) c' := by
  cases h with
  | submitted =>
    obtain ⟨w₁, calls, hhandle, rfl⟩ := step_eq_some.mp hstep
    obtain ⟨r, hexecute, hhandle⟩ := Go.bind_eq_ok.mp hhandle
    obtain ⟨rfl, rfl⟩ := Prod.mk.inj (Go.ok.inj hhandle)
    obtain ⟨-, hforeign, hattests⟩ := (submitVaa_eq_ok hemitters first hok.verifyVaa).mp hexecute
    have hid : buildAssetId keccak256 first.assetMeta.tokenChain first.assetMeta.tokenAddress =
        buildAssetId keccak256 tokenChain tokenAddress := by
      rw [first.chain, first.address]
    cases hattests with
    | update hasset =>
      rw [hid] at hasset
      cases hunset.symm.trans hasset
    | create =>
      rw [hid]
      refine .marked ⟨?_, ?_, ?_⟩ hforeign (Function.update_self ..) rfl ?_ ?_ rfl
      · exact hemitters.bridgeContracts
      · exact hemitters.govChain
      · exact hemitters.govAddress
      · exact congrFun hok.getStringFrom32 _
      · exact congrFun hok.getStringFrom32 _
  | @marked w₁ init hemitters hforeign hlast harchive hname hsymbol hhook =>
    obtain ⟨w₂, calls, hhandle, rfl⟩ := step_eq_some.mp hstep
    obtain ⟨⟨t, calls'⟩, hinstantiate, hhandle⟩ := Go.bind_eq_ok.mp hhandle
    obtain ⟨rfl, rfl⟩ := Prod.mk.inj (Go.ok.inj hhandle)
    obtain ⟨bridge, hbridge, hinstantiate⟩ := Go.bind_eq_ok.mp hinstantiate
    obtain ⟨rfl, rfl⟩ := Prod.mk.inj (Go.ok.inj hinstantiate)
    rw [hok.permitted.canonicalize] at hbridge
    rw [hhook]
    exact .instantiated hemitters hforeign hlast harchive (Function.update_self ..) hbridge hname hsymbol
  | @instantiated w₁ a t hemitters hforeign hlast harchive ht hbridge hname hsymbol =>
    obtain ⟨w₂, calls, hhandle, rfl⟩ := step_eq_some.mp hstep
    obtain ⟨r, hexecute, hhandle⟩ := Go.bind_eq_ok.mp hhandle
    obtain ⟨rfl, rfl⟩ := Prod.mk.inj (Go.ok.inj hhandle)
    obtain ⟨state, hregister, hexecute⟩ := Go.bind_eq_ok.mp hexecute
    obtain rfl := Go.ok.inj hexecute
    obtain ⟨-, k, -, rfl⟩ := handleRegisterAsset_eq_ok hregister
    refine .registered ⟨⟨?_, ?_, ?_⟩, hforeign, Function.update_self .., hlast, t, ht, hbridge, hname, hsymbol⟩
      harchive
    · exact hemitters.bridgeContracts
    · exact hemitters.govChain
    · exact hemitters.govAddress
  | registered => cases hstep

/-- **The attestation that creates the wrapped asset.** -/
theorem Attestation.Creates.holds {first : Attestation s tokenChain tokenAddress}
    (hemitters : SameEmitters s w.bridge)
    (h : first.Creates keccak256 addresses getStringFrom32 w w') :
    (∃ a, Held keccak256 addresses getStringFrom32 a w' first) ∧
      w'.bridge.vaaArchive = Function.update w.bridge.vaaArchive first.vaa.hash true := by
  obtain ⟨hunset, sender, funds, data, hrun⟩ := h
  have hend := hrun.invariant (fun c choice c' hc hok hstep => Creating.of_step hemitters hunset hc hok hstep)
    .submitted
  cases hend with
  | registered hheld harchive => exact ⟨⟨_, hheld⟩, harchive⟩

end Register

end Wormhole.Terra.TokenBridge

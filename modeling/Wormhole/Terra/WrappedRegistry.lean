/-
# Wormhole.Terra.WrappedRegistry — the wrapped assets of Terra, and the contracts that are theirs.

The bridge learns the address of a wrapped asset only when the new contract calls back, and any contract may
send that hook with any asset id.  What protects the registration is the mark "updating", and that messages
are executed depth-first: when the bridge has set the mark, the next call is the instantiation of the contract,
and the one after that is its hook.

A `Config` is the chain inside a transaction, with a stack of the calls that are still to be made.  Contracts of
others send whatever they like; a failure undoes the transaction.  `Consistent` is the invariant of a
transaction, and `registered_assets` says what holds between transactions.
-/
import Mathlib
import Wormhole.Lib.Bytes
import Wormhole.Lib.Go
import Wormhole.Lib.Transition
import Wormhole.Terra.Cosmwasm
import Wormhole.Terra.Completions
import Wormhole.Terra.NativeCoins
import Wormhole.Terra.TokenBridge
import Wormhole.Terra.TokenTransfers
import Wormhole.Terra.TokenContract

namespace Wormhole.Terra.TokenBridge

open Wormhole.Lib Wormhole.Lib.Bytes Wormhole.Lib.Transition

/-! ## The chain -/

/-- The addresses that the chain gives to accounts and contracts, and their canonical form. -/
structure Addresses where
  canonicalize : String → StdResult (List UInt8)
  issued : String → Prop
  injective : ∀ {a b k}, issued a → issued b → canonicalize a = .ok k → canonicalize b = .ok k → a = b
  not_updating : ¬issued wrappedAssetUpdating
  /-- the bridge, `env.contract.address` -/
  self : String

/-- A contract of the code `cw20-wrapped`. -/
structure WrappedAsset where
  name : String
  symbol : String
  decimals : Nat
  assetChain : Nat
  assetAddress : List UInt8
  /-- the canonical address of the contract that instantiated it -/
  bridge : List UInt8
  deriving DecidableEq

structure Chain where
  bridge : ContractState
  wrapped : String → Option WrappedAsset

def Chain.setWrapped (w : Chain) (contractAddr : String) (t : WrappedAsset) : Chain :=
  { w with wrapped := Function.update w.wrapped contractAddr (some t) }

/-! ## Calls -/

/-- A message that is delivered, with its sender where somebody asks for it. -/
inductive Call where
  /-- of the bridge -/
  | execute (sender : String) (funds : List Coin) (msg : ExecuteMsg)
  /-- the bridge's reply -/
  | reply
  /-- the bridge's `migrate` -/
  | migrate
  /-- of a new `cw20-wrapped` contract -/
  | instantiate (sender : String) (init : WrappedInit)
  /-- of a `cw20-wrapped` contract -/
  | updateMetadata (sender contractAddr name symbol : String)
  /-- anything else that a contract is called for -/
  | other (contractAddr : String)

/-- What a contract may send. -/
def Call.SentBy (contractAddr : String) : Call → Prop
  | .execute sender _ _ => sender = contractAddr
  | .reply => False
  | .migrate => False
  | .instantiate sender _ => sender = contractAddr
  | .updateMetadata sender _ _ _ => sender = contractAddr
  | .other _ => True

/-- The call of a message of the bridge; coins are sent without one. -/
def CosmosMsg.calls : CosmosMsg → List Call
  | .send _ _ => []
  | .migrate _ => [.migrate]
  | .mint contractAddr _ _ => [.other contractAddr]
  | .burn contractAddr _ _ => [.other contractAddr]
  | .transfer contractAddr _ _ => [.other contractAddr]
  | .transferFrom contractAddr _ _ _ => [.other contractAddr]
  | .postMessage contractAddr _ _ _ => [.other contractAddr]

section Machine

variable (keccak256 : List UInt8 → FixedBytes 32) (addresses : Addresses)

def Message.calls : Message → List Call
  | .cosmos msg => CosmosMsg.calls msg
  | .instantiate init => [.instantiate addresses.self init]
  | .updateMetadata contractAddr name symbol => [.updateMetadata addresses.self contractAddr name symbol]

/-- The messages in order, and the submessages, each with its reply. -/
def Response.calls (r : Response) : List Call :=
  r.messages.flatMap (Message.calls addresses) ++ r.submessages.flatMap fun msg => CosmosMsg.calls msg ++ [.reply]

def InitHook.call (sender : String) : InitHook → Call
  | .bridge msg => .execute sender [] msg
  | .other contractAddr => .other contractAddr

/-- What the chain, and other contracts, decide for the next call. -/
structure Choice where
  env : ContractEnv
  /-- of a contract that is instantiated -/
  newAddress : String
  /-- that a contract of others sends -/
  calls : List Call

/-- `instantiate` of `cw20-wrapped`: the contract, and its hook. -/
def instantiateWrapped (env : ContractEnv) (sender newAddress : String) (init : WrappedInit) :
    StdResult (WrappedAsset × List Call) := do
  let bridge ← env.addrCanonicalize sender
  let t : WrappedAsset := {
    name := init.name, symbol := init.symbol, decimals := init.decimals, assetChain := init.assetChain,
    assetAddress := init.assetAddress, bridge }
  return (t, init.initHook.toList.map (InitHook.call newAddress))

/-- `execute_update_metadata` of `cw20-wrapped`. -/
def executeUpdateMetadata (env : ContractEnv) (t : WrappedAsset) (sender name symbol : String) :
    StdResult WrappedAsset := do
  let canonical ← env.addrCanonicalize sender
  -- Only bridge can update.
  ensure (t.bridge = canonical) "Unauthorized"
  return { t with name, symbol }

/-- One call, and the calls that it makes. -/
def handle (w : Chain) (choice : Choice) : Call → StdResult (Chain × List Call)
  | .execute sender funds msg => do
    let r ← execute keccak256 choice.env w.bridge sender funds msg
    return ({ w with bridge := r.state }, r.calls addresses)
  | .reply => do
    let (state, messages) ← reply choice.env.balance w.bridge.toTokenState
    return ({ w with bridge := { w.bridge with toTokenState := state } }, messages.flatMap CosmosMsg.calls)
  | .migrate => .ok (w, [])
  | .instantiate sender init => do
    let (t, calls) ← instantiateWrapped choice.env sender choice.newAddress init
    return (w.setWrapped choice.newAddress t, calls)
  | .updateMetadata sender contractAddr name symbol => do
    let t ← okOr "contract not found" (w.wrapped contractAddr)
    let t ← executeUpdateMetadata choice.env t sender name symbol
    return (w.setWrapped contractAddr t, [])
  | .other contractAddr => do
    -- the bridge knows no other messages
    ensure (contractAddr ≠ addresses.self) "unknown variant"
    return (w, choice.calls)

/-- The chain inside a transaction. -/
structure Config where
  chain : Chain
  stack : List Call

/-- The call on top of the stack; its own calls come first. -/
def step (c : Config) (choice : Choice) : Option Config :=
  match c.stack with
  | [] => none
  | call :: rest =>
    (committed (handle keccak256 addresses c.chain choice call)).map fun (w, calls) => ⟨w, calls ++ rest⟩

/-- What the chain promises of its choices: new contracts have new addresses, and contracts send as
themselves; the only message of a wrapped asset to the bridge is its hook. -/
structure Permitted (c : Config) (choice : Choice) : Prop where
  canonicalize : choice.env.addrCanonicalize = addresses.canonicalize
  issued : addresses.issued choice.newAddress
  unused : c.chain.wrapped choice.newAddress = none
  sent : ∀ contractAddr rest, c.stack = .other contractAddr :: rest →
    ∀ call ∈ choice.calls, call.SentBy contractAddr ∧
      ((c.chain.wrapped contractAddr).isSome → ∃ target, call = .other target)

/-- A transaction that goes through; its first call is of an account. -/
inductive Transaction : Chain → Chain → Prop where
  | intro {w w' : Chain} {account : String} {call : Call} (haccount : w.wrapped account = none)
      (hself : account ≠ addresses.self) (hsent : call.SentBy account)
      (hrun : Run (step keccak256 addresses) (Permitted addresses) ⟨w, [call]⟩ ⟨w', []⟩) : Transaction w w'

end Machine

/-- The bridge before its first message; there may be contracts of the code already. -/
structure Unused (w : Chain) : Prop where
  wrappedAsset : ∀ assetId, w.bridge.wrappedAsset assetId = none
  wrappedAssetAddress : ∀ canonical, w.bridge.wrappedAssetAddress canonical = none

theorem step_eq_some {keccak256 : List UInt8 → FixedBytes 32} {addresses : Addresses} {w : Chain} {call : Call}
    {stack : List Call} {choice : Choice} {c : Config} :
    step keccak256 addresses ⟨w, call :: stack⟩ choice = some c ↔
      ∃ w' calls, handle keccak256 addresses w choice call = .ok (w', calls) ∧ c = ⟨w', calls ++ stack⟩ := by
  rw [step, Option.map_eq_some_iff]
  constructor
  · rintro ⟨⟨w', calls⟩, hhandle, rfl⟩
    exact ⟨w', calls, committed_eq_some.mp hhandle, rfl⟩
  · rintro ⟨w', calls, hhandle, rfl⟩
    exact ⟨(w', calls), committed_eq_some.mpr hhandle, rfl⟩

/-! ## What a call does to the registry -/

section Effects

variable {keccak256 : List UInt8 → FixedBytes 32} {env : ContractEnv} {s s' : ContractState} {sender : String}
  {r : Response}

/-- The maps of wrapped assets are the same. -/
structure SameAssets (s s' : TokenState) : Prop where
  wrappedAsset : s'.wrappedAsset = s.wrappedAsset
  wrappedAssetAddress : s'.wrappedAssetAddress = s.wrappedAssetAddress

theorem handleRegisterAsset_eq_ok {assetId : List UInt8} (h : handleRegisterAsset env s sender assetId = .ok s') :
    s.wrappedAsset assetId = some wrappedAssetUpdating ∧
      ∃ canonical, env.addrCanonicalize sender = .ok canonical ∧
        s' = { setWrappedAsset s assetId sender with
          wrappedAssetAddress := Function.update s.wrappedAssetAddress canonical (some assetId) } := by
  simp only [handleRegisterAsset, Go.bind_eq_ok, okOr_eq_ok, ensure_eq_ok] at h
  obtain ⟨result, hresult, _, rfl, canonical, hcanonical, h⟩ := h
  exact ⟨hresult, canonical, hcanonical, (Go.ok.inj h).symm⟩

variable (keccak256 env s) in
/-- The two ways of taking an attestation. -/
inductive Attests (meta' : AssetMeta) (sequence : Nat) : Response → Prop where
  | update {contractAddr : String} {last : Nat}
      (hasset : s.wrappedAsset (buildAssetId keccak256 meta'.tokenChain meta'.tokenAddress) = some contractAddr)
      (hlast : s.wrappedAssetSeq (buildAssetId keccak256 meta'.tokenChain meta'.tokenAddress) = some last)
      (hnewer : last < sequence) :
      Attests meta' sequence
        ⟨setWrappedAssetSeq s (buildAssetId keccak256 meta'.tokenChain meta'.tokenAddress) sequence,
          [.updateMetadata contractAddr (env.getStringFrom32 meta'.name) (env.getStringFrom32 meta'.symbol)], []⟩
  | create (hasset : s.wrappedAsset (buildAssetId keccak256 meta'.tokenChain meta'.tokenAddress) = none) :
      Attests meta' sequence
        ⟨setWrappedAssetSeq (setWrappedAsset s (buildAssetId keccak256 meta'.tokenChain meta'.tokenAddress)
            wrappedAssetUpdating) (buildAssetId keccak256 meta'.tokenChain meta'.tokenAddress) sequence,
          [.instantiate (wrappedInit env meta' (buildAssetId keccak256 meta'.tokenChain meta'.tokenAddress))], []⟩

/-- **What an attestation that is accepted does.** -/
theorem handleAttestMeta_eq_ok {emitterChain sequence : Nat} {emitterAddress data : List UInt8} :
    handleAttestMeta keccak256 env s emitterChain emitterAddress sequence data = .ok r ↔
      ∃ meta', AssetMeta.deserialize data = .ok meta' ∧ s.bridgeContracts emitterChain = some emitterAddress ∧
        CHAIN_ID ≠ meta'.tokenChain ∧ Attests keccak256 env s meta' sequence r := by
  simp only [handleAttestMeta, Go.bind_eq_ok, okOr_eq_ok, ensure_eq_ok]
  constructor
  · rintro ⟨meta', hmeta, _, hcontract, _, rfl, _, hchain, ⟨s₁, message⟩, hasset, h⟩
    obtain rfl := Go.ok.inj h
    refine ⟨meta', hmeta, hcontract, hchain, ?_⟩
    unfold attestedAsset at hasset
    split at hasset
    · rename_i contractAddr hwrapped
      simp only [Go.bind_eq_ok, okOr_eq_ok, ensure_eq_ok] at hasset
      obtain ⟨last, hlast, _, hnewer, hasset⟩ := hasset
      obtain ⟨rfl, rfl⟩ := Prod.mk.inj (Go.ok.inj hasset)
      exact .update hwrapped hlast hnewer
    · rename_i hwrapped
      obtain ⟨rfl, rfl⟩ := Prod.mk.inj (Go.ok.inj hasset)
      exact .create hwrapped
  · rintro ⟨meta', hmeta, hcontract, hchain, hattests⟩
    refine ⟨meta', hmeta, _, hcontract, (), rfl, (), hchain, ?_⟩
    cases hattests with
    | @update contractAddr last hasset hlast hnewer =>
      refine ⟨(s, _), ?_, rfl⟩
      rw [attestedAsset, hasset, hlast]
      simp only [okOr, Go.bind_eq_ok, ensure_eq_ok]
      exact ⟨last, rfl, (), hnewer, rfl⟩
    | create hasset =>
      refine ⟨(_, _), ?_, rfl⟩
      rw [attestedAsset, hasset]
      rfl

theorem sendNative_sameAssets {s s' : State} {address : List UInt8} {amount : Nat}
    (h : sendNative s address amount = .ok s') : s'.wrappedAsset = s.wrappedAsset := by
  obtain ⟨-, rfl⟩ := sendNative_eq_ok.mp h
  rfl

theorem receiveNative_sameAssets {s s' : State} {address : List UInt8} {amount : Nat}
    (h : receiveNative s address amount = .ok s') : s'.wrappedAsset = s.wrappedAsset := by
  obtain ⟨_, -, rfl⟩ := receiveNative_eq_ok.mp h
  rfl

theorem completes_sameAssets {env : Env} {s s' : State} {data : List UInt8} {messages : List CosmosMsg}
    (h : Completes env s sender data s' messages) : s'.wrappedAsset = s.wrappedAsset := by
  cases h with
  | wrapped => rfl
  | token _ hcounted => exact receiveNative_sameAssets hcounted
  | native _ _ _ _ _ hcounted => exact receiveNative_sameAssets hcounted

theorem initiates_sameAssets {env : TokenEnv} {balance : String → StdResult Nat} {s : TokenState}
    {funds : List Coin} {request : Request} {called : Called}
    (h : Initiates env balance s sender funds request called) : SameAssets s called.state := by
  cases h with
  | native hasset hcall =>
    obtain ⟨-, -, -, s₁, _, _, _, htake, -, hsend, -, -, -⟩ := handleInitiateTransferNativeToken_eq_ok hcall
    obtain ⟨_, -, htake⟩ := Go.bind_eq_ok.mp htake
    obtain ⟨_, -, htake⟩ := Go.bind_eq_ok.mp htake
    refine ⟨?_, rfl⟩
    show _ = s.wrappedAsset
    rw [sendNative_sameAssets hsend, ← Go.ok.inj htake]
  | wrapped => exact ⟨rfl, rfl⟩
  | token => exact ⟨rfl, rfl⟩

theorem handleGovernancePayload_sameAssets {data : List UInt8} (h : handleGovernancePayload env s data = .ok r) :
    SameAssets s.toTokenState r.state.toTokenState := by
  simp only [handleGovernancePayload, Go.bind_eq_ok] at h
  obtain ⟨packet, -, _, -, _, -, h⟩ := h
  split at h
  · simp only [handleRegisterChain, Go.bind_eq_ok] at h
    obtain ⟨_, -, _, -, _, -, h⟩ := h
    rw [← Go.ok.inj h]
    exact ⟨rfl, rfl⟩
  · obtain ⟨_, -, h⟩ := Go.bind_eq_ok.mp h
    rw [← Go.ok.inj h]
    exact ⟨rfl, rfl⟩
  · cases h

variable (keccak256 env s sender) in
/-- What a call of the bridge does to the wrapped assets. -/
inductive RegistryEffect : Response → Prop where
  | same {r : Response} (h : SameAssets s.toTokenState r.state.toTokenState) : RegistryEffect r
  /-- an asset is marked, and its contract is instantiated next -/
  | attest {meta' : AssetMeta} {assetId : List UInt8} {state : ContractState}
      (hid : assetId = buildAssetId keccak256 meta'.tokenChain meta'.tokenAddress)
      (hunset : s.wrappedAsset assetId = none)
      (hasset : state.wrappedAsset = Function.update s.wrappedAsset assetId (some wrappedAssetUpdating))
      (haddress : state.wrappedAssetAddress = s.wrappedAssetAddress) :
      RegistryEffect ⟨state, [.instantiate (wrappedInit env meta' assetId)], []⟩
  /-- a marked asset gets the sender for its contract -/
  | register {assetId canonical : List UInt8} {state : ContractState}
      (hupdating : s.wrappedAsset assetId = some wrappedAssetUpdating)
      (hcanonical : env.addrCanonicalize sender = .ok canonical)
      (hasset : state.wrappedAsset = Function.update s.wrappedAsset assetId (some sender))
      (haddress : state.wrappedAssetAddress = Function.update s.wrappedAssetAddress canonical (some assetId)) :
      RegistryEffect (.of state)

theorem handleMessage_effect {vaa : ParsedVAA} (h : handleMessage keccak256 env s sender vaa = .ok r) :
    RegistryEffect keccak256 env s sender r := by
  obtain ⟨⟨action, payload⟩, -, h⟩ := Go.bind_eq_ok.mp h
  dsimp only at h
  split at h
  · obtain ⟨⟨state, messages⟩, hcomplete, h⟩ := Go.bind_eq_ok.mp h
    rw [← Go.ok.inj h]
    exact .same ⟨completes_sameAssets (handleCompleteTransfer_completes hcomplete), rfl⟩
  · split at h
    · obtain ⟨meta', -, -, -, hattests⟩ := handleAttestMeta_eq_ok.mp h
      cases hattests with
      | update => exact .same ⟨rfl, rfl⟩
      | create hasset => exact .attest rfl hasset rfl rfl
    · cases h

theorem submitVaa_effect {data : List UInt8} (h : submitVaa keccak256 env s sender data = .ok r) :
    RegistryEffect keccak256 env s sender r := by
  obtain ⟨vaa, -, h⟩ := Go.bind_eq_ok.mp h
  obtain ⟨_, -, h⟩ := Go.bind_eq_ok.mp h
  dsimp only at h
  split at h
  · have hsame := handleGovernancePayload_sameAssets h
    exact .same ⟨hsame.wrappedAsset, hsame.wrappedAssetAddress⟩
  · cases handleMessage_effect h with
    | same hsame => exact .same ⟨hsame.wrappedAsset, hsame.wrappedAssetAddress⟩
    | attest hid hunset hasset haddress => exact .attest hid hunset hasset haddress
    | register hupdating hcanonical hasset haddress => exact .register hupdating hcanonical hasset haddress

/-- **What a call of the bridge does to the wrapped assets.** -/
theorem execute_effect {funds : List Coin} {msg : ExecuteMsg}
    (h : execute keccak256 env s sender funds msg = .ok r) : RegistryEffect keccak256 env s sender r := by
  cases msg with
  | registerAssetHook assetId =>
    obtain ⟨state, hregister, h⟩ := Go.bind_eq_ok.mp h
    obtain ⟨hupdating, canonical, hcanonical, rfl⟩ := handleRegisterAsset_eq_ok hregister
    rw [← Go.ok.inj h]
    exact .register hupdating hcanonical rfl rfl
  | initiateTransfer request =>
    obtain ⟨called, hcalled, h⟩ := Go.bind_eq_ok.mp h
    rw [← Go.ok.inj h]
    have hsame := initiates_sameAssets (handleInitiateTransfer_initiates hcalled)
    exact .same ⟨hsame.wrappedAsset, hsame.wrappedAssetAddress⟩
  | depositTokens =>
    obtain ⟨state, hdeposit, h⟩ := Go.bind_eq_ok.mp h
    rw [← Go.ok.inj h]
    obtain ⟨_, rfl⟩ := depositTokens_frame hdeposit
    exact .same ⟨rfl, rfl⟩
  | withdrawTokens asset =>
    obtain ⟨⟨state, messages⟩, hwithdraw, h⟩ := Go.bind_eq_ok.mp h
    rw [← Go.ok.inj h]
    obtain ⟨_, rfl⟩ := withdrawTokens_frame hwithdraw
    exact .same ⟨rfl, rfl⟩
  | submitVaa data => exact submitVaa_effect h
  | createAssetMeta assetInfo nonce =>
    obtain ⟨_, -, h⟩ := Go.bind_eq_ok.mp h
    obtain ⟨_, -, h⟩ := Go.bind_eq_ok.mp h
    rw [← Go.ok.inj h]
    exact .same ⟨rfl, rfl⟩

theorem reply_sameAssets {balance : String → StdResult Nat} {s s' : TokenState} {messages : List CosmosMsg}
    (h : reply balance s = .ok (s', messages)) : SameAssets s s' := by
  obtain ⟨_, _, _, _, counted, -, -, -, -, -, hsend, rfl, -⟩ := reply_eq_ok h
  exact ⟨sendNative_sameAssets hsend, rfl⟩

end Effects

/-! ## The registry -/

section Registry

variable {keccak256 : List UInt8 → FixedBytes 32} {addresses : Addresses}

variable (keccak256 addresses) in
/-- The contract was instantiated by the bridge for the asset. -/
structure IsFor (t : WrappedAsset) (assetId : List UInt8) : Prop where
  bridge : addresses.canonicalize addresses.self = .ok t.bridge
  asset : assetId = buildAssetId keccak256 t.assetChain t.assetAddress

variable (keccak256 addresses) in
/-- The maps are inverse to each other, and their contracts are the bridge's; `pending` is an asset whose
contract has not called back. -/
structure Settled (pending : Option (List UInt8)) (w : Chain) : Prop where
  registered : ∀ {assetId a}, w.bridge.wrappedAsset assetId = some a → some assetId ≠ pending →
    addresses.issued a ∧
      (∃ k, addresses.canonicalize a = .ok k ∧ w.bridge.wrappedAssetAddress k = some assetId) ∧
      ∃ t, w.wrapped a = some t ∧ IsFor keccak256 addresses t assetId
  addressed : ∀ {k assetId}, w.bridge.wrappedAssetAddress k = some assetId → some assetId ≠ pending ∧
    ∃ a, addresses.canonicalize a = .ok k ∧ w.bridge.wrappedAsset assetId = some a
  updating : ∀ {assetId}, pending = some assetId → w.bridge.wrappedAsset assetId = some wrappedAssetUpdating

/-- The entries of one state are in another. -/
structure Extends (w w' : Chain) : Prop where
  wrappedAsset : ∀ {assetId a}, w.bridge.wrappedAsset assetId = some a → w'.bridge.wrappedAsset assetId = some a
  wrappedAssetAddress : ∀ {k assetId},
    w.bridge.wrappedAssetAddress k = some assetId → w'.bridge.wrappedAssetAddress k = some assetId

theorem Extends.refl (w : Chain) : Extends w w := ⟨id, id⟩

theorem Extends.trans {w w' w'' : Chain} (h : Extends w w') (h' : Extends w' w'') : Extends w w'' :=
  ⟨fun ha => h'.wrappedAsset (h.wrappedAsset ha), fun hk => h'.wrappedAssetAddress (h.wrappedAssetAddress hk)⟩

/-- The maps are the same, and contracts stay what they are. -/
structure Grows (w w' : Chain) : Prop where
  assets : SameAssets w.bridge.toTokenState w'.bridge.toTokenState
  contracts : ∀ {a t}, w.wrapped a = some t → ∃ t', w'.wrapped a = some t' ∧ t'.bridge = t.bridge ∧
    t'.assetChain = t.assetChain ∧ t'.assetAddress = t.assetAddress

theorem Grows.extends {w w' : Chain} (h : Grows w w') : Extends w w' := by
  constructor
  · intro assetId a ha
    rwa [h.assets.wrappedAsset]
  · intro k assetId hk
    rwa [h.assets.wrappedAssetAddress]

/-- A contract at a new address. -/
theorem Grows.deploy {w : Chain} {a : String} {t : WrappedAsset} (hunused : w.wrapped a = none) :
    Grows w (w.setWrapped a t) := by
  refine ⟨⟨rfl, rfl⟩, ?_⟩
  intro b t' ht'
  have hne : b ≠ a := by
    rintro rfl
    rw [hunused] at ht'
    cases ht'
  exact ⟨t', (Function.update_of_ne hne _ _).trans ht', rfl, rfl, rfl⟩

namespace Settled

variable {pending : Option (List UInt8)} {w w' : Chain} {assetId : List UInt8}

theorem grows (h : Settled keccak256 addresses pending w) (hgrows : Grows w w') :
    Settled keccak256 addresses pending w' := by
  have hsame := hgrows.assets
  constructor
  · intro assetId a ha hpending
    rw [hsame.wrappedAsset] at ha
    obtain ⟨hissued, hmapped, t, ht, hfor⟩ := h.registered ha hpending
    obtain ⟨t', ht', hbridge, hchain, haddress⟩ := hgrows.contracts ht
    refine ⟨hissued, ?_, t', ht', ?_, ?_⟩
    · rwa [hsame.wrappedAssetAddress]
    · rw [hbridge]
      exact hfor.bridge
    · rw [hchain, haddress]
      exact hfor.asset
  · intro k assetId hk
    rw [hsame.wrappedAssetAddress] at hk
    rw [hsame.wrappedAsset]
    exact h.addressed hk
  · intro assetId hpending
    rw [hsame.wrappedAsset]
    exact h.updating hpending

/-- Nothing is marked. -/
theorem not_updating (h : Settled keccak256 addresses none w) (assetId : List UInt8) :
    w.bridge.wrappedAsset assetId ≠ some wrappedAssetUpdating := by
  intro hmarked
  exact addresses.not_updating (h.registered hmarked nofun).1

/-- An asset that is not known is marked. -/
theorem mark (h : Settled keccak256 addresses none w) (hunset : w.bridge.wrappedAsset assetId = none)
    (hasset : w'.bridge.wrappedAsset = Function.update w.bridge.wrappedAsset assetId (some wrappedAssetUpdating))
    (haddress : w'.bridge.wrappedAssetAddress = w.bridge.wrappedAssetAddress) (hwrapped : w'.wrapped = w.wrapped) :
    Settled keccak256 addresses (some assetId) w' := by
  constructor
  · intro other a ha hother
    have hne : other ≠ assetId := fun heq => hother (congrArg some heq)
    rw [hasset, Function.update_of_ne hne] at ha
    rw [haddress, hwrapped]
    exact h.registered ha nofun
  · intro k other hk
    rw [haddress] at hk
    obtain ⟨-, a, hcanonical, ha⟩ := h.addressed hk
    have hne : other ≠ assetId := by
      rintro rfl
      rw [hunset] at ha
      cases ha
    refine ⟨fun heq => hne (Option.some.inj heq), a, hcanonical, ?_⟩
    rwa [hasset, Function.update_of_ne hne]
  · rintro _ ⟨⟩
    rw [hasset, Function.update_self]

/-- A contract of the bridge that is not registered has no entry. -/
theorem unaddressed (h : Settled keccak256 addresses pending w) {a : String} {k : List UInt8}
    (hissued : addresses.issued a) (hcanonical : addresses.canonicalize a = .ok k) (hnew : w.wrapped a = none) :
    w.bridge.wrappedAssetAddress k = none := by
  rw [Option.eq_none_iff_forall_ne_some]
  intro assetId hk
  obtain ⟨hpending, b, hb, hentry⟩ := h.addressed hk
  obtain ⟨hissued', -, t, ht, -⟩ := h.registered hentry hpending
  obtain rfl := addresses.injective hissued hissued' hcanonical hb
  rw [hnew] at ht
  cases ht

/-- The marked asset gets its contract. -/
theorem register (h : Settled keccak256 addresses (some assetId) w) {a : String} {k : List UInt8} {t : WrappedAsset}
    (hissued : addresses.issued a) (hcanonical : addresses.canonicalize a = .ok k)
    (hfree : w.bridge.wrappedAssetAddress k = none) (ht : w.wrapped a = some t)
    (hfor : IsFor keccak256 addresses t assetId)
    (hasset : w'.bridge.wrappedAsset = Function.update w.bridge.wrappedAsset assetId (some a))
    (haddress : w'.bridge.wrappedAssetAddress = Function.update w.bridge.wrappedAssetAddress k (some assetId))
    (hwrapped : w'.wrapped = w.wrapped) : Settled keccak256 addresses none w' := by
  constructor
  · intro other b hb _
    rw [hasset] at hb
    rw [haddress, hwrapped]
    by_cases hother : other = assetId
    · subst hother
      rw [Function.update_self] at hb
      obtain rfl := Option.some.inj hb
      exact ⟨hissued, ⟨k, hcanonical, Function.update_self ..⟩, t, ht, hfor⟩
    · rw [Function.update_of_ne hother] at hb
      obtain ⟨hissued', ⟨l, hl, hentry⟩, hcontract⟩ := h.registered hb fun heq => hother (Option.some.inj heq)
      refine ⟨hissued', ⟨l, hl, ?_⟩, hcontract⟩
      have hne : l ≠ k := by
        rintro rfl
        rw [hfree] at hentry
        cases hentry
      rwa [Function.update_of_ne hne]
  · intro l other hl
    refine ⟨nofun, ?_⟩
    rw [haddress] at hl
    rw [hasset]
    by_cases hlk : l = k
    · subst hlk
      rw [Function.update_self] at hl
      obtain rfl := Option.some.inj hl
      exact ⟨a, hcanonical, Function.update_self ..⟩
    · rw [Function.update_of_ne hlk] at hl
      obtain ⟨hother, b, hb, hentry⟩ := h.addressed hl
      refine ⟨b, hb, ?_⟩
      rwa [Function.update_of_ne fun heq => hother (congrArg some heq)]
  · nofun

end Settled

/-! ## The invariant of a transaction -/

variable (keccak256 addresses) in
/-- **The chain inside a transaction** that has begun at `base`: either nothing is marked, or one asset is, and the
next call is the instantiation of its contract or the hook of that contract. -/
inductive Consistent (base : Chain) : Config → Prop where
  | settled {w : Chain} {stack : List Call} (hsettled : Settled keccak256 addresses none w)
      (hbase : Extends base w) : Consistent base ⟨w, stack⟩
  | instantiating {w : Chain} {stack : List Call} {assetId : List UInt8} {init : WrappedInit}
      (hsettled : Settled keccak256 addresses (some assetId) w) (hbase : Extends base w)
      (hnew : base.bridge.wrappedAsset assetId = none)
      (hhook : init.initHook = some (.bridge (.registerAssetHook assetId)))
      (hid : assetId = buildAssetId keccak256 init.assetChain init.assetAddress) :
      Consistent base ⟨w, .instantiate addresses.self init :: stack⟩
  | registering {w : Chain} {stack : List Call} {assetId : List UInt8} {a : String} {t : WrappedAsset}
      (hsettled : Settled keccak256 addresses (some assetId) w) (hbase : Extends base w)
      (hnew : base.bridge.wrappedAsset assetId = none) (hissued : addresses.issued a)
      (ht : w.wrapped a = some t) (hfor : IsFor keccak256 addresses t assetId)
      (hfree : ∀ {k}, addresses.canonicalize a = .ok k → w.bridge.wrappedAssetAddress k = none) :
      Consistent base ⟨w, .execute a [] (.registerAssetHook assetId) :: stack⟩

namespace Consistent

variable {base : Chain} {w w' : Chain} {call : Call} {calls stack : List Call} {choice : Choice}

/-- A call between two registrations. -/
theorem of_settled (hsettled : Settled keccak256 addresses none w) (hbase : Extends base w)
    (hok : Permitted addresses ⟨w, call :: stack⟩ choice)
    (h : handle keccak256 addresses w choice call = .ok (w', calls)) :
    Consistent keccak256 addresses base ⟨w', calls ++ stack⟩ := by
  have hgrows : Grows w w' → Consistent keccak256 addresses base ⟨w', calls ++ stack⟩ := fun hgrows =>
    .settled (hsettled.grows hgrows) (hbase.trans hgrows.extends)
  cases call with
  | execute sender funds msg =>
    obtain ⟨r, hexecute, h⟩ := Go.bind_eq_ok.mp h
    obtain ⟨rfl, rfl⟩ := Prod.mk.inj (Go.ok.inj h)
    cases execute_effect hexecute with
    | same hsame => exact hgrows ⟨hsame, fun ht => ⟨_, ht, rfl, rfl, rfl⟩⟩
    | register hupdating => exact absurd hupdating (hsettled.not_updating _)
    | @attest meta' assetId state hid hunset hasset haddress =>
      have hnew : base.bridge.wrappedAsset assetId = none := by
        rw [Option.eq_none_iff_forall_ne_some]
        intro a ha
        have hset := hbase.wrappedAsset ha
        rw [hunset] at hset
        cases hset
      refine .instantiating (hsettled.mark hunset hasset haddress rfl) ⟨?_, ?_⟩ hnew rfl hid
      · intro other a ha
        have hne : other ≠ assetId := by
          rintro rfl
          rw [hnew] at ha
          cases ha
        show state.wrappedAsset other = some a
        rw [hasset, Function.update_of_ne hne]
        exact hbase.wrappedAsset ha
      · intro k other hk
        show state.wrappedAssetAddress k = some other
        rw [haddress]
        exact hbase.wrappedAssetAddress hk
  | reply =>
    obtain ⟨⟨state, messages⟩, hreply, h⟩ := Go.bind_eq_ok.mp h
    obtain ⟨rfl, rfl⟩ := Prod.mk.inj (Go.ok.inj h)
    exact hgrows ⟨reply_sameAssets hreply, fun ht => ⟨_, ht, rfl, rfl, rfl⟩⟩
  | migrate =>
    obtain ⟨rfl, rfl⟩ := Prod.mk.inj (Go.ok.inj h)
    exact hgrows ⟨⟨rfl, rfl⟩, fun ht => ⟨_, ht, rfl, rfl, rfl⟩⟩
  | instantiate sender init =>
    obtain ⟨⟨t, calls'⟩, -, h⟩ := Go.bind_eq_ok.mp h
    obtain ⟨rfl, rfl⟩ := Prod.mk.inj (Go.ok.inj h)
    exact hgrows (.deploy hok.unused)
  | updateMetadata sender contractAddr name symbol =>
    obtain ⟨t, ht, h⟩ := Go.bind_eq_ok.mp h
    obtain ⟨t₁, hupdate, h⟩ := Go.bind_eq_ok.mp h
    obtain ⟨rfl, rfl⟩ := Prod.mk.inj (Go.ok.inj h)
    rw [okOr_eq_ok] at ht
    simp only [executeUpdateMetadata, Go.bind_eq_ok] at hupdate
    obtain ⟨_, -, _, -, hupdate⟩ := hupdate
    obtain rfl := Go.ok.inj hupdate
    refine hgrows ⟨⟨rfl, rfl⟩, ?_⟩
    intro a t' ht'
    by_cases ha : a = contractAddr
    · subst ha
      obtain rfl := Option.some.inj (ht.symm.trans ht')
      exact ⟨_, Function.update_self .., rfl, rfl, rfl⟩
    · exact ⟨t', (Function.update_of_ne ha _ _).trans ht', rfl, rfl, rfl⟩
  | other contractAddr =>
    obtain ⟨_, -, h⟩ := Go.bind_eq_ok.mp h
    obtain ⟨rfl, rfl⟩ := Prod.mk.inj (Go.ok.inj h)
    exact hgrows ⟨⟨rfl, rfl⟩, fun ht => ⟨_, ht, rfl, rfl, rfl⟩⟩

/-- **Step.** -/
theorem of_step {c c' : Config} (h : Consistent keccak256 addresses base c) (hok : Permitted addresses c choice)
    (hstep : step keccak256 addresses c choice = some c') : Consistent keccak256 addresses base c' := by
  cases h with
  | @settled w stack hsettled hbase =>
    cases stack with
    | nil => cases hstep
    | cons call stack =>
      obtain ⟨w', calls, hhandle, rfl⟩ := step_eq_some.mp hstep
      exact of_settled hsettled hbase hok hhandle
  | @instantiating w stack assetId init hsettled hbase hnew hhook hid =>
    obtain ⟨w', calls, hhandle, rfl⟩ := step_eq_some.mp hstep
    obtain ⟨⟨t, calls'⟩, hinstantiate, hhandle⟩ := Go.bind_eq_ok.mp hhandle
    obtain ⟨rfl, rfl⟩ := Prod.mk.inj (Go.ok.inj hhandle)
    obtain ⟨bridge, hbridge, hinstantiate⟩ := Go.bind_eq_ok.mp hinstantiate
    obtain ⟨rfl, rfl⟩ := Prod.mk.inj (Go.ok.inj hinstantiate)
    rw [hok.canonicalize] at hbridge
    rw [hhook]
    have hgrows := fun t => Grows.deploy (t := t) hok.unused
    refine .registering (hsettled.grows (hgrows _)) (hbase.trans (hgrows _).extends) hnew hok.issued
      (Function.update_self ..) ⟨hbridge, hid⟩ ?_
    intro k hk
    exact hsettled.unaddressed hok.issued hk hok.unused
  | @registering w stack assetId a t hsettled hbase hnew hissued ht hfor hfree =>
    obtain ⟨w', calls, hhandle, rfl⟩ := step_eq_some.mp hstep
    obtain ⟨r, hexecute, hhandle⟩ := Go.bind_eq_ok.mp hhandle
    obtain ⟨rfl, rfl⟩ := Prod.mk.inj (Go.ok.inj hhandle)
    obtain ⟨state, hregister, hexecute⟩ := Go.bind_eq_ok.mp hexecute
    obtain rfl := Go.ok.inj hexecute
    obtain ⟨-, k, hk, rfl⟩ := handleRegisterAsset_eq_ok hregister
    rw [hok.canonicalize] at hk
    refine .settled (hsettled.register hissued hk (hfree hk) ht hfor rfl rfl rfl) ⟨?_, ?_⟩
    · intro other b hb
      have hne : other ≠ assetId := by
        rintro rfl
        rw [hnew] at hb
        cases hb
      exact (Function.update_of_ne hne _ _).trans (hbase.wrappedAsset hb)
    · intro l other hl
      have hbefore := hbase.wrappedAssetAddress hl
      have hne : l ≠ k := by
        rintro rfl
        rw [hfree hk] at hbefore
        cases hbefore
      exact (Function.update_of_ne hne _ _).trans hbefore

end Consistent

/-! ## Transactions -/

variable {w w' : Chain}

/-- **A transaction** leaves nothing marked, and every entry where it is. -/
theorem Transaction.settled (h : Transaction keccak256 addresses w w')
    (hw : Settled keccak256 addresses none w) : Settled keccak256 addresses none w' ∧ Extends w w' := by
  obtain ⟨-, -, -, hrun⟩ := h
  have hend := hrun.invariant (fun c choice c' hc hok hstep => Consistent.of_step hc hok hstep)
    (.settled hw (.refl w))
  cases hend with
  | settled hsettled hbase => exact ⟨hsettled, hbase⟩

variable (keccak256 addresses) in
/-- The chains some transactions lead to. -/
def After (w w' : Chain) : Prop := Relation.ReflTransGen (Transaction keccak256 addresses) w w'

theorem After.settled (h : After keccak256 addresses w w') (hw : Settled keccak256 addresses none w) :
    Settled keccak256 addresses none w' ∧ Extends w w' := by
  induction h with
  | refl => exact ⟨hw, .refl w⟩
  | tail _ hlast ih =>
    obtain ⟨hsettled, hextends⟩ := ih
    obtain ⟨hsettled', hextends'⟩ := hlast.settled hsettled
    exact ⟨hsettled', hextends.trans hextends'⟩

theorem Unused.settled (h : Unused w) : Settled keccak256 addresses none w where
  registered := by
    intro assetId a ha
    rw [h.wrappedAsset] at ha
    cases ha
  addressed := by
    intro k assetId hk
    rw [h.wrappedAssetAddress] at hk
    cases hk
  updating := nofun

/-- **The registry of wrapped assets.** Between transactions: no asset is marked; the two maps are inverse to each
other; the contract of an asset was instantiated by the bridge for the token with that id; and the entries stay,
whatever transactions follow. -/
theorem registered_assets {w₀ : Chain} (h₀ : Unused w₀) (h : After keccak256 addresses w₀ w) :
    (∀ assetId, w.bridge.wrappedAsset assetId ≠ some wrappedAssetUpdating) ∧
    (∀ assetId a k, addresses.issued a → addresses.canonicalize a = .ok k →
      (w.bridge.wrappedAsset assetId = some a ↔ w.bridge.wrappedAssetAddress k = some assetId)) ∧
    (∀ assetId a, w.bridge.wrappedAsset assetId = some a → addresses.issued a ∧
      (∃ k, addresses.canonicalize a = .ok k) ∧
      ∃ t, w.wrapped a = some t ∧ addresses.canonicalize addresses.self = .ok t.bridge ∧
        assetId = buildAssetId keccak256 t.assetChain t.assetAddress) ∧
    (∀ k assetId, w.bridge.wrappedAssetAddress k = some assetId →
      ∃ a, addresses.issued a ∧ addresses.canonicalize a = .ok k) ∧
    ∀ w', After keccak256 addresses w w' → Extends w w' := by
  obtain ⟨hsettled, -⟩ := h.settled h₀.settled
  refine ⟨hsettled.not_updating, ?_, ?_, ?_, fun w' h' => (h'.settled hsettled).2⟩
  · intro assetId a k hissued hcanonical
    constructor
    · intro ha
      obtain ⟨-, ⟨l, hl, hentry⟩, -⟩ := hsettled.registered ha nofun
      rwa [Go.ok.inj (hcanonical.symm.trans hl)]
    · intro hk
      obtain ⟨-, b, hb, hentry⟩ := hsettled.addressed hk
      have hissued' := (hsettled.registered hentry nofun).1
      rwa [addresses.injective hissued hissued' hcanonical hb]
  · intro assetId a ha
    obtain ⟨hissued, ⟨k, hk, -⟩, t, ht, hfor⟩ := hsettled.registered ha nofun
    exact ⟨hissued, ⟨k, hk⟩, t, ht, hfor.bridge, hfor.asset⟩
  · intro k assetId hk
    obtain ⟨-, a, ha, hentry⟩ := hsettled.addressed hk
    exact ⟨a, (hsettled.registered hentry nofun).1, ha⟩

end Registry

/-! ## A sample run -/

section Samples

/-- Every name is an address, but for the mark. -/
def plainAddresses : Addresses where
  canonicalize := fun a => .ok (asBytes a)
  issued := fun a => a ≠ wrappedAssetUpdating
  injective := by
    intro a b k _ _ ha hb
    have hbytes : asBytes a = asBytes b := Go.ok.inj (ha.trans hb.symm)
    exact Option.some.inj ((fromUtf8_eq_some.mpr rfl).symm.trans (fromUtf8_eq_some.mpr hbytes.symm))
  not_updating := fun h => h rfl
  self := "bridge"

/-- "TokenBridge" as a governance module, here not padded. -/
def sampleModule : List UInt8 := List.replicate 32 0x54

/-- Governance registers the bridge of the chain 2. -/
def sampleRegistration : ParsedVAA where
  emitterChain := 1
  emitterAddress := [0x04]
  sequence := 0
  payload := sampleModule ++ [0x01, 0x00, 0x00, 0x00, 0x02, 0x08]
  hash := [0x00]

/-- A token of the chain 2 with a name of one letter. -/
def sampleAssetMeta (name : UInt8) : AssetMeta where
  tokenAddress := List.replicate 32 0x09
  tokenChain := 2
  decimals := 8
  symbol := [0x53] ++ List.replicate 31 0x00
  name := [name] ++ List.replicate 31 0x00

/-- The bridge of the chain 2 attests the token. -/
def sampleAttestation (sequence : Nat) (name : UInt8) : ParsedVAA where
  emitterChain := 2
  emitterAddress := [0x08]
  sequence
  payload := attestMessage (sampleAssetMeta name)
  hash := [0x01, UInt8.ofNat sequence]

/-- A VAA is submitted by its number; each attestation has the name of its number. -/
def sampleContractEnv : ContractEnv where
  toEnv := { plainEnv with addrCanonicalize := plainAddresses.canonicalize }
  self := "bridge"
  wrappedAssetInfo := fun _ => .error "no contract"
  verifyVaa := fun data =>
    match data with
    | [0x00] => .ok sampleRegistration
    | [n] => .ok (sampleAttestation n.toNat n)
    | _ => .error "InvalidVAA"
  tokenInfo := fun _ => .error "no contract"
  balance := fun _ => .error "no contract"
  getStringFrom32 := fun bytes =>
    if bytes = sampleModule then "TokenBridge"
    else String.ofList ((bytes.filter (· ≠ 0x00)).map fun b => Char.ofNat b.toNat)
  toUppercase := id

/-- The bridge before its first message. -/
def sampleChain : Chain where
  bridge := {
    wormholeContract := "core"
    bridgeContracts := fun _ => none
    wrappedAsset := fun _ => none
    nativeCounter := fun _ => none
    bridgeDeposit := fun _ => none
    wrappedAssetAddress := fun _ => none
    wrappedTransferTmp := none
    govChain := 1
    govAddress := [0x04]
    wrappedAssetSeq := fun _ => none
    vaaArchive := fun _ => false }
  wrapped := fun _ => none

def sampleChoice (newAddress : String) : Choice := ⟨sampleContractEnv, newAddress, []⟩

/-- Whoever submits the VAA with the number. -/
def submission (w : Chain) (number : UInt8) : Config := ⟨w, [.execute "account" [] (.submitVaa [number])]⟩

def afterRegistration : Config :=
  attempt (step plainKeccak plainAddresses) (submission sampleChain 0x00) (sampleChoice "asset")

/-- The asset is marked. -/
def attested : Config :=
  attempt (step plainKeccak plainAddresses) (submission afterRegistration.chain 0x01) (sampleChoice "asset")

/-- Its contract is there. -/
def instantiated : Config := attempt (step plainKeccak plainAddresses) attested (sampleChoice "asset")

/-- The hook has run. -/
def registered : Config := attempt (step plainKeccak plainAddresses) instantiated (sampleChoice "asset2")

def sampleAssetId : List UInt8 := buildAssetId plainKeccak 2 (List.replicate 32 0x09)

theorem sampleChoice_permitted {c : Config} {newAddress : String} (hissued : newAddress ≠ wrappedAssetUpdating)
    (hunused : c.chain.wrapped newAddress = none) : Permitted plainAddresses c (sampleChoice newAddress) where
  canonicalize := rfl
  issued := hissued
  unused := hunused
  sent := fun _ _ _ _ hcall => by cases hcall

/-- A submission of an account that has come to its end. -/
theorem transaction_of_run {w : Chain} {number : UInt8} {c : Config} (haccount : w.wrapped "account" = none)
    (hrun : Run (step plainKeccak plainAddresses) (Permitted plainAddresses) (submission w number) c)
    (hstack : c.stack.isEmpty) : Transaction plainKeccak plainAddresses w c.chain := by
  obtain ⟨w', stack⟩ := c
  obtain rfl := List.isEmpty_iff.mp hstack
  refine .intro haccount ?_ ?_ hrun
  · decide
  · rfl

theorem submission_run (w : Chain) (number : UInt8) :
    Run (step plainKeccak plainAddresses) (Permitted plainAddresses) (submission w number) (submission w number) :=
  .refl _

theorem registration_transaction : Transaction plainKeccak plainAddresses sampleChain afterRegistration.chain := by
  have hrun := (submission_run sampleChain 0x00).attempt (sampleChoice "asset")
    (sampleChoice_permitted (by decide) rfl)
  exact transaction_of_run rfl hrun (by decide +kernel)

theorem attestation_transaction :
    Transaction plainKeccak plainAddresses afterRegistration.chain registered.chain := by
  have hattested := (submission_run afterRegistration.chain 0x01).attempt (sampleChoice "asset")
    (sampleChoice_permitted (by decide) (by decide +kernel))
  have hinstantiated := hattested.attempt (sampleChoice "asset")
    (sampleChoice_permitted (by decide) (by decide +kernel))
  have hregistered := hinstantiated.attempt (sampleChoice "asset2")
    (sampleChoice_permitted (by decide) (by decide +kernel))
  exact transaction_of_run (by decide +kernel) hregistered (by decide +kernel)

theorem sampleChain_unused : Unused sampleChain := ⟨fun _ => rfl, fun _ => rfl⟩

theorem registered_assets_sample :
    registered.chain.bridge.wrappedAsset sampleAssetId = some "asset" ∧
      registered.chain.bridge.wrappedAssetAddress (asBytes "asset") = some sampleAssetId ∧
      ∀ assetId, registered.chain.bridge.wrappedAsset assetId ≠ some wrappedAssetUpdating := by
  have hafter : After plainKeccak plainAddresses sampleChain registered.chain :=
    .tail (.single registration_transaction) attestation_transaction
  obtain ⟨hupdating, hinverse, -⟩ := registered_assets sampleChain_unused hafter
  have hasset : registered.chain.bridge.wrappedAsset sampleAssetId = some "asset" := by decide +kernel
  have hissued : plainAddresses.issued "asset" := show "asset" ≠ wrappedAssetUpdating by decide
  exact ⟨hasset, (hinverse sampleAssetId "asset" (asBytes "asset") hissued rfl).mp hasset, hupdating⟩

end Samples

end Wormhole.Terra.TokenBridge

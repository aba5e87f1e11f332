/-
# Wormhole.Terra.Cw721 — NFT contracts on Terra.

`cw721-base` with the asset information that `cw721-wrapped` adds.  Who may send a token is
`checkCanSend`: its owner, an account with an approval for it and an operator of its owner; the contract
asks this of its immediate caller.  An expiration is the question whether it has expired at a block.  Indices,
queries that nobody here asks and the extension, which is empty, are left out.
-/
import Mathlib
import Wormhole.Lib.Go
import Wormhole.Lib.Mapping
import Wormhole.Terra.Cosmwasm

namespace Wormhole.Terra

open Wormhole.Lib

/-! ## The chain -/

structure BlockInfo where
  height : Nat
  time : Nat

/-- `cw721::Expiration`, as far as a contract can tell: whether it has expired. -/
abbrev Expiration := BlockInfo → Bool

/-- The default expiration. -/
def Expiration.never : Expiration := fun _ => false

/-- `deps.api`. -/
structure Api where
  /-- whether an address is valid -/
  addrValidate : String → Bool
  addrHumanize : List UInt8 → StdResult String
  addrCanonicalize : String → StdResult (List UInt8)

/-- `addr_validate`: the address itself, or an error. -/
def Api.validated (api : Api) (address : String) : StdResult String := do
  ensure (api.addrValidate address = true) "invalid address"
  return address

namespace Cw721

/-! ## Storage -/

structure Approval where
  /-- Account that can transfer/send the token -/
  spender : String
  /-- When the Approval expires (maybe Expiration::never) -/
  expires : Expiration

structure TokenInfo where
  /-- The owner of the newly minted NFT -/
  owner : String
  /-- Approvals are stored here, as we clear them all upon transfer and cannot accumulate much -/
  approvals : List Approval
  tokenUri : Option String

/-- `WrappedAssetInfo`, without the address of the bridge. -/
structure WrappedAssetInfo where
  assetChain : UInt16
  assetAddress : List UInt8
  deriving DecidableEq

structure State where
  name : String
  symbol : String
  minter : String
  tokenCount : Nat
  /-- Stored as (granter, operator) giving operator full control over granter's account -/
  operators : String → String → Option Expiration
  tokens : String → Option TokenInfo
  /-- of a `cw721-wrapped` -/
  wrappedAssetInfo : Option WrappedAssetInfo

/-! ## Rights -/

/-- Whether `operator` is an operator of `owner`. -/
def isOperator (s : State) (block : BlockInfo) (owner operator : String) : Bool :=
  match s.operators owner operator with
  | some ex => !ex block
  | none => false

/-- `check_can_approve`. -/
def checkCanApprove (s : State) (block : BlockInfo) (sender : String) (token : TokenInfo) : Bool :=
  -- owner can approve, operator can approve
  token.owner = sender || isOperator s block token.owner sender

/-- `check_can_send`: the account can transfer ownership of the token. -/
def checkCanSend (s : State) (block : BlockInfo) (sender : String) (token : TokenInfo) : Bool :=
  -- owner can send
  token.owner = sender ||
    -- any non-expired token approval can send
    token.approvals.any (fun apr => apr.spender = sender && !apr.expires block) ||
    -- operator can send
    isOperator s block token.owner sender

/-! ## Messages -/

section Messages

variable (api : Api) (block : BlockInfo)

def load (s : State) (tokenId : String) : StdResult TokenInfo := okOr "TokenInfo not found" (s.tokens tokenId)

def save (s : State) (tokenId : String) (token : TokenInfo) : State :=
  { s with tokens := Function.update s.tokens tokenId (some token) }

/-- `_transfer_nft`. -/
def transferNft (s : State) (sender recipient tokenId : String) : StdResult State := do
  let token ← load s tokenId
  -- ensure we have permissions
  ensure (checkCanSend s block sender token = true) "Unauthorized"
  -- set owner and remove existing approvals
  let owner ← api.validated recipient
  return save s tokenId { token with owner, approvals := [] }

/-- `_update_approvals`; `added` is the expiration of the approval that is set. -/
def updateApprovals (s : State) (sender spender tokenId : String) (added : Option Expiration) :
    StdResult State := do
  let token ← load s tokenId
  ensure (checkCanApprove s block sender token = true) "Unauthorized"
  -- update the approval list (remove any for the same spender before adding)
  let spender ← api.validated spender
  let approvals := token.approvals.filter (·.spender ≠ spender)
  match added with
  | none => return save s tokenId { token with approvals }
  | some expires => do
    -- reject expired data as invalid
    ensure (expires block = false) "Expired"
    return save s tokenId { token with approvals := approvals ++ [{ spender, expires }] }

def approve (s : State) (sender spender tokenId : String) (expires : Option Expiration) : StdResult State :=
  updateApprovals api block s sender spender tokenId (some (expires.getD Expiration.never))

def revoke (s : State) (sender spender tokenId : String) : StdResult State :=
  updateApprovals api block s sender spender tokenId none

def setOperator (s : State) (owner operator : String) (expires : Option Expiration) : State :=
  { s with
    operators := Function.update s.operators owner (Function.update (s.operators owner) operator expires) }

def approveAll (s : State) (sender operator : String) (expires : Option Expiration) : StdResult State := do
  -- reject expired data as invalid
  let expires := expires.getD Expiration.never
  ensure (expires block = false) "Expired"
  -- set the operator for us
  return setOperator s sender (← api.validated operator) (some expires)

def revokeAll (s : State) (sender operator : String) : StdResult State := do
  return setOperator s sender (← api.validated operator) none

/-- `increment_tokens`, of a `u64`. -/
def incrementTokens (s : State) : StdResult State := do
  return { s with tokenCount := ← addUint 64 s.tokenCount 1 }

/-- `decrement_tokens`. -/
def decrementTokens (s : State) : StdResult State := do
  return { s with tokenCount := ← unwrap (checkedSub s.tokenCount 1) }

def mint (s : State) (sender tokenId owner : String) (tokenUri : Option String) : StdResult State := do
  ensure (sender = s.minter) "Unauthorized"
  -- create the token
  let owner ← api.validated owner
  ensure (s.tokens tokenId).isNone "Claimed"
  incrementTokens (save s tokenId { owner, approvals := [], tokenUri })

def burn (s : State) (sender tokenId : String) : StdResult State := do
  let token ← load s tokenId
  ensure (checkCanSend s block sender token = true) "Unauthorized"
  decrementTokens { s with tokens := Function.update s.tokens tokenId none }

/-- `ExecuteMsg`.  What the receiver of a `SendNft` does with it is a call of its own. -/
inductive ExecuteMsg where
  | transferNft (recipient tokenId : String)
  | sendNft (contract tokenId : String)
  | approve (spender tokenId : String) (expires : Option Expiration)
  | revoke (spender tokenId : String)
  | approveAll (operator : String) (expires : Option Expiration)
  | revokeAll (operator : String)
  | mint (tokenId owner : String) (tokenUri : Option String)
  | burn (tokenId : String)

def execute (s : State) (sender : String) : ExecuteMsg → StdResult State
  | .transferNft recipient tokenId => transferNft api block s sender recipient tokenId
  | .sendNft contract tokenId => transferNft api block s sender contract tokenId
  | .approve spender tokenId expires => approve api block s sender spender tokenId expires
  | .revoke spender tokenId => revoke api block s sender spender tokenId
  | .approveAll operator expires => approveAll api block s sender operator expires
  | .revokeAll operator => revokeAll api s sender operator
  | .mint tokenId owner tokenUri => mint api s sender tokenId owner tokenUri
  | .burn tokenId => burn block s sender tokenId

/-- `instantiate`, of `cw721-base` and, with the asset, of `cw721-wrapped`. -/
def instantiate (name symbol minter : String) (wrappedAssetInfo : Option WrappedAssetInfo) : StdResult State := do
  let minter ← api.validated minter
  return { name, symbol, minter, tokenCount := 0, operators := fun _ _ => none, tokens := fun _ => none,
           wrappedAssetInfo }

end Messages

/-! ## What the messages do -/

section Specs

variable {api : Api} {block : BlockInfo} {s s' : State} {sender : String}

@[simp]
theorem validated_eq_ok {address a : String} :
    api.validated address = .ok a ↔ api.addrValidate address = true ∧ address = a := by
  simp [Api.validated, Go.bind_eq_ok]

theorem load_eq_ok {tokenId : String} {token : TokenInfo} :
    load s tokenId = .ok token ↔ s.tokens tokenId = some token := okOr_eq_ok

/-- The contract's constants. -/
structure SameContract (s s' : State) : Prop where
  name : s'.name = s.name
  symbol : s'.symbol = s.symbol
  minter : s'.minter = s.minter
  wrappedAssetInfo : s'.wrappedAssetInfo = s.wrappedAssetInfo

/-- A transfer: the caller may send the token, which has a new owner and no approvals. -/
theorem transferNft_eq_ok {recipient tokenId : String} (h : transferNft api block s sender recipient tokenId = .ok s') :
    ∃ token, s.tokens tokenId = some token ∧ checkCanSend s block sender token = true ∧
      s' = save s tokenId { token with owner := recipient, approvals := [] } := by
  simp only [transferNft, Go.bind_eq_ok, load_eq_ok, ensure_eq_ok, validated_eq_ok] at h
  obtain ⟨token, htoken, _, hcan, owner, ⟨-, rfl⟩, hs⟩ := h
  exact ⟨token, htoken, hcan, (Go.ok.inj hs).symm⟩

/-- A change of the approvals: the token keeps its owner. -/
theorem updateApprovals_eq_ok {spender tokenId : String} {added : Option Expiration}
    (h : updateApprovals api block s sender spender tokenId added = .ok s') :
    ∃ token approvals, s.tokens tokenId = some token ∧ s' = save s tokenId { token with approvals } := by
  simp only [updateApprovals, Go.bind_eq_ok, load_eq_ok, ensure_eq_ok, validated_eq_ok] at h
  obtain ⟨token, htoken, _, -, spender', -, h⟩ := h
  cases added with
  | none => exact ⟨token, _, htoken, (Go.ok.inj h).symm⟩
  | some expires =>
    simp only [Go.bind_eq_ok] at h
    obtain ⟨_, -, h⟩ := h
    exact ⟨token, _, htoken, (Go.ok.inj h).symm⟩

theorem mint_eq_ok {tokenId owner : String} {tokenUri : Option String}
    (h : mint api s sender tokenId owner tokenUri = .ok s') :
    sender = s.minter ∧ s.tokens tokenId = none ∧
      s' = { save s tokenId { owner, approvals := [], tokenUri } with tokenCount := s.tokenCount + 1 } := by
  simp only [mint, Go.bind_eq_ok, ensure_eq_ok, validated_eq_ok, incrementTokens, addUint, unwrap_eq_ok,
    Option.isNone_iff_eq_none] at h
  obtain ⟨_, hminter, owner', ⟨-, rfl⟩, _, hnone, count, hcount, hs⟩ := h
  refine ⟨hminter, hnone, ?_⟩
  split at hcount
  · rw [← Go.ok.inj hs, ← Option.some.inj hcount]
    rfl
  · cases hcount

/-- A burn: the caller may send the token. -/
theorem burn_eq_ok {tokenId : String} (h : burn block s sender tokenId = .ok s') :
    ∃ token, s.tokens tokenId = some token ∧ checkCanSend s block sender token = true ∧
      s'.tokenCount + 1 = s.tokenCount ∧
      s' = { s with tokens := Function.update s.tokens tokenId none, tokenCount := s'.tokenCount } := by
  simp only [burn, Go.bind_eq_ok, load_eq_ok, ensure_eq_ok, decrementTokens, unwrap_eq_ok] at h
  obtain ⟨token, htoken, _, hcan, count, hcount, hs⟩ := h
  rw [checkedSub_eq_some] at hcount
  rw [← Go.ok.inj hs]
  exact ⟨token, htoken, hcan, hcount, rfl⟩

/-- What becomes of the tokens when somebody else than the minter acts: none is new, and none has another
URI. -/
structure SameTokens (s s' : State) : Prop extends SameContract s s' where
  old : ∀ tokenId token', s'.tokens tokenId = some token' →
    ∃ token, s.tokens tokenId = some token ∧ token'.tokenUri = token.tokenUri

theorem SameTokens.refl (s : State) : SameTokens s s :=
  ⟨⟨rfl, rfl, rfl, rfl⟩, fun _ token' h => ⟨token', h, rfl⟩⟩

theorem SameTokens.save {tokenId : String} {token token' : TokenInfo} (h : s.tokens tokenId = some token)
    (huri : token'.tokenUri = token.tokenUri) : SameTokens s (save s tokenId token') := by
  refine ⟨⟨rfl, rfl, rfl, rfl⟩, ?_⟩
  intro id t ht
  rcases Mapping.update_eq_some ht with ⟨rfl, rfl⟩ | ht
  · exact ⟨token, h, huri⟩
  · exact ⟨t, ht, rfl⟩

theorem SameTokens.burn {tokenId : String} (h : Cw721.burn block s sender tokenId = .ok s') :
    SameTokens s s' := by
  obtain ⟨token, -, -, -, hs⟩ := burn_eq_ok h
  rw [hs]
  refine ⟨⟨rfl, rfl, rfl, rfl⟩, ?_⟩
  intro id t ht
  exact ⟨t, (Mapping.update_none_eq_some ht).2, rfl⟩

/-- **Step.** -/
theorem execute_sameTokens {msg : ExecuteMsg} (h : execute api block s sender msg = .ok s')
    (hminter : sender ≠ s.minter) : SameTokens s s' := by
  cases msg with
  | transferNft recipient tokenId | sendNft recipient tokenId =>
    obtain ⟨token, htoken, -, rfl⟩ := transferNft_eq_ok h
    exact .save htoken rfl
  | approve spender tokenId expires =>
    obtain ⟨token, approvals, htoken, rfl⟩ := updateApprovals_eq_ok
      (show updateApprovals api block s sender spender tokenId (some _) = .ok s' from h)
    exact .save htoken rfl
  | revoke spender tokenId =>
    obtain ⟨token, approvals, htoken, rfl⟩ := updateApprovals_eq_ok
      (show updateApprovals api block s sender spender tokenId none = .ok s' from h)
    exact .save htoken rfl
  | approveAll operator expires =>
    simp only [execute, approveAll, Go.bind_eq_ok] at h
    obtain ⟨_, -, _, -, h⟩ := h
    rw [← Go.ok.inj h]
    exact ⟨⟨rfl, rfl, rfl, rfl⟩, fun _ token' h => ⟨token', h, rfl⟩⟩
  | revokeAll operator =>
    simp only [execute, revokeAll, Go.bind_eq_ok] at h
    obtain ⟨_, -, h⟩ := h
    rw [← Go.ok.inj h]
    exact ⟨⟨rfl, rfl, rfl, rfl⟩, fun _ token' h => ⟨token', h, rfl⟩⟩
  | mint tokenId owner tokenUri => exact absurd (mint_eq_ok h).1 hminter
  | burn tokenId => exact .burn h

end Specs

end Cw721

end Wormhole.Terra

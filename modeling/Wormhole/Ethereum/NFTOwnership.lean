/-
# Wormhole.Ethereum.NFTOwnership — who owns the tokens of a wrapped collection, and who moves them.

`Effect` is what a call does to owners, balances and approvals, with who may make it: nothing, an approval, a
transfer, a mint or a burn.  From it the contract's four mappings agree in every state, in the middle of a
`safeTransferFrom` too, while the recipient's code makes calls of its own (`Lib.Nested`).
-/
import Mathlib
import Wormhole.Lib.Failing
import Wormhole.Lib.Transition
import Wormhole.Lib.Fibers
import Wormhole.Lib.Nested
import Wormhole.Ethereum.Evm
import Wormhole.Ethereum.NFTImplementation

namespace Wormhole.Ethereum.NFTImplementation

open Wormhole.Lib Wormhole.Lib.Failing Wormhole.Lib.Transition

/-! ## Effects -/

/-- The owner of a token, its approved address, and the owner's operators. -/
def MayMove (s : State) (sender : Address) (tokenId : Word) : Prop :=
  sender = s.owners tokenId ∨ s.tokenApprovals tokenId = sender ∨
    s.operatorApprovals (s.owners tokenId) sender = true

/-- What a call has done. -/
inductive Effect (s : State) (sender : Address) : State → Prop
  | quiet {t : State} (howners : t.owners = s.owners) (hbalances : t.balances = s.balances)
      (happrovals : t.tokenApprovals = s.tokenApprovals) : Effect s sender t
  | approved {t : State} (tokenId : Word) (recipient : Address) (hexists : s.owners tokenId ≠ zeroAddress)
      (howners : t.owners = s.owners) (hbalances : t.balances = s.balances)
      (happrovals : t.tokenApprovals = Function.update s.tokenApprovals tokenId recipient) : Effect s sender t
  | moved {t : State} (tokenId : Word) (recipient : Address) (hexists : s.owners tokenId ≠ zeroAddress)
      (hrecipient : recipient ≠ zeroAddress) (hmay : MayMove s sender tokenId)
      (howners : t.owners = Function.update s.owners tokenId recipient)
      (hbalances : t.balances = Function.update
        (Function.update s.balances (s.owners tokenId) (s.balances (s.owners tokenId) - 1)) recipient
        (Function.update s.balances (s.owners tokenId) (s.balances (s.owners tokenId) - 1) recipient + 1))
      (happrovals : t.tokenApprovals = Function.update s.tokenApprovals tokenId zeroAddress) : Effect s sender t
  | minted {t : State} (tokenId : Word) (recipient : Address) (hfresh : s.owners tokenId = zeroAddress)
      (hrecipient : recipient ≠ zeroAddress) (hbridge : s.owner = sender)
      (howners : t.owners = Function.update s.owners tokenId recipient)
      (hbalances : t.balances = Function.update s.balances recipient (s.balances recipient + 1))
      (happrovals : t.tokenApprovals = s.tokenApprovals) : Effect s sender t
  | burned {t : State} (tokenId : Word) (hexists : s.owners tokenId ≠ zeroAddress) (hbridge : s.owner = sender)
      (howners : t.owners = Function.update s.owners tokenId zeroAddress)
      (hbalances : t.balances =
        Function.update s.balances (s.owners tokenId) (s.balances (s.owners tokenId) - 1))
      (happrovals : t.tokenApprovals = Function.update s.tokenApprovals tokenId zeroAddress) : Effect s sender t

section Calls

variable {s t : State} {sender recipient source : Address} {tokenId : Word}

theorem setApproval_effect (h : setApproval s recipient tokenId = .ok t) :
    t = { s with tokenApprovals := Function.update s.tokenApprovals tokenId recipient } := by
  obtain ⟨_, -, heq⟩ := bind_eq_ok.mp h
  exact (Except.ok.inj heq).symm

theorem decBalance_effect (h : decBalance s source = .ok t) :
    t = { s with balances := Function.update s.balances source (s.balances source - 1) } := by
  obtain ⟨balance, hsub, heq⟩ := bind_eq_ok.mp h
  unfold subUint at hsub
  split at hsub
  · rw [← Except.ok.inj heq, ← Except.ok.inj hsub]
  · cases hsub

theorem incBalance_effect (h : incBalance s recipient = .ok t) :
    t = { s with balances := Function.update s.balances recipient (s.balances recipient + 1) } := by
  unfold incBalance at h
  split at h
  · exact (Except.ok.inj h).symm
  · cases h

theorem isApprovedOrOwner_eq_ok (h : isApprovedOrOwner s sender tokenId = .ok true) :
    MayMove s sender tokenId := by
  obtain ⟨_, -, heq⟩ := bind_eq_ok.mp h
  unfold MayMove
  exact of_decide_eq_true (Except.ok.inj heq)

theorem transferFrom_effect (h : transferFrom s sender source recipient tokenId = .ok t) :
    Effect s sender t := by
  simp only [transferFrom, transfer, bind_eq_ok, require_eq_ok, ownerOf_eq_ok] at h
  obtain ⟨_, happroved, _, rfl, _, ⟨hexists, rfl⟩, _, rfl, _, hrecipient, s₁, h₁, s₂, h₂, s₃, h₃, heq⟩ := h
  obtain rfl := setApproval_effect h₁
  obtain rfl := decBalance_effect h₂
  obtain rfl := incBalance_effect h₃
  obtain rfl := Except.ok.inj heq
  exact .moved tokenId recipient hexists hrecipient (isApprovedOrOwner_eq_ok happroved) rfl rfl rfl

theorem approve_effect (h : approve s sender recipient tokenId = .ok t) : Effect s sender t := by
  obtain ⟨owner, howner, h⟩ := bind_eq_ok.mp h
  obtain ⟨hexists, -⟩ := ownerOf_eq_ok.mp howner
  obtain ⟨_, -, h⟩ := bind_eq_ok.mp h
  obtain ⟨_, -, h⟩ := bind_eq_ok.mp h
  obtain rfl := setApproval_effect h
  exact .approved tokenId recipient hexists rfl rfl rfl

theorem mint_effect {uri : List UInt8} (h : mint s sender recipient tokenId uri = .ok t) :
    Effect s sender t := by
  obtain ⟨_, hbridge, h⟩ := bind_eq_ok.mp h
  obtain ⟨_, hrecipient, h⟩ := bind_eq_ok.mp h
  obtain ⟨_, hfresh, h⟩ := bind_eq_ok.mp h
  obtain ⟨s₁, h₁, h⟩ := bind_eq_ok.mp h
  obtain rfl := incBalance_effect h₁
  obtain rfl := Except.ok.inj h
  exact .minted tokenId recipient (require_eq_ok.mp hfresh) (require_eq_ok.mp hrecipient)
    (require_eq_ok.mp hbridge) rfl rfl rfl

theorem burn_effect (h : burn s sender tokenId = .ok t) : Effect s sender t := by
  obtain ⟨_, hbridge, h⟩ := bind_eq_ok.mp h
  obtain ⟨owner, howner, h⟩ := bind_eq_ok.mp h
  obtain ⟨hexists, rfl⟩ := ownerOf_eq_ok.mp howner
  obtain ⟨s₁, h₁, h⟩ := bind_eq_ok.mp h
  obtain ⟨s₂, h₂, h⟩ := bind_eq_ok.mp h
  obtain rfl := setApproval_effect h₁
  obtain rfl := decBalance_effect h₂
  obtain rfl := Except.ok.inj h
  exact .burned tokenId hexists (require_eq_ok.mp hbridge) rfl rfl rfl

/-- **Every call has one of the effects.** -/
theorem Call.run_effect {c : Call} (h : c.run s sender = .ok t) : Effect s sender t := by
  cases c with
  | initializeContract name symbol owner chainId nativeContract =>
    obtain ⟨_, -, heq⟩ := bind_eq_ok.mp h
    obtain rfl := Except.ok.inj heq
    exact .quiet rfl rfl rfl
  | approve recipient tokenId => exact approve_effect h
  | setApprovalForAll operator approved =>
    obtain ⟨_, -, heq⟩ := bind_eq_ok.mp h
    obtain rfl := Except.ok.inj heq
    exact .quiet rfl rfl rfl
  | transferFrom source recipient tokenId => exact transferFrom_effect h
  | safeTransferFrom source recipient tokenId received =>
    obtain ⟨s', htransfer, h⟩ := bind_eq_ok.mp h
    obtain ⟨_, -, heq⟩ := bind_eq_ok.mp h
    obtain rfl := Except.ok.inj heq
    exact transferFrom_effect htransfer
  | mint recipient tokenId uri => exact mint_effect h
  | burn tokenId => exact burn_effect h

end Calls

/-! ## The mappings agree -/

/-- Balances count the tokens owned, and only tokens with an owner have an approval. -/
structure Agree (s : State) : Prop where
  counted : ∀ a, a ≠ zeroAddress → Counts s.owners a (s.balances a)
  unapproved : ∀ tokenId, s.owners tokenId = zeroAddress → s.tokenApprovals tokenId = zeroAddress

section Effects

variable {s t : State} {sender : Address}

theorem agree_empty : Agree State.empty where
  counted := fun _ ha => Counts.none fun _ => Ne.symm ha
  unapproved := fun _ _ => rfl

/-- A token without an owner has no approval, also if one has been cleared with a change of owner. -/
theorem unapproved_update {owners : Word → Address} {approvals : Word → Address}
    (h : ∀ i, owners i = zeroAddress → approvals i = zeroAddress) {tokenId : Word} {recipient : Address} (i : Word)
    (hi : Function.update owners tokenId recipient i = zeroAddress) :
    Function.update approvals tokenId zeroAddress i = zeroAddress := by
  by_cases hid : i = tokenId
  · rw [hid, Function.update_self]
  · rw [Function.update_of_ne hid] at hi
    rw [Function.update_of_ne hid]
    exact h i hi

/-- **Step.** -/
theorem Effect.agree (h : Effect s sender t) (hagree : Agree s) : Agree t := by
  obtain ⟨hcounted, hunapproved⟩ := hagree
  cases h with
  | quiet howners hbalances happrovals =>
    refine ⟨?_, ?_⟩
    · rwa [howners, hbalances]
    · rwa [howners, happrovals]
  | approved tokenId recipient hexists howners hbalances happrovals =>
    refine ⟨?_, ?_⟩
    · rwa [howners, hbalances]
    · intro i hi
      rw [howners] at hi
      have hne : i ≠ tokenId := by
        rintro rfl
        exact hexists hi
      rw [happrovals, Function.update_of_ne hne]
      exact hunapproved i hi
  | moved tokenId recipient hexists hrecipient hmay howners hbalances happrovals =>
    refine ⟨?_, ?_⟩
    · intro a ha
      have hcount := hcounted a ha
      rw [howners, hbalances]
      by_cases hnew : recipient = a
      · subst hnew
        by_cases hold : s.owners tokenId = recipient
        · -- a transfer to the owner
          rw [hold, Function.update_self, Function.update_self, Nat.sub_add_cancel (hcount.pos hold), ← hold,
            Function.update_eq_self, hold]
          exact hcount
        · rw [Function.update_self, Function.update_of_ne (Ne.symm hold)]
          exact hcount.insert hold
      · rw [Function.update_of_ne (Ne.symm hnew)]
        exact hcount.leave hnew
    · rw [howners, happrovals]
      exact unapproved_update hunapproved
  | minted tokenId recipient hfresh hrecipient hbridge howners hbalances happrovals =>
    refine ⟨?_, ?_⟩
    · intro a ha
      have hcount := hcounted a ha
      have hold : s.owners tokenId ≠ a := by
        rw [hfresh]
        exact ha.symm
      rw [howners, hbalances]
      by_cases hnew : recipient = a
      · subst hnew
        rw [Function.update_self]
        exact hcount.insert hold
      · rw [Function.update_of_ne (Ne.symm hnew)]
        exact hcount.update_of_ne hold hnew
    · intro i hi
      rw [happrovals]
      by_cases hid : i = tokenId
      · rw [hid]
        exact hunapproved tokenId hfresh
      · rw [howners, Function.update_of_ne hid] at hi
        exact hunapproved i hi
  | burned tokenId hexists hbridge howners hbalances happrovals =>
    refine ⟨?_, ?_⟩
    · intro a ha
      rw [howners, hbalances]
      exact (hcounted a ha).leave ha.symm
    · rw [howners, happrovals]
      exact unapproved_update hunapproved

/-- **A change of owner clears the approval.** -/
theorem Effect.cleared (h : Effect s sender t) (hagree : Agree s) {i : Word} (hi : t.owners i ≠ s.owners i) :
    t.tokenApprovals i = zeroAddress := by
  cases h with
  | quiet howners hbalances happrovals => exact absurd (congrFun howners i) hi
  | approved tokenId recipient hexists howners hbalances happrovals => exact absurd (congrFun howners i) hi
  | moved tokenId recipient hexists hrecipient hmay howners hbalances happrovals =>
    by_cases hid : i = tokenId
    · rw [happrovals, hid, Function.update_self]
    · rw [howners, Function.update_of_ne hid] at hi
      exact absurd rfl hi
  | minted tokenId recipient hfresh hrecipient hbridge howners hbalances happrovals =>
    by_cases hid : i = tokenId
    · rw [happrovals, hid]
      exact hagree.unapproved tokenId hfresh
    · rw [howners, Function.update_of_ne hid] at hi
      exact absurd rfl hi
  | burned tokenId hexists hbridge howners hbalances happrovals =>
    by_cases hid : i = tokenId
    · rw [happrovals, hid, Function.update_self]
    · rw [howners, Function.update_of_ne hid] at hi
      exact absurd rfl hi

/-- **Whoever moves a token may move it**, and tokens come and go by the bridge only. -/
theorem Effect.allowed (h : Effect s sender t) {i : Word} (hi : t.owners i ≠ s.owners i) :
    (s.owners i ≠ zeroAddress ∧ t.owners i ≠ zeroAddress ∧ MayMove s sender i) ∨
      ((s.owners i = zeroAddress ∨ t.owners i = zeroAddress) ∧ s.owner = sender) := by
  cases h with
  | quiet howners hbalances happrovals => exact absurd (congrFun howners i) hi
  | approved tokenId recipient hexists howners hbalances happrovals => exact absurd (congrFun howners i) hi
  | moved tokenId recipient hexists hrecipient hmay howners hbalances happrovals =>
    by_cases hid : i = tokenId
    · subst hid
      refine .inl ⟨hexists, ?_, hmay⟩
      rwa [howners, Function.update_self]
    · rw [howners, Function.update_of_ne hid] at hi
      exact absurd rfl hi
  | minted tokenId recipient hfresh hrecipient hbridge howners hbalances happrovals =>
    by_cases hid : i = tokenId
    · exact .inr ⟨.inl (hid ▸ hfresh), hbridge⟩
    · rw [howners, Function.update_of_ne hid] at hi
      exact absurd rfl hi
  | burned tokenId hexists hbridge howners hbalances happrovals =>
    by_cases hid : i = tokenId
    · refine .inr ⟨.inr ?_, hbridge⟩
      rw [howners, hid, Function.update_self]
    · rw [howners, Function.update_of_ne hid] at hi
      exact absurd rfl hi

end Effects

/-! ## Runs -/

/-- A call by a sender. -/
def step (s : State) (call : Address × Call) : Option State := (call.2.run s call.1).toOption

section Runs

variable {s s₀ : State} {w : Nested State} {name symbol : List UInt8} {bridge : Address} {chainId : Nat}
  {nativeContract : Word}

/-- The token contract of a bridge. -/
structure Sound (bridge : Address) (s : State) : Prop where
  /-- a balance is the number of the tokens owned -/
  counted : ∀ a, a ≠ zeroAddress → ∃ tokenIds : Finset Word,
    (∀ tokenId, tokenId ∈ tokenIds ↔ s.owners tokenId = a) ∧ tokenIds.card = s.balances a
  /-- a token without owner has no approval -/
  unapproved : ∀ tokenId, s.owners tokenId = zeroAddress → s.tokenApprovals tokenId = zeroAddress
  /-- a change of owner clears the approval -/
  cleared : ∀ {sender c t}, Call.run s sender c = .ok t →
    ∀ tokenId, t.owners tokenId ≠ s.owners tokenId → t.tokenApprovals tokenId = zeroAddress
  /-- a token is moved by its owner, its approved address or an operator of the owner -/
  moved : ∀ {sender c t}, Call.run s sender c = .ok t → ∀ tokenId, t.owners tokenId ≠ s.owners tokenId →
    s.owners tokenId ≠ zeroAddress → t.owners tokenId ≠ zeroAddress → sender = s.owners tokenId ∨
      s.tokenApprovals tokenId = sender ∨ s.operatorApprovals (s.owners tokenId) sender = true
  /-- and comes and goes by the bridge only -/
  created : ∀ {sender c t}, Call.run s sender c = .ok t → ∀ tokenId, t.owners tokenId ≠ s.owners tokenId →
    s.owners tokenId = zeroAddress ∨ t.owners tokenId = zeroAddress → sender = bridge
  mint : ∀ {sender recipient tokenId uri t}, Call.run s sender (.mint recipient tokenId uri) = .ok t →
    sender = bridge ∧ s.owners tokenId = zeroAddress
  burn : ∀ {sender tokenId t}, Call.run s sender (.burn tokenId) = .ok t → sender = bridge

theorem Agree.sound (hagree : Agree s) (hbridge : s.owner = bridge) : Sound bridge s where
  counted := hagree.counted
  unapproved := hagree.unapproved
  cleared := fun h _ hchange => (Call.run_effect h).cleared hagree hchange
  moved := by
    intro sender c t h tokenId hchange hold hnew
    rcases (Call.run_effect h).allowed hchange with ⟨-, -, hmay⟩ | ⟨hnone, -⟩
    · exact hmay
    · rcases hnone with hfresh | hburned
      · exact absurd hfresh hold
      · exact absurd hburned hnew
  created := by
    intro sender c t h tokenId hchange hnone
    rcases (Call.run_effect h).allowed hchange with ⟨hold, hnew, -⟩ | ⟨-, hsender⟩
    · rcases hnone with hfresh | hburned
      · exact absurd hfresh hold
      · exact absurd hburned hnew
    · rw [← hsender, hbridge]
  mint := by
    intro sender recipient tokenId uri t h
    obtain ⟨-, howner, hfresh, -⟩ := mint_eq_ok h
    exact ⟨howner.symm.trans hbridge, hfresh⟩
  burn := by
    intro sender tokenId t h
    obtain ⟨-, howner, -, -⟩ := burn_eq_ok h
    exact howner.symm.trans hbridge

/-- **In every run**, after any calls by anybody and in the middle of transfers, the contract is sound. -/
theorem wrapped_sound
    (h₀ : initializeContract State.empty name symbol bridge chainId nativeContract = .ok s₀)
    (hrun : Run (Nested.next step) (fun _ _ => True) ⟨s₀, []⟩ w) : Sound bridge w.state := by
  have hinvariant : w.All fun s => Agree s ∧ s.initialized = true ∧ s.owner = bridge := by
    refine Nested.invariant ?_ hrun ⟨?_, List.forall_mem_nil _⟩
    · rintro s ⟨sender, c⟩ t ⟨hagree, hinit, howner⟩ hstep
      have hcall := toOption_eq_some hstep
      have hsame := Call.run_sameIdentity hcall hinit
      exact ⟨(Call.run_effect hcall).agree hagree, hsame.initialized.trans hinit, hsame.owner.trans howner⟩
    · obtain ⟨_, -, heq⟩ := bind_eq_ok.mp h₀
      obtain rfl := Except.ok.inj heq
      exact ⟨⟨agree_empty.counted, agree_empty.unapproved⟩, rfl, rfl⟩
  obtain ⟨hagree, -, hbridge⟩ := hinvariant.1
  exact hagree.sound hbridge

end Runs

/-! ## A recipient that calls back -/

section Samples

theorem sampleAddress_length (b : UInt8) : (List.replicate 20 b).length = 20 := rfl

def sampleAddress (b : UInt8) : Address := ⟨List.replicate 20 b, sampleAddress_length b⟩

def sampleToken : Word := ⟨List.replicate 32 5, rfl⟩

def sampleDeployed : State :=
  { State.empty with initialized := true, owner := sampleAddress 9, chainId := 2, nativeContract := sampleToken }

/-- The bridge mints a token for 1, which is sent to 2; while 2 is called it sends the token on to 3. -/
def sampleEvents : List (Nested.Event (Address × Call)) :=
  [.act (sampleAddress 9, .mint (sampleAddress 1) sampleToken []),
    .call (sampleAddress 1, .transferFrom (sampleAddress 1) (sampleAddress 2) sampleToken),
    .act (sampleAddress 2, .transferFrom (sampleAddress 2) (sampleAddress 3) sampleToken)]

def sampleWorld : Nested State := attempts (Nested.next step) ⟨sampleDeployed, []⟩ sampleEvents

/-- In the middle of the transfer the token is 3's. -/
theorem sampleWorld_sound : sampleWorld.state.owners sampleToken = sampleAddress 3 ∧
    Sound (sampleAddress 9) sampleWorld.state := by
  refine ⟨by decide +kernel, ?_⟩
  have hdeployed : initializeContract State.empty [] [] (sampleAddress 9) 2 sampleToken = .ok sampleDeployed := rfl
  have hrun : Run (Nested.next step) (fun _ _ => True) ⟨sampleDeployed, []⟩ sampleWorld :=
    run_attempts _ sampleEvents fun _ _ => trivial
  exact wrapped_sound hdeployed hrun

end Samples

end Wormhole.Ethereum.NFTImplementation

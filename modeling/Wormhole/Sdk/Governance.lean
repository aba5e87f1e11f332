/-
# Wormhole.Sdk.Governance — governance packets, as the Rust SDK reads them.

`GovernanceAction::from_bytes` (`sdk/rust/core/src/vaa.rs`) with the actions of the core bridge, the token bridge
and the NFT bridge.  A packet names the chain it is for, with 0 for all of them, and the contracts of every
chain accept both.  The SDK takes the 0 for a wildcard in the caller's argument and not in the packet:
`targets_iff` says for which packets and chains that makes no difference.
-/
import Mathlib
import Wormhole.Lib.Bytes
import Wormhole.Lib.Failing
import Wormhole.Lib.Reader
import Wormhole.Sdk.Vaa
import Wormhole.Sdk.Payloads

namespace Wormhole.Sdk

open Wormhole.Lib Wormhole.Lib.Bytes

/-! ## Packets -/

structure GovHeader where
  module' : FixedBytes 32
  action : UInt8
  chains : Chain
  deriving DecidableEq

/-- What an action implements: its number, its module and its parser. -/
structure GovernanceAction (α : Type) where
  ACTION : UInt8
  MODULE : List UInt8
  parse : Parser α

def parseGovernanceHeader : Unwrapping GovHeader := do
  let module' ← parseFixed 32
  let action ← u8
  let chains ← u16
  let chains ← unwrap (Chain.tryFrom chains)
  return { module', action, chains }

/-- Left 0-pad the MODULE in case it is unpadded. -/
def paddedModule (MODULE : List UInt8) : List UInt8 := List.replicate (32 - MODULE.length) 0x00 ++ MODULE

namespace GovernanceAction

variable {α : Type} (A : GovernanceAction α)

def parseAction : Unwrapping (GovHeader × α) := do
  let header ← parseGovernanceHeader
  let action ← A.parse
  return (header, action)

/-- `from_bytes` -/
def fromBytes (input : List UInt8) (chain : Option Chain) : Except (Fault WormholeError) (GovHeader × α) := do
  let (header, action) ← finish (A.parseAction.decode input)
  -- If no Chain is given, we assume All, which implies always valid.
  let chain := chain.getD .all
  -- Verify Governance Data.
  if header.action ≠ A.ACTION then throw (.returned .invalidGovernanceAction)
  else if ¬(chain = header.chains ∨ chain = .all) then throw (.returned .invalidGovernanceChain)
  else if paddedModule A.MODULE ≠ header.module'.val then throw (.returned .invalidGovernanceModule)
  else return (header, action)

end GovernanceAction

/-! ## Actions -/

/-- "Core" -/
def Core.MODULE : List UInt8 := [0x43, 0x6f, 0x72, 0x65]

/-- "TokenBridge" -/
def Token.MODULE : List UInt8 := [0x54, 0x6f, 0x6b, 0x65, 0x6e, 0x42, 0x72, 0x69, 0x64, 0x67, 0x65]

/-- "NFTBridge" -/
def Nft.MODULE : List UInt8 := [0x4e, 0x46, 0x54, 0x42, 0x72, 0x69, 0x64, 0x67, 0x65]

structure GovernanceContractUpgrade where
  newContract : FixedBytes 32
  deriving DecidableEq

structure GovernanceRegisterChain where
  emitter : Chain
  endpointAddress : FixedBytes 32
  deriving DecidableEq

def parseContractUpgrade : Parser GovernanceContractUpgrade := do
  let newContract ← parseFixed 32
  return { newContract }

def parseRegisterChain : Parser GovernanceRegisterChain := do
  let emitter ← parseChain
  let endpointAddress ← parseFixed 32
  return { emitter, endpointAddress }

namespace Core

structure GovernanceGuardianSetChange where
  newGuardianSetIndex : UInt32
  newGuardianSet : List (FixedBytes 20)
  deriving DecidableEq

structure GovernanceSetMessageFee where
  fee : Nat
  deriving DecidableEq

structure GovernanceTransferFees where
  amount : Nat
  to' : FixedBytes 32
  deriving DecidableEq

def parseGuardianSetChange : Parser GovernanceGuardianSetChange := do
  let newGuardianSetIndex ← u32
  let guardianCount ← u8
  let newGuardianSet ← Reader.replicate (parseFixed 20) guardianCount.toNat
  return { newGuardianSetIndex, newGuardianSet }

def parseSetMessageFee : Parser GovernanceSetMessageFee := do
  let fee ← parseFixed 32
  return { fee := beNat fee.val }

def parseTransferFees : Parser GovernanceTransferFees := do
  let amount ← parseFixed 32
  let to' ← parseFixed 32
  return { amount := beNat amount.val, to' }

def contractUpgrade : GovernanceAction GovernanceContractUpgrade := ⟨1, MODULE, parseContractUpgrade⟩
def guardianSetChange : GovernanceAction GovernanceGuardianSetChange := ⟨2, MODULE, parseGuardianSetChange⟩
def setMessageFee : GovernanceAction GovernanceSetMessageFee := ⟨3, MODULE, parseSetMessageFee⟩
def transferFees : GovernanceAction GovernanceTransferFees := ⟨4, MODULE, parseTransferFees⟩

end Core

def Token.registerChain : GovernanceAction GovernanceRegisterChain := ⟨1, Token.MODULE, parseRegisterChain⟩
def Token.contractUpgrade : GovernanceAction GovernanceContractUpgrade :=
  ⟨2, Token.MODULE, parseContractUpgrade⟩

def Nft.registerChain : GovernanceAction GovernanceRegisterChain := ⟨1, Nft.MODULE, parseRegisterChain⟩
def Nft.contractUpgrade : GovernanceAction GovernanceContractUpgrade := ⟨2, Nft.MODULE, parseContractUpgrade⟩

/-- The actions of the SDK. -/
inductive Action where
  | contractUpgrade
  | guardianSetChange
  | setMessageFee
  | transferFees
  | tokenRegisterChain
  | tokenContractUpgrade
  | nftRegisterChain
  | nftContractUpgrade

namespace Action

/-- What the packet of an action carries. -/
abbrev Body : Action → Type
  | contractUpgrade | tokenContractUpgrade | nftContractUpgrade => GovernanceContractUpgrade
  | guardianSetChange => Core.GovernanceGuardianSetChange
  | setMessageFee => Core.GovernanceSetMessageFee
  | transferFees => Core.GovernanceTransferFees
  | tokenRegisterChain | nftRegisterChain => GovernanceRegisterChain

def implementation : (a : Action) → GovernanceAction a.Body
  | contractUpgrade => Core.contractUpgrade
  | guardianSetChange => Core.guardianSetChange
  | setMessageFee => Core.setMessageFee
  | transferFees => Core.transferFees
  | tokenRegisterChain => Token.registerChain
  | tokenContractUpgrade => Token.contractUpgrade
  | nftRegisterChain => Nft.registerChain
  | nftContractUpgrade => Nft.contractUpgrade

/-- The wire layout of a body. -/
def bytes : (a : Action) → a.Body → List UInt8
  | contractUpgrade, x | tokenContractUpgrade, x | nftContractUpgrade, x => x.newContract.val
  | guardianSetChange, x => beBytes 4 x.newGuardianSetIndex.toNat ++
      (UInt8.ofNat x.newGuardianSet.length :: x.newGuardianSet.flatMap Subtype.val)
  | setMessageFee, x => beBytes 32 x.fee
  | transferFees, x => beBytes 32 x.amount ++ x.to'.val
  | tokenRegisterChain, x | nftRegisterChain, x => beBytes 2 x.emitter.toU16.toNat ++ x.endpointAddress.val

/-- `from_bytes` of the action. -/
def fromBytes (a : Action) (input : List UInt8) (chain : Option Chain) :
    Except (Fault WormholeError) (GovHeader × a.Body) := a.implementation.fromBytes input chain

end Action

/-! ## What is read -/

section Reads

variable {α : Type} {A : GovernanceAction α} {input rest : List UInt8}

theorem parseGovernanceHeader_eq_ok {header : GovHeader} : parseGovernanceHeader.run input = .ok (header, rest) ↔
    input = header.module'.val ++ header.action :: (beBytes 2 header.chains.toU16.toNat ++ rest) := by
  unfold parseGovernanceHeader
  constructor
  · intro h
    obtain ⟨module', _, hmodule, h⟩ := Reader.bind_eq_ok.mp h
    obtain ⟨action, _, haction, h⟩ := Reader.bind_eq_ok.mp h
    obtain ⟨x, _, hx, h⟩ := Reader.bind_eq_ok.mp h
    obtain ⟨chains, _, hchains, h⟩ := Reader.bind_eq_ok.mp h
    obtain ⟨rfl, rfl⟩ := Reader.pure_eq_ok.mp h
    obtain ⟨hknown, rfl⟩ := unwrap_eq_ok.mp hchains
    rw [attempt_eq_ok, parseFixed_eq_ok] at hmodule
    rw [attempt_eq_ok, u8_eq_ok] at haction
    rw [attempt_eq_ok, u16_eq_ok, ← Chain.toU16_of_tryFrom hknown] at hx
    rw [hmodule, haction, hx]
  · rintro rfl
    refine Reader.bind_eq_ok.mpr ⟨_, _, attempt_eq_ok.mpr (parseFixed_eq_ok.mpr rfl), ?_⟩
    refine Reader.bind_eq_ok.mpr ⟨_, _, attempt_eq_ok.mpr (u8_eq_ok.mpr rfl), ?_⟩
    refine Reader.bind_eq_ok.mpr ⟨_, _, attempt_eq_ok.mpr (u16_eq_ok.mpr rfl), ?_⟩
    exact Reader.bind_eq_ok.mpr ⟨_, _, unwrap_eq_ok.mpr ⟨Chain.tryFrom_toU16 _, rfl⟩, rfl⟩

theorem parseAction_eq_ok {header : GovHeader} {x : α} : A.parseAction.run input = .ok ((header, x), rest) ↔
    ∃ body, input = header.module'.val ++ header.action :: (beBytes 2 header.chains.toU16.toNat ++ body) ∧
      A.parse.run body = .ok (x, rest) := by
  unfold GovernanceAction.parseAction
  constructor
  · intro h
    obtain ⟨header', body, hheader, h⟩ := Reader.bind_eq_ok.mp h
    obtain ⟨x', _, hx, h⟩ := Reader.bind_eq_ok.mp h
    obtain ⟨heq, rfl⟩ := Reader.pure_eq_ok.mp h
    obtain ⟨rfl, rfl⟩ := Prod.mk.inj heq
    exact ⟨body, parseGovernanceHeader_eq_ok.mp hheader, attempt_eq_ok.mp hx⟩
  · rintro ⟨body, hinput, hx⟩
    refine Reader.bind_eq_ok.mpr ⟨header, body, parseGovernanceHeader_eq_ok.mpr hinput, ?_⟩
    exact Reader.bind_eq_ok.mpr ⟨x, rest, attempt_eq_ok.mpr hx, rfl⟩

/-- **What the SDK accepts.** -/
theorem fromBytes_eq_ok {chain : Option Chain} {header : GovHeader} {x : α} :
    A.fromBytes input chain = .ok (header, x) ↔
      (∃ rest, A.parseAction.run input = .ok ((header, x), rest)) ∧ header.action = A.ACTION ∧
        (chain.getD .all = header.chains ∨ chain.getD .all = .all) ∧
        paddedModule A.MODULE = header.module'.val := by
  unfold GovernanceAction.fromBytes
  rw [Failing.bind_eq_ok]
  constructor
  · rintro ⟨⟨header', x'⟩, hread, h⟩
    dsimp only at h
    by_cases haction : header'.action ≠ A.ACTION
    · rw [if_pos haction] at h
      cases h
    · rw [if_neg haction] at h
      by_cases hchain : ¬(chain.getD .all = header'.chains ∨ chain.getD .all = .all)
      · rw [if_pos hchain] at h
        cases h
      · rw [if_neg hchain] at h
        by_cases hmodule : paddedModule A.MODULE ≠ header'.module'.val
        · rw [if_pos hmodule] at h
          cases h
        · rw [if_neg hmodule] at h
          obtain ⟨rfl, rfl⟩ := Prod.mk.inj (Except.ok.inj h)
          exact ⟨finish_eq_ok.mp hread, not_ne_iff.mp haction, not_not.mp hchain, not_ne_iff.mp hmodule⟩
  · rintro ⟨hread, haction, hchain, hmodule⟩
    refine ⟨(header, x), finish_eq_ok.mpr hread, ?_⟩
    show (if header.action ≠ A.ACTION then _ else _) = _
    rw [if_neg (not_ne_iff.mpr haction), if_neg (not_not.mpr hchain), if_neg (not_ne_iff.mpr hmodule)]
    rfl

end Reads

/-! ## Target chains -/

/-- The payload is a packet of the action, for the chain `target`. -/
def IsPacket (a : Action) (target : UInt16) (input : List UInt8) : Prop :=
  ∃ body x rest, input = paddedModule a.implementation.MODULE ++
      a.implementation.ACTION :: (beBytes 2 target.toNat ++ body) ∧
    a.implementation.parse.run body = .ok (x, rest)

/-- The SDK accepts the payload for the chain. -/
def Accepts (a : Action) (input : List UInt8) (chain : Chain) : Prop :=
  ∃ header x, a.fromBytes input (some chain) = .ok (header, x)

/-- **Addressed to the chain**, or to all of them. -/
def Addressed (a : Action) (input : List UInt8) (chain : Chain) : Prop :=
  IsPacket a chain.toU16 input ∨ IsPacket a 0 input

theorem paddedModule_length (a : Action) : (paddedModule a.implementation.MODULE).length = 32 := by
  cases a <;> rfl

theorem IsPacket.target {a : Action} {target target' : UInt16} {input : List UInt8}
    (h : IsPacket a target input) (h' : IsPacket a target' input) : target = target' := by
  obtain ⟨body, -, -, rfl, -⟩ := h
  obtain ⟨body', -, -, heq, -⟩ := h'
  have htail := List.append_cancel_left heq
  have hchain := List.append_inj_left (List.cons.inj htail).2 (by simp)
  exact UInt16.toNat.inj (beBytes_injective (toNat_lt_uint16 _) (toNat_lt_uint16 _) hchain)

/-- A packet is accepted by the chain in its header; and whatever that is, when 0 is asked for. -/
theorem accepts_iff {a : Action} {input : List UInt8} {chain : Chain} :
    Accepts a input chain ↔ ∃ target, IsPacket a target input ∧ target ≤ 7 ∧ (target = chain.toU16 ∨ chain = .all) := by
  constructor
  · rintro ⟨header, x, h⟩
    obtain ⟨⟨rest, hread⟩, haction, hchain, hmodule⟩ := fromBytes_eq_ok.mp h
    obtain ⟨body, rfl, hx⟩ := parseAction_eq_ok.mp hread
    refine ⟨header.chains.toU16, ⟨body, x, rest, by rw [hmodule, haction], hx⟩, ?_, ?_⟩
    · rw [← Chain.tryFrom_isSome, Chain.tryFrom_toU16]
      rfl
    · exact hchain.imp_left fun heq => by rw [← heq]; rfl
  · rintro ⟨target, ⟨body, x, rest, rfl, hx⟩, hknown, hchain⟩
    obtain ⟨chains, hchains⟩ := Option.isSome_iff_exists.mp ((Chain.tryFrom_isSome target).mpr hknown)
    obtain rfl := Chain.toU16_of_tryFrom hchains
    refine ⟨⟨⟨_, paddedModule_length a⟩, a.implementation.ACTION, chains⟩, x, fromBytes_eq_ok.mpr
      ⟨⟨rest, parseAction_eq_ok.mpr ⟨body, rfl, hx⟩⟩, rfl, ?_, rfl⟩⟩
    refine hchain.imp_left fun heq => ?_
    have htry := Chain.tryFrom_toU16 chain
    rw [← heq, Chain.tryFrom_toU16] at htry
    exact (Option.some.inj htry).symm

/-- **Which packets the SDK accepts for the chains they are for.** It does for a packet and a chain exactly
when the packet names that chain, or neither of the two is 0, or the SDK does not know the packet's chain. -/
theorem targets_iff (a : Action) (input : List UInt8) (chain : Chain) :
    (Accepts a input chain ↔ Addressed a input chain) ↔
      ∀ target, IsPacket a target input →
        target = chain.toU16 ∨ (target ≠ 0 ∧ chain ≠ .all) ∨ 7 < target := by
  have hchain : ∀ c : Chain, c.toU16 ≤ 7 := fun c => by cases c <;> decide
  have hall : ∀ c : Chain, c.toU16 = 0 ↔ c = .all := fun c => by cases c <;> decide
  rw [accepts_iff]
  constructor
  · intro h target hpacket
    by_contra hno
    obtain ⟨hne, hzero, hknown⟩ : target ≠ chain.toU16 ∧ (target = 0 ∨ chain = .all) ∧ target ≤ 7 := by
      rw [not_or, not_or, not_and_or, not_ne_iff, not_ne_iff, UInt16.not_lt] at hno
      exact hno
    rcases hzero with rfl | rfl
    · -- a packet for all chains, of which one is asked for
      obtain ⟨target, hpacket', -, htarget⟩ := h.mpr (.inr hpacket)
      obtain rfl := hpacket.target hpacket'
      exact htarget.elim hne fun hc => hne ((hall chain).mpr hc).symm
    · -- a packet for one chain, and all are asked for
      rcases h.mp ⟨target, hpacket, hknown, .inr rfl⟩ with hpacket' | hpacket'
      · exact hne (hpacket.target hpacket')
      · exact hne (hpacket.target hpacket')
  · intro h
    constructor
    · rintro ⟨target, hpacket, hknown, htarget⟩
      rcases htarget with rfl | rfl
      · exact .inl hpacket
      · rcases h target hpacket with rfl | ⟨-, hne⟩ | hunknown
        · exact .inl hpacket
        · exact absurd rfl hne
        · exact absurd hknown (UInt16.not_le.mpr hunknown)
    · rintro (hpacket | hpacket)
      · exact ⟨_, hpacket, hchain chain, .inl rfl⟩
      · rcases h 0 hpacket with hzero | ⟨hne, -⟩ | hunknown
        · exact ⟨0, hpacket, by decide, .inl hzero⟩
        · exact absurd rfl hne
        · exact absurd hunknown (by decide)

/-! ## Samples -/

/-- A guardian set change of one guardian, for the chain. -/
def samplePacket (target : UInt16) : List UInt8 :=
  paddedModule Core.MODULE ++ 2 :: (beBytes 2 target.toNat ++
    ([0x00, 0x00, 0x00, 0x01] ++ 1 :: List.replicate 20 0x07))

theorem samplePacket_isPacket (target : UInt16) : IsPacket .guardianSetChange target (samplePacket target) := by
  refine ⟨_, ⟨1, [⟨List.replicate 20 0x07, rfl⟩]⟩, [], rfl, ?_⟩
  decide +kernel

/-- **A packet for all chains is refused by Ethereum.** And one for Terra is accepted where all are asked
for. -/
theorem samplePacket_refused :
    Addressed .guardianSetChange (samplePacket 0) .ethereum ∧
    ¬Accepts .guardianSetChange (samplePacket 0) .ethereum ∧
    Accepts .guardianSetChange (samplePacket 3) .all ∧
    ¬Addressed .guardianSetChange (samplePacket 3) .all := by
  refine ⟨.inr (samplePacket_isPacket 0), ?_, ?_, ?_⟩
  · rintro ⟨header, x, h⟩
    have hrefused : Action.guardianSetChange.fromBytes (samplePacket 0) (some .ethereum) =
        .error (.returned .invalidGovernanceChain) := by rfl
    rw [hrefused] at h
    cases h
  · exact accepts_iff.mpr ⟨3, samplePacket_isPacket 3, by decide, .inr rfl⟩
  · rintro (hpacket | hpacket)
    · exact absurd ((samplePacket_isPacket 3).target hpacket) (by decide)
    · exact absurd ((samplePacket_isPacket 3).target hpacket) (by decide)

end Wormhole.Sdk

/-
# Wormhole.Sdk.Panics — which bytes make the Rust SDK panic.

The parsers of the SDK run on bytes that anybody has made up.  Two of their conversions are unwrapped and can
fail: the chain of a governance header, of which the SDK knows those up to 7, and the URI of an NFT transfer,
which need not be UTF-8.  `parsesSafely_iff` says that there is no other panic, and that whatever is read is
what was there.
-/
import Mathlib
import Wormhole.Lib.Bytes
import Wormhole.Lib.Reader
import Wormhole.Lib.Utf8
import Wormhole.Sdk.Vaa
import Wormhole.Sdk.Payloads
import Wormhole.Sdk.Governance

namespace Wormhole.Sdk

open Wormhole.Lib Wormhole.Lib.Bytes

/-! ## Bodies of governance packets -/

section Bodies

variable {bs rest : List UInt8}

theorem parseContractUpgrade_reads {x : GovernanceContractUpgrade}
    (h : parseContractUpgrade.run bs = .ok (x, rest)) : bs = x.newContract.val ++ rest := by
  obtain ⟨newContract, _, hnew, h⟩ := Reader.bind_eq_ok.mp h
  obtain ⟨rfl, rfl⟩ := Reader.pure_eq_ok.mp h
  exact parseFixed_eq_ok.mp hnew

theorem parseRegisterChain_reads {x : GovernanceRegisterChain} (h : parseRegisterChain.run bs = .ok (x, rest)) :
    bs = beBytes 2 x.emitter.toU16.toNat ++ x.endpointAddress.val ++ rest := by
  obtain ⟨emitter, _, hemitter, h⟩ := Reader.bind_eq_ok.mp h
  obtain ⟨endpointAddress, _, hendpoint, h⟩ := Reader.bind_eq_ok.mp h
  obtain ⟨rfl, rfl⟩ := Reader.pure_eq_ok.mp h
  rw [parseChain_eq_ok.mp hemitter, parseFixed_eq_ok.mp hendpoint, List.append_assoc]

theorem parseGuardianSetChange_reads {x : Core.GovernanceGuardianSetChange}
    (h : Core.parseGuardianSetChange.run bs = .ok (x, rest)) :
    bs = Action.guardianSetChange.bytes x ++ rest := by
  obtain ⟨newGuardianSetIndex, _, hindex, h⟩ := Reader.bind_eq_ok.mp h
  obtain ⟨guardianCount, _, hcount, h⟩ := Reader.bind_eq_ok.mp h
  obtain ⟨newGuardianSet, _, hset, h⟩ := Reader.bind_eq_ok.mp h
  obtain ⟨rfl, rfl⟩ := Reader.pure_eq_ok.mp h
  obtain ⟨hlength, hset⟩ := replicate_eq_ok (fun _ _ _ => parseFixed_eq_ok.mp) hset
  rw [u32_eq_ok.mp hindex, u8_eq_ok.mp hcount, hset, Action.bytes, hlength, UInt8.ofNat_toNat]
  simp only [List.cons_append, List.append_assoc]

theorem beBytes_beNat_array (a : FixedBytes 32) : beBytes 32 (beNat a.val) = a.val := by
  have h := beBytes_beNat a.val
  rwa [a.property] at h

theorem parseSetMessageFee_reads {x : Core.GovernanceSetMessageFee}
    (h : Core.parseSetMessageFee.run bs = .ok (x, rest)) : bs = Action.setMessageFee.bytes x ++ rest := by
  obtain ⟨fee, _, hfee, h⟩ := Reader.bind_eq_ok.mp h
  obtain ⟨rfl, rfl⟩ := Reader.pure_eq_ok.mp h
  rw [parseFixed_eq_ok.mp hfee, Action.bytes, beBytes_beNat_array]

theorem parseTransferFees_reads {x : Core.GovernanceTransferFees}
    (h : Core.parseTransferFees.run bs = .ok (x, rest)) : bs = Action.transferFees.bytes x ++ rest := by
  obtain ⟨amount, _, hamount, h⟩ := Reader.bind_eq_ok.mp h
  obtain ⟨to', _, hto, h⟩ := Reader.bind_eq_ok.mp h
  obtain ⟨rfl, rfl⟩ := Reader.pure_eq_ok.mp h
  rw [parseFixed_eq_ok.mp hamount, parseFixed_eq_ok.mp hto, Action.bytes, beBytes_beNat_array, List.append_assoc]

/-- The body of every action, written again. -/
theorem Action.body_reads {a : Action} {x : a.Body} (h : a.implementation.parse.run bs = .ok (x, rest)) :
    bs = a.bytes x ++ rest := by
  cases a with
  | contractUpgrade => exact parseContractUpgrade_reads h
  | guardianSetChange => exact parseGuardianSetChange_reads h
  | setMessageFee => exact parseSetMessageFee_reads h
  | transferFees => exact parseTransferFees_reads h
  | tokenRegisterChain => exact parseRegisterChain_reads h
  | tokenContractUpgrade => exact parseContractUpgrade_reads h
  | nftRegisterChain => exact parseRegisterChain_reads h
  | nftContractUpgrade => exact parseContractUpgrade_reads h

end Bodies

/-! ## Governance -/

/-- The wire layout of a header. -/
def GovHeader.bytes (header : GovHeader) : List UInt8 :=
  header.module'.val ++ header.action :: beBytes 2 header.chains.toU16.toNat

/-- **The bytes that start with a header for a chain the SDK does not know.** -/
def UnknownChain (input : List UInt8) : Prop :=
  ∃ (module' : FixedBytes 32) (action : UInt8) (chains : UInt16),
    7 < chains ∧ module'.val ++ action :: beBytes 2 chains.toNat <+: input

section Governance

variable {input : List UInt8} {chain : Option Chain}

theorem panics_parseGovernanceHeader_iff : Panics parseGovernanceHeader input ↔ UnknownChain input := by
  unfold parseGovernanceHeader
  constructor
  · intro h
    obtain ⟨module', _, hmodule, h⟩ := panics_attempt.mp h
    obtain ⟨action, _, haction, h⟩ := panics_attempt.mp h
    obtain ⟨chains, left, hchains, h⟩ := panics_attempt.mp h
    have hunknown : Chain.tryFrom chains = none :=
      (panics_unwrap.mp h).resolve_right fun ⟨_, _, h⟩ => not_panics_pure h
    refine ⟨module', action, chains, ?_, left, ?_⟩
    · rw [← UInt16.not_le, ← Chain.tryFrom_isSome, hunknown]
      exact Bool.false_ne_true
    · rw [parseFixed_eq_ok.mp hmodule, u8_eq_ok.mp haction, u16_eq_ok.mp hchains]
      simp only [List.cons_append, List.append_assoc]
  · rintro ⟨module', action, chains, hunknown, left, rfl⟩
    simp only [List.cons_append, List.append_assoc]
    refine panics_attempt.mpr ⟨module', _, parseFixed_eq_ok.mpr rfl, ?_⟩
    refine panics_attempt.mpr ⟨action, _, u8_eq_ok.mpr rfl, ?_⟩
    refine panics_attempt.mpr ⟨chains, left, u16_eq_ok.mpr rfl, ?_⟩
    apply panics_unwrap.mpr
    left
    rw [← Option.not_isSome_iff_eq_none, Chain.tryFrom_isSome]
    exact UInt16.not_le.mpr hunknown

/-- The body of a packet does not panic. -/
theorem panics_parseAction_iff {α : Type} {A : GovernanceAction α} :
    Panics A.parseAction input ↔ UnknownChain input := by
  rw [GovernanceAction.parseAction, panics_bind, panics_parseGovernanceHeader_iff, or_iff_left]
  rintro ⟨header, rest, -, h⟩
  obtain ⟨x, _, -, h⟩ := panics_attempt.mp h
  exact not_panics_pure h

theorem fromBytes_eq_panicked {a : Action} : a.fromBytes input chain = .error .panicked ↔ UnknownChain input := by
  rw [← @panics_parseAction_iff input _ a.implementation, ← finish_eq_panicked]
  unfold Action.fromBytes GovernanceAction.fromBytes
  cases hread : finish (a.implementation.parseAction.decode input) with
  | error e => exact Iff.rfl
  | ok p =>
    obtain ⟨header, x⟩ := p
    refine iff_of_false (fun h => ?_) nofun
    rw [Failing.ok_bind] at h
    dsimp only at h
    -- the checks return their errors
    split at h
    · cases h
    · split at h
      · cases h
      · split at h
        · cases h
        · cases h

/-- **A packet that is read, written again.** -/
theorem fromBytes_reads {a : Action} {header : GovHeader} {x : a.Body}
    (h : a.fromBytes input chain = .ok (header, x)) : header.bytes ++ a.bytes x <+: input := by
  obtain ⟨⟨rest, hread⟩, -⟩ := fromBytes_eq_ok.mp h
  obtain ⟨body, rfl, hbody⟩ := parseAction_eq_ok.mp hread
  refine ⟨rest, ?_⟩
  rw [Action.body_reads hbody, GovHeader.bytes]
  simp only [List.cons_append, List.append_assoc]

end Governance

/-! ## All parsers -/

/-- **Safe parsing.** None of the parsers panics on the bytes, whatever chain is asked for, and what they read,
written again, is what was there, up to the stripping of names and symbols.  The parser of VAAs unwraps
nothing. -/
structure ParsesSafely (chars : List UInt8 → List Char) (input : List UInt8) : Prop where
  vaa : ∀ v, VAA.fromBytes input = .ok v → v.bytes = input
  transfer : Token.Transfer.fromBytes input ≠ .error .panicked
  transfer_reads : ∀ t, Token.Transfer.fromBytes input = .ok t → t.bytes <+: input
  assetMeta : Token.AssetMeta.fromBytes chars input ≠ .error .panicked
  assetMeta_reads : ∀ t, Token.AssetMeta.fromBytes chars input = .ok t → ∃ symbol name,
    t.bytes symbol name <+: input ∧ SameText chars (padText t.symbol) symbol ∧
      SameText chars (padText t.name) name
  nftTransfer : Nft.Transfer.fromBytes chars input ≠ .error .panicked
  nftTransfer_reads : ∀ t, Nft.Transfer.fromBytes chars input = .ok t → ∃ symbol name,
    t.bytes symbol name <+: input ∧ SameText chars (padText t.symbol) symbol ∧
      SameText chars (padText t.name) name
  governance : ∀ (a : Action) chain, a.fromBytes input chain ≠ .error .panicked
  governance_reads : ∀ (a : Action) chain header x, a.fromBytes input chain = .ok (header, x) →
    header.bytes ++ a.bytes x <+: input

/-- **Which bytes are parsed safely.** All but those that start with a governance header for a chain above 7,
and those that read as an NFT transfer but for a URI that is not UTF-8. -/
theorem parsesSafely_iff {chars : List UInt8 → List Char} (hchars : Utf8.Lossy chars) (input : List UInt8) :
    ParsesSafely chars input ↔ ¬UnknownChain input ∧ ¬Nft.BrokenUri input := by
  constructor
  · intro h
    constructor
    · intro hunknown
      exact h.governance .contractUpgrade none (fromBytes_eq_panicked.mpr hunknown)
    · intro hbroken
      exact h.nftTransfer (finish_eq_panicked.mpr (Nft.panics_iff.mpr hbroken))
  · rintro ⟨hknown, hreadable⟩
    exact
      { vaa := fun v hv => VAA.reads hv
        transfer := fun h => Token.not_panics_transfer (finish_eq_panicked.mp h)
        transfer_reads := fun t ht => Token.Transfer.reads ht
        assetMeta := fun h => Token.not_panics_assetMeta (finish_eq_panicked.mp h)
        assetMeta_reads := fun t ht => Token.AssetMeta.reads hchars ht
        nftTransfer := fun h => hreadable (Nft.panics_iff.mp (finish_eq_panicked.mp h))
        nftTransfer_reads := fun t ht => Nft.Transfer.reads hchars ht
        governance := fun a chain h => hknown (fromBytes_eq_panicked.mp h)
        governance_reads := fun a chain header x h => fromBytes_reads h }

/-! ## Samples -/

/-- A packet for all chains. -/
theorem samplePacket_parsesSafely : ParsesSafely Utf8.lossy (samplePacket 0) := by
  refine (parsesSafely_iff Utf8.lossy_lossy _).mpr ⟨fun hunknown => ?_, fun hbroken => ?_⟩
  · have hpanics : Action.guardianSetChange.fromBytes (samplePacket 0) none = .error .panicked :=
      fromBytes_eq_panicked.mpr hunknown
    have hread : (Action.guardianSetChange.fromBytes (samplePacket 0) none).isOk = true := by decide +kernel
    rw [hpanics] at hread
    cases hread
  · have hpanics : Panics (Nft.parsePayloadTransfer Utf8.lossy) (samplePacket 0) := Nft.panics_iff.mpr hbroken
    cases hpanics

/-- An NFT of Ethereum on its way to Solana, with a URI of one byte. -/
def sampleNft (uri : UInt8) : List UInt8 :=
  Nft.transferBytes (List.replicate 32 0x11) .ethereum (List.replicate 32 0x53) (List.replicate 32 0x4e)
    (List.replicate 32 0x07) [uri] (List.replicate 32 0x22) .solana

/-- **A packet for Alephium panics**, and so does a URI that is not UTF-8. -/
theorem samplePacket_panics :
    Action.guardianSetChange.fromBytes (samplePacket 13) (some .solana) = .error .panicked ∧
    ¬ParsesSafely Utf8.lossy (samplePacket 13) ∧
    Nft.Transfer.fromBytes Utf8.lossy (sampleNft 0xff) = .error .panicked ∧
    ¬ParsesSafely Utf8.lossy (sampleNft 0xff) := by
  have hpacket : Action.guardianSetChange.fromBytes (samplePacket 13) (some .solana) = .error .panicked := rfl
  have huri : Utf8.decode? [0xff] = none := by
    rw [← Option.not_isSome_iff_eq_none]
    decide +kernel
  have hnft : Nft.Transfer.fromBytes Utf8.lossy (sampleNft 0xff) = .error .panicked := by
    refine finish_eq_panicked.mpr (Nft.panics_iff.mpr ?_)
    exact ⟨⟨_, List.length_replicate⟩, ⟨_, List.length_replicate⟩, ⟨_, List.length_replicate⟩,
      ⟨_, List.length_replicate⟩, ⟨_, List.length_replicate⟩, _, _, _, by decide, huri, List.prefix_rfl⟩
  exact ⟨hpacket, fun h => h.governance _ _ hpacket, hnft, fun h => h.nftTransfer hnft⟩

end Wormhole.Sdk

/-
# Wormhole.Solana.DerivedAccounts — the program-derived accounts, by their seeds alone.

`find_program_address` hashes the seeds one after the other, and a bump behind them, so that how the seeds are cut is
forgotten.  Claims, endpoints and custody accounts have no text in their seeds: they start with bytes that others
choose.  What tells the accounts of a program apart are the lengths of their seeds, and the texts of `emitter` and
`upgrade`, the only two kinds of one length.
-/
import Mathlib
import Wormhole.Lib.Bytes
import Wormhole.Lib.Layouts
import Wormhole.Solana.Solitaire
import Wormhole.Solana.Accounts
import Wormhole.Solana.TokenBridge
import Wormhole.Solana.TokenTransfers
import Wormhole.Solana.NftBridge
import Wormhole.Solana.Upgrades

namespace Wormhole.Solana

open Wormhole.Lib Wormhole.Lib.Bytes

/-- The longest seed; with a longer one `find_program_address` panics. -/
def MAX_SEED_LEN : Nat := 32

/-! ## Derivation data -/

/-- What tells the claims from each other: the id of a VAA. -/
structure ClaimDerivationData where
  emitterAddress : FixedBytes 32
  emitterChain : UInt16
  sequence : UInt64

namespace ClaimDerivationData

/-- The emitter, its chain and the sequence, with no text in front. -/
def seeds (data : ClaimDerivationData) : List (List UInt8) :=
  [data.emitterAddress.val, beBytes 2 data.emitterChain.toNat, beBytes 8 data.sequence.toNat]

/-- Each of the three seeds has one length. -/
theorem map_length (data : ClaimDerivationData) : data.seeds.map List.length = [32, 2, 8] := by
  simp [seeds, data.emitterAddress.property]

/-- The numbers are big-endian, so the id can be read off the seeds. -/
theorem seeds_injective : Function.Injective seeds := by
  rintro ⟨address, chain, sequence⟩ ⟨address', chain', sequence'⟩ h
  simp only [seeds, List.cons.injEq, and_true] at h
  obtain ⟨haddress, hchain, hsequence⟩ := h
  rw [Subtype.ext haddress, UInt16.toNat_inj.mp (beBytes_injective chain.toNat_lt chain'.toNat_lt hchain),
    UInt64.toNat_inj.mp (beBytes_injective sequence.toNat_lt sequence'.toNat_lt hsequence)]

theorem admits (data : ClaimDerivationData) : (Layout.fixed [] 42).Admits data.seeds.flatten := by
  have hlen : data.seeds.flatten.length = 42 := by
    rw [List.length_flatten, data.map_length]
    rfl
  exact ⟨data.seeds.flatten, rfl, hlen.ge, hlen.le⟩

/-- The id can still be read off them where they are cut no more. -/
theorem flatten_injective {data data' : ClaimDerivationData} (h : data.seeds.flatten = data'.seeds.flatten) :
    data = data' :=
  seeds_injective (List.eq_iff_flatten_eq.mpr ⟨h, by rw [map_length, map_length]⟩)

end ClaimDerivationData

/-- Any bytes that can be a seed; the hashes of the VAAs are 32 bytes. -/
structure PostedVAADerivationData where
  payloadHash : List UInt8
  bounded : payloadHash.length ≤ MAX_SEED_LEN

/-- "PostedVAA" and the hash. -/
def PostedVAADerivationData.seeds (data : PostedVAADerivationData) : List (List UInt8) :=
  [[0x50, 0x6f, 0x73, 0x74, 0x65, 0x64, 0x56, 0x41, 0x41], data.payloadHash]

/-! ## The core program -/

namespace Core

/-- The kinds of accounts that the core program derives. -/
inductive AccountKind where
  | bridge
  | feeCollector
  | upgrade
  | guardianSet
  | postedVaa
  | sequence
  | claim
  deriving DecidableEq

namespace AccountKind

instance : Fintype AccountKind :=
  ⟨{bridge, feeCollector, upgrade, guardianSet, postedVaa, sequence, claim}, fun k => by cases k <;> decide⟩

/-- The derivation data of a kind; there is one account of the kinds that have none. -/
abbrev Data : AccountKind → Type
  | bridge | feeCollector | upgrade => Unit
  | guardianSet => UInt32
  | postedVaa => PostedVAADerivationData
  | sequence => FixedBytes 32
  | claim => ClaimDerivationData

/-- The seeds that the program derives an account from, by its kind. -/
def seeds : (k : AccountKind) → k.Data → List (List UInt8)
  | bridge, _ => [bridgeSeed]
  | feeCollector, _ => [feeCollectorSeed]
  | upgrade, _ => [upgradeSeed]
  | guardianSet, index => guardianSetSeeds index
  | postedVaa, data => data.seeds
  | sequence, emitterKey => sequenceSeeds emitterKey
  | claim, data => data.seeds

/-- The text in front of a kind's seeds, and how many bytes may follow. -/
def layout : AccountKind → Layout UInt8
  | bridge => Layout.fixed bridgeSeed 0
  | feeCollector => Layout.fixed feeCollectorSeed 0
  | upgrade => Layout.fixed upgradeSeed 0
  | guardianSet => Layout.fixed [0x47, 0x75, 0x61, 0x72, 0x64, 0x69, 0x61, 0x6e, 0x53, 0x65, 0x74] 4
  | postedVaa => ⟨[0x50, 0x6f, 0x73, 0x74, 0x65, 0x64, 0x56, 0x41, 0x41], 0, MAX_SEED_LEN⟩
  | sequence => Layout.fixed [0x53, 0x65, 0x71, 0x75, 0x65, 0x6e, 0x63, 0x65] 32
  | claim => Layout.fixed [] 42

/-- The seeds are laid out as their kind says. -/
theorem seeds_admitted : ∀ (k : AccountKind) (d : k.Data), k.layout.Admits (k.seeds d).flatten
  | bridge, _ | feeCollector, _ | upgrade, _ => Layout.admits_fixed rfl
  | guardianSet, _ => Layout.admits_fixed (by simp)
  | postedVaa, data => ⟨data.payloadHash ++ [], rfl, Nat.zero_le _, by rw [List.append_nil]; exact data.bounded⟩
  | sequence, emitterKey => Layout.admits_fixed (by simp [emitterKey.property])
  | claim, data => data.admits

/-- Within a kind, the seeds determine the derivation data. -/
theorem seeds_inj : ∀ {k : AccountKind} {d e : k.Data}, (k.seeds d).flatten = (k.seeds e).flatten → d = e
  | bridge, _, _, _ | feeCollector, _, _, _ | upgrade, _, _, _ => rfl
  | guardianSet, index, index', h => by
    have hindex := List.append_cancel_right (List.append_cancel_left h)
    exact UInt32.toNat_inj.mp (beBytes_injective (toNat_lt_uint32 index) (toNat_lt_uint32 index') hindex)
  | postedVaa, ⟨hash, _⟩, ⟨hash', _⟩, h => by
    obtain rfl : hash = hash' := List.append_cancel_right (List.append_cancel_left h)
    rfl
  | sequence, _, _, h => Subtype.ext (List.append_cancel_right (List.append_cancel_left h))
  | claim, _, _, h => ClaimDerivationData.flatten_injective h

/-- No bytes are laid out as two kinds say: the lengths differ, and where a posted VAA has the length of another kind,
the texts do. -/
theorem layout_apart : ∀ j k : AccountKind, j = k ∨ j.layout.Apart k.layout := by decide

/-- The kinds of the core program, whose layouts exclude each other. -/
def family : Family AccountKind UInt8 where
  Data := Data
  write k d := (k.seeds d).flatten
  layout := layout
  admits := seeds_admitted
  write_inj := seeds_inj
  apart := layout_apart

end AccountKind

end Core

/-! ## The token bridge and the NFT bridge -/

/-- The kinds that both bridges have. -/
inductive BridgeAccountKind where
  | config
  | custodySigner
  | mintSigner
  | authoritySigner
  | emitter
  | upgrade
  | custody
  | wrapped
  | wrappedMeta
  | endpoint
  | claim
  deriving DecidableEq

/-- What tells the wrapped mints of a bridge from each other: `n` bytes behind "wrapped". -/
structure WrappedSeeded (n : Nat) where
  Data : Type
  seeds : Data → List (List UInt8)
  rest : Data → List UInt8
  flatten_eq : ∀ d, (seeds d).flatten = [0x77, 0x72, 0x61, 0x70, 0x70, 0x65, 0x64] ++ rest d
  rest_length : ∀ d, (rest d).length = n
  rest_injective : Function.Injective rest

namespace BridgeAccountKind

instance : Fintype BridgeAccountKind :=
  ⟨{config, custodySigner, mintSigner, authoritySigner, emitter, upgrade, custody, wrapped, wrappedMeta, endpoint,
    claim}, fun k => by cases k <;> decide⟩

variable {n : Nat} (W : WrappedSeeded n)

/-- The derivation data of a kind; a claim has the id of its VAA, an endpoint its emitter. -/
abbrev Data : BridgeAccountKind → Type
  | config | custodySigner | mintSigner | authoritySigner | emitter | upgrade => Unit
  | custody => FixedBytes 32
  | wrapped => W.Data
  | wrappedMeta => FixedBytes 32
  | endpoint => UInt16 × FixedBytes 32
  | claim => ClaimDerivationData

/-- The seeds that a bridge derives an account from; custody accounts, endpoints and claims have no text in them. -/
def seeds : (k : BridgeAccountKind) → k.Data W → List (List UInt8)
  | config, _ => [TokenBridge.configSeed]
  | custodySigner, _ => [TokenBridge.custodySignerSeed]
  | mintSigner, _ => [TokenBridge.mintSignerSeed]
  | authoritySigner, _ => [TokenBridge.authoritySignerSeed]
  | emitter, _ => [TokenBridge.emitterSeed]
  | upgrade, _ => [upgradeSeed]
  | custody, mint => TokenBridge.custodySeeds mint
  | wrapped, data => W.seeds data
  | wrappedMeta, mintKey => TokenBridge.wrappedMetaSeeds mintKey
  | endpoint, (emitterChain, emitterAddress) => TokenBridge.endpointSeeds emitterChain emitterAddress
  | claim, data => data.seeds

/-- The text in front of a kind's seeds, and how many bytes follow. -/
def layout (n : Nat) : BridgeAccountKind → Layout UInt8
  | config => Layout.fixed TokenBridge.configSeed 0
  | custodySigner => Layout.fixed TokenBridge.custodySignerSeed 0
  | mintSigner => Layout.fixed TokenBridge.mintSignerSeed 0
  | authoritySigner => Layout.fixed TokenBridge.authoritySignerSeed 0
  | emitter => Layout.fixed TokenBridge.emitterSeed 0
  | upgrade => Layout.fixed upgradeSeed 0
  | custody => Layout.fixed [] 32
  | wrapped => Layout.fixed [0x77, 0x72, 0x61, 0x70, 0x70, 0x65, 0x64] n
  | wrappedMeta => Layout.fixed [0x6d, 0x65, 0x74, 0x61] 32
  | endpoint => Layout.fixed [] 34
  | claim => Layout.fixed [] 42

/-- The seeds are laid out as their kind says. -/
theorem seeds_admitted : ∀ (k : BridgeAccountKind) (d : k.Data W), (k.layout n).Admits (k.seeds W d).flatten
  | config, _ | custodySigner, _ | mintSigner, _ | authoritySigner, _ | emitter, _ | upgrade, _ =>
    Layout.admits_fixed rfl
  | custody, mint => Layout.admits_fixed (by simp [mint.property])
  | wrapped, data => by
    show (Layout.fixed _ n).Admits (W.seeds data).flatten
    rw [W.flatten_eq]
    exact Layout.admits_fixed (W.rest_length data)
  | wrappedMeta, mintKey => Layout.admits_fixed (by simp [mintKey.property])
  | endpoint, (_, emitterAddress) => Layout.admits_fixed (by simp [emitterAddress.property])
  | claim, data => data.admits

/-- Within a kind, the seeds determine the derivation data. -/
theorem seeds_inj : ∀ {k : BridgeAccountKind} {d e : k.Data W},
    (k.seeds W d).flatten = (k.seeds W e).flatten → d = e
  | config, _, _, _ | custodySigner, _, _, _ | mintSigner, _, _, _ | authoritySigner, _, _, _ | emitter, _, _, _
  | upgrade, _, _, _ => rfl
  | custody, _, _, h => Subtype.ext (List.append_cancel_right h)
  | wrapped, data, data', h => by
    have hflat : (W.seeds data).flatten = (W.seeds data').flatten := h
    rw [W.flatten_eq, W.flatten_eq] at hflat
    exact W.rest_injective (List.append_cancel_left hflat)
  | wrappedMeta, _, _, h => Subtype.ext (List.append_cancel_right (List.append_cancel_left h))
  | endpoint, (chain, _), (chain', _), h => by
    obtain ⟨hchain, haddress⟩ := List.append_inj h (by rw [beBytes_length, beBytes_length])
    exact Prod.ext (UInt16.toNat_inj.mp (beBytes_injective chain.toNat_lt chain'.toNat_lt hchain))
      (Subtype.ext (List.append_cancel_right haddress))
  | claim, _, _, h => ClaimDerivationData.flatten_injective h

/-- The kinds of a bridge, whose layouts exclude each other. -/
def family (h : ∀ j k : BridgeAccountKind, j = k ∨ (j.layout n).Apart (k.layout n)) :
    Family BridgeAccountKind UInt8 where
  Data := Data W
  write k d := (k.seeds W d).flatten
  layout := layout n
  admits := seeds_admitted W
  write_inj := seeds_inj W
  apart := h

end BridgeAccountKind

namespace TokenBridge

/-- Wrapped mints, by the token's chain and its address. -/
def wrappedSeeded : WrappedSeeded 34 where
  Data := UInt16 × FixedBytes 32
  seeds d := wrappedSeeds d.1 d.2
  rest d := beBytes 2 d.1.toNat ++ d.2.val
  flatten_eq d := by simp [wrappedSeeds]
  rest_length d := by simp [d.2.property]
  rest_injective := by
    rintro ⟨chain, address⟩ ⟨chain', address'⟩ h
    obtain ⟨hchain, haddress⟩ := List.append_inj h (by rw [beBytes_length, beBytes_length])
    exact Prod.ext (UInt16.toNat_inj.mp (beBytes_injective chain.toNat_lt chain'.toNat_lt hchain))
      (Subtype.ext haddress)

end TokenBridge

namespace NftBridge

/-- Wrapped mints, by the token's chain, its address and the token id. -/
def wrappedSeeded : WrappedSeeded 66 where
  Data := UInt16 × FixedBytes 32 × Fin (2 ^ 256)
  seeds d := wrappedSeeds d.1.toNat d.2.1 d.2.2.val
  rest d := beBytes 2 d.1.toNat ++ (d.2.1.val ++ beBytes 32 d.2.2.val)
  flatten_eq d := by simp [wrappedSeeds]
  rest_length d := by simp [d.2.1.property]
  rest_injective := by
    rintro ⟨chain, address, tokenId⟩ ⟨chain', address', tokenId'⟩ h
    obtain ⟨hchain, htail⟩ := List.append_inj h (by rw [beBytes_length, beBytes_length])
    obtain ⟨haddress, hid⟩ := List.append_inj htail (by rw [address.property, address'.property])
    obtain rfl : chain = chain' := UInt16.toNat_inj.mp (beBytes_injective chain.toNat_lt chain'.toNat_lt hchain)
    obtain rfl : address = address' := Subtype.ext haddress
    obtain rfl : tokenId = tokenId' := Fin.ext (beBytes_injective tokenId.isLt tokenId'.isLt hid)
    rfl

end NftBridge

/-! ## Accounts of different kinds -/

namespace BridgeAccountKind

/-- The token bridge: a wrapped mint has 34 bytes behind "wrapped", and so one less than a claim. -/
theorem layout_apart_34 : ∀ j k : BridgeAccountKind, j = k ∨ (j.layout 34).Apart (k.layout 34) := by decide

/-- The NFT bridge: a token id of 32 bytes follows. -/
theorem layout_apart_66 : ∀ j k : BridgeAccountKind, j = k ∨ (j.layout 66).Apart (k.layout 66) := by decide

end BridgeAccountKind

section Derivation

variable {Pubkey : Type} [DecidableEq Pubkey] {P : Program Pubkey} {used : Set (List (List UInt8))} {Kind : Type}

variable (P used) in
/-- The account is verified as one kind only and for one derivation data, as far as the seeds are in use. -/
def VerifiedOnce {Data : Kind → Type} (seeds : Sigma Data → List (List UInt8)) (m : AccountMeta Pubkey) : Prop :=
  ∀ a b, seeds a ∈ used → seeds b ∈ used → verifyDerivation P (seeds a) m = .ok () →
    verifyDerivation P (seeds b) m = .ok () → a = b

/-- Without collisions of the hash, an account is verified as one kind of a family. -/
theorem Program.CollisionFree.verifiedOnce (hfree : P.CollisionFree used) (F : Family Kind UInt8)
    {seeds : Sigma F.Data → List (List UInt8)} (hseeds : ∀ a, (seeds a).flatten = F.write a.1 a.2)
    (m : AccountMeta Pubkey) : VerifiedOnce P used seeds m := by
  intro a b husedA husedB ha hb
  have hkey : P.derive (seeds a) = P.derive (seeds b) :=
    (ensure_eq_ok.mp ha).trans (ensure_eq_ok.mp hb).symm
  apply F.write_injective
  show F.write a.1 a.2 = F.write b.1 b.2
  rw [← hseeds, ← hseeds]
  exact hfree.derive _ husedA _ husedB hkey

end Derivation

/-- **The seeds** of an account, one after the other with the bump behind them, determine its kind and its derivation
data, in each of the three programs; so no account passes as one of two kinds. -/
theorem derivation_unique :
    (Function.Injective fun p : (Σ k : Core.AccountKind, k.Data) × UInt8 =>
      (p.1.1.seeds p.1.2).flatten ++ [p.2]) ∧
    (Function.Injective fun p : (Σ k : BridgeAccountKind, k.Data TokenBridge.wrappedSeeded) × UInt8 =>
      (p.1.1.seeds TokenBridge.wrappedSeeded p.1.2).flatten ++ [p.2]) ∧
    (Function.Injective fun p : (Σ k : BridgeAccountKind, k.Data NftBridge.wrappedSeeded) × UInt8 =>
      (p.1.1.seeds NftBridge.wrappedSeeded p.1.2).flatten ++ [p.2]) ∧
    ∀ {Pubkey : Type} [DecidableEq Pubkey] {P : Program Pubkey} {used : Set (List (List UInt8))},
      P.CollisionFree used → ∀ m : AccountMeta Pubkey,
        (VerifiedOnce P used fun a : Σ k : Core.AccountKind, k.Data => a.1.seeds a.2) m ∧
        (VerifiedOnce P used fun a : Σ k : BridgeAccountKind, k.Data TokenBridge.wrappedSeeded =>
          a.1.seeds TokenBridge.wrappedSeeded a.2) m ∧
        (VerifiedOnce P used fun a : Σ k : BridgeAccountKind, k.Data NftBridge.wrappedSeeded =>
          a.1.seeds NftBridge.wrappedSeeded a.2) m := by
  refine ⟨Core.AccountKind.family.write_concat_injective,
    (BridgeAccountKind.family _ BridgeAccountKind.layout_apart_34).write_concat_injective,
    (BridgeAccountKind.family _ BridgeAccountKind.layout_apart_66).write_concat_injective, ?_⟩
  intro Pubkey _ P used hfree m
  refine ⟨?_, ?_, ?_⟩
  · exact hfree.verifiedOnce Core.AccountKind.family (fun _ => rfl) m
  · exact hfree.verifiedOnce (BridgeAccountKind.family _ BridgeAccountKind.layout_apart_34) (fun _ => rfl) m
  · exact hfree.verifiedOnce (BridgeAccountKind.family _ BridgeAccountKind.layout_apart_66) (fun _ => rfl) m

/-- A program whose addresses are the seeds. -/
def flatProgram : Program (Nat ⊕ List UInt8) where
  programId := .inl 0
  systemProgram := .inl 1
  clock := .inl 2
  instructions := .inl 3
  toBytes := fun _ => zeros 32
  findProgramAddress := fun seeds _ => (.inr seeds.flatten, 255)
  programId_ne_system := by decide

theorem flatProgram_collisionFree : flatProgram.CollisionFree Set.univ := ⟨fun _ _ _ _ h => Sum.inr.inj h⟩

/-- The emitter of the token bridge is no other account. -/
theorem derivation_unique_emitter :
    flatProgram.CollisionFree Set.univ ∧ ∀ b : Σ k : BridgeAccountKind, k.Data TokenBridge.wrappedSeeded,
      verifyDerivation flatProgram (b.1.seeds TokenBridge.wrappedSeeded b.2)
        ⟨.inr TokenBridge.emitterSeed, false, false⟩ = .ok () → b = ⟨.emitter, ()⟩ := by
  refine ⟨flatProgram_collisionFree, fun b hb => ?_⟩
  have hunique := (derivation_unique.2.2.2 flatProgram_collisionFree ⟨.inr TokenBridge.emitterSeed, false, false⟩).2.1
  exact hunique b ⟨.emitter, ()⟩ (Set.mem_univ _) (Set.mem_univ _) hb (by decide)

end Wormhole.Solana

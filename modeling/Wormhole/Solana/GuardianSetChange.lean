/-
# Wormhole.Solana.GuardianSetChange — which payloads are guardian set changes.

The decoder takes the declared number of keys with `Cursor::read`, which returns what is there: a key list that ends
early is filled up with zeros, and the check behind it finds that everything has been read.

The encoder writes headers that name Solana, and the decoder takes those that name chain 0 as well, for the changes
that are meant for every chain.

A payload is decoded faithfully when it is accepted exactly as what the encoder writes for some change, and is then
the encoding of the change that is returned.  `faithfullyDecoded_iff` says that this fails for the payloads that end
inside their key list and for the changes under a header that names chain 0, and for no others.
-/
import Mathlib
import Wormhole.Lib.Bytes
import Wormhole.Lib.Reader
import Wormhole.Solana.Payloads

namespace Wormhole.Solana

open Wormhole.Lib Wormhole.Lib.Bytes

/-! ## The encoder -/

/-- The header of a governance payload. -/
def governanceHeader (name : List UInt8) (ACTION chain : Nat) : List UInt8 :=
  padModule name ++ (beBytes 1 ACTION ++ beBytes 2 chain)

/-- `write_governance_header`. -/
def writeGovernanceHeader (name : List UInt8) (ACTION : Nat) : List UInt8 :=
  governanceHeader name ACTION CHAIN_ID_SOLANA

/-- The chains that a header may name. -/
def Governs (chain : Nat) : Prop := chain = CHAIN_ID_SOLANA ∨ chain = 0

instance (chain : Nat) : Decidable (Governs chain) := by
  unfold Governs
  infer_instance

namespace GovernancePayloadGuardianSetChange

/-- The number of keys is written as `len() as u8`. -/
def serialize (c : GovernancePayloadGuardianSetChange) : List UInt8 :=
  beBytes 4 c.newGuardianSetIndex ++
    (beBytes 1 (c.newGuardianSet.length % 256) ++ c.newGuardianSet.flatMap Subtype.val)

/-- `SerializeGovernancePayload::try_to_vec`. -/
def tryToVec (c : GovernancePayloadGuardianSetChange) : List UInt8 := writeGovernanceHeader MODULE 2 ++ c.serialize

/-- The index is a `u32`, and the count byte declares all keys. -/
structure Declared (c : GovernancePayloadGuardianSetChange) : Prop where
  index_lt : c.newGuardianSetIndex < 2 ^ 32
  length_le : c.newGuardianSet.length ≤ 255

/-- The payload is what the encoder writes for the change. -/
structure Encodes (c : GovernancePayloadGuardianSetChange) (bs : List UInt8) : Prop where
  declared : c.Declared
  bytes : bs = c.tryToVec

end GovernancePayloadGuardianSetChange

open GovernancePayloadGuardianSetChange (Encodes)

/-- The payload ends inside the key list that it declares. -/
def KeyListTruncated (bs : List UInt8) : Prop :=
  ∃ chain index count rest, Governs chain ∧ index < 2 ^ 32 ∧ count < 256 ∧
    bs = governanceHeader MODULE 2 chain ++ (beBytes 4 index ++ (beBytes 1 count ++ rest)) ∧
    rest.length < 20 * count

/-- The payload is a full change, under a header that names chain 0 in place of Solana. -/
def NamesEveryChain (bs : List UInt8) : Prop :=
  ∃ index count rest, index < 2 ^ 32 ∧ count < 256 ∧
    bs = governanceHeader MODULE 2 0 ++ (beBytes 4 index ++ (beBytes 1 count ++ rest)) ∧
    rest.length = 20 * count

/-- **What the decoder should do** with a payload. -/
structure FaithfullyDecoded (bs : List UInt8) : Prop where
  accepts_iff : (∃ c, GovernancePayloadGuardianSetChange.deserialize bs = .ok c) ↔ ∃ c, Encodes c bs
  same : ∀ c, GovernancePayloadGuardianSetChange.deserialize bs = .ok c → Encodes c bs
  rejects : KeyListTruncated bs → ∀ c, GovernancePayloadGuardianSetChange.deserialize bs ≠ .ok c

/-! ## What is read -/

variable {bs rest : List UInt8} {c : GovernancePayloadGuardianSetChange} {chain : Nat}

theorem checkGovernanceHeader_eq_ok {name : List UInt8} {ACTION : Nat} {u : Unit}
    (h : (checkGovernanceHeader name ACTION).run bs = .ok (u, rest)) :
    ∃ chain, Governs chain ∧ bs = governanceHeader name ACTION chain ++ rest := by
  obtain ⟨module', bs₁, hmodule, h⟩ := Reader.bind_eq_ok.mp h
  obtain ⟨_, bs₂, hname, h⟩ := Reader.bind_eq_ok.mp h
  obtain ⟨action, bs₃, haction, h⟩ := Reader.bind_eq_ok.mp h
  obtain ⟨_, bs₄, hcheck, h⟩ := Reader.bind_eq_ok.mp h
  obtain ⟨chain, bs₅, hchain, hlast⟩ := Reader.bind_eq_ok.mp h
  obtain ⟨hmodule', rfl⟩ := Reader.check_eq_ok.mp hname
  obtain ⟨rfl, rfl⟩ := Reader.check_eq_ok.mp hcheck
  obtain ⟨hgoverns, rfl⟩ := Reader.check_eq_ok.mp hlast
  refine ⟨chain, hgoverns, ?_⟩
  rw [Reader.array_eq_ok.mp hmodule, hmodule', (Reader.number_eq_ok.mp haction).2, (Reader.number_eq_ok.mp hchain).2,
    governanceHeader, List.append_assoc, List.append_assoc]

/-- The rest of the payload: a count, and what is there of so many keys. -/
theorem deserialize_eq_ok (h : GovernancePayloadGuardianSetChange.deserialize bs = .ok c) :
    ∃ chain rest, Governs chain ∧ c.Declared ∧
      bs = governanceHeader MODULE 2 chain ++
        (beBytes 4 c.newGuardianSetIndex ++ (beBytes 1 c.newGuardianSet.length ++ rest)) ∧
      rest.length ≤ 20 * c.newGuardianSet.length ∧
      (20 * c.newGuardianSet.length ≤ rest.length → c.newGuardianSet.flatMap Subtype.val = rest) := by
  obtain ⟨left, h⟩ := Reader.decode_eq_ok.mp h
  obtain ⟨_, bs₁, hheader, h⟩ := Reader.bind_eq_ok.mp h
  obtain ⟨index, bs₂, hindex, h⟩ := Reader.bind_eq_ok.mp h
  obtain ⟨count, bs₃, hcount, h⟩ := Reader.bind_eq_ok.mp h
  obtain ⟨keys, bs₄, hkeys, h⟩ := Reader.bind_eq_ok.mp h
  obtain ⟨_, bs₅, hend, h⟩ := Reader.bind_eq_ok.mp h
  obtain ⟨rfl, -⟩ := Reader.pure_eq_ok.mp h
  obtain ⟨chain, hgoverns, rfl⟩ := checkGovernanceHeader_eq_ok hheader
  obtain ⟨hindexLt, rfl⟩ := Reader.number_eq_ok.mp hindex
  obtain ⟨hcountLt, rfl⟩ := Reader.number_eq_ok.mp hcount
  obtain ⟨hnil, -⟩ := Reader.finished_eq_ok.mp hend
  obtain ⟨rfl, hdrop, hfull⟩ := Reader.replicate_upTo_eq_ok hkeys
  have hle : bs₃.length ≤ 20 * keys.length := by
    rw [← List.drop_eq_nil_iff, ← hdrop, hnil]
  refine ⟨chain, bs₃, hgoverns, ⟨hindexLt, Nat.le_of_lt_succ hcountLt⟩, rfl, hle, ?_⟩
  intro hge
  exact (hfull hge).trans (List.take_of_length_le hle)

/-- A list of keys that is cut short is accepted as well. -/
theorem deserialize_truncated {index count : Nat} (hgoverns : Governs chain) (hindex : index < 2 ^ 32)
    (hcount : count < 256) (hrest : rest.length ≤ 20 * count) :
    ∃ c, GovernancePayloadGuardianSetChange.deserialize
      (governanceHeader MODULE 2 chain ++ (beBytes 4 index ++ (beBytes 1 count ++ rest))) = .ok c := by
  obtain ⟨keys, hkeys⟩ : ∃ keys, (Reader.replicate (read 20) count).run rest = .ok (keys, rest.drop (20 * count)) :=
    Reader.replicate_upTo 20 count rest
  rw [List.drop_eq_nil_of_le hrest] at hkeys
  refine ⟨⟨index, keys⟩, ?_⟩
  rw [governanceHeader, List.append_assoc, List.append_assoc]
  rw [GovernancePayloadGuardianSetChange.deserialize, decode_header (by decide) (by decide) hgoverns]
  refine Reader.decode_eq_ok.mpr ⟨[], ?_⟩
  refine Reader.bind_eq_ok.mpr ⟨index, _, Reader.number_append hindex, ?_⟩
  refine Reader.bind_eq_ok.mpr ⟨count, _, Reader.number_append hcount, ?_⟩
  exact Reader.bind_eq_ok.mpr ⟨keys, _, hkeys, Reader.bind_eq_ok.mpr ⟨(), [], Reader.finished_nil, rfl⟩⟩

namespace GovernancePayloadGuardianSetChange

theorem flatMap_keys_length (keys : List (FixedBytes 20)) : (keys.flatMap Subtype.val).length = 20 * keys.length := by
  induction keys with
  | nil => rfl
  | cons key keys ih =>
    rw [List.flatMap_cons, List.length_append, ih, key.property, List.length_cons, Nat.mul_succ, Nat.add_comm]

theorem serialize_eq (h : c.Declared) : c.serialize = beBytes 4 c.newGuardianSetIndex ++
    (beBytes 1 c.newGuardianSet.length ++ c.newGuardianSet.flatMap Subtype.val) := by
  rw [serialize, Nat.mod_eq_of_lt (Nat.lt_succ_of_le h.length_le)]

end GovernancePayloadGuardianSetChange

/-! ## Faithful decoding -/

/-- What the encoder writes is accepted. -/
theorem Encodes.accepted (h : Encodes c bs) :
    ∃ c', GovernancePayloadGuardianSetChange.deserialize bs = .ok c' := by
  obtain ⟨hdeclared, rfl⟩ := h
  rw [GovernancePayloadGuardianSetChange.tryToVec, GovernancePayloadGuardianSetChange.serialize_eq hdeclared]
  apply deserialize_truncated (.inl rfl) hdeclared.index_lt (Nat.lt_succ_of_le hdeclared.length_le)
  rw [GovernancePayloadGuardianSetChange.flatMap_keys_length]

/-- What is accepted is the encoding of the change, unless the key list is cut short or the header names chain 0. -/
theorem encodes_of_deserialize (h : GovernancePayloadGuardianSetChange.deserialize bs = .ok c)
    (hfull : ¬KeyListTruncated bs) (hnames : ¬NamesEveryChain bs) : Encodes c bs := by
  obtain ⟨chain, rest, hgoverns, hdeclared, rfl, hle, hkeys⟩ := deserialize_eq_ok h
  have hlength : 20 * c.newGuardianSet.length ≤ rest.length := by
    by_contra hlt
    exact hfull ⟨chain, _, _, rest, hgoverns, hdeclared.index_lt, Nat.lt_succ_of_le hdeclared.length_le, rfl,
      not_le.mp hlt⟩
  rcases hgoverns with rfl | rfl
  · refine ⟨hdeclared, ?_⟩
    rw [GovernancePayloadGuardianSetChange.tryToVec, GovernancePayloadGuardianSetChange.serialize_eq hdeclared,
      hkeys hlength, writeGovernanceHeader]
  · exact absurd ⟨_, _, rest, hdeclared.index_lt, Nat.lt_succ_of_le hdeclared.length_le, rfl,
      le_antisymm hle hlength⟩ hnames

/-- The encoder never writes a header that names chain 0. -/
theorem not_encodes_of_namesEveryChain (h : NamesEveryChain bs) (c : GovernancePayloadGuardianSetChange) :
    ¬Encodes c bs := by
  intro hencodes
  obtain ⟨index, count, rest, -, -, hbytes, -⟩ := h
  have hheaders : governanceHeader MODULE 2 0 = governanceHeader MODULE 2 CHAIN_ID_SOLANA :=
    List.append_inj_left (hbytes.symm.trans hencodes.bytes) rfl
  exact absurd hheaders (by decide)

/-- A full change under a header that names chain 0 is accepted. -/
theorem NamesEveryChain.accepted (h : NamesEveryChain bs) :
    ∃ c, GovernancePayloadGuardianSetChange.deserialize bs = .ok c := by
  obtain ⟨index, count, rest, hindex, hcount, rfl, hlength⟩ := h
  exact deserialize_truncated (.inr rfl) hindex hcount hlength.le

/-- **Which payloads are decoded faithfully:** all but those that end inside their key list, and the changes whose
header names chain 0. -/
theorem faithfullyDecoded_iff (bs : List UInt8) :
    FaithfullyDecoded bs ↔ ¬KeyListTruncated bs ∧ ¬NamesEveryChain bs := by
  constructor
  · intro h
    refine ⟨?_, ?_⟩
    · intro htruncated
      have hrejects := h.rejects htruncated
      obtain ⟨chain, index, count, rest, hgoverns, hindex, hcount, rfl, hlt⟩ := htruncated
      obtain ⟨c, hc⟩ := deserialize_truncated hgoverns hindex hcount hlt.le
      exact hrejects c hc
    · intro hnames
      obtain ⟨c, hc⟩ := hnames.accepted
      exact not_encodes_of_namesEveryChain hnames c (h.same c hc)
  · rintro ⟨hfull, hnames⟩
    refine ⟨⟨?_, ?_⟩, ?_, ?_⟩
    · rintro ⟨c, hc⟩
      exact ⟨c, encodes_of_deserialize hc hfull hnames⟩
    · rintro ⟨c, hc⟩
      exact Encodes.accepted hc
    · intro c hc
      exact encodes_of_deserialize hc hfull hnames
    · intro htruncated
      exact absurd htruncated hfull

/-- A change to one guardian, without its key. -/
def cutChange : List UInt8 := writeGovernanceHeader MODULE 2 ++ [0x00, 0x00, 0x00, 0x01, 0x01]

/-- **A missing key** is read as the zero key. -/
theorem cutChange_accepted :
    GovernancePayloadGuardianSetChange.deserialize cutChange = .ok ⟨1, [⟨List.replicate 20 0x00, rfl⟩]⟩ ∧
      KeyListTruncated cutChange ∧ ¬FaithfullyDecoded cutChange := by
  have haccepted : GovernancePayloadGuardianSetChange.deserialize cutChange =
      .ok ⟨1, [⟨List.replicate 20 0x00, rfl⟩]⟩ := by decide +kernel
  have htruncated : KeyListTruncated cutChange :=
    ⟨CHAIN_ID_SOLANA, 1, 1, [], .inl rfl, by decide, by decide, by decide +kernel, by decide⟩
  exact ⟨haccepted, htruncated, fun h => h.rejects htruncated _ haccepted⟩

end Wormhole.Solana

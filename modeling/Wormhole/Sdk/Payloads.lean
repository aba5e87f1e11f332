/-
# Wormhole.Sdk.Payloads — the payloads of the bridges, as the Rust SDK reads them.

The payload parsers of `sdk/rust/core/src/vaa/token.rs` and `nft.rs`.  They read with nom, which returns its
errors, and unwrap what they convert afterwards, which panics: `Unwrapping` parsers do both.  Names and symbols
are text in fields of 32 bytes, read by `bstr`, whose decoder is a parameter; a URI has to be UTF-8.

Whatever is read, written again, is what was there (`Token.Transfer.reads` and its like), and of the parsers
here only that of NFT transfers panics (`Nft.Transfer.panics_iff`).
-/
import Mathlib
import Wormhole.Lib.Bytes
import Wormhole.Lib.Reader
import Wormhole.Lib.Utf8
import Wormhole.Sdk.Vaa

namespace Wormhole.Sdk

open Wormhole.Lib Wormhole.Lib.Bytes

/-! ## Parsers that unwrap -/

/-- What ends a call without a value: an error that is returned, or a panic. -/
inductive Fault (ε : Type) where
  | returned (e : ε)
  | panicked
  deriving DecidableEq

/-- A parser that may panic. -/
abbrev Unwrapping := Reader (Fault ErrorKind)

/-- `parser(i)?` -/
def Parser.attempt {α : Type} (x : Parser α) : Unwrapping α := fun bs => (x.run bs).mapError .returned

instance : MonadLift Parser Unwrapping := ⟨Parser.attempt⟩

/-- `unwrap` -/
def unwrap {α : Type} : Option α → Unwrapping α
  | some a => return a
  | none => throw .panicked

/-- The result of `finish`, its error as one of the SDK. -/
def finish {α : Type} (r : Except (Fault ErrorKind) α) : Except (Fault WormholeError) α :=
  r.mapError fun
    | .returned code => .returned (.parseError code)
    | .panicked => .panicked

/-- `verify` -/
def verify {α : Type} (x : Parser α) (p : α → Prop) [DecidablePred p] : Parser α := do
  let a ← x
  if p a then return a else throw .verify

/-- `take` -/
def take (n : Nat) : Parser (List UInt8) := do
  let bytes ← Reader.array .eof n
  return bytes.val

section Parsers

variable {α β : Type} {bs rest : List UInt8}

theorem parseFixed_eq_ok {n : Nat} {a : FixedBytes n} :
    (parseFixed n).run bs = .ok (a, rest) ↔ bs = a.val ++ rest := Reader.array_eq_ok

theorem parseChain_eq_ok {chain : Chain} :
    parseChain.run bs = .ok (chain, rest) ↔ bs = beBytes 2 chain.toU16.toNat ++ rest := by
  constructor
  · intro h
    obtain ⟨x, mid, hx, h⟩ := Reader.bind_eq_ok.mp h
    split at h
    · rename_i chain' hchain
      obtain ⟨rfl, rfl⟩ := Reader.pure_eq_ok.mp h
      rw [u16_eq_ok.mp hx, Chain.toU16_of_tryFrom hchain]
    · cases h
  · rintro rfl
    rw [parseChain_append, Chain.tryFrom_toU16]

theorem verify_eq_ok {x : Parser α} {p : α → Prop} [DecidablePred p] {a : α} :
    (verify x p).run bs = .ok (a, rest) ↔ x.run bs = .ok (a, rest) ∧ p a := by
  constructor
  · intro h
    obtain ⟨a', mid, ha, h⟩ := Reader.bind_eq_ok.mp h
    split at h
    · rename_i hp
      obtain ⟨rfl, rfl⟩ := Reader.pure_eq_ok.mp h
      exact ⟨ha, hp⟩
    · cases h
  · rintro ⟨ha, hp⟩
    apply Reader.bind_eq_ok.mpr
    refine ⟨a, rest, ha, ?_⟩
    rw [if_pos hp]
    rfl

theorem take_eq_ok {n : Nat} {bytes : List UInt8} :
    (take n).run bs = .ok (bytes, rest) ↔ bytes.length = n ∧ bs = bytes ++ rest := by
  constructor
  · intro h
    obtain ⟨a, mid, ha, h⟩ := Reader.bind_eq_ok.mp h
    obtain ⟨rfl, rfl⟩ := Reader.pure_eq_ok.mp h
    exact ⟨a.property, Reader.array_eq_ok.mp ha⟩
  · rintro ⟨hlength, rfl⟩
    apply Reader.bind_eq_ok.mpr
    exact ⟨⟨bytes, hlength⟩, rest, Reader.array_eq_ok.mpr rfl, rfl⟩

/-- `count`: what is read has that many elements. -/
theorem replicate_eq_ok {x : Parser α} {enc : α → List UInt8}
    (hx : ∀ bs a rest, x.run bs = .ok (a, rest) → bs = enc a ++ rest) {n : Nat} {as : List α}
    (h : (Reader.replicate x n).run bs = .ok (as, rest)) : as.length = n ∧ bs = as.flatMap enc ++ rest := by
  induction n generalizing bs as with
  | zero =>
    obtain ⟨rfl, rfl⟩ := Reader.pure_eq_ok.mp h
    exact ⟨rfl, rfl⟩
  | succ n ih =>
    obtain ⟨a, mid, ha, h⟩ := Reader.bind_eq_ok.mp h
    obtain ⟨as', mid', has, h⟩ := Reader.bind_eq_ok.mp h
    obtain ⟨rfl, rfl⟩ := Reader.pure_eq_ok.mp h
    obtain ⟨hlength, rfl⟩ := ih has
    refine ⟨by rw [List.length_cons, hlength], ?_⟩
    rw [hx _ _ _ ha, List.flatMap_cons, List.append_assoc]

end Parsers

section Unwrapping

variable {α β : Type} {bs rest : List UInt8}

theorem attempt_eq_ok {x : Parser α} {a : α} :
    (liftM x : Unwrapping α).run bs = .ok (a, rest) ↔ x.run bs = .ok (a, rest) := by
  show (x.run bs).mapError Fault.returned = _ ↔ _
  cases x.run bs <;> simp [Except.mapError]

theorem unwrap_eq_ok {o : Option α} {a : α} :
    (unwrap o).run bs = .ok (a, rest) ↔ o = some a ∧ bs = rest := by
  cases o with
  | none =>
    show Except.error Fault.panicked = _ ↔ _
    simp
  | some b => simpa [unwrap] using Reader.pure_eq_ok

/-- The parser panics on the bytes. -/
def Panics (x : Unwrapping α) (bs : List UInt8) : Prop := x.run bs = .error .panicked

/-- A sequence panics in one of its parts. -/
theorem panics_bind {x : Unwrapping α} {f : α → Unwrapping β} :
    Panics (x >>= f) bs ↔ Panics x bs ∨ ∃ a rest, x.run bs = .ok (a, rest) ∧ Panics (f a) rest := by
  unfold Panics
  rw [Reader.bind_run]
  cases x.run bs with
  | error e =>
    show Except.error e = _ ↔ _
    simp
  | ok p =>
    obtain ⟨a, rest⟩ := p
    constructor
    · intro h
      exact .inr ⟨a, rest, rfl, h⟩
    · rintro (h | ⟨a', rest', h, hpanics⟩)
      · cases h
      · obtain ⟨rfl, rfl⟩ := Prod.mk.inj (Except.ok.inj h)
        exact hpanics

/-- What nom reads does not panic. -/
theorem panics_attempt {x : Parser α} {f : α → Unwrapping β} :
    Panics (liftM x >>= f) bs ↔ ∃ a rest, x.run bs = .ok (a, rest) ∧ Panics (f a) rest := by
  have hreads : ¬Panics (liftM x : Unwrapping α) bs := by
    show (x.run bs).mapError Fault.returned ≠ _
    cases x.run bs <;> simp [Except.mapError]
  rw [panics_bind, or_iff_right hreads]
  simp only [attempt_eq_ok]

theorem panics_unwrap {o : Option α} {f : α → Unwrapping β} :
    Panics (unwrap o >>= f) bs ↔ o = none ∨ ∃ a, o = some a ∧ Panics (f a) bs := by
  cases o with
  | none => exact iff_of_true rfl (.inl rfl)
  | some a =>
    show Panics (f a) bs ↔ _
    simp

theorem not_panics_pure {a : α} : ¬Panics (pure a) bs := by
  intro h
  cases h

/-- A call that panics is one whose parser does. -/
theorem finish_eq_panicked {x : Unwrapping α} :
    finish (x.decode bs) = .error .panicked ↔ Panics x bs := by
  unfold Panics finish Reader.decode
  cases x.run bs with
  | ok p => exact ⟨nofun, nofun⟩
  | error e => cases e <;> simp [Except.mapError, Except.map]

theorem finish_eq_ok {x : Unwrapping α} {a : α} :
    finish (x.decode bs) = .ok a ↔ ∃ rest, x.run bs = .ok (a, rest) := by
  rw [← Reader.decode_eq_ok]
  unfold finish
  cases x.decode bs <;> simp [Except.mapError]

end Unwrapping

/-! ## `VAA` -/

/-- The wire layout. -/
def VAA.bytes (v : VAA) : List UInt8 :=
  v.version :: (beBytes 4 v.guardianSetIndex.toNat ++ (UInt8.ofNat v.signatures.length ::
    (v.signatures.flatMap Subtype.val ++ (beBytes 4 v.timestamp.toNat ++ (beBytes 4 v.nonce.toNat ++
      (beBytes 2 v.emitterChain.toU16.toNat ++ (v.emitterAddress.val ++ (beBytes 8 v.sequence.toNat ++
        (v.consistencyLevel :: v.payload)))))))))

/-- **A VAA that is read, written again.** -/
theorem VAA.reads {input : List UInt8} {v : VAA} (h : VAA.fromBytes input = .ok v) : v.bytes = input := by
  have hdecode : parseVaa.decode input = .ok v := by
    unfold VAA.fromBytes at h
    cases hd : parseVaa.decode input with
    | error e =>
      rw [hd] at h
      cases h
    | ok w =>
      rw [hd] at h
      rw [Except.ok.inj h]
  obtain ⟨left, h⟩ := Reader.decode_eq_ok.mp hdecode
  unfold parseVaa at h
  obtain ⟨version, _, hversion, h⟩ := Reader.bind_eq_ok.mp h
  obtain ⟨guardianSetIndex, _, hindex, h⟩ := Reader.bind_eq_ok.mp h
  obtain ⟨signatureCount, _, hcount, h⟩ := Reader.bind_eq_ok.mp h
  obtain ⟨signatures, _, hsignatures, h⟩ := Reader.bind_eq_ok.mp h
  obtain ⟨timestamp, _, htimestamp, h⟩ := Reader.bind_eq_ok.mp h
  obtain ⟨nonce, _, hnonce, h⟩ := Reader.bind_eq_ok.mp h
  obtain ⟨emitterChain, _, hemitterChain, h⟩ := Reader.bind_eq_ok.mp h
  obtain ⟨emitterAddress, _, hemitterAddress, h⟩ := Reader.bind_eq_ok.mp h
  obtain ⟨sequence, _, hsequence, h⟩ := Reader.bind_eq_ok.mp h
  obtain ⟨consistencyLevel, _, hlevel, h⟩ := Reader.bind_eq_ok.mp h
  obtain ⟨payload, _, hpayload, h⟩ := Reader.bind_eq_ok.mp h
  obtain ⟨rfl, rfl⟩ := Reader.pure_eq_ok.mp h
  obtain ⟨hlength, hsignatures⟩ := replicate_eq_ok (fun _ _ _ => parseFixed_eq_ok.mp) hsignatures
  obtain ⟨rfl, rfl⟩ := Prod.mk.inj (Except.ok.inj hpayload)
  rw [u8_eq_ok.mp hversion, u32_eq_ok.mp hindex, u8_eq_ok.mp hcount, hsignatures, u32_eq_ok.mp htimestamp,
    u32_eq_ok.mp hnonce, parseChain_eq_ok.mp hemitterChain, parseFixed_eq_ok.mp hemitterAddress,
    u64_eq_ok.mp hsequence, u8_eq_ok.mp hlevel, VAA.bytes, hlength, UInt8.ofNat_toNat]

/-! ## Text -/

section Text

variable (chars : List UInt8 → List Char)

/-- `parse_fixed_utf8`, of the first `n` bytes. -/
def parseFixedUtf8 (n : Nat) (s : List UInt8) : Option (List Char) :=
  if n ≤ s.length then some (Utf8.strip chars (s.take n)) else none

/-- The bytes of a text, in a field of 32. -/
def padText (s : List Char) : List UInt8 :=
  Utf8.encode s ++ List.replicate (32 - (Utf8.encode s).length) 0x00

/-- **Up to stripping.** Two fields of 32 bytes with the same text. -/
structure SameText (field field' : List UInt8) : Prop where
  length : field.length = 32
  length' : field'.length = 32
  text : Utf8.strip chars field = Utf8.strip chars field'

theorem parseFixedUtf8_array (field : FixedBytes 32) :
    parseFixedUtf8 chars 32 field.val = some (Utf8.strip chars field.val) := by
  have hlength : 32 ≤ field.val.length := field.property.ge
  rw [parseFixedUtf8, if_pos hlength, List.take_of_length_le field.property.le]

variable {chars}

/-- The text of a field, written again. -/
theorem sameText_padText (hchars : Utf8.Lossy chars) (field : FixedBytes 32) :
    SameText chars (padText (Utf8.strip chars field.val)) field.val where
  length := by
    have hfits := @Utf8.Lossy.strip_length chars field.val hchars
    rw [field.property] at hfits
    rw [padText, List.length_append, List.length_replicate]
    omega
  length' := field.property
  text := hchars.strip_pad _

end Text

/-! ## `token` -/

namespace Token

structure Transfer where
  amount : Nat
  tokenAddress : FixedBytes 32
  tokenChain : Chain
  to' : FixedBytes 32
  toChain : Chain
  fee : Nat
  deriving DecidableEq

structure AssetMeta where
  tokenAddress : FixedBytes 32
  tokenChain : Chain
  decimals : UInt8
  symbol : List Char
  name : List Char
  deriving DecidableEq

def parsePayloadTransfer : Unwrapping Transfer := do
  let _ ← verify u8 (· = 0x01)
  let amount ← parseFixed 32
  let tokenAddress ← parseFixed 32
  let tokenChain ← parseChain
  let to' ← parseFixed 32
  let toChain ← parseChain
  let fee ← parseFixed 32
  return { amount := beNat amount.val, tokenAddress, tokenChain, to', toChain, fee := beNat fee.val }

/-- `Transfer::from_bytes` -/
def Transfer.fromBytes (input : List UInt8) : Except (Fault WormholeError) Transfer :=
  finish (parsePayloadTransfer.decode input)

/-- The wire layout. -/
def Transfer.bytes (t : Transfer) : List UInt8 :=
  0x01 :: (beBytes 32 t.amount ++ (t.tokenAddress.val ++ (beBytes 2 t.tokenChain.toU16.toNat ++
    (t.to'.val ++ (beBytes 2 t.toChain.toU16.toNat ++ beBytes 32 t.fee)))))

section AssetMeta

variable (chars : List UInt8 → List Char)

def parsePayloadAssetMeta : Unwrapping AssetMeta := do
  let _ ← verify u8 (· = 0x02)
  let tokenAddress ← parseFixed 32
  let tokenChain ← parseChain
  let decimals ← u8
  let symbol ← parseFixed 32
  let name ← parseFixed 32
  -- Name/Symbol should be UTF-8 strings, attempt to parse them by removing invalid bytes.
  let symbol ← unwrap (parseFixedUtf8 chars 32 symbol.val)
  let name ← unwrap (parseFixedUtf8 chars 32 name.val)
  return { tokenAddress, tokenChain, decimals, symbol, name }

/-- `AssetMeta::from_bytes` -/
def AssetMeta.fromBytes (input : List UInt8) : Except (Fault WormholeError) AssetMeta :=
  finish ((parsePayloadAssetMeta chars).decode input)

end AssetMeta

/-- The wire layout, with these fields for symbol and name. -/
def AssetMeta.bytes (t : AssetMeta) (symbol name : List UInt8) : List UInt8 :=
  0x02 :: (t.tokenAddress.val ++ (beBytes 2 t.tokenChain.toU16.toNat ++ (t.decimals :: (symbol ++ name))))

section Reads

variable {chars : List UInt8 → List Char} {input : List UInt8}

theorem not_panics_transfer : ¬Panics parsePayloadTransfer input := by
  intro h
  unfold parsePayloadTransfer at h
  iterate 7 obtain ⟨_, _, -, h⟩ := panics_attempt.mp h
  exact not_panics_pure h

theorem not_panics_assetMeta : ¬Panics (parsePayloadAssetMeta chars) input := by
  intro h
  unfold parsePayloadAssetMeta at h
  iterate 6 obtain ⟨_, _, -, h⟩ := panics_attempt.mp h
  -- both fields have their 32 bytes
  iterate 2
    rw [panics_unwrap, parseFixedUtf8_array] at h
    obtain ⟨_, -, h⟩ := h.resolve_left nofun
  exact not_panics_pure h

/-- **A transfer that is read, written again.** -/
theorem Transfer.reads {t : Transfer} (h : Transfer.fromBytes input = .ok t) : t.bytes <+: input := by
  obtain ⟨rest, h⟩ := finish_eq_ok.mp h
  unfold parsePayloadTransfer at h
  obtain ⟨id, _, hid, h⟩ := Reader.bind_eq_ok.mp h
  obtain ⟨amount, _, hamount, h⟩ := Reader.bind_eq_ok.mp h
  obtain ⟨tokenAddress, _, htokenAddress, h⟩ := Reader.bind_eq_ok.mp h
  obtain ⟨tokenChain, _, htokenChain, h⟩ := Reader.bind_eq_ok.mp h
  obtain ⟨to', _, hto, h⟩ := Reader.bind_eq_ok.mp h
  obtain ⟨toChain, _, htoChain, h⟩ := Reader.bind_eq_ok.mp h
  obtain ⟨fee, left, hfee, h⟩ := Reader.bind_eq_ok.mp h
  obtain ⟨rfl, rfl⟩ := Reader.pure_eq_ok.mp h
  obtain ⟨hid, rfl⟩ := verify_eq_ok.mp (attempt_eq_ok.mp hid)
  have hamount' := beBytes_beNat amount.val
  have hfee' := beBytes_beNat fee.val
  rw [amount.property] at hamount'
  rw [fee.property] at hfee'
  rw [attempt_eq_ok, parseFixed_eq_ok] at hamount htokenAddress hto hfee
  rw [attempt_eq_ok, parseChain_eq_ok] at htokenChain htoChain
  rw [u8_eq_ok.mp hid, hamount, htokenAddress, htokenChain, hto, htoChain, hfee, Transfer.bytes, hamount',
    hfee']
  refine ⟨left, ?_⟩
  simp only [List.cons_append, List.append_assoc]

/-- **An attestation that is read, written again**, up to stripping. -/
theorem AssetMeta.reads (hchars : Utf8.Lossy chars) {t : AssetMeta}
    (h : AssetMeta.fromBytes chars input = .ok t) : ∃ symbol name, t.bytes symbol name <+: input ∧
      SameText chars (padText t.symbol) symbol ∧ SameText chars (padText t.name) name := by
  obtain ⟨rest, h⟩ := finish_eq_ok.mp h
  unfold parsePayloadAssetMeta at h
  obtain ⟨id, _, hid, h⟩ := Reader.bind_eq_ok.mp h
  obtain ⟨tokenAddress, _, htokenAddress, h⟩ := Reader.bind_eq_ok.mp h
  obtain ⟨tokenChain, _, htokenChain, h⟩ := Reader.bind_eq_ok.mp h
  obtain ⟨decimals, _, hdecimals, h⟩ := Reader.bind_eq_ok.mp h
  obtain ⟨symbol, _, hsymbol, h⟩ := Reader.bind_eq_ok.mp h
  obtain ⟨name, left, hname, h⟩ := Reader.bind_eq_ok.mp h
  obtain ⟨symbol', _, hsymbol', h⟩ := Reader.bind_eq_ok.mp h
  obtain ⟨name', _, hname', h⟩ := Reader.bind_eq_ok.mp h
  obtain ⟨rfl, rfl⟩ := Reader.pure_eq_ok.mp h
  obtain ⟨hid, rfl⟩ := verify_eq_ok.mp (attempt_eq_ok.mp hid)
  rw [unwrap_eq_ok, parseFixedUtf8_array, Option.some_inj] at hsymbol' hname'
  obtain ⟨rfl, rfl⟩ := hsymbol'
  obtain ⟨rfl, rfl⟩ := hname'
  rw [attempt_eq_ok, parseFixed_eq_ok] at htokenAddress hsymbol hname
  rw [attempt_eq_ok, parseChain_eq_ok] at htokenChain
  rw [attempt_eq_ok, u8_eq_ok] at hdecimals
  refine ⟨symbol.val, name.val, ⟨left, ?_⟩, sameText_padText hchars symbol, sameText_padText hchars name⟩
  rw [u8_eq_ok.mp hid, htokenAddress, htokenChain, hdecimals, hsymbol, hname, AssetMeta.bytes]
  simp only [List.cons_append, List.append_assoc]

end Reads

end Token

/-! ## `nft` -/

namespace Nft

structure Transfer where
  nftAddress : FixedBytes 32
  nftChain : Chain
  symbol : List Char
  name : List Char
  tokenId : Nat
  uri : List Char
  to' : FixedBytes 32
  toChain : Chain
  deriving DecidableEq

section

variable (chars : List UInt8 → List Char)

def parsePayloadTransfer : Unwrapping Transfer := do
  let _ ← verify u8 (· = 0x01)
  let nftAddress ← parseFixed 32
  let nftChain ← parseChain
  let symbol ← parseFixed 32
  let name ← parseFixed 32
  let tokenId ← parseFixed 32
  let uriLen ← u8
  let uri ← take uriLen.toNat
  let to' ← parseFixed 32
  let toChain ← parseChain
  -- Name/Symbol and URI should be UTF-8 strings, attempt to parse the first two by removing
  -- invalid bytes -- for the latter, assume UTF-8 and fail if unparseable.
  let name ← unwrap (parseFixedUtf8 chars 32 name.val)
  let symbol ← unwrap (parseFixedUtf8 chars 32 symbol.val)
  let uri ← unwrap (Utf8.decode? uri)
  return { nftAddress, nftChain, symbol, name, tokenId := beNat tokenId.val, uri, to', toChain }

/-- `Transfer::from_bytes` -/
def Transfer.fromBytes (input : List UInt8) : Except (Fault WormholeError) Transfer :=
  finish ((parsePayloadTransfer chars).decode input)

end

/-- A message in the wire layout. -/
def transferBytes (nftAddress : List UInt8) (nftChain : Chain) (symbol name tokenId uri to' : List UInt8)
    (toChain : Chain) : List UInt8 :=
  0x01 :: (nftAddress ++ (beBytes 2 nftChain.toU16.toNat ++ (symbol ++ (name ++ (tokenId ++
    (UInt8.ofNat uri.length :: (uri ++ (to' ++ beBytes 2 toChain.toU16.toNat))))))))

/-- The transfer in the wire layout, with these fields for symbol and name. -/
def Transfer.bytes (t : Transfer) (symbol name : List UInt8) : List UInt8 :=
  transferBytes t.nftAddress.val t.nftChain symbol name (beBytes 32 t.tokenId) (Utf8.encode t.uri) t.to'.val
    t.toChain

/-- **The bytes that read as a transfer but for their URI**: it is not UTF-8. -/
def BrokenUri (input : List UInt8) : Prop :=
  ∃ (nftAddress symbol name tokenId to' : FixedBytes 32) (nftChain toChain : Chain) (uri : List UInt8),
    uri.length ≤ 255 ∧ Utf8.decode? uri = none ∧
    transferBytes nftAddress.val nftChain symbol.val name.val tokenId.val uri to'.val toChain <+: input

section Reads

variable {chars : List UInt8 → List Char} {input : List UInt8}

theorem ofNat_length_toNat {uri : List UInt8} (h : uri.length ≤ 255) :
    (UInt8.ofNat uri.length).toNat = uri.length := by
  rw [UInt8.toNat_ofNat']
  omega

/-- **Which bytes make it panic.** -/
theorem panics_iff : Panics (parsePayloadTransfer chars) input ↔ BrokenUri input := by
  unfold parsePayloadTransfer
  constructor
  · intro h
    obtain ⟨id, _, hid, h⟩ := panics_attempt.mp h
    obtain ⟨nftAddress, _, hnftAddress, h⟩ := panics_attempt.mp h
    obtain ⟨nftChain, _, hnftChain, h⟩ := panics_attempt.mp h
    obtain ⟨symbol, _, hsymbol, h⟩ := panics_attempt.mp h
    obtain ⟨name, _, hname, h⟩ := panics_attempt.mp h
    obtain ⟨tokenId, _, htokenId, h⟩ := panics_attempt.mp h
    obtain ⟨uriLen, _, huriLen, h⟩ := panics_attempt.mp h
    obtain ⟨uri, _, huri, h⟩ := panics_attempt.mp h
    obtain ⟨to', _, hto, h⟩ := panics_attempt.mp h
    obtain ⟨toChain, left, htoChain, h⟩ := panics_attempt.mp h
    iterate 2
      rw [panics_unwrap, parseFixedUtf8_array] at h
      obtain ⟨_, -, h⟩ := h.resolve_left nofun
    have hbroken : Utf8.decode? uri = none :=
      (panics_unwrap.mp h).resolve_right fun ⟨_, _, h⟩ => not_panics_pure h
    obtain ⟨hid, rfl⟩ := verify_eq_ok.mp hid
    obtain ⟨hlength, huri⟩ := take_eq_ok.mp huri
    have hlt := uriLen.toNat_lt
    rw [parseFixed_eq_ok] at hnftAddress hsymbol hname htokenId hto
    rw [parseChain_eq_ok] at hnftChain htoChain
    refine ⟨nftAddress, symbol, name, tokenId, to', nftChain, toChain, uri, by omega, hbroken, left, ?_⟩
    rw [u8_eq_ok.mp hid, hnftAddress, hnftChain, hsymbol, hname, htokenId, u8_eq_ok.mp huriLen, huri, hto,
      htoChain, transferBytes, hlength, UInt8.ofNat_toNat]
    simp only [List.cons_append, List.append_assoc]
  · rintro ⟨nftAddress, symbol, name, tokenId, to', nftChain, toChain, uri, hlength, hbroken, left, rfl⟩
    rw [transferBytes]
    simp only [List.cons_append, List.append_assoc]
    refine panics_attempt.mpr ⟨_, _, verify_eq_ok.mpr ⟨u8_eq_ok.mpr rfl, rfl⟩, ?_⟩
    refine panics_attempt.mpr ⟨nftAddress, _, parseFixed_eq_ok.mpr rfl, ?_⟩
    refine panics_attempt.mpr ⟨nftChain, _, parseChain_eq_ok.mpr rfl, ?_⟩
    refine panics_attempt.mpr ⟨symbol, _, parseFixed_eq_ok.mpr rfl, ?_⟩
    refine panics_attempt.mpr ⟨name, _, parseFixed_eq_ok.mpr rfl, ?_⟩
    refine panics_attempt.mpr ⟨tokenId, _, parseFixed_eq_ok.mpr rfl, ?_⟩
    refine panics_attempt.mpr ⟨_, _, u8_eq_ok.mpr rfl, ?_⟩
    refine panics_attempt.mpr ⟨uri, _, take_eq_ok.mpr ⟨(ofNat_length_toNat hlength).symm, rfl⟩, ?_⟩
    refine panics_attempt.mpr ⟨to', _, parseFixed_eq_ok.mpr rfl, ?_⟩
    refine panics_attempt.mpr ⟨toChain, _, parseChain_eq_ok.mpr rfl, ?_⟩
    refine panics_unwrap.mpr (.inr ⟨_, parseFixedUtf8_array chars name, ?_⟩)
    refine panics_unwrap.mpr (.inr ⟨_, parseFixedUtf8_array chars symbol, ?_⟩)
    exact panics_unwrap.mpr (.inl hbroken)

/-- **A transfer that is read, written again**, up to stripping. -/
theorem Transfer.reads (hchars : Utf8.Lossy chars) {t : Transfer}
    (h : Transfer.fromBytes chars input = .ok t) : ∃ symbol name, t.bytes symbol name <+: input ∧
      SameText chars (padText t.symbol) symbol ∧ SameText chars (padText t.name) name := by
  obtain ⟨rest, h⟩ := finish_eq_ok.mp h
  unfold parsePayloadTransfer at h
  obtain ⟨id, _, hid, h⟩ := Reader.bind_eq_ok.mp h
  obtain ⟨nftAddress, _, hnftAddress, h⟩ := Reader.bind_eq_ok.mp h
  obtain ⟨nftChain, _, hnftChain, h⟩ := Reader.bind_eq_ok.mp h
  obtain ⟨symbol, _, hsymbol, h⟩ := Reader.bind_eq_ok.mp h
  obtain ⟨name, _, hname, h⟩ := Reader.bind_eq_ok.mp h
  obtain ⟨tokenId, _, htokenId, h⟩ := Reader.bind_eq_ok.mp h
  obtain ⟨uriLen, _, huriLen, h⟩ := Reader.bind_eq_ok.mp h
  obtain ⟨uri, _, huri, h⟩ := Reader.bind_eq_ok.mp h
  obtain ⟨to', _, hto, h⟩ := Reader.bind_eq_ok.mp h
  obtain ⟨toChain, left, htoChain, h⟩ := Reader.bind_eq_ok.mp h
  obtain ⟨name', _, hname', h⟩ := Reader.bind_eq_ok.mp h
  obtain ⟨symbol', _, hsymbol', h⟩ := Reader.bind_eq_ok.mp h
  obtain ⟨uri', _, huri', h⟩ := Reader.bind_eq_ok.mp h
  obtain ⟨rfl, rfl⟩ := Reader.pure_eq_ok.mp h
  obtain ⟨hid, rfl⟩ := verify_eq_ok.mp (attempt_eq_ok.mp hid)
  obtain ⟨hlength, huri⟩ := take_eq_ok.mp (attempt_eq_ok.mp huri)
  rw [unwrap_eq_ok, parseFixedUtf8_array, Option.some_inj] at hsymbol' hname'
  rw [unwrap_eq_ok, Utf8.decode?_eq_some] at huri'
  obtain ⟨rfl, rfl⟩ := hname'
  obtain ⟨rfl, rfl⟩ := hsymbol'
  obtain ⟨rfl, rfl⟩ := huri'
  have htokenId' := beBytes_beNat tokenId.val
  rw [tokenId.property] at htokenId'
  rw [attempt_eq_ok, parseFixed_eq_ok] at hnftAddress hsymbol hname htokenId hto
  rw [attempt_eq_ok, parseChain_eq_ok] at hnftChain htoChain
  rw [attempt_eq_ok, u8_eq_ok] at huriLen
  refine ⟨symbol.val, name.val, ⟨left, ?_⟩, sameText_padText hchars symbol, sameText_padText hchars name⟩
  rw [u8_eq_ok.mp hid, hnftAddress, hnftChain, hsymbol, hname, htokenId, huriLen, huri, hto, htoChain,
    Transfer.bytes, transferBytes, hlength, UInt8.ofNat_toNat, htokenId']
  simp only [List.cons_append, List.append_assoc]

end Reads

end Nft

end Wormhole.Sdk

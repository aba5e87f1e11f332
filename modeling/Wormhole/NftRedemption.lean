/-
# Wormhole.NftRedemption — the NFTs of Ethereum, redeemed on Solana.

Ethereum writes the name, the symbol and the URI of an NFT as bytes that any token contract makes up.  Solana
reads names and symbols lossily, and that is what it publishes when the NFT leaves again; a URI that is not
UTF-8 makes its program panic, and the NFT cannot be redeemed.  `redeemable_iff` says that nothing else stands
in the way.
-/
import Mathlib
import Wormhole.Lib.Bytes
import Wormhole.Lib.Failing
import Wormhole.Lib.Reader
import Wormhole.Lib.Utf8
import Wormhole.Ethereum.NFTBridge
import Wormhole.NftFormat
import Wormhole.Solana.Payloads
import Wormhole.Solana.TokenBridge
import Wormhole.Solana.TokenTransfers
import Wormhole.Solana.NftBridge
import Wormhole.Solana.NftCustody

namespace Wormhole.NftRedemption

open Wormhole.Lib Wormhole.Lib.Bytes
open Wormhole.NftFormat (fields encodeTransfer_eq)
open Wormhole.Solana (readExact readU8 readU16 readU256 atEnd SolitaireError Result)
open Wormhole.Solana.TokenBridge (padString utf8)
open Wormhole.Solana.NftBridge (NftBridgeProgram PayloadTransfer readUri stringOf)

/-! ## Reading -/

section Reading

variable {rest : List UInt8}

theorem readExact_append {n : Nat} (a : FixedBytes n) : (readExact n).run (a.val ++ rest) = .ok (a, rest) :=
  Reader.array_append a

theorem readU16_append {n : Nat} (h : n < 256 ^ 2) : readU16.run (beBytes 2 n ++ rest) = .ok (n, rest) :=
  Reader.number_append h

/-- `from_utf8`, unwrapped. -/
theorem stringOf_run (bytes : List UInt8) : (stringOf bytes).run rest =
    match Utf8.decode? bytes with
    | some s => .ok (s, rest)
    | none => .error .panicked := by
  unfold stringOf Utf8.decode?
  cases String.fromUTF8? ⟨bytes.toArray⟩ <;> rfl

theorem readUri_append {uri : List UInt8} (h : uri.length ≤ 255) :
    readUri.run ([UInt8.ofNat uri.length] ++ (uri ++ rest)) =
      match Utf8.decode? uri with
      | some s => .ok (s, rest)
      | none => .error .panicked := by
  have hbytes : (Solana.NftBridge.readBytes uri.length).run (uri ++ rest) = .ok (uri, rest) := by
    have harray : (readExact uri.length).run (uri ++ rest) = .ok (⟨uri, rfl⟩, rest) := readExact_append ⟨uri, rfl⟩
    rw [Solana.NftBridge.readBytes, Reader.bind_run, harray]
    rfl
  rw [readUri, Reader.bind_run, ← beBytes_one, readU8, Reader.number_append (by omega), Failing.ok_bind,
    Reader.bind_run, hbytes, Failing.ok_bind, stringOf_run]

end Reading

/-! ## The message -/

/-- The NFT as Solana holds it: names and symbols stripped. -/
def solana (chars : List UInt8 → List Char) (t : Ethereum.NFTBridge.Transfer) (uri : List Char) :
    PayloadTransfer where
  tokenAddress := t.tokenAddress
  tokenChain := t.tokenChain
  symbol := Utf8.strip chars t.symbol.val
  name := Utf8.strip chars t.name.val
  tokenId := beNat t.tokenID.val
  uri
  to' := t.recipient
  toChain := t.toChain

section Message

variable {Pubkey : Type} {P : NftBridgeProgram Pubkey} {t : Ethereum.NFTBridge.Transfer}

/-- **What Solana reads** of a message with its fields. -/
theorem deserialize_fields (htokenChain : t.tokenChain < 256 ^ 2) (htoChain : t.toChain < 256 ^ 2)
    (huri : t.uri.length ≤ 255) :
    PayloadTransfer.deserialize P (fields t (UInt8.ofNat t.uri.length)).flatten =
      match Utf8.decode? t.uri with
      | some uri => .ok (solana P.chars t uri)
      | none => .error .panicked := by
  have hlayout : (fields t (UInt8.ofNat t.uri.length)).flatten = beBytes 1 1 ++ (t.tokenAddress.val ++
      (beBytes 2 t.tokenChain ++ (t.symbol.val ++ (t.name.val ++ (t.tokenID.val ++
        ([UInt8.ofNat t.uri.length] ++ (t.uri ++ (t.recipient.val ++ beBytes 2 t.toChain)))))))) := by
    simp only [fields, List.flatten_cons, List.flatten_nil, List.append_nil]
    rfl
  rw [hlayout, PayloadTransfer.deserialize, Reader.decode, Reader.bind_run, readU8,
    Reader.number_append (by decide), Failing.ok_bind, Reader.bind_run, Reader.check_true rfl, Failing.ok_bind,
    Reader.bind_run, readExact_append, Failing.ok_bind, Reader.bind_run, readU16_append htokenChain,
    Failing.ok_bind, Reader.bind_run, readExact_append, Failing.ok_bind, Reader.bind_run, readExact_append,
    Failing.ok_bind, Reader.bind_run, readU256, Reader.number_array, Failing.ok_bind, Reader.bind_run,
    readUri_append huri]
  cases Utf8.decode? t.uri with
  | none => rfl
  | some uri =>
    dsimp only
    rw [Failing.ok_bind, Reader.bind_run, readExact_append, Failing.ok_bind, Reader.bind_run,
      ← List.append_nil (beBytes 2 t.toChain), readU16_append htoChain, Failing.ok_bind]
    rfl

/-- The field of a text that has been stripped. -/
theorem padString_strip (hchars : Utf8.Lossy P.chars) (field : FixedBytes 32) :
    ∃ padded : FixedBytes 32, padString (Utf8.strip P.chars field.val) = .ok padded.val ∧
      Utf8.strip P.chars padded.val = Utf8.strip P.chars field.val := by
  have hfits : (utf8 (Utf8.strip P.chars field.val)).length ≤ 32 := by
    have hlength := @Utf8.Lossy.strip_length P.chars field.val hchars
    rwa [field.property] at hlength
  refine ⟨⟨_, ?_⟩, if_pos hfits, hchars.strip_pad _⟩
  rw [List.length_append, List.length_replicate]
  omega

/-- **Written again and read again**, it is the same. -/
theorem serialize_solana (hchars : Utf8.Lossy P.chars) (htokenChain : t.tokenChain < 256 ^ 2)
    (htoChain : t.toChain < 256 ^ 2) (hlength : t.uri.length ≤ 200) {uri : List Char}
    (huri : Utf8.decode? t.uri = some uri) :
    ∃ bytes, (solana P.chars t uri).serialize = .ok bytes ∧
      PayloadTransfer.deserialize P bytes = .ok (solana P.chars t uri) := by
  obtain ⟨symbol, hsymbol, hsymbol'⟩ := padString_strip hchars t.symbol
  obtain ⟨name, hname, hname'⟩ := padString_strip hchars t.name
  have hencode : utf8 uri = t.uri := Utf8.decode?_eq_some.mp huri
  let padded : Ethereum.NFTBridge.Transfer := { t with symbol, name }
  refine ⟨(fields padded (UInt8.ofNat t.uri.length)).flatten, ?_, ?_⟩
  · have hid : beBytes 32 (beNat t.tokenID.val) = t.tokenID.val := by
      have h := beBytes_beNat t.tokenID.val
      rwa [t.tokenID.property] at h
    have hbyte : beBytes 1 ((utf8 uri).length % 256) = [UInt8.ofNat t.uri.length] := by
      rw [hencode, Nat.mod_eq_of_lt (by omega), beBytes_one]
    show (padString (Utf8.strip P.chars t.symbol.val) >>= fun symbol => _) = _
    rw [hsymbol, Failing.ok_bind]
    show (padString (Utf8.strip P.chars t.name.val) >>= fun name => _) = _
    rw [hname, Failing.ok_bind]
    show Except.ok (_ ++ beBytes 32 (beNat t.tokenID.val) ++ beBytes 1 ((utf8 uri).length % 256) ++ utf8 uri ++ _ ++
      _) = _
    rw [hid, hbyte, hencode]
    simp only [fields, List.flatten_cons, List.flatten_nil, List.append_nil, List.append_assoc]
    rfl
  · have hread := @deserialize_fields Pubkey P padded htokenChain htoChain (by show t.uri.length ≤ 255; omega)
    rw [show padded.uri = t.uri from rfl, huri] at hread
    have hsame : solana P.chars padded uri = solana P.chars t uri := by
      unfold solana
      simp only [padded, hsymbol', hname']
    rw [← hsame]
    exact hread

end Message

/-! ## Redemption -/

/-- **Solana reads the message**: its NFT, its URI and its recipient; and what it has read, written and read
again, is the same. -/
def Redeems {Pubkey : Type} (P : NftBridgeProgram Pubkey) (t : Ethereum.NFTBridge.Transfer)
    (payload : List UInt8) : Prop :=
  ∃ v, PayloadTransfer.deserialize P payload = .ok v ∧
    v.tokenAddress = t.tokenAddress ∧ v.tokenChain = t.tokenChain ∧ beBytes 32 v.tokenId = t.tokenID.val ∧
    utf8 v.uri = t.uri ∧ v.to' = t.recipient ∧ v.toChain = t.toChain ∧
    ∃ bytes, v.serialize = .ok bytes ∧ PayloadTransfer.deserialize P bytes = .ok v

/-- **Which NFTs Solana redeems.** Of the transfers that Ethereum writes, those whose URI is UTF-8. -/
theorem redeemable_iff {Pubkey : Type} {P : NftBridgeProgram Pubkey} (hchars : Utf8.Lossy P.chars)
    {t : Ethereum.NFTBridge.Transfer} (htokenChain : t.tokenChain < 2 ^ 16) (htoChain : t.toChain < 2 ^ 16)
    {payload : List UInt8} (hpayload : Ethereum.NFTBridge.encodeTransfer t = .ok payload) :
    Redeems P t payload ↔ (Utf8.decode? t.uri).isSome := by
  have hlength : t.uri.length ≤ 200 := by
    obtain ⟨_, hrequire, -⟩ := Failing.bind_eq_ok.mp hpayload
    exact Ethereum.require_eq_ok.mp hrequire
  obtain rfl := Except.ok.inj ((encodeTransfer_eq hlength).symm.trans hpayload)
  have hread := @deserialize_fields Pubkey P t htokenChain htoChain (by omega)
  cases huri : Utf8.decode? t.uri with
  | none =>
    rw [huri] at hread
    refine iff_of_false ?_ Bool.false_ne_true
    rintro ⟨v, hv, -⟩
    cases hread.symm.trans hv
  | some uri =>
    rw [huri] at hread
    refine iff_of_true ⟨_, hread, rfl, rfl, ?_, Utf8.decode?_eq_some.mp huri, rfl, rfl,
      serialize_solana hchars htokenChain htoChain hlength huri⟩ rfl
    have h := beBytes_beNat t.tokenID.val
    rwa [t.tokenID.property] at h

/-! ## Samples -/

section Samples

open Wormhole.Solana.NftBridge (nftProgram)

open Wormhole.Solana.PlainTokens (Key)

/-- A program whose text is read by the lossy decoder. -/
def lossyProgram : NftBridgeProgram Key := { nftProgram with chars := Utf8.lossy }

def sampleTransfer : Ethereum.NFTBridge.Transfer := NftFormat.ethereum NftFormat.sampleTransfer

def samplePayload : List UInt8 := (fields sampleTransfer 1).flatten

theorem sampleTransfer_redeemable : Redeems lossyProgram sampleTransfer samplePayload :=
  (redeemable_iff (P := lossyProgram) Utf8.lossy_lossy (by decide) (by decide) (encodeTransfer_eq (by decide))).mpr
    (by decide)

/-- Its URI is one byte, and no text. -/
def brokenTransfer : Ethereum.NFTBridge.Transfer := { sampleTransfer with uri := [0xff] }

def brokenPayload : List UInt8 := (fields brokenTransfer 1).flatten

/-- Ethereum publishes it, and Solana does not redeem it. -/
theorem brokenTransfer_unredeemable :
    Ethereum.NFTBridge.encodeTransfer brokenTransfer = .ok brokenPayload ∧
    PayloadTransfer.deserialize lossyProgram brokenPayload = .error .panicked ∧
    ¬Redeems lossyProgram brokenTransfer brokenPayload := by
  have hnone : Utf8.decode? brokenTransfer.uri = none := by
    rw [← Option.not_isSome_iff_eq_none]
    decide
  have hread := @deserialize_fields Key lossyProgram brokenTransfer (by decide) (by decide) (by decide)
  rw [hnone] at hread
  refine ⟨encodeTransfer_eq (by decide), hread, ?_⟩
  rintro ⟨v, hv, -⟩
  cases hread.symm.trans hv

end Samples

end Wormhole.NftRedemption

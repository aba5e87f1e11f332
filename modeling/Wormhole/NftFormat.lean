/-
# Wormhole.NftFormat — the NFT transfer message, on Ethereum and on Terra.

The message carries the token's URI between fixed fields, with a byte for its length in front of it.
Terra finds the fields behind the URI by that byte; Ethereum ignores the byte, since payloads with a wrong
one are out there, and reads those fields from the end.  So Ethereum accepts a message with any byte there
and a URI of any length, and Terra only those that are written (`nft_format`).
-/
import Mathlib
import Wormhole.Lib.Bytes
import Wormhole.Lib.Failing
import Wormhole.Lib.Fields
import Wormhole.Ethereum.NFTBridge
import Wormhole.Ethereum.Verification
import Wormhole.Terra.NftBridge
import Wormhole.Terra.NftMessage

namespace Wormhole.NftFormat

open Wormhole.Lib Wormhole.Lib.Bytes
open Wormhole.Terra.NftBridge (TransferInfo transferMessage parseTransferMessage parseTransferMessage_iff)

/-- A transfer of Terra, as Ethereum holds it. -/
def ethereum (info : TransferInfo) : Ethereum.NFTBridge.Transfer where
  tokenAddress := info.nftAddress
  tokenChain := info.nftChain.toNat
  symbol := info.symbol
  name := info.name
  tokenID := info.tokenId
  uri := info.uri.val
  recipient := info.recipient
  toChain := info.recipientChain.toNat

/-! ## The message -/

section Message

variable {t : Ethereum.NFTBridge.Transfer} {uriLength : UInt8} {payload : List UInt8}

/-- The fields of a message, with any byte for the length of the URI. -/
def fields (t : Ethereum.NFTBridge.Transfer) (uriLength : UInt8) : List (List UInt8) :=
  [[0x01], t.tokenAddress.val, beBytes 2 t.tokenChain, t.symbol.val, t.name.val, t.tokenID.val, [uriLength],
    t.uri, t.recipient.val, beBytes 2 t.toChain]

theorem eq_fields_iff :
    payload = (fields t uriLength).flatten ↔
      slice? payload 0 1 = some [0x01] ∧
      slice? payload 1 33 = some t.tokenAddress.val ∧
      slice? payload 33 35 = some (beBytes 2 t.tokenChain) ∧
      slice? payload 35 67 = some t.symbol.val ∧
      slice? payload 67 99 = some t.name.val ∧
      slice? payload 99 131 = some t.tokenID.val ∧
      slice? payload 131 132 = some [uriLength] ∧
      slice? payload 132 (132 + t.uri.length) = some t.uri ∧
      slice? payload (132 + t.uri.length) (132 + t.uri.length + 32) = some t.recipient.val ∧
      slice? payload (132 + t.uri.length + 32) (132 + t.uri.length + 32 + 2) = some (beBytes 2 t.toChain) ∧
      132 + t.uri.length + 32 + 2 = payload.length := by
  rw [← fields_iff_flatten]
  simp only [fields, Fields, List.length_cons, List.length_nil, t.tokenAddress.property, t.symbol.property,
    t.name.property, t.tokenID.property, t.recipient.property, beBytes_length, Nat.reduceAdd]

theorem uriLength_at (h : payload = (fields t uriLength).flatten) : payload[131]? = some uriLength := by
  obtain ⟨-, -, -, -, -, -, hbyte, -⟩ := eq_fields_iff.mp h
  have hsplit := (slice?_eq_some.mp hbyte).2.2
  have hhead := congrArg (fun bytes => bytes[0]?) hsplit
  simpa [List.getElem?_take] using hhead

end Message

/-! ## Ethereum -/

section Ethereum

variable {t : Ethereum.NFTBridge.Transfer} {payload : List UInt8}

theorem toUint_iff {reason : String} {w n start : Nat} :
    Ethereum.toUint reason w payload start = .ok n ↔
      slice? payload start (start + w) = some (beBytes w n) ∧ n < 256 ^ w := by
  constructor
  · exact Ethereum.toUint_eq_ok
  · rintro ⟨hslice, hn⟩
    rw [Ethereum.toUint_ok hslice, beNat_beBytes hn]

theorem subUint_ok {x y : Nat} (h : y ≤ x) : Ethereum.subUint x y = .ok (x - y) := if_pos h

/-- Ethereum accepts any length byte. -/
theorem ethereum_parseTransfer_iff :
    Ethereum.NFTBridge.parseTransfer payload = .ok t ↔
      t.tokenChain < 256 ^ 2 ∧ t.toChain < 256 ^ 2 ∧ ∃ uriLength, payload = (fields t uriLength).flatten := by
  constructor
  · intro h
    obtain ⟨payloadID, hid, h⟩ := Failing.bind_eq_ok.mp h
    obtain ⟨u, hrequire, h⟩ := Failing.bind_eq_ok.mp h
    rw [Ethereum.require_eq_ok.mp hrequire] at hid
    obtain ⟨tokenAddress, htokenAddress, h⟩ := Failing.bind_eq_ok.mp h
    obtain ⟨tokenChain, htokenChain, h⟩ := Failing.bind_eq_ok.mp h
    obtain ⟨symbol, hsymbol, h⟩ := Failing.bind_eq_ok.mp h
    obtain ⟨name, hname, h⟩ := Failing.bind_eq_ok.mp h
    obtain ⟨tokenID, htokenID, h⟩ := Failing.bind_eq_ok.mp h
    obtain ⟨n, hn, h⟩ := Failing.bind_eq_ok.mp h
    obtain ⟨m, hm, h⟩ := Failing.bind_eq_ok.mp h
    obtain ⟨uri, huri, h⟩ := Failing.bind_eq_ok.mp h
    obtain ⟨index, hindex, h⟩ := Failing.bind_eq_ok.mp h
    obtain ⟨toChain, htoChain, h⟩ := Failing.bind_eq_ok.mp h
    obtain ⟨index', hindex', h⟩ := Failing.bind_eq_ok.mp h
    obtain ⟨recipient, hrecipient, h⟩ := Failing.bind_eq_ok.mp h
    obtain rfl := Except.ok.inj h
    obtain ⟨hn, rfl⟩ := Ethereum.subUint_eq_ok hn
    obtain ⟨hm, rfl⟩ := Ethereum.subUint_eq_ok hm
    obtain ⟨-, rfl⟩ := Ethereum.subUint_eq_ok hindex
    obtain ⟨-, rfl⟩ := Ethereum.subUint_eq_ok hindex'
    have huri := Ethereum.readBytes_eq_ok.mp huri
    have hlength := slice?_length huri
    -- the byte that is not read
    obtain ⟨uriLength, hbyte⟩ : ∃ uriLength, slice? payload 131 132 = some [uriLength] := by
      refine ⟨payload[131], slice?_eq_some.mpr ⟨by omega, by omega, ?_⟩⟩
      rw [List.drop_eq_getElem_cons (by omega)]
      rfl
    refine ⟨(toUint_iff.mp htokenChain).2, (toUint_iff.mp htoChain).2, uriLength, ?_⟩
    have hend : 132 + uri.length + 32 + 2 = payload.length := by omega
    have hstart : payload.length - 2 - 32 = 132 + uri.length := by omega
    have hmiddle : payload.length - 2 = 132 + uri.length + 32 := by omega
    rw [show 132 + (payload.length - 132 - 34) = 132 + uri.length from by omega] at huri
    rw [hstart] at hrecipient
    rw [hmiddle] at htoChain
    exact eq_fields_iff.mpr ⟨(toUint_iff.mp hid).1, Ethereum.toWord_eq_ok.mp htokenAddress,
      (toUint_iff.mp htokenChain).1, Ethereum.toWord_eq_ok.mp hsymbol, Ethereum.toWord_eq_ok.mp hname,
      Ethereum.toWord_eq_ok.mp htokenID, hbyte, huri, Ethereum.toWord_eq_ok.mp hrecipient,
      (toUint_iff.mp htoChain).1, hend⟩
  · rintro ⟨htokenChain, htoChain, uriLength, h⟩
    obtain ⟨hid, haddress, hchain, hsymbol, hname, htokenID, -, huri, hrecipient, hto, hend⟩ :=
      eq_fields_iff.mp h
    have hid : Ethereum.toUint8 payload 0 = .ok 1 := toUint_iff.mpr ⟨hid, by decide⟩
    have hchain : Ethereum.toUint16 payload 33 = .ok t.tokenChain := toUint_iff.mpr ⟨hchain, htokenChain⟩
    have hto : Ethereum.toUint16 payload (132 + t.uri.length + 32) = .ok t.toChain :=
      toUint_iff.mpr ⟨hto, htoChain⟩
    have huri : Ethereum.slice payload 132 t.uri.length = .ok t.uri := Ethereum.readBytes_eq_ok.mpr huri
    have hlength : payload.length - 132 - 34 = t.uri.length := by omega
    have hmiddle : payload.length - 2 = 132 + t.uri.length + 32 := by omega
    have hstart : 132 + t.uri.length + 32 - 32 = 132 + t.uri.length := by omega
    rw [Ethereum.NFTBridge.parseTransfer, hid, Failing.ok_bind, Ethereum.require_true rfl, Failing.ok_bind,
      Ethereum.toWord_eq_ok.mpr haddress, Failing.ok_bind, hchain, Failing.ok_bind,
      Ethereum.toWord_eq_ok.mpr hsymbol, Failing.ok_bind, Ethereum.toWord_eq_ok.mpr hname, Failing.ok_bind,
      Ethereum.toWord_eq_ok.mpr htokenID, Failing.ok_bind, subUint_ok (by omega), Failing.ok_bind,
      subUint_ok (by omega), Failing.ok_bind, hlength, huri, Failing.ok_bind, subUint_ok (by omega),
      Failing.ok_bind, hmiddle, hto, Failing.ok_bind, subUint_ok (by omega), Failing.ok_bind, hstart,
      Ethereum.toWord_eq_ok.mpr hrecipient, Failing.ok_bind]
    rfl

theorem encodeTransfer_eq (h : t.uri.length ≤ 200) :
    Ethereum.NFTBridge.encodeTransfer t = .ok (fields t (UInt8.ofNat t.uri.length)).flatten := by
  rw [Ethereum.NFTBridge.encodeTransfer, Ethereum.require_true h, Failing.ok_bind]
  simp only [fields, List.flatten_cons, List.flatten_nil, List.append_nil, List.append_assoc]
  rfl

end Ethereum

/-! ## Terra -/

theorem transferMessage_eq {info : TransferInfo} :
    transferMessage info = (fields (ethereum info) (UInt8.ofNat info.uri.val.length)).flatten := by
  simp only [transferMessage, TransferInfo.serialize, fields, List.flatten_cons, List.flatten_nil,
    List.append_nil, List.append_assoc]
  rfl

/-! ## Agreement -/

/-- **The NFT format.** Both chains write the same bytes and read back every field.  What Ethereum accepts,
Terra reads exactly when the byte in front of the URI is its length and that is at most 200; and what Terra
reads, Ethereum accepts as the same transfer. -/
theorem nft_format :
    (∀ info : TransferInfo,
      Ethereum.NFTBridge.encodeTransfer (ethereum info) = .ok (transferMessage info) ∧
      Ethereum.NFTBridge.parseTransfer (transferMessage info) = .ok (ethereum info) ∧
      parseTransferMessage (transferMessage info) = .ok info) ∧
    (∀ (payload : List UInt8) (t : Ethereum.NFTBridge.Transfer),
      Ethereum.NFTBridge.parseTransfer payload = .ok t →
      ((∃ info, parseTransferMessage payload = .ok info ∧ ethereum info = t) ↔
        t.uri.length ≤ 200 ∧ payload[131]? = some (UInt8.ofNat t.uri.length)) ∧
      ∀ info, parseTransferMessage payload = .ok info → ethereum info = t) ∧
    ∀ (payload : List UInt8) (info : TransferInfo), parseTransferMessage payload = .ok info →
      Ethereum.NFTBridge.parseTransfer payload = .ok (ethereum info) := by
  have hread : ∀ info : TransferInfo,
      Ethereum.NFTBridge.parseTransfer (transferMessage info) = .ok (ethereum info) := fun info =>
    ethereum_parseTransfer_iff.mpr
      ⟨toNat_lt_uint16 info.nftChain, toNat_lt_uint16 info.recipientChain, _, transferMessage_eq⟩
  have hsame : ∀ (payload : List UInt8) (info : TransferInfo), parseTransferMessage payload = .ok info →
      Ethereum.NFTBridge.parseTransfer payload = .ok (ethereum info) := by
    intro payload info h
    rw [parseTransferMessage_iff.mp h]
    exact hread info
  refine ⟨?_, ?_, hsame⟩
  · intro info
    refine ⟨?_, hread info, parseTransferMessage_iff.mpr rfl⟩
    rw [transferMessage_eq]
    exact encodeTransfer_eq info.uri.property
  · intro payload t h
    have hfields : ∀ info, parseTransferMessage payload = .ok info → ethereum info = t := fun info hinfo =>
      Except.ok.inj ((hsame payload info hinfo).symm.trans h)
    refine ⟨?_, hfields⟩
    obtain ⟨htokenChain, htoChain, uriLength, hpayload⟩ := ethereum_parseTransfer_iff.mp h
    have hbyte : payload[131]? = some uriLength := uriLength_at hpayload
    constructor
    · rintro ⟨info, hinfo, rfl⟩
      refine ⟨info.uri.property, ?_⟩
      exact uriLength_at ((parseTransferMessage_iff.mp hinfo).trans transferMessage_eq)
    · rintro ⟨hle, huriLength⟩
      obtain rfl := Option.some.inj (hbyte.symm.trans huriLength)
      let info : TransferInfo := {
        nftAddress := t.tokenAddress, nftChain := UInt16.ofNat t.tokenChain, symbol := t.symbol, name := t.name,
        tokenId := t.tokenID, uri := ⟨t.uri, hle⟩, recipient := t.recipient,
        recipientChain := UInt16.ofNat t.toChain }
      have hinfo : ethereum info = t := by
        simp only [ethereum, info, UInt16.toNat_ofNat_of_lt' htokenChain, UInt16.toNat_ofNat_of_lt' htoChain]
      refine ⟨info, parseTransferMessage_iff.mpr ?_, hinfo⟩
      rw [transferMessage_eq, hinfo]
      exact hpayload

/-! ## Sample messages -/

theorem sampleRecipient_length : (List.replicate 32 (0x22 : UInt8)).length = 32 := rfl

def sampleTransfer : TransferInfo where
  nftAddress := ⟨List.replicate 32 0x11, rfl⟩
  nftChain := 2
  symbol := ⟨List.replicate 32 0x53, rfl⟩
  name := ⟨List.replicate 32 0x4e, rfl⟩
  tokenId := ⟨List.replicate 32 0x07, rfl⟩
  uri := ⟨[0x75], by decide⟩
  recipient := ⟨List.replicate 32 0x22, sampleRecipient_length⟩
  recipientChain := 3

/-- The sample message, with a 0 for the length of its URI. -/
def malformedMessage : List UInt8 := (fields (ethereum sampleTransfer) 0).flatten

theorem nft_format_sample :
    (∃ info, parseTransferMessage (transferMessage sampleTransfer) = .ok info ∧
      ethereum info = ethereum sampleTransfer) ∧
    Ethereum.NFTBridge.parseTransfer (transferMessage sampleTransfer) = .ok (ethereum sampleTransfer) := by
  have hread := (nft_format.1 sampleTransfer).2
  have hiff := (nft_format.2.1 (transferMessage sampleTransfer) (ethereum sampleTransfer) hread.1).1
  exact ⟨hiff.mpr ⟨by decide, by decide⟩, nft_format.2.2 _ sampleTransfer hread.2⟩

/-- Ethereum accepts the malformed message and Terra does not. -/
theorem malformedMessage_refused :
    ¬∀ (payload : List UInt8) (t : Ethereum.NFTBridge.Transfer),
      Ethereum.NFTBridge.parseTransfer payload = .ok t →
      ∃ info, parseTransferMessage payload = .ok info ∧ ethereum info = t := by
  intro h
  have haccepted : Ethereum.NFTBridge.parseTransfer malformedMessage = .ok (ethereum sampleTransfer) :=
    ethereum_parseTransfer_iff.mpr ⟨by decide, by decide, 0, rfl⟩
  obtain ⟨info, hread, -⟩ := h malformedMessage _ haccepted
  have hrefused : Terra.committed (parseTransferMessage malformedMessage) = none := by decide +kernel
  rw [hread] at hrefused
  cases hrefused

end Wormhole.NftFormat

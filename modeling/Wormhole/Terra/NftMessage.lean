/-
# Wormhole.Terra.NftMessage — the transfer message of the NFT bridge on Terra.

A message is its fields one behind the other, so reading and writing are inverse to each other: Terra accepts
exactly the messages it writes (`parseTransferMessage_iff`).
-/
import Mathlib
import Wormhole.Lib.Bytes
import Wormhole.Lib.Fields
import Wormhole.Lib.Go
import Wormhole.Terra.Cosmwasm
import Wormhole.Terra.NftBridge

namespace Wormhole.Terra.NftBridge

open Wormhole.Lib Wormhole.Lib.Bytes

variable {info : TransferInfo} {payload : List UInt8}

theorem getConstBytes_iff {n index : Nat} {field : FixedBytes n} :
    getConstBytes n payload index = .ok field ↔
      slice? payload index (index + n) = some field.val := by
  rw [← getBytes_eq_ok, getConstBytes]
  constructor
  · intro h
    split at h
    · rename_i bs hbytes
      obtain rfl := Go.ok.inj h
      exact hbytes
    · cases h
    · cases h
  · intro h
    split
    · rename_i bs hbytes
      exact congrArg Go.ok (Subtype.ext (Go.ok.inj (hbytes.symm.trans h)))
    · rename_i hbytes
      cases hbytes.symm.trans h
    · rename_i hbytes
      cases hbytes.symm.trans h

/-- The transfer behind the action. -/
theorem eq_serialize_iff :
    payload = info.serialize ↔
      slice? payload 0 32 = some info.nftAddress.val ∧
      slice? payload 32 34 = some (beBytes 2 info.nftChain.toNat) ∧
      slice? payload 34 66 = some info.symbol.val ∧
      slice? payload 66 98 = some info.name.val ∧
      slice? payload 98 130 = some info.tokenId.val ∧
      slice? payload 130 131 = some [UInt8.ofNat info.uri.val.length] ∧
      slice? payload 131 (131 + info.uri.val.length) = some info.uri.val ∧
      slice? payload (131 + info.uri.val.length) (163 + info.uri.val.length) = some info.recipient.val ∧
      slice? payload (163 + info.uri.val.length) (165 + info.uri.val.length) =
        some (beBytes 2 info.recipientChain.toNat) ∧
      payload.length = 165 + info.uri.val.length := by
  have hserialize : info.serialize = [info.nftAddress.val, beBytes 2 info.nftChain.toNat, info.symbol.val,
      info.name.val, info.tokenId.val, [UInt8.ofNat info.uri.val.length], info.uri.val, info.recipient.val,
      beBytes 2 info.recipientChain.toNat].flatten := by
    simp only [TransferInfo.serialize, List.flatten_cons, List.flatten_nil, List.append_nil, List.append_assoc]
  have hrecipient : 131 + info.uri.val.length + 32 = 163 + info.uri.val.length := by omega
  have hend : 163 + info.uri.val.length + 2 = 165 + info.uri.val.length := by omega
  rw [hserialize, ← fields_iff_flatten, eq_comm (a := payload.length)]
  simp only [Fields, List.length_cons, List.length_nil, info.nftAddress.property, info.symbol.property,
    info.name.property, info.tokenId.property, info.recipient.property, beBytes_length, Nat.reduceAdd,
    Nat.zero_add, hrecipient, hend]

theorem boundedVec_new_eq_ok {n : Nat} {bs : List UInt8} {bounded : BoundedVec n} :
    BoundedVec.new n bs = .ok bounded ↔ bounded.val = bs := by
  unfold BoundedVec.new
  split
  · rw [Go.ok.injEq, Subtype.ext_iff, eq_comm]
  · rename_i hlong
    refine ⟨nofun, ?_⟩
    rintro rfl
    exact absurd bounded.property hlong

/-- Terra accepts what it writes. -/
theorem deserialize_iff : TransferInfo.deserialize payload = .ok info ↔ payload = info.serialize := by
  rw [eq_serialize_iff]
  constructor
  · intro h
    obtain ⟨nftAddress, hnftAddress, h⟩ := Go.bind_eq_ok.mp h
    obtain ⟨nftChain, hnftChain, h⟩ := Go.bind_eq_ok.mp h
    obtain ⟨symbol, hsymbol, h⟩ := Go.bind_eq_ok.mp h
    obtain ⟨name, hname, h⟩ := Go.bind_eq_ok.mp h
    obtain ⟨tokenId, htokenId, h⟩ := Go.bind_eq_ok.mp h
    obtain ⟨uriLength, huriLength, h⟩ := Go.bind_eq_ok.mp h
    obtain ⟨uri, huri, h⟩ := Go.bind_eq_ok.mp h
    obtain ⟨recipient, hrecipient, h⟩ := Go.bind_eq_ok.mp h
    obtain ⟨recipientChain, hrecipientChain, h⟩ := Go.bind_eq_ok.mp h
    obtain ⟨u, hlength, h⟩ := Go.bind_eq_ok.mp h
    obtain ⟨bounded, hbounded, h⟩ := Go.bind_eq_ok.mp h
    cases h
    have hurilength := getBytes_length huri
    obtain rfl := boundedVec_new_eq_ok.mp hbounded
    rw [← hurilength] at huriLength huri hrecipient hrecipientChain hlength
    obtain ⟨hnftChain, hnftChain_lt⟩ := getUint_iff.mp hnftChain
    obtain ⟨hrecipientChain, hrecipientChain_lt⟩ := getUint_iff.mp hrecipientChain
    obtain ⟨huriLength, huriLength_lt⟩ := getUint_iff.mp huriLength
    rw [beBytes_one] at huriLength
    have hend : 131 + bounded.val.length + 32 = 163 + bounded.val.length := by omega
    have hrecipient := getConstBytes_iff.mp hrecipient
    rw [hend] at hrecipient
    have hto : 163 + bounded.val.length + 2 = 165 + bounded.val.length := by omega
    rw [hto] at hrecipientChain
    refine ⟨getConstBytes_iff.mp hnftAddress, ?_, getConstBytes_iff.mp hsymbol, getConstBytes_iff.mp hname,
      getConstBytes_iff.mp htokenId, huriLength, getBytes_eq_ok.mp huri, hrecipient, ?_,
      ensure_eq_ok.mp hlength⟩
    · rw [UInt16.toNat_ofNat_of_lt' hnftChain_lt]
      exact hnftChain
    · rw [UInt16.toNat_ofNat_of_lt' hrecipientChain_lt]
      exact hrecipientChain
  · rintro ⟨hnftAddress, hnftChain, hsymbol, hname, htokenId, huriLength, huri, hrecipient, hrecipientChain,
      hlength⟩
    have huri_lt : info.uri.val.length < 256 ^ 1 := Nat.lt_of_le_of_lt info.uri.property (by decide)
    have huriLength : getU8 payload 130 = .ok info.uri.val.length :=
      getUint_iff.mpr ⟨by rw [beBytes_one]; exact huriLength, huri_lt⟩
    have hstart : 163 + info.uri.val.length = 131 + info.uri.val.length + 32 := by omega
    rw [hstart] at hrecipient
    have hto : 165 + info.uri.val.length = 163 + info.uri.val.length + 2 := by omega
    rw [hto] at hrecipientChain
    rw [TransferInfo.deserialize, getConstBytes_iff.mpr hnftAddress, Go.ok_bind, getU16_iff.mpr hnftChain,
      Go.ok_bind, getConstBytes_iff.mpr hsymbol, Go.ok_bind, getConstBytes_iff.mpr hname, Go.ok_bind,
      getConstBytes_iff.mpr htokenId, Go.ok_bind, huriLength, Go.ok_bind, getBytes_eq_ok.mpr huri, Go.ok_bind,
      getConstBytes_iff.mpr hrecipient, Go.ok_bind, getU16_iff.mpr hrecipientChain, Go.ok_bind,
      (ensure_eq_ok (u := ())).mpr hlength, Go.ok_bind, boundedVec_new_eq_ok.mpr rfl, Go.ok_bind, UInt16.ofNat_toNat,
      UInt16.ofNat_toNat]
    rfl

theorem parseTransferMessage_iff : parseTransferMessage payload = .ok info ↔ payload = transferMessage info := by
  constructor
  · intro h
    obtain ⟨⟨action, rest⟩, hmessage, h⟩ := Go.bind_eq_ok.mp h
    obtain ⟨action', hu8, hmessage⟩ := Go.bind_eq_ok.mp hmessage
    obtain ⟨rest', hrest, hmessage⟩ := Go.bind_eq_ok.mp hmessage
    cases hmessage
    obtain ⟨u, haction, h⟩ := Go.bind_eq_ok.mp h
    rw [ensure_eq_ok.mp haction] at hu8
    obtain rfl := deserialize_iff.mp h
    have hrest := getRest_iff.mp hrest
    have hlength := slice?_length hrest
    obtain ⟨hle, -, -⟩ := slice?_eq_some.mp hrest
    have hend : 1 + info.serialize.length = payload.length := by omega
    have hfields : Fields payload 0 [beBytes 1 1, info.serialize] := by
      refine ⟨(getUint_iff.mp hu8).1, ?_, hend⟩
      show slice? payload 1 (1 + info.serialize.length) = some info.serialize
      rw [hend]
      exact hrest
    rw [fields_iff_flatten, List.flatten_cons, List.flatten_cons, List.flatten_nil, List.append_nil] at hfields
    exact hfields
  · rintro rfl
    have haction : getU8 (transferMessage info) 0 = .ok 1 :=
      getUint_iff.mpr ⟨slice?_head (beBytes_length 1 1) _, by decide⟩
    have hrest : getRest (transferMessage info) 1 = .ok info.serialize :=
      getRest_iff.mpr (slice?_suffix rfl (beBytes_length 1 1).symm)
    rw [parseTransferMessage, TokenBridgeMessage.deserialize, haction, Go.ok_bind, hrest, Go.ok_bind]
    exact deserialize_iff.mpr rfl

/-- A message carries one transfer. -/
theorem transferMessage_injective : Function.Injective transferMessage := by
  intro info info' h
  have hinfo : parseTransferMessage (transferMessage info) = .ok info := parseTransferMessage_iff.mpr rfl
  have hinfo' : parseTransferMessage (transferMessage info) = .ok info' := parseTransferMessage_iff.mpr h
  exact Go.ok.inj (hinfo.symm.trans hinfo')

end Wormhole.Terra.NftBridge

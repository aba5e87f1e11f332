/-
# Wormhole.GovernancePayloads — the node's governance payloads, read by three contracts.

What the Go `Serialize` functions write, against the decoders of the EVM, the Solana and the Alephium
contracts.  Guardian set updates and registrations with the token bridge are read by all three, those with
the NFT bridge by the two chains that have one.  An upgrade names one chain: the EVM decoders read every
one (that of the core contract keeps the last 20 bytes of the address), the Solana decoders refuse those for
other chains, and the Alephium contracts have no such action.
-/
import Mathlib
import Wormhole.Lib.Bytes
import Wormhole.Lib.Failing
import Wormhole.Lib.Loop
import Wormhole.Lib.Reader
import Wormhole.Alephium.Rotation
import Wormhole.Alephium.TokenBridge
import Wormhole.Ethereum.Bridge
import Wormhole.Ethereum.Governance
import Wormhole.Ethereum.NFTBridge
import Wormhole.Ethereum.Verification
import Wormhole.GovernanceHeader
import Wormhole.Guardian.Governance
import Wormhole.Solana.NftBridge
import Wormhole.Solana.Payloads

namespace Wormhole.GovernancePayloads

open Wormhole.Lib Wormhole.Lib.Bytes Wormhole.Guardian

/-! ## The payloads behind their headers -/

def coreModule : FixedBytes 32 := ⟨CoreModule, rfl⟩

def bridgeModule : FixedBytes 32 := ⟨Ethereum.Bridge.module, rfl⟩

def nftModule : FixedBytes 32 := ⟨Ethereum.NFTBridge.module, rfl⟩

/-- "TokenBridge" -/
def bridgeName : List UInt8 := Solana.TokenBridge.MODULE

/-- "NFTBridge" -/
def nftName : List UInt8 := Solana.NftBridge.MODULE

theorem coreName_length : Solana.MODULE.length ≤ 32 := by decide

theorem bridgeName_length : bridgeName.length ≤ 32 := by decide

theorem nftName_length : nftName.length ≤ 32 := by decide

theorem coreModule_eq : coreModule.val = Solana.padModule Solana.MODULE := rfl

theorem bridgeModule_eq : bridgeModule.val = Solana.padModule bridgeName := rfl

theorem nftModule_eq : nftModule.val = Solana.padModule nftName := rfl

def upgradePayload (b : BodyContractUpgrade) : List UInt8 :=
  GovernanceHeader.payload coreModule 1 b.chainID b.newContract.val

theorem upgrade_serialize (b : BodyContractUpgrade) : b.serialize = upgradePayload b := rfl

/-- The fields of a set update: the index, the number of keys and the keys. -/
def setFields (b : BodyGuardianSetUpdate) : List UInt8 :=
  beBytes 4 b.newIndex.toNat ++ (beBytes 1 b.keys.length ++ b.keys.flatMap Subtype.val)

def updatePayload (b : BodyGuardianSetUpdate) : List UInt8 :=
  GovernanceHeader.payload coreModule 2 0 (setFields b)

theorem update_serialize (b : BodyGuardianSetUpdate) : b.serialize = updatePayload b := rfl

/-- The fields of a registration. -/
def registerFields (r : BodyTokenBridgeRegisterChain) : List UInt8 :=
  beBytes 2 r.chainID.toNat ++ r.emitterAddress.val

/-- The payload of a registration with a bridge. -/
def registerPayload (header : FixedBytes 32) (r : BodyTokenBridgeRegisterChain) : List UInt8 :=
  GovernanceHeader.payload header 1 0 (registerFields r)

theorem register_serialize {header : FixedBytes 32} {r : BodyTokenBridgeRegisterChain}
    (hlength : r.module'.length ≤ 32) (hheader : header.val = Solana.padModule r.module') :
    r.serialize = .ok (registerPayload header r) := by
  refine BodyTokenBridgeRegisterChain.serialize_eq_ok.mpr ⟨hlength, ?_⟩
  rw [registerPayload, GovernanceHeader.payload, hheader]
  rfl

/-- The payload of an upgrade of a bridge. -/
def bridgeUpgradePayload (header : FixedBytes 32) (b : BodyTokenBridgeUpgradeContract) : List UInt8 :=
  GovernanceHeader.payload header 2 b.targetChainID b.newContract.val

theorem bridgeUpgrade_serialize {header : FixedBytes 32} {b : BodyTokenBridgeUpgradeContract}
    (hlength : b.module'.length ≤ 32) (hheader : header.val = Solana.padModule b.module') :
    b.serialize = .ok (bridgeUpgradePayload header b) := by
  refine BodyTokenBridgeUpgradeContract.serialize_eq_ok.mpr ⟨hlength, ?_⟩
  rw [bridgeUpgradePayload, GovernanceHeader.payload, hheader]
  rfl

/-! ## Contract upgrades -/

section Upgrade

variable (b : BodyContractUpgrade)

/-- The EVM contract keeps the last 20 bytes of the address. -/
theorem ethereum_upgrade : Ethereum.Governance.parseContractUpgrade (upgradePayload b) = .ok {
    module' := CoreModule, chain := b.chainID.toNat,
    newContract := Ethereum.Word.toAddress b.newContract } := by
  have hlength : (upgradePayload b).length = 67 := b.serialize_length
  have hmodule : Ethereum.toBytes32 (upgradePayload b) 0 = .ok CoreModule :=
    GovernanceHeader.toBytes32_module ..
  have haction : Ethereum.toUint8 (upgradePayload b) 32 = .ok 1 := GovernanceHeader.toUint8_action ..
  have hchain : Ethereum.toUint16 (upgradePayload b) 33 = .ok b.chainID.toNat :=
    GovernanceHeader.toUint16_chain ..
  have hcontract : Ethereum.toWord "toBytes32_outOfBounds" (upgradePayload b) 35 = .ok b.newContract := by
    have hslice : slice? (upgradePayload b) 35 (upgradePayload b).length = some b.newContract.val :=
      GovernanceHeader.slice_all ..
    rw [hlength] at hslice
    exact Ethereum.toWord_eq_ok.mpr hslice
  simp only [Ethereum.Governance.parseContractUpgrade, hmodule, haction, hchain, hcontract,
    Ethereum.require_true hlength, Ethereum.require_true, Failing.ok_bind]
  rfl

/-- A header for another chain is refused. -/
theorem solana_otherChain {name : List UInt8} {action : Nat} {chain : UInt16} {rest : List UInt8}
    (hname : name.length ≤ 32) (haction : action < 256)
    (hchain : ¬(chain.toNat = Solana.CHAIN_ID_SOLANA ∨ chain.toNat = 0)) :
    (Solana.checkGovernanceHeader name action).run
      (Solana.padModule name ++ (beBytes 1 action ++ (beBytes 2 chain.toNat ++ rest))) =
      .error Solana.Error.invalidGovernanceChain.into := by
  have hmodule : (Solana.padModule name).length = 32 := by
    rw [Solana.padModule, List.length_append, List.length_replicate, Nat.sub_add_cancel hname]
  have hread : (Solana.readExact 32).run
      (Solana.padModule name ++ (beBytes 1 action ++ (beBytes 2 chain.toNat ++ rest))) =
      .ok (⟨Solana.padModule name, hmodule⟩, beBytes 1 action ++ (beBytes 2 chain.toNat ++ rest)) :=
    Reader.array_append ⟨Solana.padModule name, hmodule⟩
  simp only [Solana.checkGovernanceHeader, Solana.readU8, Solana.readU16, Reader.bind_run, hread,
    Failing.ok_bind, Reader.check_true rfl, Reader.number_append (show action < 256 ^ 1 from haction),
    Reader.number_append (toNat_lt_uint16 chain), Reader.check_false hchain]

/-- An upgrade behind its header is read when it is for Solana or for no chain. -/
theorem solana_upgradeBehind {header : FixedBytes 32} {name : List UInt8} (action : UInt8)
    (hname : name.length ≤ 32) (hheader : header.val = Solana.padModule name) (chain : UInt16)
    (newContract : FixedBytes 32) {α : Type} (f : FixedBytes 32 → α) :
    Reader.decode (do
        Solana.checkGovernanceHeader name action.toNat
        let newContract ← Solana.readExact 32
        Solana.atEnd
        return f newContract)
      (GovernanceHeader.payload header action chain newContract.val) =
    if chain.toNat = Solana.CHAIN_ID_SOLANA ∨ chain.toNat = 0 then .ok (f newContract)
    else .error Solana.Error.invalidGovernanceChain.into := by
  rw [GovernanceHeader.payload, hheader, ← beBytes_uint8 action]
  by_cases hchain : chain.toNat = Solana.CHAIN_ID_SOLANA ∨ chain.toNat = 0
  · rw [if_pos hchain, Solana.decode_header hname action.toNat_lt hchain]
    simp only [Reader.decode, Solana.readExact, Solana.atEnd, Reader.bind_run, Reader.array_end,
      Reader.finished_nil, Failing.ok_bind]
    rfl
  · rw [if_neg hchain, Reader.decode, Reader.bind_run, solana_otherChain hname action.toNat_lt hchain]
    rfl

/-- The core contract on Solana reads the upgrades for Solana or for no chain. -/
theorem solana_upgrade : Solana.GovernancePayloadUpgrade.deserialize (upgradePayload b) =
    if b.chainID.toNat = Solana.CHAIN_ID_SOLANA ∨ b.chainID.toNat = 0 then .ok ⟨b.newContract⟩
    else .error Solana.Error.invalidGovernanceChain.into :=
  solana_upgradeBehind 1 coreName_length coreModule_eq b.chainID b.newContract
    Solana.GovernancePayloadUpgrade.mk

end Upgrade

/-! ## Upgrades of the bridges -/

section BridgeUpgrade

variable (b : BodyTokenBridgeUpgradeContract)

/-- Both EVM bridges read the upgrades of their module, with the whole word. -/
theorem ethereum_bridgeUpgrade (header : FixedBytes 32) :
    Ethereum.parseUpgradeContract header.val (bridgeUpgradePayload header b) =
      .ok ⟨b.targetChainID.toNat, b.newContract⟩ := by
  have hlength : (bridgeUpgradePayload header b).length = 67 := by
    rw [bridgeUpgradePayload, GovernanceHeader.payload_length, b.newContract.property]
  have hmodule : Ethereum.toBytes32 (bridgeUpgradePayload header b) 0 = .ok header.val :=
    GovernanceHeader.toBytes32_module ..
  have haction : Ethereum.toUint8 (bridgeUpgradePayload header b) 32 = .ok 2 :=
    GovernanceHeader.toUint8_action ..
  have hchain : Ethereum.toUint16 (bridgeUpgradePayload header b) 33 = .ok b.targetChainID.toNat :=
    GovernanceHeader.toUint16_chain ..
  have hcontract : Ethereum.toWord "toBytes32_outOfBounds" (bridgeUpgradePayload header b) 35 =
      .ok b.newContract := by
    have hslice : slice? (bridgeUpgradePayload header b) 35 (bridgeUpgradePayload header b).length =
        some b.newContract.val := GovernanceHeader.slice_all ..
    rw [hlength] at hslice
    exact Ethereum.toWord_eq_ok.mpr hslice
  simp only [Ethereum.parseUpgradeContract, hmodule, haction, hchain, hcontract,
    Ethereum.require_true hlength, Ethereum.require_true, Failing.ok_bind]
  rfl

/-- The token bridge on Solana reads the upgrades for Solana or for no chain. -/
theorem solana_tokenUpgrade :
    Solana.TokenBridge.GovernancePayloadUpgrade.deserialize (bridgeUpgradePayload bridgeModule b) =
      if b.targetChainID.toNat = Solana.CHAIN_ID_SOLANA ∨ b.targetChainID.toNat = 0 then
        .ok ⟨b.newContract⟩
      else .error Solana.Error.invalidGovernanceChain.into :=
  solana_upgradeBehind 2 bridgeName_length bridgeModule_eq b.targetChainID b.newContract
    Solana.TokenBridge.GovernancePayloadUpgrade.mk

/-- So does the NFT bridge. -/
theorem solana_nftUpgrade :
    Solana.NftBridge.GovernancePayloadUpgrade.deserialize (bridgeUpgradePayload nftModule b) =
      if b.targetChainID.toNat = Solana.CHAIN_ID_SOLANA ∨ b.targetChainID.toNat = 0 then
        .ok ⟨b.newContract⟩
      else .error Solana.Error.invalidGovernanceChain.into :=
  solana_upgradeBehind 2 nftName_length nftModule_eq b.targetChainID b.newContract
    Solana.NftBridge.GovernancePayloadUpgrade.mk

end BridgeUpgrade

/-! ## Registrations -/

section Register

variable (header : FixedBytes 32) (r : BodyTokenBridgeRegisterChain)

theorem registerPayload_length : (registerPayload header r).length = 69 := by
  simp [registerPayload, GovernanceHeader.payload_length, registerFields, r.emitterAddress.property]

theorem register_chain : slice? (registerPayload header r) 35 37 = some (beBytes 2 r.chainID.toNat) :=
  (GovernanceHeader.slice_rest _ _ _ _ 0 2).trans (slice?_head (beBytes_length ..) _)

theorem register_address : slice? (registerPayload header r) 37 69 = some r.emitterAddress.val := by
  have hslice : slice? (registerFields r) 2 (registerFields r).length = some r.emitterAddress.val :=
    slice?_suffix rfl (beBytes_length ..).symm
  have hlen : (registerFields r).length = 34 := by
    simp [registerFields, r.emitterAddress.property]
  rw [hlen] at hslice
  exact (GovernanceHeader.slice_rest _ _ _ _ 2 34).trans hslice

/-- What the readers of both EVM bridges find in a registration. -/
theorem ethereum_readers : Ethereum.toBytes32 (registerPayload header r) 0 = .ok header.val ∧
    Ethereum.toUint8 (registerPayload header r) 32 = .ok 1 ∧
    Ethereum.toUint16 (registerPayload header r) 33 = .ok 0 ∧
    Ethereum.toUint16 (registerPayload header r) 35 = .ok r.chainID.toNat ∧
    Ethereum.toWord "toBytes32_outOfBounds" (registerPayload header r) 37 = .ok r.emitterAddress := by
  refine ⟨GovernanceHeader.toBytes32_module .., GovernanceHeader.toUint8_action ..,
    GovernanceHeader.toUint16_chain .., ?_, Ethereum.toWord_eq_ok.mpr (register_address header r)⟩
  rw [← beNat_beBytes (toNat_lt_uint16 r.chainID)]
  exact Ethereum.toUint_ok (register_chain header r)

theorem ethereum_register : Ethereum.Bridge.parseRegisterChain (registerPayload bridgeModule r) =
    .ok ⟨0, r.chainID.toNat, r.emitterAddress⟩ := by
  obtain ⟨hmodule, haction, htarget, hchain, haddress⟩ := ethereum_readers bridgeModule r
  simp only [Ethereum.Bridge.parseRegisterChain, hmodule, haction, htarget, hchain, haddress,
    Ethereum.require_true (registerPayload_length bridgeModule r),
    Ethereum.require_true (show bridgeModule.val = Ethereum.Bridge.module from rfl), Ethereum.require_true,
    Failing.ok_bind]
  rfl

theorem ethereum_nftRegister : Ethereum.NFTBridge.parseRegisterChain (registerPayload nftModule r) =
    .ok ⟨0, r.chainID.toNat, r.emitterAddress⟩ := by
  obtain ⟨hmodule, haction, htarget, hchain, haddress⟩ := ethereum_readers nftModule r
  simp only [Ethereum.NFTBridge.parseRegisterChain, hmodule, haction, htarget, hchain, haddress,
    Ethereum.require_true (registerPayload_length nftModule r),
    Ethereum.require_true (show nftModule.val = Ethereum.NFTBridge.module from rfl), Ethereum.require_true,
    Failing.ok_bind]
  rfl

/-- A registration behind its header, which is for every chain. -/
theorem solana_registerBehind {name : List UInt8} (hname : name.length ≤ 32)
    (hheader : header.val = Solana.padModule name) {α : Type} (f : Nat → FixedBytes 32 → α) :
    Reader.decode (do
        Solana.checkGovernanceHeader name 1
        let chain ← Solana.readU16
        let endpointAddress ← Solana.readExact 32
        Solana.atEnd
        return f chain endpointAddress)
      (registerPayload header r) = .ok (f r.chainID.toNat r.emitterAddress) := by
  have hpayload : registerPayload header r =
      Solana.padModule name ++ (beBytes 1 1 ++ (beBytes 2 0 ++ registerFields r)) := by
    rw [registerPayload, GovernanceHeader.payload, hheader]
    rfl
  rw [hpayload, Solana.decode_header hname (by decide) (.inr rfl)]
  simp only [Reader.decode, registerFields, Solana.readU16, Solana.readExact, Solana.atEnd, Reader.bind_run,
    Reader.number_append (toNat_lt_uint16 r.chainID), Reader.array_end, Reader.finished_nil, Failing.ok_bind]
  rfl

theorem solana_register :
    Solana.TokenBridge.PayloadGovernanceRegisterChain.deserialize (registerPayload bridgeModule r) =
      .ok ⟨r.chainID.toNat, r.emitterAddress⟩ :=
  solana_registerBehind bridgeModule r bridgeName_length bridgeModule_eq
    Solana.TokenBridge.PayloadGovernanceRegisterChain.mk

theorem solana_nftRegister :
    Solana.NftBridge.PayloadGovernanceRegisterChain.deserialize (registerPayload nftModule r) =
      .ok ⟨r.chainID.toNat, r.emitterAddress⟩ :=
  solana_registerBehind nftModule r nftName_length nftModule_eq
    Solana.NftBridge.PayloadGovernanceRegisterChain.mk

open Alephium Alephium.Vm in
/-- The Alephium contract registers other chains only. -/
theorem alephium_register {distance : Nat} {s s' : TokenBridge.State} {msg : Governance.Body}
    (hverify : TokenBridge.verifyGovernanceVAA distance s msg = some (s', registerPayload bridgeModule r)) :
    TokenBridge.parseRegisterChain distance s msg =
      if r.chainID.toNat ≠ s'.localChainId then some (s', r.chainID.toNat, r.emitterAddress.val) else none := by
  have hcheck : TokenBridge.checkModuleAndAction (registerPayload bridgeModule r) 0 [0x01] = some () :=
    GovernanceHeader.checkModuleAndAction_bridge _ _ _ _ rfl
  have htarget : byteVecSlice (registerPayload bridgeModule r) 33 35 = some (beBytes 2 0) :=
    GovernanceHeader.byteVecSlice_chain ..
  have hzero : u256From2Byte (beBytes 2 0) = some 0 := u256FromBytes_beBytes (by decide)
  have hany : 0 = s'.localChainId ∨ True := .inr trivial
  have hchain : byteVecSlice (registerPayload bridgeModule r) 35 37 = some (beBytes 2 r.chainID.toNat) :=
    register_chain bridgeModule r
  have hchainId : u256From2Byte (beBytes 2 r.chainID.toNat) = some r.chainID.toNat :=
    u256FromBytes_beBytes (toNat_lt_uint16 r.chainID)
  have haddress : byteVecSlice (registerPayload bridgeModule r) 37 69 = some r.emitterAddress.val :=
    register_address bridgeModule r
  simp only [TokenBridge.parseRegisterChain, hverify, hcheck, htarget, hzero, assert_true hany, hchain,
    hchainId, haddress, assert_true (registerPayload_length bridgeModule r), some_bind, Option.pure_def]
  by_cases hlocal : r.chainID.toNat ≠ s'.localChainId
  · rw [assert_true hlocal, some_bind, if_pos hlocal]
  · rw [assert_false hlocal, none_bind, if_neg hlocal]

end Register

/-! ## Guardian set updates -/

section Update

/-- The keys of a set, one after another. -/
theorem keys_split {keys : List EthAddress} {i : Nat} (h : i < keys.length) :
    slice? (keys.flatMap Subtype.val) (20 * i) (20 * i + 20) = some keys[i].val := by
  have hsplit : keys.flatMap Subtype.val = (keys.take i).flatMap Subtype.val ++
      (keys[i].val ++ (keys.drop (i + 1)).flatMap Subtype.val) := by
    rw [← List.flatMap_cons, ← List.drop_eq_getElem_cons h, ← List.flatMap_append, List.take_append_drop]
  refine slice?_mid hsplit ?_ (by rw [keys[i].property])
  rw [flatMap_val_length, List.length_take_of_le h.le]

variable (b : BodyGuardianSetUpdate)

theorem update_length : (updatePayload b).length = 40 + 20 * b.keys.length := b.serialize_length

theorem update_index : slice? (updatePayload b) 35 39 = some (beBytes 4 b.newIndex.toNat) :=
  (GovernanceHeader.slice_rest _ _ _ _ 0 4).trans (slice?_head (beBytes_length ..) _)

theorem update_count : slice? (updatePayload b) 39 40 = some (beBytes 1 b.keys.length) :=
  (GovernanceHeader.slice_rest _ _ _ _ 4 5).trans
    (slice?_mid rfl (beBytes_length ..).symm (by rw [beBytes_length]))

theorem update_key {i : Nat} (h : i < b.keys.length) :
    slice? (updatePayload b) (40 + 20 * i) (40 + 20 * i + 20) = some b.keys[i].val := by
  have hfields : slice? (setFields b) (5 + 20 * i) (5 + (20 * i + 20)) = some b.keys[i].val := by
    have hsplit : setFields b = (beBytes 4 b.newIndex.toNat ++ beBytes 1 b.keys.length) ++
        b.keys.flatMap Subtype.val := by
      rw [setFields, List.append_assoc]
    rw [hsplit]
    exact (slice?_skip (by simp) _ _ _).trans (keys_split h)
  have hslice := GovernanceHeader.slice_rest coreModule 2 0 (setFields b) (5 + 20 * i) (5 + (20 * i + 20))
  rw [hfields] at hslice
  rw [show 40 + 20 * i = 35 + (5 + 20 * i) by omega, Nat.add_assoc 35, Nat.add_assoc 5]
  exact hslice

/-- The key loop of the EVM contract. -/
theorem parseKeys_update {i : Nat} (n : Nat) (h : i + n = b.keys.length) :
    Ethereum.Governance.parseKeys (updatePayload b) n (40 + 20 * i) = .ok (b.keys.drop i) := by
  induction n generalizing i with
  | zero =>
    rw [Ethereum.Governance.parseKeys, List.drop_eq_nil_of_le (by omega)]
  | succ n ih =>
    have hi : i < b.keys.length := by omega
    have hkey : Ethereum.Governance.toAddress (updatePayload b) (40 + 20 * i) = .ok b.keys[i] := by
      rw [Ethereum.Governance.toAddress, Ethereum.readBytes_ok (update_key b hi)]
      simp only [b.keys[i].property, dite_true]
    have hrest := ih (show i + 1 + n = b.keys.length by omega)
    rw [show 40 + 20 * (i + 1) = 40 + 20 * i + 20 by omega] at hrest
    rw [Ethereum.Governance.parseKeys, hkey, Failing.ok_bind, hrest, Failing.ok_bind,
      List.drop_eq_getElem_cons hi]
    rfl

theorem ethereum_update (hkeys : b.keys.length < 256) :
    Ethereum.Governance.parseGuardianSetUpgrade (updatePayload b) = .ok {
      module' := CoreModule, chain := 0, newGuardianSet := { keys := b.keys, expirationTime := 0 },
      newGuardianSetIndex := b.newIndex.toNat } := by
  have hmodule : Ethereum.toBytes32 (updatePayload b) 0 = .ok CoreModule :=
    GovernanceHeader.toBytes32_module ..
  have haction : Ethereum.toUint8 (updatePayload b) 32 = .ok 2 := GovernanceHeader.toUint8_action ..
  have hchain : Ethereum.toUint16 (updatePayload b) 33 = .ok 0 := GovernanceHeader.toUint16_chain ..
  have hindex : Ethereum.toUint32 (updatePayload b) 35 = .ok b.newIndex.toNat := by
    rw [← beNat_beBytes (toNat_lt_uint32 b.newIndex)]
    exact Ethereum.toUint_ok (update_index b)
  have hcount : Ethereum.toUint8 (updatePayload b) 39 = .ok b.keys.length := by
    rw [← beNat_beBytes (show b.keys.length < 256 ^ 1 from hkeys)]
    exact Ethereum.toUint_ok (update_count b)
  have hparse : Ethereum.Governance.parseKeys (updatePayload b) b.keys.length 40 = .ok b.keys :=
    parseKeys_update b b.keys.length (Nat.zero_add _)
  simp only [Ethereum.Governance.parseGuardianSetUpgrade, hmodule, haction, hchain, hindex, hcount, hparse,
    Ethereum.require_true (update_length b), Ethereum.require_true, Failing.ok_bind]
  rfl

theorem solana_update (hkeys : b.keys.length < 256) :
    Solana.GovernancePayloadGuardianSetChange.deserialize (updatePayload b) =
      .ok ⟨b.newIndex.toNat, b.keys⟩ := by
  have hread : (Reader.replicate (Solana.read 20) b.keys.length).run (b.keys.flatMap Subtype.val) =
      .ok (b.keys, []) := by
    have h : (Reader.replicate (Solana.read 20) b.keys.length).run (b.keys.flatMap Subtype.val ++ []) =
        .ok (b.keys, []) := Reader.replicate_append (fun _ _ => Reader.upTo_append _) b.keys
    rwa [List.append_nil] at h
  show Reader.decode (do Solana.checkGovernanceHeader Solana.MODULE 2; _)
    (Solana.padModule Solana.MODULE ++ (beBytes 1 2 ++ (beBytes 2 0 ++ setFields b))) = _
  rw [Solana.decode_header (by decide) (by decide) (.inr rfl)]
  simp only [Reader.decode, setFields, Solana.readU32, Solana.readU8, Solana.atEnd, Reader.bind_run,
    Reader.number_append (toNat_lt_uint32 b.newIndex),
    Reader.number_append (show b.keys.length < 256 ^ 1 from hkeys), hread, Reader.finished_nil,
    Failing.ok_bind]
  rfl

open Loop Alephium.Vm Alephium.Governance

/-- The slots of the Alephium contract after an update: the keys, then fillers. -/
def alephiumKeys (keys : List EthAddress) (i : Fin 19) : ByteVec :=
  (keys[i.val]?.map Subtype.val).getD [0x00]

theorem slot_update : slot (updatePayload b) b.keys.length = alephiumKeys b.keys := by
  funext i
  unfold slot alephiumKeys
  split
  · rename_i hi
    obtain ⟨-, -, hkey⟩ := slice?_eq_some.mp (update_key b hi)
    rw [Nat.add_sub_cancel_left] at hkey
    rw [hkey, List.getElem?_eq_getElem hi]
    rfl
  · rename_i hi
    rw [List.getElem?_eq_none (Nat.le_of_not_lt hi)]
    rfl

/-- A round of the reading loop of `updateGuardianSet`. -/
def readRound (payload : ByteVec) (size : Nat) (i : Fin 19) :
    Nat × (Fin 19 → ByteVec) → Option (Nat × (Fin 19 → ByteVec))
  | (index, keys) =>
    if i.val < size then do
      let key ← byteVecSlice payload index (index + 20)
      return (index + 20, Function.update keys i key)
    else
      return (index, Function.update keys i [0x00])

theorem loop_update (hkeys : b.keys.length ≤ 19) (keys₀ : Fin 19 → ByteVec) :
    loop 19 (readRound (updatePayload b) b.keys.length) (40, keys₀) =
      some (40 + 20 * b.keys.length, alephiumKeys b.keys) := by
  have hround : ∀ (i : Fin 19) (st : Nat × (Fin 19 → ByteVec)), st.1 = 40 + 20 * min i.val b.keys.length →
      ∃ st', readRound (updatePayload b) b.keys.length i st = some st' ∧
        st'.1 = 40 + 20 * min (i.val + 1) b.keys.length := by
    rintro i ⟨index, keys⟩ hindex
    by_cases hi : i.val < b.keys.length
    · dsimp only at hindex
      rw [Nat.min_eq_left hi.le] at hindex
      have hkey : byteVecSlice (updatePayload b) index (index + 20) = some b.keys[i.val].val := by
        rw [hindex]
        exact update_key b hi
      refine ⟨(index + 20, Function.update keys i b.keys[i.val].val), ?_, ?_⟩
      · rw [readRound, if_pos hi, hkey]
        rfl
      · show index + 20 = _
        omega
    · refine ⟨(index, Function.update keys i [0x00]), ?_, ?_⟩
      · rw [readRound, if_neg hi]
        rfl
      · show index = _
        dsimp only at hindex
        omega
  obtain ⟨⟨index, keys⟩, hloop, -⟩ := loop_total
    (fun k (st : Nat × (Fin 19 → ByteVec)) => st.1 = 40 + 20 * min k b.keys.length)
    (show (40, keys₀).1 = 40 + 20 * min 0 b.keys.length by rw [Nat.zero_min]) hround
  obtain ⟨rfl, rfl⟩ := readKeys hkeys hloop
  rw [hloop, slot_update]

/-- The state after an update of the guardian set. -/
def updated (s : Alephium.Governance.State) : Alephium.Governance.State :=
  haveI := neZero_two
  { s with
    guardianSets := Function.update s.guardianSets 1 (alephiumKeys b.keys)
    guardianSetIndexes := Function.update s.guardianSetIndexes 1 b.newIndex.toNat
    guardianSetSizes := Function.update s.guardianSetSizes 1 b.keys.length }

/-- **The Alephium contract executes an update to the next index.** -/
theorem alephium_update (hpos : 1 ≤ b.keys.length) (hkeys : b.keys.length ≤ 19)
    {crypto : Alephium.Governance.Crypto} {distance now : Nat} {s s₁ s₂ : Alephium.Governance.State} {vaa : ByteVec}
    (hprevious : updatePreviousGuardianSet s now = some s₁)
    (hverify : verifyGovernanceVAA crypto distance s₁ now vaa = some (s₂, updatePayload b))
    (hnext : b.newIndex.toNat = s₂.guardianSetIndexes 1 + 1) :
    updateGuardianSet crypto distance s now vaa = some (updated b s₂) := by
  have hcheck : checkModuleAndAction (updatePayload b) 0 [0x02] = some () :=
    GovernanceHeader.checkModuleAndAction_core _ _ _ _ rfl
  have htarget : byteVecSlice (updatePayload b) 33 35 = some (beBytes 2 0) :=
    GovernanceHeader.byteVecSlice_chain ..
  have hzero : u256From2Byte (beBytes 2 0) = some 0 := u256FromBytes_beBytes (by decide)
  have hany : 0 = s₂.chainId ∨ True := .inr trivial
  have hindexSlice : byteVecSlice (updatePayload b) 35 39 = some (beBytes 4 b.newIndex.toNat) := update_index b
  have hindex : u256From4Byte (beBytes 4 b.newIndex.toNat) = some b.newIndex.toNat :=
    u256FromBytes_beBytes (toNat_lt_uint32 b.newIndex)
  have hadd : some b.newIndex.toNat = U256.add (s₂.guardianSetIndexes 1) 1 := by
    have hlt := toNat_lt_uint32 b.newIndex
    rw [hnext] at hlt ⊢
    exact (U256.add_of_lt (hlt.trans (by decide))).symm
  have hcountSlice : byteVecSlice (updatePayload b) 39 40 = some (beBytes 1 b.keys.length) := update_count b
  have hcount : u256From1Byte (beBytes 1 b.keys.length) = some b.keys.length :=
    u256FromBytes_beBytes (show b.keys.length < 256 ^ 1 by omega)
  have hsize : b.keys.length > 0 ∧ b.keys.length ≤ 19 := ⟨hpos, hkeys⟩
  have hloop := loop_update b hkeys (s₂.guardianSets 1)
  rw [updateGuardianSet, hprevious, some_bind, hverify, some_bind]
  dsimp only
  rw [hcheck, some_bind, htarget, some_bind, hzero, some_bind, assert_true (.inr rfl), some_bind, hindexSlice,
    some_bind, hindex, some_bind, assert_true hadd, some_bind, hcountSlice, some_bind, hcount, some_bind,
    assert_true hsize, some_bind]
  refine Option.bind_eq_some_iff.mpr ⟨_, hloop, ?_⟩
  dsimp only
  rw [assert_true (update_length b), some_bind]
  rfl

end Update

/-! ## What the contracts read -/

open Alephium Alephium.Vm in
/-- **The governance payloads of the node.** Set updates of 1 to 19 keys are read by the three contracts,
the Alephium contract executes them when the index is the next one.  Contract upgrades are read on the EVM,
with the address cut to 20 bytes, and on Solana when they are for Solana or for no chain.  Registrations with
the token bridge are read by the three contracts, on Alephium those of other chains; registrations with the
NFT bridge by the two contracts that there are.  Upgrades of either bridge are read on the EVM, and on Solana
when they are for Solana or for no chain. -/
theorem governancePayloads_read :
    (∀ b : BodyGuardianSetUpdate, 1 ≤ b.keys.length → b.keys.length ≤ 19 →
      Ethereum.Governance.parseGuardianSetUpgrade b.serialize = .ok {
        module' := CoreModule, chain := 0, newGuardianSet := { keys := b.keys, expirationTime := 0 },
        newGuardianSetIndex := b.newIndex.toNat } ∧
      Solana.GovernancePayloadGuardianSetChange.deserialize b.serialize = .ok ⟨b.newIndex.toNat, b.keys⟩ ∧
      ∀ (crypto : Governance.Crypto) (distance now : Nat) (s s₁ s₂ : Governance.State) (vaa : ByteVec),
        Governance.updatePreviousGuardianSet s now = some s₁ →
        Governance.verifyGovernanceVAA crypto distance s₁ now vaa = some (s₂, b.serialize) →
        b.newIndex.toNat = s₂.guardianSetIndexes 1 + 1 →
        Governance.updateGuardianSet crypto distance s now vaa = some (updated b s₂)) ∧
    (∀ b : BodyContractUpgrade,
      Ethereum.Governance.parseContractUpgrade b.serialize = .ok {
        module' := CoreModule, chain := b.chainID.toNat,
        newContract := Ethereum.Word.toAddress b.newContract } ∧
      Solana.GovernancePayloadUpgrade.deserialize b.serialize =
        if b.chainID.toNat = Solana.CHAIN_ID_SOLANA ∨ b.chainID.toNat = 0 then .ok ⟨b.newContract⟩
        else .error Solana.Error.invalidGovernanceChain.into) ∧
    (∀ r : BodyTokenBridgeRegisterChain, r.module' = bridgeName → ∃ bytes, r.serialize = .ok bytes ∧
      Ethereum.Bridge.parseRegisterChain bytes = .ok ⟨0, r.chainID.toNat, r.emitterAddress⟩ ∧
      Solana.TokenBridge.PayloadGovernanceRegisterChain.deserialize bytes =
        .ok ⟨r.chainID.toNat, r.emitterAddress⟩ ∧
      ∀ (distance : Nat) (s s' : TokenBridge.State) (msg : Governance.Body),
        TokenBridge.verifyGovernanceVAA distance s msg = some (s', bytes) →
        TokenBridge.parseRegisterChain distance s msg =
          if r.chainID.toNat ≠ s'.localChainId then some (s', r.chainID.toNat, r.emitterAddress.val)
          else none) ∧
    (∀ r : BodyTokenBridgeRegisterChain, r.module' = nftName → ∃ bytes, r.serialize = .ok bytes ∧
      Ethereum.NFTBridge.parseRegisterChain bytes = .ok ⟨0, r.chainID.toNat, r.emitterAddress⟩ ∧
      Solana.NftBridge.PayloadGovernanceRegisterChain.deserialize bytes =
        .ok ⟨r.chainID.toNat, r.emitterAddress⟩) ∧
    (∀ b : BodyTokenBridgeUpgradeContract, b.module' = bridgeName → ∃ bytes, b.serialize = .ok bytes ∧
      Ethereum.Bridge.parseUpgrade bytes = .ok ⟨b.targetChainID.toNat, b.newContract⟩ ∧
      Solana.TokenBridge.GovernancePayloadUpgrade.deserialize bytes =
        if b.targetChainID.toNat = Solana.CHAIN_ID_SOLANA ∨ b.targetChainID.toNat = 0 then
          .ok ⟨b.newContract⟩
        else .error Solana.Error.invalidGovernanceChain.into) ∧
    ∀ b : BodyTokenBridgeUpgradeContract, b.module' = nftName → ∃ bytes, b.serialize = .ok bytes ∧
      Ethereum.NFTBridge.parseUpgrade bytes = .ok ⟨b.targetChainID.toNat, b.newContract⟩ ∧
      Solana.NftBridge.GovernancePayloadUpgrade.deserialize bytes =
        if b.targetChainID.toNat = Solana.CHAIN_ID_SOLANA ∨ b.targetChainID.toNat = 0 then
          .ok ⟨b.newContract⟩
        else .error Solana.Error.invalidGovernanceChain.into := by
  refine ⟨?_, ?_, ?_, ?_, ?_, ?_⟩
  · intro b hpos hkeys
    have hlt : b.keys.length < 256 := hkeys.trans_lt (by decide)
    refine ⟨ethereum_update b hlt, solana_update b hlt, ?_⟩
    intro crypto distance now s s₁ s₂ vaa hprevious hverify hnext
    exact alephium_update b hpos hkeys hprevious hverify hnext
  · intro b
    exact ⟨ethereum_upgrade b, solana_upgrade b⟩
  · intro r hmodule
    have hserialize := register_serialize (hmodule ▸ bridgeName_length) (hmodule ▸ bridgeModule_eq)
    refine ⟨registerPayload bridgeModule r, hserialize, ethereum_register r, solana_register r, ?_⟩
    intro distance s s' msg hverify
    exact alephium_register r hverify
  · intro r hmodule
    have hserialize := register_serialize (hmodule ▸ nftName_length) (hmodule ▸ nftModule_eq)
    exact ⟨registerPayload nftModule r, hserialize, ethereum_nftRegister r, solana_nftRegister r⟩
  · intro b hmodule
    have hserialize := bridgeUpgrade_serialize (hmodule ▸ bridgeName_length) (hmodule ▸ bridgeModule_eq)
    exact ⟨bridgeUpgradePayload bridgeModule b, hserialize, ethereum_bridgeUpgrade b bridgeModule,
      solana_tokenUpgrade b⟩
  · intro b hmodule
    have hserialize := bridgeUpgrade_serialize (hmodule ▸ nftName_length) (hmodule ▸ nftModule_eq)
    exact ⟨bridgeUpgradePayload nftModule b, hserialize, ethereum_bridgeUpgrade b nftModule,
      solana_nftUpgrade b⟩

theorem sampleUpgrade_length : (List.replicate 32 (0x00 : UInt8)).length = 32 := rfl

def sampleUpgrade : BodyContractUpgrade where
  chainID := 2
  newContract := ⟨List.replicate 32 0x00, sampleUpgrade_length⟩

/-- An upgrade of the contract on Ethereum is not read on Solana. -/
theorem sampleUpgrade_refused :
    ¬∀ b : BodyContractUpgrade,
      Solana.GovernancePayloadUpgrade.deserialize b.serialize = .ok ⟨b.newContract⟩ := by
  intro h
  have hread := h sampleUpgrade
  have hchain : ¬(sampleUpgrade.chainID.toNat = Solana.CHAIN_ID_SOLANA ∨ sampleUpgrade.chainID.toNat = 0) := by
    decide
  rw [upgrade_serialize, solana_upgrade, if_neg hchain] at hread
  cases hread

end Wormhole.GovernancePayloads

/-
# Wormhole.GovernanceHeader — the header of a governance payload, as the EVM and the Alephium contracts
read it.

Every governance payload starts with 32 bytes that name a module, one byte for the action and two for the
target chain.  Both contracts read the parts at fixed offsets; what follows the header stands from byte 35
on (`slice_rest`).
-/
import Mathlib
import Wormhole.Lib.Bytes
import Wormhole.Alephium.Governance
import Wormhole.Alephium.TokenBridge
import Wormhole.Ethereum.Governance

namespace Wormhole.GovernanceHeader

open Wormhole.Lib.Bytes

/-- Module, action and chain in front of the fields of the action. -/
def payload (module' : FixedBytes 32) (action : UInt8) (chain : UInt16) (rest : List UInt8) : List UInt8 :=
  module'.val ++ ([action] ++ (beBytes 2 chain.toNat ++ rest))

variable (module' : FixedBytes 32) (action : UInt8) (chain : UInt16) (rest : List UInt8)

theorem payload_length : (payload module' action chain rest).length = 35 + rest.length := by
  simp only [payload, List.length_append, module'.property, beBytes_length, List.length_singleton]
  omega

/-! ## The parts -/

theorem slice_module : slice? (payload module' action chain rest) 0 32 = some module'.val :=
  slice?_head module'.property _

theorem slice_action : slice? (payload module' action chain rest) 32 33 = some [action] :=
  slice?_mid rfl module'.property.symm rfl

theorem slice_chain : slice? (payload module' action chain rest) 33 35 = some (beBytes 2 chain.toNat) := by
  have hsplit : payload module' action chain rest =
      (module'.val ++ [action]) ++ (beBytes 2 chain.toNat ++ rest) := by
    rw [payload, List.append_assoc]
  refine slice?_mid hsplit ?_ (by rw [beBytes_length])
  rw [List.length_append, module'.property, List.length_singleton]

/-- The header in one piece. -/
theorem payload_split : ∃ header : List UInt8, header.length = 35 ∧
    payload module' action chain rest = header ++ rest := by
  refine ⟨module'.val ++ ([action] ++ beBytes 2 chain.toNat), ?_, ?_⟩
  · simp only [List.length_append, module'.property, beBytes_length, List.length_singleton]
  · simp only [payload, List.append_assoc]

/-- What follows the header. -/
theorem slice_rest (i j : Nat) :
    slice? (payload module' action chain rest) (35 + i) (35 + j) = slice? rest i j := by
  obtain ⟨header, hlen, hsplit⟩ := payload_split module' action chain rest
  rw [hsplit]
  exact slice?_skip hlen rest i j

theorem slice_all : slice? (payload module' action chain rest) 35 (payload module' action chain rest).length =
    some rest := by
  obtain ⟨header, hlen, hsplit⟩ := payload_split module' action chain rest
  exact slice?_suffix hsplit hlen.symm

/-! ## On the EVM -/

theorem toBytes32_module : Ethereum.toBytes32 (payload module' action chain rest) 0 = .ok module'.val :=
  Ethereum.readBytes_ok (slice_module module' action chain rest)

theorem toUint8_action :
    Ethereum.toUint8 (payload module' action chain rest) 32 = .ok action.toNat := by
  rw [← beNat_singleton action]
  exact Ethereum.toUint_ok (slice_action module' action chain rest)

theorem toUint16_chain : Ethereum.toUint16 (payload module' action chain rest) 33 = .ok chain.toNat := by
  rw [← beNat_beBytes (toNat_lt_uint16 chain)]
  exact Ethereum.toUint_ok (slice_chain module' action chain rest)

/-! ## On Alephium -/

open Alephium Alephium.Vm

theorem byteVecSlice_module :
    byteVecSlice (payload module' action chain rest) 0 (0 + 32) = some module'.val :=
  slice_module module' action chain rest

theorem byteVecSlice_action :
    byteVecSlice (payload module' action chain rest) (0 + 32) (0 + 33) = some [action] :=
  slice_action module' action chain rest

theorem byteVecSlice_chain :
    byteVecSlice (payload module' action chain rest) 33 35 = some (beBytes 2 chain.toNat) :=
  slice_chain module' action chain rest

/-- `checkModuleAndAction` of the core contract. -/
theorem checkModuleAndAction_core (hmodule : module'.val = Governance.coreModule) :
    Governance.checkModuleAndAction (payload module' action chain rest) 0 [action] = some () := by
  rw [Governance.checkModuleAndAction, byteVecSlice_module, some_bind, assert_true hmodule, some_bind,
    byteVecSlice_action, some_bind, assert_true rfl]

/-- `checkModuleAndAction` of the token bridge. -/
theorem checkModuleAndAction_bridge (hmodule : module'.val = TokenBridge.tokenBridgeModule) :
    TokenBridge.checkModuleAndAction (payload module' action chain rest) 0 [action] = some () := by
  rw [TokenBridge.checkModuleAndAction, byteVecSlice_module, some_bind, assert_true hmodule, some_bind,
    byteVecSlice_action, some_bind, assert_true rfl]

end Wormhole.GovernanceHeader

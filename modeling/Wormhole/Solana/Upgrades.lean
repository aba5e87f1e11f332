/-
# Wormhole.Solana.Upgrades — `upgrade_contract` of the three programs on Solana.

Each claims the VAA and calls the upgradeable loader, which the program signs for as its upgrade authority.  The
loader is a parameter.  The core program also peels its bridge, and writes it back.
-/
import Mathlib
import Wormhole.Lib.Bytes
import Wormhole.Solana.Payloads
import Wormhole.Solana.Solitaire
import Wormhole.Solana.Accounts
import Wormhole.Solana.Core
import Wormhole.Solana.TokenBridge
import Wormhole.Solana.TokenTransfers
import Wormhole.Solana.NftBridge

namespace Wormhole.Solana

open Wormhole.Lib Wormhole.Lib.Bytes

/-- `bpf_loader_upgradeable::upgrade` of a program to a new contract, with the upgrade authority, the spill and the
address that is signed for. -/
abbrev Loader (Pubkey : Type) :=
  Ledger Pubkey → Pubkey → FixedBytes 32 → Pubkey → Pubkey → Pubkey → Result (Ledger Pubkey)

structure UpgradeContract (Pubkey : Type) where
  payer : AccountMeta Pubkey
  vaa : ClaimableVAA Pubkey
  upgradeAuthority : AccountMeta Pubkey
  spill : AccountMeta Pubkey
  buffer : AccountMeta Pubkey
  programData : AccountMeta Pubkey
  ownAddress : AccountMeta Pubkey
  rent : AccountMeta Pubkey
  clock : AccountMeta Pubkey
  bpfLoader : AccountMeta Pubkey
  system : AccountMeta Pubkey

/-- "upgrade" -/
def upgradeSeed : List UInt8 := [0x75, 0x70, 0x67, 0x72, 0x61, 0x64, 0x65]

section Common

variable {Pubkey : Type} [DecidableEq Pubkey] (P : Program Pubkey)

/-- The peel of what the loader needs; `rent` is the address of the sysvar. -/
def peelLoader (rent : Pubkey) (accs : UpgradeContract Pubkey) : Result Unit := do
  peelDerive P upgradeSeed accs.upgradeAuthority
  peelInfo true accs.upgradeAuthority
  peelMut accs.spill
  peelMut accs.buffer
  peelMut accs.programData
  peelMut accs.ownAddress
  peelSysvar rent accs.rent
  peelSysvar P.clock accs.clock
  peelInfo true accs.bpfLoader
  peelInfo true accs.system

/-- The call of the loader; it signs for the authority. -/
def invokeUpgrade (upgrade : Loader Pubkey) (L : Ledger Pubkey) (accs : UpgradeContract Pubkey)
    (newContract : FixedBytes 32) : Result (Ledger Pubkey) :=
  upgrade L P.programId newContract accs.upgradeAuthority.key accs.spill.key (P.derive [upgradeSeed])

end Common

namespace Core

variable {Pubkey : Type} [DecidableEq Pubkey] (P : CoreProgram Pubkey) (upgrade : Loader Pubkey)

/-- `bridge` is the account of the bridge. -/
def upgradeContract (L : Ledger Pubkey) (bridge : AccountMeta Pubkey) (accs : UpgradeContract Pubkey) :
    Result (Ledger Pubkey) := do
  peelMut accs.payer
  peelSigner accs.payer
  peelMut bridge
  peelDerive P.toProgram bridgeSeed bridge
  let bridgeData ← peelData BridgeData .initialized P.programId L false bridge
  let vaa ← accs.vaa.peel P.toProgram P.programId L GovernancePayloadUpgrade.deserialize
  peelLoader P.toProgram P.rent accs
  verifyGovernance P vaa.1
  accs.vaa.verify P.toProgram vaa.1
  let claimed ← accs.vaa.claimIt P.toProgram L accs.payer vaa.1 vaa.2.2
  let L ← invokeUpgrade P.toProgram upgrade claimed.1 accs vaa.2.1.newContract
  let L ← persist P.toProgram L bridge bridgeData
  persist P.toProgram L accs.vaa.claim claimed.2

end Core

namespace TokenBridge

variable {Pubkey : Type} [DecidableEq Pubkey] (P : TokenBridgeProgram Pubkey) (rent : Pubkey)
  (upgrade : Loader Pubkey)

def upgradeContract (L : Ledger Pubkey) (accs : UpgradeContract Pubkey) : Result (Ledger Pubkey) := do
  peelPayer accs.payer
  let vaa ← accs.vaa.peel P.toProgram P.bridgeAddress L GovernancePayloadUpgrade.deserialize
  peelLoader P.toProgram rent accs
  verifyGovernance P vaa.1
  accs.vaa.verify P.toProgram vaa.1
  let claimed ← accs.vaa.claimIt P.toProgram L accs.payer vaa.1 vaa.2.2
  let L ← invokeUpgrade P.toProgram upgrade claimed.1 accs vaa.2.1.newContract
  persist P.toProgram L accs.vaa.claim claimed.2

end TokenBridge

namespace NftBridge

open Wormhole.Solana.TokenBridge (peelPayer)

variable {Pubkey : Type} [DecidableEq Pubkey] (P : NftBridgeProgram Pubkey) (rent : Pubkey)
  (upgrade : Loader Pubkey)

def upgradeContract (L : Ledger Pubkey) (accs : UpgradeContract Pubkey) : Result (Ledger Pubkey) := do
  peelPayer accs.payer
  let vaa ← accs.vaa.peel P.toProgram P.bridgeAddress L GovernancePayloadUpgrade.deserialize
  peelLoader P.toProgram rent accs
  verifyGovernance P vaa.1
  accs.vaa.verify P.toProgram vaa.1
  let claimed ← accs.vaa.claimIt P.toProgram L accs.payer vaa.1 vaa.2.2
  let L ← invokeUpgrade P.toProgram upgrade claimed.1 accs vaa.2.1.newContract
  persist P.toProgram L accs.vaa.claim claimed.2

end NftBridge

end Wormhole.Solana

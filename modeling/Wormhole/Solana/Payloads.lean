/-
# Wormhole.Solana.Payloads — the message payloads of the Solana programs.

The readers are a `Cursor` over the payload: `read_exact` and the integer readers fail when the payload is
too short, `read` takes what is there.  The core contract's payloads are those of `vaa.rs` and `types.rs`,
the token bridge's those of `messages.rs`.  `deserialize_serialize` is a transfer's round trip; the
`deserialize_*` lemmas of the governance payloads say what each is read from.
-/
import Mathlib
import Wormhole.Lib.Bytes
import Wormhole.Lib.Failing
import Wormhole.Lib.Reader

namespace Wormhole.Solana

open Wormhole.Lib Wormhole.Lib.Bytes

/-! ## Errors -/

/-- `ProgramError`. -/
inductive ProgramError where
  | invalidAccountData
  | invalidArgument
  | uninitializedAccount
  | unsupportedSysvar
  deriving DecidableEq

/-- The errors of the core contract, `error.rs`. -/
inductive Error where
  | guardianSetMismatch
  | instructionAtWrongIndex
  | insufficientFees
  | invalidFeeRecipient
  | invalidGovernanceAction
  | invalidGovernanceChain
  | invalidGovernanceKey
  | invalidGovernanceModule
  | invalidGovernanceWithdrawal
  | invalidGuardianSetUpgrade
  | invalidHash
  | invalidSecpInstruction
  | mathOverflow
  | postVAAConsensusFailed
  | postVAAGuardianSetExpired
  | tooManyGuardians
  | vaaAlreadyExecuted
  deriving DecidableEq

/-- How an instruction fails.  A panic aborts the transaction, as an error does. -/
inductive SolitaireError where
  | invalidMutability
  | invalidSigner
  | invalidSysvar
  | invalidDerive
  | invalidOwner
  | ioError
  | programError (e : ProgramError)
  | alreadyInitialized
  | custom (code : Nat)
  /-- an instruction that the program invoked has failed -/
  | invokeFailed
  | panicked
  deriving DecidableEq

/-- `From<Error> for SolitaireError`. -/
def Error.into (e : Error) : SolitaireError := .custom e.ctorIdx

abbrev Result := Except SolitaireError

/-! ## The cursor -/

/-- `Cursor::read_exact`, into an array of `n` bytes. -/
def readExact : (n : Nat) → Reader SolitaireError (FixedBytes n) := Reader.array .ioError

/-- `Cursor::read`, into an array of `n` zeros. -/
def read : (n : Nat) → Reader SolitaireError (FixedBytes n) := Reader.upTo

def readU8 : Reader SolitaireError Nat := Reader.number .ioError 1
def readU16 : Reader SolitaireError Nat := Reader.number .ioError 2
def readU32 : Reader SolitaireError Nat := Reader.number .ioError 4

/-- `U256::from_big_endian` of 32 bytes. -/
def readU256 : Reader SolitaireError Nat := Reader.number .ioError 32

/-- `c.position() != c.into_inner().len()`. -/
def atEnd : Reader SolitaireError Unit := Reader.finished (.programError .invalidAccountData)

/-! ## Governance of the core contract -/

def CHAIN_ID_SOLANA : Nat := 1

/-- `format!("{:\0>32}", MODULE)`. -/
def padModule (name : List UInt8) : List UInt8 := List.replicate (32 - name.length) 0x00 ++ name

/-- "Core" -/
def MODULE : List UInt8 := [0x43, 0x6f, 0x72, 0x65]

/-- `check_governance_header`. -/
def checkGovernanceHeader (name : List UInt8) (ACTION : Nat) : Reader SolitaireError Unit := do
  let module' ← readExact 32
  Reader.check (module'.val = padModule name) Error.invalidGovernanceModule.into
  let action ← readU8
  Reader.check (action = ACTION) Error.invalidGovernanceAction.into
  let chain ← readU16
  Reader.check (chain = CHAIN_ID_SOLANA ∨ chain = 0) Error.invalidGovernanceChain.into

structure GovernancePayloadUpgrade where
  newContract : FixedBytes 32
  deriving DecidableEq

def GovernancePayloadUpgrade.deserialize : List UInt8 → Result GovernancePayloadUpgrade :=
  Reader.decode do
    checkGovernanceHeader MODULE 1
    let newContract ← readExact 32
    atEnd
    return { newContract }

structure GovernancePayloadGuardianSetChange where
  newGuardianSetIndex : Nat
  newGuardianSet : List (FixedBytes 20)
  deriving DecidableEq

def GovernancePayloadGuardianSetChange.deserialize :
    List UInt8 → Result GovernancePayloadGuardianSetChange :=
  Reader.decode do
    checkGovernanceHeader MODULE 2
    let newGuardianSetIndex ← readU32
    let keysLen ← readU8
    let newGuardianSet ← Reader.replicate (read 20) keysLen
    atEnd
    return { newGuardianSetIndex, newGuardianSet }

structure GovernancePayloadSetMessageFee where
  fee : Nat
  deriving DecidableEq

def GovernancePayloadSetMessageFee.deserialize : List UInt8 → Result GovernancePayloadSetMessageFee :=
  Reader.decode do
    checkGovernanceHeader MODULE 3
    let fee ← readU256
    atEnd
    return { fee }

structure GovernancePayloadTransferFees where
  amount : Nat
  to' : FixedBytes 32
  deriving DecidableEq

def GovernancePayloadTransferFees.deserialize : List UInt8 → Result GovernancePayloadTransferFees :=
  Reader.decode do
    checkGovernanceHeader MODULE 4
    let amount ← readU256
    let to' ← readExact 32
    atEnd
    return { amount, to' }

/-! ## Messages of the token bridge -/

namespace TokenBridge

structure PayloadTransfer where
  amount : Nat
  tokenAddress : FixedBytes 32
  tokenChain : Nat
  to' : FixedBytes 32
  toChain : Nat
  fee : Nat
  deriving DecidableEq

def PayloadTransfer.deserialize : List UInt8 → Result PayloadTransfer :=
  Reader.decode do
    let id ← readU8
    Reader.check (id = 1) (.custom 0)
    let amount ← readU256
    let tokenAddress ← readExact 32
    let tokenChain ← readU16
    let to' ← readExact 32
    let toChain ← readU16
    let fee ← readU256
    atEnd
    return { amount, tokenAddress, tokenChain, to', toChain, fee }

def PayloadTransfer.serialize (t : PayloadTransfer) : List UInt8 :=
  -- Payload ID
  beBytes 1 1 ++ beBytes 32 t.amount ++ t.tokenAddress.val ++ beBytes 2 t.tokenChain ++ t.to'.val ++
    beBytes 2 t.toChain ++ beBytes 32 t.fee

/-- "TokenBridge" -/
def MODULE : List UInt8 := [0x54, 0x6f, 0x6b, 0x65, 0x6e, 0x42, 0x72, 0x69, 0x64, 0x67, 0x65]

structure PayloadGovernanceRegisterChain where
  chain : Nat
  endpointAddress : FixedBytes 32
  deriving DecidableEq

def PayloadGovernanceRegisterChain.deserialize : List UInt8 → Result PayloadGovernanceRegisterChain :=
  Reader.decode do
    checkGovernanceHeader MODULE 1
    let chain ← readU16
    let endpointAddress ← readExact 32
    atEnd
    return { chain, endpointAddress }

structure GovernancePayloadUpgrade where
  newContract : FixedBytes 32
  deriving DecidableEq

def GovernancePayloadUpgrade.deserialize : List UInt8 → Result GovernancePayloadUpgrade :=
  Reader.decode do
    checkGovernanceHeader MODULE 2
    let newContract ← readExact 32
    atEnd
    return { newContract }

end TokenBridge

/-! ## What they are read from -/

/-- The header that `checkGovernanceHeader` passes. -/
theorem checkGovernanceHeader_append {name : List UInt8} {action chain : Nat} {rest : List UInt8}
    (hname : name.length ≤ 32) (haction : action < 256) (hchain : chain = CHAIN_ID_SOLANA ∨ chain = 0) :
    (checkGovernanceHeader name action).run
      (padModule name ++ (beBytes 1 action ++ (beBytes 2 chain ++ rest))) = .ok ((), rest) := by
  have hmodule : (padModule name).length = 32 := by
    rw [padModule, List.length_append, List.length_replicate, Nat.sub_add_cancel hname]
  have hlt : chain < 256 ^ 2 := by
    rcases hchain with rfl | rfl <;> decide
  have hread : (readExact 32).run (padModule name ++ (beBytes 1 action ++ (beBytes 2 chain ++ rest))) =
      .ok (⟨padModule name, hmodule⟩, beBytes 1 action ++ (beBytes 2 chain ++ rest)) :=
    Reader.array_append ⟨padModule name, hmodule⟩
  simp only [checkGovernanceHeader, readU8, readU16, Reader.bind_run, hread, Failing.ok_bind,
    Reader.check_true rfl, Reader.number_append (show action < 256 ^ 1 from haction), Reader.number_append hlt,
    Reader.check_true hchain]

/-- A decoder behind a header: the header is checked, then the rest is read. -/
theorem decode_header {name : List UInt8} {action chain : Nat} {rest : List UInt8}
    (hname : name.length ≤ 32) (haction : action < 256) (hchain : chain = CHAIN_ID_SOLANA ∨ chain = 0)
    {α : Type} (x : Reader SolitaireError α) :
    Reader.decode (do checkGovernanceHeader name action; x)
      (padModule name ++ (beBytes 1 action ++ (beBytes 2 chain ++ rest))) = x.decode rest := by
  rw [Reader.decode, Reader.bind_run, checkGovernanceHeader_append hname haction hchain, Failing.ok_bind]
  rfl

namespace TokenBridge

/-- **Round trip of a transfer.** -/
theorem PayloadTransfer.deserialize_serialize (t : PayloadTransfer) (hamount : t.amount < 256 ^ 32)
    (htokenChain : t.tokenChain < 256 ^ 2) (htoChain : t.toChain < 256 ^ 2) (hfee : t.fee < 256 ^ 32) :
    PayloadTransfer.deserialize t.serialize = .ok t := by
  simp only [deserialize, serialize, Reader.decode, readU8, readU16, readU256, readExact, atEnd,
    List.append_assoc, Reader.bind_run, Failing.ok_bind, Reader.number_append (show 1 < 256 ^ 1 by decide),
    Reader.check_true, Reader.number_append hamount, Reader.array_append, Reader.number_append htokenChain,
    Reader.number_append htoChain, Reader.number_end hfee, Reader.finished_nil]
  rfl

end TokenBridge

end Wormhole.Solana

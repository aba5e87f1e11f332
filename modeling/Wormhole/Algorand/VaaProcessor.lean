/-
# Wormhole.Algorand.VaaProcessor — the VAA processor on Algorand and its verification program.

A VAA is verified by a group of transactions.  Each step calls the processor, a stateful program, and is sent by the
account of the verification program, which is stateless and checks up to eight signatures over the step's note
(`vaaVerifyProgram`).  The processor compares the keys of a step with its guardian set and keeps a bit for the step;
the last step looks at the bits of the others and commits the VAA.

An operation that fails rejects the group (`Option`).  The functions of the AVM for hashes and signatures are a
parameter, and so is what other applications of the group leave in their scratch space.
-/
import Mathlib
import Wormhole.Lib.Bytes

namespace Wormhole.Algorand

open Wormhole.Lib.Bytes

/-! ## The AVM -/

/-- `Assert`. -/
def assert (c : Prop) [Decidable c] : Option Unit := if c then some () else none

@[simp]
theorem assert_eq_some {c : Prop} [Decidable c] {u : Unit} : assert c = some u ↔ c := by
  unfold assert
  split <;> simp_all

/-- `+`, `-` and `*` of 64-bit integers. -/
def addU64 (x y : Nat) : Option Nat := if x + y < 2 ^ 64 then some (x + y) else none
def subU64 (x y : Nat) : Option Nat := if y ≤ x then some (x - y) else none
def mulU64 (x y : Nat) : Option Nat := if x * y < 2 ^ 64 then some (x * y) else none

/-- `Extract`. -/
def extract (bytes : List UInt8) (start length : Nat) : Option (List UInt8) := slice? bytes start (start + length)

/-- `Btoi`. -/
def btoi (bytes : List UInt8) : Option Nat := if bytes.length ≤ 8 then some (beNat bytes) else none

/-- The content of a scratch slot. -/
inductive TealValue where
  | uint (n : Nat)
  | bytes (bs : List UInt8)
  deriving DecidableEq

/-- `GetBit`: from the right of an integer, and from the left of bytes. -/
def TealValue.getBit : TealValue → Nat → Option Bool
  | .uint n, i => if i < 64 then some (n.testBit i) else none
  | .bytes bs, i => (bs[i / 8]?).map fun b => b.toNat.testBit (7 - i % 8)

/-- The hashes and signatures of the AVM. -/
structure Environment where
  keccak256 : List UInt8 → List UInt8
  /-- `ecdsa_pk_recover Secp256k1`: hash, recovery id, R and S, to the coordinates of a public key -/
  ecdsaPkRecover : List UInt8 → Nat → List UInt8 → List UInt8 → Option (List UInt8 × List UInt8)

/-! ## Transactions -/

inductive TxnType where
  | applicationCall
  | other
  deriving DecidableEq

inductive OnComplete where
  | noOp
  | optIn
  | closeOut
  | clearState
  | updateApplication
  | deleteApplication
  deriving DecidableEq

structure Txn where
  typeEnum : TxnType
  sender : List UInt8
  fee : Nat
  note : List UInt8
  rekeyTo : List UInt8
  applicationId : Nat
  onCompletion : OnComplete
  applicationArgs : List (List UInt8)
  /-- the arguments of the program that signs for the sender -/
  logicSigArgs : List (List UInt8)
  /-- what another application leaves in slot 254 -/
  slot : TealValue
  deriving DecidableEq

/-- The global state of the processor: its guardians have the keys 0, 1, ... -/
structure State where
  creator : List UInt8
  vphash : List UInt8
  authid : Nat
  guardians : List (List UInt8)

/-- `gscount`. -/
def State.numGuardians (s : State) : Nat := s.guardians.length

/-! ## `globals.py` -/

/-- The maximum number of signatures verified by each transaction in the group. -/
def MAX_SIGNATURES_PER_VERIFICATION_STEP : Nat := 8

def ceil (n d : Nat) : Nat := if n % d ≠ 0 then n / d + 1 else n / d

def getGroupSize (numGuardians : Nat) : Nat := ceil numGuardians MAX_SIGNATURES_PER_VERIFICATION_STEP

/-- Get the number of signatures to verify in current step -/
def getSigCountInStep (step numGuardians : Nat) : Nat :=
  if numGuardians % MAX_SIGNATURES_PER_VERIFICATION_STEP = 0 then MAX_SIGNATURES_PER_VERIFICATION_STEP
  else if step < getGroupSize numGuardians - 1 then MAX_SIGNATURES_PER_VERIFICATION_STEP
  else numGuardians % MAX_SIGNATURES_PER_VERIFICATION_STEP

/-! ## The verification program -/

/-- A signature that was checked: the guardian index before it, and the key that it was recovered to. -/
structure Recovery where
  guardian : Nat
  key : List UInt8
  deriving DecidableEq

section Verify

variable (env : Environment)

/-- The loop of `sig_check`, from the signature at `si`, the key at `ki` and the number `i`.  A signature has 66
bytes, so that there are not more of them than bytes.  The source returns 1 at the end; here it is what was
recovered. -/
def sigCheckFrom (signatures digest keys : List UInt8) (vaaSignatureCount groupIndex : Nat) :
    Nat → Nat → Nat → Nat → Option (List Recovery)
  | 0, _, _, _ => some []
  | fuel + 1, si, ki, i =>
    if si < signatures.length then do
      let gi ← btoi (← extract signatures si 1)
      -- Bail out case if we must ignore all signatures past sig_count > 2/3+1
      if gi ≥ vaaSignatureCount then some []
      else do
        -- Index must be sequential
        assert (gi = i + groupIndex * MAX_SIGNATURES_PER_VERIFICATION_STEP)
        let v ← btoi (← extract signatures (si + 65) 1)
        let r ← extract signatures (si + 1) 32
        let s ← extract signatures (si + 33) 32
        let (x, y) ← env.ecdsaPkRecover (env.keccak256 (env.keccak256 digest)) v r s
        -- Generate Ethereum-type public key, compare with guardian key.
        let key ← extract keys ki 20
        let address ← extract (env.keccak256 (x ++ y)) 12 20
        assert (key = address)
        let rest ← sigCheckFrom signatures digest keys vaaSignatureCount groupIndex fuel (si + 66) (ki + 20) (i + 1)
        return ⟨gi, address⟩ :: rest
    else some []

def sigCheck (signatures digest keys : List UInt8) (vaaSignatureCount groupIndex : Nat) : Option (List Recovery) :=
  sigCheckFrom env signatures digest keys vaaSignatureCount groupIndex signatures.length 0 0 0

/-- What the total signature count must exceed. -/
def minimumCount (numGuardians : Nat) : Option Nat := do
  let tenfold ← mulU64 numGuardians 10
  let doubled ← mulU64 (tenfold / 3) 2
  addU64 (doubled / 10) 1

/-- `vaa_verify_program`, for the transaction at `groupIndex` of a group. -/
def vaaVerifyProgram (vaaProcessorAppId groupSize groupIndex : Nat) (tx : Txn) : Option (List Recovery) := do
  let signatures ← tx.logicSigArgs[0]?
  let vaaSignatureCount ← btoi (← tx.logicSigArgs[1]?)
  assert (tx.fee ≤ 1000)
  assert (tx.applicationArgs.length = 3)
  let keys ← tx.applicationArgs[1]?
  let numGuardians ← btoi (← tx.applicationArgs[2]?)
  assert (vaaSignatureCount > (← minimumCount numGuardians))
  assert (signatures.length = getSigCountInStep groupIndex numGuardians * 66)
  assert (tx.rekeyTo = List.replicate 32 0x00)
  assert (tx.applicationId = vaaProcessorAppId)
  assert (tx.typeEnum = .applicationCall)
  assert (groupSize = 1 + getGroupSize numGuardians)
  sigCheck env signatures tx.note keys vaaSignatureCount groupIndex

end Verify

/-! ## The processor -/

section Processor

variable (s : State) (appId : Nat) (group : List Txn)

/-- Verify that the passed argument for guardian keys match the global state for the same keys. -/
def checkGuardianKeySubset (groupIndex : Nat) (keySubset : List UInt8) : Option Unit :=
  (List.range (getSigCountInStep groupIndex s.numGuardians)).forM fun i => do
    let stored ← s.guardians[i + MAX_SIGNATURES_PER_VERIFICATION_STEP * groupIndex]?
    let key ← extract keySubset (i * 20) 20
    assert (stored = key)

/-- Verifies that previous steps had set their verification bits; `slots` is what the earlier transactions have left
in slot 254.  The loop of the source runs over i = k + 1. -/
def checkFinalVerificationState (slots : List (Option TealValue)) : Option Unit :=
  (List.range (group.length - 2)).forM fun k => do
    let tx ← group[k + 1]?
    assert (tx.typeEnum = .applicationCall)
    assert (tx.applicationId = appId)
    let slot ← slots[k]?
    let value ← slot
    let bit ← value.getBit k
    assert (bit = true)

/-- `verify` as far as `commit_vaa`: the bits that it stores. -/
def verifyChecks (groupIndex : Nat) (tx : Txn) (slots : List (Option TealValue)) : Option TealValue := do
  assert (group.length = getGroupSize s.numGuardians + 1)
  let last ← group[group.length - 1]?
  assert (last.typeEnum = .applicationCall)
  assert (last.applicationId = s.authid)
  assert (tx.applicationArgs.length = 3)
  -- Sender must be stateless logic.
  assert (tx.sender = s.vphash)
  assert (s.numGuardians = (← btoi (← tx.applicationArgs[2]?)))
  checkGuardianKeySubset s groupIndex (← tx.applicationArgs[1]?)
  if groupIndex = group.length - 2 then checkFinalVerificationState appId group slots
  -- `SetBit` in 0
  return .uint (2 ^ groupIndex)

/-- `PYTH2WORMHOLE_EMITTER_ID`. -/
def PYTH2WORMHOLE_EMITTER_ID : List UInt8 := [
  0x3a, 0xfd, 0xa8, 0x41, 0xc1, 0xf4, 0x3d, 0xd7, 0xd5, 0x46, 0xc8, 0xa5, 0x81, 0xba, 0x1f, 0x92,
  0xa1, 0x39, 0xf4, 0x13, 0x3f, 0x9f, 0x6a, 0xb0, 0x95, 0x55, 0x8f, 0x6a, 0x35, 0x9d, 0xf5, 0xd4]

/-- `GOVERNANCE_EMITTER_ID`, a string of 44 digits. -/
def GOVERNANCE_EMITTER_ID : List UInt8 := List.replicate 44 0x30

/-- Both handlers do nothing. -/
def commitVaa (payload : List UInt8) : Option Unit := do
  let chainId ← btoi (← extract payload 8 2)
  let emitterId ← extract payload 10 32
  assert (chainId = 1 ∧ (emitterId = GOVERNANCE_EMITTER_ID ∨ emitterId = PYTH2WORMHOLE_EMITTER_ID))

def verify (groupIndex : Nat) (tx : Txn) (slots : List (Option TealValue)) : Option TealValue := do
  let bits ← verifyChecks s appId group groupIndex tx slots
  if groupIndex = group.length - 2 then commitVaa tx.note
  return bits

/-- "verify". -/
def verifyMethod : List UInt8 := [0x76, 0x65, 0x72, 0x69, 0x66, 0x79]

/-- "nop". -/
def nopMethod : List UInt8 := [0x6e, 0x6f, 0x70]

/-- "setvphash" and "setauthid". -/
def setMethods : List (List UInt8) := [
  [0x73, 0x65, 0x74, 0x76, 0x70, 0x68, 0x61, 0x73, 0x68], [0x73, 0x65, 0x74, 0x61, 0x75, 0x74, 0x68, 0x69, 0x64]]

/-- `vaa_processor_program`: what a call leaves in slot 254.  The setters change the state, in groups of their own. -/
def vaaProcessorProgram (groupIndex : Nat) (tx : Txn) (slots : List (Option TealValue)) : Option TealValue :=
  match tx.onCompletion with
  | .updateApplication | .deleteApplication => do
    assert (tx.sender = s.creator)
    return .uint 0
  | .noOp => do
    let method ← tx.applicationArgs[0]?
    if method ∈ setMethods then do
      assert (tx.sender = s.creator ∧ group.length = 1)
      return .uint 0
    else if method = verifyMethod then verify s appId group groupIndex tx slots
    else do
      assert (method = nopMethod)
      return .uint 0
  -- `clear_state_program`
  | .clearState => some (.uint 0)
  | _ => none

/-! ## Groups -/

/-- A transaction of the group: what it leaves in slot 254, if it is an application call. -/
def runTxn (groupIndex : Nat) (tx : Txn) (slots : List (Option TealValue)) : Option (Option TealValue) :=
  if tx.typeEnum = .applicationCall then
    if tx.applicationId = appId then (vaaProcessorProgram s appId group groupIndex tx slots).map some
    else some (some tx.slot)
  else some none

/-- The first transactions of the group, in order. -/
def runTo : Nat → Option (List (Option TealValue))
  | 0 => some []
  | t + 1 => do
    let slots ← runTo t
    let tx ← group[t]?
    return slots ++ [← runTxn s appId group t tx slots]

/-- The verification program signs for its account. -/
def authorized (env : Environment) : Bool :=
  group.zipIdx.all fun (tx, t) =>
    tx.sender ≠ s.vphash ∨ (vaaVerifyProgram env appId group.length t tx).isSome

/-- The transaction of the group that reaches `commit_vaa`. -/
def committing (env : Environment) : Option Txn := do
  assert (authorized s appId group env = true)
  let t ← subU64 group.length 2
  let tx ← group[t]?
  let slots ← runTo s appId group t
  assert (tx.typeEnum = .applicationCall ∧ tx.applicationId = appId ∧ tx.onCompletion = .noOp ∧
    tx.applicationArgs[0]? = some verifyMethod)
  let _ ← verifyChecks s appId group t tx slots
  return tx

end Processor

end Wormhole.Algorand

/-
# Wormhole.Guardian.Db — the node's store of signed VAAs.

`node/pkg/db/db.go`: a badger key-value store whose keys are the strings
`signed/<chain>/<address>/<sequence>`.  Whether a badger transaction fails is an input of the
operation.
-/
import Mathlib
import Wormhole.Guardian.Vaa

namespace Wormhole.Guardian

open Wormhole.Lib.Bytes

/-- A lower-case hexadecimal digit. -/
def hexDigit (n : Nat) : Char := (['0', '1', '2', '3', '4', '5', '6', '7', '8', '9', 'a', 'b', 'c',
  'd', 'e', 'f'][n]?).getD '0'

/-- `hex.EncodeToString`. -/
def hexString (bs : List UInt8) : String :=
  String.ofList (bs.flatMap fun b => [hexDigit (b.toNat / 16), hexDigit (b.toNat % 16)])

structure VAAID where
  emitterChain : ChainID
  emitterAddress : Address
  sequence : UInt64
  deriving DecidableEq

def vaaIDFromVAA (v : VAA) : VAAID where
  emitterChain := v.emitterChain
  emitterAddress := v.emitterAddress
  sequence := v.sequence

/-- `VAAID.Bytes`: the key of a VAA in the store. -/
def VAAID.bytes (id : VAAID) : String :=
  "signed/" ++ toString id.emitterChain.toNat ++ "/" ++ hexString id.emitterAddress.val ++ "/" ++
    toString id.sequence.toNat

/-- The contents of the store. -/
abbrev Database := String → Option (List UInt8)

/-- What a lookup returns. -/
inductive Lookup where
  | found (bytes : List UInt8)
  | ErrVAANotFound
  | failed
  deriving DecidableEq

/-- `GetSignedVAABytes`; `fails` tells whether the badger transaction fails. -/
def getSignedVAABytes (d : Database) (id : VAAID) (fails : Bool) : Lookup :=
  if fails then .failed
  else
    match d id.bytes with
    | some b => .found b
    | none => .ErrVAANotFound

/-- What a store operation does: it writes, it reports an error, or it panics. -/
inductive Stored where
  | done (d : Database)
  | failed
  | panic (msg : String)

/-- `StoreSignedVAA`; `fails` tells whether the badger transaction fails. -/
def storeSignedVAA (d : Database) (v : VAA) (fails : Bool) : Stored :=
  if v.signatures.length = 0 then .panic "StoreSignedVAA called for unsigned VAA"
  else if fails then .failed
  else .done (Function.update d (vaaIDFromVAA v).bytes (some (marshal v)))

/-- What is written is the VAA, under its id. -/
theorem storeSignedVAA_eq_done {d d' : Database} {v : VAA} {fails : Bool}
    (h : storeSignedVAA d v fails = .done d') :
    v.signatures ≠ [] ∧ d' = Function.update d (vaaIDFromVAA v).bytes (some (marshal v)) := by
  unfold storeSignedVAA at h
  split at h
  · cases h
  · rename_i hsigned
    split at h
    · cases h
    · exact ⟨fun hnil => hsigned (by rw [hnil]; rfl), (Stored.done.inj h).symm⟩

end Wormhole.Guardian

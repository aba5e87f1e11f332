/-
# Wormhole.Guardian.Aggregation — the processor's aggregation of signatures.

`node/pkg/processor`: the node signs what it observes itself (`handleMessage`, `handleInjection`,
`broadcastSignature`), collects the signatures of the other guardians (`handleObservation`) and submits a
VAA once it has a quorum of them; `handleCleanup` settles, re-sends and expires the entries.  The events
are handled one at a time (`Run`); each has the time at which it is handled and says which badger
transactions fail.

The Go map from hex digests to entries is an association list from digests to entries.  Go visits the
entries of a map in any order: `handleCleanup` takes the order of the visit as an argument.  Logging,
metrics other than the settlement counts, and notifications are left out.
-/
import Mathlib
import Wormhole.Lib.Go
import Wormhole.Guardian.InboundVaa

namespace Wormhole.Guardian

open Wormhole.Lib Wormhole.Lib.Bytes

/-! ## State -/

/-- `gossipv1.SignedObservation`, as received: every field is untrusted. -/
structure SignedObservation where
  Addr : List UInt8
  Hash : List UInt8
  Signature : List UInt8
  TxHash : List UInt8
  MessageId : String
  deriving DecidableEq

/-- `gossipv1.GossipMessage`, as far as the processor sends it. -/
inductive GossipMessage where
  | signedObservation (obsv : SignedObservation)
  | signedVAAWithQuorum (vaa : List UInt8)
  deriving DecidableEq

/-- `vaaState`: the local view of a given VAA. -/
structure VaaState where
  /-- First time this digest was seen, in nanoseconds. -/
  firstObserved : Int
  /-- Copy of the VAA we constructed when we made our own observation. -/
  ourVAA : Option VAA
  /-- Map of signatures seen by guardian. -/
  signatures : EthAddress → Option (List UInt8)
  /-- Flag set after reaching quorum and submitting the VAA. -/
  submitted : Bool
  /-- Flag set by the cleanup service after the settlement timeout has expired. -/
  settled : Bool
  /-- Number of times the cleanup service has attempted to retransmit this VAA. -/
  retryCount : Nat
  /-- Our observation, for retransmissions. -/
  ourMsg : Option GossipMessage
  /-- Copy of the guardian set valid at observation/injection time. -/
  gs : Option GuardianSet

/-- An entry that was just created. -/
def VaaState.new (now : Int) : VaaState where
  firstObserved := now
  ourVAA := none
  signatures := fun _ => none
  submitted := false
  settled := false
  retryCount := 0
  ourMsg := none
  gs := none

/-- What the settlement of an entry counts: which guardians have signed. -/
structure Settlement where
  hash : List UInt8
  counted : List (EthAddress × Bool)

/-- The processor with its aggregation state and what it has put out. -/
structure Aggregator extends Processor where
  vaaSignatures : AList fun _ : List UInt8 => VaaState
  /-- sent to the network, in order -/
  sendC : List GossipMessage
  /-- our own observations, on the fast path to `handleObservation` -/
  obsvC : List SignedObservation
  /-- reported as `MessagePublication`, with the transaction -/
  publications : List (VAA × FixedBytes 32)
  settlements : List Settlement

namespace Aggregator

/-- Write an entry. -/
def setEntry (p : Aggregator) (hash : List UInt8) (s : VaaState) : Aggregator :=
  { p with vaaSignatures := p.vaaSignatures.insert hash s }

/-- Delete an entry. -/
def expire (p : Aggregator) (hash : List UInt8) : Aggregator :=
  { p with vaaSignatures := p.vaaSignatures.erase hash }

/-- The entry, created when there is none. -/
def entryOf (p : Aggregator) (hash : List UInt8) (now : Int) : VaaState :=
  (p.vaaSignatures.lookup hash).getD (VaaState.new now)

end Aggregator

/-- The node's guardian key: its address and what it signs. -/
structure GuardianKey where
  address : EthAddress
  Sign : FixedBytes 32 → Option (FixedBytes 65)

/-! ## Our own observations -/

/-- `MessageID`. -/
def messageID (v : VAA) : String :=
  toString v.emitterChain.toNat ++ "/" ++ hexString v.emitterAddress.val ++ "/" ++
    toString v.sequence.toNat

section Handlers

variable (crypto : Crypto) (gk : GuardianKey)

def broadcastSignature (p : Aggregator) (v : VAA) (signature txhash : List UInt8) (now : Int) :
    Aggregator :=
  let digest := signingMsg crypto v
  let obsv : SignedObservation := {
    Addr := gk.address.val, Hash := digest.val, Signature := signature, TxHash := txhash,
    MessageId := messageID v }
  let msg := GossipMessage.signedObservation obsv
  -- Store our VAA in case we're going to submit it
  let s := { p.entryOf digest.val now with ourVAA := some v, ourMsg := some msg, gs := p.gs }
  { p.setEntry digest.val s with
    sendC := p.sendC ++ [msg]
    -- Fast path for our own signature
    obsvC := p.obsvC ++ [obsv] }

/-- `handleInjection` processes a pre-populated VAA injected locally. -/
def handleInjection (p : Aggregator) (v : VAA) (now : Int) : Go Aggregator :=
  match gk.Sign (signingMsg crypto v) with
  | none => .panic "crypto.Sign"
  | some s => .ok (broadcastSignature crypto gk p v s.val [] now)

/-- `GovernanceEmitter`. -/
def governanceEmitter : Address := ⟨List.replicate 31 0x00 ++ [0x04], rfl⟩

/-- `GovernanceChain`. -/
def governanceChain : ChainID := 1

/-- All nodes will create the exact same VAA and sign its digest. -/
def vaaOfMessage (gs : GuardianSet) (k : MessagePublication) : VAA where
  version := SupportedVAAVersion
  guardianSetIndex := gs.Index
  signatures := []
  timestamp := k.timestamp
  nonce := k.nonce
  emitterChain := k.emitterChain
  emitterAddress := k.emitterAddress
  payload := k.payload
  sequence := k.sequence
  consistencyLevel := k.consistencyLevel

def second : Int := 10 ^ 9

def settlementTime : Int := 30 * second

/-- `t.Sub(u)`.  A Go duration saturates beyond 292 years, which no comparison here can tell. -/
def Time.sub (t u : Time) : Int := (t.unix - u.unix) * second + (t.nanosecond - u.nanosecond)

/-- Whether `handleMessage` ignores the message, because the store has a VAA for it that is older than the
settlement time. -/
def alreadyStored (p : Aggregator) (k : MessagePublication) (v : VAA) (fails : Bool) : Go Bool :=
  match getSignedVAABytes p.db (vaaIDFromVAA v) fails with
  | .found vb =>
    match unmarshal vb with
    | .error _ => .panic "failed to unmarshal VAA from db"
    | .ok existing => .ok (settlementTime < k.timestamp.sub existing.timestamp)
  | .ErrVAANotFound => .ok false
  | .failed => .ok false -- logged

/-- `handleMessage` processes a message received from a chain and instantiates our deterministic copy of
the VAA. -/
def handleMessage (p : Aggregator) (k : MessagePublication) (now : Int) (fails : Bool) :
    Go Aggregator :=
  match p.gs with
  | none => .ok p -- we haven't initialized our guardian set yet
  | some gs =>
    let v := vaaOfMessage gs k
    -- A governance message should never be emitted on-chain
    if v.emitterAddress = governanceEmitter ∧ v.emitterChain = governanceChain then .ok p
    else do
      if ← alreadyStored p k v fails then return p
      else
        match gk.Sign (signingMsg crypto v) with
        | none => .panic "crypto.Sign"
        | some s =>
          let p := { p with publications := p.publications ++ [(v, k.txHash)] }
          return broadcastSignature crypto gk p v s.val k.txHash.val now

/-! ## Observations of guardians -/

/-- `common.BytesToAddress`: the last 20 bytes, padded on the left. -/
def bytesToAddress (b : List UInt8) : EthAddress :=
  ⟨List.replicate (20 - b.length) 0x00 ++ b.drop (b.length - 20), by simp; omega⟩

/-- `crypto.Ecrecover` on bytes of any length, and the address of the key.  It fails unless the hash has
32 bytes and the signature 65. -/
def recoverSigner (hash signature : List UInt8) : Option EthAddress :=
  if h : hash.length = 32 ∧ signature.length = 65 then
    (crypto.Ecrecover ⟨hash, h.1⟩ ⟨signature, h.2⟩).map (pubKeyAddress crypto)
  else none

/-- `KeyIndex`. -/
def GuardianSet.keyIndex (gs : GuardianSet) (addr : EthAddress) : Option Nat :=
  gs.Keys.findIdx? (· == addr)

/-- Which guardian set to use: the one stored with our own observation, else the current one. -/
def Aggregator.guardianSetFor (p : Aggregator) (hash : List UInt8) : Option GuardianSet :=
  match p.vaaSignatures.lookup hash with
  | some s => s.gs.or p.gs
  | none => p.gs

/-- Aggregate all valid signatures into a list, for the guardians from `i` on. -/
def aggregate (signatures : EthAddress → Option (List UInt8)) : Nat → List EthAddress →
    Go (List Signature)
  | _, [] => .ok []
  | i, a :: keys =>
    match signatures a with
    | none => aggregate signatures (i + 1) keys
    | some s =>
      if h : 65 ≤ s.length then do
        let sigs ← aggregate signatures (i + 1) keys
        return { index := UInt8.ofNat i, signature := ⟨s.take 65, by simp [h]⟩ } :: sigs
      else .panic "invalid sig len"

/-- Store and broadcast the signed VAA of an entry.  A failure to store is logged. -/
def submitSigned (p : Aggregator) (hash : List UInt8) (s : VaaState) (signed : VAA) (fails : Bool) :
    Go Aggregator :=
  let p' := { p.setEntry hash { s with submitted := true } with
    sendC := p.sendC ++ [.signedVAAWithQuorum (marshal signed)]
    reported := p.reported ++ [signed] }
  match storeSignedVAA p.db signed fails with
  | .panic msg => .panic msg
  | .failed => .ok p'
  | .done db => .ok { p' with db }

/-- The part of `handleObservation` behind the checks: the guardian at `addr` has signed. -/
def addSignature (p : Aggregator) (gs : GuardianSet) (addr : EthAddress) (m : SignedObservation)
    (now : Int) (fails : Bool) : Go Aggregator := do
  let s := p.entryOf m.Hash now
  let s := { s with signatures := Function.update s.signatures addr (some m.Signature) }
  let p := p.setEntry m.Hash s
  let sigs ← aggregate s.signatures 0 gs.Keys
  match s.ourVAA with
  | none => return p -- we have not yet seen this VAA
  | some v =>
    -- We have seen it on chain!
    let signed := { v with signatures := sigs }
    -- 2/3+ majority required for VAA to be valid
    if calculateQuorum gs.Keys.length ≤ sigs.length ∧ s.submitted = false then
      submitSigned p m.Hash s signed fails
    else return p

/-- `handleObservation` processes a remote VAA observation, verifies it, checks whether the VAA has met
quorum, and assembles and submits a valid VAA if possible. -/
def handleObservation (p : Aggregator) (m : SignedObservation) (now : Int) (fails : Bool) :
    Go Aggregator :=
  match recoverSigner crypto m.Hash m.Signature with
  | none => .ok p -- failed to verify signature
  | some signer =>
    -- Verify that m.Addr matches the public key that signed m.Hash.
    if bytesToAddress m.Addr ≠ signer then .ok p
    else
      match p.guardianSetFor m.Hash with
      | none => .ok p -- we haven't initialized our guardian set yet
      | some gs =>
        match gs.keyIndex (bytesToAddress m.Addr) with
        | none => .ok p -- unknown guardian
        | some _ => addSignature p gs (bytesToAddress m.Addr) m now fails

/-! ## Cleanup -/

def nilDereference : String := "invalid memory address or nil pointer dereference"

/-- The VAA is considered settled. -/
def settle (p : Aggregator) (hash : List UInt8) (s : VaaState) : Go Aggregator :=
  -- Use either the most recent (in case of a VAA we haven't seen) or stored gs, if available.
  match s.gs.or p.gs with
  | none => .panic nilDereference
  | some gs => .ok { p.setEntry hash { s with settled := true } with
      settlements := p.settlements ++
        [{ hash, counted := gs.Keys.map fun k => (k, (s.signatures k).isSome) }] }

/-- Send our observation again, or give up an entry that is not ours. -/
def retransmit (p : Aggregator) (hash : List UInt8) (s : VaaState) : Go Aggregator :=
  match s.ourMsg with
  | some msg => .ok { p.setEntry hash { s with retryCount := s.retryCount + 1 } with
      sendC := p.sendC ++ [msg] }
  | none =>
    -- the number of signatures that are wanted is logged
    match p.gs with
    | none => .panic nilDereference
    | some _ => .ok (p.expire hash)

/-- The cases of `handleCleanup` behind the first one. -/
def cleanupRest (p : Aggregator) (hash : List UInt8) (s : VaaState) (delta : Int) : Go Aggregator :=
  if s.settled = false ∧ settlementTime < delta then settle p hash s
  else if s.submitted = true ∧ 3600 * second ≤ delta then .ok (p.expire hash)
  else if s.submitted = false ∧ ((s.ourMsg.isSome ∧ 14400 ≤ s.retryCount) ∨
      (s.ourMsg.isNone ∧ 10 ≤ s.retryCount)) then .ok (p.expire hash)
  else if s.submitted = false ∧ 300 * second ≤ delta then retransmit p hash s
  else .ok p

/-- One entry of `handleCleanup`. -/
def cleanupEntry (p : Aggregator) (hash : List UInt8) (s : VaaState) (now : Int) (fails : Bool) :
    Go Aggregator :=
  let delta := now - s.firstObserved
  match s.ourVAA with
  | some v =>
    if s.submitted = false ∧ settlementTime < delta then
      -- Expire pending VAAs post settlement time if we have a stored quorum VAA.
      match getSignedVAABytes p.db (vaaIDFromVAA v) fails with
      | .found _ => .ok (p.expire hash)
      | _ => settle p hash s -- fallthrough
    else cleanupRest p hash s delta
  | none => cleanupRest p hash s delta

/-- `handleCleanup`: the entries are visited in the given order. -/
def handleCleanup (p : Aggregator) (order : List (List UInt8)) (now : Int)
    (fails : List UInt8 → Bool) : Go Aggregator :=
  order.foldlM (fun p hash =>
    match p.vaaSignatures.lookup hash with
    | some s => cleanupEntry p hash s now (fails hash)
    | none => .ok p) p

/-! ## Runs -/

/-- An event of `Run`. -/
inductive Input where
  | guardianSet (gs : GuardianSet)
  | message (k : MessagePublication) (now : Int) (fails : Bool)
  | injection (v : VAA) (now : Int)
  | observation (m : SignedObservation) (now : Int) (fails : Bool)
  | inbound (m : List UInt8) (faults : DbFaults)
  | cleanup (order : List (List UInt8)) (now : Int) (fails : List UInt8 → Bool)

/-- One event; a panic ends the node. -/
def handle (p : Aggregator) : Input → Go Aggregator
  | .guardianSet gs => .ok { p with gs := some gs }
  | .message k now fails => handleMessage crypto gk p k now fails
  | .injection v now => handleInjection crypto gk p v now
  | .observation m now fails => handleObservation crypto p m now fails
  | .inbound m faults =>
    match handleInboundSignedVAAWithQuorum crypto p.toProcessor m faults with
    | .error msg => .panic msg
    | .ok q => .ok { p with toProcessor := q }
  | .cleanup order now fails => handleCleanup p order now fails

/-- `NewProcessor`, on a store. -/
def newProcessor (db : Database) : Aggregator where
  gs := none
  db := db
  reported := []
  vaaSignatures := ∅
  sendC := []
  obsvC := []
  publications := []
  settlements := []

/-- What is promised of an event: a guardian set has distinct keys, at most 255 of them, and a cleanup
visits every entry once. -/
def Input.Admissible (p : Aggregator) : Input → Prop
  | .guardianSet gs => gs.Keys.Nodup ∧ gs.Keys.length ≤ 255
  | .cleanup order _ _ => order.Perm p.vaaSignatures.keys
  | _ => True

/-- The node handles an event without a panic. -/
def step (p : Aggregator) (input : Input) : Option Aggregator :=
  match handle crypto gk p input with
  | .ok p' => some p'
  | _ => none

end Handlers

end Wormhole.Guardian

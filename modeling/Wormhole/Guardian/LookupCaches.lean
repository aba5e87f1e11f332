/-
# Wormhole.Guardian.LookupCaches — the caches in front of the validator's store.

The validator looks the sender of a transfer up in a cache first, and in the store only when the cache does
not know it (`node/pkg/alephium/validation.go`); nothing ever leaves the cache.  So a validator whose store has
been written to since may decide otherwise than one started just now.  The contract service
(`contractserver.go`) has caches of the same kind over the same store, but its maps are never made: the first
lookup that finds something panics.  `decidesAlike_iff` says which histories show neither.
-/
import Mathlib
import Wormhole.Lib.Go
import Wormhole.Lib.ReadThrough
import Wormhole.Lib.Transition
import Wormhole.Guardian.AlephiumEvent
import Wormhole.Guardian.Validator

namespace Wormhole.Guardian.Alephium

open Wormhole.Lib Wormhole.Lib.ReadThrough Wormhole.Lib.Transition

/-! ## The contract service -/

/-- A map of Go; `none` is the nil map, which reads like an empty one. -/
abbrev GoMap (κ β : Type) := Option (κ → Option β)

namespace GoMap

variable {κ β : Type}

def get (m : GoMap κ β) (k : κ) : Option β := m.bind (· k)

def set [DecidableEq κ] (m : GoMap κ β) (k : κ) (b : β) : Go (GoMap κ β) :=
  match m with
  | none => .panic "assignment to entry in nil map"
  | some f => .ok (some (Function.update f k (some b)))

end GoMap

structure ContractService where
  tokenWrapperCache : GoMap Byte32 ContractAddress
  tokenBridgeForChainCache : GoMap UInt16 ContractAddress

namespace ContractService

/-- `contractServiceRunnable`: only the store of the service is set. -/
def new : ContractService where
  tokenWrapperCache := none
  tokenBridgeForChainCache := none

def getTokenWrapper (c : ContractService) (db : Db) (tokenId : Byte32) :
    Go (ContractService × Except String ContractAddress) :=
  match c.tokenWrapperCache.get tokenId with
  | some value => .ok (c, .ok value)
  | none =>
    match db (tokenWrapperKey tokenId) with
    | none => .ok (c, .error "Key not found")
    | some contractAddress => do
      let tokenWrapperCache ← c.tokenWrapperCache.set tokenId contractAddress
      return ({ c with tokenWrapperCache }, .ok contractAddress)

def getTokenBridgeForChain (c : ContractService) (db : Db) (chainId : UInt16) :
    Go (ContractService × Except String ContractAddress) :=
  match c.tokenBridgeForChainCache.get chainId with
  | some value => .ok (c, .ok value)
  | none =>
    match db (chainKey chainId) with
    | none => .ok (c, .error "Key not found")
    | some contractAddress => do
      let tokenBridgeForChainCache ← c.tokenBridgeForChainCache.set chainId contractAddress
      return ({ c with tokenBridgeForChainCache }, .ok contractAddress)

/-- `GetTokenWrapperAddress`, on the bytes behind the hex string of the request. -/
def getTokenWrapperAddress (c : ContractService) (db : Db) (bytes : List UInt8) :
    Go (ContractService × Except String ContractAddress) :=
  if h : bytes.length = 32 then c.getTokenWrapper db ⟨bytes, h⟩
  else .ok (c, .error "invalid token id")

def getTokenBridgeForChainAddress (c : ContractService) (db : Db) (chainId : UInt32) :
    Go (ContractService × Except String ContractAddress) :=
  c.getTokenBridgeForChain db chainId.toUInt16

end ContractService

/-! ## Histories -/

/-- The validator and the contract service, over one store. -/
structure Lookups where
  validator : Validator
  service : ContractService

/-- What happens to them.  `addTokenWrapper` and `addRemoteChain` are batches of one write. -/
inductive LookupInput where
  | validate (m : TransferMessage)
  | write (b : Batch)
  | getTokenWrapperAddress (bytes : List UInt8)
  | getTokenBridgeForChainAddress (chainId : UInt32)
  | restart

/-- `newValidator`, over the same store. -/
def Validator.restarted (v : Validator) : Validator :=
  { v with remoteChainCache := fun _ => none, tokenWrapperCache := fun _ => none }

def Lookups.restarted (n : Lookups) : Lookups := ⟨n.validator.restarted, .new⟩

def Lookups.handle (n : Lookups) : LookupInput → Go Lookups
  | .validate m => do
    let (validator, _) ← validateTransferMessage n.validator m
    return { n with validator }
  | .write b => .ok { n with validator := { n.validator with db := writeBatch n.validator.db b } }
  | .getTokenWrapperAddress bytes => do
    let (service, _) ← n.service.getTokenWrapperAddress n.validator.db bytes
    return { n with service }
  | .getTokenBridgeForChainAddress chainId => do
    let (service, _) ← n.service.getTokenBridgeForChainAddress n.validator.db chainId
    return { n with service }
  | .restart => .ok n.restarted

/-- A node that has panicked is started again. -/
def Lookups.after (n : Lookups) (input : LookupInput) : Lookups :=
  match n.handle input with
  | .ok n' => n'
  | _ => n.restarted

/-! ## The question -/

/-- The transfer message is not dropped. -/
def Validator.Accepts (v : Validator) (m : TransferMessage) : Prop :=
  ∃ v', validateTransferMessage v m = .ok (v', .ok ())

/-- **Decided by the store alone.** After the input the validator accepts what a validator accepts that is
started now, and handling it has written to no nil map. -/
structure DecidesAlike (n : Lookups) (input : LookupInput) : Prop where
  alike : ∀ m, (n.after input).validator.Accepts m ↔ (n.after input).validator.restarted.Accepts m
  noNilMap : n.handle input ≠ .panic "assignment to entry in nil map"

theorem contractIdOf_length {address : ContractAddress} (h : address.length = 33) : (address.drop 1).length = 32 := by
  simp [h]

/-- The contract id of a recorded address. -/
def contractIdOf (address : ContractAddress) : Option Byte32 :=
  if h : address.length = 33 then some ⟨address.drop 1, contractIdOf_length h⟩ else none

/-- The value that a batch leaves behind a key. -/
def Batch.last (b : Batch) (key : List UInt8) : Option (List UInt8) := b.reverse.lookup key

/-- **Nothing cached is rewritten.** No batch leaves another contract behind a key whose contract the validator
has cached, and nobody asks the contract service for what is in the store. -/
def KeepsCached (n : Lookups) : LookupInput → Prop
  | .write b =>
    (∀ chainId id address, n.validator.remoteChainCache chainId = some id →
      b.last (chainKey chainId) = some address → contractIdOf address = some id) ∧
    ∀ tokenId id address, n.validator.tokenWrapperCache tokenId = some id →
      b.last (tokenWrapperKey tokenId) = some address → contractIdOf address = some id
  | .getTokenWrapperAddress bytes =>
    ∀ h : bytes.length = 32, n.validator.db (tokenWrapperKey ⟨bytes, h⟩) = none
  | .getTokenBridgeForChainAddress chainId => n.validator.db (chainKey chainId.toUInt16) = none
  | .validate _ | .restart => True

/-! ## What the caches are for -/

/-- The endpoints that the store records. -/
def chainRecord (db : Db) (chainId : UInt16) : Option Byte32 := (db (chainKey chainId)).bind contractIdOf

/-- The wrappers that the store records. -/
def wrapperRecord (db : Db) (tokenId : Byte32) : Option Byte32 :=
  (db (tokenWrapperKey tokenId)).bind contractIdOf

/-- Both caches agree with the store. -/
structure Validator.CachesCoherent (v : Validator) : Prop where
  chain : Coherent (chainRecord v.db) v.remoteChainCache
  wrapper : Coherent (wrapperRecord v.db) v.tokenWrapperCache

theorem contractIdOf_eq_some {address : ContractAddress} {id : Byte32} :
    contractIdOf address = some id ↔ toContractId address = .ok id := by
  unfold contractIdOf toContractId
  split <;> simp

section Validator

variable {v v' : Validator}

theorem getRemoteChain_answers {chainId : UInt16} {id : Byte32} :
    (∃ v', getRemoteChain v chainId = .ok (v', .ok id)) ↔
      answer (chainRecord v.db) v.remoteChainCache chainId = some id := by
  unfold getRemoteChain
  split
  · rename_i id' hcached
    rw [answer_of_some hcached]
    simp
  · rename_i hcached
    rw [answer_of_none hcached, chainRecord]
    split
    · rename_i hnone
      rw [hnone]
      simp
    · rename_i address haddress
      rw [haddress, Option.bind_some, contractIdOf_eq_some]
      constructor
      · rintro ⟨v', hget⟩
        obtain ⟨id', hid, heq⟩ := Go.bind_eq_ok.mp hget
        rw [hid, Except.ok.inj (Prod.mk.inj (Go.ok.inj heq)).2]
      · intro hid
        rw [hid]
        exact ⟨_, rfl⟩

theorem getTokenWrapper_answers {tokenId id : Byte32} :
    (∃ v', getTokenWrapper v tokenId = .ok (v', .ok id)) ↔
      answer (wrapperRecord v.db) v.tokenWrapperCache tokenId = some id := by
  unfold getTokenWrapper
  split
  · rename_i id' hcached
    rw [answer_of_some hcached]
    simp
  · rename_i hcached
    rw [answer_of_none hcached, wrapperRecord]
    split
    · rename_i hnone
      rw [hnone]
      simp
    · rename_i address haddress
      rw [haddress, Option.bind_some, contractIdOf_eq_some]
      constructor
      · rintro ⟨v', hget⟩
        obtain ⟨id', hid, heq⟩ := Go.bind_eq_ok.mp hget
        rw [hid, Except.ok.inj (Prod.mk.inj (Go.ok.inj heq)).2]
      · intro hid
        rw [hid]
        exact ⟨_, rfl⟩

theorem expectedSender_eq_ok {m : TransferMessage} {id : Byte32} :
    (∃ v', expectedSender v m = .ok (v', .ok id)) ↔
      (if m.isNativeToken then answer (chainRecord v.db) v.remoteChainCache m.toChainId
        else answer (wrapperRecord v.db) v.tokenWrapperCache m.tokenId) = some id := by
  unfold expectedSender
  split
  · exact getRemoteChain_answers
  · exact getTokenWrapper_answers

/-- **What is accepted** is a message whose sender is the contract that the lookup answers. -/
theorem accepts_iff {m : TransferMessage} : v.Accepts m ↔
    (if m.isNativeToken then answer (chainRecord v.db) v.remoteChainCache m.toChainId
      else answer (wrapperRecord v.db) v.tokenWrapperCache m.tokenId) = some m.senderId := by
  rw [← expectedSender_eq_ok]
  constructor
  · rintro ⟨v', hvalidate⟩
    obtain ⟨⟨v₁, contractId⟩, hsender, hrest⟩ := Go.bind_eq_ok.mp hvalidate
    cases contractId with
    | error reason => cases hrest
    | ok id =>
      simp only at hrest
      split at hrest
      · rename_i hid
        exact ⟨v₁, by rw [hsender, hid]⟩
      · cases hrest
  · rintro ⟨v₁, hsender⟩
    refine ⟨v₁, ?_⟩
    rw [validateTransferMessage, hsender, Go.ok_bind]
    simp

/-- A message that names its sender by the lookup of a chain. -/
def chainMessage (chainId : UInt16) (senderId : Byte32) : TransferMessage where
  amount := 0
  tokenId := senderId
  tokenChainId := 0
  toAddress := senderId
  toChainId := chainId
  fee := 0
  isNativeToken := true
  senderId

/-- A message that names its sender by the lookup of a token. -/
def tokenMessage (tokenId senderId : Byte32) : TransferMessage where
  amount := 0
  tokenId
  tokenChainId := 0
  toAddress := senderId
  toChainId := 0
  fee := 0
  isNativeToken := false
  senderId

/-- **Deciding like a fresh validator** is having caches that agree with the store. -/
theorem alike_iff : (∀ m, v.Accepts m ↔ v.restarted.Accepts m) ↔ v.CachesCoherent := by
  have hfresh : ∀ m, v.restarted.Accepts m ↔
      (if m.isNativeToken then chainRecord v.db m.toChainId else wrapperRecord v.db m.tokenId) =
        some m.senderId := fun m => accepts_iff
  constructor
  · intro h
    constructor
    · intro chainId id hid
      have haccepted : v.Accepts (chainMessage chainId id) := accepts_iff.mpr (answer_of_some hid)
      exact (hfresh _).mp ((h _).mp haccepted)
    · intro tokenId id hid
      have haccepted : v.Accepts (tokenMessage tokenId id) := accepts_iff.mpr (answer_of_some hid)
      exact (hfresh _).mp ((h _).mp haccepted)
  · intro h m
    rw [accepts_iff, hfresh, coherent_iff.mp h.chain, coherent_iff.mp h.wrapper]

end Validator

/-! ## What one input does -/

theorem writeBatch_last (db : Db) (b : Batch) (key : List UInt8) :
    writeBatch db b key = (b.last key).or (db key) := by
  induction b using List.reverseRecOn with
  | nil => rfl
  | append_singleton b kv ih =>
    obtain ⟨key', value⟩ := kv
    have hwrite : writeBatch db (b ++ [(key', value)]) =
        Function.update (writeBatch db b) key' (some value) := by simp [writeBatch]
    rw [hwrite, Batch.last, List.reverse_append, List.reverse_singleton, List.singleton_append]
    by_cases hkey : key = key'
    · subst hkey
      rw [Function.update_self, List.lookup_cons_self]
      rfl
    · rw [Function.update_of_ne hkey, ih, List.lookup_cons, beq_eq_false_iff_ne.mpr hkey]
      rfl

section Inputs

variable {n : Lookups} {v v' : Validator}

theorem CachesCoherent.getRemoteChain {chainId : UInt16} {result : Except String Byte32}
    (h : v.CachesCoherent) (hget : Alephium.getRemoteChain v chainId = .ok (v', result)) :
    v'.CachesCoherent := by
  unfold Alephium.getRemoteChain at hget
  split at hget
  · rw [← (Prod.mk.inj (Go.ok.inj hget)).1]
    exact h
  · split at hget
    · rw [← (Prod.mk.inj (Go.ok.inj hget)).1]
      exact h
    · rename_i address haddress
      obtain ⟨id, hid, heq⟩ := Go.bind_eq_ok.mp hget
      rw [← (Prod.mk.inj (Go.ok.inj heq)).1]
      refine ⟨h.chain.fill ?_, h.wrapper⟩
      rw [chainRecord, haddress, Option.bind_some, contractIdOf_eq_some, hid]

theorem CachesCoherent.getTokenWrapper {tokenId : Byte32} {result : Except String Byte32}
    (h : v.CachesCoherent) (hget : Alephium.getTokenWrapper v tokenId = .ok (v', result)) :
    v'.CachesCoherent := by
  unfold Alephium.getTokenWrapper at hget
  split at hget
  · rw [← (Prod.mk.inj (Go.ok.inj hget)).1]
    exact h
  · split at hget
    · rw [← (Prod.mk.inj (Go.ok.inj hget)).1]
      exact h
    · rename_i address haddress
      obtain ⟨id, hid, heq⟩ := Go.bind_eq_ok.mp hget
      rw [← (Prod.mk.inj (Go.ok.inj heq)).1]
      refine ⟨h.chain, h.wrapper.fill ?_⟩
      rw [wrapperRecord, haddress, Option.bind_some, contractIdOf_eq_some, hid]

/-- A lookup leaves the caches in agreement with the store. -/
theorem CachesCoherent.validate {m : TransferMessage} {result : Except String Unit}
    (h : v.CachesCoherent) (hvalidate : validateTransferMessage v m = .ok (v', result)) :
    v'.CachesCoherent := by
  obtain ⟨⟨v₁, contractId⟩, hsender, hrest⟩ := Go.bind_eq_ok.mp hvalidate
  have hcoherent : v₁.CachesCoherent := by
    unfold expectedSender at hsender
    split at hsender
    · exact CachesCoherent.getRemoteChain h hsender
    · exact CachesCoherent.getTokenWrapper h hsender
  cases contractId with
  | error reason =>
    rw [← (Prod.mk.inj (Go.ok.inj hrest)).1]
    exact hcoherent
  | ok contractId =>
    simp only at hrest
    split at hrest
    · rw [← (Prod.mk.inj (Go.ok.inj hrest)).1]
      exact hcoherent
    · rw [← (Prod.mk.inj (Go.ok.inj hrest)).1]
      exact hcoherent

theorem CachesCoherent.restarted : v.restarted.CachesCoherent := ⟨coherent_empty, coherent_empty⟩

/-- A batch of writes keeps the agreement when it rewrites nothing cached, and only then. -/
theorem CachesCoherent.write_iff (h : n.validator.CachesCoherent) (b : Batch) :
    { n.validator with db := writeBatch n.validator.db b }.CachesCoherent ↔ KeepsCached n (.write b) := by
  have hkept : ∀ key id, (n.validator.db key).bind contractIdOf = some id →
      ((writeBatch n.validator.db b key).bind contractIdOf = (n.validator.db key).bind contractIdOf ↔
        ∀ address, b.last key = some address → contractIdOf address = some id) := by
    intro key id hid
    rw [writeBatch_last, hid]
    cases b.last key with
    | none => simp [hid]
    | some address => simp
  constructor
  · rintro ⟨hchain, hwrapper⟩
    constructor
    · intro chainId id address hid
      have hsame := h.chain.write_iff.mp hchain chainId id hid
      exact (hkept _ id (h.chain chainId id hid)).mp hsame address
    · intro tokenId id address hid
      have hsame := h.wrapper.write_iff.mp hwrapper tokenId id hid
      exact (hkept _ id (h.wrapper tokenId id hid)).mp hsame address
  · rintro ⟨hchain, hwrapper⟩
    constructor
    · apply h.chain.write_iff.mpr
      intro chainId id hid
      exact (hkept _ id (h.chain chainId id hid)).mpr fun address => hchain chainId id address hid
    · apply h.wrapper.write_iff.mpr
      intro tokenId id hid
      exact (hkept _ id (h.wrapper tokenId id hid)).mpr fun address => hwrapper tokenId id address hid

theorem toContractId_noNilMap (address : ContractAddress) :
    toContractId address ≠ .panic "assignment to entry in nil map" := by
  unfold toContractId
  split <;> simp

/-- The lookups of the validator write to maps that are there. -/
theorem expectedSender_noNilMap (m : TransferMessage) :
    expectedSender v m ≠ .panic "assignment to entry in nil map" := by
  intro hpanic
  unfold expectedSender at hpanic
  split at hpanic
  · unfold Alephium.getRemoteChain at hpanic
    split at hpanic
    · cases hpanic
    · split at hpanic
      · cases hpanic
      · rcases Go.bind_eq_panic.mp hpanic with hpanic | ⟨_, -, hpanic⟩
        · exact toContractId_noNilMap _ hpanic
        · cases hpanic
  · unfold Alephium.getTokenWrapper at hpanic
    split at hpanic
    · cases hpanic
    · split at hpanic
      · cases hpanic
      · rcases Go.bind_eq_panic.mp hpanic with hpanic | ⟨_, -, hpanic⟩
        · exact toContractId_noNilMap _ hpanic
        · cases hpanic

theorem validateTransferMessage_noNilMap (m : TransferMessage) :
    validateTransferMessage v m ≠ .panic "assignment to entry in nil map" := by
  intro hpanic
  rcases Go.bind_eq_panic.mp hpanic with hpanic | ⟨⟨v₁, contractId⟩, -, hpanic⟩
  · exact expectedSender_noNilMap m hpanic
  · cases contractId with
    | error reason => cases hpanic
    | ok contractId =>
      simp only at hpanic
      split at hpanic <;> cases hpanic

/-- What holds before every input: the caches agree with the store, and the service has no maps. -/
structure Lookups.Sound (n : Lookups) : Prop where
  coherent : n.validator.CachesCoherent
  service : n.service = .new

theorem Lookups.Sound.restarted : n.restarted.Sound := ⟨CachesCoherent.restarted, rfl⟩

theorem decidesAlike_of_sound {input : LookupInput} (h : (n.after input).Sound)
    (hpanic : n.handle input ≠ .panic "assignment to entry in nil map") : DecidesAlike n input :=
  ⟨alike_iff.mpr h.coherent, hpanic⟩

/-- A lookup of the validator. -/
theorem Lookups.Sound.validate (h : n.Sound) (m : TransferMessage) :
    (n.after (.validate m)).Sound ∧ n.handle (.validate m) ≠ .panic "assignment to entry in nil map" := by
  have hhandle : n.handle (.validate m) = validateTransferMessage n.validator m >>= fun result =>
      .ok { n with validator := result.1 } := rfl
  cases hvalidate : validateTransferMessage n.validator m with
  | ok result =>
    rw [hvalidate, Go.ok_bind] at hhandle
    rw [Lookups.after, hhandle]
    exact ⟨⟨CachesCoherent.validate h.coherent hvalidate, h.service⟩, by simp⟩
  | error reason =>
    rw [hvalidate, Go.error_bind] at hhandle
    rw [Lookups.after, hhandle]
    exact ⟨.restarted, by simp⟩
  | panic reason =>
    rw [hvalidate, Go.panic_bind] at hhandle
    rw [Lookups.after, hhandle]
    refine ⟨.restarted, fun hpanic => ?_⟩
    rw [Go.panic.inj hpanic] at hvalidate
    exact validateTransferMessage_noNilMap m hvalidate

theorem getTokenWrapper_new {db : Db} {tokenId : Byte32} :
    ContractService.new.getTokenWrapper db tokenId =
      if db (tokenWrapperKey tokenId) = none then .ok (.new, .error "Key not found")
      else .panic "assignment to entry in nil map" := by
  cases hread : db (tokenWrapperKey tokenId) with
  | none => simp [ContractService.getTokenWrapper, ContractService.new, GoMap.get, hread]
  | some address => simp [ContractService.getTokenWrapper, ContractService.new, GoMap.get, GoMap.set, hread]

theorem getTokenBridgeForChain_new {db : Db} {chainId : UInt16} :
    ContractService.new.getTokenBridgeForChain db chainId =
      if db (chainKey chainId) = none then .ok (.new, .error "Key not found")
      else .panic "assignment to entry in nil map" := by
  cases hread : db (chainKey chainId) with
  | none => simp [ContractService.getTokenBridgeForChain, ContractService.new, GoMap.get, hread]
  | some address =>
    simp [ContractService.getTokenBridgeForChain, ContractService.new, GoMap.get, GoMap.set, hread]

/-- A lookup of the contract service: it finds nothing, or it panics. -/
theorem Lookups.Sound.service_lookup (h : n.Sound) {input : LookupInput} {found : Prop} [Decidable found]
    (hhandle : n.handle input = if found then .panic "assignment to entry in nil map" else .ok n) :
    (n.after input).Sound ∧ (DecidesAlike n input ↔ ¬found) := by
  by_cases hfound : found
  · rw [if_pos hfound] at hhandle
    refine ⟨?_, fun halike => absurd hhandle halike.noNilMap, fun hno => absurd hfound hno⟩
    rw [Lookups.after, hhandle]
    exact .restarted
  · rw [if_neg hfound] at hhandle
    have hafter : (n.after input).Sound := by rwa [Lookups.after, hhandle]
    exact ⟨hafter, fun _ => hfound, fun _ => decidesAlike_of_sound hafter (by simp [hhandle])⟩

theorem Lookups.Sound.handle_getTokenWrapperAddress (h : n.Sound) (bytes : List UInt8) :
    n.handle (.getTokenWrapperAddress bytes) =
      if ∃ h : bytes.length = 32, n.validator.db (tokenWrapperKey ⟨bytes, h⟩) ≠ none then
        .panic "assignment to entry in nil map" else .ok n := by
  obtain ⟨validator, service⟩ := n
  obtain rfl : service = .new := h.service
  show (ContractService.new.getTokenWrapperAddress validator.db bytes >>= fun result =>
    Go.ok (Lookups.mk validator result.1)) = _
  unfold ContractService.getTokenWrapperAddress
  by_cases hlength : bytes.length = 32
  · rw [dif_pos hlength, getTokenWrapper_new]
    by_cases hread : validator.db (tokenWrapperKey ⟨bytes, hlength⟩) = none
    · simp [hread]
    · simp [hread, hlength]
  · simp [hlength]

theorem Lookups.Sound.handle_getTokenBridgeForChainAddress (h : n.Sound) (chainId : UInt32) :
    n.handle (.getTokenBridgeForChainAddress chainId) =
      if n.validator.db (chainKey chainId.toUInt16) ≠ none then .panic "assignment to entry in nil map"
      else .ok n := by
  obtain ⟨validator, service⟩ := n
  obtain rfl : service = .new := h.service
  show (ContractService.new.getTokenBridgeForChain validator.db chainId.toUInt16 >>= fun result =>
    Go.ok (Lookups.mk validator result.1)) = _
  rw [getTokenBridgeForChain_new]
  by_cases hread : validator.db (chainKey chainId.toUInt16) = none
  · simp [hread]
  · simp [hread]

/-- **Step.** An input is decided by the store alone when it rewrites nothing cached, and only then. -/
theorem Lookups.Sound.step (h : n.Sound) (input : LookupInput) :
    (DecidesAlike n input ↔ KeepsCached n input) ∧ (DecidesAlike n input → (n.after input).Sound) := by
  cases input with
  | validate m =>
    obtain ⟨hafter, hpanic⟩ := h.validate m
    exact ⟨iff_of_true (decidesAlike_of_sound hafter hpanic) trivial, fun _ => hafter⟩
  | write b =>
    have hwrite := CachesCoherent.write_iff h.coherent b
    refine ⟨⟨fun halike => hwrite.mp (alike_iff.mp halike.alike), fun hkeeps => ?_⟩, fun halike => ?_⟩
    · exact decidesAlike_of_sound ⟨hwrite.mpr hkeeps, h.service⟩ nofun
    · exact ⟨alike_iff.mp halike.alike, h.service⟩
  | getTokenWrapperAddress bytes =>
    obtain ⟨hafter, halike⟩ := h.service_lookup (h.handle_getTokenWrapperAddress bytes)
    refine ⟨halike.trans ?_, fun _ => hafter⟩
    simp [KeepsCached]
  | getTokenBridgeForChainAddress chainId =>
    obtain ⟨hafter, halike⟩ := h.service_lookup (h.handle_getTokenBridgeForChainAddress chainId)
    refine ⟨halike.trans ?_, fun _ => hafter⟩
    simp [KeepsCached]
  | restart =>
    have hafter : (n.after .restart).Sound := .restarted
    exact ⟨iff_of_true (decidesAlike_of_sound hafter nofun) trivial, fun _ => hafter⟩

end Inputs

/-! ## Histories -/

/-- The machine of the lookups.  It takes every input. -/
def Lookups.step (n : Lookups) (input : LookupInput) : Option Lookups := some (n.after input)

/-- A validator over some store, and a contract service, both started now. -/
structure Lookups.Started (n : Lookups) : Prop where
  remoteChainCache : ∀ chainId, n.validator.remoteChainCache chainId = none
  tokenWrapperCache : ∀ tokenId, n.validator.tokenWrapperCache tokenId = none
  service : n.service = .new

/-- **Which histories are decided by the store alone.** After every input of the history the validator accepts
what one accepts that is started on the same store, and no lookup writes to a nil map: this holds exactly
when no input leaves another contract behind a key that is cached, and none asks the contract service for
what is in the store. -/
theorem decidesAlike_iff {n : Lookups} (hstarted : n.Started) (inputs : List LookupInput) :
    Along Lookups.step DecidesAlike n inputs ↔ Along Lookups.step KeepsCached n inputs := by
  have hsound : n.Sound := by
    refine ⟨⟨fun chainId id hid => ?_, fun tokenId id hid => ?_⟩, hstarted.service⟩
    · rw [hstarted.remoteChainCache chainId] at hid
      cases hid
    · rw [hstarted.tokenWrapperCache tokenId] at hid
      cases hid
  obtain ⟨u, hrun⟩ : ∃ u, inputs.foldlM Lookups.step n = some u := by
    clear hstarted hsound
    induction inputs generalizing n with
    | nil => exact ⟨n, rfl⟩
    | cons input inputs ih => exact ih
  refine along_iff hsound (fun n input t hn hstep => ?_) hrun
  obtain rfl := Option.some.inj hstep
  exact hn.step input

/-! ## Inputs -/

def sampleToken : Byte32 := ⟨List.replicate 32 0xc1, rfl⟩

def sampleWrapperId (b : UInt8) : Byte32 := ⟨List.replicate 32 b, rfl⟩

/-- The wrapper `b` is recorded for the token. -/
def recordWrapper (b : UInt8) : Batch := [(tokenWrapperKey sampleToken, contractAddress (sampleWrapperId b))]

/-- A validator that has the wrapper 0xd1 in its store. -/
def sampleLookups : Lookups where
  validator := { freshValidator with db := writeBatch freshValidator.db (recordWrapper 0xd1) }
  service := .new

theorem sampleLookups_started : sampleLookups.Started := ⟨fun _ => rfl, fun _ => rfl, rfl⟩

/-- The wrapper 0xd1 is looked up, and replaced by 0xd2. -/
def replacedWrapper (restart : List LookupInput) : List LookupInput :=
  [.validate (tokenMessage sampleToken (sampleWrapperId 0xd1))] ++ restart ++ [.write (recordWrapper 0xd2)]

/-- With a restart in between, nothing is cached that the write replaces. -/
theorem replacedWrapper_restart :
    Along Lookups.step DecidesAlike sampleLookups (replacedWrapper [.restart]) := by
  refine (decidesAlike_iff sampleLookups_started _).mpr ⟨trivial, fun n hn => ⟨trivial, fun n' hn' => ?_⟩⟩
  obtain rfl := Option.some.inj hn'
  refine ⟨⟨fun chainId id address hid => ?_, fun tokenId id address hid => ?_⟩, fun _ _ => trivial⟩
  · cases hid
  · cases hid

/-- The node after the replacement. -/
def replacedLookups : Lookups :=
  (sampleLookups.after (.validate (tokenMessage sampleToken (sampleWrapperId 0xd1)))).after
    (.write (recordWrapper 0xd2))

/-- **Without one, two validators over one store disagree**: the old wrapper is still accepted, and the new
one is not.  And a lookup of the recorded wrapper by the contract service ends the process. -/
theorem replacedWrapper_disagrees :
    replacedLookups.validator.Accepts (tokenMessage sampleToken (sampleWrapperId 0xd1)) ∧
    ¬replacedLookups.validator.restarted.Accepts (tokenMessage sampleToken (sampleWrapperId 0xd1)) ∧
    ¬replacedLookups.validator.Accepts (tokenMessage sampleToken (sampleWrapperId 0xd2)) ∧
    replacedLookups.validator.restarted.Accepts (tokenMessage sampleToken (sampleWrapperId 0xd2)) ∧
    ¬Along Lookups.step DecidesAlike sampleLookups (replacedWrapper []) ∧
    sampleLookups.handle (.getTokenWrapperAddress sampleToken.val) =
      .panic "assignment to entry in nil map" := by
  have hold : replacedLookups.validator.Accepts (tokenMessage sampleToken (sampleWrapperId 0xd1)) :=
    accepts_iff.mpr (by decide +kernel)
  have hnew : ¬replacedLookups.validator.restarted.Accepts
      (tokenMessage sampleToken (sampleWrapperId 0xd1)) := by
    rw [accepts_iff]
    decide +kernel
  refine ⟨hold, hnew, ?_, accepts_iff.mpr (by decide +kernel), ?_, rfl⟩
  · rw [accepts_iff]
    decide +kernel
  · rintro ⟨-, hrest⟩
    obtain ⟨hwrite, -⟩ := hrest _ rfl
    exact hnew ((hwrite.alike _).mp hold)

end Wormhole.Guardian.Alephium

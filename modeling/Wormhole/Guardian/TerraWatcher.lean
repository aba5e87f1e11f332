/-
# Wormhole.Guardian.TerraWatcher — the messages that the guardians read off Terra.

The watcher (`node/pkg/terra/watcher.go`) gets the events of a transaction as JSON, over the websocket or for
a re-observation, with the attributes in Base64.  `EventsToMessagePublications` keeps what the core contract
has posted.  Anyone can deploy a contract and choose the attributes of its events; what tells the events of
the core contract apart is the attribute `contract_address`, which the chain puts in front of the others: of
several attributes with one key the watcher keeps the first.

`events_forwarded`: of a transaction, whatever contracts it calls, the watcher forwards the messages of the core
contract and nothing else.  `posts_observed` puts this behind the runs of the contract.

JSON is taken as it has been parsed.
-/
import Mathlib
import Wormhole.Lib.Base64
import Wormhole.Lib.Bytes
import Wormhole.Lib.Text
import Wormhole.Lib.Transition
import Wormhole.Lib.Utf8
import Wormhole.Guardian.Db
import Wormhole.Guardian.Multiplexer
import Wormhole.Guardian.Vaa
import Wormhole.Guardian.VaaIds
import Wormhole.Terra.Core
import Wormhole.Terra.MessageIds

namespace Wormhole.Guardian.Terra

open Wormhole.Lib Wormhole.Lib.Bytes Wormhole.Lib.Text Wormhole.Lib.Transition
open Wormhole.Terra (Coin)
open Wormhole.Terra.Core (PostedMessage)

/-! ## Strings and JSON -/

/-- The bytes of a string, as Go has it. -/
def text (s : String) : List UInt8 := Utf8.encode s.toList

/-- The bytes, one by one. -/
def chars (bs : List UInt8) : List Char := bs.map fun b => Char.ofNat b.toNat

/-- A `gjson.Result`: what is no object or array is known by its string. -/
inductive Json where
  | null
  | scalar (string : List UInt8)
  | obj (raw : List UInt8) (fields : List (List UInt8 × Json))
  | arr (raw : List UInt8) (elements : List Json)

namespace Json

def string : Json → List UInt8
  | .null => []
  | .scalar string => string
  | .obj raw _ => raw
  | .arr raw _ => raw

def isObject : Json → Bool
  | .obj _ _ => true
  | _ => false

/-- `gjson.Get` of a key, if it exists. -/
def get (key : String) : Json → Option Json
  | .obj _ fields => fields.lookup (text key)
  | _ => none

def array : Json → List Json
  | .null => []
  | .arr _ elements => elements
  | json => [json]

end Json

/-! ## The watcher -/

/-- `copy` into 32 bytes. -/
def copy32 (res : List UInt8) : FixedBytes 32 := ⟨(res ++ List.replicate 32 0x00).take 32, padded_length res⟩

/-- `StringToAddress` -/
def StringToAddress (value : List UInt8) : Option Address := (Hex.decodeString (chars value)).map copy32

/-- `StringToHash` -/
def StringToHash (value : List UInt8) : Option (FixedBytes 32) := (Hex.decodeString (chars value)).map copy32

/-- `strconv.ParseInt`, in base 10 and of 64 bits. -/
def parseInt64 (value : List UInt8) : Option Int := atoi (String.ofList (chars value))

/-- `strconv.ParseUint`, in base 10. -/
def parseUint (bits : Nat) (value : List UInt8) : Option Nat :=
  (parseDecimal (String.ofList (chars value))).bind fun n => if n < 2 ^ bits then some n else none

/-- An attribute with its key and its value decoded. -/
def attributeOf (attr : Json) : Option (List UInt8 × List UInt8) := do
  guard attr.isObject
  let keyBase ← attr.get "key"
  let valueBase ← attr.get "value"
  let key ← Base64.decode (chars keyBase.string)
  let value ← Base64.decode (chars valueBase.string)
  return (key, value)

/-- The map that is filled attribute by attribute; a duplicate key is skipped. -/
def mapAttribute (mapped : List (List UInt8 × List UInt8)) (attr : Json) :
    List (List UInt8 × List UInt8) :=
  match attributeOf attr with
  | none => mapped
  | some (key, value) => if (mapped.lookup key).isSome then mapped else mapped ++ [(key, value)]

def mappedAttributes (attributes : Json) : List (List UInt8 × List UInt8) :=
  attributes.array.foldl mapAttribute []

/-- The message of the attributes of one event, if it is of the contract. -/
def messageOf (contract txHash : List UInt8) (mapped : List (List UInt8 × List UInt8)) :
    Option MessagePublication := do
  let contractAddress ← mapped.lookup (text "contract_address")
  -- This is not a wormhole message
  guard (contractAddress = contract)
  let payload ← mapped.lookup (text "message.message")
  let sender ← mapped.lookup (text "message.sender")
  let _ ← mapped.lookup (text "message.chain_id")
  let nonce ← mapped.lookup (text "message.nonce")
  let sequence ← mapped.lookup (text "message.sequence")
  let blockTime ← mapped.lookup (text "message.block_time")
  let senderAddress ← StringToAddress sender
  let txHashValue ← StringToHash txHash
  let payloadValue ← Hex.decodeString (chars payload)
  let blockTimeInt ← parseInt64 blockTime
  let nonceInt ← parseUint 32 nonce
  let sequenceInt ← parseUint 64 sequence
  return {
    txHash := txHashValue
    timestamp := { unix := blockTimeInt, nanosecond := 0 }
    nonce := UInt32.ofNat nonceInt
    sequence := UInt64.ofNat sequenceInt
    emitterChain := ChainIDTerra
    emitterAddress := senderAddress
    payload := payloadValue
    consistencyLevel := 0 }

def eventToMessagePublication (contract txHash : List UInt8) (event : Json) : Option MessagePublication := do
  guard event.isObject
  let eventType := ((event.get "type").map Json.string).getD []
  guard (eventType = text "wasm")
  let attributes ← event.get "attributes"
  messageOf contract txHash (mappedAttributes attributes)

/-- An event that is skipped does not stop the loop. -/
def EventsToMessagePublications (contract txHash : List UInt8) (events : List Json) : List MessagePublication :=
  events.filterMap (eventToMessagePublication contract txHash)

/-- A transaction, of the websocket or of a re-observation, if its hash and its events exist. -/
def onTransaction (contract : List UInt8) (txHashRaw events : Option Json) : List MessagePublication :=
  match txHashRaw, events with
  | some txHash, some events => EventsToMessagePublications contract txHash.string events.array
  | _, _ => []

/-! ## Strings in ASCII -/

section Ascii

/-- Every character has one byte. -/
def Ascii (s : String) : Prop := ∀ c ∈ s.toList, c.toNat < 128

theorem encodeChar_ascii : ∀ n < 128,
    (String.utf8EncodeChar (Char.ofNat n)).map (fun b => Char.ofNat b.toNat) = [Char.ofNat n] := by
  decide +kernel

theorem chars_text {s : String} (h : Ascii s) : chars (text s) = s.toList := by
  unfold Ascii at h
  unfold chars text Utf8.encode
  generalize s.toList = cs at h ⊢
  induction cs with
  | nil => rfl
  | cons c cs ih =>
    obtain ⟨hc, hcs⟩ := List.forall_mem_cons.mp h
    rw [List.flatMap_cons, List.map_append, ih hcs, ← Char.ofNat_toNat c, encodeChar_ascii _ hc]
    rfl

theorem text_injective : Function.Injective text := by
  intro s t h
  have hs : Utf8.decode? (text s) = some s.toList := Utf8.decode?_eq_some.mpr rfl
  have ht : Utf8.decode? (text t) = some t.toList := Utf8.decode?_eq_some.mpr rfl
  rw [h, ht] at hs
  exact String.toList_inj.mp (Option.some.inj hs).symm

theorem text_beq (s t : String) : (text s == text t) = (s == t) := by
  rw [Bool.eq_iff_iff, beq_iff_eq, beq_iff_eq, text_injective.eq_iff]

theorem hexDigit_lt : ∀ n < 16, (hexDigit n).toNat < 128 := by decide

theorem ascii_hexString (bs : List UInt8) : Ascii (hexString bs) := by
  intro c hc
  rw [toList_hexString, List.mem_flatMap] at hc
  obtain ⟨b, -, hc⟩ := hc
  obtain ⟨hhigh, hlow⟩ := nibbles_lt b
  rcases List.mem_cons.mp hc with rfl | hc
  · exact hexDigit_lt _ hhigh
  · rw [List.mem_singleton.mp hc]
    exact hexDigit_lt _ hlow

theorem ascii_repr (n : Nat) : Ascii n.repr := by
  intro c hc
  have hdigit := isDigit_of_mem_repr hc
  rw [Char.isDigit, Bool.and_eq_true, decide_eq_true_eq, decide_eq_true_eq] at hdigit
  have hle : c.toNat ≤ 57 := hdigit.2
  omega

theorem decodeString_text (bs : List UInt8) : Hex.decodeString (chars (text (hexString bs))) = some bs := by
  rw [chars_text (ascii_hexString bs), Hex.decodeString_hexString]

theorem parseUint_text {bits n : Nat} (hn : n < 2 ^ bits) : parseUint bits (text n.repr) = some n := by
  rw [parseUint, chars_text (ascii_repr n), String.ofList_toList, parseDecimal_repr, Option.bind_some, if_pos hn]

theorem parseInt64_text {n : Nat} (hn : n < 2 ^ 63) : parseInt64 (text n.repr) = some (n : Int) := by
  rw [parseInt64, chars_text (ascii_repr n), String.ofList_toList, atoi_repr hn]

end Ascii

/-! ## What the chain reports -/

/-- An event of a transaction, with its attributes in their order. -/
structure Event where
  type : String
  attributes : List (List UInt8 × List UInt8)

/-- An attribute as JSON. -/
structure IsAttribute (json : Json) (attr : List UInt8 × List UInt8) : Prop where
  object : json.isObject = true
  key : ∃ base, json.get "key" = some (.scalar base) ∧ chars base = Base64.encode attr.1
  value : ∃ base, json.get "value" = some (.scalar base) ∧ chars base = Base64.encode attr.2

/-- An event as JSON. -/
structure IsEvent (json : Json) (event : Event) : Prop where
  object : json.isObject = true
  type : json.get "type" = some (.scalar (text event.type))
  attributes : ∃ raw elements, json.get "attributes" = some (.arr raw elements) ∧
    List.Forall₂ IsAttribute elements event.attributes

section Reading

variable {contract txHash : List UInt8}

theorem attributeOf_eq {json : Json} {attr : List UInt8 × List UInt8} (h : IsAttribute json attr) :
    attributeOf json = some attr := by
  obtain ⟨keyBase, hkey, hkeyBytes⟩ := h.key
  obtain ⟨valueBase, hvalue, hvalueBytes⟩ := h.value
  have hkeyRead : Base64.decode (chars (Json.scalar keyBase).string) = some attr.1 := by
    rw [Json.string, hkeyBytes, Base64.decode_encode]
  have hvalueRead : Base64.decode (chars (Json.scalar valueBase).string) = some attr.2 := by
    rw [Json.string, hvalueBytes, Base64.decode_encode]
  simp [attributeOf, h.object, hkey, hvalue, hkeyRead, hvalueRead]

/-- **The first attribute of a key counts.** -/
theorem lookup_foldl_mapAttribute {elements : List Json} {attributes : List (List UInt8 × List UInt8)}
    (h : List.Forall₂ IsAttribute elements attributes) (mapped : List (List UInt8 × List UInt8))
    (key : List UInt8) :
    (elements.foldl mapAttribute mapped).lookup key = (mapped ++ attributes).lookup key := by
  induction h generalizing mapped with
  | nil => rw [List.foldl_nil, List.append_nil]
  | @cons json attr elements attributes hattr _ ih =>
    obtain ⟨k, v⟩ := attr
    rw [List.foldl_cons, ih, mapAttribute, attributeOf_eq hattr]
    dsimp only
    split
    · rename_i hsome
      rw [List.lookup_append, List.lookup_append, List.lookup_cons]
      split
      · rename_i heq
        rw [beq_iff_eq.mp heq]
        obtain ⟨w, hw⟩ := Option.isSome_iff_exists.mp hsome
        rw [hw, Option.some_or, Option.some_or]
      · rfl
    · rw [List.append_assoc, List.singleton_append]

theorem messageOf_congr {mapped mapped' : List (List UInt8 × List UInt8)}
    (h : ∀ key, mapped.lookup key = mapped'.lookup key) :
    messageOf contract txHash mapped = messageOf contract txHash mapped' := by
  simp only [messageOf, h]

/-- **An event**, read. -/
theorem eventToMessagePublication_eq {json : Json} {event : Event} (h : IsEvent json event) :
    eventToMessagePublication contract txHash json =
      if event.type = "wasm" then messageOf contract txHash event.attributes else none := by
  obtain ⟨raw, elements, hattributes, helements⟩ := h.attributes
  have hmapped : messageOf contract txHash (mappedAttributes (.arr raw elements)) =
      messageOf contract txHash event.attributes :=
    messageOf_congr fun key => lookup_foldl_mapAttribute helements [] key
  simp only [eventToMessagePublication, h.object, h.type, hattributes, Option.map_some, Option.getD_some,
    Json.string, text_injective.eq_iff]
  split
  · rename_i hwasm
    simp [hwasm, hmapped]
  · rename_i hother
    simp [hother]

end Reading

/-! ## What the contracts emit -/

/-- An answer of the core contract. -/
inductive Answer where
  | contractUpgrade
  | guardianSetChange (old new : Nat)
  | feeChange (fee : Coin)
  | transferFee
  | posted (m : PostedMessage)

/-- The attributes of the response. -/
def Answer.attributes : Answer → List (String × String)
  | .contractUpgrade => [("action", "contract_upgrade")]
  | .guardianSetChange old new => [("action", "guardian_set_change"), ("old", old.repr), ("new", new.repr)]
  | .feeChange fee =>
    [("action", "fee_change"), ("new_fee.amount", fee.amount.repr), ("new_fee.denom", fee.denom)]
  | .transferFee => []
  | .posted m =>
    [("message.message", hexString m.message), ("message.sender", hexString m.sender),
      ("message.chain_id", m.chainId.repr), ("message.nonce", m.nonce.repr),
      ("message.sequence", m.sequence.repr), ("message.block_time", m.blockTime.repr)]

def Answer.message : Answer → Option PostedMessage
  | .posted m => some m
  | _ => none

/-- A call of a contract has an event if the contract answers with attributes; the chain puts the address of
the contract in front of them. -/
def wasmEvents (address : List UInt8) (attributes : List (List UInt8 × List UInt8)) : List Event :=
  if attributes = [] then [] else [⟨"wasm", (text "contract_address", address) :: attributes⟩]

/-- What the calls and the modules of a transaction emit, one after the other. -/
inductive Emission where
  | core (answer : Answer)
  | contract (address : List UInt8) (attributes : List (List UInt8 × List UInt8))
  | other (event : Event)

def Emission.events (core : List UInt8) : Emission → List Event
  | .core answer => wasmEvents core (answer.attributes.map fun attr => (text attr.1, text attr.2))
  | .contract address attributes => wasmEvents address attributes
  | .other event => [event]

/-- Another contract has another address, and the modules of the chain do not emit events of contracts. -/
def Emission.Lawful (core : List UInt8) : Emission → Prop
  | .core _ => True
  | .contract address _ => address ≠ core
  | .other event => event.type ≠ "wasm"

def Emission.message : Emission → Option PostedMessage
  | .core answer => answer.message
  | _ => none

/-- The numbers of a message have the sizes of their types, and the block its time in 63 bits. -/
structure InRange (m : PostedMessage) : Prop where
  nonce : m.nonce < 2 ^ 32
  sequence : m.sequence < 2 ^ 64
  blockTime : m.blockTime < 2 ^ 63

/-- The message, as the guardians get it. -/
def publicationOf (txHash : FixedBytes 32) (m : PostedMessage) : MessagePublication where
  txHash := txHash
  timestamp := { unix := m.blockTime, nanosecond := 0 }
  nonce := UInt32.ofNat m.nonce
  sequence := UInt64.ofNat m.sequence
  emitterChain := ChainIDTerra
  emitterAddress := copy32 m.sender
  payload := m.message
  consistencyLevel := 0

section Forwarding

variable {core txHash : List UInt8} {hash : FixedBytes 32}

theorem lookup_text (attributes : List (String × String)) (key : String) :
    (attributes.map fun attr => (text attr.1, text attr.2)).lookup (text key) =
      (attributes.lookup key).map text := by
  induction attributes with
  | nil => rfl
  | cons attr attributes ih =>
    rw [List.map_cons, List.lookup_cons, List.lookup_cons, ih, text_beq]
    split <;> rfl

/-- Behind the address in front. -/
theorem lookup_behind_address {address : List UInt8} {attributes : List (List UInt8 × List UInt8)} {key : String}
    (hkey : key ≠ "contract_address") :
    ((text "contract_address", address) :: attributes).lookup (text key) = attributes.lookup (text key) := by
  rw [List.lookup_cons, text_beq, beq_eq_false_iff_ne.mpr hkey]

/-- **A message of the core contract** is read as it was posted. -/
theorem messageOf_posted {m : PostedMessage} (hhash : StringToHash txHash = some hash) (hm : InRange m) :
    messageOf core txHash ((text "contract_address", core) ::
      ((Answer.posted m).attributes.map fun attr => (text attr.1, text attr.2))) = some (publicationOf hash m) := by
  have hsender : StringToAddress (text (hexString m.sender)) = some (copy32 m.sender) := by
    rw [StringToAddress, decodeString_text]
    rfl
  simp [messageOf, Answer.attributes, List.lookup, text_beq, hsender, hhash, decodeString_text,
    parseInt64_text hm.blockTime, parseUint_text hm.nonce, parseUint_text hm.sequence, publicationOf]

/-- What the core contract says of governance is no message. -/
theorem messageOf_governance {answer : Answer} (h : answer.message = none) :
    messageOf core txHash ((text "contract_address", core) ::
      (answer.attributes.map fun attr => (text attr.1, text attr.2))) = none := by
  have hnone : answer.attributes.lookup "message.message" = none := by
    cases answer with
    | posted m => cases h
    | _ => simp [Answer.attributes, List.lookup]
  have hpayload : ((text "contract_address", core) ::
      (answer.attributes.map fun attr => (text attr.1, text attr.2))).lookup (text "message.message") = none := by
    rw [lookup_behind_address (by decide), lookup_text, hnone]
    rfl
  rw [messageOf, hpayload, List.lookup_cons_self, Option.bind_eq_bind, Option.bind_some, guard, if_pos rfl]
  rfl

/-- An event of another contract is no message, whatever its attributes. -/
theorem messageOf_foreign {address : List UInt8} {attributes : List (List UInt8 × List UInt8)}
    (h : address ≠ core) : messageOf core txHash ((text "contract_address", address) :: attributes) = none := by
  rw [messageOf, List.lookup_cons_self, Option.bind_eq_bind, Option.bind_some, guard, if_neg h]
  rfl

/-- **An emission**, read event by event. -/
theorem filterMap_events {emission : Emission} (hhash : StringToHash txHash = some hash)
    (hlawful : emission.Lawful core) (hrange : ∀ m, emission.message = some m → InRange m) :
    ((emission.events core).filterMap fun event =>
      if event.type = "wasm" then messageOf core txHash event.attributes else none) =
      (emission.message.map (publicationOf hash)).toList := by
  cases emission with
  | core answer =>
    rw [Emission.events, Emission.message, wasmEvents]
    cases hanswer : answer.message with
    | none =>
      split
      · rfl
      · rw [List.filterMap_cons, if_pos rfl, messageOf_governance hanswer]
        rfl
    | some m =>
      cases answer with
      | posted m' =>
        obtain rfl : m' = m := Option.some.inj hanswer
        rw [if_neg (by simp [Answer.attributes]), List.filterMap_cons, if_pos rfl,
          messageOf_posted hhash (hrange m' rfl)]
        rfl
      | _ => cases hanswer
  | contract address attributes =>
    rw [Emission.events, wasmEvents]
    split
    · rfl
    · rw [List.filterMap_cons, if_pos rfl, messageOf_foreign hlawful]
      rfl
  | other event =>
    rw [Emission.events, List.filterMap_cons, if_neg hlawful]
    rfl

/-- **One transaction.**  Of whatever is emitted the messages of the core contract are forwarded, in their order,
and nothing else. -/
theorem events_forwarded {emissions : List Emission} {events : List Json}
    (hhash : StringToHash txHash = some hash) (hlawful : ∀ e ∈ emissions, e.Lawful core)
    (hrange : ∀ e ∈ emissions, ∀ m, e.message = some m → InRange m)
    (hevents : List.Forall₂ IsEvent events (emissions.flatMap (Emission.events core))) :
    EventsToMessagePublications core txHash events =
      (emissions.filterMap Emission.message).map (publicationOf hash) := by
  have hread : EventsToMessagePublications core txHash events =
      (emissions.flatMap (Emission.events core)).filterMap fun event =>
        if event.type = "wasm" then messageOf core txHash event.attributes else none := by
    unfold EventsToMessagePublications
    generalize emissions.flatMap (Emission.events core) = reported at hevents ⊢
    induction hevents with
    | nil => rfl
    | cons hevent _ ih => rw [List.filterMap_cons, List.filterMap_cons, eventToMessagePublication_eq hevent, ih]
  rw [hread]
  clear hread hevents
  induction emissions with
  | nil => rfl
  | cons emission emissions ih =>
    obtain ⟨hfirst, hrest⟩ := List.forall_mem_cons.mp hlawful
    obtain ⟨hrangeFirst, hrangeRest⟩ := List.forall_mem_cons.mp hrange
    rw [List.flatMap_cons, List.filterMap_append, ih hrest hrangeRest,
      filterMap_events hhash hfirst hrangeFirst, List.filterMap_cons]
    cases emission.message <;> rfl

end Forwarding

/-! ## Runs of the contract -/

/-- A transaction: what it emits, and what the node gets of it. -/
structure Transaction where
  txHash : FixedBytes 32
  emissions : List Emission
  reportedHash : Json
  raw : List UInt8
  reported : List Json

namespace Transaction

/-- The node gets the hash of the transaction and its events. -/
structure Reported (core : List UInt8) (tx : Transaction) : Prop where
  hash : StringToHash tx.reportedHash.string = some tx.txHash
  lawful : ∀ e ∈ tx.emissions, e.Lawful core
  events : List.Forall₂ IsEvent tx.reported (tx.emissions.flatMap (Emission.events core))

def messages (tx : Transaction) : List PostedMessage := tx.emissions.filterMap Emission.message

def forwarded (core : List UInt8) (tx : Transaction) : List MessagePublication :=
  onTransaction core (some tx.reportedHash) (some (.arr tx.raw tx.reported))

end Transaction

/-- What the guardians take from a message. -/
structure Observes (m : PostedMessage) (p : MessagePublication) : Prop where
  payload : p.payload = m.message
  nonce : p.nonce.toNat = m.nonce
  sequence : p.sequence.toNat = m.sequence
  emitterChain : p.emitterChain = ChainIDTerra
  emitterAddress : p.emitterAddress.val = m.sender
  timestamp : p.timestamp = { unix := m.blockTime, nanosecond := 0 }
  consistencyLevel : p.consistencyLevel = 0

/-- Messages have nonces of 32 bits, and blocks times of 63. -/
def Sized : Terra.Core.ExecuteMsg → Prop
  | .submitVAA _ _ => True
  | .postMessage blockTime _ _ _ nonce => nonce < 2 ^ 32 ∧ blockTime < 2 ^ 63

section Runs

variable {ρ κ : Type} {crypto : Terra.Core.Crypto ρ κ} {api : Terra.Core.Api}
  {msg : Terra.Core.InstantiateMsg} {t : Terra.Core.State × List PostedMessage}

/-- The messages of a run can be told. -/
theorem inRange_of_run
    (hrun : Run (logging (Terra.Core.step crypto api) (Terra.Core.posts crypto api)) (fun _ msg => Sized msg)
      (Terra.Core.instantiate msg, []) t) :
    ∀ m ∈ t.2, InRange m ∧ m.sender.length = 32 := by
  have hcounted := Terra.Core.counted_of_run hrun
  have hsized : ∀ m ∈ t.2, m.nonce < 2 ^ 32 ∧ m.blockTime < 2 ^ 63 := by
    refine hrun.invariant (I := fun t => ∀ m ∈ t.2, m.nonce < 2 ^ 32 ∧ m.blockTime < 2 ^ 63) ?_ nofun
    intro s msg s' hs hok hstep m hm
    rw [(logging_eq_some.mp hstep).2, List.mem_append] at hm
    rcases hm with hm | hm
    · exact hs m hm
    · obtain ⟨sender, funds, canonical, rfl, -, -, -⟩ := Terra.Core.postedBy_of_mem_posts crypto api hm
      exact hok
  intro m hm
  obtain ⟨n, hn, hsequence⟩ := hcounted.numbered.number_eq hm
  refine ⟨⟨(hsized m hm).1, ?_, (hsized m hm).2⟩, (hcounted.emitted m hm).2⟩
  have hbound := hcounted.bounded m.sender
  rw [hsequence]
  exact hn.trans hbound

theorem observes_publicationOf {txHash : FixedBytes 32} {m : PostedMessage} (hm : InRange m)
    (hsender : m.sender.length = 32) : Observes m (publicationOf txHash m) where
  payload := rfl
  nonce := UInt32.toNat_ofNat_of_lt' hm.nonce
  sequence := UInt64.toNat_ofNat_of_lt' hm.sequence
  emitterChain := rfl
  emitterAddress := by
    show (m.sender ++ List.replicate 32 0x00).take 32 = m.sender
    rw [List.take_append_of_le_length hsender.ge, List.take_of_length_le hsender.le]
  timestamp := rfl
  consistencyLevel := rfl

/-- What is forwarded of a history, message by message. -/
theorem forall₂_forwarded {core : List UInt8} {history : List Transaction}
    (hreported : ∀ tx ∈ history, tx.Reported core)
    (hrange : ∀ m ∈ history.flatMap Transaction.messages, InRange m ∧ m.sender.length = 32) :
    List.Forall₂ Observes (history.flatMap Transaction.messages) (history.flatMap (Transaction.forwarded core)) := by
  induction history with
  | nil => exact List.Forall₂.nil
  | cons tx history ih =>
    obtain ⟨hfirst, hrest⟩ := List.forall_mem_cons.mp hreported
    rw [List.flatMap_cons] at hrange ⊢
    obtain ⟨hrangeFirst, hrangeRest⟩ := List.forall_mem_append.mp hrange
    have hforwarded : tx.forwarded core = tx.messages.map (publicationOf tx.txHash) := by
      refine events_forwarded hfirst.hash hfirst.lawful ?_ hfirst.events
      intro e he m hm
      exact (hrangeFirst m (List.mem_filterMap.mpr ⟨e, he, hm⟩)).1
    rw [List.flatMap_cons, hforwarded]
    refine List.rel_append ?_ (ih hrest hrangeRest)
    rw [List.forall₂_map_right_iff, List.forall₂_same]
    intro m hm
    exact observes_publicationOf (hrangeFirst m hm).1 (hrangeFirst m hm).2

/-- What identifies the observed messages is what identifies the posts. -/
theorem ids_of_observes {posted : List PostedMessage} {observed : List MessagePublication}
    (h : List.Forall₂ Observes posted observed) :
    (observed.map fun p => (p.emitterAddress.val, p.sequence.toNat)) =
      posted.map fun m => (m.sender, m.sequence) := by
  induction h with
  | nil => rfl
  | cons hfirst _ ih => rw [List.map_cons, List.map_cons, ih, hfirst.emitterAddress, hfirst.sequence]

end Runs

/-- **What the guardians observe of Terra.**  In every state of the core contract that posts and governance
reach, and for every history of transactions that has posted its messages, with whatever other contracts and
modules have emitted among them: the watcher forwards exactly the posted messages, in their order and
unchanged, so that the messages of an emitter have the sequence numbers from zero up to its counter, and no two
have the same id. -/
theorem posts_observed {ρ κ : Type} (crypto : Terra.Core.Crypto ρ κ) (api : Terra.Core.Api)
    (msg : Terra.Core.InstantiateMsg) {t : Terra.Core.State × List PostedMessage}
    (hrun : Run (logging (Terra.Core.step crypto api) (Terra.Core.posts crypto api)) (fun _ msg => Sized msg)
      (Terra.Core.instantiate msg, []) t)
    {core : List UInt8} {history : List Transaction} (hreported : ∀ tx ∈ history, tx.Reported core)
    (hhistory : history.flatMap Transaction.messages = t.2) :
    List.Forall₂ Observes t.2 (history.flatMap (Transaction.forwarded core)) ∧
    (∀ emitter : Address, (((history.flatMap (Transaction.forwarded core)).filter fun p =>
      p.emitterAddress = emitter).map fun p => p.sequence.toNat) = List.range (t.1.sequences emitter.val)) ∧
    ((history.flatMap (Transaction.forwarded core)).map fun p =>
      (p.emitterChain, p.emitterAddress, p.sequence)).Nodup := by
  have hcounted := Terra.Core.counted_of_run hrun
  have hobserves : List.Forall₂ Observes t.2 (history.flatMap (Transaction.forwarded core)) := by
    have hrange := inRange_of_run hrun
    rw [← hhistory] at hrange ⊢
    exact forall₂_forwarded hreported hrange
  generalize history.flatMap (Transaction.forwarded core) = forwarded at hobserves ⊢
  have hids := ids_of_observes hobserves
  refine ⟨hobserves, ?_, ?_⟩
  · intro emitter
    have hnumbers := hcounted.numbered emitter.val
    rw [List.map_id] at hnumbers
    rw [← hnumbers]
    have hfilter := congrArg (fun ids => (ids.filter fun id => id.1 = emitter.val).map Prod.snd) hids
    simp only [List.filter_map, List.map_map] at hfilter
    have hemitter : (fun p : MessagePublication => decide (p.emitterAddress = emitter)) =
        fun p => decide (p.emitterAddress.val = emitter.val) :=
      funext fun p => decide_eq_decide.mpr Subtype.ext_iff
    rw [hemitter]
    exact hfilter
  · have hnodup := hcounted.numbered.nodup fun _ => Function.injective_id.injOn
    rw [← hids] at hnodup
    refine List.Nodup.of_map (fun id : ChainID × Address × UInt64 => (id.2.1.val, id.2.2.toNat)) ?_
    rwa [List.map_map]

/-! ## A forged event -/

section Samples

/-- A string as it stands in the JSON of an attribute. -/
def base64Text (bs : List UInt8) : List UInt8 := text (String.ofList (Base64.encode bs))

def attributeJson (attr : List UInt8 × List UInt8) : Json :=
  .obj [] [(text "key", .scalar (base64Text attr.1)), (text "value", .scalar (base64Text attr.2))]

def eventJson (event : Event) : Json :=
  .obj [] [(text "type", .scalar (text event.type)),
    (text "attributes", .arr [] (event.attributes.map attributeJson))]

theorem chars_base64Text (bs : List UInt8) : chars (base64Text bs) = Base64.encode bs := by
  have hascii : Ascii (String.ofList (Base64.encode bs)) := by
    rw [Ascii, String.toList_ofList]
    exact Base64.encode_ascii bs
  rw [base64Text, chars_text hascii, String.toList_ofList]

theorem isAttribute_attributeJson (attr : List UInt8 × List UInt8) : IsAttribute (attributeJson attr) attr where
  object := rfl
  key := ⟨_, by simp [attributeJson, Json.get, List.lookup], chars_base64Text _⟩
  value := ⟨_, by simp [attributeJson, Json.get, List.lookup, text_beq], chars_base64Text _⟩

theorem isEvent_eventJson (event : Event) : IsEvent (eventJson event) event where
  object := rfl
  type := by simp [eventJson, Json.get, List.lookup]
  attributes := by
    refine ⟨[], event.attributes.map attributeJson, by simp [eventJson, Json.get, List.lookup, text_beq], ?_⟩
    rw [List.forall₂_map_left_iff, List.forall₂_same]
    exact fun attr _ => isAttribute_attributeJson attr

/-- The message that is posted twice. -/
def samplePosted (sequence : Nat) : PostedMessage where
  message := [0x01]
  sender := List.replicate 12 0x00 ++ List.replicate 20 0x09
  chainId := 3
  nonce := 7
  sequence
  blockTime := 1

def sampleCore : List UInt8 := text "terra1core"

/-- Another contract gives its event the address of the core contract and the attributes of a message. -/
def forgedEmission : Emission :=
  .contract (text "terra1forger") ((text "contract_address", sampleCore) ::
    ((Answer.posted (samplePosted 5)).attributes.map fun attr => (text attr.1, text attr.2)))

theorem sampleTxHash_length : (List.replicate 32 (0x07 : UInt8)).length = 32 := rfl

def sampleTransaction : Transaction :=
  let emissions := [forgedEmission, .core (.posted (samplePosted 0)), .core (.guardianSetChange 0 1), forgedEmission,
    .core (.posted (samplePosted 1))]
  { txHash := ⟨List.replicate 32 0x07, sampleTxHash_length⟩
    emissions
    reportedHash := .scalar (text (hexString (List.replicate 32 0x07)))
    raw := []
    reported := (emissions.flatMap (Emission.events sampleCore)).map eventJson }

theorem sampleTransaction_reported : sampleTransaction.Reported sampleCore where
  hash := by
    show (Hex.decodeString (chars (text (hexString (List.replicate 32 0x07))))).map copy32 = _
    rw [decodeString_text]
    rfl
  lawful := by
    have hforged : forgedEmission.Lawful sampleCore := text_injective.ne (by decide)
    exact List.forall_mem_cons.mpr ⟨hforged, List.forall_mem_cons.mpr ⟨trivial, List.forall_mem_cons.mpr ⟨trivial,
      List.forall_mem_cons.mpr ⟨hforged, List.forall_mem_cons.mpr ⟨trivial, nofun⟩⟩⟩⟩⟩
  events := by
    rw [sampleTransaction, List.forall₂_map_left_iff, List.forall₂_same]
    exact fun event _ => isEvent_eventJson event

/-- The two messages are forwarded, and the forged ones are not. -/
theorem forged_ignored : ∃ t,
    Run (logging (Terra.Core.step Terra.Core.sampleCrypto Terra.Core.oneAddress)
      (Terra.Core.posts Terra.Core.sampleCrypto Terra.Core.oneAddress)) (fun _ msg => Sized msg)
      (Terra.Core.instantiate Terra.Core.sampleMsg, []) t ∧
    t.2 = [samplePosted 0, samplePosted 1] ∧
    List.Forall₂ Observes t.2 ([sampleTransaction].flatMap (Transaction.forwarded sampleCore)) := by
  let t := attempts (logging (Terra.Core.step Terra.Core.sampleCrypto Terra.Core.oneAddress)
    (Terra.Core.posts Terra.Core.sampleCrypto Terra.Core.oneAddress)) (Terra.Core.instantiate Terra.Core.sampleMsg, [])
    Terra.Core.sampleMessages
  have hrun : Run (logging (Terra.Core.step Terra.Core.sampleCrypto Terra.Core.oneAddress)
      (Terra.Core.posts Terra.Core.sampleCrypto Terra.Core.oneAddress)) (fun _ msg => Sized msg)
      (Terra.Core.instantiate Terra.Core.sampleMsg, []) t :=
    run_attempts (P := Sized) _ _ (by simp [Terra.Core.sampleMessages, Sized])
  have hposted : t.2 = [samplePosted 0, samplePosted 1] := by decide +kernel
  exact ⟨t, hrun, hposted, (posts_observed _ _ _ hrun (List.forall_mem_singleton.mpr sampleTransaction_reported)
    hposted.symm).1⟩

end Samples

end Wormhole.Guardian.Terra

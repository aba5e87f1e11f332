/-
# Wormhole.Guardian.SolanaMessages — the accounts that the Solana watcher reads messages from.

`fetchMessageAccount` of `node/pkg/solana/client.go` forwards what it finds in an account if the core program owns it
and its data start with "msg".  It asks neither what kind of account it is, nor whether the data end with the
message.  The program has accounts of other kinds, and callers choose much of what stands in them.

`accounts_observed`: in every run of the program, whatever account the watcher is led to and whenever it looks, it
forwards something only if a message has been posted into this account, and then this message.  What tells the other
accounts from messages is that they are shorter, or that a number stands where "msg" would have to; a guardian set
has its index there, so that those with an index like 6779757 are out of the statement.
-/
import Mathlib
import Wormhole.Lib.Bytes
import Wormhole.Lib.Codec
import Wormhole.Lib.Counters
import Wormhole.Lib.Failing
import Wormhole.Lib.Transition
import Wormhole.Guardian.Vaa
import Wormhole.Guardian.Multiplexer
import Wormhole.Solana.Solitaire
import Wormhole.Solana.Accounts
import Wormhole.Solana.Core
import Wormhole.Solana.Instructions
import Wormhole.Solana.PostedVaa
import Wormhole.Solana.MessageIds

namespace Wormhole.Guardian.SolanaMessages

open Wormhole.Lib Wormhole.Lib.Bytes Wormhole.Lib.Transition
open Wormhole.Solana Wormhole.Solana.Core

/-! ## Reading an account -/

structure MessagePublicationAccount where
  vaaVersion : UInt8
  consistencyLevel : UInt8
  vaaTime : UInt32
  vaaSignatureAccount : Guardian.Address
  submissionTime : UInt32
  nonce : UInt32
  sequence : UInt64
  emitterChain : UInt16
  emitterAddress : Guardian.Address
  payload : Vec UInt8

/-- The fields one after the other, as `borsh` reads and writes them. -/
def MessagePublicationAccount.codec : Codec Unit MessagePublicationAccount :=
  ((Codec.uint8 ()).pair ((Codec.uint8 ()).pair ((Codec.uint32 ()).pair ((Codec.array () 32).pair
    ((Codec.uint32 ()).pair ((Codec.uint32 ()).pair ((Codec.uint64 ()).pair ((Codec.uint16 ()).pair
      ((Codec.array () 32).pair (Codec.list (Codec.uint32 ()) (Codec.uint8 ()) ())))))))))).iso
    { toFun := fun p => ⟨p.1, p.2.1, p.2.2.1, p.2.2.2.1, p.2.2.2.2.1, p.2.2.2.2.2.1, p.2.2.2.2.2.2.1,
        p.2.2.2.2.2.2.2.1, p.2.2.2.2.2.2.2.2.1, p.2.2.2.2.2.2.2.2.2⟩
      invFun := fun a => (a.vaaVersion, a.consistencyLevel, a.vaaTime, a.vaaSignatureAccount, a.submissionTime,
        a.nonce, a.sequence, a.emitterChain, a.emitterAddress, a.payload)
      left_inv := fun _ => rfl
      right_inv := fun _ => rfl }

/-- `borsh.Deserialize` behind the prefix, which leaves what follows the message. -/
def ParseMessagePublicationAccount (data : List UInt8) : Option MessagePublicationAccount :=
  ((MessagePublicationAccount.codec.read.run (data.drop 3)).map Prod.fst).toOption

section Watcher

variable {PublicKey : Type} [DecidableEq PublicKey]

def processMessageAccount (toBytes : PublicKey → FixedBytes 32) (data : List UInt8) (acc : PublicKey) :
    Option MessagePublication :=
  (ParseMessagePublicationAccount data).map fun proposal =>
    { txHash := toBytes acc
      timestamp := ⟨proposal.submissionTime.toNat, 0⟩
      nonce := proposal.nonce
      sequence := proposal.sequence
      consistencyLevel := proposal.consistencyLevel
      emitterChain := ChainIDSolana
      emitterAddress := proposal.emitterAddress
      payload := proposal.payload.val }

/-- "msg" -/
def messagePrefix : List UInt8 := [0x6d, 0x73, 0x67]

/-- `fetchMessageAccount`, with the account that the node answers: what is forwarded, if anything is.  The slice of
the first three bytes of shorter data may end the process instead. -/
def fetchMessageAccount (contract : PublicKey) (toBytes : PublicKey → FixedBytes 32) (info : Account PublicKey)
    (acc : PublicKey) : Option MessagePublication :=
  if info.owner ≠ contract then none
  else if info.data.take 3 ≠ messagePrefix then none
  else processMessageAccount toBytes info.data acc

end Watcher

/-- The fields in front of the payload have 88 bytes, and its length four. -/
theorem write_length (a : MessagePublicationAccount) :
    (MessagePublicationAccount.codec.write a).length = 92 + a.payload.val.length := by
  have hpayload : (a.payload.val.flatMap (Codec.uint8 ()).write).length = a.payload.val.length * 1 :=
    Codec.flatMap_write_length (fun b => by simp) _
  have hwrite : MessagePublicationAccount.codec.write a = (Codec.uint8 ()).write a.vaaVersion ++
      ((Codec.uint8 ()).write a.consistencyLevel ++ ((Codec.uint32 ()).write a.vaaTime ++
        (a.vaaSignatureAccount.val ++ ((Codec.uint32 ()).write a.submissionTime ++ ((Codec.uint32 ()).write a.nonce ++
          ((Codec.uint64 ()).write a.sequence ++ ((Codec.uint16 ()).write a.emitterChain ++ (a.emitterAddress.val ++
            ((Codec.uint32 ()).write (UInt32.ofNat a.payload.val.length) ++
              a.payload.val.flatMap (Codec.uint8 ()).write))))))))) := rfl
  simp only [hwrite, List.length_append, Codec.uint8_write, Codec.uint16_write, Codec.uint32_write,
    Codec.uint64_write, List.length_reverse, beBytes_length, List.length_singleton, a.vaaSignatureAccount.property,
    a.emitterAddress.property, hpayload]
  omega

theorem parse_eq_some {data : List UInt8} {a : MessagePublicationAccount} :
    ParseMessagePublicationAccount data = some a ↔
      ∃ rest, data.drop 3 = MessagePublicationAccount.codec.write a ++ rest := by
  unfold ParseMessagePublicationAccount
  constructor
  · intro h
    cases hread : MessagePublicationAccount.codec.read.run (data.drop 3) with
    | error e =>
      rw [hread] at h
      cases h
    | ok p =>
      rw [hread] at h
      obtain rfl := Option.some.inj h
      exact ⟨p.2, (MessagePublicationAccount.codec.law _ p.1 p.2).mp hread⟩
  · rintro ⟨rest, hrest⟩
    rw [(MessagePublicationAccount.codec.law _ a rest).mpr hrest]
    rfl

/-- A message and its account, as the watcher has them. -/
def accountOf (m : MessageData) : MessagePublicationAccount :=
  ⟨m.vaaVersion, m.consistencyLevel, m.vaaTime, m.vaaSignatureAccount, m.submissionTime, m.nonce, m.sequence,
    m.emitterChain, m.emitterAddress, m.payload⟩

/-- The program and the watcher lay a message out in the same way. -/
theorem write_accountOf (m : MessageData) :
    MessagePublicationAccount.codec.write (accountOf m) = MessageData.codec.write m := rfl

/-- What is forwarded of a message. -/
def observation {Pubkey : Type} (toBytes : Pubkey → FixedBytes 32) (p : Publication Pubkey) : MessagePublication :=
  { txHash := toBytes p.account
    timestamp := ⟨p.message.submissionTime.toNat, 0⟩
    nonce := p.message.nonce
    sequence := p.message.sequence
    consistencyLevel := p.message.consistencyLevel
    emitterChain := ChainIDSolana
    emitterAddress := p.message.emitterAddress
    payload := p.message.payload.val }

/-- **Read back.** -/
theorem fetchMessageAccount_message {Pubkey : Type} [DecidableEq Pubkey] {contract : Pubkey}
    {toBytes : Pubkey → FixedBytes 32} {info : Account Pubkey} {p : Publication Pubkey}
    (howner : info.owner = contract)
    (hdata : info.data = p.message.serialize PostedMessageData.magic) :
    fetchMessageAccount contract toBytes info p.account = some (observation toBytes p) := by
  have hparse : ParseMessagePublicationAccount info.data = some (accountOf p.message) := by
    refine parse_eq_some.mpr ⟨[], ?_⟩
    rw [hdata, List.append_nil, write_accountOf]
    rfl
  have hprefix : info.data.take 3 = messagePrefix := by
    rw [hdata]
    rfl
  rw [fetchMessageAccount, if_neg (not_not.mpr howner), if_neg (not_not.mpr hprefix), processMessageAccount, hparse]
  rfl

/-! ## Other accounts -/

/-- The data are not read as a message, and if they are a signature set it has the size of an account. -/
structure Silent (data : List UInt8) : Prop where
  unread : data.take 3 = messagePrefix → ParseMessagePublicationAccount data = none
  bounded : IsSignatureSet data → data.length ≤ MAX_PERMITTED_DATA_INCREASE

theorem Silent.of_short {data : List UInt8} (h : data.length < 40) : Silent data where
  unread _ := by
    refine Option.eq_none_iff_forall_ne_some.mpr ?_
    intro a ha
    obtain ⟨rest, hrest⟩ := parse_eq_some.mp ha
    have hlength := congrArg List.length hrest
    have hwrite := write_length a
    rw [List.length_drop, List.length_append] at hlength
    omega
  bounded hset := absurd hset (not_signatureSet_of_length h)

theorem Silent.of_zeros (n : ℕ) : Silent (List.replicate n 0x00) where
  unread h := by
    rw [List.take_replicate] at h
    have hmem : (0x6d : UInt8) ∈ List.replicate (min 3 n) (0x00 : UInt8) := h ▸ List.mem_cons_self
    exact absurd (List.eq_of_mem_replicate hmem) (by decide)
  bounded := by
    rintro ⟨s, hs⟩
    have hlength := congrArg List.length hs
    rw [SignatureSetData.write_length, SignatureSetData.signatures_of_zeros hs, List.length_nil] at hlength
    rw [hlength]
    decide

/-- A number of signatures that starts with "msg" is beyond the size of an account. -/
theorem Silent.of_signatureSet {data : List UInt8} (hset : IsSignatureSet data)
    (hbounded : data.length ≤ MAX_PERMITTED_DATA_INCREASE) : Silent data where
  unread h := by
    exfalso
    have hlong : 40 ≤ data.length := by
      by_contra hshort
      exact not_signatureSet_of_length (not_le.mp hshort) hset
    obtain ⟨b, rest, rfl⟩ : ∃ b rest, data = [0x6d, 0x73, 0x67, b] ++ rest := by
      match data, h, hlong with
      | b₀ :: b₁ :: b₂ :: b :: rest, h, _ =>
        rw [show (b₀ :: b₁ :: b₂ :: b :: rest).take 3 = [b₀, b₁, b₂] from rfl] at h
        obtain ⟨rfl, h₁⟩ := List.cons.inj h
        obtain ⟨rfl, h₂⟩ := List.cons.inj h₁
        obtain ⟨rfl, -⟩ := List.cons.inj h₂
        exact ⟨b, rest, rfl⟩
    have hthird : (0x67 : UInt8).toNat = 0x67 := rfl
    let head : FixedBytes 4 := ⟨[0x6d, 0x73, 0x67, b], rfl⟩
    have hcount : MAX_PERMITTED_DATA_INCREASE < beNat head.val.reverse := by
      show MAX_PERMITTED_DATA_INCREASE < beNat [0x6d, 0x73, 0x67, b].reverse
      simp only [List.reverse_cons, List.reverse_nil, List.nil_append, List.cons_append, beNat,
        List.length_cons, List.length_nil, MAX_PERMITTED_DATA_INCREASE]
      omega
    have hnot : ¬IsSignatureSet (head.val ++ rest) := not_signatureSet_of_count hcount hbounded
    exact hnot hset
  bounded _ := hbounded

theorem Silent.of_postedVaa {m : MessageData}
    (h : (m.serialize PostedVAAData.magic).length ≤ MAX_PERMITTED_DATA_INCREASE) :
    Silent (m.serialize PostedVAAData.magic) where
  unread hprefix := absurd hprefix (by
    rw [show (m.serialize PostedVAAData.magic).take 3 = PostedVAAData.magic from rfl]
    decide)
  bounded hset := absurd hset (MessageData.not_signatureSet 0x76 0x61 0x61 rfl (by decide) h)

/-- A guardian set starts with its index. -/
theorem guardianSet_prefix {g : GuardianSetData}
    (h : (GuardianSetData.codec.write g).take 3 = messagePrefix) : g.index.toNat % 2 ^ 24 = 0x67736d := by
  have hwrite : ∃ rest, GuardianSetData.codec.write g = (beBytes 4 g.index.toNat).reverse ++ rest := ⟨_, rfl⟩
  obtain ⟨rest, hrest⟩ := hwrite
  rw [hrest] at h
  simp only [beBytes, List.reverse_cons, List.reverse_nil, List.nil_append, List.cons_append, List.take_succ_cons,
    List.take_zero, messagePrefix] at h
  obtain ⟨h₀, h⟩ := List.cons.inj h
  obtain ⟨h₁, h⟩ := List.cons.inj h
  obtain ⟨h₂, -⟩ := List.cons.inj h
  have hlow : (UInt8.ofNat (g.index.toNat / 256 ^ 0)).toNat = 0x6d := congrArg UInt8.toNat h₀
  have hmiddle : (UInt8.ofNat (g.index.toNat / 256 ^ 1)).toNat = 0x73 := congrArg UInt8.toNat h₁
  have hhigh : (UInt8.ofNat (g.index.toNat / 256 ^ 2)).toNat = 0x67 := congrArg UInt8.toNat h₂
  rw [UInt8.toNat_ofNat'] at hlow hmiddle hhigh
  omega

theorem Silent.of_firstGuardianSet {g : GuardianSetData} (hindex : g.index = 0) (hkeys : g.keys.val.length ≤ 255) :
    Silent (GuardianSetData.codec.write g) where
  unread h := by
    have hmod := guardianSet_prefix h
    rw [hindex] at hmod
    exact absurd hmod (by decide)
  bounded hset := absurd hset (GuardianSetData.not_signatureSet hkeys)

/-! ## The accounts of the program -/

section Program

variable {Pubkey : Type} {P : CoreProgram Pubkey} {used : Set (List (List UInt8))} {L L' : Ledger Pubkey}
  {Signed : List UInt8 → List UInt8 → Prop} {input : Core.Input Pubkey} {log : List (Publication Pubkey)} {k : Pubkey}

/-- What an account of the program is to the watcher. -/
inductive Kind (P : CoreProgram Pubkey) (log : List (Publication Pubkey)) (L : Ledger Pubkey) (k : Pubkey) :
    Prop where
  | message (p : Publication Pubkey) (hposted : p ∈ log) (haccount : p.account = k)
  | guardianSet (g : GuardianSetData) (hkey : k = guardianSetKey P g.index)
      (hdata : (L k).data = GuardianSetData.codec.write g)
  | silent (hsilent : Silent (L k).data)

theorem Kind.kept (h : Kind P log L k) (hkept : Kept P.toProgram L L' k) (howner : (L k).owner = P.programId)
    (more : List (Publication Pubkey)) : Kind P (log ++ more) L' k := by
  have hdata := hkept.2 howner
  cases h with
  | message p hposted haccount => exact .message p (List.mem_append_left _ hposted) haccount
  | guardianSet g hkey hheld => exact .guardianSet g hkey (hdata.trans hheld)
  | silent hsilent => exact .silent (hdata ▸ hsilent)

theorem kind_of_short {bytes : List UInt8} (hholds : Holds P.toProgram L k bytes) (h : bytes.length < 40) :
    Kind P log L k := .silent (hholds.2 ▸ Silent.of_short h)

theorem kind_of_bridge {b : BridgeData} (hholds : Holds P.toProgram L k (BridgeData.codec.write b)) :
    Kind P log L k := by
  refine kind_of_short hholds ?_
  rw [BridgeData.write_length]
  decide

theorem kind_of_claim {c : ClaimData} (hholds : Holds P.toProgram L k (ClaimData.codec.write c)) :
    Kind P log L k := by
  refine kind_of_short hholds ?_
  rw [ClaimData.write_length]
  decide

/-- **The invariant**, next to the one of the messages. -/
structure Classified (P : CoreProgram Pubkey) (used : Set (List (List UInt8)))
    (Signed : List UInt8 → List UInt8 → Prop) (s : Ledger Pubkey × List (Publication Pubkey)) : Prop where
  published : ∃ count, Published P used count s
  sound : Core.Sound P used Signed s.1
  kinds : ∀ k, (s.1 k).owner = P.programId → Kind P s.2 s.1 k

variable [DecidableEq Pubkey]

/-! The accounts behind each instruction, where those that it leaves alone are of a kind. -/

theorem kind_initializeBridge {accs : Initialize Pubkey} {clock : Int} {data : InitializeData}
    (h : initializeBridge P L accs clock data = .ok L') (hold : Kept P.toProgram L L' k → Kind P log L' k) :
    Kind P log L' k := by
  have hdone := initializeBridge_eq_ok h
  by_cases hguardianSet : k = accs.guardianSet.key
  · rw [hguardianSet]
    refine .silent (hdone.guardianSet.2 ▸ Silent.of_firstGuardianSet rfl ?_)
    exact hdone.keys.trans (by decide)
  by_cases hbridge : k = bridgeKey P
  · obtain ⟨b, -, hb⟩ := hdone.bridge
    exact kind_of_bridge (hbridge ▸ hb)
  · exact hold (hdone.others k hguardianSet hbridge)

/-- The one account that a post makes a message of is logged. -/
theorem kind_postMessage {accs : PostMessage Pubkey} {clock : Int} {data : PostMessageData}
    (h : postMessage P L accs clock data = .ok L')
    (hold : Kept P.toProgram L L' k → Kind P (log ++ publications L' (.postMessage accs clock data)) L' k) :
    Kind P (log ++ publications L' (.postMessage accs clock data)) L' k := by
  have hdone := postMessage_eq_ok h
  by_cases hbridge : k = bridgeKey P
  · obtain ⟨-, b, -, -, -, hb⟩ := hdone.bridge
    exact kind_of_bridge (hbridge ▸ hb)
  by_cases hmessage : k = accs.message.key
  · obtain ⟨p, hp, -⟩ := postMessage_publishes h
    refine .message p ?_ (hp.account.trans hmessage.symm)
    rw [publications_eq hp.account hp.held]
    exact List.mem_append_right _ (List.mem_singleton_self p)
  by_cases hsequence : k = P.derive (sequenceSeeds (P.toBytes accs.emitter.key))
  · obtain ⟨t, ht⟩ := hdone.sequence
    refine kind_of_short (hsequence ▸ ht) ?_
    rw [SequenceTracker.write_length]
    decide
  · exact hold (hdone.others k hbridge hmessage hsequence)

/-- The signature set may be an account that is there; then it is no message, and no guardian set. -/
theorem kind_verifySignatures (hfree : P.CollisionFree used) {accs : VerifySignatures Pubkey}
    {tx : List (Instruction Pubkey)} {current : UInt16} {data : VerifySignaturesData}
    (hs : Classified P used Signed (L, log))
    (hadmissible : Core.Input.Admissible P used Signed L (.verifySignatures accs tx current data))
    (h : Core.verifySignatures P L accs tx current data = .ok L') {more : List (Publication Pubkey)}
    (hold : Kept P.toProgram L L' k → Kind P more L' k) : Kind P more L' k := by
  obtain ⟨count, hpublished⟩ := hs.published
  obtain ⟨g, msgHash, secpIxs, hdone, -⟩ := verifySignatures_eq_ok h
  by_cases hset : k = accs.signatureSet.key
  swap
  · exact hold (hdone.others k hset)
  rw [hset]
  obtain ⟨hafter, ⟨-, hnew⟩ | ⟨howned, hbefore, hlength⟩⟩ := verifySignatures_set h
  · exact .silent (.of_signatureSet hafter hnew)
  refine .silent (.of_signatureSet hafter ?_)
  rw [hlength]
  cases hs.kinds _ howned with
  | message p hposted haccount =>
    have hheld := hpublished.held p hposted
    rw [HoldsMessage, haccount] at hheld
    rw [hheld.2] at hbefore
    have hbounded := hpublished.bounded p hposted
    exact absurd hbefore (MessageData.not_signatureSet 0x6d 0x73 0x67 rfl (by decide) hbounded)
  | guardianSet g' hkey hdata =>
    refine absurd ⟨_, hfree.guardianSet _, hkey⟩ (hadmissible.signers accs.signatureSet ?_ hdone.signer)
    simp [Core.Input.metas]
  | silent hsilent => exact hsilent.bounded hbefore

theorem kind_postVaa {accs : PostVAA Pubkey} {clock : Int} {vaa : PostVAAData} (hsound : Core.Sound P used Signed L)
    (hadmissible : Core.Input.Admissible P used Signed L (.postVaa accs clock vaa))
    (h : postVaa P L accs clock vaa = .ok L') (hold : Kept P.toProgram L L' k → Kind P log L' k) :
    Kind P log L' k := by
  rcases postVaa_eq_ok h with ⟨-, hdone⟩ | ⟨-, g, t, hdone⟩
  · exact hold (hdone.kept hsound hadmissible.seeds k)
  · by_cases hvaa : k = postedVaaKey P t.hash
    · obtain ⟨m, -, hlength, hheld⟩ := hdone.message
      rw [hvaa]
      exact .silent (hheld.2 ▸ Silent.of_postedVaa hlength)
    · exact hold (hdone.others k hvaa)

theorem kind_upgradeGuardianSet (hfree : P.CollisionFree used) {accs : UpgradeGuardianSet Pubkey}
    (h : upgradeGuardianSet P L accs = .ok L') (hold : Kept P.toProgram L L' k → Kind P log L' k) :
    Kind P log L' k := by
  obtain ⟨m, bridge, old, new, -, hdone⟩ := upgradeGuardianSet_eq_ok hfree h
  by_cases hbridge : k = bridgeKey P
  · exact kind_of_bridge (hbridge ▸ hdone.bridgeAfter)
  by_cases hclaim : k = P.derive (claimSeeds m)
  · obtain ⟨c, hc⟩ := hdone.claim
    exact kind_of_claim (hclaim ▸ hc)
  by_cases hnew : k = guardianSetKey P new.index
  · exact .guardianSet new hnew (hnew ▸ hdone.newAfter.2)
  by_cases hreplaced : k = guardianSetKey P old.index
  · exact .guardianSet { old with expirationTime := m.vaaTime + bridge.config.guardianSetExpirationTime } hreplaced
      (hreplaced ▸ hdone.oldAfter.2)
  · exact hold (hdone.others k hbridge hclaim hreplaced hnew)

theorem kind_setFees {accs : SetFees Pubkey} (h : setFees P L accs = .ok L')
    (hold : Kept P.toProgram L L' k → Kind P log L' k) : Kind P log L' k := by
  obtain ⟨m, -, hdone⟩ := setFees_eq_ok h
  by_cases hbridge : k = bridgeKey P
  · obtain ⟨-, b, -, -, -, hb⟩ := hdone.bridge
    exact kind_of_bridge (hbridge ▸ hb)
  by_cases hclaim : k = P.derive (claimSeeds m)
  · obtain ⟨c, hc⟩ := hdone.claim
    exact kind_of_claim (hclaim ▸ hc)
  · exact hold (hdone.others k hbridge hclaim)

theorem kind_transferFees {accs : TransferFees Pubkey} (h : transferFees P L accs = .ok L')
    (hold : Kept P.toProgram L L' k → Kind P log L' k) : Kind P log L' k := by
  obtain ⟨m, -, hdone⟩ := transferFees_eq_ok h
  by_cases hclaim : k = P.derive (claimSeeds m)
  · obtain ⟨c, hc⟩ := hdone.claim
    exact kind_of_claim (hclaim ▸ hc)
  · exact hold (hdone.others k hclaim)

/-- **Step.** -/
theorem Classified.step (hfree : P.CollisionFree used) {s s' : Ledger Pubkey × List (Publication Pubkey)}
    (hs : Classified P used Signed s) (hadmissible : input.Admissible P used Signed s.1)
    (h : publishing P s input = some s') : Classified P used Signed s' := by
  obtain ⟨count, hpublished⟩ := hs.published
  have hpublished' := hpublished.step hfree hadmissible h
  obtain ⟨L', hstep, rfl⟩ := Option.map_eq_some_iff.mp h
  refine ⟨hpublished', hs.sound.effect hfree (effect_step hfree hs.sound hadmissible hstep), ?_⟩
  have h : Core.execute P s.1 input = .ok L' := Failing.toOption_eq_some hstep
  intro k howner
  have hold : Kept P.toProgram s.1 L' k → Kind P (s.2 ++ publications L' input) L' k := by
    intro hkept
    have hbefore := hkept.1.mp howner
    exact (hs.kinds k hbefore).kept hkept hbefore _
  cases input with
  | initializeBridge accs clock data => exact kind_initializeBridge h hold
  | postMessage accs clock data => exact kind_postMessage h hold
  | verifySignatures accs tx current data => exact kind_verifySignatures hfree hs hadmissible h hold
  | postVaa accs clock vaa => exact kind_postVaa hs.sound hadmissible h hold
  | upgradeGuardianSet accs clock => exact kind_upgradeGuardianSet hfree h hold
  | setFees accs => exact kind_setFees h hold
  | transferFees accs => exact kind_transferFees h hold
  | others Ln =>
    obtain rfl := Except.ok.inj h
    rcases hadmissible.others Ln rfl k with hkept | ⟨-, -, n, hdata⟩
    · exact hold hkept
    · exact .silent (hdata ▸ Silent.of_zeros n)

/-- What the watcher forwards of an account in a state of the chain. -/
def forwarded (P : CoreProgram Pubkey) (L : Ledger Pubkey) (acc : Pubkey) : Option MessagePublication :=
  fetchMessageAccount P.programId P.toBytes (L acc) acc

omit [DecidableEq Pubkey] in
variable (P) in
/-- The account is of a guardian set, whose index is written as "msg" and one more byte. -/
def IndexedAsMessage (acc : Pubkey) : Prop :=
  ∃ index : UInt32, index.toNat % 2 ^ 24 = 0x67736d ∧ acc = guardianSetKey P index

/-- What is forwarded is a message that has been posted. -/
theorem Classified.forwarded_iff {s : Ledger Pubkey × List (Publication Pubkey)} (hs : Classified P used Signed s)
    {acc : Pubkey} (hacc : ¬IndexedAsMessage P acc) {publication : MessagePublication} :
    forwarded P s.1 acc = some publication ↔ ∃ p ∈ s.2, p.account = acc ∧ publication = observation P.toBytes p := by
  obtain ⟨count, hpublished⟩ := hs.published
  have hmessage : ∀ p ∈ s.2, forwarded P s.1 p.account = some (observation P.toBytes p) := by
    intro p hp
    obtain ⟨howner, hdata⟩ := hpublished.held p hp
    exact fetchMessageAccount_message howner hdata
  constructor
  · intro h
    have hfetched := h
    rw [forwarded, fetchMessageAccount] at hfetched
    split_ifs at hfetched with howner hprefix
    rw [not_not] at howner hprefix
    cases hs.kinds acc howner with
    | message p hposted haccount =>
      rw [← haccount, hmessage p hposted] at h
      exact ⟨p, hposted, haccount, (Option.some.inj h).symm⟩
    | guardianSet g hkey hdata => exact absurd ⟨g.index, guardianSet_prefix (hdata ▸ hprefix), hkey⟩ hacc
    | silent hsilent =>
      rw [processMessageAccount, hsilent.unread hprefix] at hfetched
      cases hfetched
  · rintro ⟨p, hposted, rfl, rfl⟩
    exact hmessage p hposted

/-- **What the watcher forwards.** In every state that the core program reaches, whatever accounts its callers name:
what the watcher forwards of an account is the message that has been posted into it, if there is one, and nothing
else; and no two accounts show messages of one emitter with one sequence, as long as no emitter has posted more than
`2 ^ 64`.  The accounts of the guardian sets 6779757, 23556973, … are left out. -/
theorem accounts_observed (hfree : P.CollisionFree used) (h₀ : Undeployed P L)
    {s : Ledger Pubkey × List (Publication Pubkey)}
    (hrun : Run (publishing P) (fun s input => input.Admissible P used Signed s.1) (L, []) s) :
    (∀ acc, ¬IndexedAsMessage P acc → ∀ publication, forwarded P s.1 acc = some publication ↔
      ∃ p ∈ s.2, p.account = acc ∧ publication = observation P.toBytes p) ∧
    ((∀ emitter, (s.2.filter fun p => p.message.emitterAddress = emitter).length ≤ 2 ^ 64) →
      ∀ acc acc', ¬IndexedAsMessage P acc → ¬IndexedAsMessage P acc' → ∀ publication publication',
        forwarded P s.1 acc = some publication → forwarded P s.1 acc' = some publication' →
        publication.emitterAddress = publication'.emitterAddress → publication.sequence = publication'.sequence →
        acc = acc') := by
  have hs : Classified P used Signed s := by
    refine hrun.invariant (I := fun s => Classified P used Signed s) ?_ ⟨⟨_, .of_undeployed h₀⟩, h₀.sound, ?_⟩
    · intro s input s' hs hadmissible hstep
      exact hs.step hfree hadmissible hstep
    · intro k howner
      exact absurd howner (h₀ k)
  refine ⟨fun acc hacc publication => hs.forwarded_iff hacc, ?_⟩
  intro hfew acc acc' hacc hacc' publication publication' h h' hemitter hsequence
  obtain ⟨p, hp, rfl, rfl⟩ := (hs.forwarded_iff hacc).mp h
  obtain ⟨p', hp', rfl, rfl⟩ := (hs.forwarded_iff hacc').mp h'
  obtain ⟨count, hpublished⟩ := hs.published
  have hnodup := hpublished.ids_nodup hfew
  have heq : p = p' := List.inj_on_of_nodup_map hnodup hp hp' (Prod.ext hemitter hsequence)
  rw [heq]

end Program

/-! ## Inputs -/

section Samples

/-- The account of the second message shows it. -/
theorem publishSecond_forwarded :
    (forwarded feeProgram publishSecond.1 (.inl 15)).map MessagePublication.sequence = some 1 ∧
      ∃ p ∈ publishSecond.2, p.account = .inl 15 ∧
        forwarded feeProgram publishSecond.1 (.inl 15) = some (observation feeProgram.toBytes p) := by
  have hsequence : (forwarded feeProgram publishSecond.1 (.inl 15)).map MessagePublication.sequence = some 1 := by
    decide +kernel
  obtain ⟨publication, hforwarded, -⟩ := Option.map_eq_some_iff.mp hsequence
  have hacc : ¬IndexedAsMessage feeProgram (.inl 15) := by
    rintro ⟨index, -, h⟩
    cases h
  have hobserved := accounts_observed feeProgram_collisionFree sampleLedger_undeployed publishSecond_run
  obtain ⟨p, hp, haccount, rfl⟩ := (hobserved.1 _ hacc publication).mp hforwarded
  exact ⟨hsequence, p, hp, haccount, hforwarded⟩

end Samples

end Wormhole.Guardian.SolanaMessages

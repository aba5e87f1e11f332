/-
# Wormhole.Guardian.SolanaWatcher — the messages that the Solana watcher sees in a block.

`fetchBlock` of `node/pkg/solana/client.go`, with the loops over the instructions of a transaction, when every fetch
succeeds: what it schedules are the accounts of messages that it goes on to fetch.  The scan of the top-level
instructions ends at the first `post_message`, taken or malformed, and only if there is none the inner instructions
are looked at; so it sees all the messages of a block exactly if no transaction holds one behind that
(`fetchBlock_complete_iff`).  An index out of range ends the process, which is `none`.
-/
import Mathlib
import Wormhole.Lib.Codec

namespace Wormhole.Guardian.SolanaWatcher

open Wormhole.Lib

/-! ## Blocks -/

structure CompiledInstruction where
  programIDIndex : UInt16
  accounts : List UInt16
  data : List UInt8

/-- A transaction of a block, with its inner instructions.  It names each account once, by an index of a byte. -/
structure Transaction (PublicKey : Type) where
  accountKeys : List PublicKey
  nodup : accountKeys.Nodup
  size : accountKeys.length ≤ 256
  /-- `tx.Meta.Err != nil` -/
  failed : Bool
  instructions : List CompiledInstruction
  innerInstructions : List (List CompiledInstruction)

/-- `rpc.CommitmentType` -/
inductive CommitmentType where
  | processed
  | confirmed
  | finalized
  deriving DecidableEq

/-- `ConsistencyLevel.Commitment` -/
def commitmentOf (c : UInt8) : Option CommitmentType :=
  match c.toNat with
  | 0 => some .confirmed
  | 1 => some .finalized
  | _ => none

structure PostMessageData where
  nonce : UInt32
  payload : Vec UInt8
  consistencyLevel : UInt8

/-- `borsh.Deserialize`, which leaves what follows. -/
def deserialize (data : List UInt8) : Option PostMessageData :=
  let codec := (Codec.uint32 ()).pair ((Codec.list (Codec.uint32 ()) (Codec.uint8 ()) ()).pair (Codec.uint8 ()))
  ((codec.read.run data).map fun p => ⟨p.1.1, p.1.2.1, p.1.2.2⟩).toOption

def postMessageInstructionNumAccounts : Nat := 9
def postMessageInstructionID : UInt8 := 0x01

section Watcher

variable {PublicKey : Type} [DecidableEq PublicKey] (contract : PublicKey) (commitment : CommitmentType)

/-! ## Scanning -/

section Transaction

variable (tx : Transaction PublicKey)

/-- The index of the contract: the last one at which it stands, or 0. -/
def programIndex : UInt16 :=
  tx.accountKeys.zipIdx.foldl (fun index key => if key.1 = contract then UInt16.ofNat key.2 else index) 0

omit [DecidableEq PublicKey] in
/-- The second account in a well-formed instruction is the message account. -/
def messageAccount (inst : CompiledInstruction) : Option PublicKey :=
  inst.accounts[1]?.bind fun i => tx.accountKeys[i.toNat]?

/-- `processInstruction`: whether a message has been found, and the account that is fetched for it. -/
def processInstruction (inst : CompiledInstruction) : Option (Except String (Bool × Option PublicKey)) :=
  if inst.programIDIndex ≠ programIndex contract tx then some (.ok (false, none))
  else
    match inst.data with
    | [] => none
    | id :: data =>
      if id ≠ postMessageInstructionID then some (.ok (false, none))
      else if inst.accounts.length ≠ postMessageInstructionNumAccounts then
        some (.error ("invalid number of accounts: " ++ toString inst.accounts.length ++ " instead of " ++
          toString postMessageInstructionNumAccounts))
      else
        match deserialize data with
        | none => some (.error "failed to deserialize instruction data")
        | some data =>
          match commitmentOf data.consistencyLevel with
          | none => some (.error ("failed to determine commitment: unsupported consistency level: " ++
              toString data.consistencyLevel))
          | some level =>
            if level ≠ commitment then some (.ok (true, none))
            else (messageAccount tx inst).map fun acc => .ok (true, some acc)

/-- The loop over top-level instructions: whether it has ended early, and what it has scheduled. -/
def scanInstructions : List CompiledInstruction → Option (Bool × List PublicKey)
  | [] => some (false, [])
  | inst :: insts => do
    match ← processInstruction contract commitment tx inst with
    | .error _ => return (true, [])
    | .ok (true, acc) => return (true, acc.toList)
    | .ok (false, acc) =>
      let (ended, accs) ← scanInstructions insts
      return (ended, acc.toList ++ accs)

/-- The loop over inner instructions, which goes on after a malformed one. -/
def scanInner : List CompiledInstruction → Option (List PublicKey)
  | [] => some []
  | inst :: insts => do
    match ← processInstruction contract commitment tx inst with
    | .error _ => scanInner insts
    | .ok (_, acc) => return acc.toList ++ (← scanInner insts)

/-- One round of the loop over transactions. -/
def fetchTransaction : Option (List PublicKey) :=
  if programIndex contract tx = 0 then some []
  else if tx.failed then some []
  else do
    let (ended, accs) ← scanInstructions contract commitment tx tx.instructions
    if ended then return accs
    return accs ++ (← scanInner contract commitment tx tx.innerInstructions.flatten)

end Transaction

/-- `fetchBlock` -/
def fetchBlock : List (Transaction PublicKey) → Option (List PublicKey)
  | [] => some []
  | tx :: txs => do
    let accs ← fetchTransaction contract commitment tx
    return accs ++ (← fetchBlock txs)

/-! ## Messages -/

section Messages

variable (tx : Transaction PublicKey)

/-- The account of the message that an instruction posts with the watcher's commitment, if it does. -/
def message? (inst : CompiledInstruction) : Option PublicKey :=
  if tx.accountKeys[inst.programIDIndex.toNat]? = some contract then
    match inst.data with
    | [] => none
    | id :: data =>
      if id = postMessageInstructionID then
        (deserialize data).bind fun data =>
          if commitmentOf data.consistencyLevel = some commitment then messageAccount tx inst else none
      else none
  else none

/-- The top-level and the inner instructions. -/
def allInstructions : List CompiledInstruction := tx.instructions ++ tx.innerInstructions.flatten

/-- The messages of a transaction, if it succeeded. -/
def messages : List PublicKey :=
  if tx.failed then [] else (allInstructions tx).filterMap (message? contract commitment tx)

/-- The instruction is one of the program with the id of `post_message`. -/
def Posts (inst : CompiledInstruction) : Prop :=
  inst.programIDIndex = programIndex contract tx ∧ inst.data.head? = some postMessageInstructionID

instance : DecidablePred (Posts contract tx) := fun _ => inferInstanceAs (Decidable (_ ∧ _))

/-- The instructions up to the first top-level one that posts; all of them, if none does. -/
def scanned : List CompiledInstruction → List CompiledInstruction
  | [] => tx.innerInstructions.flatten
  | inst :: insts => if Posts contract tx inst then [inst] else inst :: scanned insts

/-- The instructions behind. -/
def unscanned : List CompiledInstruction → List CompiledInstruction
  | [] => []
  | inst :: insts => if Posts contract tx inst then insts ++ tx.innerInstructions.flatten else unscanned insts

/-- The instruction makes the scan index out of range: it is empty, or it names a message account that there is
not. -/
def OutOfRange (inst : CompiledInstruction) : Prop :=
  inst.programIDIndex = programIndex contract tx ∧
    (inst.data = [] ∨ ∃ data d, inst.data = postMessageInstructionID :: data ∧
      inst.accounts.length = postMessageInstructionNumAccounts ∧ deserialize data = some d ∧
      commitmentOf d.consistencyLevel = some commitment ∧
      messageAccount tx inst = none)

/-- Every message of the transaction is seen: the program does not stand at index 0, no instruction up to the first
top-level `post_message` is out of range, the messages among them have nine accounts, and there are none behind. -/
structure AllSeen : Prop where
  indexed : programIndex contract tx ≠ 0
  inRange : ∀ inst ∈ scanned contract tx tx.instructions, ¬OutOfRange contract commitment tx inst
  accounts : ∀ inst ∈ scanned contract tx tx.instructions, message? contract commitment tx inst ≠ none →
    inst.accounts.length = postMessageInstructionNumAccounts
  behind : ∀ inst ∈ unscanned contract tx tx.instructions, message? contract commitment tx inst = none

end Messages

/-! ## What the scan takes -/

section Scan

variable {contract commitment} {tx : Transaction PublicKey} {inst : CompiledInstruction}

theorem programIndex_key (h : programIndex contract tx ≠ 0) :
    tx.accountKeys[(programIndex contract tx).toNat]? = some contract := by
  suffices hgo : ∀ (keys : List (PublicKey × Nat)) (index : UInt16), (∀ key ∈ keys, key ∈ tx.accountKeys.zipIdx) →
      (index ≠ 0 → tx.accountKeys[index.toNat]? = some contract) →
      (keys.foldl (fun index key => if key.1 = contract then UInt16.ofNat key.2 else index) index ≠ 0 →
        tx.accountKeys[(keys.foldl (fun index key => if key.1 = contract then UInt16.ofNat key.2 else index)
          index).toNat]? = some contract) from
    hgo tx.accountKeys.zipIdx 0 (fun _ hkey => hkey) (fun h => absurd rfl h) h
  intro keys
  induction keys with
  | nil => exact fun _ _ hindex => hindex
  | cons key keys ih =>
    intro index hmem hindex
    obtain ⟨hkey, hkeys⟩ := List.forall_mem_cons.mp hmem
    apply ih _ hkeys
    intro hne
    dsimp only at hne ⊢
    split
    · rename_i heq
      have hget := List.mem_zipIdx_iff_getElem?.mp hkey
      have hlt : key.2 < tx.accountKeys.length := (List.getElem?_eq_some_iff.mp hget).1
      have hsize := tx.size
      have htoNat : (UInt16.ofNat key.2).toNat = key.2 := by
        rw [UInt16.toNat_ofNat']
        omega
      rw [htoNat, hget, heq]
    · rename_i hkeyNe
      rw [if_neg hkeyNe] at hne
      exact hindex hne

/-- An instruction is the program's if its index is. -/
theorem own_iff (h : programIndex contract tx ≠ 0) (index : UInt16) :
    tx.accountKeys[index.toNat]? = some contract ↔ index = programIndex contract tx := by
  have hkey := programIndex_key h
  constructor
  · intro hindex
    apply UInt16.toNat.inj
    exact (List.getElem?_inj (List.getElem?_eq_some_iff.mp hindex).1 tx.nodup).mp (hindex.trans hkey.symm)
  · rintro rfl
    exact hkey

/-- The messages that the scan takes have nine accounts. -/
def taken (contract : PublicKey) (commitment : CommitmentType) (tx : Transaction PublicKey)
    (inst : CompiledInstruction) : Option PublicKey :=
  if inst.accounts.length = postMessageInstructionNumAccounts then message? contract commitment tx inst else none

/-- Out of range the process ends. -/
theorem processInstruction_eq_none (h : OutOfRange contract commitment tx inst) :
    processInstruction contract commitment tx inst = none := by
  obtain ⟨hindex, hempty | ⟨data, d, hdata, haccounts, hread, hlevel, hnone⟩⟩ := h
  · rw [processInstruction, if_neg (not_not.mpr hindex), hempty]
  · rw [processInstruction, if_neg (not_not.mpr hindex), hdata]
    simp only [ne_eq, not_true_eq_false, if_false, haccounts, hread, hlevel, hnone, Option.map_none]

/-- Else an instruction that does not post is passed over, -/
theorem processInstruction_of_not_posts (hp : programIndex contract tx ≠ 0)
    (hrange : ¬OutOfRange contract commitment tx inst) (h : ¬Posts contract tx inst) :
    processInstruction contract commitment tx inst = some (.ok (false, none)) ∧
      message? contract commitment tx inst = none := by
  unfold processInstruction message?
  by_cases hindex : inst.programIDIndex = programIndex contract tx
  swap
  · rw [if_pos hindex, if_neg fun hown => hindex ((own_iff hp _).mp hown)]
    exact ⟨rfl, rfl⟩
  rw [if_neg (not_not.mpr hindex), if_pos ((own_iff hp _).mpr hindex)]
  cases hdata : inst.data with
  | nil => exact absurd ⟨hindex, .inl hdata⟩ hrange
  | cons id data =>
    have hid : id ≠ postMessageInstructionID := by
      rintro rfl
      exact h ⟨hindex, by rw [hdata]; rfl⟩
    dsimp only
    rw [if_pos hid, if_neg hid]
    exact ⟨rfl, rfl⟩

/-- and one that posts ends the scan, with what is taken of it. -/
theorem processInstruction_of_posts (hp : programIndex contract tx ≠ 0)
    (hrange : ¬OutOfRange contract commitment tx inst) (h : Posts contract tx inst) :
    (∃ err, processInstruction contract commitment tx inst = some (.error err) ∧
      taken contract commitment tx inst = none) ∨
    processInstruction contract commitment tx inst = some (.ok (true, taken contract commitment tx inst)) := by
  obtain ⟨hindex, hhead⟩ := h
  obtain ⟨data, hdata⟩ : ∃ data, inst.data = postMessageInstructionID :: data := by
    cases hcases : inst.data with
    | nil =>
      rw [hcases] at hhead
      cases hhead
    | cons id data =>
      rw [hcases] at hhead
      exact ⟨data, by rw [Option.some.inj hhead]⟩
  unfold processInstruction taken message?
  rw [if_neg (not_not.mpr hindex), if_pos ((own_iff hp _).mpr hindex), hdata]
  simp only [ne_eq, not_true_eq_false, if_false, if_true]
  by_cases haccounts : inst.accounts.length = postMessageInstructionNumAccounts
  swap
  · rw [if_pos haccounts, if_neg haccounts]
    exact .inl ⟨_, rfl, rfl⟩
  rw [if_neg (not_not.mpr haccounts), if_pos haccounts]
  cases hread : deserialize data with
  | none => exact .inl ⟨_, rfl, rfl⟩
  | some d =>
    simp only [Option.bind_some]
    cases hlevel : commitmentOf d.consistencyLevel with
    | none => exact .inl ⟨_, rfl, rfl⟩
    | some level =>
      right
      dsimp only
      by_cases hsame : level = commitment
      swap
      · rw [if_pos hsame, if_neg fun heq => hsame (Option.some.inj heq)]
      subst hsame
      rw [if_neg (not_not.mpr rfl), if_pos rfl]
      cases hacc : messageAccount tx inst with
      | none => exact absurd ⟨hindex, .inr ⟨data, d, hdata, haccounts, hread, hlevel, hacc⟩⟩ hrange
      | some acc => rfl

theorem scanInner_eq (hp : programIndex contract tx ≠ 0) {insts : List CompiledInstruction}
    (hrange : ∀ inst ∈ insts, ¬OutOfRange contract commitment tx inst) :
    scanInner contract commitment tx insts = some (insts.filterMap (taken contract commitment tx)) := by
  induction insts with
  | nil => rfl
  | cons inst insts ih =>
    obtain ⟨hinst, hinsts⟩ := List.forall_mem_cons.mp hrange
    rw [scanInner]
    by_cases hposts : Posts contract tx inst
    · rcases processInstruction_of_posts hp hinst hposts with ⟨err, hprocess, hnone⟩ | hprocess
      · rw [hprocess, List.filterMap_cons_none hnone]
        exact ih hinsts
      · rw [hprocess]
        show (scanInner contract commitment tx insts).bind _ = _
        rw [ih hinsts]
        cases htaken : taken contract commitment tx inst with
        | none =>
          rw [List.filterMap_cons_none htaken]
          rfl
        | some acc =>
          rw [List.filterMap_cons_some htaken]
          rfl
    · obtain ⟨hprocess, hmessage⟩ := processInstruction_of_not_posts hp hinst hposts
      have hnone : taken contract commitment tx inst = none := by
        rw [taken, hmessage, ite_self]
      rw [hprocess, List.filterMap_cons_none hnone]
      show (scanInner contract commitment tx insts).bind _ = _
      rw [ih hinsts]
      rfl

theorem scanInner_eq_none {insts : List CompiledInstruction}
    (h : ∃ inst ∈ insts, OutOfRange contract commitment tx inst) :
    scanInner contract commitment tx insts = none := by
  induction insts with
  | nil =>
    obtain ⟨inst, hmem, -⟩ := h
    cases hmem
  | cons inst insts ih =>
    rw [scanInner]
    by_cases hinst : OutOfRange contract commitment tx inst
    · rw [processInstruction_eq_none hinst]
      rfl
    · have hrest : scanInner contract commitment tx insts = none := by
        obtain ⟨i, hmem, hi⟩ := h
        rcases List.mem_cons.mp hmem with rfl | hmem
        · exact absurd hi hinst
        · exact ih ⟨i, hmem, hi⟩
      cases hprocess : processInstruction contract commitment tx inst with
      | none => rfl
      | some result =>
        cases result with
        | error err => exact hrest
        | ok found =>
          show (scanInner contract commitment tx insts).bind _ = none
          rw [hrest]
          rfl

/-- Both loops, one after the other. -/
def scanAll (contract : PublicKey) (commitment : CommitmentType) (tx : Transaction PublicKey)
    (insts : List CompiledInstruction) : Option (List PublicKey) := do
  let (ended, accs) ← scanInstructions contract commitment tx insts
  if ended then return accs
  return accs ++ (← scanInner contract commitment tx tx.innerInstructions.flatten)

/-- **What the loops schedule** is what is taken of the instructions that they reach. -/
theorem scanAll_eq (hp : programIndex contract tx ≠ 0) {insts : List CompiledInstruction}
    (hrange : ∀ inst ∈ scanned contract tx insts, ¬OutOfRange contract commitment tx inst) :
    scanAll contract commitment tx insts =
      some ((scanned contract tx insts).filterMap (taken contract commitment tx)) := by
  induction insts with
  | nil =>
    rw [scanned] at hrange ⊢
    show (scanInner contract commitment tx tx.innerInstructions.flatten).bind _ = _
    rw [scanInner_eq hp hrange]
    rfl
  | cons inst insts ih =>
    rw [scanned] at hrange ⊢
    rw [scanAll, scanInstructions]
    by_cases hposts : Posts contract tx inst
    · rw [if_pos hposts] at hrange ⊢
      have hinst := hrange inst (List.mem_singleton_self inst)
      rcases processInstruction_of_posts hp hinst hposts with ⟨err, hprocess, hnone⟩ | hprocess
      · rw [hprocess, List.filterMap_cons_none hnone]
        rfl
      · rw [hprocess]
        cases htaken : taken contract commitment tx inst with
        | none =>
          rw [List.filterMap_cons_none htaken]
          rfl
        | some acc =>
          rw [List.filterMap_cons_some htaken]
          rfl
    · rw [if_neg hposts] at hrange ⊢
      obtain ⟨hinst, hinsts⟩ := List.forall_mem_cons.mp hrange
      obtain ⟨hprocess, hmessage⟩ := processInstruction_of_not_posts hp hinst hposts
      have hnone : taken contract commitment tx inst = none := by
        rw [taken, hmessage, ite_self]
      rw [hprocess, List.filterMap_cons_none hnone, ← ih hinsts, scanAll]
      cases hscan : scanInstructions contract commitment tx insts with
      | none => rfl
      | some result => rfl

theorem scanAll_eq_none (hp : programIndex contract tx ≠ 0) {insts : List CompiledInstruction}
    (h : ∃ inst ∈ scanned contract tx insts, OutOfRange contract commitment tx inst) :
    scanAll contract commitment tx insts = none := by
  induction insts with
  | nil =>
    rw [scanned] at h
    show (scanInner contract commitment tx tx.innerInstructions.flatten).bind _ = _
    rw [scanInner_eq_none h]
    rfl
  | cons inst insts ih =>
    rw [scanned] at h
    rw [scanAll, scanInstructions]
    by_cases hinst : OutOfRange contract commitment tx inst
    · rw [processInstruction_eq_none hinst]
      rfl
    by_cases hposts : Posts contract tx inst
    · rw [if_pos hposts] at h
      obtain ⟨i, hmem, hi⟩ := h
      rw [List.mem_singleton.mp hmem] at hi
      exact absurd hi hinst
    · rw [if_neg hposts] at h
      have hrest : scanAll contract commitment tx insts = none := by
        obtain ⟨i, hmem, hi⟩ := h
        rcases List.mem_cons.mp hmem with rfl | hmem
        · exact absurd hi hinst
        · exact ih ⟨i, hmem, hi⟩
      obtain ⟨hprocess, -⟩ := processInstruction_of_not_posts hp hinst hposts
      rw [hprocess, ← hrest, scanAll]
      cases hscan : scanInstructions contract commitment tx insts with
      | none => rfl
      | some result => rfl

end Scan

/-! ## What is seen -/

section FilterMap

variable {α β : Type} {f g : α → Option β}

theorem filterMap_sublist (h : ∀ a, f a = none ∨ f a = g a) (l : List α) :
    (l.filterMap f).Sublist (l.filterMap g) := by
  induction l with
  | nil => exact List.Sublist.refl []
  | cons a l ih =>
    rcases h a with hnone | hsame
    · rw [List.filterMap_cons_none hnone]
      cases hg : g a with
      | none => rwa [List.filterMap_cons_none hg]
      | some b =>
        rw [List.filterMap_cons_some hg]
        exact ih.cons b
    · cases hg : g a with
      | none => rwa [List.filterMap_cons_none hg, List.filterMap_cons_none (hsame.trans hg)]
      | some b =>
        rw [List.filterMap_cons_some hg, List.filterMap_cons_some (hsame.trans hg)]
        exact ih.cons_cons b

theorem filterMap_eq_iff (h : ∀ a, f a = none ∨ f a = g a) {l : List α} :
    l.filterMap f = l.filterMap g ↔ ∀ a ∈ l, g a ≠ none → f a = g a := by
  induction l with
  | nil => exact iff_of_true rfl fun _ hmem => absurd hmem List.not_mem_nil
  | cons a l ih =>
    rw [List.forall_mem_cons, ← ih]
    cases hg : g a with
    | none =>
      have hf : f a = none := by
        rcases h a with hnone | hsame
        · exact hnone
        · exact hsame.trans hg
      rw [List.filterMap_cons_none hg, List.filterMap_cons_none hf, and_iff_right fun hne => absurd rfl hne]
    | some b =>
      rw [List.filterMap_cons_some hg]
      cases hf : f a with
      | none =>
        rw [List.filterMap_cons_none hf]
        have hle := (filterMap_sublist h l).length_le
        constructor
        · intro heq
          rw [heq, List.length_cons] at hle
          omega
        · rintro ⟨hsome, -⟩
          cases hsome (Option.some_ne_none b)
      | some c =>
        have hsame : f a = g a := by
          rcases h a with hnone | hsame
          · cases hf.symm.trans hnone
          · exact hsame
        rw [List.filterMap_cons_some hf, ← hf, hsame, hg, and_iff_right fun _ => rfl]
        have hcb : c = b := Option.some.inj (hf.symm.trans (hsame.trans hg))
        rw [hcb, List.cons_inj_right]

end FilterMap

section Seen

variable {contract commitment} {tx : Transaction PublicKey}

theorem taken_cases (inst : CompiledInstruction) : taken contract commitment tx inst = none ∨
    taken contract commitment tx inst = message? contract commitment tx inst := by
  unfold taken
  split
  · exact .inr rfl
  · exact .inl rfl

theorem scanned_append_unscanned (insts : List CompiledInstruction) :
    scanned contract tx insts ++ unscanned contract tx insts = insts ++ tx.innerInstructions.flatten := by
  induction insts with
  | nil => exact List.append_nil _
  | cons inst insts ih =>
    rw [scanned, unscanned]
    split
    · rfl
    · rw [List.cons_append, ih]
      rfl

theorem messages_eq (hsuccess : ¬tx.failed = true) : messages contract commitment tx =
    (scanned contract tx tx.instructions).filterMap (message? contract commitment tx) ++
      (unscanned contract tx tx.instructions).filterMap (message? contract commitment tx) := by
  rw [messages, if_neg hsuccess, allInstructions, ← scanned_append_unscanned, List.filterMap_append]

theorem fetchTransaction_eq (hp : programIndex contract tx ≠ 0) (hsuccess : ¬tx.failed = true) :
    fetchTransaction contract commitment tx = scanAll contract commitment tx tx.instructions := by
  rw [fetchTransaction, if_neg hp, if_neg hsuccess]
  rfl

/-- Nothing is scheduled but messages, each once. -/
theorem fetchTransaction_sublist {accs : List PublicKey} (h : fetchTransaction contract commitment tx = some accs) :
    accs.Sublist (messages contract commitment tx) := by
  by_cases hp : programIndex contract tx = 0
  · rw [fetchTransaction, if_pos hp] at h
    rw [← Option.some.inj h]
    exact List.nil_sublist _
  by_cases hsuccess : tx.failed = true
  · rw [fetchTransaction, if_neg hp, if_pos hsuccess] at h
    rw [← Option.some.inj h]
    exact List.nil_sublist _
  rw [fetchTransaction_eq hp hsuccess] at h
  by_cases hrange : ∀ inst ∈ scanned contract tx tx.instructions, ¬OutOfRange contract commitment tx inst
  · rw [scanAll_eq hp hrange] at h
    rw [← Option.some.inj h, messages_eq hsuccess]
    exact (filterMap_sublist taken_cases _).trans (List.sublist_append_left _ _)
  · push Not at hrange
    rw [scanAll_eq_none hp hrange] at h
    cases h

/-- The transaction has failed, or there is nothing in it to be seen, or everything is. -/
def Complete (contract : PublicKey) (commitment : CommitmentType) (tx : Transaction PublicKey) : Prop :=
  tx.failed = true ∨ (programIndex contract tx = 0 ∧ messages contract commitment tx = []) ∨
    AllSeen contract commitment tx

theorem fetchTransaction_complete_iff :
    fetchTransaction contract commitment tx = some (messages contract commitment tx) ↔
      Complete contract commitment tx := by
  unfold Complete
  by_cases hsuccess : tx.failed = true
  · rw [or_iff_left_of_imp fun _ => hsuccess, fetchTransaction, if_pos hsuccess, ite_self, messages, if_pos hsuccess]
    exact iff_of_true rfl hsuccess
  rw [or_iff_right hsuccess]
  by_cases hp : programIndex contract tx = 0
  · have hnot : ¬AllSeen contract commitment tx := fun h => h.indexed hp
    rw [or_iff_left hnot, and_iff_right hp, fetchTransaction, if_pos hp, Option.some_inj, eq_comm]
  have hnot : ¬(programIndex contract tx = 0 ∧ messages contract commitment tx = []) := fun h => hp h.1
  rw [or_iff_right hnot, fetchTransaction_eq hp hsuccess]
  by_cases hrange : ∀ inst ∈ scanned contract tx tx.instructions, ¬OutOfRange contract commitment tx inst
  swap
  · have hsome := hrange
    push Not at hsome
    rw [scanAll_eq_none hp hsome]
    exact iff_of_false nofun fun h => hrange h.inRange
  rw [scanAll_eq hp hrange, Option.some_inj, messages_eq hsuccess]
  have hsub := filterMap_sublist (@taken_cases PublicKey _ contract commitment tx)
    (scanned contract tx tx.instructions)
  constructor
  · intro heq
    have hlength := congrArg List.length heq
    rw [List.length_append] at hlength
    have hle := hsub.length_le
    have hsame := hsub.eq_of_length (by omega)
    refine ⟨hp, hrange, ?_, ?_⟩
    · intro inst hmem hne
      have htaken := (filterMap_eq_iff taken_cases).mp hsame inst hmem hne
      by_contra haccounts
      rw [taken, if_neg haccounts] at htaken
      exact hne htaken.symm
    · intro inst hmem
      have hnil := List.length_eq_zero_iff.mp (by omega :
        ((unscanned contract tx tx.instructions).filterMap (message? contract commitment tx)).length = 0)
      exact List.filterMap_eq_nil_iff.mp hnil inst hmem
  · rintro ⟨-, -, haccounts, hbehind⟩
    rw [List.filterMap_eq_nil_iff.mpr hbehind, List.append_nil]
    apply (filterMap_eq_iff taken_cases).mpr
    intro inst hmem hne
    rw [taken, if_pos (haccounts inst hmem hne)]

theorem fetchBlock_sublist {block : List (Transaction PublicKey)} {accs : List PublicKey}
    (h : fetchBlock contract commitment block = some accs) :
    accs.Sublist (block.flatMap (messages contract commitment)) := by
  induction block generalizing accs with
  | nil =>
    rw [← Option.some.inj h]
    exact List.Sublist.refl []
  | cons tx block ih =>
    obtain ⟨first, hfirst, h⟩ := Option.bind_eq_some_iff.mp h
    obtain ⟨rest, hrest, h⟩ := Option.bind_eq_some_iff.mp h
    rw [← Option.some.inj h, List.flatMap_cons]
    exact (fetchTransaction_sublist hfirst).append (ih hrest)

theorem fetchBlock_eq_messages_iff {block : List (Transaction PublicKey)} :
    fetchBlock contract commitment block = some (block.flatMap (messages contract commitment)) ↔
      ∀ tx ∈ block, Complete contract commitment tx := by
  induction block with
  | nil => exact iff_of_true rfl fun _ hmem => absurd hmem List.not_mem_nil
  | cons tx block ih =>
    rw [List.forall_mem_cons, ← ih, ← fetchTransaction_complete_iff]
    constructor
    · intro h
      obtain ⟨first, hfirst, h⟩ := Option.bind_eq_some_iff.mp h
      obtain ⟨rest, hrest, h⟩ := Option.bind_eq_some_iff.mp h
      have heq := Option.some.inj h
      rw [List.flatMap_cons] at heq
      have hsubFirst := fetchTransaction_sublist hfirst
      have hsubRest := fetchBlock_sublist hrest
      have hlength := congrArg List.length heq
      rw [List.length_append, List.length_append] at hlength
      have hleFirst := hsubFirst.length_le
      have hleRest := hsubRest.length_le
      rw [hfirst, hrest, hsubFirst.eq_of_length (by omega), hsubRest.eq_of_length (by omega)]
      exact ⟨rfl, rfl⟩
    · rintro ⟨hfirst, hrest⟩
      rw [fetchBlock, hfirst, hrest]
      rfl

/-- **The watcher sees every message of a block**, each once, **exactly if** each transaction that has succeeded holds
none, or has the program behind index 0, no message behind the first top-level `post_message`, and nine accounts
with every message up to there, where nothing is out of range. -/
theorem fetchBlock_complete_iff (contract : PublicKey) (commitment : CommitmentType)
    (block : List (Transaction PublicKey)) :
    (∃ accs, fetchBlock contract commitment block = some accs ∧
      accs.Perm (block.flatMap (messages contract commitment))) ↔
    ∀ tx ∈ block, Complete contract commitment tx := by
  rw [← fetchBlock_eq_messages_iff]
  constructor
  · rintro ⟨accs, hfetch, hperm⟩
    rw [hfetch, (fetchBlock_sublist hfetch).eq_of_length hperm.length_eq]
  · intro h
    exact ⟨_, h, List.Perm.refl _⟩

end Seen

end Watcher

/-! ## Two messages in a transaction -/

section Samples

/-- A message of level 1 whose account is the second one named. -/
def samplePost (message : UInt16) : CompiledInstruction where
  programIDIndex := 1
  accounts := [0, message, 0, 0, 0, 0, 0, 0, 0]
  data := [1, 7, 0, 0, 0, 2, 0, 0, 0, 5, 6, 1]

def sampleTransaction : Transaction Nat where
  accountKeys := [10, 11, 12, 13]
  nodup := by decide
  size := by decide
  failed := false
  instructions := [samplePost 2, samplePost 3]
  innerInstructions := []

example : fetchBlock 11 .finalized [{ sampleTransaction with instructions := [samplePost 2] }] = some [12] := by
  decide +kernel

/-- The second one is lost. -/
theorem sampleTransaction_incomplete :
    ¬∀ (contract : Nat) (commitment : CommitmentType) (block : List (Transaction Nat)),
      ∃ accs, fetchBlock contract commitment block = some accs ∧
        accs.Perm (block.flatMap (messages contract commitment)) := by
  intro h
  obtain ⟨accs, hfetch, hperm⟩ := h 11 .finalized [sampleTransaction]
  have hseen : fetchBlock 11 .finalized [sampleTransaction] = some [12] := by decide +kernel
  have hmessages : [sampleTransaction].flatMap (messages 11 .finalized) = [12, 13] := by decide +kernel
  have hlength := hperm.length_eq
  rw [← Option.some.inj (hseen.symm.trans hfetch), hmessages] at hlength
  cases hlength

end Samples

end Wormhole.Guardian.SolanaWatcher

/-
# Wormhole.Solana.Solitaire — accounts, and how a program reads, creates and writes them.

A ledger maps every address to its account.  An instruction names its accounts with two flags each, whether
the address signed and whether it may be written.  Solitaire peels the accounts of an instruction into
data, runs the handler on the data and writes the data back (`processors/peel.rs`); accounts come into being
by a call of the system program, which the program signs with the seeds of the address
(`processors/seeded.rs`).  An account's data are bytes: that an account is of a kind means that its bytes
can be read as that kind.

The runtime is a parameter, with `findProgramAddress`.  The program's accounts are those it owns.
`Kept` says that a step has left the program's accounts at an address alone.
-/
import Mathlib
import Wormhole.Lib.Bytes
import Wormhole.Lib.Failing
import Wormhole.Solana.Payloads

namespace Wormhole.Solana

open Wormhole.Lib Wormhole.Lib.Bytes

/-! ## The runtime -/

/-- A program, and what it uses of its runtime. -/
structure Program (Pubkey : Type) where
  programId : Pubkey
  systemProgram : Pubkey
  /-- the addresses of the sysvars -/
  clock : Pubkey
  instructions : Pubkey
  toBytes : Pubkey → FixedBytes 32
  /-- the address of the seeds under a program, with its bump -/
  findProgramAddress : List (List UInt8) → Pubkey → Pubkey × UInt8
  programId_ne_system : programId ≠ systemProgram

structure Account (Pubkey : Type) where
  lamports : Nat
  owner : Pubkey
  data : List UInt8
  deriving DecidableEq

abbrev Ledger (Pubkey : Type) := Pubkey → Account Pubkey

/-- An account as an instruction names it. -/
structure AccountMeta (Pubkey : Type) where
  key : Pubkey
  isSigner : Bool
  isWritable : Bool
  deriving DecidableEq

inductive AccountState where
  | initialized
  | uninitialized
  | maybeInitialized
  deriving DecidableEq

/-- The data of an account, with `try_to_vec` and `try_from_slice`. -/
class AccountData (T : Type) where
  serialize : T → List UInt8
  deserialize : List UInt8 → Result T
  default : T

/-- Go on if the condition holds. -/
def ensure (c : Prop) [Decidable c] (err : SolitaireError) : Result Unit := if c then .ok () else .error err

/-- Rust's indexing and `unwrap`. -/
def unwrap {α : Type} : Option α → Result α
  | some a => .ok a
  | none => .error .panicked

/-- The rent exemption of an account of `size` bytes, `Rent::default().minimum_balance(size)`. -/
def minimumBalance (size : Nat) : Nat := (128 + size) * 3480 * 2

/-- What an invoked instruction may add to an account. -/
def MAX_PERMITTED_DATA_INCREASE : Nat := 10240

variable {Pubkey : Type} {P : Program Pubkey} {L L' L'' : Ledger Pubkey}

variable (P) in
/-- The account is the program's before as it is after, with the same data. -/
def Kept (L L' : Ledger Pubkey) (k : Pubkey) : Prop :=
  ((L' k).owner = P.programId ↔ (L k).owner = P.programId) ∧
    ((L k).owner = P.programId → (L' k).data = (L k).data)

namespace Kept

theorem refl (L : Ledger Pubkey) (k : Pubkey) : Kept P L L k := ⟨Iff.rfl, fun _ => rfl⟩

theorem trans {k : Pubkey} (h : Kept P L L' k) (h' : Kept P L' L'' k) : Kept P L L'' k :=
  ⟨h'.1.trans h.1, fun howner => (h'.2 (h.1.mpr howner)).trans (h.2 howner)⟩

theorem of_eq {k : Pubkey} (h : L' k = L k) : Kept P L L' k := by
  rw [Kept, h]
  exact ⟨Iff.rfl, fun _ => rfl⟩

end Kept

variable (P) in
/-- The account is the program's, and has these data. -/
def Holds (L : Ledger Pubkey) (k : Pubkey) (bytes : List UInt8) : Prop :=
  (L k).owner = P.programId ∧ (L k).data = bytes

theorem Kept.holds {k : Pubkey} {bytes : List UInt8} (h : Kept P L L' k) (hold : Holds P L k bytes) :
    Holds P L' k bytes := ⟨h.1.mpr hold.1, (h.2 hold.1).trans hold.2⟩

theorem Kept.holds_iff {k : Pubkey} {bytes : List UInt8} (h : Kept P L L' k) :
    Holds P L' k bytes ↔ Holds P L k bytes := by
  constructor
  · rintro ⟨howner, hdata⟩
    have hold : (L k).owner = P.programId := h.1.mp howner
    exact ⟨hold, (h.2 hold).symm.trans hdata⟩
  · exact h.holds

/-- What the creation of an account does. -/
structure Created (P : Program Pubkey) (L L' : Ledger Pubkey) (m : AccountMeta Pubkey)
    (signed : Option Pubkey) (size : Nat) (owner : Pubkey) : Prop where
  signed : m.isSigner = true ∨ signed = some m.key
  writable : m.isWritable = true
  free : (L m.key).owner = P.systemProgram
  unfunded : (L m.key).lamports = 0
  bounded : size ≤ MAX_PERMITTED_DATA_INCREASE
  owner : (L' m.key).owner = owner
  data : (L' m.key).data = List.replicate size 0x00
  kept : ∀ k, k ≠ m.key → Kept P L L' k

namespace Created

variable {m : AccountMeta Pubkey} {signed : Option Pubkey} {size : Nat} {owner : Pubkey}

theorem holds (h : Created P L L' m signed size P.programId) :
    Holds P L' m.key (List.replicate size 0x00) := ⟨h.owner, h.data⟩

/-- An account that is created was not the program's. -/
theorem not_owned (h : Created P L L' m signed size owner) : (L m.key).owner ≠ P.programId := by
  rw [h.free]
  exact P.programId_ne_system.symm

/-- An account that is created for someone else is none of the program's. -/
theorem kept_foreign (h : Created P L L' m signed size owner) (howner : owner ≠ P.programId)
    (k : Pubkey) : Kept P L L' k := by
  by_cases hk : k = m.key
  · subst hk
    have hafter : (L' m.key).owner ≠ P.programId := by
      rw [h.owner]
      exact howner
    exact ⟨iff_of_false hafter h.not_owned, fun hold => absurd hold h.not_owned⟩
  · exact h.kept k hk

/-- An account of the program is elsewhere. -/
theorem ne_of_holds (h : Created P L L' m signed size owner) {k : Pubkey} {bytes : List UInt8}
    (hold : Holds P L k bytes) : k ≠ m.key := by
  rintro rfl
  exact h.not_owned hold.1

end Created

/-- What the writing of data does. -/
structure Persisted (P : Program Pubkey) (L L' : Ledger Pubkey) (m : AccountMeta Pubkey)
    (bytes : List UInt8) : Prop where
  owners : ∀ k, (L' k).owner = (L k).owner
  others : ∀ k, k ≠ m.key → L' k = L k
  data : (L m.key).owner = P.programId → m.isWritable = true →
    (L' m.key).data = bytes ++ (L m.key).data.drop bytes.length
  foreign : (L m.key).owner ≠ P.programId ∨ m.isWritable = false → L' = L

namespace Persisted

variable {m : AccountMeta Pubkey} {bytes : List UInt8} {k : Pubkey}

theorem kept (h : Persisted P L L' m bytes) (hk : k ≠ m.key) : Kept P L L' k := .of_eq (h.others k hk)

/-- Writing what is there changes nothing. -/
theorem kept_same (h : Persisted P L L' m bytes) (hsame : (L m.key).data = bytes) : Kept P L L' k := by
  by_cases hk : k = m.key
  swap
  · exact h.kept hk
  subst hk
  refine ⟨by rw [h.owners], ?_⟩
  intro howner
  by_cases hwritable : m.isWritable = true
  · rw [h.data howner hwritable, hsame, List.drop_length, List.append_nil]
  · rw [h.foreign (.inr (Bool.not_eq_true _ ▸ hwritable))]

/-- Data of the same length replace the data. -/
theorem holds (h : Persisted P L L' m bytes) (hwritable : m.isWritable = true) {old : List UInt8}
    (hold : Holds P L m.key old) (hlen : old.length = bytes.length) : Holds P L' m.key bytes := by
  refine ⟨(h.owners _).trans hold.1, ?_⟩
  rw [h.data hold.1 hwritable, hold.2, ← hlen, List.drop_length, List.append_nil]

end Persisted

variable [DecidableEq Pubkey]

section Program

variable (P)

/-- The program's address for the seeds. -/
def Program.derive (seeds : List (List UInt8)) : Pubkey := (P.findProgramAddress seeds P.programId).1

/-! ## Peeling -/

def peelMut (m : AccountMeta Pubkey) : Result Unit := ensure (m.isWritable = true) .invalidMutability

def peelSigner (m : AccountMeta Pubkey) : Result Unit := ensure (m.isSigner = true) .invalidSigner

def peelDerive (seed : List UInt8) (m : AccountMeta Pubkey) : Result Unit :=
  ensure (P.derive [seed] = m.key) .invalidDerive

def peelSysvar (id : Pubkey) (m : AccountMeta Pubkey) : Result Unit := ensure (m.key = id) .invalidSysvar

/-- The peel of `Info`; without `Mut` around it, it must not be writable. -/
def peelInfo (immutable : Bool) (m : AccountMeta Pubkey) : Result Unit :=
  ensure (¬(immutable = true ∧ m.isWritable = true)) .invalidMutability

/-- `try_from_slice`, of an account of the given owner. -/
def readData (T : Type) [AccountData T] (owner : Pubkey) (a : Account Pubkey) : Result T := do
  let t : T ← AccountData.deserialize a.data
  ensure (a.owner = owner) .invalidOwner
  return t

/-- The peel of `Data`. -/
def peelData (T : Type) [AccountData T] (state : AccountState) (owner : Pubkey) (L : Ledger Pubkey)
    (immutable : Bool) (m : AccountMeta Pubkey) : Result T := do
  peelInfo immutable m
  match state with
  | .uninitialized => do
    ensure ((L m.key).lamports = 0) .alreadyInitialized
    return AccountData.default
  | .initialized => readData T owner (L m.key)
  | .maybeInitialized =>
    if (L m.key).lamports = 0 then .ok AccountData.default else readData T owner (L m.key)

/-- `is_initialized`. -/
def isInitialized (L : Ledger Pubkey) (m : AccountMeta Pubkey) : Prop := (L m.key).lamports ≠ 0

instance (L : Ledger Pubkey) (m : AccountMeta Pubkey) : Decidable (isInitialized L m) :=
  inferInstanceAs (Decidable (_ ≠ _))

/-- `verify_derivation`. -/
def verifyDerivation (seeds : List (List UInt8)) (m : AccountMeta Pubkey) : Result Unit :=
  ensure (P.derive seeds = m.key) .invalidDerive

/-! ## Persisting -/

/-- The data of an account, overwritten from the front. -/
def Ledger.write (L : Ledger Pubkey) (k : Pubkey) (bytes : List UInt8) : Ledger Pubkey :=
  Function.update L k { L k with data := bytes ++ (L k).data.drop bytes.length }

/-- The `persist` of `Data`. -/
def persist {T : Type} [AccountData T] (L : Ledger Pubkey) (m : AccountMeta Pubkey) (t : T) :
    Result (Ledger Pubkey) :=
  if (L m.key).owner ≠ P.programId then .ok L
  else if m.isWritable = false then .ok L
  else if (L m.key).data.length < (AccountData.serialize t).length then .error .ioError
  else .ok (L.write m.key (AccountData.serialize t))

/-! ## Invoking the system program -/

/-- Lamports leave an account of the system program that holds no data; the payer signs, or the program does
for it. -/
def debit (L : Ledger Pubkey) (m : AccountMeta Pubkey) (signed : Option Pubkey) (amount : Nat) :
    Result (Ledger Pubkey) := do
  ensure (m.isWritable = true ∧ (m.isSigner = true ∨ signed = some m.key)) .invokeFailed
  ensure ((L m.key).owner = P.systemProgram ∧ (L m.key).data = []) .invokeFailed
  ensure (amount ≤ (L m.key).lamports) .invokeFailed
  return Function.update L m.key { L m.key with lamports := (L m.key).lamports - amount }

/-- `system_instruction::create_account`; `signed` is the address that the program signs for. -/
def createAccount (L : Ledger Pubkey) (payer m : AccountMeta Pubkey) (signed : Option Pubkey)
    (lamports space : Nat) (owner : Pubkey) : Result (Ledger Pubkey) := do
  ensure (m.isWritable = true ∧ (m.isSigner = true ∨ signed = some m.key)) .invokeFailed
  -- the account is not in use
  ensure ((L m.key).lamports = 0 ∧ (L m.key).data = [] ∧ (L m.key).owner = P.systemProgram) .invokeFailed
  ensure (space ≤ MAX_PERMITTED_DATA_INCREASE) .invokeFailed
  let L ← debit P L payer none lamports
  return Function.update L m.key { lamports, owner, data := List.replicate space 0x00 }

/-- `system_instruction::transfer`, signed for the sender. -/
def transfer (L : Ledger Pubkey) (sender recipient : AccountMeta Pubkey) (signed : Option Pubkey)
    (amount : Nat) : Result (Ledger Pubkey) := do
  ensure (recipient.isWritable = true) .invokeFailed
  let L ← debit P L sender signed amount
  return Function.update L recipient.key
    { L recipient.key with lamports := (L recipient.key).lamports + amount }

/-- `create` of an account with seeds, for the data it is to hold. -/
def create {T : Type} [AccountData T] (L : Ledger Pubkey) (payer m : AccountMeta Pubkey)
    (seeds : List (List UInt8)) (t : T) : Result (Ledger Pubkey) :=
  let size := (AccountData.serialize t).length
  createAccount P L payer m (some (P.derive seeds)) (minimumBalance size) size P.programId

end Program

/-! ## What they do -/

@[simp]
theorem ensure_eq_ok {c : Prop} [Decidable c] {err : SolitaireError} {u : Unit} :
    ensure c err = .ok u ↔ c := by
  unfold ensure
  split <;> simp_all

@[simp]
theorem unwrap_eq_ok {α : Type} {o : Option α} {a : α} : unwrap o = .ok a ↔ o = some a := by
  cases o <;> simp [unwrap]

variable {m payer : AccountMeta Pubkey}

theorem readData_eq_ok {T : Type} [AccountData T] {owner : Pubkey} {a : Account Pubkey} {t : T} :
    readData T owner a = .ok t ↔ AccountData.deserialize a.data = .ok t ∧ a.owner = owner := by
  rw [readData, Failing.bind_eq_ok]
  constructor
  · rintro ⟨t', hread, h⟩
    obtain ⟨_, howner, hpure⟩ := Failing.bind_eq_ok.mp h
    rw [← Except.ok.inj hpure]
    exact ⟨hread, ensure_eq_ok.mp howner⟩
  · rintro ⟨hread, howner⟩
    exact ⟨t, hread, Failing.bind_eq_ok.mpr ⟨(), ensure_eq_ok.mpr howner, rfl⟩⟩

theorem peelData_initialized {T : Type} [AccountData T] {owner : Pubkey} {immutable : Bool} {t : T} :
    peelData T .initialized owner L immutable m = .ok t ↔
      ¬(immutable = true ∧ m.isWritable = true) ∧ AccountData.deserialize (L m.key).data = .ok t ∧
        (L m.key).owner = owner := by
  rw [peelData, Failing.bind_eq_ok, ← readData_eq_ok]
  constructor
  · rintro ⟨_, hinfo, hread⟩
    exact ⟨ensure_eq_ok.mp hinfo, hread⟩
  · rintro ⟨hinfo, hread⟩
    exact ⟨(), ensure_eq_ok.mpr hinfo, hread⟩

theorem peelData_uninitialized {T : Type} [AccountData T] {owner : Pubkey} {immutable : Bool} {t : T} :
    peelData T .uninitialized owner L immutable m = .ok t ↔
      ¬(immutable = true ∧ m.isWritable = true) ∧ (L m.key).lamports = 0 ∧ AccountData.default = t := by
  rw [peelData, Failing.bind_eq_ok]
  constructor
  · rintro ⟨_, hinfo, h⟩
    obtain ⟨_, hzero, hpure⟩ := Failing.bind_eq_ok.mp h
    exact ⟨ensure_eq_ok.mp hinfo, ensure_eq_ok.mp hzero, Except.ok.inj hpure⟩
  · rintro ⟨hinfo, hzero, rfl⟩
    exact ⟨(), ensure_eq_ok.mpr hinfo, Failing.bind_eq_ok.mpr ⟨(), ensure_eq_ok.mpr hzero, rfl⟩⟩

theorem peelData_maybeInitialized {T : Type} [AccountData T] {owner : Pubkey} {immutable : Bool} {t : T}
    (h : peelData T .maybeInitialized owner L immutable m = .ok t) :
    (¬isInitialized L m ∧ AccountData.default = t) ∨
      (isInitialized L m ∧ AccountData.deserialize (L m.key).data = .ok t ∧ (L m.key).owner = owner) := by
  rw [peelData, Failing.bind_eq_ok] at h
  obtain ⟨_, -, h⟩ := h
  by_cases hzero : (L m.key).lamports = 0
  · rw [if_pos hzero] at h
    exact .inl ⟨fun hinit => hinit hzero, Except.ok.inj h⟩
  · rw [if_neg hzero] at h
    exact .inr ⟨hzero, readData_eq_ok.mp h⟩

/-! ## What is kept -/

namespace Kept

/-- Lamports come and go. -/
theorem of_lamports {k k' : Pubkey} {lamports : Nat} :
    Kept P L (Function.update L k' { L k' with lamports }) k := by
  by_cases hk : k = k'
  · subst hk
    rw [Kept, Function.update_self]
    exact ⟨Iff.rfl, fun _ => rfl⟩
  · exact .of_eq (Function.update_of_ne hk _ _)

end Kept

theorem debit_eq_ok {signed : Option Pubkey} {amount : Nat} (h : debit P L m signed amount = .ok L') :
    (∀ k, Kept P L L' k) ∧ ∀ k, k ≠ m.key → L' k = L k := by
  obtain ⟨_, -, h⟩ := Failing.bind_eq_ok.mp h
  obtain ⟨_, -, h⟩ := Failing.bind_eq_ok.mp h
  obtain ⟨_, -, h⟩ := Failing.bind_eq_ok.mp h
  rw [← Except.ok.inj h]
  exact ⟨fun _ => .of_lamports, fun k hk => Function.update_of_ne hk _ _⟩

theorem transfer_eq_ok {recipient : AccountMeta Pubkey} {signed : Option Pubkey} {amount : Nat}
    (h : transfer P L m recipient signed amount = .ok L') (k : Pubkey) : Kept P L L' k := by
  obtain ⟨_, -, h⟩ := Failing.bind_eq_ok.mp h
  obtain ⟨L₁, hdebit, h⟩ := Failing.bind_eq_ok.mp h
  rw [← Except.ok.inj h]
  exact ((debit_eq_ok hdebit).1 k).trans .of_lamports

/-- Only lamports move. -/
theorem debit_same {signed : Option Pubkey} {amount : Nat} (h : debit P L m signed amount = .ok L') (k : Pubkey) :
    (L' k).owner = (L k).owner ∧ (L' k).data = (L k).data := by
  obtain ⟨_, -, h⟩ := Failing.bind_eq_ok.mp h
  obtain ⟨_, -, h⟩ := Failing.bind_eq_ok.mp h
  obtain ⟨_, -, h⟩ := Failing.bind_eq_ok.mp h
  rw [← Except.ok.inj h]
  by_cases hk : k = m.key
  · subst hk
    rw [Function.update_self]
    exact ⟨rfl, rfl⟩
  · rw [Function.update_of_ne hk]
    exact ⟨rfl, rfl⟩

theorem transfer_same {recipient : AccountMeta Pubkey} {signed : Option Pubkey} {amount : Nat}
    (h : transfer P L m recipient signed amount = .ok L') (k : Pubkey) :
    (L' k).owner = (L k).owner ∧ (L' k).data = (L k).data := by
  obtain ⟨_, -, h⟩ := Failing.bind_eq_ok.mp h
  obtain ⟨L₁, hdebit, h⟩ := Failing.bind_eq_ok.mp h
  rw [← Except.ok.inj h]
  by_cases hk : k = recipient.key
  · subst hk
    rw [Function.update_self]
    exact debit_same hdebit _
  · rw [Function.update_of_ne hk]
    exact debit_same hdebit k

/-- Elsewhere the creation of an account only moves lamports. -/
theorem createAccount_same {signed : Option Pubkey} {lamports space : Nat} {owner k : Pubkey}
    (h : createAccount P L payer m signed lamports space owner = .ok L') (hk : k ≠ m.key) :
    (L' k).owner = (L k).owner ∧ (L' k).data = (L k).data := by
  obtain ⟨_, -, h⟩ := Failing.bind_eq_ok.mp h
  obtain ⟨_, -, h⟩ := Failing.bind_eq_ok.mp h
  obtain ⟨_, -, h⟩ := Failing.bind_eq_ok.mp h
  obtain ⟨L₁, hdebit, h⟩ := Failing.bind_eq_ok.mp h
  rw [← Except.ok.inj h, Function.update_of_ne hk]
  exact debit_same hdebit k

theorem createAccount_eq_ok {signed : Option Pubkey} {lamports space : Nat} {owner : Pubkey}
    (h : createAccount P L payer m signed lamports space owner = .ok L') :
    Created P L L' m signed space owner := by
  obtain ⟨_, hsigned, h⟩ := Failing.bind_eq_ok.mp h
  obtain ⟨_, hfree, h⟩ := Failing.bind_eq_ok.mp h
  obtain ⟨_, hspace, h⟩ := Failing.bind_eq_ok.mp h
  obtain ⟨L₁, hdebit, h⟩ := Failing.bind_eq_ok.mp h
  rw [ensure_eq_ok] at hsigned hfree hspace
  rw [← Except.ok.inj h]
  refine ⟨hsigned.2, hsigned.1, hfree.2.2, hfree.1, hspace, ?_, ?_, ?_⟩
  · rw [Function.update_self]
  · rw [Function.update_self]
  · intro k hk
    exact ((debit_eq_ok hdebit).1 k).trans (.of_eq (Function.update_of_ne hk _ _))

/-- What the payer is debited is what the account has. -/
theorem createAccount_lamports {signed : Option Pubkey} {lamports space : Nat} {owner : Pubkey}
    (h : createAccount P L payer m signed lamports space owner = .ok L') : (L' m.key).lamports = lamports := by
  obtain ⟨_, -, h⟩ := Failing.bind_eq_ok.mp h
  obtain ⟨_, -, h⟩ := Failing.bind_eq_ok.mp h
  obtain ⟨_, -, h⟩ := Failing.bind_eq_ok.mp h
  obtain ⟨L₁, -, h⟩ := Failing.bind_eq_ok.mp h
  rw [← Except.ok.inj h, Function.update_self]

theorem create_eq_ok {T : Type} [AccountData T] {seeds : List (List UInt8)} {t : T}
    (h : create P L payer m seeds t = .ok L') :
    Created P L L' m (some (P.derive seeds)) (AccountData.serialize t).length P.programId :=
  createAccount_eq_ok h

theorem persist_eq_ok {T : Type} [AccountData T] {t : T} (h : persist P L m t = .ok L') :
    Persisted P L L' m (AccountData.serialize t) := by
  unfold persist at h
  by_cases howner : (L m.key).owner = P.programId
  swap
  · rw [if_pos howner] at h
    rw [← Except.ok.inj h]
    exact ⟨fun _ => rfl, fun _ _ => rfl, fun h => absurd h howner, fun _ => rfl⟩
  rw [if_neg (not_not.mpr howner)] at h
  by_cases hwritable : m.isWritable = false
  · rw [if_pos hwritable] at h
    rw [← Except.ok.inj h]
    refine ⟨fun _ => rfl, fun _ _ => rfl, ?_, fun _ => rfl⟩
    intro _ hw
    rw [hwritable] at hw
    cases hw
  rw [if_neg hwritable] at h
  by_cases hlen : (L m.key).data.length < (AccountData.serialize t).length
  · rw [if_pos hlen] at h
    cases h
  rw [if_neg hlen] at h
  rw [← Except.ok.inj h]
  refine ⟨?_, ?_, ?_, ?_⟩
  · intro k
    by_cases hk : k = m.key
    · subst hk
      rw [Ledger.write, Function.update_self]
    · rw [Ledger.write, Function.update_of_ne hk]
  · intro k hk
    exact Function.update_of_ne hk _ _
  · intro _ _
    rw [Ledger.write, Function.update_self]
  · rintro (hforeign | hunwritable)
    · exact absurd howner hforeign
    · exact absurd hunwritable hwritable

/-! ## How they fail -/

theorem ensure_bind {α : Type} {c : Prop} [Decidable c] {err : SolitaireError} {f : Unit → Result α} :
    (ensure c err >>= f) = if c then f () else .error err := by
  unfold ensure
  split <;> rfl

section Never

variable {Pubkey : Type} [DecidableEq Pubkey] {P : Program Pubkey} {L : Ledger Pubkey} {e : SolitaireError}

theorem ensure_never {c : Prop} [Decidable c] {err : SolitaireError} (h : err ≠ e) :
    Failing.Never e (ensure c err) := by
  unfold ensure
  split
  · exact .ok
  · exact .error h

theorem readData_never {T : Type} [AccountData T] {owner : Pubkey} {a : Account Pubkey}
    (howner : .invalidOwner ≠ e) (hread : ∀ bs, Failing.Never e (AccountData.deserialize bs : Result T)) :
    Failing.Never e (readData T owner a) :=
  .bind (hread _) fun _ _ => .bind (ensure_never howner) fun _ _ => .ok

/-- A peel fails where reading the data does, or for a reason of its own. -/
theorem peelData_never {T : Type} [AccountData T] {state : AccountState} {owner : Pubkey} {immutable : Bool}
    {m : AccountMeta Pubkey} (hmut : .invalidMutability ≠ e) (hnew : .alreadyInitialized ≠ e)
    (howner : .invalidOwner ≠ e) (hread : ∀ bs, Failing.Never e (AccountData.deserialize bs : Result T)) :
    Failing.Never e (peelData T state owner L immutable m) := by
  apply Failing.Never.bind (ensure_never hmut)
  intro _ _
  cases state with
  | initialized => exact readData_never howner hread
  | uninitialized => exact .bind (ensure_never hnew) fun _ _ => .ok
  | maybeInitialized =>
    show Failing.Never _ (if _ then _ else _)
    split
    · exact .ok
    · exact readData_never howner hread

theorem createAccount_never (h : .invokeFailed ≠ e) {payer m : AccountMeta Pubkey} {signed : Option Pubkey}
    {lamports space : Nat} {owner : Pubkey} :
    Failing.Never e (createAccount P L payer m signed lamports space owner) := by
  iterate 3
    apply Failing.Never.bind (ensure_never h)
    intro _ _
  refine Failing.Never.bind ?_ fun _ _ => .ok
  iterate 3
    apply Failing.Never.bind (ensure_never h)
    intro _ _
  exact .ok

theorem persist_never (h : .ioError ≠ e) {T : Type} [AccountData T] {m : AccountMeta Pubkey} {t : T} :
    Failing.Never e (persist P L m t) := by
  unfold persist
  split
  · exact .ok
  split
  · exact .ok
  split
  · exact .error h
  · exact .ok

/-- Data of the length that is there can be written. -/
theorem persist_returns {T : Type} [AccountData T] {m : AccountMeta Pubkey} {t : T}
    (h : (AccountData.serialize t).length ≤ (L m.key).data.length) : ∃ L', persist P L m t = .ok L' := by
  unfold persist
  split
  · exact ⟨_, rfl⟩
  split
  · exact ⟨_, rfl⟩
  rw [if_neg (Nat.not_lt.mpr h)]
  exact ⟨_, rfl⟩

end Never

end Wormhole.Solana

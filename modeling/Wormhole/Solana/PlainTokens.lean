/-
# Wormhole.Solana.PlainTokens — a token program.

Accounts and mints, written out with their keys and amounts, and the instructions on them as the SPL token program
documents them.  It is `Lawful` (`plainTokens_lawful`): what the bridge's results ask of the token program, some token
program does.  The layout is not the real one: a number is written in unary and a key as long as it is, so that every
amount and every derived address can be written, and the first byte tells an account from a mint.

One lemma for each instruction says what it has written where (`transfer_eq_ok` and its like), and `Change` collects
them: what an instruction can have done at one address.  The laws are read off these.
-/
import Mathlib
import Wormhole.Lib.Failing
import Wormhole.Solana.Payloads
import Wormhole.Solana.Solitaire
import Wormhole.Solana.Spl

namespace Wormhole.Solana.PlainTokens

open Wormhole.Lib Wormhole.Lib.Failing

/-- Addresses of keys, and derived ones. -/
abbrev Key := Nat ⊕ List UInt8

/-! ## Layout -/

section Layout

variable (rest : List UInt8)

/-- A number, as so many ones and a zero behind them. -/
def packNat (n : Nat) : List UInt8 := List.replicate n 1 ++ [0]

def unpackNat : List UInt8 → Option (Nat × List UInt8)
  | 0 :: rest => some (0, rest)
  | 1 :: rest => (unpackNat rest).map fun p => (p.1 + 1, p.2)
  | _ => none

/-- A number is read back, whatever stands behind it. -/
theorem unpackNat_packNat (n : Nat) : unpackNat (packNat n ++ rest) = some (n, rest) := by
  induction n with
  | zero => rfl
  | succ n ih =>
    show (unpackNat (packNat n ++ rest)).map _ = _
    rw [ih]
    rfl

/-- Bytes, each with a one in front of it, and a zero behind them. -/
def packBytes : List UInt8 → List UInt8
  | [] => [0]
  | b :: l => 1 :: b :: packBytes l

def unpackBytes : List UInt8 → Option (List UInt8 × List UInt8)
  | 0 :: rest => some ([], rest)
  | 1 :: b :: rest => (unpackBytes rest).map fun p => (b :: p.1, p.2)
  | _ => none

/-- Bytes are read back, whatever stands behind them. -/
theorem unpackBytes_packBytes (l : List UInt8) : unpackBytes (packBytes l ++ rest) = some (l, rest) := by
  induction l with
  | nil => rfl
  | cons b l ih =>
    show (unpackBytes (packBytes l ++ rest)).map _ = _
    rw [ih]
    rfl

/-- An address: that of a key, or a derived one. -/
def packKey : Key → List UInt8
  | .inl n => 0 :: packNat n
  | .inr l => 1 :: packBytes l

def unpackKey : List UInt8 → Option (Key × List UInt8)
  | 0 :: rest => (unpackNat rest).map fun p => (.inl p.1, p.2)
  | 1 :: rest => (unpackBytes rest).map fun p => (.inr p.1, p.2)
  | _ => none

/-- An address is read back, whatever stands behind it. -/
theorem unpackKey_packKey (k : Key) : unpackKey (packKey k ++ rest) = some (k, rest) := by
  cases k with
  | inl n =>
    show (unpackNat (packNat n ++ rest)).map _ = _
    rw [unpackNat_packNat]
    rfl
  | inr l =>
    show (unpackBytes (packBytes l ++ rest)).map _ = _
    rw [unpackBytes_packBytes]
    rfl

/-- An address that need not be there, such as a delegate. -/
def packOption : Option Key → List UInt8
  | none => [0]
  | some k => 1 :: packKey k

def unpackOption : List UInt8 → Option (Option Key × List UInt8)
  | 0 :: rest => some (none, rest)
  | 1 :: rest => (unpackKey rest).map fun p => (some p.1, p.2)
  | _ => none

theorem unpackOption_packOption (k : Option Key) : unpackOption (packOption k ++ rest) = some (k, rest) := by
  cases k with
  | none => rfl
  | some k =>
    show (unpackKey (packKey k ++ rest)).map _ = _
    rw [unpackKey_packKey]
    rfl

end Layout

/-- A token account: mint, owner, delegate and amount, in the order in which the token program writes them. -/
def packAccount (a : Spl.Account Key) : List UInt8 :=
  1 :: (packKey a.mint ++ (packKey a.owner ++ (packOption a.delegate ++ packNat a.amount)))

/-- The account in an account's data.  New data is all zeros, which begins neither an account nor a mint. -/
def unpackAccount : List UInt8 → Option (Spl.Account Key)
  | 1 :: rest => do
    let (mint, rest) ← unpackKey rest
    let (owner, rest) ← unpackKey rest
    let (delegate, rest) ← unpackOption rest
    let (amount, _) ← unpackNat rest
    return ⟨mint, owner, delegate, amount⟩
  | _ => none

/-- A mint: its decimals, who mints, and the supply. -/
def packMint (m : Spl.Mint Key) : List UInt8 :=
  2 :: m.decimals :: (packOption m.mintAuthority ++ packNat m.supply)

/-- The mint in an account's data. -/
def unpackMint : List UInt8 → Option (Spl.Mint Key)
  | 2 :: decimals :: rest => do
    let (mintAuthority, rest) ← unpackOption rest
    let (supply, _) ← unpackNat rest
    return ⟨mintAuthority, supply, decimals⟩
  | _ => none

/-- An account is read back as it was written. -/
theorem unpackAccount_packAccount (a : Spl.Account Key) : unpackAccount (packAccount a) = some a := by
  have hamount := unpackNat_packNat [] a.amount
  rw [List.append_nil] at hamount
  simp only [packAccount, unpackAccount, unpackKey_packKey, unpackOption_packOption, hamount, Option.bind_eq_bind,
    Option.bind_some, Option.pure_def]

/-- A mint is read back as it was written. -/
theorem unpackMint_packMint (m : Spl.Mint Key) : unpackMint (packMint m) = some m := by
  have hsupply := unpackNat_packNat [] m.supply
  rw [List.append_nil] at hsupply
  simp only [packMint, unpackMint, unpackOption_packOption, hsupply, Option.bind_eq_bind, Option.bind_some,
    Option.pure_def]

/-- What is an account is no mint: they begin with different bytes. -/
theorem unpackMint_of_account {data : List UInt8} {a : Spl.Account Key} (h : unpackAccount data = some a) :
    unpackMint data = none := by
  unfold unpackAccount at h
  split at h
  · rfl
  · cases h

/-! ## Instructions -/

/-- Where the token program is: at a key, and so at no derived address. -/
def tokenKey : Key := .inl 3

/-- What can be unpacked. -/
def unpacked {α : Type} : Option α → Result α
  | some a => .ok a
  | none => .error .ioError

/-- The token account at an address, if the token program owns one there. -/
def accountAt (L : Ledger Key) (k : Key) : Option (Spl.Account Key) :=
  if (L k).owner = tokenKey then unpackAccount (L k).data else none

/-- The mint at an address, if the token program owns one there. -/
def mintAt (L : Ledger Key) (k : Key) : Option (Spl.Mint Key) :=
  if (L k).owner = tokenKey then unpackMint (L k).data else none

/-- Only the data is written: lamports and owner remain. -/
def put (L : Ledger Key) (k : Key) (data : List UInt8) : Ledger Key := Function.update L k { L k with data }

def putAccount (L : Ledger Key) (k : Key) (a : Spl.Account Key) : Ledger Key := put L k (packAccount a)

def putMint (L : Ledger Key) (k : Key) (m : Spl.Mint Key) : Ledger Key := put L k (packMint m)

instance (a : Spl.Account Key) (authority : Key) : Decidable (a.Authorises authority) :=
  inferInstanceAs (Decidable (_ ∨ _))

/-- The instructions.  `signed` is the address that has signed, if one has. -/
def invoke (L : Ledger Key) : Spl.Instruction Key → Option Key → Result (Ledger Key)
  | .initializeAccount k mint owner, _ => do
    -- the account is there and has not been initialized, as an account or as a mint
    ensure ((L k).owner = tokenKey ∧ accountAt L k = none ∧ mintAt L k = none) .invokeFailed
    ensure (mintAt L mint ≠ none) .invokeFailed
    return putAccount L k ⟨mint, owner, none, 0⟩
  | .initializeMint k mintAuthority decimals, _ => do
    ensure ((L k).owner = tokenKey ∧ accountAt L k = none ∧ mintAt L k = none) .invokeFailed
    return putMint L k ⟨some mintAuthority, 0, decimals⟩
  | .transfer source destination authority amount, signed => do
    let a ← unpacked (accountAt L source)
    let b ← unpacked (accountAt L destination)
    ensure (a.mint = b.mint ∧ signed = some authority) .invokeFailed
    ensure (a.Authorises authority ∧ amount.toNat ≤ a.amount) .invokeFailed
    -- nothing moves, and nothing is written
    if source = destination then return L
    return putAccount (putAccount L source { a with amount := a.amount - amount.toNat }) destination
      { b with amount := b.amount + amount.toNat }
  | .mintTo mint account authority amount, signed => do
    -- who mints is the authority in the mint, not the owner of the account
    let m ← unpacked (mintAt L mint)
    let a ← unpacked (accountAt L account)
    ensure (a.mint = mint ∧ signed = some authority ∧ m.mintAuthority = some authority) .invokeFailed
    return putAccount (putMint L mint { m with supply := m.supply + amount.toNat }) account
      { a with amount := a.amount + amount.toNat }
  | .burn account mint authority amount, signed => do
    let a ← unpacked (accountAt L account)
    let m ← unpacked (mintAt L mint)
    ensure (a.mint = mint ∧ signed = some authority) .invokeFailed
    ensure (a.Authorises authority ∧ amount.toNat ≤ a.amount ∧ amount.toNat ≤ m.supply) .invokeFailed
    return putMint (putAccount L account { a with amount := a.amount - amount.toNat }) mint
      { m with supply := m.supply - amount.toNat }

/-- The token program. -/
def plainTokens : Spl.TokenProgram Key where
  tokenProgram := tokenKey
  unpackAccount := fun data => unpacked (unpackAccount data)
  unpackMint := fun data => unpacked (unpackMint data)
  invoke := invoke

/-! ## What is written -/

section Written

variable {L L' : Ledger Key} {k k' : Key} {a a' : Spl.Account Key} {m m' : Spl.Mint Key}

theorem unpacked_eq_ok {α : Type} {o : Option α} {x : α} : unpacked o = .ok x ↔ o = some x := by
  cases o <;> simp [unpacked]

theorem unpacked_toOption {α : Type} (o : Option α) : (unpacked o).toOption = o := by cases o <;> rfl

/-- `accountAt` is what the bridge sees of the token program's accounts. -/
theorem account_eq : Spl.account plainTokens L k = accountAt L k := by
  rw [Spl.account, accountAt]
  congr 1
  exact unpacked_toOption _

/-- `mintAt` is what the bridge sees of its mints. -/
theorem mint_eq : Spl.mint plainTokens L k = mintAt L k := by
  rw [Spl.mint, mintAt]
  congr 1
  exact unpacked_toOption _

theorem owner_of_account (h : accountAt L k = some a) : (L k).owner = tokenKey := by
  unfold accountAt at h
  split at h
  · assumption
  · cases h

theorem owner_of_mint (h : mintAt L k = some m) : (L k).owner = tokenKey := by
  unfold mintAt at h
  split at h
  · assumption
  · cases h

/-- No account is a mint. -/
theorem mintAt_of_account (h : accountAt L k = some a) : mintAt L k = none := by
  have howner := owner_of_account h
  rw [accountAt, if_pos howner] at h
  rw [mintAt, if_pos howner]
  exact unpackMint_of_account h

theorem ne_of_account_of_mint (ha : accountAt L k = some a) (hm : mintAt L k' = some m) : k ≠ k' := by
  rintro rfl
  rw [mintAt_of_account ha] at hm
  cases hm

/-- Where nothing has changed, the account has not. -/
theorem accountAt_congr (h : L' k = L k) : accountAt L' k = accountAt L k := by rw [accountAt, accountAt, h]

theorem mintAt_congr (h : L' k = L k) : mintAt L' k = mintAt L k := by rw [mintAt, mintAt, h]

variable (L L' k) in
/-- A token account has been written. -/
def WroteAccount (a : Spl.Account Key) : Prop :=
  (L k).owner = tokenKey ∧ L' k = { L k with data := packAccount a }

variable (L L' k) in
/-- A mint has been written. -/
def WroteMint (m : Spl.Mint Key) : Prop := (L k).owner = tokenKey ∧ L' k = { L k with data := packMint m }

theorem WroteAccount.owner (h : WroteAccount L L' k a) : (L' k).owner = tokenKey := by
  rw [h.2]
  exact h.1

/-- What has been written is the account that is there. -/
theorem WroteAccount.account (h : WroteAccount L L' k a) : accountAt L' k = some a := by
  rw [accountAt, if_pos h.owner, h.2]
  exact unpackAccount_packAccount a

theorem WroteMint.owner (h : WroteMint L L' k m) : (L' k).owner = tokenKey := by
  rw [h.2]
  exact h.1

/-- What has been written is the mint that is there. -/
theorem WroteMint.mint (h : WroteMint L L' k m) : mintAt L' k = some m := by
  rw [mintAt, if_pos h.owner, h.2]
  exact unpackMint_packMint m

/-- Where the token program owns the account, it can write it. -/
theorem wroteAccount (howner : (L k).owner = tokenKey) (a : Spl.Account Key) :
    WroteAccount L (putAccount L k a) k a := ⟨howner, Function.update_self ..⟩

theorem wroteMint (howner : (L k).owner = tokenKey) (m : Spl.Mint Key) : WroteMint L (putMint L k m) k m :=
  ⟨howner, Function.update_self ..⟩

theorem putAccount_of_ne (h : k' ≠ k) : putAccount L k a k' = L k' := Function.update_of_ne h _ _

theorem putMint_of_ne (h : k' ≠ k) : putMint L k m k' = L k' := Function.update_of_ne h _ _

/-- **What an instruction has done at an address**: nothing; or it has changed the amount of an account or the supply
of a mint; or it has initialized what was neither. -/
inductive Change (L L' : Ledger Key) (ix : Spl.Instruction Key) (k : Key) : Prop
  | same (h : L' k = L k)
  | account (a a' : Spl.Account Key) (hbefore : accountAt L k = some a) (hwrote : WroteAccount L L' k a')
      (howner : a'.owner = a.owner) (hdelegate : a'.delegate = a.delegate) (hof : a'.mint = a.mint)
  | mint (m m' : Spl.Mint Key) (hbefore : mintAt L k = some m) (hwrote : WroteMint L L' k m')
      (hauthority : m'.mintAuthority = m.mintAuthority) (hdecimals : m'.decimals = m.decimals)
  | newAccount (mint owner : Key) (hix : ix = .initializeAccount k mint owner) (hnone : mintAt L k = none)
      (hwrote : WroteAccount L L' k ⟨mint, owner, none, 0⟩)
  | newMint (authority : Key) (decimals : UInt8) (hix : ix = .initializeMint k authority decimals)
      (hnone : mintAt L k = none) (hwrote : WroteMint L L' k ⟨some authority, 0, decimals⟩)

end Written

/-! ## What the instructions do -/

section Instructions

variable {L L' : Ledger Key} {signed : Option Key} {authority : Key} {amount : UInt64}

/-- A new account, of the mint and the owner in the instruction, and empty. -/
theorem initializeAccount_eq_ok {k mint owner : Key}
    (h : invoke L (.initializeAccount k mint owner) signed = .ok L') :
    (L k).owner = tokenKey ∧ mintAt L k = none ∧ L' = putAccount L k ⟨mint, owner, none, 0⟩ := by
  obtain ⟨_, hfree, h⟩ := bind_eq_ok.mp h
  obtain ⟨_, -, h⟩ := bind_eq_ok.mp h
  rw [ensure_eq_ok] at hfree
  exact ⟨hfree.1, hfree.2.2, (Except.ok.inj h).symm⟩

/-- A new mint, of which nothing has been minted. -/
theorem initializeMint_eq_ok {k mintAuthority : Key} {decimals : UInt8}
    (h : invoke L (.initializeMint k mintAuthority decimals) signed = .ok L') :
    (L k).owner = tokenKey ∧ mintAt L k = none ∧ L' = putMint L k ⟨some mintAuthority, 0, decimals⟩ := by
  obtain ⟨_, hfree, h⟩ := bind_eq_ok.mp h
  rw [ensure_eq_ok] at hfree
  exact ⟨hfree.1, hfree.2.2, (Except.ok.inj h).symm⟩

/-- The amount goes from the one account to the other.  A transfer to the account itself changes nothing. -/
theorem transfer_eq_ok {source destination : Key}
    (h : invoke L (.transfer source destination authority amount) signed = .ok L') :
    ∃ a b, accountAt L source = some a ∧ accountAt L destination = some b ∧ a.Authorises authority ∧
      amount.toNat ≤ a.amount ∧ ((source = destination ∧ L' = L) ∨ (source ≠ destination ∧
        WroteAccount L L' source { a with amount := a.amount - amount.toNat } ∧
        WroteAccount L L' destination { b with amount := b.amount + amount.toNat } ∧
        ∀ k, k ≠ source → k ≠ destination → L' k = L k)) := by
  obtain ⟨a, ha, h⟩ := bind_eq_ok.mp h
  obtain ⟨b, hb, h⟩ := bind_eq_ok.mp h
  obtain ⟨_, -, h⟩ := bind_eq_ok.mp h
  obtain ⟨_, hauth, h⟩ := bind_eq_ok.mp h
  rw [unpacked_eq_ok] at ha hb
  rw [ensure_eq_ok] at hauth
  refine ⟨a, b, ha, hb, hauth.1, hauth.2, ?_⟩
  by_cases hsame : source = destination
  · rw [if_pos hsame] at h
    exact .inl ⟨hsame, (Except.ok.inj h).symm⟩
  · rw [if_neg hsame] at h
    rw [← Except.ok.inj h]
    refine .inr ⟨hsame, ?_, ?_, ?_⟩
    -- the source is written first, and the second write is elsewhere
    · refine ⟨owner_of_account ha, ?_⟩
      rw [putAccount_of_ne hsame]
      exact (wroteAccount (owner_of_account ha) _).2
    · refine ⟨owner_of_account hb, ?_⟩
      rw [putAccount, put, Function.update_self, putAccount_of_ne (Ne.symm hsame)]
    · intro k hsource hdestination
      rw [putAccount_of_ne hdestination, putAccount_of_ne hsource]

/-- The amount comes into the account and into the supply. -/
theorem mintTo_eq_ok {mint account : Key} (h : invoke L (.mintTo mint account authority amount) signed = .ok L') :
    ∃ m a, mintAt L mint = some m ∧ accountAt L account = some a ∧
      WroteMint L L' mint { m with supply := m.supply + amount.toNat } ∧
      WroteAccount L L' account { a with amount := a.amount + amount.toNat } ∧
      ∀ k, k ≠ mint → k ≠ account → L' k = L k := by
  obtain ⟨m, hm, h⟩ := bind_eq_ok.mp h
  obtain ⟨a, ha, h⟩ := bind_eq_ok.mp h
  obtain ⟨_, -, h⟩ := bind_eq_ok.mp h
  rw [unpacked_eq_ok] at hm ha
  -- so neither write undoes the other
  have hne := ne_of_account_of_mint ha hm
  rw [← Except.ok.inj h]
  refine ⟨m, a, hm, ha, ⟨owner_of_mint hm, ?_⟩, ⟨owner_of_account ha, ?_⟩, ?_⟩
  · rw [putAccount_of_ne hne.symm]
    exact (wroteMint (owner_of_mint hm) _).2
  · rw [putAccount, put, Function.update_self, putMint_of_ne hne]
  · intro k hmint haccount
    rw [putAccount_of_ne haccount, putMint_of_ne hmint]

/-- The amount leaves the account and the supply. -/
theorem burn_eq_ok {account mint : Key} (h : invoke L (.burn account mint authority amount) signed = .ok L') :
    ∃ a m, accountAt L account = some a ∧ mintAt L mint = some m ∧ a.Authorises authority ∧
      amount.toNat ≤ a.amount ∧ amount.toNat ≤ m.supply ∧
      WroteAccount L L' account { a with amount := a.amount - amount.toNat } ∧
      WroteMint L L' mint { m with supply := m.supply - amount.toNat } ∧
      ∀ k, k ≠ account → k ≠ mint → L' k = L k := by
  obtain ⟨a, ha, h⟩ := bind_eq_ok.mp h
  obtain ⟨m, hm, h⟩ := bind_eq_ok.mp h
  obtain ⟨_, -, h⟩ := bind_eq_ok.mp h
  obtain ⟨_, hauth, h⟩ := bind_eq_ok.mp h
  rw [unpacked_eq_ok] at ha hm
  rw [ensure_eq_ok] at hauth
  have hne := ne_of_account_of_mint ha hm
  rw [← Except.ok.inj h]
  refine ⟨a, m, ha, hm, hauth.1, hauth.2.1, hauth.2.2, ⟨owner_of_account ha, ?_⟩, ⟨owner_of_mint hm, ?_⟩, ?_⟩
  · rw [putMint_of_ne hne]
    exact (wroteAccount (owner_of_account ha) _).2
  · rw [putMint, put, Function.update_self, putAccount_of_ne hne.symm]
  · intro k haccount hmint
    rw [putMint_of_ne hmint, putAccount_of_ne haccount]

/-- Each instruction changes the one or two addresses it names, and these as `Change` says. -/
theorem invoke_change {ix : Spl.Instruction Key} (h : invoke L ix signed = .ok L') (k : Key) :
    Change L L' ix k := by
  cases ix with
  | initializeAccount k₀ mint owner =>
    obtain ⟨howner, hnone, rfl⟩ := initializeAccount_eq_ok h
    by_cases hk : k = k₀
    · subst hk
      exact .newAccount mint owner rfl hnone (wroteAccount howner _)
    · exact .same (putAccount_of_ne hk)
  | initializeMint k₀ mintAuthority decimals =>
    obtain ⟨howner, hnone, rfl⟩ := initializeMint_eq_ok h
    by_cases hk : k = k₀
    · subst hk
      exact .newMint mintAuthority decimals rfl hnone (wroteMint howner _)
    · exact .same (putMint_of_ne hk)
  | transfer source destination authority amount =>
    obtain ⟨a, b, ha, hb, -, -, ⟨-, rfl⟩ | ⟨-, hsource, hdestination, hothers⟩⟩ := transfer_eq_ok h
    · exact .same rfl
    · by_cases hk : k = source
      · subst hk
        exact .account a _ ha hsource rfl rfl rfl
      by_cases hk' : k = destination
      · subst hk'
        exact .account b _ hb hdestination rfl rfl rfl
      · exact .same (hothers k hk hk')
  | mintTo mint account authority amount =>
    obtain ⟨m, a, hm, ha, hmint, haccount, hothers⟩ := mintTo_eq_ok h
    by_cases hk : k = mint
    · subst hk
      exact .mint m _ hm hmint rfl rfl
    by_cases hk' : k = account
    · subst hk'
      exact .account a _ ha haccount rfl rfl rfl
    · exact .same (hothers k hk hk')
  | burn account mint authority amount =>
    obtain ⟨a, m, ha, hm, -, -, -, haccount, hmint, hothers⟩ := burn_eq_ok h
    by_cases hk : k = account
    · subst hk
      exact .account a _ ha haccount rfl rfl rfl
    by_cases hk' : k = mint
    · subst hk'
      exact .mint m _ hm hmint rfl rfl
    · exact .same (hothers k hk hk')

end Instructions

/-! ## What a change leaves -/

section Changes

variable {L L' : Ledger Key} {ix : Spl.Instruction Key} {k : Key} {a a' : Spl.Account Key} {m m' : Spl.Mint Key}

/-- What the token program does not own it does not change. -/
theorem Change.foreign (h : Change L L' ix k) (howner : (L k).owner ≠ tokenKey) : L' k = L k := by
  cases h with
  | same h => exact h
  | account a a' hbefore hwrote howner' hdelegate hof => exact absurd hwrote.1 howner
  | mint m m' hbefore hwrote hauthority hdecimals => exact absurd hwrote.1 howner
  | newAccount mint owner hix hnone hwrote => exact absurd hwrote.1 howner
  | newMint authority decimals hix hnone hwrote => exact absurd hwrote.1 howner

/-- What it owns it keeps. -/
theorem Change.owner (h : Change L L' ix k) (howner : (L k).owner = tokenKey) : (L' k).owner = tokenKey := by
  cases h with
  | same h => rwa [h]
  | account a a' hbefore hwrote howner' hdelegate hof => exact hwrote.owner
  | mint m m' hbefore hwrote hauthority hdecimals => exact hwrote.owner
  | newAccount mint owner hix hnone hwrote => exact hwrote.owner
  | newMint authority decimals hix hnone hwrote => exact hwrote.owner

/-- **An account has been one before**, of the same mint, owner and delegate, or it is new. -/
theorem Change.accountBefore (h : Change L L' ix k) (ha' : accountAt L' k = some a') :
    (∃ a, accountAt L k = some a ∧ a'.mint = a.mint ∧ a'.owner = a.owner ∧ a'.delegate = a.delegate) ∨
      ∃ owner, ix = .initializeAccount k a'.mint owner := by
  cases h with
  | same h =>
    rw [accountAt_congr h] at ha'
    exact .inl ⟨a', ha', rfl, rfl, rfl⟩
  | account a a₁ hbefore hwrote howner hdelegate hof =>
    obtain rfl := Option.some.inj (hwrote.account.symm.trans ha')
    exact .inl ⟨a, hbefore, hof, howner, hdelegate⟩
  | mint m m' hbefore hwrote hauthority hdecimals => exact absurd rfl (ne_of_account_of_mint ha' hwrote.mint)
  | newAccount mint owner hix hnone hwrote =>
    obtain rfl := Option.some.inj (hwrote.account.symm.trans ha')
    exact .inr ⟨owner, hix⟩
  | newMint authority decimals hix hnone hwrote => exact absurd rfl (ne_of_account_of_mint ha' hwrote.mint)

/-- **A mint has been one before**, with the same authority, or it is new. -/
theorem Change.mintBefore (h : Change L L' ix k) (hm' : mintAt L' k = some m') :
    (∃ m, mintAt L k = some m ∧ m'.mintAuthority = m.mintAuthority) ∨
      ∃ authority decimals, ix = .initializeMint k authority decimals := by
  cases h with
  | same h =>
    rw [mintAt_congr h] at hm'
    exact .inl ⟨m', hm', rfl⟩
  | account a a' hbefore hwrote howner hdelegate hof =>
    exact absurd rfl (ne_of_account_of_mint hwrote.account hm')
  | mint m m₁ hbefore hwrote hauthority hdecimals =>
    obtain rfl := Option.some.inj (hwrote.mint.symm.trans hm')
    exact .inl ⟨m, hbefore, hauthority⟩
  | newAccount mint owner hix hnone hwrote => exact absurd rfl (ne_of_account_of_mint hwrote.account hm')
  | newMint authority decimals hix hnone hwrote => exact .inr ⟨authority, decimals, hix⟩

/-- A mint remains one, with the decimals it had: it is not initialized a second time. -/
theorem Change.mintAfter (h : Change L L' ix k) (hm : mintAt L k = some m) :
    ∃ m', mintAt L' k = some m' ∧ m'.decimals = m.decimals := by
  cases h with
  | same h => exact ⟨m, (mintAt_congr h).trans hm, rfl⟩
  | account a a' hbefore hwrote howner hdelegate hof => exact absurd rfl (ne_of_account_of_mint hbefore hm)
  | mint m₀ m' hbefore hwrote hauthority hdecimals =>
    obtain rfl := Option.some.inj (hbefore.symm.trans hm)
    exact ⟨m', hwrote.mint, hdecimals⟩
  | newAccount mint owner hix hnone hwrote =>
    rw [hnone] at hm
    cases hm
  | newMint authority decimals hix hnone hwrote =>
    rw [hnone] at hm
    cases hm

theorem balance_eq (h : accountAt L k = some a) : Spl.balance plainTokens L k = a.amount := by
  rw [Spl.balance, account_eq, h]
  rfl

theorem supply_eq (h : mintAt L k = some m) : Spl.supply plainTokens L k = m.supply := by
  rw [Spl.supply, mint_eq, h]
  rfl

/-- Nothing is held where a mint is. -/
theorem balance_of_mint (h : mintAt L k = some m) : Spl.balance plainTokens L k = 0 := by
  rw [Spl.balance, account_eq]
  cases ha : accountAt L k with
  | none => rfl
  | some a => exact absurd rfl (ne_of_account_of_mint ha h)

theorem sameTokens (h : L' k = L k) : Spl.SameTokens plainTokens L L' k := .of_eq h

/-- A write to an account is not seen in the mints. -/
theorem WroteAccount.mint (h : WroteAccount L L' k a') (ha : accountAt L k = some a) :
    Spl.mint plainTokens L' k = Spl.mint plainTokens L k := by
  rw [mint_eq, mint_eq, mintAt_of_account h.account, mintAt_of_account ha]

theorem WroteAccount.supply (h : WroteAccount L L' k a') (ha : accountAt L k = some a) :
    Spl.supply plainTokens L' k = Spl.supply plainTokens L k := by
  rw [Spl.supply, Spl.supply, h.mint ha]

/-- A write to a mint is not seen in the balances. -/
theorem WroteMint.balance (h : WroteMint L L' k m') (hm : mintAt L k = some m) :
    Spl.balance plainTokens L' k = Spl.balance plainTokens L k := by
  rw [balance_of_mint h.mint, balance_of_mint hm]

/-- Where only two addresses have changed and one of them is a mint, the balances differ at the other only. -/
theorem balance_of_others {k₀ k₁ : Key} (hmint : WroteMint L L' k₀ m') (hm : mintAt L k₀ = some m)
    (hothers : ∀ k, k ≠ k₀ → k ≠ k₁ → L' k = L k) (hk : k ≠ k₁) :
    Spl.balance plainTokens L' k = Spl.balance plainTokens L k := by
  by_cases hk' : k = k₀
  · rw [hk']
    exact hmint.balance hm
  · exact (sameTokens (hothers k hk' hk)).balance

/-- Where only two addresses have changed and one of them is an account, the supplies differ at the other only. -/
theorem supply_of_others {k₀ k₁ : Key} (haccount : WroteAccount L L' k₀ a') (ha : accountAt L k₀ = some a)
    (hothers : ∀ k, k ≠ k₁ → k ≠ k₀ → L' k = L k) (hk : k ≠ k₁) :
    Spl.supply plainTokens L' k = Spl.supply plainTokens L k := by
  by_cases hk' : k = k₀
  · rw [hk']
    exact haccount.supply ha
  · exact (sameTokens (hothers k hk hk')).supply

end Changes

/-! ## The laws -/

section Laws

variable {L L' : Ledger Key} {k mint account authority : Key} {amount : UInt64} {signed : Option Key}

/-- An account remains of its mint. -/
theorem plainTokens_mints {ix : Spl.Instruction Key} {a' : Spl.Account Key}
    (h : plainTokens.invoke L ix signed = .ok L') (ha' : Spl.account plainTokens L' k = some a') :
    (∃ a, Spl.account plainTokens L k = some a ∧ a'.mint = a.mint) ∨
      ∃ owner, ix = .initializeAccount k a'.mint owner := by
  rcases (invoke_change h k).accountBefore (account_eq.symm.trans ha') with ⟨a, ha, hof, -, -⟩ | hnew
  · exact .inl ⟨a, account_eq.trans ha, hof⟩
  · exact .inr hnew

/-- A transfer is between accounts of one mint. -/
theorem plainTokens_sameMint {source destination : Key}
    (h : plainTokens.invoke L (.transfer source destination authority amount) signed = .ok L') :
    ∃ a b, Spl.account plainTokens L source = some a ∧ Spl.account plainTokens L destination = some b ∧
      a.mint = b.mint := by
  obtain ⟨a, ha, h⟩ := bind_eq_ok.mp h
  obtain ⟨b, hb, h⟩ := bind_eq_ok.mp h
  obtain ⟨_, hboth, -⟩ := bind_eq_ok.mp h
  rw [unpacked_eq_ok] at ha hb
  exact ⟨a, b, account_eq.trans ha, account_eq.trans hb, (ensure_eq_ok.mp hboth).1⟩

/-- **A transfer** takes from the source what it gives to the destination, and no mint changes. -/
theorem plainTokens_transfer {source destination : Key}
    (h : plainTokens.invoke L (.transfer source destination authority amount) signed = .ok L') :
    (∃ a, Spl.account plainTokens L source = some a ∧ a.Authorises authority ∧ amount.toNat ≤ a.amount) ∧
    (source ≠ destination →
      Spl.balance plainTokens L' source + amount.toNat = Spl.balance plainTokens L source ∧
      Spl.balance plainTokens L' destination = Spl.balance plainTokens L destination + amount.toNat) ∧
    (source = destination → Spl.balance plainTokens L' source = Spl.balance plainTokens L source) ∧
    (∀ k, k ≠ source → k ≠ destination → Spl.balance plainTokens L' k = Spl.balance plainTokens L k) ∧
    ∀ k, Spl.mint plainTokens L' k = Spl.mint plainTokens L k := by
  obtain ⟨a, b, ha, hb, hauth, hle, hcases⟩ := transfer_eq_ok h
  refine ⟨⟨a, account_eq.trans ha, hauth, hle⟩, ?_⟩
  rcases hcases with ⟨rfl, rfl⟩ | ⟨hne, hsource, hdestination, hothers⟩
  · exact ⟨fun hne => absurd rfl hne, fun _ => rfl, fun _ _ _ => rfl, fun _ => rfl⟩
  · refine ⟨fun _ => ⟨?_, ?_⟩, fun heq => absurd heq hne, ?_, ?_⟩
    · rw [balance_eq hsource.account, balance_eq ha]
      exact Nat.sub_add_cancel hle
    · rw [balance_eq hdestination.account, balance_eq hb]
    · intro k hk hk'
      exact (sameTokens (hothers k hk hk')).balance
    · intro k
      by_cases hk : k = source
      · rw [hk]
        exact hsource.mint ha
      by_cases hk' : k = destination
      · rw [hk']
        exact hdestination.mint hb
      · exact (sameTokens (hothers k hk hk')).2

/-- **What is minted** is held by the account it was minted to, and nobody else's balance changes. -/
theorem plainTokens_mintTo (h : plainTokens.invoke L (.mintTo mint account authority amount) signed = .ok L') :
    Spl.balance plainTokens L' account = Spl.balance plainTokens L account + amount.toNat ∧
    (∀ k, k ≠ account → Spl.balance plainTokens L' k = Spl.balance plainTokens L k) ∧
    Spl.supply plainTokens L' mint = Spl.supply plainTokens L mint + amount.toNat ∧
    ∀ k, k ≠ mint → Spl.supply plainTokens L' k = Spl.supply plainTokens L k := by
  obtain ⟨m, a, hm, ha, hmint, haccount, hothers⟩ := mintTo_eq_ok h
  refine ⟨?_, fun k hk => balance_of_others hmint hm hothers hk, ?_,
    fun k hk => supply_of_others haccount ha hothers hk⟩
  · rw [balance_eq haccount.account, balance_eq ha]
  · rw [supply_eq hmint.mint, supply_eq hm]

/-- **What is burned** leaves the account and the supply, and the account's authority has signed. -/
theorem plainTokens_burn (h : plainTokens.invoke L (.burn account mint authority amount) signed = .ok L') :
    (∃ a, Spl.account plainTokens L account = some a ∧ a.Authorises authority) ∧
    Spl.balance plainTokens L' account + amount.toNat = Spl.balance plainTokens L account ∧
    (∀ k, k ≠ account → Spl.balance plainTokens L' k = Spl.balance plainTokens L k) ∧
    Spl.supply plainTokens L' mint + amount.toNat = Spl.supply plainTokens L mint ∧
    ∀ k, k ≠ mint → Spl.supply plainTokens L' k = Spl.supply plainTokens L k := by
  obtain ⟨a, m, ha, hm, hauth, hle, hle', haccount, hmint, hothers⟩ := burn_eq_ok h
  have hothers' : ∀ k, k ≠ mint → k ≠ account → L' k = L k := fun k hk hk' => hothers k hk' hk
  refine ⟨⟨a, account_eq.trans ha, hauth⟩, ?_, fun k hk => balance_of_others hmint hm hothers' hk, ?_,
    fun k hk => supply_of_others haccount ha hothers' hk⟩
  · rw [balance_eq haccount.account, balance_eq ha]
    exact Nat.sub_add_cancel hle
  · rw [supply_eq hmint.mint, supply_eq hm]
    exact Nat.sub_add_cancel hle'

/-- **The laws hold** of this token program: each is what a change leaves, or what its instruction writes. -/
theorem plainTokens_lawful : Spl.Lawful plainTokens where
  unpackAccount_zeros := by
    intro n
    cases n <;> rfl
  unpackMint_zeros := by
    intro n
    cases n <;> rfl
  foreign := by
    intro L ix signed L' h k howner
    exact (invoke_change h k).foreign howner
  owner := by
    intro L ix signed L' h k howner
    exact (invoke_change h k).owner howner
  accounts := by
    intro L ix signed L' h k a' ha'
    rcases (invoke_change h k).accountBefore (account_eq.symm.trans ha') with
      ⟨a, ha, -, howner, hdelegate⟩ | ⟨owner, hix⟩
    · exact .inl ⟨a, account_eq.trans ha, howner, .inl hdelegate⟩
    · exact .inr ⟨a'.mint, owner, hix⟩
  authorities := by
    intro L ix signed L' h k m' hm'
    rcases (invoke_change h k).mintBefore (mint_eq.symm.trans hm') with ⟨m, hm, hauthority⟩ | hnew
    · exact .inl ⟨m, mint_eq.trans hm, hauthority⟩
    · exact .inr hnew
  decimals := by
    rintro L ix signed L' h k decimals ⟨m, hm, heq⟩
    obtain ⟨m', hm', hdecimals⟩ := (invoke_change h k).mintAfter (mint_eq.symm.trans hm)
    exact ⟨m', mint_eq.trans hm', hdecimals.trans heq⟩
  initializeAccount := by
    intro L k mint owner signed L' h
    obtain ⟨howner, -, rfl⟩ := @initializeAccount_eq_ok L L' signed k mint owner h
    refine ⟨⟨0, account_eq.trans (wroteAccount howner _).account, fun _ => rfl⟩, ?_⟩
    intro k' hk'
    exact sameTokens (putAccount_of_ne hk')
  initializeMint := by
    intro L k mintAuthority decimals signed L' h
    obtain ⟨howner, -, rfl⟩ := @initializeMint_eq_ok L L' signed k mintAuthority decimals h
    exact ⟨mint_eq.trans (wroteMint howner _).mint, fun k' hk' => sameTokens (putMint_of_ne hk')⟩
  transfer := plainTokens_transfer
  mintTo := plainTokens_mintTo
  burn := plainTokens_burn

end Laws

end Wormhole.Solana.PlainTokens

/-
# Wormhole.Solana.Spl — the token program, as its callers rely on it.

The SPL token program keeps mints and accounts of tokens in accounts that it owns.  How they are laid out and
what its instructions do is a parameter (`TokenProgram`); `Lawful` is what it documents: only the owner of an
account, or its delegate, moves tokens out of it, a transfer moves its amount, and minting and burning change one
account and the supply.
-/
import Mathlib
import Wormhole.Lib.Failing
import Wormhole.Solana.Payloads
import Wormhole.Solana.Solitaire

namespace Wormhole.Solana.Spl

open Wormhole.Lib

variable {Pubkey : Type}

/-- What is read of a token account. -/
structure Account (Pubkey : Type) where
  mint : Pubkey
  owner : Pubkey
  delegate : Option Pubkey
  amount : Nat
  deriving DecidableEq

/-- What is read of a mint. -/
structure Mint (Pubkey : Type) where
  mintAuthority : Option Pubkey
  supply : Nat
  decimals : UInt8
  deriving DecidableEq

/-- `Account::LEN` -/
def ACCOUNT_LEN : Nat := 165

/-- `Mint::LEN` -/
def MINT_LEN : Nat := 82

/-- The instructions that are invoked. -/
inductive Instruction (Pubkey : Type) where
  | initializeAccount (account mint owner : Pubkey)
  | initializeMint (mint mintAuthority : Pubkey) (decimals : UInt8)
  | transfer (source destination authority : Pubkey) (amount : UInt64)
  | mintTo (mint account authority : Pubkey) (amount : UInt64)
  | burn (account mint authority : Pubkey) (amount : UInt64)

/-- The token program. -/
structure TokenProgram (Pubkey : Type) where
  tokenProgram : Pubkey
  unpackAccount : List UInt8 → Result (Account Pubkey)
  unpackMint : List UInt8 → Result (Mint Pubkey)
  /-- an instruction, with the address that the caller signs for -/
  invoke : Ledger Pubkey → Instruction Pubkey → Option Pubkey → Result (Ledger Pubkey)

variable [DecidableEq Pubkey] (S : TokenProgram Pubkey)

/-! ## Peeling -/

/-- The peel of `SplAccount`, initialized. -/
def peelAccount (L : Ledger Pubkey) (immutable : Bool) (m : AccountMeta Pubkey) : Result (Account Pubkey) := do
  peelInfo immutable m
  let account ← S.unpackAccount (L m.key).data
  ensure ((L m.key).owner = S.tokenProgram) .invalidOwner
  return account

/-- The peel of `SplMint`, initialized. -/
def peelMint (L : Ledger Pubkey) (immutable : Bool) (m : AccountMeta Pubkey) : Result (Mint Pubkey) := do
  peelInfo immutable m
  let mint ← S.unpackMint (L m.key).data
  ensure ((L m.key).owner = S.tokenProgram) .invalidOwner
  return mint

/-! ## Tokens on a ledger -/

/-- The token account at an address. -/
def account (L : Ledger Pubkey) (k : Pubkey) : Option (Account Pubkey) :=
  if (L k).owner = S.tokenProgram then (S.unpackAccount (L k).data).toOption else none

/-- The mint at an address. -/
def mint (L : Ledger Pubkey) (k : Pubkey) : Option (Mint Pubkey) :=
  if (L k).owner = S.tokenProgram then (S.unpackMint (L k).data).toOption else none

/-- The balance of an address. -/
def balance (L : Ledger Pubkey) (k : Pubkey) : Nat := ((account S L k).map Account.amount).getD 0

/-- The supply of a mint. -/
def supply (L : Ledger Pubkey) (k : Pubkey) : Nat := ((mint S L k).map Mint.supply).getD 0

/-- If there is a token account, it is the owner's and nobody else disposes of it. -/
def Guarded (L : Ledger Pubkey) (k owner : Pubkey) : Prop :=
  ∀ a, account S L k = some a → a.owner = owner ∧ a.delegate = none

/-- If there is a mint, only the authority mints. -/
def MintGuarded (L : Ledger Pubkey) (k authority : Pubkey) : Prop :=
  ∀ m, mint S L k = some m → m.mintAuthority = some authority

/-- There is a mint with the decimals. -/
def HasDecimals (L : Ledger Pubkey) (k : Pubkey) (decimals : UInt8) : Prop :=
  ∃ m, mint S L k = some m ∧ m.decimals = decimals

/-- The authority may move tokens out of the account. -/
def Account.Authorises (a : Account Pubkey) (authority : Pubkey) : Prop :=
  a.owner = authority ∨ a.delegate = some authority

/-- If there is a mint, it has the decimals. -/
def DecimalsAre (L : Ledger Pubkey) (k : Pubkey) (decimals : UInt8) : Prop :=
  ∀ m, mint S L k = some m → m.decimals = decimals

/-- Mints remain, with their decimals. -/
def KeepsDecimals (L L' : Ledger Pubkey) : Prop :=
  ∀ k decimals, HasDecimals S L k decimals → HasDecimals S L' k decimals

/-- The tokens of two ledgers are the same. -/
def SameTokens (L L' : Ledger Pubkey) (k : Pubkey) : Prop :=
  account S L' k = account S L k ∧ mint S L' k = mint S L k

/-- What the token program documents of its instructions. -/
structure Lawful : Prop where
  /-- new accounts are not initialized -/
  unpackAccount_zeros : ∀ n, (S.unpackAccount (List.replicate n 0x00)).toOption = none
  unpackMint_zeros : ∀ n, (S.unpackMint (List.replicate n 0x00)).toOption = none
  /-- it writes its own accounts only -/
  foreign : ∀ {L ix signed L'}, S.invoke L ix signed = .ok L' →
    ∀ k, (L k).owner ≠ S.tokenProgram → L' k = L k
  /-- and they remain its own -/
  owner : ∀ {L ix signed L'}, S.invoke L ix signed = .ok L' →
    ∀ k, (L k).owner = S.tokenProgram → (L' k).owner = S.tokenProgram
  /-- an account is whose it was when it was initialized, and no delegate is appointed -/
  accounts : ∀ {L ix signed L'}, S.invoke L ix signed = .ok L' → ∀ {k a'}, account S L' k = some a' →
    (∃ a, account S L k = some a ∧ a'.owner = a.owner ∧ (a'.delegate = a.delegate ∨ a'.delegate = none)) ∨
      ∃ mint owner, ix = .initializeAccount k mint owner
  /-- who mints is said when a mint is initialized -/
  authorities : ∀ {L ix signed L'}, S.invoke L ix signed = .ok L' → ∀ {k m'}, mint S L' k = some m' →
    (∃ m, mint S L k = some m ∧ m'.mintAuthority = m.mintAuthority) ∨
      ∃ authority decimals, ix = .initializeMint k authority decimals
  /-- the decimals of a mint are fixed -/
  decimals : ∀ {L ix signed L'}, S.invoke L ix signed = .ok L' → ∀ {k decimals},
    HasDecimals S L k decimals → HasDecimals S L' k decimals
  /-- a new account holds nothing, if it has been given just the lamports of an account: in one for the native mint
  the lamports beyond them count as tokens -/
  initializeAccount : ∀ {L account' mint owner signed L'},
    S.invoke L (.initializeAccount account' mint owner) signed = .ok L' →
    (∃ amount, account S L' account' = some ⟨mint, owner, none, amount⟩ ∧
      ((L account').lamports = minimumBalance ACCOUNT_LEN → amount = 0)) ∧
    (∀ k, k ≠ account' → SameTokens S L L' k)
  initializeMint : ∀ {L mint' mintAuthority decimals signed L'},
    S.invoke L (.initializeMint mint' mintAuthority decimals) signed = .ok L' →
    mint S L' mint' = some ⟨some mintAuthority, 0, decimals⟩ ∧ (∀ k, k ≠ mint' → SameTokens S L L' k)
  transfer : ∀ {L source destination authority amount signed L'},
    S.invoke L (.transfer source destination authority amount) signed = .ok L' →
    (∃ a, account S L source = some a ∧ a.Authorises authority ∧ amount.toNat ≤ a.amount) ∧
    (source ≠ destination → balance S L' source + amount.toNat = balance S L source ∧
      balance S L' destination = balance S L destination + amount.toNat) ∧
    (source = destination → balance S L' source = balance S L source) ∧
    (∀ k, k ≠ source → k ≠ destination → balance S L' k = balance S L k) ∧
    ∀ k, mint S L' k = mint S L k
  mintTo : ∀ {L mint' account' authority amount signed L'},
    S.invoke L (.mintTo mint' account' authority amount) signed = .ok L' →
    balance S L' account' = balance S L account' + amount.toNat ∧
    (∀ k, k ≠ account' → balance S L' k = balance S L k) ∧
    supply S L' mint' = supply S L mint' + amount.toNat ∧
    ∀ k, k ≠ mint' → supply S L' k = supply S L k
  burn : ∀ {L account' mint' authority amount signed L'},
    S.invoke L (.burn account' mint' authority amount) signed = .ok L' →
    (∃ a, account S L account' = some a ∧ a.Authorises authority) ∧
    balance S L' account' + amount.toNat = balance S L account' ∧
    (∀ k, k ≠ account' → balance S L' k = balance S L k) ∧
    supply S L' mint' + amount.toNat = supply S L mint' ∧
    ∀ k, k ≠ mint' → supply S L' k = supply S L k

section

variable {S} {L L' : Ledger Pubkey} {k : Pubkey} {m : AccountMeta Pubkey}

theorem SameTokens.of_eq (h : L' k = L k) : SameTokens S L L' k := by
  rw [SameTokens, account, mint, account, mint, h]
  exact ⟨rfl, rfl⟩

/-- Where the token program owns nothing there are no tokens. -/
theorem sameTokens_of_foreign (h : (L k).owner ≠ S.tokenProgram) (h' : (L' k).owner ≠ S.tokenProgram) :
    SameTokens S L L' k := by
  rw [SameTokens, account, mint, account, mint, if_neg h, if_neg h, if_neg h', if_neg h']
  exact ⟨rfl, rfl⟩

theorem SameTokens.of_data (howner : (L' k).owner = (L k).owner) (hdata : (L' k).data = (L k).data) :
    SameTokens S L L' k := by
  rw [SameTokens, account, mint, account, mint, howner, hdata]
  exact ⟨rfl, rfl⟩

theorem SameTokens.trans {L'' : Ledger Pubkey} (h : SameTokens S L L' k) (h' : SameTokens S L' L'' k) :
    SameTokens S L L'' k := ⟨h'.1.trans h.1, h'.2.trans h.2⟩

theorem SameTokens.balance (h : SameTokens S L L' k) : balance S L' k = balance S L k := by
  rw [Spl.balance, Spl.balance, h.1]

theorem SameTokens.supply (h : SameTokens S L L' k) : supply S L' k = supply S L k := by
  rw [Spl.supply, Spl.supply, h.2]

theorem SameTokens.guarded {owner : Pubkey} (h : SameTokens S L L' k) (hguarded : Guarded S L k owner) :
    Guarded S L' k owner := by
  intro a ha
  exact hguarded a (h.1 ▸ ha)

theorem SameTokens.mintGuarded {authority : Pubkey} (h : SameTokens S L L' k)
    (hguarded : MintGuarded S L k authority) : MintGuarded S L' k authority := by
  intro m hm
  exact hguarded m (h.2 ▸ hm)

theorem SameTokens.hasDecimals {decimals : UInt8} (h : SameTokens S L L' k)
    (hdecimals : HasDecimals S L k decimals) : HasDecimals S L' k decimals := by
  obtain ⟨m, hm, heq⟩ := hdecimals
  exact ⟨m, h.2.trans hm, heq⟩

theorem KeepsDecimals.trans {L'' : Ledger Pubkey} (h : KeepsDecimals S L L') (h' : KeepsDecimals S L' L'') :
    KeepsDecimals S L L'' := fun k decimals hdecimals => h' k decimals (h k decimals hdecimals)

theorem KeepsDecimals.of_same (h : ∀ k, SameTokens S L L' k) : KeepsDecimals S L L' :=
  fun k _ => (h k).hasDecimals

/-- What the decimals are in the end they have been before. -/
theorem KeepsDecimals.decimalsAre {decimals : UInt8} (h : KeepsDecimals S L L')
    (hafter : DecimalsAre S L' k decimals) : DecimalsAre S L k decimals := by
  intro m hm
  obtain ⟨m', hm', heq⟩ := h k m.decimals ⟨m, hm, rfl⟩
  rw [← heq]
  exact hafter m' hm'

theorem HasDecimals.decimalsAre {decimals : UInt8} (h : HasDecimals S L k decimals) :
    DecimalsAre S L k decimals := by
  obtain ⟨m, hm, heq⟩ := h
  intro m' hm'
  rw [← Option.some.inj (hm.symm.trans hm')]
  exact heq

theorem DecimalsAre.eq {decimals decimals' : UInt8} (h : DecimalsAre S L k decimals)
    (hdecimals : HasDecimals S L k decimals') : decimals' = decimals := by
  obtain ⟨m, hm, heq⟩ := hdecimals
  rw [← heq]
  exact h m hm

/-! ## What does not concern tokens -/

section Program

variable {P : Program Pubkey} {payer : AccountMeta Pubkey} {signed : Option Pubkey} {lamports space : Nat}
  {owner : Pubkey}

theorem createAccount_sameTokens (hS : Lawful S) (hne : P.systemProgram ≠ S.tokenProgram)
    (h : createAccount P L payer m signed lamports space owner = .ok L') (k : Pubkey) : SameTokens S L L' k := by
  have hcreated := createAccount_eq_ok h
  by_cases hk : k = m.key
  · subst hk
    have hbefore : (L m.key).owner ≠ S.tokenProgram := by
      rw [hcreated.free]
      exact hne
    rw [SameTokens, account, mint, account, mint, if_neg hbefore, if_neg hbefore, hcreated.data,
      hS.unpackAccount_zeros, hS.unpackMint_zeros, ite_self, ite_self]
    exact ⟨rfl, rfl⟩
  · obtain ⟨howner, hdata⟩ := createAccount_same h hk
    exact .of_data howner hdata

theorem transfer_sameTokens {recipient : AccountMeta Pubkey} {amount : Nat}
    (h : transfer P L m recipient signed amount = .ok L') (k : Pubkey) : SameTokens S L L' k := by
  obtain ⟨howner, hdata⟩ := transfer_same h k
  exact .of_data howner hdata

theorem persist_sameTokens (hne : P.programId ≠ S.tokenProgram) {T : Type} [AccountData T] {t : T}
    (h : persist P L m t = .ok L') (k : Pubkey) : SameTokens S L L' k := by
  have hpersisted := persist_eq_ok h
  by_cases howner : (L m.key).owner = P.programId
  · by_cases hk : k = m.key
    · subst hk
      have hforeign : (L m.key).owner ≠ S.tokenProgram := by
        rw [howner]
        exact hne
      apply sameTokens_of_foreign hforeign
      rw [hpersisted.owners]
      exact hforeign
    · exact .of_eq (hpersisted.others k hk)
  · rw [hpersisted.foreign (.inl howner)]
    exact .of_eq rfl

/-- The token program leaves the accounts of other programs alone. -/
theorem Lawful.kept (h : Lawful S) (hne : P.programId ≠ S.tokenProgram) {ix : Instruction Pubkey}
    (hinvoke : S.invoke L ix signed = .ok L') (k : Pubkey) : Kept P L L' k := by
  by_cases howner : (L k).owner = S.tokenProgram
  · have hbefore : (L k).owner ≠ P.programId := by
      rw [howner]
      exact hne.symm
    have hafter : (L' k).owner ≠ P.programId := by
      rw [h.owner hinvoke k howner]
      exact hne.symm
    exact ⟨iff_of_false hafter hbefore, fun hold => absurd hold hbefore⟩
  · exact .of_eq (h.foreign hinvoke k howner)

end Program

/-! ## Guarded accounts -/

section Guarded

variable {ix : Instruction Pubkey} {signed : Option Pubkey} {owner authority : Pubkey}

/-- Only an initialization for somebody else would end the guard. -/
theorem Lawful.guarded (h : Lawful S) (hinvoke : S.invoke L ix signed = .ok L') (hguarded : Guarded S L k owner)
    (hix : ∀ mint owner', ix = .initializeAccount k mint owner' → owner' = owner) : Guarded S L' k owner := by
  intro a' ha'
  obtain ⟨a, ha, howner, hdelegate⟩ | ⟨mint, owner', rfl⟩ := h.accounts hinvoke ha'
  · obtain ⟨hown, hnone⟩ := hguarded a ha
    refine ⟨howner.trans hown, ?_⟩
    rcases hdelegate with hsame | hcleared
    · exact hsame.trans hnone
    · exact hcleared
  · obtain ⟨amount, hinit, -⟩ := (h.initializeAccount hinvoke).1
    obtain rfl := Option.some.inj (hinit.symm.trans ha')
    exact ⟨hix _ _ rfl, rfl⟩

theorem Lawful.mintGuarded (h : Lawful S) (hinvoke : S.invoke L ix signed = .ok L')
    (hguarded : MintGuarded S L k authority)
    (hix : ∀ authority' decimals, ix = .initializeMint k authority' decimals → authority' = authority) :
    MintGuarded S L' k authority := by
  intro m' hm'
  obtain ⟨m, hm, hsame⟩ | ⟨authority', decimals, rfl⟩ := h.authorities hinvoke hm'
  · exact hsame.trans (hguarded m hm)
  · have hinit := (h.initializeMint hinvoke).1
    obtain rfl := Option.some.inj (hinit.symm.trans hm')
    exact congrArg some (hix _ _ rfl)

/-- Others cannot move tokens out of a guarded account. -/
theorem Guarded.ne_source {source : Pubkey} {a : Account Pubkey} (hguarded : Guarded S L k owner)
    (ha : account S L source = some a) (hauth : a.Authorises authority) (hne : authority ≠ owner) : k ≠ source := by
  rintro rfl
  obtain ⟨hown, hnone⟩ := hguarded a ha
  rcases hauth with heq | hdelegate
  · exact hne (heq.symm.trans hown)
  · rw [hnone] at hdelegate
    cases hdelegate

variable {source destination : Pubkey} {amount : UInt64}

/-- A transfer by somebody else leaves a guarded account at least what it had. -/
theorem Guarded.le_pull (h : Lawful S) (hguarded : Guarded S L k owner) (hne : authority ≠ owner)
    (htransfer : S.invoke L (.transfer source destination authority amount) signed = .ok L') :
    balance S L k ≤ balance S L' k := by
  obtain ⟨⟨a, ha, hauth, -⟩, hmoved, -, hothers, -⟩ := h.transfer htransfer
  have hsource := hguarded.ne_source ha hauth hne
  by_cases hdestination : k = destination
  · subst hdestination
    rw [(hmoved hsource.symm).2]
    exact Nat.le_add_right _ _
  · rw [hothers k hsource hdestination]

/-- And adds the amount to it, as the destination. -/
theorem Guarded.pull_eq (h : Lawful S) (hguarded : Guarded S L destination owner) (hne : authority ≠ owner)
    (htransfer : S.invoke L (.transfer source destination authority amount) signed = .ok L') :
    balance S L' destination = balance S L destination + amount.toNat := by
  obtain ⟨⟨a, ha, hauth, -⟩, hmoved, -⟩ := h.transfer htransfer
  exact (hmoved (hguarded.ne_source ha hauth hne).symm).2

/-- A transfer takes at most its amount. -/
theorem Lawful.push_le (h : Lawful S)
    (htransfer : S.invoke L (.transfer source destination authority amount) signed = .ok L') :
    balance S L source ≤ balance S L' source + amount.toNat := by
  obtain ⟨-, hmoved, hself, -⟩ := h.transfer htransfer
  by_cases hsame : source = destination
  · rw [hself hsame]
    exact Nat.le_add_right _ _
  · rw [(hmoved hsame).1]

/-- And nothing from other accounts. -/
theorem Lawful.le_push (h : Lawful S) (hk : k ≠ source)
    (htransfer : S.invoke L (.transfer source destination authority amount) signed = .ok L') :
    balance S L k ≤ balance S L' k := by
  obtain ⟨-, hmoved, -, hothers, -⟩ := h.transfer htransfer
  by_cases hdestination : k = destination
  · subst hdestination
    rw [(hmoved hk.symm).2]
    exact Nat.le_add_right _ _
  · rw [hothers k hk hdestination]

theorem Lawful.transfer_supply (h : Lawful S)
    (htransfer : S.invoke L (.transfer source destination authority amount) signed = .ok L') (k : Pubkey) :
    supply S L' k = supply S L k := by
  rw [supply, supply, (h.transfer htransfer).2.2.2.2 k]

/-- Minting takes from nobody. -/
theorem Lawful.le_mintTo (h : Lawful S) {mint' account' : Pubkey}
    (hmint : S.invoke L (.mintTo mint' account' authority amount) signed = .ok L') :
    balance S L k ≤ balance S L' k := by
  obtain ⟨hto, hothers, -⟩ := h.mintTo hmint
  by_cases hk : k = account'
  · subst hk
    rw [hto]
    exact Nat.le_add_right _ _
  · rw [hothers k hk]

/-- What somebody else burns is not of a guarded account. -/
theorem Guarded.burn_eq (h : Lawful S) (hguarded : Guarded S L k owner) (hne : authority ≠ owner)
    {mint' account' : Pubkey} (hburn : S.invoke L (.burn account' mint' authority amount) signed = .ok L') :
    balance S L' k = balance S L k := by
  obtain ⟨⟨a, ha, hauth⟩, -, hothers, -⟩ := h.burn hburn
  exact hothers k (hguarded.ne_source ha hauth hne)

end Guarded

theorem peelAccount_eq_ok {immutable : Bool} {a : Account Pubkey} (h : peelAccount S L immutable m = .ok a) :
    account S L m.key = some a := by
  obtain ⟨_, -, h⟩ := Failing.bind_eq_ok.mp h
  obtain ⟨a', hunpack, h⟩ := Failing.bind_eq_ok.mp h
  obtain ⟨_, howner, h⟩ := Failing.bind_eq_ok.mp h
  rw [account, if_pos (ensure_eq_ok.mp howner), hunpack, ← Except.ok.inj h]
  rfl

theorem peelMint_eq_ok {immutable : Bool} {mint' : Mint Pubkey} (h : peelMint S L immutable m = .ok mint') :
    mint S L m.key = some mint' := by
  obtain ⟨_, -, h⟩ := Failing.bind_eq_ok.mp h
  obtain ⟨a', hunpack, h⟩ := Failing.bind_eq_ok.mp h
  obtain ⟨_, howner, h⟩ := Failing.bind_eq_ok.mp h
  rw [mint, if_pos (ensure_eq_ok.mp howner), hunpack, ← Except.ok.inj h]
  rfl

end

end Wormhole.Solana.Spl

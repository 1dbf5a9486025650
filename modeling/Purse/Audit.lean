/-
  Purse.Audit

  Checking balances against the entries.  A balance is right when it is the sum of the
  signed amounts on its wallet (`walletSum`).  An audit adds them up in 64 bits, one entry
  after the other: `wrappedSum` for one wallet, `wrappedSums` for all wallets at once.  The
  report names every wallet whose stored balance differs, every negative balance, and every
  product whose flag disagrees with its stock.
-/
import Purse.Entry
import Purse.Wallet

namespace Purse

/-- The sum of signed amounts. -/
def signedSum : List Entry → Cents
  | [] => 0
  | entry :: rest => entry.signedAmount + signedSum rest

/-- The entries of one wallet. -/
def entriesOf (walletId : Ident) (entries : List Entry) : List Entry :=
  entries.filter (·.walletId = walletId)

/-- The balance that the entries give one wallet. -/
def walletSum (walletId : Ident) (entries : List Entry) : Cents :=
  signedSum (entriesOf walletId entries)

/-- Sums by wallet, in the order in which wallets first appear. -/
abbrev Sums := List (Ident × Cents)

/-- The sum of a wallet, zero when it has none. -/
def Sums.of : Sums → Ident → Cents
  | [], _ => 0
  | (id, sum) :: rest, walletId => if id = walletId then sum else Sums.of rest walletId

/-- Adds an amount to the sum of a wallet, in 64 bits. -/
def Sums.add (walletId : Ident) (amount : Cents) : Sums → Sums
  | [] => [(walletId, Cents.wrap amount)]
  | (id, sum) :: rest =>
      if id = walletId then (id, Cents.wrap (sum + amount)) :: rest
      else (id, sum) :: Sums.add walletId amount rest

/-- The balances that the entries give all the wallets they name, added up in 64 bits. -/
def wrappedSums (entries : List Entry) : Sums :=
  entries.foldl (fun sums entry => sums.add entry.walletId entry.signedAmount) []

/-- The balance that the entries give one wallet, added up in 64 bits. -/
def wrappedSum (walletId : Ident) (entries : List Entry) : Cents :=
  (entriesOf walletId entries).foldl (fun sum entry => Cents.wrap (sum + entry.signedAmount)) 0

/-- A stored balance next to the sum of its entries. -/
structure WalletAudit where
  walletId : Ident
  walletName : String
  stored : Cents
  computed : Cents
  entryCount : Nat
  deriving DecidableEq

/-- True when the stored balance is the sum of the entries. -/
def WalletAudit.isConsistent (audit : WalletAudit) : Bool := audit.stored == audit.computed

/-- Compares one wallet with its entries. -/
def auditWallet (wallet : Wallet) (entries : List Entry) : WalletAudit :=
  { walletId := wallet.id, walletName := wallet.name, stored := wallet.balance
    computed := wrappedSum wallet.id entries
    entryCount := (entriesOf wallet.id entries).length }

/-- A wallet whose stored balance is not the sum of its entries. -/
structure Mismatch where
  walletId : Ident
  walletName : String
  stored : Cents
  computed : Cents
  deriving DecidableEq

/-- What a check of the whole ledger found. -/
structure IntegrityReport where
  walletCount : Nat
  entryCount : Nat
  mismatches : List Mismatch
  negativeWallets : List Ident
  inconsistentProducts : List Ident
  deriving DecidableEq

/-- True when nothing was found. -/
def IntegrityReport.isOk (report : IntegrityReport) : Bool :=
  report.mismatches.isEmpty && report.negativeWallets.isEmpty &&
    report.inconsistentProducts.isEmpty

/-- The wallet's mismatch, when its balance is not the given sum. -/
def Wallet.mismatch? (wallet : Wallet) (computed : Cents) : Option Mismatch :=
  if computed = wallet.balance then none
  else some {
    walletId := wallet.id, walletName := wallet.name
    stored := wallet.balance, computed }

/-- Checks everything. -/
def integrityReport (wallets : List Wallet) (entries : List Entry) (products : List Product) :
    IntegrityReport :=
  let sums := wrappedSums entries
  { walletCount := wallets.length
    entryCount := entries.length
    mismatches := wallets.filterMap fun w => w.mismatch? (sums.of w.id)
    negativeWallets := (wallets.filter (·.balance < 0)).map (·.id)
    inconsistentProducts := (products.filter (!·.isConsistent)).map (·.id) }

@[simp] theorem walletSum_nil (walletId : Ident) : walletSum walletId [] = 0 := rfl

theorem walletSum_cons (walletId : Ident) (e : Entry) (rest : List Entry) :
    walletSum walletId (e :: rest) =
      (if e.walletId = walletId then e.signedAmount else 0) + walletSum walletId rest := by
  by_cases h : e.walletId = walletId <;> simp [walletSum, entriesOf, signedSum, h]

/-- Adding to one wallet's sum changes that sum only. -/
theorem Sums.of_add (sums : Sums) (walletId other : Ident) (amount : Cents) :
    (sums.add walletId amount).of other =
      if walletId = other then Cents.wrap (sums.of other + amount) else sums.of other := by
  induction sums with
  | nil => simp only [Sums.add, Sums.of, Int.zero_add]
  | cons head rest ih =>
      obtain ⟨id, sum⟩ := head
      by_cases hid : id = walletId <;> by_cases ho : id = other <;>
        simp_all [Sums.add, Sums.of, eq_comm]

end Purse

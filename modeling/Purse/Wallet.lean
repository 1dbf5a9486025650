/-
  Purse.Wallet

  Wallets: a named balance that belongs to one owner.  A wallet starts empty; money
  moves only through `increase` and `decrease`, which also note when it moved.  Both are
  called behind a check that the new balance can be stored (`hasRoomFor`, `canAfford`).
-/
import Purse.Ident
import Purse.Instant
import Purse.Money

namespace Purse

/-- A balance under a name, owned by one caller. -/
structure Wallet where
  id : Ident
  name : String
  ownerId : Ident
  balance : Cents
  /-- When the balance last changed; absent until then. -/
  lastMovedAt : Option Instant
  createdAt : Instant
  deriving DecidableEq

namespace Wallet

/-- A new, empty wallet. -/
def opened (id : Ident) (name : String) (ownerId : Ident) (now : Instant) : Wallet :=
  { id, name, ownerId, balance := 0, lastMovedAt := none, createdAt := now.truncate }

/-- True when the balance covers the amount. -/
def canAfford (wallet : Wallet) (amount : Cents) : Bool := amount ≤ wallet.balance

/-- The wallet after money came in. -/
def increase (wallet : Wallet) (amount : Cents) (now : Instant) : Wallet :=
  { wallet with balance := wallet.balance + amount, lastMovedAt := some now }

/-- The wallet after money went out. -/
def decrease (wallet : Wallet) (amount : Cents) (now : Instant) : Wallet :=
  { wallet with balance := wallet.balance - amount, lastMovedAt := some now }

/-- True when the balance with the amount on top can still be stored. -/
def hasRoomFor (wallet : Wallet) (amount : Cents) : Bool :=
  (Cents.add? wallet.balance amount).isSome

@[simp] theorem balance_increase (w : Wallet) (amount : Cents) (now : Instant) :
    (w.increase amount now).balance = w.balance + amount := rfl

@[simp] theorem balance_decrease (w : Wallet) (amount : Cents) (now : Instant) :
    (w.decrease amount now).balance = w.balance - amount := rfl

end Wallet

end Purse

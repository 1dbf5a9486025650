/-
  Purse.Group

  Named groups of wallets.  The members are kept as links beside the group, so a wallet
  may be in many groups and need not be stored.
-/
import Purse.Ident

namespace Purse

/-- A named group of wallets. -/
structure Group where
  id : Ident
  name : String
  members : List Ident
  deriving DecidableEq

end Purse

import Mathlib

/-!
# Amplifier.Lib.Bank — coins and bank transfers

The funds a call carries and the transfers a contract asks the chain's bank
module to make (`cosmwasm_std::Coin`, `BankMsg::Send`). Amounts are natural
numbers; a contract that bounds them checks the bound itself.

What a transfer sends (`BankMsg.total`) is what the ledgers of the contracts
count as paid out.
-/

namespace Amplifier

/-- `Coin`: an amount of one denomination. -/
structure Coin where
  denom : String
  amount : ℕ

/-- `BankMsg::Send`: coins to an address. -/
structure BankMsg where
  toAddress : String
  amount : List Coin

/-- What a bank message sends, over all its coins. -/
def BankMsg.total (msg : BankMsg) : ℕ :=
  (msg.amount.map Coin.amount).sum

@[simp]
theorem BankMsg.total_mk (toAddress : String) (amount : List Coin) :
    (BankMsg.mk toAddress amount).total = (amount.map Coin.amount).sum := rfl

end Amplifier

import StorageGate.Exchange
/-!
# Transaction ids

A provider gives the id under which an exchange and those that follow it belong together.  It is asked once, before all
else; an empty id leaves the exchange without one.
-/
namespace StorageGate

/-- Gives the ids of exchanges. -/
structure TransactionIds (m : Type → Type) where
  next : Exchange → m String

namespace TransactionIds

/-- The id that the message has, or a new one. -/
def ulids {m : Type → Type} [Monad m] : TransactionIds m where
  next e := pure (e.transactionId?.getD e.moment.freshId)

/-- No ids. -/
def untracked {m : Type → Type} [Monad m] : TransactionIds m where
  next _ := pure ""

end TransactionIds

/-- The exchange with an id as its transaction id, unless the id is empty. -/
def Exchange.withTransactionId (e : Exchange) (id : String) : Exchange :=
  if id = "" then e else { e with message := e.message.withProperty transactionIdProperty id }

end StorageGate

import StorageGate.Http.Message
import StorageGate.Message
import StorageGate.SocketAddress
import StorageGate.Ulid
/-!
# Exchanges

What the components of a policy are shown of an exchange: the message, what is known of the caller, and the moment.  The
moment holds all that an exchange takes from the world around it, so that its outcome is a function of what it is shown.
-/
namespace StorageGate

/-- What is known of a caller; none of it comes from the message. -/
structure Caller where
  remote : Option SocketAddress := none
  principal : Option String := none
  userAgent : Option String := none
  session : Option String := none
deriving DecidableEq, Repr, Inhabited

/-- The world as an exchange finds it. -/
structure Moment where
  /-- What every clock shows. -/
  now : Instant
  /-- The random part of a new identifier. -/
  random : Nat := 0
  /-- What the storage service will answer to the requests of a listing, in order; after these, nothing. -/
  answers : List Http.Response := []
deriving DecidableEq, Repr, Inhabited

/-- The text of a new identifier. -/
def Moment.freshId (moment : Moment) : String := (Ulid.ofInstant moment.now moment.random).text

/-- One exchange. -/
structure Exchange where
  message : Message
  caller : Caller := {}
  moment : Moment
deriving DecidableEq, Repr, Inhabited

/-- The transaction id of the message. -/
def Exchange.transactionId? (e : Exchange) : Option String := e.message.transactionId?

end StorageGate

import Mathlib.Data.List.Nodup
import StorageGate.Client.Batch
import StorageGate.Proofs.Storage.Canonical
/-!
# The stamp of an upload

An upload in an exchange with a transaction id carries the id in a header of its own.  Metadata of the client that has the
name of the stamp gives way to it, and metadata that spells the name in another way would make the header a second time, so
it is not signed (`stamp_of_signedUrl`).
-/
namespace StorageGate

namespace StorageSigner

variable {s : StorageSigner} {e : Exchange} {r : Request} {u : SignedUrl} {id : String}

theorem signedMetadata?_of_put (hid : e.transactionId? = some id) (hput : r.action = .put) :
    signedMetadata? e r = some (r.metadata.insert transactionIdMetadata id) := by
  rw [signedMetadata?, hput, hid]

end StorageSigner
end StorageGate

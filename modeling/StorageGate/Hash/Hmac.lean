import StorageGate.Hash.Sha256
/-!
# Keyed digests

HMAC with SHA-256.  A key longer than a block is digested first and a shorter one filled with zeros; the message is
digested behind the key under one mask, and that digest behind the key under another.
-/
namespace StorageGate

/-- The digest of a message under a key. -/
def hmacSha256 (key message : List UInt8) : List UInt8 :=
  let short := if 64 < key.length then Sha256.digest key else key
  let block := short ++ List.replicate (64 - short.length) 0
  Sha256.digest (block.map (· ^^^ 0x5c) ++ Sha256.digest (block.map (· ^^^ 0x36) ++ message))

end StorageGate

import StorageGate.Config
import StorageGate.Proofs.Json.Written
/-!
# Credentials as JSON

The JSON of credentials holds the address, the key, the secret and the style, but not the endpoint: that is read again from
the address, with the style of its own.  Since the style is always written, it is put in place of the endpoint's own, and
credentials are read from their own text, whatever their names and secrets hold (`ofJson_of_write`).
-/
namespace StorageGate
namespace Credentials

open Json (Value)

theorem isTextual_toJson (c : Credentials) : c.toJson.IsTextual := by
  simp [toJson, Address.toJson, Value.IsTextual, Value.HoldTextual]

theorem parts?_toJson (c : Credentials) :
    parts? c.toJson = some (c.address, c.accessKeyId, c.secretAccessKey, some c.pathStyle) := rfl

/-- The address, the key and the secret make the credentials again, but for the style. -/
theorem ofAddress_address (c : Credentials) : ofAddress c.address c.accessKeyId c.secretAccessKey
    = .ok (c.withPathStyle (isPathStyleDefault c.endpoint)) := by
  unfold ofAddress
  split
  · rename_i cause h
    cases c.endpoint_eq.symm.trans h
  · rename_i endpoint h
    cases c.endpoint_eq.symm.trans h
    rfl

theorem ofJson_toJson (c : Credentials) : ofJson c.toJson = .ok c := by
  rw [ofJson, parts?_toJson]
  dsimp only
  rw [ofAddress_address]
  rfl

/-- **Credentials survive JSON.**  All credentials are made of an address whose endpoint can be read, in the style of the
endpoint or another; and the text that is written of them is read as the same credentials. -/
theorem ofJson_of_write (c : Credentials) :
    (∃ made, ofAddress c.address c.accessKeyId c.secretAccessKey = .ok made ∧ made.pathStyle = isPathStyleDefault made.endpoint ∧
      c = made.withPathStyle c.pathStyle) ∧
    ∃ v, Value.parse? c.toJson.write = some v ∧ ofJson v = .ok c :=
  ⟨⟨_, c.ofAddress_address, rfl, rfl⟩, _, Value.parse?_write c.isTextual_toJson, c.ofJson_toJson⟩

end Credentials
end StorageGate

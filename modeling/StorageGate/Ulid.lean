import StorageGate.Instant
/-!
# Sortable identifiers

Forty-eight bits of time and eighty random bits, as ten and sixteen digits of base 32.  The digits leave out the letters
that are read as others, and their order is that of their values, so later identifiers come later as texts.
-/
namespace StorageGate

/-- An identifier: its time in milliseconds since 1970 and its random part. -/
structure Ulid where
  milliseconds : Nat
  random : Nat
deriving DecidableEq, Repr

namespace Ulid

/-- The digits of base 32, by value. -/
def alphabet : List Char := "0123456789ABCDEFGHJKMNPQRSTVWXYZ".toList

/-- A number in so many digits, without the digits in front of them. -/
def digits (count n : Nat) : List Char :=
  (List.range count).map fun i => alphabet.getD (n / Nat.pow 32 (count - 1 - i) % 32) '0'

/-- The text of an identifier.  Its time and its random part are cut to the bits they have. -/
def text (u : Ulid) : String :=
  String.ofList (digits 10 (u.milliseconds % Nat.pow 2 48) ++ digits 16 (u.random % Nat.pow 2 80))

/-- The identifier made at an instant. -/
def ofInstant (t : Instant) (random : Nat) : Ulid where
  milliseconds := t.milliseconds.toNat
  random

end Ulid
end StorageGate

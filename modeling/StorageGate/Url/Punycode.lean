/-!
# Punycode

Labels beyond ASCII, written in ASCII: first the ASCII characters, then a hyphen, then one variable-length integer for
each other character, in the order of code points.  An integer counts the places and code points passed over since the
character before it; its digits have base 36 with thresholds that follow a bias, and the bias follows the integers.
-/
namespace StorageGate
namespace Punycode

/-- Whether a character is ASCII. -/
def isBasic (c : Char) : Bool := c.toNat < 0x80

/-- The digit of a value below 36: letters, then decimal digits. -/
def digit (value : Nat) : Char :=
  if value < 26 then Char.ofNat (97 + value) else Char.ofNat (22 + value)

/-- The value of a digit, in either case. -/
def digitValue? (c : Char) : Option Nat :=
  if 'a' ≤ c ∧ c ≤ 'z' then some (c.toNat - 97)
  else if 'A' ≤ c ∧ c ≤ 'Z' then some (c.toNat - 65)
  else if '0' ≤ c ∧ c ≤ '9' then some (c.toNat - 22)
  else none

/-- The threshold of the digit at position `k` (36, 72, …): a digit below it ends its integer. -/
def threshold (bias k : Nat) : Nat := min 26 (max 1 (k - bias))

/-- How often 35 goes into a difference until it is at most 455, times 36, and what is left. -/
def damp (delta k : Nat) : Nat × Nat :=
  if 455 < delta then damp (delta / 35) (k + 36) else (k, delta)
termination_by delta
decreasing_by omega

/-- The bias after an integer, of `count` characters placed so far. -/
def adapt (delta count : Nat) (isFirst : Bool) : Nat :=
  let halved := if isFirst then delta / 700 else delta / 2
  let damped := damp (halved + halved / count) 0
  damped.1 + 36 * damped.2 / (damped.2 + 38)

/-- The digits of an integer from position `k` on. -/
def integer (bias k value : Nat) : List Char :=
  let t := threshold bias k
  if value < t then [digit value]
  else digit (t + (value - t) % (36 - t)) :: integer bias (k + 36) ((value - t) / (36 - t))
termination_by value
decreasing_by
  have h₁ : 1 ≤ threshold bias k := by unfold threshold; omega
  have h₂ : threshold bias k ≤ 26 := by unfold threshold; omega
  have h₃ : (value - threshold bias k) / (36 - threshold bias k) ≤ value - threshold bias k := Nat.div_le_self _ _
  omega

/-- Where the writer stands: the integers written, the places passed since the last, the bias, and the number of
characters placed. -/
structure Writer where
  written : List Char
  delta : Nat
  bias : Nat
  placed : Nat

/-- Passes one character of the label on the round for `code`. -/
def Writer.pass (basics code : Nat) (w : Writer) (c : Char) : Writer :=
  if c.toNat < code then { w with delta := w.delta + 1 }
  else if c.toNat = code then
    { written := w.written ++ integer w.bias 36 w.delta
      delta := 0
      bias := adapt w.delta (w.placed + 1) (w.placed == basics)
      placed := w.placed + 1 }
  else w

/-- One round over the label for each of the code points, ascending; `next` is the least not yet passed. -/
def rounds (label : List Char) (basics next : Nat) (w : Writer) : List Nat → Writer
  | [] => w
  | code :: rest =>
    let w := { w with delta := w.delta + (code - next) * (w.placed + 1) }
    let w := label.foldl (Writer.pass basics code) w
    rounds label basics (code + 1) { w with delta := w.delta + 1 } rest

/-- The label in ASCII. -/
def encode (label : List Char) : List Char :=
  let basic := label.filter isBasic
  let codes := ((label.filter fun c => !isBasic c).map Char.toNat).mergeSort.eraseDups
  let lead := if basic.isEmpty then [] else basic ++ ['-']
  lead ++ (rounds label basic.length 128 ⟨[], 0, 72, basic.length⟩ codes).written

/-- Where the reader stands: the characters placed, the next code point, the place the last integer reached, the bias,
and, inside an integer, its value so far, the weight of the next digit and that digit's position. -/
structure Reader where
  placed : List Char
  code : Nat
  start : Nat
  bias : Nat
  value : Nat
  weight : Nat
  k : Nat

/-- Reads digits; fails within an integer, and on a code point that is no character. -/
def Reader.run (r : Reader) : List Char → Option (List Char)
  | [] => if r.k = 36 then some r.placed else none
  | c :: rest =>
    match digitValue? c with
    | none => none
    | some d =>
      let value := r.value + d * r.weight
      let t := threshold r.bias r.k
      if d < t then
        let count := r.placed.length + 1
        let code := r.code + value / count
        if code.isValidChar then
          let place := value % count
          Reader.run
            { placed := r.placed.insertIdx place (Char.ofNat code)
              code
              start := place + 1
              bias := adapt (value - r.start) count (r.start == 0)
              value := place + 1
              weight := 1
              k := 36 } rest
        else none
      else Reader.run { r with value, weight := r.weight * (36 - t), k := r.k + 36 } rest

/-- The label that an ASCII form stands for. -/
def decode? (text : List Char) : Option (List Char) :=
  let tail := (text.reverse.takeWhile (· != '-')).reverse
  let lead := text.take (text.length - tail.length - 1)
  if lead.all isBasic then
    Reader.run { placed := lead, code := 128, start := 0, bias := 72, value := 0, weight := 1, k := 36 } tail
  else none

end Punycode
end StorageGate

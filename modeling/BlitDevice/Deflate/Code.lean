import BlitDevice.Deflate.Bits

/-!
# Prefix codes

* `Code` — a canonical code: how many words there are of each length, and the symbols in the order
  of their words.
* `Code.ofLengths?` — the code of a list of lengths, if its words leave no gap. A code for
  distances may also have no word, or one word of one bit.
* `Code.decode` — the next symbol; `Code.peekWord?` looks ahead without reading.
-/

set_option autoImplicit false

namespace BlitDevice.Deflate

/-- The longest word has so many bits. -/
def maxWord : Nat := 15

/-- Words of lengths 1, 2, … and their symbols. -/
structure Code where
  counts : List Nat
  symbols : Array Nat

namespace Code

/-- The symbols whose word has a given length. -/
def symbolsOf (lengths : Array Nat) (length : Nat) : List Nat :=
  (List.range lengths.size).filter fun s => lengths[s]?.getD 0 == length

def ofLengths (lengths : Array Nat) : Code :=
  let groups := (List.range' 1 maxWord).map (symbolsOf lengths)
  ⟨groups.map List.length, groups.flatten.toArray⟩

/-- The words taken up, as parts of the longest words. -/
def used : List Nat → Nat
  | [] => 0
  | c :: cs => c <<< cs.length + used cs

/-- Every sequence of bits starts with a word. -/
def isComplete (c : Code) : Bool := used c.counts == 1 <<< maxWord

/-- The code of a list of lengths. -/
def ofLengths? (lengths : Array Nat) : Option Code :=
  let c := ofLengths lengths
  if c.isComplete then some c else none

/-- The code of a list of distance lengths. -/
def ofDistanceLengths? (lengths : Array Nat) : Option Code :=
  let c := ofLengths lengths
  let single := c.symbols.size == 1 && c.counts.head? == some 1
  if c.isComplete || single || c.symbols.isEmpty then some c else none

/-- Reads a word bit by bit, as long as there are longer words. Of the words as long as what is
read, `first` is the least and `index` the place of its symbol; where that place is past the last
one, no word starts so. -/
def decodeFrom (symbols : Array Nat) : List Nat → Nat → Nat → Nat → Read Nat
  | [], _, _, _ => Read.stop .invalid
  | count :: counts, word, first, index =>
    if symbols.size ≤ index then Read.stop .invalid
    else do
      let b ← Read.bit
      let word := word + b
      if word < first + count then
        match symbols[index + (word - first)]? with
        | some s => pure s
        | none => Read.stop .invalid
      else decodeFrom symbols counts (2 * word) (2 * (first + count)) (index + count)

/-- The next symbol. -/
def decode (c : Code) : Read Nat := decodeFrom c.symbols c.counts 0 0 0

/-- The next symbol and the length of its word. -/
def decodeWord (c : Code) : Read (Nat × Nat) := fun r =>
  match c.decode r with
  | .error e => .error e
  | .ok (s, r') => .ok ((s, r'.pos - r.pos), r')

/-- The next symbol and the length of its word, if zeros came after the bits that are there. -/
def peekWord? (c : Code) (r : BitReader) : Option (Nat × Nat) :=
  let r := if maxWord ≤ r.left then r else r.append [0, 0]
  match c.decodeWord r with
  | .error _ => none
  | .ok (word, _) => some word

/-- A symbol takes a bit at least. -/
theorem consumes_decode (c : Code) : Read.Consumes c.decode := by
  have key : ∀ (counts : List Nat) (word first index : Nat),
      Read.Consumes (decodeFrom c.symbols counts word first index) := by
    intro counts
    induction counts with
    | nil => intro _ _ _; exact Read.consumes_stop .invalid
    | cons count counts ih =>
      intro word first index
      unfold decodeFrom
      split
      · exact Read.consumes_stop .invalid
      · refine Read.consumes_bit.bind fun b => ?_
        dsimp only
        split
        · split
          · exact Read.shrinks_pure _
          · exact (Read.consumes_stop .invalid).shrinks
        · exact (ih _ _ _).shrinks
  exact key _ _ _ _

theorem consumes_decodeWord (c : Code) : Read.Consumes c.decodeWord := fun r a r' h => by
  unfold decodeWord at h
  split at h
  · cases h
  · rename_i h1; cases h; exact c.consumes_decode r _ _ h1

end Code

end BlitDevice.Deflate

import BlitDevice.Deflate.Code

/-!
# Symbols of a block

* `Meaning` — what a symbol of the code for literals stands for.
* `Codes` — the two codes of a block; `Codes.fixed` are those that need not be told.
* `Codes.readToken` — a byte or a pair of them, a repetition, or the end of the block.
-/

set_option autoImplicit false

namespace BlitDevice.Deflate

/-- Base and extra bits of the match lengths. -/
def lengthTable : Array (Nat × Nat) :=
  #[(3, 0), (4, 0), (5, 0), (6, 0), (7, 0), (8, 0), (9, 0), (10, 0), (11, 1), (13, 1), (15, 1),
    (17, 1), (19, 2), (23, 2), (27, 2), (31, 2), (35, 3), (43, 3), (51, 3), (59, 3), (67, 4),
    (83, 4), (99, 4), (115, 4), (131, 5), (163, 5), (195, 5), (227, 5), (258, 0)]

/-- Base and extra bits of the distances. -/
def distanceTable : Array (Nat × Nat) :=
  #[(1, 0), (2, 0), (3, 0), (4, 0), (5, 1), (7, 1), (9, 2), (13, 2), (17, 3), (25, 3), (33, 4),
    (49, 4), (65, 5), (97, 5), (129, 6), (193, 6), (257, 7), (385, 7), (513, 8), (769, 8),
    (1025, 9), (1537, 9), (2049, 10), (3073, 10), (4097, 11), (6145, 11), (8193, 12), (12289, 12),
    (16385, 13), (24577, 13)]

/-- A number out of a table, with its extra bits. -/
def tableValue (table : Array (Nat × Nat)) (index : Nat) : Read Nat :=
  match table[index]? with
  | none => Read.stop .invalid
  | some (base, extra) => do
    let v ← Read.bits extra
    return base + v

/-- What a symbol of the code for literals stands for: a byte, the end of the block, or a length of
the table. -/
inductive Meaning where
  | byte (value : UInt8)
  | blockEnd
  | length (index : Nat)
  deriving DecidableEq, Repr

/-- The symbol that ends a block. -/
def endOfBlock : Nat := 256

/-- Bytes come first, then the end of the block, then the lengths. The symbols after those end the
block too. -/
def Meaning.ofSymbol (symbol : Nat) : Meaning :=
  if symbol < endOfBlock then .byte (UInt8.ofNat symbol)
  else
    let index := symbol - endOfBlock - 1
    if endOfBlock < symbol ∧ index < lengthTable.size then .length index else .blockEnd

/-- The codes of a block. -/
structure Codes where
  literals : Code
  distances : Code

/-- What stands next in a block. -/
inductive Token where
  | byte (value : UInt8)
  | pair (first second : UInt8)
  /-- So many bytes from `distance` before the end. -/
  | repetition (distance length : Nat)
  | blockEnd
  deriving DecidableEq, Repr

namespace Codes

/-- The codes that need not be told. -/
def fixed : Codes where
  literals := Code.ofLengths (List.replicate 144 8 ++ List.replicate 112 9 ++
    List.replicate 24 7 ++ List.replicate 8 8).toArray
  distances := Code.ofLengths (Array.replicate 32 5)

/-- Two bytes are read as one if their words take no more bits together. -/
def pairWidth : Nat := 12

/-- The byte that is read as one with the byte before it, whose word has so many bits: its word is
longer than a bit, and short enough for both. Bits that are not there yet count as zeros in telling
whether such a byte follows; but then it has to be there in full. -/
def readPartner (codes : Codes) (length : Nat) : Read (Option UInt8) := fun r =>
  match codes.literals.peekWord? r with
  | none => .ok (none, r)
  | some (symbol, next) =>
    if symbol < endOfBlock ∧ 2 ≤ next ∧ length + next ≤ pairWidth then
      if next ≤ r.left then .ok (some (UInt8.ofNat symbol), { r with pos := r.pos + next })
      else .error .short
    else .ok (none, r)

/-- With so many bits at hand it is found that they stand for no distance. -/
def distanceCheck : Nat := 10

/-- A distance. -/
def readDistance (codes : Codes) : Read Nat := fun r =>
  match (codes.distances.decode >>= tableValue distanceTable) r with
  | .error .invalid => .error (if distanceCheck ≤ r.left then .invalid else .short)
  | read => read

/-- The rest of a repetition, given the index of its length. -/
def readRepetition (codes : Codes) (index : Nat) : Read Token := do
  let length ← tableValue lengthTable index
  let distance ← codes.readDistance
  return .repetition distance length

/-- What stands next. -/
def readToken (codes : Codes) : Read Token := do
  let (symbol, length) ← codes.literals.decodeWord
  match Meaning.ofSymbol symbol with
  | .byte first => do
    match ← codes.readPartner length with
    | some second => return .pair first second
    | none => return .byte first
  | .blockEnd => return .blockEnd
  | .length index => codes.readRepetition index

/-- The end of the block, if it is next and as many bits are there as the longest word has. -/
def readEnd (codes : Codes) : Read Token := do
  Read.need maxWord
  let symbol ← codes.literals.decode
  if symbol = endOfBlock then return .blockEnd else Read.stop .short

end Codes

theorem shrinks_tableValue (table : Array (Nat × Nat)) (index : Nat) :
    Read.Shrinks (tableValue table index) := by
  unfold tableValue
  split
  · exact (Read.consumes_stop .invalid).shrinks
  · exact Read.shrinks_bind (Read.shrinks_bits _) fun _ => Read.shrinks_pure _

namespace Codes

theorem shrinks_readPartner (codes : Codes) (length : Nat) :
    Read.Shrinks (codes.readPartner length) := fun r a r' h => by
  unfold readPartner at h
  split at h
  · cases h; exact Nat.le_refl _
  · split at h
    · split at h
      · cases h; simp only [BitReader.left]; omega
      · cases h
    · cases h; exact Nat.le_refl _

theorem shrinks_readDistance (codes : Codes) : Read.Shrinks codes.readDistance :=
  fun r a r' h => by
    have key := Read.shrinks_bind (Code.consumes_decode codes.distances).shrinks
      fun d => shrinks_tableValue distanceTable d
    unfold readDistance at h
    split at h
    · cases h
    · exact key r a r' h

theorem shrinks_readRepetition (codes : Codes) (index : Nat) :
    Read.Shrinks (codes.readRepetition index) :=
  Read.shrinks_bind (shrinks_tableValue _ _) fun _ =>
    Read.shrinks_bind codes.shrinks_readDistance fun _ => Read.shrinks_pure _

/-- A token takes a bit at least. -/
theorem consumes_readToken (codes : Codes) : Read.Consumes codes.readToken := by
  refine (Code.consumes_decodeWord _).bind fun (symbol, length) => ?_
  dsimp only
  split
  · refine Read.shrinks_bind (codes.shrinks_readPartner _) fun partner => ?_
    split
    · exact Read.shrinks_pure _
    · exact Read.shrinks_pure _
  · exact Read.shrinks_pure _
  · exact codes.shrinks_readRepetition _

theorem consumes_readEnd (codes : Codes) : Read.Consumes codes.readEnd := by
  refine (Read.shrinks_need _).bind fun _ => (Code.consumes_decode _).bind fun symbol => ?_
  split
  · exact Read.shrinks_pure _
  · exact (Read.consumes_stop .short).shrinks

end Codes

end BlitDevice.Deflate

import BlitDevice.Deflate.Symbol

/-!
# Block headers

* `Block` — what a block holds: bytes as they stand, or symbols of two codes.
* `BlockHeader` — the same with whether the block is the last one.
* `BlockHeader.read` — reads a header, and of a block with codes of its own these too.

A header is read when there are as many bits as any header takes at least.
-/

set_option autoImplicit false

namespace BlitDevice.Deflate

/-- What a block holds. -/
inductive Block where
  /-- So many bytes as they stand. -/
  | stored (count : Nat)
  | coded (codes : Codes)

structure BlockHeader where
  last : Bool
  block : Block

/-- The order in which the lengths of the code for lengths stand. -/
def lengthOrder : List Nat := [16, 17, 18, 0, 8, 7, 9, 6, 10, 5, 11, 4, 12, 3, 13, 2, 14, 1, 15]

/-- The longest word of the code for lengths has so many bits. -/
def maxLengthWord : Nat := 7

/-- Puts the lengths of the code for lengths into the order of their symbols. -/
def ordered (lengths : List Nat) : Array Nat :=
  (lengthOrder.zip lengths).foldl (fun a (symbol, length) => a.setIfInBounds symbol length)
    (Array.replicate 19 0)

/-- Reads so many lengths of three bits. -/
def readShortLengths : Nat → Read (List Nat)
  | 0 => pure []
  | n + 1 => do
    let v ← Read.bits 3
    let vs ← readShortLengths n
    return v :: vs

/-- How often a symbol of the code for lengths repeats: at least, and the extra bits. Symbols up to
15 are lengths; 16 to 18 repeat the length before, or zero. -/
def repeats (symbol : Nat) : Nat × Nat :=
  if symbol < 16 then (1, 0) else if symbol = 16 then (3, 2) else if symbol = 17 then (3, 3)
  else (11, 7)

/-- What a symbol of the code for lengths repeats, given the lengths so far. -/
def repeatedLength? (symbol : Nat) (lengths : Array Nat) : Option Nat :=
  if symbol < 16 then some symbol else if symbol = 16 then lengths.back? else some 0

theorem repeats_pos (symbol : Nat) : 0 < (repeats symbol).1 := by
  unfold repeats; split
  · decide
  · split
    · decide
    · split <;> decide

/-- Reads code lengths until there are `total`, with as many bits at hand each time as the longest
word has. -/
def readLengths (code : Code) (total : Nat) (lengths : Array Nat) : Read (Array Nat) :=
  if _h : total ≤ lengths.size then do
    Read.ensure (lengths.size == total)
    return lengths
  else do
    Read.need maxLengthWord
    let symbol ← code.decode
    let extra ← Read.bits (repeats symbol).2
    match repeatedLength? symbol lengths with
    | none => Read.stop .invalid
    | some value =>
      readLengths code total (lengths ++ Array.replicate ((repeats symbol).1 + extra) value)
termination_by total - lengths.size
decreasing_by
  have := repeats_pos symbol
  rw [Array.size_append, Array.size_replicate]; omega

/-- The codes that lengths say. The end of the block needs a word. -/
def Codes.ofLengths? (literals : Nat) (lengths : Array Nat) : Option Codes :=
  if lengths[endOfBlock]?.getD 0 = 0 then none
  else
    match Code.ofLengths? (lengths.extract 0 literals),
      Code.ofDistanceLengths? (lengths.extract literals) with
    | some l, some d => some ⟨l, d⟩
    | _, _ => none

/-- Reads the codes of a block that brings its own. -/
def Codes.read : Read Codes := do
  Read.need 14
  let literals := (← Read.bits 5) + 257
  let distances := (← Read.bits 5) + 1
  let short := (← Read.bits 4) + 4
  Read.ensure (literals ≤ 286 && distances ≤ 30)
  Read.need (3 * short)
  let short ← readShortLengths short
  match Code.ofLengths? (ordered short) with
  | none => Read.stop .invalid
  | some code => do
    let lengths ← readLengths code (literals + distances) #[]
    match Codes.ofLengths? literals lengths with
    | none => Read.stop .invalid
    | some codes => return codes

/-- Reads the length of a stored block and the complement of it. -/
def readStoredLength : Read Nat := do
  match ← Read.wholeBytes 4 with
  | [l0, l1, n0, n1] => do
    Read.ensure (n0 == ~~~l0 && n1 == ~~~l1)
    return l0.toNat + 256 * l1.toNat
  | _ => Read.stop .invalid

/-- Reads what a block of a given kind holds, as far as its header says. -/
def Block.read (kind : Nat) : Read Block :=
  match kind with
  | 0 => return .stored (← readStoredLength)
  | 1 => return .coded .fixed
  | 2 => return .coded (← Codes.read)
  | _ => Read.stop .invalid

/-- The fewest bits from the start of a block to the end of it. -/
def shortestBlock : Nat := 10

/-- Reads the header of a block. -/
def BlockHeader.read : Read BlockHeader := do
  Read.need shortestBlock
  let last ← Read.bits 1
  let kind ← Read.bits 2
  let block ← Block.read kind
  return ⟨last == 1, block⟩

theorem shrinks_readShortLengths (n : Nat) : Read.Shrinks (readShortLengths n) := by
  induction n with
  | zero => exact Read.shrinks_pure _
  | succ n ih =>
    exact Read.shrinks_bind (Read.shrinks_bits 3) fun _ =>
      Read.shrinks_bind ih fun _ => Read.shrinks_pure _

theorem shrinks_readLengths (code : Code) (total : Nat) (lengths : Array Nat) :
    Read.Shrinks (readLengths code total lengths) := by
  fun_induction readLengths code total lengths with
  | case1 lengths h => exact Read.shrinks_bind (Read.shrinks_ensure _) fun _ => Read.shrinks_pure _
  | case2 lengths h ih =>
    refine Read.shrinks_bind (Read.shrinks_need _) fun _ =>
      Read.shrinks_bind code.consumes_decode.shrinks fun symbol =>
      Read.shrinks_bind (Read.shrinks_bits _) fun extra => ?_
    split
    · exact (Read.consumes_stop .invalid).shrinks
    · exact ih _ _ _

theorem Codes.shrinks_read : Read.Shrinks Codes.read := by
  refine Read.shrinks_bind (Read.shrinks_need _) fun _ =>
    Read.shrinks_bind (Read.shrinks_bits _) fun _ =>
    Read.shrinks_bind (Read.shrinks_bits _) fun _ =>
    Read.shrinks_bind (Read.shrinks_bits _) fun _ =>
    Read.shrinks_bind (Read.shrinks_ensure _) fun _ =>
    Read.shrinks_bind (Read.shrinks_need _) fun _ =>
    Read.shrinks_bind (shrinks_readShortLengths _) fun _ => ?_
  split
  · exact (Read.consumes_stop .invalid).shrinks
  · refine Read.shrinks_bind (shrinks_readLengths _ _ _) fun _ => ?_
    split
    · exact (Read.consumes_stop .invalid).shrinks
    · exact Read.shrinks_pure _

theorem shrinks_readStoredLength : Read.Shrinks readStoredLength := by
  refine Read.shrinks_bind (Read.consumes_wholeBytes 3).shrinks fun head => ?_
  split
  · exact Read.shrinks_bind (Read.shrinks_ensure _) fun _ => Read.shrinks_pure _
  · exact (Read.consumes_stop .invalid).shrinks

theorem Block.shrinks_read (kind : Nat) : Read.Shrinks (Block.read kind) := by
  unfold Block.read
  split
  · exact Read.shrinks_bind shrinks_readStoredLength fun _ => Read.shrinks_pure _
  · exact Read.shrinks_pure _
  · exact Read.shrinks_bind Codes.shrinks_read fun _ => Read.shrinks_pure _
  · exact (Read.consumes_stop .invalid).shrinks

/-- A header takes a bit at least. -/
theorem BlockHeader.consumes_read : Read.Consumes BlockHeader.read :=
  (Read.shrinks_need _).bind fun _ => (Read.consumes_bits 0).bind fun _ =>
    Read.shrinks_bind (Read.shrinks_bits 2) fun kind =>
      Read.shrinks_bind (Block.shrinks_read kind) fun _ => Read.shrinks_pure _

end BlitDevice.Deflate

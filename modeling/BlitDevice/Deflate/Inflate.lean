import BlitDevice.Deflate.Block

/-!
# Inflating

A stream is a header of two bytes, blocks, and a checksum of four bytes.

* `Inflater` — the bytes so far, where in the stream decoding stands, and how far it may go.
* `Inflater.next`, `Inflater.take` — reads what comes next, and takes it in.
* `Inflater.look` — bits are looked at before they are read, eight bytes at most.
* `Inflater.run` — reads as far as the bits go. Once as many bytes are there as may be, reading goes
  on only over what gives none: the end of a block, and headers.

The value of the checksum is not looked at. `Inflater.consumes_next` says that all this comes to an
end.
-/

set_option autoImplicit false

namespace BlitDevice.Deflate

/-- Where in a stream decoding stands. -/
inductive Place where
  | start
  | blockHeader
  | inBlock (block : Block)
  | checksum
  | ended

/-- A stream that is being decoded. -/
structure Inflater where
  /-- What is there of the stream, and how far it is read. -/
  reader : BitReader
  /-- So many bytes of the stream were looked at. -/
  seen : Nat
  out : Bytes
  /-- So many bytes are wanted. -/
  wanted : Nat
  /-- So many bytes may be there for now. -/
  limit : Nat
  /-- The block is the last one. -/
  last : Bool
  place : Place

/-- What stands next in a stream. -/
inductive Item where
  | opened
  | block (header : BlockHeader)
  /-- Bytes of a stored block, and how many are left of it. -/
  | stored (bytes : List UInt8) (left : Nat)
  | token (token : Token)
  | closed

/-- A header names the method, allows no preset dictionary, and is a multiple of 31. -/
def isHeader (method flags : UInt8) : Bool :=
  method.toNat % 16 == 8 && method.toNat / 16 ≤ 7 && flags.toNat / 32 % 2 == 0 &&
    (256 * method.toNat + flags.toNat) % 31 == 0

/-- Reads the header of a stream. -/
def readHeader : Read Item := do
  match ← Read.wholeBytes 2 with
  | [method, flags] => do
    Read.ensure (isHeader method flags)
    return .opened
  | _ => Read.stop .invalid

/-- Reads of `count` stored bytes those that are there, but not more than `room`. -/
def readStored (count room : Nat) : Read Item := fun r =>
  match min (r.left / 8) (min count room) with
  | 0 => .error .short
  | n + 1 =>
    match Read.wholeBytes (n + 1) r with
    | .error e => .error e
    | .ok (bytes, r') => .ok (.stored bytes (count - (n + 1)), r')

/-- Reads a token. A repetition reaches back to bytes of the `size` there are. -/
def readToken (codes : Codes) (size : Nat) : Read Item := do
  let token ← codes.readToken
  match token with
  | .repetition distance _ => do
    Read.ensure (distance ≤ size)
    return .token token
  | _ => return .token token

/-- Repeats bytes from `distance` before the end. -/
def copyBack (out : Bytes) (distance : Nat) : Nat → Bytes
  | 0 => out
  | n + 1 => copyBack (out.push (out[out.size - distance]?.getD 0)) distance n

namespace Inflater

/-- A stream of which nothing is there yet. -/
def ofWanted (wanted : Nat) : Inflater := ⟨⟨#[], 0⟩, 0, #[], wanted, 0, false, .start⟩

/-- No room is left. -/
def isFull (s : Inflater) : Bool := s.limit ≤ s.out.size

/-- There was not room enough for the last token. -/
def isOver (s : Inflater) : Bool := s.limit < s.out.size

/-- The bytes there is room for. -/
def filled (s : Inflater) : Nat := min s.out.size s.limit

/-- What comes next. While bytes are there for which there is no room, nothing does. -/
def next (s : Inflater) : Read Item :=
  if s.isOver then Read.stop .short
  else
    match s.place with
    | .start => readHeader
    | .blockHeader => do return .block (← BlockHeader.read)
    | .inBlock (.stored count) => readStored count (s.limit - s.out.size)
    | .inBlock (.coded codes) =>
      if s.isFull then do return .token (← codes.readEnd) else readToken codes s.out.size
    | .checksum => do
      let _ ← Read.wholeBytes 4
      return .closed
    | .ended => Read.stop .short

/-- After a block comes the next one, or the checksum. -/
def afterBlock (s : Inflater) : Inflater :=
  { s with place := if s.last then .checksum else .blockHeader }

/-- Enters a block, or what is left of it. After its last stored byte a block is over. -/
def enter (s : Inflater) : Block → Inflater
  | .stored 0 => s.afterBlock
  | block => { s with place := .inBlock block }

/-- Takes in what was read. -/
def take (s : Inflater) : Item → Inflater
  | .opened => { s with place := .blockHeader }
  | .block header => { s with last := header.last }.enter header.block
  | .stored bytes left => { s with out := s.out.appendList bytes }.enter (.stored left)
  | .token (.byte b) => { s with out := s.out.push b }
  | .token (.pair a b) => { s with out := (s.out.push a).push b }
  | .token (.repetition distance length) => { s with out := copyBack s.out distance length }
  | .token .blockEnd => s.afterBlock
  | .closed => { s with place := .ended }

end Inflater

theorem consumes_readHeader : Read.Consumes readHeader := by
  refine (Read.consumes_wholeBytes 1).bind fun head => ?_
  split
  · exact Read.shrinks_bind (Read.shrinks_ensure _) fun _ => Read.shrinks_pure _
  · exact (Read.consumes_stop .invalid).shrinks

theorem consumes_readStored (count room : Nat) : Read.Consumes (readStored count room) :=
  fun r item r' h => by
    unfold readStored at h
    split at h
    · cases h
    · rename_i n _
      split at h
      · cases h
      · rename_i h1; cases h; exact Read.consumes_wholeBytes n r _ _ h1

theorem consumes_readToken (codes : Codes) (size : Nat) :
    Read.Consumes (readToken codes size) := by
  refine codes.consumes_readToken.bind fun token => ?_
  split
  · exact Read.shrinks_bind (Read.shrinks_ensure _) fun _ => Read.shrinks_pure _
  · exact Read.shrinks_pure _

namespace Inflater

/-- **Whatever comes next takes a bit at least.** -/
theorem consumes_next (s : Inflater) : Read.Consumes s.next := by
  unfold next
  split
  · exact Read.consumes_stop .short
  · split
    · exact consumes_readHeader
    · exact BlockHeader.consumes_read.bind fun _ => Read.shrinks_pure _
    · exact consumes_readStored _ _
    · split
      · exact (Codes.consumes_readEnd _).bind fun _ => Read.shrinks_pure _
      · exact consumes_readToken _ _
    · exact (Read.consumes_wholeBytes 3).bind fun _ => Read.shrinks_pure _
    · exact Read.consumes_stop .short

theorem reader_enter (s : Inflater) (block : Block) : (s.enter block).reader = s.reader := by
  unfold enter; split <;> rfl

theorem reader_take (s : Inflater) (item : Item) : (s.take item).reader = s.reader := by
  match item with
  | .opened | .token (.byte _) | .token (.pair _ _) | .token (.repetition _ _) | .token .blockEnd
  | .closed => rfl
  | .block _ | .stored _ _ => exact reader_enter _ _

/-- So many bits are looked at ahead of reading. -/
def sight : Nat := 63

/-- Looks ahead, by whole bytes. The bytes of a stored block are read without that. -/
def look (s : Inflater) : Inflater :=
  let seen :=
    match s.place with
    | .inBlock (.stored _) => s.reader.pos / 8
    | _ => min s.reader.bytes.size ((s.reader.pos + sight) / 8)
  { s with seen := max s.seen seen }

/-- Looks ahead after an item of so many bits. That is left undone where the item was more than
there was room for, and after a byte of a short word that took the last room. -/
def lookAfter (s : Inflater) (item : Item) (bits : Nat) : Inflater :=
  match item with
  | .token (.byte _) => if s.isFull && bits ≤ Codes.pairWidth then s else s.look
  | _ => if s.isOver then s else s.look

theorem reader_lookAfter (s : Inflater) (item : Item) (bits : Nat) :
    (s.lookAfter item bits).reader = s.reader := by
  unfold lookAfter
  split
  · split <;> rfl
  · split <;> rfl

/-- Reads as far as the bits go. -/
def run (s : Inflater) : Option Inflater :=
  match _h : s.next s.reader with
  | .ok (item, r) => run (({ s with reader := r }.take item).lookAfter item (r.pos - s.reader.pos))
  | .error .short => some s
  | .error .invalid => none
termination_by s.reader.left
decreasing_by
  rw [reader_lookAfter, reader_take]
  exact s.consumes_next s.reader item r _h

theorem bounds_enter (s : Inflater) (block : Block) :
    (s.enter block).wanted = s.wanted ∧ (s.enter block).limit = s.limit := by
  unfold enter; split <;> exact ⟨rfl, rfl⟩

theorem bounds_take (s : Inflater) (item : Item) :
    (s.take item).wanted = s.wanted ∧ (s.take item).limit = s.limit := by
  match item with
  | .opened | .token (.byte _) | .token (.pair _ _) | .token (.repetition _ _) | .token .blockEnd
  | .closed => exact ⟨rfl, rfl⟩
  | .block _ | .stored _ _ => exact bounds_enter _ _

theorem bounds_lookAfter (s : Inflater) (item : Item) (bits : Nat) :
    (s.lookAfter item bits).wanted = s.wanted ∧ (s.lookAfter item bits).limit = s.limit := by
  unfold lookAfter
  split
  · split <;> exact ⟨rfl, rfl⟩
  · split <;> exact ⟨rfl, rfl⟩

/-- **Reading on changes neither what is wanted nor how far it may go.** -/
theorem bounds_run {s t : Inflater} (h : s.run = some t) :
    t.wanted = s.wanted ∧ t.limit = s.limit := by
  fun_induction run s with
  | case1 s item r _ ih =>
    have h1 := ih h
    have h2 := bounds_lookAfter ({ s with reader := r }.take item) item (r.pos - s.reader.pos)
    have h3 := bounds_take { s with reader := r } item
    exact ⟨h1.1.trans (h2.1.trans h3.1), h1.2.trans (h2.2.trans h3.2)⟩
  | case2 s _ => cases h; exact ⟨rfl, rfl⟩
  | case3 s _ => cases h

end Inflater

end BlitDevice.Deflate

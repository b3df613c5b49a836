import BlitDevice.Number.Word
import BlitDevice.Png.Checksum

/-!
# Chunks

* `ChunkKind` — what a chunk is for, by its tag of four letters, and the lengths it can have.
* `Chunk` — kind, data, and how the chunk ends.
* `Chunk.split` — cuts a stream into chunks; `Chunk.split_write` says that a written chunk comes
  off first.
* `Chunk.write` — length, tag, data and checksum.
-/

set_option autoImplicit false

namespace BlitDevice.Png

/-- What a chunk is for. Of the kinds that are not read, the critical ones cannot be passed over. -/
inductive ChunkKind where
  | header | palette | transparency | background | codePoints | frameControl | frameData
  | imageData | imageEnd
  | other (critical : Bool)
  deriving DecidableEq, Repr

namespace ChunkKind

/-- The tags of the kinds that are read. -/
def tags : List (List UInt8 × ChunkKind) :=
  [([73, 72, 68, 82], header), ([80, 76, 84, 69], palette), ([116, 82, 78, 83], transparency),
    ([98, 75, 71, 68], background), ([99, 73, 67, 80], codePoints),
    ([102, 99, 84, 76], frameControl), ([102, 100, 65, 84], frameData),
    ([73, 68, 65, 84], imageData), ([73, 69, 78, 68], imageEnd)]

/-- A tag whose first letter is small can be passed over. -/
def isCriticalTag (tag : List UInt8) : Bool :=
  match tag with
  | first :: _ => first.toNat / 32 % 2 == 0
  | [] => true

def ofTag (tag : List UInt8) : ChunkKind :=
  match tags.find? fun row => row.1 == tag with
  | some row => row.2
  | none => other (isCriticalTag tag)

/-- The kind can have so many bytes of data. A palette may end inside an entry. -/
def fits (kind : ChunkKind) (length : Nat) : Bool :=
  match kind with
  | header => length == 13
  | palette => 3 ≤ length && length ≤ 768
  | transparency => 1 ≤ length && length ≤ 256
  | background => 1 ≤ length && length ≤ 6
  | codePoints => length == 4
  | frameControl => length == 26
  | frameData | imageData | imageEnd | other _ => true

/-- A chunk of the kind is passed over if it does not match its checksum. -/
def maySkipDamaged : ChunkKind → Bool
  | transparency | background | codePoints | frameControl | other false => true
  | header | palette | frameData | imageData | imageEnd | other true => false

/-- A chunk of the kind is passed over if it cannot have its length. -/
def maySkipMisfit : ChunkKind → Bool
  | transparency | background | codePoints => true
  | _ => false

end ChunkKind

/-- How a chunk ends. -/
inductive Ending where
  /-- With the checksum of its tag and data. -/
  | sound
  /-- With another checksum. -/
  | damaged
  /-- With the stream, before its checksum does. -/
  | cut
  /-- With the stream, after its tag. -/
  | bare
  /-- With its tag, since no chunk is as long as this one says it is. -/
  | overlong
  deriving DecidableEq, Repr

/-- A chunk, with its data as far as they are there. -/
structure Chunk where
  kind : ChunkKind
  data : List UInt8
  ending : Ending
  deriving DecidableEq, Repr

namespace Chunk

def headerTag : List UInt8 := [73, 72, 68, 82]

def imageDataTag : List UInt8 := [73, 68, 65, 84]

def imageEndTag : List UInt8 := [73, 69, 78, 68]

/-- A chunk has fewer bytes of data. -/
def lengthLimit : Nat := 0x80000000

/-- The chunk with a length and a tag, and what comes after it. -/
def ofBody (length : Nat) (tag body : List UInt8) : Chunk × List UInt8 :=
  if lengthLimit ≤ length then (⟨.ofTag tag, [], .overlong⟩, [])
  else
    let data := body.take length
    match body.drop length with
    | c0 :: c1 :: c2 :: c3 :: rest =>
      let ending := if crc32 (tag ++ data) = wordOf c0 c1 c2 c3 then .sound else .damaged
      (⟨.ofTag tag, data, ending⟩, rest)
    | _ => (⟨.ofTag tag, data, if body.isEmpty then .bare else .cut⟩, [])

/-- The first chunk of a stream and what comes after it. Without a length and a tag there is
none. -/
def next? : List UInt8 → Option (Chunk × List UInt8)
  | l0 :: l1 :: l2 :: l3 :: t0 :: t1 :: t2 :: t3 :: body =>
    some (ofBody (wordNat l0 l1 l2 l3) [t0, t1, t2, t3] body)
  | _ => none

theorem length_ofBody (length : Nat) (tag body : List UInt8) :
    (ofBody length tag body).2.length ≤ body.length := by
  unfold ofBody
  dsimp only
  split
  · exact Nat.zero_le _
  · split
    · rename_i c0 c1 c2 c3 rest hd
      have := congrArg List.length hd
      simp only [List.length_drop, List.length_cons] at this
      dsimp only
      omega
    · exact Nat.zero_le _

theorem length_next? {bytes rest : List UInt8} {c : Chunk} (h : next? bytes = some (c, rest)) :
    rest.length < bytes.length := by
  unfold next? at h
  split at h
  · rename_i l0 l1 l2 l3 t0 t1 t2 t3 body
    have := length_ofBody (wordNat l0 l1 l2 l3) [t0, t1, t2, t3] body
    rw [Option.some.inj h] at this
    simp only [List.length_cons] at *; omega
  · cases h

/-- Cuts a stream into chunks. -/
def split (bytes : List UInt8) : List Chunk :=
  match _h : next? bytes with
  | none => []
  | some (c, rest) => c :: split rest
termination_by bytes.length
decreasing_by exact length_next? _h

/-- A chunk as it stands in a stream. -/
def write (tag data : List UInt8) : List UInt8 :=
  wordBytes (UInt32.ofNat data.length) ++ tag ++ data ++ wordBytes (crc32 (tag ++ data))

theorem ofBody_write (tag data rest : List UInt8) (hd : data.length < lengthLimit) :
    ofBody data.length tag (data ++ (wordBytes (crc32 (tag ++ data)) ++ rest)) =
      (⟨.ofTag tag, data, .sound⟩, rest) := by
  obtain ⟨c0, c1, c2, c3, hw⟩ : ∃ a b c d, wordBytes (crc32 (tag ++ data)) = [a, b, c, d] :=
    ⟨_, _, _, _, rfl⟩
  rw [ofBody, if_neg (Nat.not_le.mpr hd), List.drop_left, List.take_left, hw]
  simp only [List.cons_append, List.nil_append, wordOf_wordBytes _ hw, if_true]

/-- **A written chunk is the next one, and it is sound.** -/
theorem next?_write {tag data rest : List UInt8} (ht : tag.length = 4)
    (hd : data.length < lengthLimit) :
    next? (write tag data ++ rest) = some (⟨.ofTag tag, data, .sound⟩, rest) := by
  obtain ⟨l0, l1, l2, l3, hl⟩ : ∃ a b c d, wordBytes (UInt32.ofNat data.length) = [a, b, c, d] :=
    ⟨_, _, _, _, rfl⟩
  have hn : wordNat l0 l1 l2 l3 = data.length := by
    rw [← toNat_wordOf, wordOf_wordBytes _ hl,
      UInt32.toNat_ofNat_of_lt' (Nat.lt_trans hd (by decide : lengthLimit < 0x100000000))]
  match tag, ht with
  | [t0, t1, t2, t3], _ =>
    rw [write, hl]
    simp only [List.cons_append, List.nil_append, List.append_assoc, next?, hn]
    rw [← ofBody_write _ _ _ hd]; rfl

theorem split_write {tag data rest : List UInt8} (ht : tag.length = 4)
    (hd : data.length < lengthLimit) :
    split (write tag data ++ rest) = ⟨.ofTag tag, data, .sound⟩ :: split rest := by
  rw [split]
  split
  · rename_i h; rw [next?_write ht hd] at h; cases h
  · rename_i h; rw [next?_write ht hd] at h; cases h; rfl

end Chunk

end BlitDevice.Png

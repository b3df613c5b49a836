import Mathlib
import BlitDevice.Deflate.Store

/-!
# Stored streams are read back

* `BitReader.Before` — a reader at the beginning of a byte, and the bytes that follow;
  `Read.wholeBytes_before` and `Read.bits_before` say what is read there.
* `BlockHeader.read_storedBlock`, `Inflater.run_storedBlock` — the header of a stored block is read,
  and then all its bytes.
* `Inflater.AtBlock` — the state between two parts; `Inflater.feed?_streamHeader` comes to it and
  `Inflater.AtBlock.feed?_storedBlocks` goes from each to the next, up to the last.
-/

set_option autoImplicit false

namespace BlitDevice

namespace Deflate

/-! ## Reading at the beginning of a byte -/

namespace BitReader

variable {r : BitReader} {rest more : List UInt8}

/-- The reader stands at the beginning of a byte, with so many bytes to follow. -/
def Before (r : BitReader) (rest : List UInt8) : Prop :=
  ∃ front : List UInt8, r.bytes.toList = front ++ rest ∧ r.pos = 8 * front.length

theorem Before.left_eq (h : r.Before rest) : r.left = 8 * rest.length := by
  obtain ⟨front, hbytes, hpos⟩ := h
  have hsize : r.bytes.size = front.length + rest.length := by
    rw [← Array.length_toList, hbytes, List.length_append]
  simp only [left]
  omega

/-- What is added at the end follows what was there. -/
theorem Before.append (h : r.Before rest) : (r.append more).Before (rest ++ more) := by
  obtain ⟨front, hbytes, hpos⟩ := h
  refine ⟨front, ?_, hpos⟩
  rw [BitReader.append, Bytes.toList_appendList, hbytes, List.append_assoc]

/-- The reader, so many bytes on. -/
def skip (r : BitReader) (count : Nat) : BitReader := { r with pos := r.pos + 8 * count }

theorem skip_skip (r : BitReader) (m n : Nat) : (r.skip m).skip n = r.skip (m + n) := by
  simp only [skip, Nat.mul_add, Nat.add_assoc]

theorem Before.skip (front : List UInt8) {count : Nat} (h : r.Before (front ++ rest))
    (hcount : front.length = count) : (r.skip count).Before rest := by
  subst hcount
  obtain ⟨earlier, hbytes, hpos⟩ := h
  refine ⟨earlier ++ front, ?_, ?_⟩
  · rw [List.append_assoc]
    exact hbytes
  · simp only [BitReader.skip, hpos, List.length_append, Nat.mul_add]

theorem Before.align_eq (h : r.Before rest) : r.align = r := by
  obtain ⟨front, _, hpos⟩ := h
  obtain ⟨bytes, pos⟩ := r
  simp only [align, mk.injEq, true_and] at hpos ⊢
  omega

end BitReader

namespace Read

variable {r : BitReader} {rest front : List UInt8} {b : UInt8}

/-- Bytes that follow are read. -/
theorem wholeBytes_before (h : r.Before (front ++ rest)) :
    wholeBytes front.length r = .ok (front, r.skip front.length) := by
  have halign := h.align_eq
  obtain ⟨earlier, hbytes, hpos⟩ := h
  have hsize : r.bytes.size = earlier.length + (front.length + rest.length) := by
    rw [← Array.length_toList, hbytes, List.length_append, List.length_append]
  have hdiv : r.pos / 8 = earlier.length := by omega
  have hroom : r.pos / 8 + front.length ≤ r.bytes.size := by omega
  simp only [wholeBytes, halign, if_pos hroom]
  rw [hdiv, Bytes.slice_middle hbytes]
  rfl

/-- Where too few bytes follow, none are read. -/
theorem wholeBytes_short {count : Nat} (h : r.Before rest) (hcount : rest.length < count) :
    wholeBytes count r = .error .short := by
  have halign := h.align_eq
  obtain ⟨earlier, hbytes, hpos⟩ := h
  have hsize : r.bytes.size = earlier.length + rest.length := by
    rw [← Array.length_toList, hbytes, List.length_append]
  have hroom : ¬ r.pos / 8 + count ≤ r.bytes.size := by omega
  simp only [wholeBytes, halign, if_neg hroom]

/-- Bits of the byte that follows, from the bit with a given number on. -/
theorem bits_before (start count : Nat) (h : r.Before (b :: rest)) (hcount : start + count ≤ 8) :
    bits count { r with pos := r.pos + start } =
      .ok (b.toNat / 2 ^ start % 2 ^ count, { r with pos := r.pos + (start + count) }) := by
  induction count generalizing start with
  | zero => rw [Nat.pow_zero, Nat.mod_one]; rfl
  | succ count ih =>
    obtain ⟨earlier, hbytes, hpos⟩ := h
    have hbyte : r.bytes[earlier.length]? = some b := by
      rw [← Array.getElem?_toList, hbytes, List.getElem?_append_right (Nat.le_refl _),
        Nat.sub_self, List.getElem?_cons_zero]
    obtain ⟨hlt, hget⟩ := Array.getElem?_eq_some_iff.mp hbyte
    have hdiv : (r.pos + start) / 8 = earlier.length := by omega
    have hmod : (r.pos + start) % 8 = start := by omega
    have hbit : bit { r with pos := r.pos + start } =
        .ok (b.toNat / 2 ^ start % 2, { r with pos := r.pos + (start + 1) }) := by
      simp only [bit, hdiv, hmod, hlt, dif_pos, hget, Nat.shiftRight_eq_div_pow, Nat.add_assoc]
    have hrest := ih (start + 1) (by omega)
    rw [bits, bind_apply, hbit]
    dsimp only
    rw [bind_apply, hrest, Nat.pow_succ' (n := count), Nat.mod_mul, Nat.div_div_eq_div_mul,
      ← Nat.pow_succ, Nat.add_right_comm, Nat.add_assoc]
    rfl

/-- What is left of a byte is passed over. -/
theorem wholeBytes_within {start : Nat} (count : Nat) (h : r.Before rest) (hstart : 0 < start)
    (hle : start ≤ 8) : wholeBytes count { r with pos := r.pos + start } =
      wholeBytes count (r.skip 1) := by
  obtain ⟨earlier, _, hpos⟩ := h
  have halign : ({ r with pos := r.pos + start } : BitReader).align = (r.skip 1).align := by
    simp only [BitReader.align, BitReader.skip, BitReader.mk.injEq, true_and]
    omega
  simp only [wholeBytes, halign]

end Read

/-! ## Stored blocks -/

variable {r : BitReader} {rest block : List UInt8} {last : Bool}

/-- A length of two bytes is read back. -/
theorem shortBytes_eq {n : Nat} (hn : n < 65536) :
    ∃ low high, shortBytes n = [low, high] ∧ low.toNat + 256 * high.toNat = n := by
  refine ⟨_, _, rfl, ?_⟩
  rw [UInt8.toNat_ofNat', UInt8.toNat_ofNat']
  omega

theorem readStoredLength_before (hblock : block.length < 65536)
    (h : r.Before (shortBytes block.length ++ (shortBytes block.length).map (~~~ ·) ++ rest)) :
    readStoredLength r = .ok (block.length, r.skip 4) := by
  obtain ⟨low, high, hbytes, hlength⟩ := shortBytes_eq hblock
  rw [hbytes] at h
  have hread : Read.wholeBytes 4 r = .ok ([low, high, ~~~low, ~~~high], r.skip 4) :=
    Read.wholeBytes_before h
  rw [readStoredLength, Read.bind_apply, hread]
  dsimp only
  rw [Read.bind_apply, Read.ensure, if_pos (by simp), hlength]
  rfl

/-- The header of a stored block is read back, and the bytes of the block follow. -/
theorem BlockHeader.read_storedBlock (hblock : block.length < 65536)
    (h : r.Before (storedBlock last block ++ rest)) :
    BlockHeader.read r = .ok (⟨last, .stored block.length⟩, r.skip 5) ∧
      (r.skip 5).Before (block ++ rest) := by
  have hshape : storedBlock last block ++ rest = (if last then 1 else 0) ::
      (shortBytes block.length ++ (shortBytes block.length).map (~~~ ·) ++ (block ++ rest)) := by
    simp only [storedBlock, List.cons_append, List.append_assoc]
  rw [hshape] at h
  have hone : (r.skip 1).Before
      (shortBytes block.length ++ (shortBytes block.length).map (~~~ ·) ++ (block ++ rest)) :=
    h.skip [if last then 1 else 0] rfl
  have hfive : (r.skip 5).Before (block ++ rest) := by
    have hfour : ((r.skip 1).skip 4).Before (block ++ rest) := hone.skip _ rfl
    rwa [BitReader.skip_skip] at hfour
  have hlength := readStoredLength_before hblock hone
  have hleft : shortestBlock ≤ r.left := by
    rw [h.left_eq]
    simp only [shortestBlock, shortBytes, List.length_cons, List.length_append, List.map_cons,
      List.length_nil, List.map_nil]
    omega
  have hlast : Read.bits 1 r = .ok (if last then 1 else 0, { r with pos := r.pos + 1 }) := by
    refine (Read.bits_before 0 1 h (by decide)).trans ?_
    cases last <;> rfl
  have hkind : Read.bits 2 { r with pos := r.pos + 1 } =
      .ok (0, { r with pos := r.pos + 3 }) := by
    refine (Read.bits_before 1 2 h (by decide)).trans ?_
    cases last <;> rfl
  have hwhole : readStoredLength { r with pos := r.pos + 3 } =
      .ok (block.length, (r.skip 1).skip 4) := by
    rw [← hlength, readStoredLength, Read.bind_apply, Read.bind_apply,
      Read.wholeBytes_within 4 h (by decide) (by decide)]
  have hread : Block.read 0 { r with pos := r.pos + 3 } =
      .ok (.stored block.length, r.skip 5) := by
    rw [Block.read, Read.bind_apply, hwhole, BitReader.skip_skip]
    rfl
  have hneed : Read.need shortestBlock r = .ok ((), r) := if_pos hleft
  refine ⟨?_, hfive⟩
  simp only [BlockHeader.read, Read.bind_apply, hneed, hlast, hkind, hread]
  cases last <;> rfl

/-! ## Reading a stored block -/

theorem readStored_before {room : Nat} (hblock : 0 < block.length) (hroom : block.length ≤ room)
    (h : r.Before (block ++ rest)) :
    readStored block.length room r = .ok (.stored block 0, r.skip block.length) := by
  have hleft : r.left / 8 = block.length + rest.length := by
    rw [h.left_eq, List.length_append]
    omega
  obtain ⟨n, hn⟩ : ∃ n, block.length = n + 1 := ⟨block.length - 1, by omega⟩
  have hmin : min (r.left / 8) (min (n + 1) room) = n + 1 := by omega
  have hread := Read.wholeBytes_before h
  rw [hn] at hread ⊢
  simp only [readStored, hmin, hread, Nat.sub_self]

namespace Inflater

variable {s : Inflater} {item : Item}

theorem run_ok (h : s.next s.reader = .ok (item, r)) :
    s.run = (({ s with reader := r }.take item).lookAfter item (r.pos - s.reader.pos)).run := by
  rw [run]
  split
  · rename_i h'
    rw [h] at h'
    cases h'
    rfl
  · rename_i h'
    rw [h] at h'
    cases h'
  · rename_i h'
    rw [h] at h'
    cases h'

theorem run_short (h : s.next s.reader = .error .short) : s.run = some s := by
  rw [run]
  split
  · rename_i h'
    rw [h] at h'
    cases h'
  · rfl
  · rename_i h'
    rw [h] at h'
    cases h'

/-- Looking ahead changes nothing else. -/
theorem exists_look (s : Inflater) : ∃ seen, s.look = { s with seen } := ⟨_, rfl⟩

theorem next_blockHeader (hover : s.isOver = false) (hplace : s.place = .blockHeader)
    {header : BlockHeader} (h : BlockHeader.read s.reader = .ok (header, r)) :
    s.next s.reader = .ok (.block header, r) := by
  rw [next, hover, hplace]
  simp only [Bool.false_eq_true, if_false, Read.bind_apply, h]
  rfl

/-- All bytes of a stored block are read at once, if they are there and there is room for them. -/
theorem next_stored (hover : s.isOver = false) (hplace : s.place = .inBlock (.stored block.length))
    (hblock : 0 < block.length) (hroom : s.out.size + block.length ≤ s.limit)
    (h : s.reader.Before (block ++ rest)) :
    s.next s.reader = .ok (.stored block 0, s.reader.skip block.length) := by
  have hroom' : block.length ≤ s.limit - s.out.size := by omega
  rw [next, hover, hplace]
  simp only [Bool.false_eq_true, if_false]
  exact readStored_before hblock hroom' h

/-- Where nothing follows, neither a header nor a checksum is read. -/
theorem next_short (hplace : s.place = .blockHeader ∨ s.place = .checksum)
    (h : s.reader.Before []) : s.next s.reader = .error .short := by
  have hneed : Read.need shortestBlock s.reader = .error .short := by
    rw [Read.need, h.left_eq, if_neg (by decide)]
  rw [next]
  split
  · rfl
  · rcases hplace with hplace | hplace
    · rw [hplace]
      simp only [BlockHeader.read, Read.bind_apply, hneed]
    · have hshort : Read.wholeBytes 4 s.reader = .error .short :=
        Read.wholeBytes_short h (by decide)
      rw [hplace]
      simp only [Read.bind_apply, hshort]

/-- What comes after a block, by whether it was the last one. -/
def placeAfter (last : Bool) : Place := if last then .checksum else .blockHeader

/-- The header of a stored block with bytes enters the block. -/
theorem take_storedHeader {count : Nat} (hcount : 0 < count) (s : Inflater) :
    s.take (.block ⟨last, .stored count⟩) =
      { s with last, place := .inBlock (.stored count) } := by
  cases count with
  | zero => cases hcount
  | succ n => rfl

/-- After its bytes a stored block is over. -/
theorem take_stored (s : Inflater) :
    s.take (.stored block 0) =
      { s with out := s.out.appendList block, place := placeAfter s.last } := rfl

/-- At the end of what is there, everything was looked at. -/
theorem isUsedUp_look (hplace : s.place = placeAfter last) (h : s.reader.Before []) :
    s.look.isUsedUp = true := by
  obtain ⟨front, hbytes, hpos⟩ := h
  have hsize : s.reader.bytes.size = front.length := by
    rw [← Array.length_toList, hbytes, List.append_nil]
  have hseen : s.look.seen =
      max s.seen (min s.reader.bytes.size ((s.reader.pos + sight) / 8)) := by
    rw [look, hplace]
    cases last <;> rfl
  have hreader : s.look.reader = s.reader := rfl
  rw [isUsedUp, hseen, hreader, decide_eq_true_eq]
  simp only [sight]
  omega

theorem lookAfter_header (hover : s.isOver = false) (header : BlockHeader) (bits : Nat) :
    s.lookAfter (.block header) bits = s.look := by
  rw [lookAfter, hover]
  · rfl
  · nofun

theorem lookAfter_stored (hover : s.isOver = false) (count bits : Nat) :
    s.lookAfter (.stored block count) bits = s.look := by
  rw [lookAfter, hover]
  · rfl
  · nofun

theorem run_header {count : Nat} (hover : s.isOver = false) (hplace : s.place = .blockHeader)
    (hcount : 0 < count) (h : BlockHeader.read s.reader = .ok (⟨last, .stored count⟩, r)) :
    s.run = (look { s with reader := r, last := last, place := .inBlock (.stored count) }).run := by
  rw [run_ok (next_blockHeader hover hplace h), take_storedHeader hcount,
    lookAfter_header (s := { s with reader := r, last := last, place := .inBlock (.stored count) })
      hover]

theorem run_bytes (hplace : s.place = .inBlock (.stored block.length)) (hblock : 0 < block.length)
    (hroom : s.out.size + block.length ≤ s.limit) (h : s.reader.Before (block ++ rest)) :
    s.run = (look { s with
      reader := s.reader.skip block.length
      out := s.out.appendList block
      place := placeAfter s.last }).run := by
  have hover : s.isOver = false := decide_eq_false (by omega)
  have hover' : isOver { s with
      reader := s.reader.skip block.length
      out := s.out.appendList block
      place := placeAfter s.last } = false := by
    refine decide_eq_false ?_
    dsimp only
    rw [Bytes.size_appendList]
    omega
  rw [run_ok (next_stored hover hplace hblock hroom h), take_stored, lookAfter_stored hover']

theorem run_end (last : Bool) (hplace : s.place = placeAfter last) (h : s.reader.Before []) :
    s.look.run = some s.look := by
  refine run_short (next_short (s := s.look) ?_ h)
  change s.place = _ ∨ s.place = _
  rw [hplace]
  cases last
  · exact .inl rfl
  · exact .inr rfl

/-- **A stored block is read**, where there is room for it and nothing follows it. -/
theorem run_storedBlock (hplace : s.place = .blockHeader) (hblock : 0 < block.length)
    (hshort : block.length < 65536) (hroom : s.out.size + block.length = s.limit)
    (h : s.reader.Before (storedBlock last block)) :
    ∃ t, s.run = some t ∧ t.reader.Before [] ∧ t.place = placeAfter last ∧
      t.out = s.out.appendList block ∧ t.wanted = s.wanted ∧ t.limit = s.limit ∧
      t.isUsedUp = true := by
  rw [← List.append_nil (storedBlock last block)] at h
  obtain ⟨hheader, hbytes⟩ := BlockHeader.read_storedBlock hshort h
  have hover : s.isOver = false := decide_eq_false (by omega)
  obtain ⟨seen, hlook⟩ := exists_look { s with
    reader := s.reader.skip 5, last := last, place := .inBlock (.stored block.length) }
  have hrun := run_header hover hplace hblock hheader
  rw [hlook] at hrun
  have hread := run_bytes (s := { s with
      reader := s.reader.skip 5, last := last, place := .inBlock (.stored block.length),
      seen := seen }) rfl hblock (Nat.le_of_eq hroom) hbytes
  have hend : ((s.reader.skip 5).skip block.length).Before [] := hbytes.skip _ rfl
  exact ⟨_, hrun.trans (hread.trans (run_end _ rfl hend)), hend, rfl, rfl, rfl, rfl,
    isUsedUp_look rfl hend⟩

/-! ## Parts of a stream -/

/-- Decoding stops where there is room left, or where the parts are used up. -/
theorem decode?_eq {t : Inflater} (enough : Nat) (h : s.advance = some t)
    (hstop : t.isFull = false ∨ t.isUsedUp = true) : s.decode? enough = some t := by
  rw [decode?]
  split
  · rename_i h'
    rw [h] at h'
    cases h'
  · rename_i h'
    rw [h] at h'
    cases h'
    refine if_neg ?_
    rintro ⟨hfull, _, hused, _⟩
    rcases hstop with hstop | hstop
    · rw [hstop] at hfull
      cases hfull
    · exact hused hstop

/-- The stream stands between two blocks: so much of it is there, and all of that is read. -/
structure AtBlock (s : Inflater) (out : Bytes) (wanted : Nat) : Prop where
  reader : s.reader.Before []
  place_eq : s.place = .blockHeader
  out_eq : s.out = out
  wanted_eq : s.wanted = wanted
  fits : s.out.size ≤ s.limit

theorem AtBlock.filled_eq {out : Bytes} {wanted : Nat} (h : s.AtBlock out wanted) :
    s.filled = out.size := by
  rw [filled, h.out_eq, Nat.min_eq_left (h.out_eq ▸ h.fits)]

theorem readHeader_before (h : r.Before (streamHeader ++ rest)) :
    readHeader r = .ok (.opened, r.skip 2) := by
  have hread : Read.wholeBytes 2 r = .ok (streamHeader, r.skip 2) := Read.wholeBytes_before h
  rw [readHeader, Read.bind_apply, hread]
  rfl

theorem run_start (hover : s.isOver = false) (hplace : s.place = .start)
    (h : s.reader.Before (streamHeader ++ rest)) :
    s.run = (look { s with reader := s.reader.skip 2, place := .blockHeader }).run := by
  have hnext : s.next s.reader = .ok (.opened, s.reader.skip 2) := by
    rw [next, hover, hplace]
    exact readHeader_before h
  have hover' : isOver { s with reader := s.reader.skip 2, place := .blockHeader } = false := hover
  rw [run_ok hnext, take, lookAfter, hover']
  · rfl
  · nofun

/-- After its header a stream stands before its first block. -/
theorem feed?_streamHeader {wanted : Nat} (enough : Nat) (hwanted : 0 < wanted) :
    ∃ t, (ofWanted wanted).feed? enough streamHeader = some t ∧ t.AtBlock #[] wanted := by
  have hlimit : 0 < min (0 + stride) wanted := by
    simp only [stride]
    omega
  have hempty : (⟨#[], 0⟩ : BitReader).Before [] := ⟨[], rfl, rfl⟩
  have hbefore : (BitReader.append ⟨#[], 0⟩ streamHeader).Before (streamHeader ++ []) :=
    hempty.append
  obtain ⟨seen, hlook⟩ := exists_look { ofWanted wanted with
    reader := BitReader.append ⟨#[], 0⟩ streamHeader, limit := min (0 + stride) wanted }
  have hstart := run_start (s := { ofWanted wanted with
    reader := BitReader.append ⟨#[], 0⟩ streamHeader
    limit := min (0 + stride) wanted
    seen := seen }) (decide_eq_false (Nat.not_lt_zero _)) rfl hbefore
  have hend : ((BitReader.append ⟨#[], 0⟩ streamHeader).skip 2).Before [] :=
    hbefore.skip streamHeader rfl
  have hadvance := (congrArg run hlook).trans (hstart.trans (run_end false rfl hend))
  refine ⟨_, decode?_eq enough hadvance (.inl ?_), hend, rfl, rfl, rfl, Nat.zero_le _⟩
  exact decide_eq_false (Nat.not_le.mpr hlimit)

/-- **A part that is a block is taken in as a whole**, if it has as many bytes as a stride. -/
theorem AtBlock.feed?_storedBlock {out : Bytes} {wanted : Nat} (last : Bool) (enough : Nat)
    (h : s.AtBlock out wanted) (hblock : 0 < block.length)
    (hstride : block.length = min stride (wanted - out.size)) :
    ∃ t, s.feed? enough (storedBlock last block) = some t ∧ t.out = out.appendList block ∧
      t.wanted = wanted ∧ t.filled = out.size + block.length ∧
      (last = false → t.AtBlock (out.appendList block) wanted) := by
  have hlimit : min (s.filled + stride) s.wanted = out.size + block.length := by
    rw [h.filled_eq, h.wanted_eq]
    omega
  have hlength : block.length < 65536 := by
    rw [hstride]
    simp only [stride]
    omega
  have hroom : s.out.size + block.length = min (s.filled + stride) s.wanted := by
    rw [hlimit, h.out_eq]
  obtain ⟨seen, hlook⟩ := exists_look { s with
    reader := s.reader.append (storedBlock last block), limit := min (s.filled + stride) s.wanted }
  obtain ⟨t, hrun, hend, hplace, hout, hwanted, hlimit', hused⟩ := run_storedBlock (s := { s with
      reader := s.reader.append (storedBlock last block)
      limit := min (s.filled + stride) s.wanted
      seen := seen }) h.place_eq hblock hlength hroom h.reader.append
  have hadvance : advance { s with reader := s.reader.append (storedBlock last block) } =
      some t := by
    rw [advance]
    exact (congrArg run hlook).trans hrun
  have hout' : t.out = out.appendList block := by rw [hout, h.out_eq]
  have hsize : t.out.size = out.size + block.length := by rw [hout', Bytes.size_appendList]
  have hlimit'' : t.limit = out.size + block.length := hlimit'.trans hlimit
  refine ⟨t, decode?_eq enough hadvance (.inr hused), hout', hwanted.trans h.wanted_eq, ?_, ?_⟩
  · rw [filled, hsize, hlimit'', Nat.min_self]
  · rintro rfl
    exact ⟨hend, hplace, hout', hwanted.trans h.wanted_eq, by omega⟩

/-- While bytes are wanting, not all are released. -/
theorem AtBlock.released_lt {out : Bytes} {wanted : Nat} (h : s.AtBlock out wanted)
    (hout : out.size < wanted) : s.released < wanted := by
  rw [released, h.filled_eq]
  split <;> omega

/-- Once no bytes are wanting, all are released. -/
theorem released_of_filled (h : s.wanted = s.filled) : s.released = s.wanted := by
  have hcomplete : s.isComplete = true := by
    rw [isComplete, h]
    simp
  rw [released, if_pos hcomplete, h]

end Inflater

/-! ## The blocks of a buffer -/

variable {data : Bytes} {i : Nat}

/-- There are as many blocks as it takes, and no more. -/
theorem blockCount_iff (hdata : 0 < data.size) :
    i < blockCount data.size ↔ i * blockLimit < data.size := by
  simp only [blockCount, blockLimit, stride]
  omega

theorem extract_appendList (data : Bytes) (start count : Nat) :
    (data.extract 0 start).appendList (data.slice start count) =
      data.extract 0 (start + count) := by
  apply Array.toList_inj.mp
  rw [Bytes.toList_appendList, Bytes.slice_eq_take, Array.toList_extract, Array.toList_extract,
    List.extract_eq_take_drop, List.extract_eq_take_drop, List.drop_zero, Nat.sub_zero,
    Nat.sub_zero, ← List.take_add]

namespace Inflater

variable {s : Inflater}

/-- **One block after the other is taken in.** After the last one every byte is there and released;
before it there is still something wanting. -/
theorem AtBlock.feed?_storedBlocks (h : s.AtBlock (data.extract 0 (i * blockLimit)) data.size)
    (hdata : 0 < data.size) (hi : i < blockCount data.size) :
    ∃ t, s.feed? data.size (storedBlock (i + 1 == blockCount data.size)
        (data.slice (i * blockLimit) blockLimit)) = some t ∧
      (i + 1 = blockCount data.size → t.out = data ∧ t.released = data.size) ∧
      (i + 1 < blockCount data.size →
        t.AtBlock (data.extract 0 ((i + 1) * blockLimit)) data.size ∧
          t.released < data.size) := by
  have hstart : i * blockLimit < data.size := (blockCount_iff hdata).mp hi
  have hout : (data.extract 0 (i * blockLimit)).size = i * blockLimit := by
    rw [Array.size_extract]
    omega
  have hlength : (data.slice (i * blockLimit) blockLimit).length =
      min stride (data.size - (data.extract 0 (i * blockLimit)).size) := by
    rw [Bytes.length_slice, hout]
    rfl
  have hblock : 0 < (data.slice (i * blockLimit) blockLimit).length := by
    rw [hlength, hout]
    simp only [stride]
    omega
  obtain ⟨t, hfeed, htout, hwanted, hfilled, hnext⟩ :=
    h.feed?_storedBlock (i + 1 == blockCount data.size) data.size hblock hlength
  rw [extract_appendList, ← Nat.add_one_mul] at htout hnext
  have hmore := blockCount_iff (i := i + 1) hdata
  refine ⟨t, hfeed, fun hlast => ?_, fun hmoreBlocks => ?_⟩
  · have hall : data.size ≤ (i + 1) * blockLimit := by omega
    have hsize : t.wanted = t.filled := by
      rw [hwanted, hfilled, hlength, hout]
      simp only [blockLimit] at hall hstart ⊢
      rw [Nat.add_one_mul] at hall
      omega
    constructor
    · rw [htout, Array.extract_eq_self_of_le hall]
    · rw [released_of_filled hsize, hwanted]
  · have hbetween := hnext (beq_eq_false_iff_ne.mpr (by omega))
    refine ⟨hbetween, hbetween.released_lt ?_⟩
    have hlt := hmore.mp hmoreBlocks
    rw [Array.size_extract]
    omega

end Inflater

end Deflate

end BlitDevice

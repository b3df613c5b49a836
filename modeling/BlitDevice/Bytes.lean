/-!
# Byte buffers

* `Bytes` — a run of bytes.
* `Bytes.slice` — some bytes in a row; `Bytes.getElem?_slice` says which.
* `Bytes.overwrite` — writes bytes in a row; `Bytes.getElem?_overwrite` says what each byte is
  afterwards, and `Bytes.size_overwrite` that the buffer keeps its size.
* `Bytes.toList_foldl_appendList`, `Bytes.flatMap_slice`, `Bytes.slice_pieces` — bytes that are put
  one after the other, and how a piece of them is found; `flatMap_take_drop` is about any list.
-/

set_option autoImplicit false

namespace BlitDevice

abbrev Bytes := Array UInt8

/-- Pieces of one length, one after the other, are what stands at the beginning of a list. -/
theorem flatMap_take_drop {α : Type} (l : List α) (count n : Nat) :
    (List.range n).flatMap (fun i => (l.drop (i * count)).take count) = l.take (n * count) := by
  induction n with
  | zero => rw [Nat.zero_mul, List.take_zero]; rfl
  | succ n ih =>
    rw [List.range_succ, List.flatMap_append, ih, List.flatMap_singleton, Nat.add_one_mul,
      List.take_add]

namespace Bytes

/-- The bytes from `start` on, `count` of them or as many as there are. -/
def slice (b : Bytes) (start count : Nat) : List UInt8 := (b.extract start (start + count)).toList

/-- Writes values from `start` on. What would stand past the end is dropped. -/
def overwrite : Bytes → Nat → List UInt8 → Bytes
  | b, _, [] => b
  | b, start, v :: vs => overwrite (b.setIfInBounds start v) (start + 1) vs

theorem getElem?_slice (b : Bytes) (start count i : Nat) :
    (b.slice start count)[i]? = if i < count then b[start + i]? else none := by
  simp only [slice, Array.getElem?_toList, Array.getElem?_extract]
  by_cases h : i < count
  · by_cases hb : start + i < b.size
    · rw [if_pos (by omega), if_pos h]
    · rw [if_neg (by omega), if_pos h, Array.getElem?_eq_none (by omega)]
  · rw [if_neg (by omega), if_neg h]

theorem length_slice (b : Bytes) (start count : Nat) :
    (b.slice start count).length = min count (b.size - start) := by
  simp only [slice, Array.length_toList, Array.size_extract]; omega

@[simp] theorem size_overwrite (b : Bytes) (start : Nat) (vs : List UInt8) :
    (b.overwrite start vs).size = b.size := by
  induction vs generalizing b start with
  | nil => rfl
  | cons v vs ih => rw [overwrite, ih, Array.size_setIfInBounds]

/-- **A written byte is the value given for it; every other byte is the old one.** -/
theorem getElem?_overwrite (b : Bytes) (start : Nat) (vs : List UInt8) (i : Nat) :
    (b.overwrite start vs)[i]? =
      if start ≤ i ∧ i < start + vs.length ∧ i < b.size then vs[i - start]? else b[i]? := by
  induction vs generalizing b start with
  | nil => rw [overwrite, if_neg (by simp; omega)]
  | cons v vs ih =>
    rw [overwrite, ih, Array.size_setIfInBounds, Array.getElem?_setIfInBounds, List.length_cons]
    by_cases hi : i < b.size
    · by_cases h0 : i = start
      · subst h0
        rw [if_neg (by omega), if_pos rfl, if_pos hi, if_pos (by omega)]
        simp
      · rw [if_neg (by omega : ¬ start = i)]
        by_cases h1 : start + 1 ≤ i ∧ i < start + 1 + vs.length
        · rw [if_pos ⟨h1.1, h1.2, hi⟩, if_pos (by omega)]
          rw [show i - start = (i - (start + 1)) + 1 by omega, List.getElem?_cons_succ]
        · rw [if_neg (by omega), if_neg (by omega)]
    · rw [if_neg (by omega), if_neg (by omega : ¬ (start ≤ i ∧ _))]
      by_cases h0 : start = i
      · rw [if_pos h0, if_neg (by omega), Array.getElem?_eq_none (by omega)]
      · rw [if_neg h0]

/-! ## Bytes one after the other -/

theorem toList_appendList (b : Bytes) (more : List UInt8) :
    (b.appendList more).toList = b.toList ++ more := by
  rw [Array.appendList_eq_append, Array.toList_appendList]

theorem size_appendList (b : Bytes) (more : List UInt8) :
    (b.appendList more).size = b.size + more.length := by
  rw [← Array.length_toList, toList_appendList, List.length_append, Array.length_toList]

/-- A slice as a part of a list. -/
theorem slice_eq_take (b : Bytes) (start count : Nat) :
    b.slice start count = (b.toList.drop start).take count := by
  rw [slice, Array.toList_extract, List.extract_eq_take_drop, Nat.add_sub_cancel_left]

/-- Adding pieces one by one adds them all. -/
theorem toList_foldl_appendList {α : Type} (f : α → List UInt8) (l : List α) (b : Bytes) :
    (l.foldl (fun (b : Bytes) a => b.appendList (f a)) b).toList = b.toList ++ l.flatMap f := by
  induction l generalizing b with
  | nil => rw [List.foldl_nil, List.flatMap_nil, List.append_nil]
  | cons a l ih => rw [List.foldl_cons, ih, toList_appendList, List.flatMap_cons, List.append_assoc]

/-- Slices of one length, one after the other, are what stands at the beginning. -/
theorem flatMap_slice (b : Bytes) (count n : Nat) :
    (List.range n).flatMap (fun i => b.slice (i * count) count) = b.toList.take (n * count) := by
  simp only [slice_eq_take, flatMap_take_drop]

/-- Bytes that stand between others. -/
theorem slice_middle {b : Bytes} {front middle back : List UInt8}
    (h : b.toList = front ++ (middle ++ back)) :
    b.slice front.length middle.length = middle := by
  rw [slice_eq_take, h, List.drop_left, List.take_left]

section pieces

variable {α : Type} {f : α → List UInt8} {n : Nat}

/-- Pieces of one length are as long together as there are pieces. -/
theorem length_flatMap_pieces {l : List α} (hf : ∀ a ∈ l, (f a).length = n) :
    (l.flatMap f).length = l.length * n := by
  induction l with
  | nil => rw [List.length_nil, Nat.zero_mul]; rfl
  | cons a l ih =>
    obtain ⟨ha, hl⟩ := List.forall_mem_cons.mp hf
    rw [List.flatMap_cons, List.length_append, ha, ih hl, List.length_cons, Nat.add_one_mul,
      Nat.add_comm]

/-- Each piece is found by its number. -/
theorem slice_pieces {b : Bytes} {l : List α} (hb : b.toList = l.flatMap f)
    (hf : ∀ a ∈ l, (f a).length = n) {k : Nat} {a : α} (hk : l[k]? = some a) :
    b.slice (k * n) n = f a := by
  obtain ⟨hlt, hget⟩ := List.getElem?_eq_some_iff.mp hk
  have hfront : ((l.take k).flatMap f).length = k * n := by
    rw [length_flatMap_pieces fun a ha => hf a (List.mem_of_mem_take ha), List.length_take,
      Nat.min_eq_left (Nat.le_of_lt hlt)]
  have hsplit : b.toList = (l.take k).flatMap f ++ (f a ++ (l.drop (k + 1)).flatMap f) := by
    rw [hb, ← List.flatMap_cons, ← List.flatMap_append, ← hget, ← List.drop_eq_getElem_cons hlt,
      List.take_append_drop]
  have hmiddle := slice_middle hsplit
  rwa [hfront, hf a (hget ▸ List.getElem_mem hlt)] at hmiddle

end pieces

end Bytes

end BlitDevice

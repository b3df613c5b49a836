import BlitDevice.Proofs.BufferSizes
import BlitDevice.Vertex

/-!
# Texture coordinates by vertex

A channel is cut into coordinates of one vertex each, as many values as its width says. How many
vertices it covers, and what the coordinates of one of them are, is found out apart.

* `TexCoordChannel.fetch?`, `TexCoordChannel.count` — both, on words; they come to
  `TexCoordChannel.get?` and `TexCoordChannel.size`: `fetch?_eq`, `count_eq`.
* `TexCoordChannel.isSome_get?_iff` — the two agree but for channels without width. Such a channel
  covers no vertex and yet has coordinates of every vertex: `noCoordinates_everywhere`.
* `TexCoordChannel.size_uv`, `TexCoordChannel.get?_uv` — a channel of pairs has them in order.
* `coordinates_by_vertex` — all of it.
-/

set_option autoImplicit false

namespace BlitDevice

/-- A sum that 64 bits can hold. -/
def sum? (a b : Nat) : Option Nat := if a + b < 0x10000000000000000 then some (a + b) else none

theorem sum?_eq_some_iff {a b n : Nat} :
    sum? a b = some n ↔ a + b = n ∧ n < 0x10000000000000000 := by
  rw [sum?, Option.ite_none_right_eq_some, Option.some.injEq]
  constructor
  · rintro ⟨h, rfl⟩
    exact ⟨rfl, h⟩
  · rintro ⟨rfl, h⟩
    exact ⟨h, rfl⟩

namespace TexCoordChannel

variable {K : Type} {c : TexCoordChannel K} {i : Nat} {vs : List K}

/-! ## On words -/

/-- The values from `start` up to before `stop`, if the channel has all of them. -/
def between? (c : TexCoordChannel K) (start stop : Nat) : Option (List K) :=
  if start ≤ stop ∧ stop ≤ c.values.length then some ((c.values.drop start).take (stop - start))
  else none

/-- The coordinates of a vertex, if words hold where they start and end and the channel has all of
them. -/
def fetch? (c : TexCoordChannel K) (index : Nat) : Option (List K) := do
  let start ← product? index c.width
  let stop ← sum? start c.width
  c.between? start stop

/-- How many vertices the channel covers. The division asks for a width. -/
def count (c : TexCoordChannel K) : Checked Int :=
  if c.width = 0 then return 0 else euclidean .u64 c.values.length c.width

theorem get?_eq_some_iff : c.get? i = some vs ↔
    i * c.width + c.width ≤ c.values.length ∧
      (c.values.drop (i * c.width)).take c.width = vs := by
  rw [get?, Option.ite_none_right_eq_some, Option.some.injEq]

/-- **Coordinates are found on words.** What no word holds is past the values as well. -/
theorem fetch?_eq (hlength : c.values.length < 2 ^ 64) (i : Nat) : c.fetch? i = c.get? i := by
  refine Option.ext fun vs => ?_
  simp only [fetch?, between?, get?_eq_some_iff, bind, Option.bind_eq_some_iff,
    product?_eq_some_iff, sum?_eq_some_iff, Option.ite_none_right_eq_some, Option.some.injEq]
  constructor
  · rintro ⟨start, ⟨rfl, _⟩, stop, ⟨rfl, _⟩, ⟨_, hle⟩, hvs⟩
    rw [Nat.add_sub_cancel_left] at hvs
    exact ⟨hle, hvs⟩
  · rintro ⟨hle, hvs⟩
    refine ⟨_, ⟨rfl, by omega⟩, _, ⟨rfl, by omega⟩, ⟨Nat.le_add_right _ _, hle⟩, ?_⟩
    rwa [Nat.add_sub_cancel_left]

theorem count_eq (hlength : c.values.length < 2 ^ 64) : c.count = .ok (c.size : Int) := by
  unfold count size
  by_cases hwidth : c.width = 0
  · rw [if_pos hwidth, if_pos hwidth]
    rfl
  · have hle : c.values.length / c.width ≤ c.values.length := Nat.div_le_self _ _
    rw [if_neg hwidth, if_neg hwidth, euclidean, if_pos (by omega), ← Int.natCast_ediv]
    exact Word.hold_natCast (by omega)

/-! ## Which vertices have coordinates -/

/-- **A vertex has coordinates if it is covered**, or if there is no width. -/
theorem isSome_get?_iff : (c.get? i).isSome = true ↔ c.width = 0 ∨ i < c.size := by
  have hsome : (c.get? i).isSome = true ↔ i * c.width + c.width ≤ c.values.length := by
    simp only [Option.isSome_iff_exists, get?_eq_some_iff, exists_and_left, exists_eq', and_true]
  rw [hsome, size]
  by_cases hwidth : c.width = 0
  · rw [hwidth]
    omega
  · have hpos : 0 < c.width := Nat.pos_of_ne_zero hwidth
    rw [if_neg hwidth, ← Nat.add_one_mul, ← Nat.le_div_iff_mul_le hpos]
    omega

theorem get?_of_lt_size (hi : i < c.size) :
    c.get? i = some ((c.values.drop (i * c.width)).take c.width) := by
  obtain ⟨vs, hvs⟩ := Option.isSome_iff_exists.mp (isSome_get?_iff.mpr (Or.inr hi))
  rw [hvs, (get?_eq_some_iff.mp hvs).2]

/-- Coordinates are as many values as the width says, from those of the vertex on. -/
theorem values_of_get? (h : c.get? i = some vs) :
    vs.length = c.width ∧ ∀ k < c.width, vs[k]? = c.values[i * c.width + k]? := by
  obtain ⟨hle, rfl⟩ := get?_eq_some_iff.mp h
  constructor
  · rw [List.length_take, List.length_drop]
    omega
  · intro k hk
    rw [List.getElem?_take_of_lt hk, List.getElem?_drop]

/-- A channel is empty if no vertex that a word counts has coordinates, or if there is no width. -/
theorem isEmpty_iff : c.isEmpty = true ↔ c.width = 0 ∨ ∀ i < 2 ^ 64, c.get? i = none := by
  rw [isEmpty, beq_iff_eq]
  constructor
  · intro hsize
    refine or_iff_not_imp_left.mpr fun hwidth i _ => ?_
    rw [← Option.not_isSome_iff_eq_none, isSome_get?_iff]
    omega
  · rintro (hwidth | hnone)
    · rw [size, if_pos hwidth]
    · have hfirst : ¬ (c.get? 0).isSome = true := by
        rw [hnone 0 (by decide)]
        exact Bool.false_ne_true
      rw [isSome_get?_iff] at hfirst
      omega

/-! ## Pairs -/

/-- The values of a channel of pairs. -/
theorem values_uv_cons (p : K × K) (pairs : List (K × K)) :
    (uv (p :: pairs)).values = p.1 :: p.2 :: (uv pairs).values := rfl

theorem length_values_uv (pairs : List (K × K)) : (uv pairs).values.length = pairs.length * 2 := by
  induction pairs with
  | nil => rfl
  | cons p pairs ih =>
    rw [values_uv_cons, List.length_cons, List.length_cons, ih, List.length_cons]
    omega

/-- A channel of pairs covers as many vertices as there are pairs. -/
theorem size_uv (pairs : List (K × K)) : (uv pairs).size = pairs.length := by
  have hwidth : (uv pairs).width = 2 := rfl
  rw [size, hwidth, if_neg (by decide), length_values_uv, Nat.mul_div_cancel _ (by decide)]

/-- **The coordinates of a vertex are its pair.** -/
theorem get?_uv (pairs : List (K × K)) (i : Nat) :
    (uv pairs).get? i = pairs[i]?.map fun (u, v) => [u, v] := by
  induction pairs generalizing i with
  | nil =>
    have hwidth : (uv ([] : List (K × K))).width = 2 := rfl
    rw [List.getElem?_nil, Option.map_none, ← Option.not_isSome_iff_eq_none, isSome_get?_iff,
      size_uv, hwidth]
    simp
  | cons p pairs ih =>
    cases i with
    | zero =>
      rw [get?_of_lt_size (by rw [size_uv]; exact Nat.zero_lt_succ _)]
      rfl
    | succ i =>
      have hwidth : (uv (p :: pairs)).width = 2 ∧ (uv pairs).width = 2 := ⟨rfl, rfl⟩
      have hdrop : (uv (p :: pairs)).values.drop ((i + 1) * 2) =
          (uv pairs).values.drop (i * 2) := by
        rw [values_uv_cons, Nat.add_one_mul]
        rfl
      have hfits : (i + 1) * 2 + 2 ≤ (uv (p :: pairs)).values.length ↔
          i * 2 + 2 ≤ (uv pairs).values.length := by
        rw [length_values_uv, length_values_uv, List.length_cons]
        omega
      rw [List.getElem?_cons_succ, ← ih i, get?, get?, hwidth.1, hwidth.2, hdrop]
      exact if_congr hfits rfl rfl

/-! ## All of a channel -/

/-- How the coordinates of a channel are found. On words, both readings come to what they describe
and nothing stops them. A vertex has coordinates if the channel covers it, and these are as many
values as the width says, from those of the vertex on; those of all vertices that are covered are,
one behind the other, the values that they take in all. Without width no vertex is covered, and each
has coordinates of no values. -/
structure ReadByVertex (c : TexCoordChannel K) : Prop where
  fetch?_eq : ∀ i, c.fetch? i = c.get? i
  count_eq : c.count = .ok (c.size : Int)
  isSome_iff : ∀ i, (c.get? i).isSome = true ↔ c.width = 0 ∨ i < c.size
  values : ∀ i vs, c.get? i = some vs →
    vs.length = c.width ∧ ∀ k < c.width, vs[k]? = c.values[i * c.width + k]?
  pieces : ∃ pieces : List (List K), (List.range c.size).map c.get? = pieces.map some ∧
    pieces.flatten = c.values.take (c.size * c.width)
  isEmpty_iff : c.isEmpty = true ↔ c.width = 0 ∨ ∀ i < 2 ^ 64, c.get? i = none
  widthless : c.width = 0 → c.size = 0 ∧ ∀ i, c.get? i = some []

/-- The coordinates of all vertices, one behind the other. -/
theorem exists_pieces (c : TexCoordChannel K) :
    ∃ pieces : List (List K), (List.range c.size).map c.get? = pieces.map some ∧
      pieces.flatten = c.values.take (c.size * c.width) := by
  refine ⟨(List.range c.size).map fun i => (c.values.drop (i * c.width)).take c.width, ?_, ?_⟩
  · rw [List.map_map]
    exact List.map_congr_left fun i hi => get?_of_lt_size (List.mem_range.mp hi)
  · rw [← List.flatMap_def, flatMap_take_drop]

theorem get?_of_widthless (hwidth : c.width = 0) (i : Nat) : c.get? i = some [] := by
  obtain ⟨vs, hvs⟩ := Option.isSome_iff_exists.mp (isSome_get?_iff (i := i).mpr (Or.inl hwidth))
  have hlength : vs.length = 0 := (values_of_get? hvs).1.trans hwidth
  rw [hvs, List.eq_nil_of_length_eq_zero hlength]

theorem readByVertex (hlength : c.values.length < 2 ^ 64) : c.ReadByVertex where
  fetch?_eq := c.fetch?_eq hlength
  count_eq := c.count_eq hlength
  isSome_iff _ := isSome_get?_iff
  values _ _ := values_of_get?
  pieces := c.exists_pieces
  isEmpty_iff := isEmpty_iff
  widthless hwidth := ⟨if_pos hwidth, get?_of_widthless hwidth⟩

end TexCoordChannel

/-- **Coordinates are found by their vertex.** For every channel, of any width and with any values
that memory can hold, a vertex has coordinates exactly if the channel covers it, unless the channel
has no width. -/
theorem coordinates_by_vertex {K : Type} (c : TexCoordChannel K)
    (hlength : c.values.length < 2 ^ 64) :
    c.ReadByVertex ∧ ∀ pairs : List (K × K),
      (TexCoordChannel.uv pairs).size = pairs.length ∧
      ∀ i, (TexCoordChannel.uv pairs).get? i = pairs[i]?.map fun (u, v) => [u, v] :=
  ⟨c.readByVertex hlength, fun pairs =>
    ⟨TexCoordChannel.size_uv pairs, TexCoordChannel.get?_uv pairs⟩⟩

/-- Three values for each of two vertices, and one more. -/
def triples : TexCoordChannel Float32 := ⟨3, [1, 2, 3, 4, 5, 6, 7]⟩

/-- The last whole triple is found, the one that is cut off is not, nor one that would start past all
words. -/
theorem triples_by_vertex :
    triples.values.length < 2 ^ 64 ∧ triples.count = .ok 2 ∧ triples.fetch? 1 = some [4, 5, 6] ∧
    triples.fetch? 2 = none ∧ triples.fetch? (2 ^ 64 - 1) = none ∧ triples.isEmpty = false ∧
    (∃ pieces : List (List Float32), [triples.get? 0, triples.get? 1] = pieces.map some ∧
      pieces.flatten = [1, 2, 3, 4, 5, 6]) ∧
    (TexCoordChannel.uv [((1 : Float32), (2 : Float32)), (3, 4)]).get? 1 = some [3, 4] := by
  have hlength : triples.values.length < 2 ^ 64 := by decide
  obtain ⟨h, huv⟩ := coordinates_by_vertex triples hlength
  refine ⟨hlength, h.count_eq, (h.fetch?_eq 1).trans rfl, (h.fetch?_eq 2).trans rfl,
    (h.fetch?_eq _).trans rfl, ?_, h.pieces, (huv _).2 1⟩
  rw [← Bool.not_eq_true, h.isEmpty_iff]
  rintro (hwidth | hnone)
  · exact absurd hwidth (by decide)
  · cases hnone 0 (by decide)

/-- The channel without width and values. -/
def noCoordinates : TexCoordChannel Float32 := ⟨0, []⟩

/-- It covers no vertex and is empty, and still has coordinates of the first vertex. -/
theorem noCoordinates_everywhere :
    noCoordinates.size = 0 ∧ noCoordinates.isEmpty = true ∧ noCoordinates.get? 0 = some [] ∧
    ¬ ((noCoordinates.get? 0).isSome = true ↔ 0 < noCoordinates.size) ∧
    ¬ (noCoordinates.isEmpty = true ↔ ∀ i < 2 ^ 64, noCoordinates.get? i = none) := by
  refine ⟨rfl, rfl, rfl, by decide, fun h => ?_⟩
  have hnone := h.mp rfl 0 (by decide)
  cases hnone

end BlitDevice

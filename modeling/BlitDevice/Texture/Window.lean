import BlitDevice.Size

/-!
# Texels and windows

* `Texel` — a column and a row.
* `Window` — a block of columns and rows.
* `Window.texels` — its texels, row by row; `Window.fold` runs over them: `Window.fold_eq`.
-/

set_option autoImplicit false

namespace BlitDevice

/-- A pixel's place: column and row, counted from the top left. -/
structure Texel where
  x : Nat
  y : Nat
  deriving DecidableEq, Repr

/-- The columns from `left` up to before `right` and the rows from `top` up to before `bottom`. -/
structure Window where
  left : Nat
  right : Nat
  top : Nat
  bottom : Nat
  deriving DecidableEq, Repr

namespace Window

/-- All of a texture. -/
def covering (s : Size) : Window := ⟨0, s.cols, 0, s.rows⟩

def columns (w : Window) : List Nat := List.range' w.left (w.right - w.left)

/-- The rows; without columns there are none. -/
def rows (w : Window) : List Nat :=
  if w.left < w.right then List.range' w.top (w.bottom - w.top) else []

/-- The texels, row by row and left to right. -/
def texels (w : Window) : List Texel := w.rows.flatMap fun y => w.columns.map fun x => ⟨x, y⟩

/-- Runs over the texels, row by row and left to right. -/
def fold {α : Type} (w : Window) (f : α → Texel → α) (a : α) : α :=
  w.rows.foldl (fun a y => w.columns.foldl (fun a x => f a ⟨x, y⟩) a) a

theorem fold_eq {α : Type} (w : Window) (f : α → Texel → α) (a : α) :
    w.fold f a = w.texels.foldl f a := by
  rw [fold, texels, List.foldl_flatMap]
  simp only [List.foldl_map]

theorem mem_texels {w : Window} {p : Texel} :
    p ∈ w.texels ↔ (w.left ≤ p.x ∧ p.x < w.right) ∧ (w.top ≤ p.y ∧ p.y < w.bottom) := by
  obtain ⟨x, y⟩ := p
  simp only [texels, rows, columns, List.mem_flatMap, List.mem_map, List.mem_range'_1,
    Texel.mk.injEq]
  constructor
  · rintro ⟨y', hy, x', hx, rfl, rfl⟩
    split at hy
    · rw [List.mem_range'_1] at hy; omega
    · cases hy
  · intro h
    exact ⟨y, by rw [if_pos (by omega), List.mem_range'_1]; omega, x, by omega, rfl, rfl⟩

end Window

end BlitDevice

import BlitDevice.Texture.Basic

/-!
# Painting

* `Texture.paint` — gives every pixel of a window a new value, computed from its texel and the
  value it has. The rest of the buffer stays: `Texture.size_paintBytes` and the lemmas on
  `Bytes.overwrite`.
* `Texture.fill` — the same value everywhere in level 0.
-/

set_option autoImplicit false

namespace BlitDevice.Texture

/-- Writes one pixel. A new value never reaches past the pixel it is for. -/
def paintTexel (t : Texture) (f : Texel → List UInt8 → List UInt8) (b : Bytes) (p : Texel) :
    Bytes :=
  let old := b.slice (t.offset p) t.bytesPerPixel
  b.overwrite (t.offset p) ((f p old).take t.bytesPerPixel)

/-- Writes the pixels of a window, row by row. -/
def paintBytes (t : Texture) (w : Window) (f : Texel → List UInt8 → List UInt8) : Bytes :=
  w.fold (t.paintTexel f) t.bytes

theorem size_foldl_paintTexel (t : Texture) (f : Texel → List UInt8 → List UInt8) (ps : List Texel)
    (b : Bytes) : (ps.foldl (t.paintTexel f) b).size = b.size := by
  induction ps generalizing b with
  | nil => rfl
  | cons p ps ih => rw [List.foldl_cons, ih, paintTexel, Bytes.size_overwrite]

@[simp] theorem size_paintBytes (t : Texture) (w : Window) (f : Texel → List UInt8 → List UInt8) :
    (t.paintBytes w f).size = t.bytes.size := by
  rw [paintBytes, Window.fold_eq, size_foldl_paintTexel]

/-- Gives every pixel of a window a new value. -/
def paint (t : Texture) (w : Window) (f : Texel → List UInt8 → List UInt8) : Texture :=
  t.withBytes (t.paintBytes w f) (t.size_paintBytes w f)

/-- Gives every pixel of level 0 the same value, if it has the length of a pixel. -/
def fill (t : Texture) (px : List UInt8) : Texture :=
  if px.length = t.bytesPerPixel then t.paint (Window.covering t.size) (fun _ _ => px) else t

end BlitDevice.Texture

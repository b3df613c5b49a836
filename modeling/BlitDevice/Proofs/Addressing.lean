import BlitDevice.Memory
import BlitDevice.Proofs.BufferSizes
import BlitDevice.Proofs.Repaint

/-!
# Pixels by their address

* `Texture.Tiled` — the pixels of a texture stand one behind the other, row by row, and fill level
  0: `Texture.tiled`.
* `Indexing` — computations on a texture that a fault can stop. `readPixel` and `writePixel` find a
  pixel by its address on words; `runOn_readPixel` and `runOn_writePixel` say that they come to
  `Texture.get?` and `Texture.set?`.
* `PixelAccess`, `Texture.accessAll` — reads and writes one after the other. `Texture.Accessed` is
  what they leave: `Texture.accessed`.
* `Texture.generate_eq` — what a rule for each pixel comes to, whatever it gives.
* `pixels_addressed_apart` — all of it.
-/

set_option autoImplicit false

namespace BlitDevice

/-! ## The places of pixels -/

/-- Ranges of one length, one behind the other, are one range. -/
theorem flatMap_range' (count n : Nat) :
    (List.range n).flatMap (fun i => List.range' (i * count) count) = List.range (n * count) := by
  induction n with
  | zero => rw [Nat.zero_mul]; rfl
  | succ n ih =>
    rw [List.range_succ, List.flatMap_append, ih, List.flatMap_singleton, Nat.add_one_mul,
      List.range_add, List.range'_eq_map_range]

namespace Texture

variable {t u : Texture} {p q : Texel}

/-- The places in the buffer that a pixel takes. -/
def places (t : Texture) (p : Texel) : List Nat := List.range' (t.offset p) t.bytesPerPixel

theorem mem_places {i : Nat} :
    i ∈ t.places p ↔ t.offset p ≤ i ∧ i < t.offset p + t.bytesPerPixel :=
  List.mem_range'_1

/-- Row by row, what depends on where a pixel starts only steps from pixel to pixel. -/
theorem flatMap_offset {α : Type} (t : Texture) (g : Nat → List α) :
    (Window.covering t.size).texels.flatMap (fun p => g (t.offset p)) =
      (List.range (t.size.cols * t.size.rows)).flatMap fun i => g (i * t.bytesPerPixel) := by
  rw [← List.flatMap_map t.offset, map_offset_texels, List.flatMap_map]

/-- Pixels stand apart inside level 0, and taken row by row they are all of it. -/
structure Tiled (t : Texture) : Prop where
  range_eq : ∀ p, t.contains p = true →
    t.texelRange p = .ok ((t.offset p : Int), (t.offset p : Int) + t.bytesPerPixel)
  apart : ∀ p q, t.contains p = true → t.contains q = true → p ≠ q →
    (t.places p).Disjoint (t.places q)
  count : ∀ p, t.contains p = true →
    (t.places p).length = t.bytesPerPixel ∧ (t.pixel p).length = t.bytesPerPixel
  inside : ∀ p, t.contains p = true → ∀ i ∈ t.places p, i < t.level0Size
  places_eq : (Window.covering t.size).texels.flatMap t.places = List.range t.level0Size
  pixels_eq : (Window.covering t.size).texels.flatMap t.pixel = t.level0.toList

theorem tiled (t : Texture) : t.Tiled where
  range_eq _ hp := texelRange_eq hp
  apart p q hp hq hne i hi hi' := by
    rw [mem_places] at hi hi'
    rcases offset_disjoint hp hq hne with h | h <;> omega
  count p hp := ⟨List.length_range', length_pixel hp⟩
  inside p hp i hi := by
    have hend := offset_add_le hp
    rw [mem_places] at hi
    omega
  places_eq := by
    have h := t.flatMap_offset fun start => List.range' start t.bytesPerPixel
    rw [flatMap_range', ← level0Size_eq] at h
    exact h
  pixels_eq := by
    have h := t.flatMap_offset fun start => t.bytes.slice start t.bytesPerPixel
    rw [Bytes.flatMap_slice, ← level0Size_eq] at h
    rw [level0, Array.toList_extract, List.extract_eq_take_drop, List.drop_zero, Nat.sub_zero]
    exact h

/-! ## One pixel -/

variable {px : List UInt8}

/-- The pixels that can be set: those of the texture, to as many bytes as they have. -/
theorem set?_eq_some_iff : t.set? q px = some u ↔
    (t.contains q = true ∧ px.length = t.bytesPerPixel) ∧
      t.withBytes (t.bytes.overwrite (t.offset q) px) (Bytes.size_overwrite _ _ _) = u := by
  rw [set?, Option.ite_none_right_eq_some, Bool.and_eq_true, beq_iff_eq, Option.some.injEq]

theorem set?_eq_some (hq : t.contains q = true) (hpx : px.length = t.bytesPerPixel) :
    t.set? q px =
      some (t.withBytes (t.bytes.overwrite (t.offset q) px) (Bytes.size_overwrite _ _ _)) :=
  set?_eq_some_iff.mpr ⟨⟨hq, hpx⟩, rfl⟩

theorem set?_eq_none (h : ¬ (t.contains q = true ∧ px.length = t.bytesPerPixel)) :
    t.set? q px = none :=
  Option.eq_none_iff_forall_ne_some.mpr fun _ hu => h (set?_eq_some_iff.mp hu).1

/-- Setting a pixel writes pixels of level 0 and nothing else. -/
theorem repainted_set? (h : t.set? q px = some u) : t.Repainted u := by
  obtain ⟨⟨hq, hpx⟩, rfl⟩ := set?_eq_some_iff.mp h
  refine ⟨rfl, fun i hi => ?_⟩
  have hend := offset_add_le hq
  rw [bytes_withBytes, Bytes.getElem?_overwrite, if_neg (by omega)]

/-- **What setting a pixel does to a pixel**: the one that is set has the new bytes, and any other
has its own. -/
theorem pixel_set? (h : t.set? q px = some u) (hp : t.contains p = true) :
    u.pixel p = if q = p then px else t.pixel p := by
  obtain ⟨⟨hq, hpx⟩, rfl⟩ := set?_eq_some_iff.mp h
  have hkeeps : t.KeepsLength fun _ _ => px := fun _ _ _ => hpx
  have hwritten := slice_paintTexel hkeeps rfl hp hq
  rwa [paintTexel, List.take_of_length_le hpx.le] at hwritten

end Texture

/-! ## Reading and writing -/

/-- A computation on a texture that a fault can stop. What it wrote until then stays written. -/
abbrev Indexing (α : Type) := ExceptT Fault (StateM Texture) α

namespace Indexing

variable {α β : Type}

/-- What the computation comes to and the texture it leaves. -/
def runOn (x : Indexing α) (t : Texture) : Checked α × Texture := x.run t

@[simp] theorem runOn_pure (a : α) (t : Texture) : runOn (pure a) t = (.ok a, t) := rfl

@[simp] theorem runOn_bind (x : Indexing α) (f : α → Indexing β) (t : Texture) :
    runOn (x >>= f) t =
      match x.runOn t with
      | (.ok a, u) => (f a).runOn u
      | (.error fault, u) => (.error fault, u) := by
  change (ExceptT.bindCont f (x.run t).1) (x.run t).2 = _
  rw [runOn]
  rcases x.run t with ⟨fault | a, u⟩
  · rfl
  · rfl

@[simp] theorem runOn_get (t : Texture) : runOn get t = (.ok t, t) := rfl

@[simp] theorem runOn_modify (f : Texture → Texture) (t : Texture) :
    runOn (modify f) t = (.ok (), f t) := rfl

@[simp] theorem runOn_checked (c : Checked α) (t : Texture) :
    runOn (liftM c : Indexing α) t = (c, t) := rfl

/-- Goes on only if it holds. -/
def require (c : Prop) [Decidable c] : Indexing Unit :=
  if c then pure () else throw .outOfBounds

theorem runOn_require {c : Prop} [Decidable c] (h : c) (t : Texture) :
    (require c).runOn t = (.ok (), t) := by
  rw [require, if_pos h]
  rfl

theorem runOn_require_not {c : Prop} [Decidable c] (h : ¬ c) (t : Texture) :
    (require c).runOn t = (.error .outOfBounds, t) := by
  rw [require, if_neg h]
  rfl

/-- Where the bytes of a pixel start and end. Its texel has to be one of the texture's, and the
bytes have to be in the buffer. -/
def locate (p : Texel) : Indexing (Int × Int) := do
  let t ← get
  require (t.contains p = true)
  let range ← t.texelRange p
  require (range.1 ≤ range.2 ∧ range.2 ≤ t.bytes.size)
  return range

/-- The bytes of a pixel. -/
def readPixel (p : Texel) : Indexing (List UInt8) := do
  let range ← locate p
  return (← get).bytes.slice range.1.toNat (range.2 - range.1).toNat

/-- Writes a pixel, which takes as many bytes as it has. -/
def writePixel (p : Texel) (px : List UInt8) : Indexing Unit := do
  let range ← locate p
  require ((px.length : Int) = range.2 - range.1)
  modify fun t => t.withBytes (t.bytes.overwrite range.1.toNat px) (Bytes.size_overwrite _ _ _)

variable {t : Texture} {p : Texel} {px : List UInt8}

theorem runOn_locate (hp : t.contains p = true) :
    (locate p).runOn t = (.ok ((t.offset p : Int), (t.offset p : Int) + t.bytesPerPixel), t) := by
  have hend := Texture.offset_add_le hp
  have hsize := t.level0Size_le
  have hrange : (t.offset p : Int) ≤ (t.offset p : Int) + t.bytesPerPixel ∧
      (t.offset p : Int) + t.bytesPerPixel ≤ t.bytes.size := by omega
  simp only [locate, runOn_bind, runOn_get, runOn_checked, runOn_pure, runOn_require hp,
    Texture.texelRange_eq hp, runOn_require hrange]

/-- Outside the texture no address is computed. -/
theorem runOn_locate_outside (hp : t.contains p = false) :
    (locate p).runOn t = (.error .outOfBounds, t) := by
  have hp' : ¬ t.contains p = true := by rw [hp]; decide
  simp only [locate, runOn_bind, runOn_get, runOn_require_not hp']

/-- **Reading comes to the bytes of the pixel**, or to a fault if there is no such pixel. -/
theorem runOn_readPixel (p : Texel) (t : Texture) :
    (readPixel p).runOn t = ((t.get? p).elim (.error .outOfBounds) .ok, t) := by
  cases hp : t.contains p with
  | false =>
    have hnone : t.get? p = none := by rw [Texture.get?, hp]; rfl
    simp only [readPixel, runOn_bind, runOn_locate_outside hp, hnone, Option.elim_none]
  | true =>
    have hsome : t.get? p = some (t.pixel p) := if_pos hp
    simp only [readPixel, runOn_bind, runOn_locate hp, runOn_get, runOn_pure, hsome,
      Option.elim_some, Texture.pixel, Int.toNat_natCast, add_sub_cancel_left]

/-- **Writing comes to the texture with that pixel**, or to a fault that leaves the texture alone if
there is no such pixel or the bytes are not as many. -/
theorem runOn_writePixel (p : Texel) (px : List UInt8) (t : Texture) :
    (writePixel p px).runOn t =
      (t.set? p px).elim (.error .outOfBounds, t) fun u => (.ok (), u) := by
  cases hp : t.contains p with
  | false =>
    have hnone : t.set? p px = none := Texture.set?_eq_none fun h => by
      rw [hp] at h
      cases h.1
    simp only [writePixel, runOn_bind, runOn_locate_outside hp, hnone, Option.elim_none]
  | true =>
    by_cases hpx : px.length = t.bytesPerPixel
    · have hwhole : (px.length : Int) =
          (t.offset p : Int) + t.bytesPerPixel - (t.offset p : Int) := by omega
      simp only [writePixel, runOn_bind, runOn_locate hp, runOn_require hwhole, runOn_modify,
        Texture.set?_eq_some hp hpx, Option.elim_some, Int.toNat_natCast]
    · have hpart : ¬ (px.length : Int) =
          (t.offset p : Int) + t.bytesPerPixel - (t.offset p : Int) := by omega
      have hnone : t.set? p px = none := Texture.set?_eq_none fun h => hpx h.2
      simp only [writePixel, runOn_bind, runOn_locate hp, runOn_require_not hpart, hnone,
        Option.elim_none]

end Indexing

open Indexing

/-! ## Accesses one after the other -/

/-- One access to a pixel. -/
inductive PixelAccess where
  | read (p : Texel)
  | write (p : Texel) (px : List UInt8)
  deriving DecidableEq, Repr

namespace PixelAccess

def texel : PixelAccess → Texel
  | read p | write p _ => p

/-- Carries the access out. What a read comes to is the bytes of the pixel. -/
def carryOut : PixelAccess → Indexing (List UInt8)
  | read p => readPixel p
  | write p px => do
    writePixel p px
    return px

/-- **An access outside the texture is stopped**, and nothing changes. -/
theorem runOn_carryOut_outside {t : Texture} {a : PixelAccess} (ha : t.contains a.texel = false) :
    a.carryOut.runOn t = (.error .outOfBounds, t) := by
  cases a with
  | read q =>
    have hq : t.contains q = false := ha
    simp only [carryOut, readPixel, runOn_bind, runOn_locate_outside hq]
  | write q px =>
    have hq : t.contains q = false := ha
    simp only [carryOut, writePixel, runOn_bind, runOn_locate_outside hq]

end PixelAccess

namespace Texture

variable {t u : Texture} {p : Texel}

/-- The texture an access leaves, also one that a fault stopped. -/
def access (t : Texture) (a : PixelAccess) : Texture := (a.carryOut.runOn t).2

def accessAll (t : Texture) (as : List PixelAccess) : Texture := as.foldl access t

/-- The bytes an access gives a pixel: those that are written there, if they are as many as the
pixel has. -/
def written? (t : Texture) (p : Texel) : PixelAccess → Option (List UInt8)
  | .read _ => none
  | .write q px => if q = p ∧ px.length = t.bytesPerPixel then some px else none

theorem access_read (t : Texture) (q : Texel) : t.access (.read q) = t := by
  rw [access, PixelAccess.carryOut, runOn_readPixel]

theorem access_write (t : Texture) (q : Texel) (px : List UInt8) :
    t.access (.write q px) = (t.set? q px).getD t := by
  simp only [access, PixelAccess.carryOut, runOn_bind, runOn_writePixel]
  cases t.set? q px with
  | none => rfl
  | some u => rfl

/-- **One access**: it changes pixels of level 0 at most, and of those the one it writes, if it
writes one. -/
theorem repainted_access (t : Texture) (a : PixelAccess) : t.Repainted (t.access a) := by
  cases a with
  | read q => rw [access_read]; exact Repainted.refl t
  | write q px =>
    rw [access_write]
    cases h : t.set? q px with
    | none => exact Repainted.refl t
    | some u => exact repainted_set? h

theorem pixel_access (a : PixelAccess) (hp : t.contains p = true) :
    (t.access a).pixel p = (t.written? p a).getD (t.pixel p) := by
  cases a with
  | read q => rw [access_read]; rfl
  | write q px =>
    rw [access_write, written?]
    by_cases hfits : t.contains q = true ∧ px.length = t.bytesPerPixel
    · have hset := set?_eq_some hfits.1 hfits.2
      rw [hset, Option.getD_some, pixel_set? hset hp]
      by_cases hqp : q = p
      · rw [if_pos hqp, if_pos ⟨hqp, hfits.2⟩, Option.getD_some]
      · rw [if_neg hqp, if_neg fun h => hqp h.1, Option.getD_none]
    · -- Passed over, it is none to `p` either: `p` is a texel of the texture.
      have hother : ¬ (q = p ∧ px.length = t.bytesPerPixel) := by
        rintro ⟨rfl, hpx⟩
        exact hfits ⟨hp, hpx⟩
      rw [set?_eq_none hfits, if_neg hother, Option.getD_none, Option.getD_none]

theorem repainted_accessAll (t : Texture) (as : List PixelAccess) : t.Repainted (t.accessAll as) :=
  List.foldlRecOn as access (Repainted.refl t) fun u hu a _ => hu.trans (u.repainted_access a)

/-- Textures of one configuration are written alike. -/
theorem written?_of_config (h : u.config = t.config) : u.written? p = t.written? p := by
  funext a
  cases a with
  | read q => rfl
  | write q px => rw [written?, written?, bytesPerPixel_of_config h]

/-- **After any accesses a pixel holds what was last written to it**, or what it held before. -/
theorem pixel_accessAll (as : List PixelAccess) (hp : t.contains p = true) :
    (t.accessAll as).pixel p = (as.filterMap (t.written? p)).getLast?.getD (t.pixel p) := by
  have hstep : ∀ u a, t.Repainted u →
      t.Repainted (u.access a) ∧ (u.access a).pixel p = (t.written? p a).getD (u.pixel p) := by
    -- `written?` looks at the texture before all accesses, which has the format of every later one.
    intro u a hu
    have hp' : u.contains p = true := (contains_of_config hu.config_eq p).trans hp
    refine ⟨hu.trans (u.repainted_access a), ?_⟩
    rw [pixel_access a hp', written?_of_config hu.config_eq]
  exact (read_foldl (fun u => u.pixel p) hstep as t (Repainted.refl t)).2

/-- What accesses to the pixels of a texture leave. Reads and writes come to the pixel the texture
has and to the texture with that pixel set. A pixel reads as the bytes that were last written to it,
or as before; the bytes past level 0 are the old ones. A write of as many bytes as a pixel has goes
through. An access outside the texture is stopped, as is a write of other bytes, and changes
nothing. -/
structure Accessed (t : Texture) (as : List PixelAccess) (u : Texture) : Prop where
  repainted : t.Repainted u
  get?_eq : ∀ p, (readPixel p).runOn u = ((u.get? p).elim (.error .outOfBounds) .ok, u)
  set?_eq : ∀ p px, (writePixel p px).runOn u =
    (u.set? p px).elim (.error .outOfBounds, u) fun v => (.ok (), v)
  read_eq : ∀ p, t.contains p = true →
    (readPixel p).runOn u = (.ok ((as.filterMap (t.written? p)).getLast?.getD (t.pixel p)), u)
  write_ok : ∀ p px, t.contains p = true → px.length = t.bytesPerPixel →
    ((writePixel p px).runOn u).1 = .ok ()
  outside : ∀ a : PixelAccess, t.contains a.texel = false →
    a.carryOut.runOn u = (.error .outOfBounds, u)
  misfit : ∀ p px, px.length ≠ t.bytesPerPixel →
    (writePixel p px).runOn u = (.error .outOfBounds, u)

theorem accessed (t : Texture) (as : List PixelAccess) : t.Accessed as (t.accessAll as) := by
  have hrepainted := t.repainted_accessAll as
  have hcontains := contains_of_config hrepainted.config_eq
  have hperPixel := bytesPerPixel_of_config hrepainted.config_eq
  refine ⟨hrepainted, fun p => runOn_readPixel p _, fun p px => runOn_writePixel p px _,
    fun p hp => ?_, fun p px hp hpx => ?_, fun a ha => ?_, fun p px hpx => ?_⟩
  · have hsome : (t.accessAll as).get? p = some ((t.accessAll as).pixel p) :=
      if_pos ((hcontains p).trans hp)
    rw [runOn_readPixel, hsome, Option.elim_some, pixel_accessAll as hp]
  · rw [runOn_writePixel, set?_eq_some ((hcontains p).trans hp) (hpx.trans hperPixel.symm)]
    rfl
  · exact PixelAccess.runOn_carryOut_outside ((hcontains a.texel).trans ha)
  · rw [runOn_writePixel, set?_eq_none fun h => hpx (h.2.trans hperPixel)]
    rfl

/-! ## Textures from a rule -/

section generate

variable {size : Size} {format : PixelFormat} {rule : Texel → List UInt8}

/-- **A rule makes a texture exactly if it gives as many bytes as there are**, of an uncompressed
format and a size that 64 bits can address. -/
theorem generate_eq (hplain : format.isCompressed = false)
    (hfits : format.bytesPerPixel * size.cols * size.rows ≤ 2 ^ 64 - 1)
    (rule : Texel → List UInt8) :
    (generate size format rule).map (fun t => (t.config, t.bytes.toList)) =
      let n := format.bytesPerPixel * size.cols * size.rows
      let given := (Window.covering size).texels.flatMap rule
      if given.length = n then .ok ({ size, format }, given)
      else .error (.invalidInitialData n given.length) := by
  have hcount := byteCount_of_fits hplain hfits
  -- The bytes get a name first: creating asks for their number only, not how they came about.
  obtain ⟨bytes, hbytes⟩ : ∃ bytes : Bytes, bytes =
      (Window.covering size).fold (fun b p => b.appendList (rule p)) #[] := ⟨_, rfl⟩
  have hlist : bytes.toList = (Window.covering size).texels.flatMap rule := by
    rw [hbytes, Window.toList_fold_appendList]
  rw [generate, hcount]
  dsimp only
  rw [← hbytes, ← hlist, Array.length_toList]
  have hcreate : create { size, format } (some bytes) = _ := create_of_byteCount hcount _
  rw [hcreate]
  dsimp only
  by_cases hsize : bytes.size = format.bytesPerPixel * size.cols * size.rows
  · rw [dif_pos hsize, if_pos hsize]
    rfl
  · rw [dif_neg hsize, if_neg hsize]
    rfl

/-- A rule that gives as many bytes as a pixel has for each pixel makes a texture of those pixels. -/
theorem exists_generate (hplain : format.isCompressed = false)
    (hfits : format.bytesPerPixel * size.cols * size.rows ≤ 2 ^ 64 - 1)
    (hrule : ∀ p ∈ (Window.covering size).texels, (rule p).length = format.bytesPerPixel) :
    ∃ u, generate size format rule = .ok u ∧ u.config = { size, format } ∧
      ∀ p, u.contains p = true → u.pixel p = rule p := by
  have hgenerate := generate_eq hplain hfits rule
  have hlength : ((Window.covering size).texels.flatMap rule).length =
      format.bytesPerPixel * size.cols * size.rows := by
    rw [Bytes.length_flatMap_pieces hrule, Window.length_texels, Nat.mul_comm, Nat.mul_assoc]
  dsimp only at hgenerate
  rw [if_pos hlength] at hgenerate
  cases hu : generate size format rule with
  | error e => rw [hu] at hgenerate; cases hgenerate
  | ok u =>
    rw [hu] at hgenerate
    obtain ⟨hconfig, hbytes⟩ := Prod.mk.inj (Except.ok.inj hgenerate)
    have hsize : u.size = size := congrArg TextureConfig.size hconfig
    have hformat : u.format = format := congrArg TextureConfig.format hconfig
    refine ⟨u, rfl, hconfig, fun p hp => ?_⟩
    rw [← hsize] at hbytes hrule
    rw [← hformat] at hrule
    exact Bytes.slice_pieces hbytes hrule (Window.getElem?_texels hp)

/-- A rule makes no texture exactly if it gives another number of bytes than there are. -/
theorem generate_eq_error_iff (hplain : format.isCompressed = false)
    (hfits : format.bytesPerPixel * size.cols * size.rows ≤ 2 ^ 64 - 1) :
    generate size format rule = .error (.invalidInitialData
        (format.bytesPerPixel * size.cols * size.rows)
        ((Window.covering size).texels.map fun p => (rule p).length).sum) ↔
      format.bytesPerPixel * size.cols * size.rows ≠
        ((Window.covering size).texels.map fun p => (rule p).length).sum := by
  have hgenerate := generate_eq hplain hfits rule
  dsimp only at hgenerate
  rw [List.length_flatMap] at hgenerate
  constructor
  · intro herror heq
    rw [herror, if_pos heq.symm] at hgenerate
    cases hgenerate
  · intro hne
    rw [if_neg hne.symm] at hgenerate
    cases hu : generate size format rule with
    | error e => rw [hu] at hgenerate; cases hgenerate; rfl
    | ok u => rw [hu] at hgenerate; cases hgenerate

end generate

end Texture

/-- **Pixels are addressed apart.** The pixels of a texture fill level 0 row by row, and no two share
a byte. So after any reads and writes of pixels each holds what was last written to it, nothing past
level 0 has changed, and an access outside the texture is stopped and changes nothing. A rule that
gives every pixel its bytes makes a texture that reads as the rule; one that gives another number of
bytes in all than there are is refused, and no other. -/
theorem pixels_addressed_apart (t : Texture) (as : List PixelAccess) :
    (t.Tiled ∧ t.Accessed as (t.accessAll as)) ∧
    ∀ (size : Size) (format : PixelFormat) (rule : Texel → List UInt8),
      format.isCompressed = false → format.bytesPerPixel * size.cols * size.rows ≤ 2 ^ 64 - 1 →
      ((∀ p ∈ (Window.covering size).texels, (rule p).length = format.bytesPerPixel) →
        ∃ u, Texture.generate size format rule = .ok u ∧ u.config = { size, format } ∧
          ∀ p, u.contains p = true → (readPixel p).runOn u = (.ok (rule p), u)) ∧
      (Texture.generate size format rule = .error (.invalidInitialData
          (format.bytesPerPixel * size.cols * size.rows)
          ((Window.covering size).texels.map fun p => (rule p).length).sum) ↔
        format.bytesPerPixel * size.cols * size.rows ≠
          ((Window.covering size).texels.map fun p => (rule p).length).sum) := by
  refine ⟨⟨t.tiled, t.accessed as⟩, fun size format rule hplain hfits =>
    ⟨fun hrule => ?_, Texture.generate_eq_error_iff hplain hfits⟩⟩
  obtain ⟨u, hu, hconfig, hpixel⟩ := Texture.exists_generate hplain hfits hrule
  refine ⟨u, hu, hconfig, fun p hp => ?_⟩
  have hsome : u.get? p = some (u.pixel p) := if_pos hp
  rw [runOn_readPixel, hsome, Option.elim_some, hpixel p hp]

/-- Accesses to a row of two pixels of one byte: one is outside the row, and one has too many
bytes. -/
def rowAccesses : List PixelAccess :=
  [.write ⟨1, 0⟩ [9], .write ⟨2, 0⟩ [5], .read ⟨0, 0⟩, .write ⟨1, 0⟩ [7], .write ⟨1, 0⟩ [8, 8]]

/-- A row of two pixels and two levels after these accesses, a row made from a rule, and a rule that
gives a byte too many. -/
theorem rowAccesses_apart :
    PixelFormat.isCompressed .r8 = false ∧
    PixelFormat.bytesPerPixel .r8 * (Size.mk 2 1).cols * (Size.mk 2 1).rows ≤ 2 ^ 64 - 1 ∧
    (∃ t, Texture.create ⟨⟨2, 1⟩, .r8, 2, .static, ""⟩ (some #[1, 2, 3, 4]) = .ok t ∧ t.Tiled ∧
      (readPixel ⟨0, 0⟩).runOn (t.accessAll rowAccesses) = (.ok [1], t.accessAll rowAccesses) ∧
      (readPixel ⟨1, 0⟩).runOn (t.accessAll rowAccesses) = (.ok [7], t.accessAll rowAccesses) ∧
      (readPixel ⟨2, 0⟩).runOn (t.accessAll rowAccesses) =
        (.error .outOfBounds, t.accessAll rowAccesses) ∧
      (t.accessAll rowAccesses).bytes[2]? = some 3) ∧
    (∃ u, Texture.generate ⟨2, 1⟩ .r8 (fun p => [UInt8.ofNat (p.x + 5)]) = .ok u ∧
      (readPixel ⟨1, 0⟩).runOn u = (.ok [6], u)) ∧
    Texture.generate ⟨2, 1⟩ .r8 (fun p => List.replicate (p.x + 1) 0) =
      .error (.invalidInitialData 2 3) := by
  have hplain : PixelFormat.isCompressed .r8 = false := rfl
  have hfits : PixelFormat.bytesPerPixel .r8 * (Size.mk 2 1).cols * (Size.mk 2 1).rows ≤
      2 ^ 64 - 1 := by decide
  obtain ⟨t, ht⟩ : ∃ t, Texture.create ⟨⟨2, 1⟩, .r8, 2, .static, ""⟩ (some #[1, 2, 3, 4]) = .ok t :=
    ⟨_, rfl⟩
  obtain ⟨⟨htiled, haccessed⟩, hgenerate⟩ := pixels_addressed_apart t rowAccesses
  obtain ⟨u, hu, hconfig, hread⟩ :=
    (hgenerate ⟨2, 1⟩ .r8 (fun p => [UInt8.ofNat (p.x + 5)]) hplain hfits).1 fun _ _ => rfl
  have hrefused :=
    (hgenerate ⟨2, 1⟩ .r8 (fun p => List.replicate (p.x + 1) 0) hplain hfits).2
  have hcontains : u.contains ⟨1, 0⟩ = true := by
    have hsize : u.size = ⟨2, 1⟩ := congrArg TextureConfig.size hconfig
    rw [Texture.contains, hsize]
    rfl
  cases ht
  refine ⟨hplain, hfits, ⟨_, rfl, htiled, haccessed.read_eq ⟨0, 0⟩ rfl, haccessed.read_eq ⟨1, 0⟩ rfl,
    haccessed.outside (.read ⟨2, 0⟩) rfl, haccessed.repainted.rest_eq 2 (by decide)⟩,
    ⟨u, hu, hread _ hcontains⟩, hrefused.mpr (by decide)⟩

end BlitDevice

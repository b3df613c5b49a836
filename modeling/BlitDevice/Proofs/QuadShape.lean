import BlitDevice.Proofs.Dispatch

/-!
# Which draws are blits

A draw is a blit if it is a quad: four points in a strip with one channel of pairs, whose opposite
corners land on the screen. A list of rules says so, in the order they are asked.

* `roundAway`, `nearestWord` — numbers in whole pixels; `toWord_eq` says that geometry rounds so.
* `QuadRule`, `DrawContext.Meets`, `DrawContext.fault` — the rules, when they hold, and what is said
  of one that is broken.
* `DrawContext.quad_eq_verdict` — a draw asks the rules in order; the first broken one decides.
* `SameCorners`, `DrawContext.quad_of_sameCorners` — nothing but the two corners is looked at.
* `QuadGeometry.Runs` — rectangles between two corners, on the screen and in the source.
* `quads_recognized` — all of it.
-/

set_option autoImplicit false

namespace BlitDevice

/-! ## Whole pixels -/

/-- The nearest whole number, halves away from zero. -/
def roundAway (q : ℚ) : Int := if 0 ≤ q then ⌊q + 1 / 2⌋ else -⌊-q + 1 / 2⌋

theorem roundAway_neg (q : ℚ) : roundAway (-q) = -roundAway q := by
  have hzero : ⌊(1 / 2 : ℚ)⌋ = 0 := by norm_num
  rcases lt_trichotomy q 0 with h | rfl | h
  · rw [roundAway, roundAway, if_pos (by linarith), if_neg (by linarith), neg_neg]
  · rw [neg_zero, roundAway, if_pos le_rfl, zero_add, hzero, neg_zero]
  · rw [roundAway, roundAway, if_neg (by linarith), if_pos h.le, neg_neg]

namespace Binary32

theorem roundHalfUp_eq (m : Nat) (e : Int) :
    (roundHalfUp m e : Int) = roundAway (m * 2 ^ e) := by
  have hpos : (0 : ℚ) ≤ m * 2 ^ e := by positivity
  rw [roundAway, if_pos hpos, roundHalfUp]
  split
  · rename_i he
    obtain ⟨n, rfl⟩ := Int.eq_ofNat_of_zero_le he
    have hhalf : ⌊(1 / 2 : ℚ)⌋ = 0 := by norm_num
    have hwhole : ((m : ℚ) * 2 ^ (n : Int) + 1 / 2) = ((m * 2 ^ n : Nat) : Int) + 1 / 2 := by
      push_cast
      rw [zpow_natCast]
    rw [hwhole, Int.floor_intCast_add, hhalf, Int.toNat_natCast, Nat.shiftLeft_eq, add_zero]
  · rename_i he
    obtain ⟨n, hn⟩ := Int.eq_ofNat_of_zero_le (by omega : 0 ≤ -e)
    obtain rfl : e = -n := by omega
    have hfraction : ((m : ℚ) * 2 ^ (-n : Int) + 1 / 2) =
        ((2 * m + 2 ^ n : Nat) : Int) / (2 * 2 ^ n : Nat) := by
      push_cast
      rw [zpow_neg, zpow_natCast]
      field_simp
    rw [hfraction, Rat.floor_intCast_div_natCast, neg_neg, Int.toNat_natCast, Nat.shiftLeft_eq,
      one_mul]
    norm_cast

end Binary32

/-- The nearest 64-bit whole number, halves away from zero. -/
def nearestWord (v : Float32) : Int :=
  match Binary32.ofFloat v with
  | .nan => 0
  | .infinite negative => if negative then -2 ^ 63 else 2 ^ 63 - 1
  | .finite negative m e =>
    max (-2 ^ 63) (min (roundAway ((if negative then -1 else 1) * (m * 2 ^ e))) (2 ^ 63 - 1))

theorem toWord_eq (v : Float32) : Scalar.toWord v = nearestWord v := by
  change (Binary32.ofFloat v).toWord = _
  unfold nearestWord
  cases Binary32.ofFloat v with
  | nan => rfl
  | infinite negative => rfl
  | finite negative m e =>
    have hround : ((Binary32.finite negative m e).nearest?.getD 0 : Int) =
        roundAway ((if negative then -1 else 1) * (m * 2 ^ e)) := by
      cases negative with
      | false => simp [Binary32.nearest?, Binary32.roundHalfUp_eq]
      | true => simp [Binary32.nearest?, Binary32.roundHalfUp_eq, roundAway_neg]
    rw [Binary32.toWord, hround]
    · rfl
    · nofun
    · nofun

/-! ## What a quad has to be -/

/-- What is asked of a draw that is to be a blit. -/
inductive QuadRule where
  | buffer
  | fourPoints
  | oneChannel
  | pairs
  | strip
  | allVertices
  | eightValues
  | lands (vertex : Nat)
  | fits (side : RectSide)
  deriving DecidableEq

/-- The order it is asked in. -/
def QuadRule.inOrder : List QuadRule :=
  [buffer, fourPoints, oneChannel, pairs, strip, allVertices, eightValues, lands 0, lands 3,
    fits .destinationWidth, fits .destinationHeight, fits .sourceWidth, fits .sourceHeight]

namespace DrawContext

variable (c : DrawContext)

/-- What the bound vertex buffer holds. -/
def vertexData : VertexData Float32 :=
  (c.bindings.vertexBuffer.map VertexBuffer.data).getD ⟨[], []⟩

/-- The first channel of texture coordinates. -/
def channel : TexCoordChannel Float32 := c.vertexData.texCoords.headD ⟨0, []⟩

/-- Where a vertex lands on the screen. -/
def landing (vertex : Nat) : Option (ScreenPoint Float32) :=
  c.vertexData.points[vertex]?.bind (project c.transforms.combined c.transforms.viewport)

/-- Where a side of a rectangle ends at a vertex: on the screen for the destination, in texture
coordinates for the source. -/
def sideEnd (vertex : Nat) : RectSide → Float32
  | .destinationWidth => ((c.landing vertex).getD ⟨0, 0⟩).x
  | .destinationHeight => ((c.landing vertex).getD ⟨0, 0⟩).y
  | .sourceWidth => c.channel.values.getD (2 * vertex) 0
  | .sourceHeight => c.channel.values.getD (2 * vertex + 1) 0

/-- The same in whole pixels. Vertices 0 and 3 are the opposite corners of a quad. -/
def firstEnd (side : RectSide) : Int := nearestWord (c.sideEnd 0 side)

def lastEnd (side : RectSide) : Int := nearestWord (c.sideEnd 3 side)

/-- The rectangles between the two corners. -/
def quadRects : QuadGeometry where
  src := ⟨c.firstEnd .sourceWidth, c.firstEnd .sourceHeight,
    c.lastEnd .sourceWidth - c.firstEnd .sourceWidth,
    c.lastEnd .sourceHeight - c.firstEnd .sourceHeight⟩
  dst := ⟨c.firstEnd .destinationWidth, c.firstEnd .destinationHeight,
    c.lastEnd .destinationWidth - c.firstEnd .destinationWidth,
    c.lastEnd .destinationHeight - c.firstEnd .destinationHeight⟩

variable (mode : DrawMode) (start count : UInt32)

def Meets : QuadRule → Prop
  | .buffer => c.bindings.vertexBuffer ≠ none
  | .fourPoints => c.vertexData.points.length = 4
  | .oneChannel => c.vertexData.texCoords.length = 1
  | .pairs => c.channel.width = 2
  | .strip => mode = .triStrip
  | .allVertices => start = 0 ∧ (count = 0 ∨ count = 4)
  | .eightValues => 8 ≤ c.channel.values.length
  | .lands vertex => c.landing vertex ≠ none
  | .fits side => Word.i64.Holds (c.lastEnd side - c.firstEnd side)

instance : DecidablePred (c.Meets mode start count)
  | .buffer => inferInstanceAs (Decidable (_ ≠ _))
  | .fourPoints => inferInstanceAs (Decidable (_ = _))
  | .oneChannel => inferInstanceAs (Decidable (_ = _))
  | .pairs => inferInstanceAs (Decidable (_ = _))
  | .strip => inferInstanceAs (Decidable (_ = _))
  | .allVertices => inferInstanceAs (Decidable (_ ∧ _))
  | .eightValues => inferInstanceAs (Decidable (_ ≤ _))
  | .lands _ => inferInstanceAs (Decidable (_ ≠ _))
  | .fits _ => inferInstanceAs (Decidable (Word.i64.Holds _))

/-- What is said of a rule that is broken. -/
def fault : QuadRule → Error
  | .buffer => .noVertexBuffer
  | .fourPoints => .notABlit (.points c.vertexData.points.length)
  | .oneChannel => .notABlit (.channels c.vertexData.texCoords.length)
  | .pairs => .notABlit (.channelWidth c.channel.width)
  | .strip => .notABlit (.mode mode)
  | .allVertices => .notABlit (.range start.toNat (min (start.toNat + count.toNat) (2 ^ 32 - 1)))
  | .eightValues => .notABlit (.coordinates (c.channel.values.length / 2))
  | .lands vertex => .notABlit (.offScreen vertex)
  | .fits side => .notABlit (.extent side (c.firstEnd side) (c.lastEnd side))

/-- What comes of rules asked one after the other: the first one that is broken decides. -/
def verdict (rules : List QuadRule) : Except Error QuadGeometry :=
  match rules.find? fun r => ¬ c.Meets mode start count r with
  | some r => .error (c.fault mode start count r)
  | none => .ok c.quadRects

end DrawContext

/-! ## Draws ask the rules in order -/

theorem span_eq (side : RectSide) (first last : Float32) : span side first last =
    if Word.i64.Holds (nearestWord last - nearestWord first) then
      .ok (nearestWord first, nearestWord last - nearestWord first)
    else .error (.notABlit (.extent side (nearestWord first) (nearestWord last))) := by
  simp only [span, toWord_eq]
  rfl

section corners

variable {K : Type} {data : VertexData K} {mode : DrawMode} {start count : UInt32}

/-- The pair of a vertex, in a channel of pairs. -/
theorem TexCoordChannel.get?_eq_some {channel : TexCoordChannel K} (hpairs : channel.width = 2)
    {i : Nat} (h : 2 * i + 2 ≤ channel.values.length) (d : K) :
    channel.get? i =
      some [channel.values.getD (2 * i) d, channel.values.getD (2 * i + 1) d] := by
  have hfirst : 2 * i < channel.values.length := by omega
  have hsecond : 2 * i + 1 < channel.values.length := by omega
  rw [get?, hpairs, mul_comm, if_pos h, List.drop_eq_getElem_cons hfirst,
    List.drop_eq_getElem_cons hsecond, List.getD_eq_getElem _ _ hfirst,
    List.getD_eq_getElem _ _ hsecond]
  rfl

theorem TexCoordChannel.get?_eq_none {channel : TexCoordChannel K} (hpairs : channel.width = 2)
    {i : Nat} (h : ¬ 2 * i + 2 ≤ channel.values.length) : channel.get? i = none := by
  rw [get?, hpairs, mul_comm, if_neg h]

theorem drawsAll_iff : drawsAll start count = true ↔ start = 0 ∧ (count = 0 ∨ count = 4) := by
  simp only [drawsAll, Bool.and_eq_true, Bool.or_eq_true, beq_iff_eq]

theorem corners_of_points (h : data.points.length ≠ 4) :
    QuadGeometry.corners data mode start count =
      .error (.notABlit (.points data.points.length)) := by
  unfold QuadGeometry.corners
  split
  · rename_i hpoints
    rw [hpoints] at h
    exact absurd rfl h
  · rfl

theorem corners_of_channels (hpoints : data.points.length = 4) (h : data.texCoords.length ≠ 1) :
    QuadGeometry.corners data mode start count =
      .error (.notABlit (.channels data.texCoords.length)) := by
  unfold QuadGeometry.corners
  split
  · split
    · rename_i hchannels
      rw [hchannels] at h
      exact absurd rfl h
    · rfl
  · rename_i hother
    obtain ⟨p0, p1, p2, p3, h4⟩ := List.length_eq_four.mp hpoints
    exact absurd h4 (hother p0 p1 p2 p3)

end corners

namespace DrawContext

variable {c : DrawContext} {mode : DrawMode} {start count : UInt32} {r : QuadRule}
  {rules : List QuadRule}

theorem verdict_of_meets (h : c.Meets mode start count r) :
    c.verdict mode start count (r :: rules) = c.verdict mode start count rules := by
  rw [verdict, List.find?_cons_of_neg (by simpa using h)]
  rfl

theorem verdict_of_broken (h : ¬ c.Meets mode start count r) :
    c.verdict mode start count (r :: rules) = .error (c.fault mode start count r) := by
  rw [verdict, List.find?_cons_of_pos (by simpa using h)]

/-- A step that asks one rule and goes on where it holds. -/
theorem bind_eq_verdict {α : Type} {x : Except Error α} {f : α → Except Error QuadGeometry} {a : α}
    (hx : x = if c.Meets mode start count r then .ok a else .error (c.fault mode start count r))
    (hrest : c.Meets mode start count r → f a = c.verdict mode start count rules) :
    (x >>= f) = c.verdict mode start count (r :: rules) := by
  by_cases h : c.Meets mode start count r
  · rw [hx, if_pos h, verdict_of_meets h, ok_bind, hrest h]
  · rw [hx, if_neg h, verdict_of_broken h]
    rfl

theorem sideEnd_width {vertex : Nat} {p : ScreenPoint Float32} (h : c.landing vertex = some p) :
    c.sideEnd vertex .destinationWidth = p.x := by
  simp only [sideEnd, h, Option.getD_some]

theorem sideEnd_height {vertex : Nat} {p : ScreenPoint Float32} (h : c.landing vertex = some p) :
    c.sideEnd vertex .destinationHeight = p.y := by
  simp only [sideEnd, h, Option.getD_some]

/-- The four sides, when both corners are known. -/
theorem ofCorners_eq_verdict {p0 p3 : ScreenPoint Float32} (h0 : c.landing 0 = some p0)
    (h3 : c.landing 3 = some p3) :
    QuadGeometry.ofCorners p0 p3 (c.sideEnd 0 .sourceWidth, c.sideEnd 0 .sourceHeight)
        (c.sideEnd 3 .sourceWidth, c.sideEnd 3 .sourceHeight) =
      c.verdict mode start count [.fits .destinationWidth, .fits .destinationHeight,
        .fits .sourceWidth, .fits .sourceHeight] := by
  rw [QuadGeometry.ofCorners, ← sideEnd_width h0, ← sideEnd_height h0, ← sideEnd_width h3,
    ← sideEnd_height h3]
  refine bind_eq_verdict (span_eq _ _ _) fun _ => ?_
  refine bind_eq_verdict (span_eq _ _ _) fun _ => ?_
  refine bind_eq_verdict (span_eq _ _ _) fun _ => ?_
  exact bind_eq_verdict (span_eq _ _ _) fun _ => rfl

/-- A vertex has to land somewhere. -/
theorem corner_bind_eq_verdict {vertex : Nat} {v : Vec3 Float32}
    (hv : c.vertexData.points[vertex]? = some v)
    {f : ScreenPoint Float32 → Except Error QuadGeometry}
    (hrest : ∀ p, c.landing vertex = some p → f p = c.verdict mode start count rules) :
    (corner c.transforms vertex v >>= f) =
      c.verdict mode start count (.lands vertex :: rules) := by
  have hlanding : c.landing vertex = project c.transforms.combined c.transforms.viewport v := by
    rw [landing, hv, Option.bind_some]
  cases hp : c.landing vertex with
  | none =>
    rw [verdict_of_broken (by simpa only [Meets, ne_eq, not_not] using hp), corner, ← hlanding, hp]
    rfl
  | some p =>
    have hmeets : c.Meets mode start count (.lands vertex) := by
      simp only [Meets, hp, ne_eq, reduceCtorEq, not_false_eq_true]
    rw [verdict_of_meets hmeets, corner, ← hlanding, hp]
    exact hrest p hp

/-- A step that refuses where a rule is broken. -/
theorem refuse_bind_eq_verdict {α : Type} {p : Prop} [Decidable p] {x : Except Error α}
    {f : α → Except Error QuadGeometry} (hp : ¬ p ↔ c.Meets mode start count r)
    (hrest : c.Meets mode start count r → (x >>= f) = c.verdict mode start count rules) :
    ((if p then .error (c.fault mode start count r) else x) >>= f) =
      c.verdict mode start count (r :: rules) := by
  by_cases h : p
  · rw [if_pos h, verdict_of_broken fun hr => hp.mpr hr h]
    rfl
  · rw [if_neg h, verdict_of_meets (hp.mp h), hrest (hp.mp h)]

/-- The shape of a quad, where there are four points and one channel. -/
theorem corners_bind_eq_verdict {p0 p1 p2 p3 : Vec3 Float32} {channel : TexCoordChannel Float32}
    (hpoints : c.vertexData.points = [p0, p1, p2, p3])
    (hchannels : c.vertexData.texCoords = [channel])
    {f : (Vec3 Float32 × Vec3 Float32) × (Float32 × Float32) × (Float32 × Float32) →
      Except Error QuadGeometry}
    (hrest : f ((p0, p3), (c.sideEnd 0 .sourceWidth, c.sideEnd 0 .sourceHeight),
      (c.sideEnd 3 .sourceWidth, c.sideEnd 3 .sourceHeight)) = c.verdict mode start count rules) :
    (QuadGeometry.corners c.vertexData mode start count >>= f) =
      c.verdict mode start count (.pairs :: .strip :: .allVertices :: .eightValues :: rules) := by
  obtain rfl : c.channel = channel := by simp only [DrawContext.channel, hchannels, List.headD_cons]
  rw [QuadGeometry.corners, hpoints, hchannels]
  dsimp only
  refine refuse_bind_eq_verdict (r := .pairs) not_not fun hpairs => ?_
  refine refuse_bind_eq_verdict (r := .strip) not_not fun _ => ?_
  have hrange : ¬ (!drawsAll start count) = true ↔ c.Meets mode start count .allVertices := by
    rw [Bool.not_eq_true', Bool.not_eq_false]
    exact drawsAll_iff
  refine refuse_bind_eq_verdict hrange fun _ => ?_
  by_cases hvalues : 8 ≤ c.channel.values.length
  · rw [verdict_of_meets (r := .eightValues) hvalues,
      TexCoordChannel.get?_eq_some hpairs (i := 0) (by omega) 0,
      TexCoordChannel.get?_eq_some hpairs (i := 3) (by omega) 0]
    exact hrest
  · rw [verdict_of_broken (r := .eightValues) hvalues,
      TexCoordChannel.get?_eq_none hpairs (i := 3) (by omega)]
    have hsize : c.channel.size = c.channel.values.length / 2 := by
      rw [TexCoordChannel.size, hpairs]
      rfl
    rw [fault, ← hsize]
    split
    · rename_i h
      cases h
    · rfl

/-- **A draw asks the rules in order**; the first that is broken is what it answers. -/
theorem quad_eq_verdict :
    c.quad mode start count = c.verdict mode start count QuadRule.inOrder := by
  unfold quad QuadGeometry.ofDraw QuadRule.inOrder
  cases hbuffer : c.bindings.vertexBuffer with
  | none =>
    rw [verdict_of_broken (r := .buffer) fun h => h hbuffer]
    rfl
  | some buffer =>
    have hdata : c.vertexData = buffer.data := by
      simp only [vertexData, hbuffer, Option.map_some, Option.getD_some]
    have hmeets : c.Meets mode start count .buffer := by
      simp only [Meets, hbuffer, ne_eq, reduceCtorEq, not_false_eq_true]
    rw [verdict_of_meets hmeets]
    dsimp only
    rw [← hdata]
    by_cases hpoints : c.vertexData.points.length = 4
    · rw [verdict_of_meets (r := .fourPoints) hpoints]
      by_cases hchannels : c.vertexData.texCoords.length = 1
      · rw [verdict_of_meets (r := .oneChannel) hchannels]
        obtain ⟨p0, p1, p2, p3, h4⟩ := List.length_eq_four.mp hpoints
        obtain ⟨channel, h1⟩ := List.length_eq_one_iff.mp hchannels
        refine corners_bind_eq_verdict h4 h1 ?_
        refine corner_bind_eq_verdict (by rw [h4]; rfl) fun s0 h0 => ?_
        exact corner_bind_eq_verdict (by rw [h4]; rfl) fun s3 h3 => ofCorners_eq_verdict h0 h3
      · rw [verdict_of_broken (r := .oneChannel) hchannels, corners_of_channels hpoints hchannels]
        rfl
    · rw [verdict_of_broken (r := .fourPoints) hpoints, corners_of_points hpoints]
      rfl

/-- **A draw is a blit exactly if every rule holds.** -/
theorem quad_eq_ok_iff {q : QuadGeometry} : c.quad mode start count = .ok q ↔
    (∀ r ∈ QuadRule.inOrder, c.Meets mode start count r) ∧ q = c.quadRects := by
  rw [quad_eq_verdict, verdict]
  cases hfind : QuadRule.inOrder.find? fun r => ¬ c.Meets mode start count r with
  | none =>
    have hall : ∀ r ∈ QuadRule.inOrder, c.Meets mode start count r := by
      simpa using List.find?_eq_none.mp hfind
    constructor
    · intro h
      exact ⟨hall, (Except.ok.inj h).symm⟩
    · rintro ⟨_, rfl⟩
      rfl
  | some r =>
    constructor
    · intro h
      cases h
    · rintro ⟨hall, _⟩
      have hbroken : ¬ c.Meets mode start count r := by simpa using List.find?_some hfind
      exact absurd (hall r (List.mem_of_find?_eq_some hfind)) hbroken

theorem quad_eq_error_iff {e : Error} : c.quad mode start count = .error e ↔
    ∃ r, QuadRule.inOrder.find? (fun r => ¬ c.Meets mode start count r) = some r ∧
      e = c.fault mode start count r := by
  rw [quad_eq_verdict, verdict]
  cases QuadRule.inOrder.find? fun r => ¬ c.Meets mode start count r with
  | none =>
    constructor
    · intro h
      cases h
    · rintro ⟨_, h, _⟩
      cases h
  | some r =>
    constructor
    · intro h
      exact ⟨r, rfl, (Except.error.inj h).symm⟩
    · rintro ⟨_, h, rfl⟩
      cases h
      rfl

/-- What lands, lands at a finite place. -/
theorem isFinite_landing {vertex : Nat} {p : ScreenPoint Float32}
    (h : c.landing vertex = some p) : p.x.isFinite = true ∧ p.y.isFinite = true := by
  obtain ⟨v, _, h⟩ := Option.bind_eq_some_iff.mp h
  unfold project at h
  dsimp only at h
  split at h
  · cases h
  · split at h
    · rename_i hfinite
      cases h
      exact Bool.and_eq_true_iff.mp hfinite
    · cases h

end DrawContext

/-! ## What a quad is read off -/

/-- The contexts agree on how many points, channels and coordinates there are, on vertices 0 and 3,
and on how these land on the screen. -/
structure SameCorners (c c' : DrawContext) : Prop where
  buffer : c'.bindings.vertexBuffer = none ↔ c.bindings.vertexBuffer = none
  points : c'.vertexData.points.length = c.vertexData.points.length
  point : ∀ vertex ∈ [0, 3], c'.vertexData.points[vertex]? = c.vertexData.points[vertex]?
  channels : c'.vertexData.texCoords.length = c.vertexData.texCoords.length
  width : c'.channel.width = c.channel.width
  /-- Past the eighth there may be more values. -/
  values : min c'.channel.values.length 8 = min c.channel.values.length 8
  value : ∀ i ∈ [0, 1, 6, 7], c'.channel.values[i]? = c.channel.values[i]?
  projection : c'.transforms.projection = c.transforms.projection
  modelView : c'.transforms.modelView = c.transforms.modelView
  viewport : c'.transforms.viewport = c.transforms.viewport

namespace DrawContext

variable {c c' : DrawContext} {mode : DrawMode} {start count : UInt32}

theorem verdict_congr {rules : List QuadRule}
    (hmeets : ∀ r ∈ rules, c'.Meets mode start count r ↔ c.Meets mode start count r)
    (hfault : ∀ r ∈ rules, ¬ c.Meets mode start count r →
      c'.fault mode start count r = c.fault mode start count r)
    (hrects : c'.quadRects = c.quadRects) :
    c'.verdict mode start count rules = c.verdict mode start count rules := by
  have hfind : (rules.find? fun r => ¬ c'.Meets mode start count r) =
      rules.find? fun r => ¬ c.Meets mode start count r :=
    List.find?_congr fun r hr => by rw [decide_eq_decide, hmeets r hr]
  rw [verdict, verdict, hfind]
  cases h : rules.find? fun r => ¬ c.Meets mode start count r with
  | none => exact congrArg _ hrects
  | some r =>
    have hbroken : ¬ c.Meets mode start count r := by simpa using List.find?_some h
    exact congrArg _ (hfault r (List.mem_of_find?_eq_some h) hbroken)

theorem landing_of_sameCorners (h : SameCorners c c') {vertex : Nat} (hv : vertex ∈ [0, 3]) :
    c'.landing vertex = c.landing vertex := by
  rw [landing, landing, h.point vertex hv, Transforms.combined, Transforms.combined, h.projection,
    h.modelView, h.viewport]

theorem sideEnd_of_sameCorners (h : SameCorners c c') {vertex : Nat} (hv : vertex ∈ [0, 3])
    (side : RectSide) : c'.sideEnd vertex side = c.sideEnd vertex side := by
  have hvalue : 2 * vertex ∈ [0, 1, 6, 7] ∧ 2 * vertex + 1 ∈ [0, 1, 6, 7] := by
    simp only [List.mem_cons, List.not_mem_nil, or_false] at hv ⊢
    omega
  cases side with
  | destinationWidth => simp only [sideEnd, landing_of_sameCorners h hv]
  | destinationHeight => simp only [sideEnd, landing_of_sameCorners h hv]
  | sourceWidth => simp only [sideEnd, List.getD_eq_getElem?_getD, h.value _ hvalue.1]
  | sourceHeight => simp only [sideEnd, List.getD_eq_getElem?_getD, h.value _ hvalue.2]

theorem firstEnd_of_sameCorners (h : SameCorners c c') (side : RectSide) :
    c'.firstEnd side = c.firstEnd side := by
  rw [firstEnd, firstEnd, sideEnd_of_sameCorners h (by simp)]

theorem lastEnd_of_sameCorners (h : SameCorners c c') (side : RectSide) :
    c'.lastEnd side = c.lastEnd side := by
  rw [lastEnd, lastEnd, sideEnd_of_sameCorners h (by simp)]

theorem meets_of_sameCorners (h : SameCorners c c') {r : QuadRule} (hr : r ∈ QuadRule.inOrder) :
    c'.Meets mode start count r ↔ c.Meets mode start count r := by
  cases r with
  | buffer => exact not_congr h.buffer
  | fourPoints => simp only [Meets, h.points]
  | oneChannel => simp only [Meets, h.channels]
  | pairs => simp only [Meets, h.width]
  | strip => rfl
  | allVertices => rfl
  | eightValues =>
    have hvalues := h.values
    simp only [Meets]
    omega
  | lands vertex =>
    have hv : vertex ∈ [0, 3] := by simpa [QuadRule.inOrder] using hr
    simp only [Meets, landing_of_sameCorners h hv]
  | fits side => simp only [Meets, firstEnd_of_sameCorners h, lastEnd_of_sameCorners h]

theorem fault_of_sameCorners (h : SameCorners c c') {r : QuadRule}
    (hbroken : ¬ c.Meets mode start count r) :
    c'.fault mode start count r = c.fault mode start count r := by
  cases r with
  | buffer => rfl
  | fourPoints => simp only [fault, h.points]
  | oneChannel => simp only [fault, h.channels]
  | pairs => simp only [fault, h.width]
  | strip => rfl
  | allVertices => rfl
  | eightValues =>
    -- A channel that is too short has all its values counted.
    have hshort : ¬ 8 ≤ c.channel.values.length := hbroken
    have hvalues := h.values
    have hlength : c'.channel.values.length = c.channel.values.length := by omega
    simp only [fault, hlength]
  | lands vertex => rfl
  | fits side => simp only [fault, firstEnd_of_sameCorners h, lastEnd_of_sameCorners h]

/-- **Nothing but the two corners is looked at.** -/
theorem quad_of_sameCorners (h : SameCorners c c') :
    c'.quad mode start count = c.quad mode start count := by
  rw [quad_eq_verdict, quad_eq_verdict]
  refine verdict_congr ?_ ?_ ?_
  · exact fun r hr => meets_of_sameCorners h hr
  · exact fun r _ hbroken => fault_of_sameCorners h hbroken
  · simp only [quadRects, firstEnd_of_sameCorners h, lastEnd_of_sameCorners h]

end DrawContext

/-! ## What a quad says -/

/-- A side goes from one place to another, and neither these nor its extent leave the words. -/
structure SideRuns (start extent low high : Int) : Prop where
  first : start = low
  last : start + extent = high
  words : Word.i64.Holds low ∧ Word.i64.Holds extent ∧ Word.i64.Holds high

/-- The rectangles lie between the corners, in whole pixels. -/
structure QuadGeometry.Runs (quad : QuadGeometry) (p0 p3 : ScreenPoint Float32)
    (uv0 uv3 : Float32 × Float32) : Prop where
  x : SideRuns quad.dst.x quad.dst.width (nearestWord p0.x) (nearestWord p3.x)
  y : SideRuns quad.dst.y quad.dst.height (nearestWord p0.y) (nearestWord p3.y)
  u : SideRuns quad.src.x quad.src.width (nearestWord uv0.1) (nearestWord uv3.1)
  v : SideRuns quad.src.y quad.src.height (nearestWord uv0.2) (nearestWord uv3.2)

theorem holds_nearestWord (v : Float32) : Word.i64.Holds (nearestWord v) := by
  have hbounds := Binary32.toWord_bounds (Binary32.ofFloat v)
  rw [← toWord_eq, Word.holds_i64]
  simp only [Binary32.leastWord, Binary32.greatestWord] at hbounds
  exact ⟨hbounds.1, Int.lt_of_le_sub_one hbounds.2⟩

theorem sideRuns_of_fits {low high : Float32}
    (h : Word.i64.Holds (nearestWord high - nearestWord low)) :
    SideRuns (nearestWord low) (nearestWord high - nearestWord low) (nearestWord low)
      (nearestWord high) where
  first := rfl
  last := add_sub_cancel _ _
  words := ⟨holds_nearestWord low, h, holds_nearestWord high⟩

namespace DrawContext

variable {c : DrawContext} {mode : DrawMode} {start count : UInt32}

/-- The coordinates of a corner are there, and they are what is read. -/
theorem value_eq_some (h : c.Meets mode start count .eightValues) {i : Nat} (hi : i < 8) :
    c.channel.values[i]? = some (c.channel.values.getD i 0) := by
  have hlength : 8 ≤ c.channel.values.length := h
  rw [List.getD_eq_getElem _ _ (by omega), List.getElem?_eq_getElem (by omega)]

theorem runs_quadRects (hall : ∀ r ∈ QuadRule.inOrder, c.Meets mode start count r)
    {p0 p3 : ScreenPoint Float32} (h0 : c.landing 0 = some p0) (h3 : c.landing 3 = some p3) :
    c.quadRects.Runs p0 p3 (c.sideEnd 0 .sourceWidth, c.sideEnd 0 .sourceHeight)
      (c.sideEnd 3 .sourceWidth, c.sideEnd 3 .sourceHeight) := by
  have hfits (side : RectSide) : Word.i64.Holds (c.lastEnd side - c.firstEnd side) :=
    hall (.fits side) (by cases side <;> simp [QuadRule.inOrder])
  constructor
  · rw [← sideEnd_width h0, ← sideEnd_width h3]
    exact sideRuns_of_fits (hfits .destinationWidth)
  · rw [← sideEnd_height h0, ← sideEnd_height h3]
    exact sideRuns_of_fits (hfits .destinationHeight)
  · exact sideRuns_of_fits (hfits .sourceWidth)
  · exact sideRuns_of_fits (hfits .sourceHeight)

/-- What is between the corners of a draw that is a blit. -/
theorem runs_of_quad {q : QuadGeometry} (h : c.quad mode start count = .ok q) :
    ∃ p0 p3 u0 v0 u3 v3, c.landing 0 = some p0 ∧ c.landing 3 = some p3 ∧
      c.channel.values[0]? = some u0 ∧ c.channel.values[1]? = some v0 ∧
      c.channel.values[6]? = some u3 ∧ c.channel.values[7]? = some v3 ∧
      q.Runs p0 p3 (u0, v0) (u3, v3) := by
  obtain ⟨hall, rfl⟩ := quad_eq_ok_iff.mp h
  obtain ⟨p0, h0⟩ := Option.ne_none_iff_exists'.mp
    (hall (.lands 0) (by simp [QuadRule.inOrder]))
  obtain ⟨p3, h3⟩ := Option.ne_none_iff_exists'.mp
    (hall (.lands 3) (by simp [QuadRule.inOrder]))
  have height : c.Meets mode start count .eightValues :=
    hall .eightValues (by simp [QuadRule.inOrder])
  exact ⟨p0, p3, _, _, _, _, h0, h3, value_eq_some height (by omega),
    value_eq_some height (by omega), value_eq_some height (by omega),
    value_eq_some height (by omega), runs_quadRects hall h0 h3⟩

end DrawContext

/-- **A draw is a blit exactly if it keeps to every rule**, and of the rules it breaks the first is
what it is refused for. Its rectangles lie between two finite places and between two pairs of
texture coordinates, in whole pixels that are words; and whatever has these corners has these
rectangles. -/
theorem quads_recognized (c : DrawContext) (mode : DrawMode) (start count : UInt32) :
    ((∃ q, c.quad mode start count = .ok q) ↔
        ∀ r ∈ QuadRule.inOrder, c.Meets mode start count r) ∧
      (∀ e, c.quad mode start count = .error e ↔
        ∃ r, QuadRule.inOrder.find? (fun r => ¬ c.Meets mode start count r) = some r ∧
          e = c.fault mode start count r) ∧
      (∀ q, c.quad mode start count = .ok q →
        ∃ p0 p3 u0 v0 u3 v3, c.landing 0 = some p0 ∧ c.landing 3 = some p3 ∧
          c.channel.values[0]? = some u0 ∧ c.channel.values[1]? = some v0 ∧
          c.channel.values[6]? = some u3 ∧ c.channel.values[7]? = some v3 ∧
          q.Runs p0 p3 (u0, v0) (u3, v3)) ∧
      (∀ vertex p, c.landing vertex = some p → p.x.isFinite = true ∧ p.y.isFinite = true) ∧
      ∀ c', SameCorners c c' → c'.quad mode start count = c.quad mode start count := by
  refine ⟨?_, fun e => DrawContext.quad_eq_error_iff, fun q => DrawContext.runs_of_quad,
    fun vertex p => DrawContext.isFinite_landing, fun c' => DrawContext.quad_of_sameCorners⟩
  constructor
  · rintro ⟨q, hq⟩
    exact (DrawContext.quad_eq_ok_iff.mp hq).1
  · intro hall
    exact ⟨c.quadRects, DrawContext.quad_eq_ok_iff.mpr ⟨hall, rfl⟩⟩

/-- Four pixels by two, of which the right half is drawn to. -/
def rightHalf : DrawContext where
  bindings := { vertexBuffer := some ⟨.quad 2 0 2 2 0 0 2 1, false⟩ }
  transforms :=
    { projection := ortho 0 4 0 2 (-100) 100, saved := [], modelView := Mat4.identity
      viewport := ⟨0, 0, 4, 2⟩ }

/-- The same with two corners that are nowhere, and a ninth coordinate. -/
def rightHalfBent : DrawContext :=
  { rightHalf with
    bindings := { vertexBuffer := some ⟨⟨[⟨2, 0, 0⟩, ⟨1 / 0, 7, 0⟩, ⟨0 / 0, 0, 9⟩, ⟨4, 2, 0⟩],
      [⟨2, [0, 0, 5, 0 / 0, 8, 8, 2, 1, 3]⟩]⟩, true⟩ } }

/-- Its last vertex lands on column 4. Bent, the quad is drawn all the same; drawn as points it is
refused. -/
theorem rightHalfBent_recognized :
    (∃ p, rightHalf.landing 3 = some p ∧ p.x.isFinite = true ∧ nearestWord p.x = 4) ∧
      rightHalfBent.quad .triStrip 0 0 = .ok ⟨⟨0, 0, 2, 1⟩, ⟨2, 0, 2, 2⟩⟩ ∧
      rightHalfBent.quad .points 1 9 = .error (.notABlit (.mode .points)) := by
  have hright : rightHalf.quad .triStrip 0 0 = .ok ⟨⟨0, 0, 2, 1⟩, ⟨2, 0, 2, 2⟩⟩ := by
    decide +kernel
  have hsame : SameCorners rightHalf rightHalfBent :=
    ⟨by decide +kernel, by decide +kernel, by decide +kernel, by decide +kernel,
      by decide +kernel, by decide +kernel, by decide +kernel, rfl, rfl, rfl⟩
  obtain ⟨_, _, hruns, hfinite, hcorners⟩ := quads_recognized rightHalf .triStrip 0 0
  obtain ⟨_, hrefused, _⟩ := quads_recognized rightHalfBent .points 1 9
  obtain ⟨p0, p3, u0, v0, u3, v3, _, h3, _, _, _, _, hsides⟩ := hruns _ hright
  refine ⟨⟨p3, h3, (hfinite 3 p3 h3).1, hsides.x.last.symm⟩, (hcorners _ hsame).trans hright,
    (hrefused _).mpr ⟨.strip, ?_, rfl⟩⟩
  decide +kernel

end BlitDevice

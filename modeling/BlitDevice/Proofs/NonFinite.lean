import BlitDevice.Proofs.Mirroring
import BlitDevice.Proofs.QuadShape

/-!
# Quads with coordinates that are not finite

A position that is not finite lands nowhere, and the draw is refused. A texture coordinate that is
not finite is rounded like any other: to zero, or to an end of the words.

* `isFinite_mul`, `isFinite_add` — what is not finite stays so, whatever it is multiplied by or
  added to; `isFinite_iff` says which numbers are.
* `project_eq_none` — a vertex with a coordinate that is not finite is not projected, by no
  transform.
* `standIn` — the finite number that is drawn in place of a texture coordinate;
  `DrawContext.quad_withStandIns` says that it is.
* `nonfinite_corners` — what is refused, and what is drawn.
* `unknown_coordinate_is_drawn` — a draw from a coordinate that is no number.
-/

set_option autoImplicit false

namespace BlitDevice

/-! ## Arithmetic -/

section arithmetic

open Float.Model

/-- What is not finite is not finite as a word. -/
theorem isFinite_pack {u : UnpackedFloat} (h : u.isFinite = false) :
    (Float32.Model.pack u).isFinite = false := by
  cases u with
  | infinity sign => cases sign <;> decide
  | notANumber => decide
  | zero sign => cases h
  | finite sign m e hm => cases h

theorem isFinite_mul {a b : Float32} (h : a.isFinite = false ∨ b.isFinite = false) :
    (a * b).isFinite = false := by
  change a.toModel.unpack.isFinite = false ∨ b.toModel.unpack.isFinite = false at h
  apply isFinite_pack (u := UnpackedFloat.mul .binary32 a.toModel.unpack b.toModel.unpack)
  generalize a.toModel.unpack = u at h
  generalize b.toModel.unpack = v at h
  rcases h with h | h
  · cases u with
    | notANumber => rfl
    | infinity sign => cases v <;> rfl
    | zero sign => cases h
    | finite sign m e hm => cases h
  · cases v with
    | notANumber => cases u <;> rfl
    | infinity sign => cases u <;> rfl
    | zero sign => cases h
    | finite sign m e hm => cases h

theorem isFinite_add {a b : Float32} (h : a.isFinite = false ∨ b.isFinite = false) :
    (a + b).isFinite = false := by
  change a.toModel.unpack.isFinite = false ∨ b.toModel.unpack.isFinite = false at h
  apply isFinite_pack (u := UnpackedFloat.add .binary32 a.toModel.unpack b.toModel.unpack)
  generalize a.toModel.unpack = u at h
  generalize b.toModel.unpack = v at h
  -- Of two infinities the sum hangs on the signs.
  have hboth : ∀ s s' : UnpackedFloat.Sign,
      (UnpackedFloat.add .binary32 (.infinity s) (.infinity s')).isFinite = false := by
    intro s s'
    cases s <;> cases s' <;> rfl
  rcases h with h | h
  · cases u with
    | notANumber => rfl
    | infinity sign =>
      cases v with
      | infinity sign' => exact hboth sign sign'
      | _ => rfl
    | zero sign => cases h
    | finite sign m e hm => cases h
  · cases v with
    | notANumber => cases u <;> rfl
    | infinity sign =>
      cases u with
      | infinity sign' => exact hboth sign' sign
      | _ => rfl
    | zero sign => cases h
    | finite sign m e hm => cases h

/-- The words that are not finite have the last exponent. -/
theorem isFinite_unpack (w : BitVec 32) :
    (UnpackedFloat.unpack .binary32 w).isFinite = true ↔
      @UnpackedFloat.unpackExponent .binary32 w ≠ -1#8 := by
  unfold UnpackedFloat.unpack
  by_cases h : @UnpackedFloat.unpackExponent .binary32 w = -1#8
  · rw [if_pos h]
    split <;> exact ⟨nofun, fun hne => absurd h hne⟩
  · rw [if_neg h]
    repeat' split
    all_goals exact ⟨fun _ => h, fun _ => rfl⟩

/-- **The finite numbers are the mantissas times powers of two.** -/
theorem isFinite_iff (v : Float32) :
    v.isFinite = true ↔ ∃ negative m e, Binary32.ofFloat v = .finite negative m e := by
  obtain ⟨⟨w, hw⟩⟩ := v
  change (UnpackedFloat.unpack .binary32 w.toBitVec).isFinite = true ↔
    ∃ negative m e, Binary32.ofBits w = .finite negative m e
  have hfield : @UnpackedFloat.unpackExponent .binary32 w.toBitVec = -1#8 ↔
      w.toNat >>> 23 % 0x100 = 255 := by
    rw [← BitVec.toNat_inj]
    simp [UnpackedFloat.unpackExponent]
  rw [isFinite_unpack, ne_eq, hfield, Binary32.ofBits]
  by_cases h : w.toNat >>> 23 % 0x100 = 255
  · rw [if_pos h]
    split <;> exact ⟨fun hne => absurd h hne, nofun⟩
  · rw [if_neg h]
    split <;> exact ⟨fun _ => ⟨_, _, _, rfl⟩, fun _ => h⟩

end arithmetic

/-! ## Positions -/

/-- A place: none of the coordinates is infinite or no number. -/
def Vec3.IsFinite (v : Vec3 Float32) : Prop :=
  v.x.isFinite = true ∧ v.y.isFinite = true ∧ v.z.isFinite = true

instance (v : Vec3 Float32) : Decidable v.IsFinite := inferInstanceAs (Decidable (_ ∧ _))

/-- Every coordinate of a vertex goes into the first one it has on the screen. -/
theorem isFinite_apply (m : Mat4 Float32) {v : Vec3 Float32} (h : ¬ v.IsFinite) (w : Float32) :
    (m.apply (v.extend w)).x.isFinite = false := by
  change (m.xAxis.x * v.x + m.yAxis.x * v.y + m.zAxis.x * v.z + m.wAxis.x * w).isFinite = false
  simp only [Vec3.IsFinite, not_and_or, Bool.not_eq_true] at h
  apply isFinite_add
  left
  rcases h with hx | hy | hz
  · exact isFinite_add (.inl (isFinite_add (.inl (isFinite_mul (.inr hx)))))
  · exact isFinite_add (.inl (isFinite_add (.inr (isFinite_mul (.inr hy)))))
  · exact isFinite_add (.inr (isFinite_mul (.inr hz)))

/-- **What is no place is not projected**, whatever the transform and the viewport. -/
theorem project_eq_none (m : Mat4 Float32) (viewport : Viewport) {v : Vec3 Float32}
    (h : ¬ v.IsFinite) : project m viewport v = none := by
  have hclip : (m.apply (v.extend (Scalar.ofInt 1))).isFinite = false := by
    change (Float32.isFinite _ && _ && _ && _) = false
    rw [isFinite_apply m h]
    rfl
  unfold project
  dsimp only
  rw [hclip]
  rfl

/-! ## Texture coordinates -/

/-- The finite number a coordinate is rounded like. -/
def standIn (v : Float32) : Float32 :=
  match Binary32.ofFloat v with
  | .nan => 0
  | .infinite negative => Float32.ofInt (if negative then -2 ^ 63 else 2 ^ 63)
  | .finite _ _ _ => v

theorem isFinite_standIn (v : Float32) : (standIn v).isFinite = true := by
  unfold standIn
  cases hv : Binary32.ofFloat v with
  | nan =>
    show Float32.isFinite 0 = true
    decide +kernel
  | infinite negative =>
    show (Float32.ofInt (if negative then -2 ^ 63 else 2 ^ 63)).isFinite = true
    cases negative <;> decide +kernel
  | finite negative m e => exact (isFinite_iff v).mpr ⟨negative, m, e, hv⟩

theorem standIn_of_isFinite {v : Float32} (h : v.isFinite = true) : standIn v = v := by
  obtain ⟨negative, m, e, hv⟩ := (isFinite_iff v).mp h
  rw [standIn, hv]

/-- Both are rounded to the same pixel. -/
theorem nearestWord_standIn (v : Float32) : nearestWord (standIn v) = nearestWord v := by
  cases hv : Binary32.ofFloat v with
  | nan =>
    rw [standIn, nearestWord.eq_def v, hv, ← toWord_eq]
    show Scalar.toWord (0 : Float32) = 0
    decide +kernel
  | infinite negative =>
    rw [standIn, nearestWord.eq_def v, hv, ← toWord_eq]
    show Scalar.toWord (Float32.ofInt (if negative then -2 ^ 63 else 2 ^ 63)) =
      if negative then -2 ^ 63 else 2 ^ 63 - 1
    cases negative <;> decide +kernel
  | finite negative m e => rw [standIn, hv]

/-- The same channel with finite coordinates. -/
def TexCoordChannel.withStandIns (c : TexCoordChannel Float32) : TexCoordChannel Float32 :=
  { c with values := c.values.map standIn }

namespace DrawContext

/-- The same context with finite texture coordinates. -/
def withStandIns (c : DrawContext) : DrawContext :=
  { c with
    bindings := { c.bindings with
      vertexBuffer := c.bindings.vertexBuffer.map fun b =>
        { b with data := { b.data with
          texCoords := b.data.texCoords.map TexCoordChannel.withStandIns } } } }

variable (c : DrawContext) {mode : DrawMode} {start count : UInt32}

theorem vertexData_withStandIns : c.withStandIns.vertexData =
    ⟨c.vertexData.points, c.vertexData.texCoords.map TexCoordChannel.withStandIns⟩ := by
  unfold vertexData withStandIns
  cases c.bindings.vertexBuffer <;> rfl

theorem channel_withStandIns : c.withStandIns.channel = c.channel.withStandIns := by
  rw [channel, channel, vertexData_withStandIns]
  cases c.vertexData.texCoords <;> rfl

theorem landing_withStandIns (vertex : Nat) :
    c.withStandIns.landing vertex = c.landing vertex := by
  rw [landing, landing, vertexData_withStandIns]
  rfl

/-- Every side ends at the same pixel. -/
theorem nearestWord_sideEnd_withStandIns (vertex : Nat) (side : RectSide) :
    nearestWord (c.withStandIns.sideEnd vertex side) = nearestWord (c.sideEnd vertex side) := by
  have hvalue : ∀ i, nearestWord (c.withStandIns.channel.values.getD i 0) =
      nearestWord (c.channel.values.getD i 0) := by
    intro i
    have hzero : standIn 0 = 0 := standIn_of_isFinite (by decide +kernel)
    rw [channel_withStandIns, ← nearestWord_standIn (c.channel.values.getD i 0),
      TexCoordChannel.withStandIns, List.getD_eq_getElem?_getD, List.getD_eq_getElem?_getD,
      List.getElem?_map]
    cases c.channel.values[i]? with
    | none => rw [Option.map_none, Option.getD_none, hzero]
    | some v => rfl
  cases side with
  | destinationWidth => rw [sideEnd, sideEnd, landing_withStandIns]
  | destinationHeight => rw [sideEnd, sideEnd, landing_withStandIns]
  | sourceWidth => exact hvalue _
  | sourceHeight => exact hvalue _

theorem firstEnd_withStandIns (side : RectSide) : c.withStandIns.firstEnd side = c.firstEnd side :=
  nearestWord_sideEnd_withStandIns c 0 side

theorem lastEnd_withStandIns (side : RectSide) : c.withStandIns.lastEnd side = c.lastEnd side :=
  nearestWord_sideEnd_withStandIns c 3 side

theorem values_length_withStandIns :
    c.withStandIns.channel.values.length = c.channel.values.length := by
  rw [channel_withStandIns, TexCoordChannel.withStandIns, List.length_map]

theorem texCoords_length_withStandIns :
    c.withStandIns.vertexData.texCoords.length = c.vertexData.texCoords.length := by
  rw [vertexData_withStandIns, List.length_map]

theorem points_withStandIns : c.withStandIns.vertexData.points = c.vertexData.points := by
  rw [vertexData_withStandIns]

theorem width_withStandIns : c.withStandIns.channel.width = c.channel.width := by
  rw [channel_withStandIns, TexCoordChannel.withStandIns]

theorem meets_withStandIns (r : QuadRule) :
    c.withStandIns.Meets mode start count r ↔ c.Meets mode start count r := by
  cases r with
  | buffer => exact not_congr Option.map_eq_none_iff
  | fourPoints => simp only [Meets, points_withStandIns]
  | oneChannel => simp only [Meets, texCoords_length_withStandIns]
  | pairs => simp only [Meets, width_withStandIns]
  | strip => rfl
  | allVertices => rfl
  | eightValues => simp only [Meets, values_length_withStandIns]
  | lands vertex => simp only [Meets, landing_withStandIns]
  | fits side => simp only [Meets, firstEnd_withStandIns, lastEnd_withStandIns]

theorem fault_withStandIns (r : QuadRule) :
    c.withStandIns.fault mode start count r = c.fault mode start count r := by
  cases r with
  | buffer => rfl
  | fourPoints => simp only [fault, points_withStandIns]
  | oneChannel => simp only [fault, texCoords_length_withStandIns]
  | pairs => simp only [fault, width_withStandIns]
  | strip => rfl
  | allVertices => rfl
  | eightValues => simp only [fault, values_length_withStandIns]
  | lands vertex => rfl
  | fits side => simp only [fault, firstEnd_withStandIns, lastEnd_withStandIns]

/-- **Stand-ins have the same rectangles**, or are refused for the same fault. -/
theorem quad_withStandIns :
    c.withStandIns.quad mode start count = c.quad mode start count := by
  rw [quad_eq_verdict, quad_eq_verdict]
  refine verdict_congr ?_ ?_ ?_
  · exact fun r _ => c.meets_withStandIns r
  · exact fun r _ _ => c.fault_withStandIns r
  · simp only [quadRects, firstEnd_withStandIns, lastEnd_withStandIns]

theorem decision_withStandIns :
    c.withStandIns.decision mode start count = c.decision mode start count := by
  have hroute : c.withStandIns.route = c.route := rfl
  have hparams : c.withStandIns.params = c.params := rfl
  have htarget : c.withStandIns.bindings.renderTarget = c.bindings.renderTarget := rfl
  have hswapchain : c.withStandIns.swapchain = c.swapchain := rfl
  unfold decision
  rw [hroute, quad_withStandIns, hparams, htarget, hswapchain]

end DrawContext

/-! ## Draws -/

/-- The rules that hang on no coordinate. -/
def QuadRule.ofShape : List QuadRule :=
  [buffer, fourPoints, oneChannel, pairs, strip, allVertices, eightValues]

/-- The rules that hang on where the corners are, one for every side. -/
def QuadRule.ofSides : List QuadRule :=
  [fits .destinationWidth, fits .destinationHeight, fits .sourceWidth, fits .sourceHeight]

namespace DrawContext

variable {c : DrawContext} {mode : DrawMode} {start count : UInt32}

/-- Rules that are kept to decide nothing. -/
theorem verdict_append {rules : List QuadRule} (h : ∀ r ∈ rules, c.Meets mode start count r)
    (rest : List QuadRule) :
    c.verdict mode start count (rules ++ rest) = c.verdict mode start count rest := by
  induction rules with
  | nil => rfl
  | cons r rules ih =>
    rw [List.cons_append, verdict_of_meets (h r (List.mem_cons_self ..))]
    exact ih fun r' hr' => h r' (List.mem_cons_of_mem r hr')

theorem quad_of_shape (h : ∀ r ∈ QuadRule.ofShape, c.Meets mode start count r) :
    c.quad mode start count =
      c.verdict mode start count (.lands 0 :: .lands 3 :: QuadRule.ofSides) := by
  rw [quad_eq_verdict]
  exact verdict_append h _

/-- A quad of the right shape is refused for the first corner that lands nowhere. -/
theorem quad_of_lost_corner (hshape : ∀ r ∈ QuadRule.ofShape, c.Meets mode start count r)
    (h : ∃ vertex ∈ [0, 3], c.landing vertex = none) :
    ∃ vertex ∈ [0, 3], c.quad mode start count = .error (.notABlit (.offScreen vertex)) := by
  rw [quad_of_shape hshape]
  by_cases h0 : c.Meets mode start count (.lands 0)
  · have h3 : ¬ c.Meets mode start count (.lands 3) := by
      obtain ⟨vertex, hv, hlost⟩ := h
      have hvertex : vertex = 0 ∨ vertex = 3 := by simpa using hv
      rcases hvertex with rfl | rfl
      · exact absurd hlost h0
      · exact not_not.mpr hlost
    rw [verdict_of_meets h0]
    exact ⟨3, by simp, verdict_of_broken h3⟩
  · exact ⟨0, by simp, verdict_of_broken h0⟩

/-- One with both corners on the screen is refused for a side that is no word. -/
theorem quad_of_corners (hshape : ∀ r ∈ QuadRule.ofShape, c.Meets mode start count r)
    (hland : ∀ vertex ∈ [0, 3], c.landing vertex ≠ none) :
    (∀ side, Word.i64.Holds (c.lastEnd side - c.firstEnd side)) ∧
        c.quad mode start count = .ok c.quadRects ∨
      ∃ side, ¬ Word.i64.Holds (c.lastEnd side - c.firstEnd side) ∧ c.quad mode start count =
        .error (.notABlit (.extent side (c.firstEnd side) (c.lastEnd side))) := by
  have h0 : c.Meets mode start count (.lands 0) := hland 0 (by simp)
  have h3 : c.Meets mode start count (.lands 3) := hland 3 (by simp)
  rw [quad_of_shape hshape, verdict_of_meets h0, verdict_of_meets h3, verdict]
  cases hfind : QuadRule.ofSides.find? fun r => ¬ c.Meets mode start count r with
  | none =>
    have hall : ∀ r ∈ QuadRule.ofSides, c.Meets mode start count r := by
      simpa using List.find?_eq_none.mp hfind
    left
    exact ⟨fun side => hall (.fits side) (by cases side <;> simp [QuadRule.ofSides]), rfl⟩
  | some r =>
    have hbroken : ¬ c.Meets mode start count r := by simpa using List.find?_some hfind
    have hside : ∃ side, r = .fits side := by
      have hmem := List.mem_of_find?_eq_some hfind
      simp only [QuadRule.ofSides, List.mem_cons, List.not_mem_nil, or_false] at hmem
      rcases hmem with rfl | rfl | rfl | rfl <;> exact ⟨_, rfl⟩
    obtain ⟨side, rfl⟩ := hside
    right
    exact ⟨side, hbroken, rfl⟩

theorem landing_eq_none {vertex : Nat} {v : Vec3 Float32}
    (hv : c.vertexData.points[vertex]? = some v) (h : ¬ v.IsFinite) : c.landing vertex = none := by
  rw [landing, hv, Option.bind_some]
  exact project_eq_none _ _ h

theorem decision_of_quad_error (hruns : c.Runs .defaultDraw .defaultDraw) {e : Error}
    (h : c.quad mode start count = .error e) : c.decision mode start count = .refuse e := by
  have hroute : c.route = .ok .texturedBlit := route_of_runs hruns
  simp only [decision, hroute, h]

end DrawContext

namespace Session

variable {s : Session} {mode : DrawMode} {start count : UInt32}

/-- What is refused has no answer and leaves everything as it was. -/
theorem draw_of_quad_error (hruns : s.context.Runs .defaultDraw .defaultDraw) {e : Error}
    (h : s.context.quad mode start count = .error e) :
    (s.step (.draw mode start count)).answer = .error e ∧
      (s.step (.draw mode start count)).session = s := by
  rw [answer_draw, session_draw, DrawContext.decision_of_quad_error hruns h]
  exact ⟨rfl, rfl⟩

/-- With stand-ins the same is drawn. -/
theorem draw_withStandIns (s : Session) (mode : DrawMode) (start count : UInt32) :
    ((s.modifyContext DrawContext.withStandIns).step (.draw mode start count)).answer =
        (s.step (.draw mode start count)).answer ∧
      ((s.modifyContext DrawContext.withStandIns).step (.draw mode start count)).session.memory =
        (s.step (.draw mode start count)).session.memory := by
  have hd : (s.modifyContext DrawContext.withStandIns).context.decision mode start count =
      s.context.decision mode start count := s.context.decision_withStandIns
  rw [answer_draw, answer_draw, session_draw, session_draw, hd]
  exact ⟨rfl, rfl⟩

end Session

/-- **Positions that are not finite are refused, texture coordinates are not.** A quad of the right
shape with a position at vertex 0 or 3 that is not finite is no blit, and nothing is changed. In
place of a texture coordinate that is not finite its stand-in is drawn, which is zero or an end of
the words: the answer and the pixels are the same. So where both corners land, the draw is refused
exactly if a side between two rounded ends is no word. -/
theorem nonfinite_corners (s : Session) (mode : DrawMode) (start count : UInt32)
    (hruns : s.context.Runs .defaultDraw .defaultDraw)
    (hshape : ∀ r ∈ QuadRule.ofShape, s.context.Meets mode start count r) :
    ((∃ vertex ∈ [0, 3], ∃ v, s.context.vertexData.points[vertex]? = some v ∧ ¬ v.IsFinite) →
      ∃ vertex ∈ [0, 3],
        (s.step (.draw mode start count)).answer = .error (.notABlit (.offScreen vertex)) ∧
        (s.step (.draw mode start count)).session = s) ∧
    (∃ s' : Session, s' = s.modifyContext DrawContext.withStandIns ∧
      s'.context.vertexData.points = s.context.vertexData.points ∧
      s'.context.channel.values = s.context.channel.values.map standIn ∧
      (∀ v ∈ s'.context.channel.values, v.isFinite = true) ∧
      (s'.step (.draw mode start count)).answer = (s.step (.draw mode start count)).answer ∧
      (s'.step (.draw mode start count)).session.memory =
        (s.step (.draw mode start count)).session.memory) ∧
    ((∀ vertex ∈ [0, 3], s.context.landing vertex ≠ none) →
      (∀ side, Word.i64.Holds (s.context.lastEnd side - s.context.firstEnd side)) ∧
          s.context.quad mode start count = .ok s.context.quadRects ∨
        ∃ side, ¬ Word.i64.Holds (s.context.lastEnd side - s.context.firstEnd side) ∧
          (s.step (.draw mode start count)).answer = .error (.notABlit
            (.extent side (s.context.firstEnd side) (s.context.lastEnd side))) ∧
          (s.step (.draw mode start count)).session = s) := by
  refine ⟨?_, ?_, ?_⟩
  · rintro ⟨vertex, hvertex, v, hv, hfinite⟩
    obtain ⟨lost, hlost, hquad⟩ := DrawContext.quad_of_lost_corner hshape
      ⟨vertex, hvertex, DrawContext.landing_eq_none hv hfinite⟩
    exact ⟨lost, hlost, Session.draw_of_quad_error hruns hquad⟩
  · have hvalues : (s.modifyContext DrawContext.withStandIns).context.channel.values =
        s.context.channel.values.map standIn := by
      rw [Session.modifyContext, Session.context]
      exact congrArg TexCoordChannel.values s.context.channel_withStandIns
    refine ⟨_, rfl, s.context.points_withStandIns, hvalues, ?_, s.draw_withStandIns mode start count⟩
    intro v hv
    rw [hvalues] at hv
    obtain ⟨v', _, rfl⟩ := List.mem_map.mp hv
    exact isFinite_standIn v'
  · intro hland
    rcases DrawContext.quad_of_corners hshape hland with hblit | ⟨side, hside, hquad⟩
    · exact .inl hblit
    · exact .inr ⟨side, hside, Session.draw_of_quad_error hruns hquad⟩

/-- A device that is to draw the three colours onto white. Where the image starts, the quad has
these two values. -/
def drawingFrom (x u : Float32) : Session where
  device := {
    context := {
      bindings := {
        vertexShader := some ⟨.known .defaultDraw .vertex, .vertex, "default.effect", ""⟩
        fragmentShader := some ⟨.known .defaultDraw .fragment, .fragment, "default.effect", ""⟩
        vertexBuffer := some ⟨
          { points := [⟨x, 0, 0⟩, ⟨3, 0, 0⟩, ⟨x, 1, 0⟩, ⟨3, 1, 0⟩]
            texCoords := [⟨2, [u, 0, 3, 0, u, 1, 3, 1]⟩] }, false⟩
        renderTarget := some ⟨0⟩ }
      params := { image := some ⟨1⟩, colorVecs := Vector.replicate 3 Vec4.zero }
      transforms :=
        { projection := ortho 0 3 0 1 (-100) 100, saved := [], modelView := Mat4.identity
          viewport := ⟨0, 0, 3, 1⟩ } } }
  memory := { textures := #[threeWhites, threeColors] }

/-- From a position that is no number nothing is drawn. -/
theorem drawingFrom_unknown_position :
    ∃ vertex ∈ [0, 3], ((drawingFrom (0 / 0) 0).step (.draw .triStrip 0 0)).answer =
        .error (.notABlit (.offScreen vertex)) ∧
      ((drawingFrom (0 / 0) 0).step (.draw .triStrip 0 0)).session = drawingFrom (0 / 0) 0 :=
  (nonfinite_corners (drawingFrom (0 / 0) 0) .triStrip 0 0 ⟨_, _, rfl, rfl, rfl, rfl⟩
    (by decide +kernel)).1 ⟨0, by decide, _, rfl, by decide +kernel⟩

/-- From a texture coordinate that is no number the whole image is. -/
theorem unknown_coordinate_is_drawn :
    (∀ r ∈ QuadRule.ofShape, (drawingFrom 0 (0 / 0)).context.Meets .triStrip 0 0 r) ∧
      (∃ v, (drawingFrom 0 (0 / 0)).context.channel.values[0]? = some v ∧ v.isFinite = false) ∧
      ((drawingFrom 0 (0 / 0)).step (.draw .triStrip 0 0)).answer = .ok .done ∧
      ((drawingFrom 0 (0 / 0)).step (.draw .triStrip 0 0)).session.memory.texture ⟨0⟩ =
        threeColors ∧
      threeColors ≠ threeWhites :=
  ⟨by decide +kernel, ⟨_, rfl, by decide +kernel⟩, by decide +kernel, by decide +kernel,
    by decide +kernel⟩

end BlitDevice

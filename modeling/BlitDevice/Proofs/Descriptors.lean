import BlitDevice.Shader.Basic
import Mathlib

/-!
# What shader descriptors say

A descriptor is a directory, a file and a technique. It is read from its end, so a directory may be
called anything.

* `afterLast_append`, `beforeLast_append`, `exists_last` — lists cut at the last character of a
  class.
* `Descriptor.IsDirectory`, `Descriptor.split_append` — file and technique are found behind every
  directory.
* `Descriptor.eq_append_split` — whatever has a mark in it is put together from its parts.
* `ShaderKind.resolve_eq_known_iff` — the catalog's rows behind a directory are recognised, and
  nothing else.
* `descriptors_recognized` — all of it.
-/

set_option autoImplicit false

namespace BlitDevice

/-! ## The last character of a class -/

section last

variable {sep : Char → Bool} {cs ds : List Char} {c : Char}

/-- With one of a class in it, a list has a last one. -/
theorem exists_last (h : cs.any sep = true) :
    ∃ front c back, cs = front ++ c :: back ∧ sep c = true ∧ ∀ d ∈ back, sep d = false := by
  induction cs using List.reverseRecOn with
  | nil => cases h
  | append_singleton cs d ih =>
    by_cases hd : sep d = true
    · exact ⟨cs, d, [], rfl, hd, by simp⟩
    · have hany : cs.any sep = true := by simpa [hd] using h
      obtain ⟨front, c, back, rfl, hc, hback⟩ := ih hany
      refine ⟨front, c, back ++ [d], by simp, hc, ?_⟩
      intro d' hd'
      rcases List.mem_append.mp hd' with hmem | hmem
      · exact hback d' hmem
      · rw [List.mem_singleton.mp hmem]
        exact Bool.not_eq_true _ ▸ hd

/-- Read backwards, what comes after the last one is passed over first. -/
theorem passed_reverse (h : ∀ d ∈ ds, sep d = false) : ∀ d ∈ ds.reverse, (!sep d) = true := by
  intro d hd
  rw [h d (List.mem_reverse.mp hd), Bool.not_false]

theorem reverse_append_cons : (cs ++ c :: ds).reverse = ds.reverse ++ c :: cs.reverse := by
  rw [List.reverse_append, List.reverse_cons, List.append_assoc, List.singleton_append]

theorem afterLast_append (hc : sep c = true) (hds : ∀ d ∈ ds, sep d = false) :
    afterLast sep (cs ++ c :: ds) = ds := by
  rw [afterLast, reverse_append_cons, List.takeWhile_append_of_pos (passed_reverse hds),
    List.takeWhile_cons_of_neg (p := fun d => !sep d) (by simp [hc]), List.append_nil,
    List.reverse_reverse]

theorem beforeLast_append (hc : sep c = true) (hds : ∀ d ∈ ds, sep d = false) :
    beforeLast sep (cs ++ c :: ds) = cs := by
  rw [beforeLast, reverse_append_cons, List.dropWhile_append_of_pos (passed_reverse hds),
    List.dropWhile_cons_of_neg (p := fun d => !sep d) (by simp [hc]), List.drop_one,
    List.tail_cons, List.reverse_reverse]

/-- Without one, all of it comes after. -/
theorem afterLast_of_free (h : ∀ d ∈ ds, sep d = false) : afterLast sep ds = ds := by
  rw [afterLast, List.takeWhile_eq_self_iff.mpr (passed_reverse h), List.reverse_reverse]

theorem afterLast_free (sep : Char → Bool) (cs : List Char) :
    ∀ d ∈ afterLast sep cs, sep d = false := by
  intro d hd
  have hkept := List.mem_takeWhile_imp (List.mem_reverse.mp hd)
  rwa [Bool.not_eq_true'] at hkept

end last

/-! ## Directories -/

namespace Descriptor

/-- What may stand before a file: nothing, or anything that ends in a separator. -/
def IsDirectory (dir : String) : Prop :=
  dir = "" ∨ ∃ front : String, dir = front ++ "/" ∨ dir = front ++ "\\"

/-- The same, character by character. -/
theorem isDirectory_iff {dir : String} : IsDirectory dir ↔
    dir.toList = [] ∨ ∃ front c, isSeparator c = true ∧ dir.toList = front ++ [c] := by
  constructor
  · rintro (rfl | ⟨front, rfl | rfl⟩)
    · exact .inl rfl
    · exact .inr ⟨front.toList, '/', rfl, String.toList_append⟩
    · exact .inr ⟨front.toList, '\\', rfl, String.toList_append⟩
  · rintro (h | ⟨front, c, hc, h⟩)
    · exact .inl (String.toList_inj.mp h)
    · right
      have hsep : c = '/' ∨ c = '\\' := by
        simpa only [isSeparator, Bool.or_eq_true, beq_iff_eq] using hc
      refine ⟨String.ofList front, hsep.imp ?_ ?_⟩
      · rintro rfl
        rw [← String.toList_inj, h, String.toList_append, String.toList_ofList]
        rfl
      · rintro rfl
        rw [← String.toList_inj, h, String.toList_append, String.toList_ofList]
        rfl

/-- A name without separators is found behind every directory. -/
theorem afterLast_directory {dir : String} (hdir : IsDirectory dir) {file : List Char}
    (hfile : ∀ c ∈ file, isSeparator c = false) :
    afterLast isSeparator (dir.toList ++ file) = file := by
  rcases isDirectory_iff.mp hdir with h | ⟨front, c, hc, h⟩
  · rw [h, List.nil_append, afterLast_of_free hfile]
  · rw [h, List.append_assoc, List.singleton_append, afterLast_append hc hfile]

/-- What stands before the file is a directory. -/
theorem exists_directory (cs : List Char) :
    ∃ dir, IsDirectory dir ∧ cs = dir.toList ++ afterLast isSeparator cs := by
  by_cases h : cs.any isSeparator = true
  · obtain ⟨front, c, back, rfl, hc, hback⟩ := exists_last h
    refine ⟨String.ofList (front ++ [c]), ?_, ?_⟩
    · exact isDirectory_iff.mpr (.inr ⟨front, c, hc, String.toList_ofList⟩)
    · rw [afterLast_append hc hback, String.toList_ofList, List.append_assoc,
        List.singleton_append]
  · have hfree : ∀ c ∈ cs, isSeparator c = false := by simpa using h
    exact ⟨"", .inl rfl, (afterLast_of_free hfree).symm⟩

/-! ## Files and techniques -/

variable {dir file technique descriptor : String}

theorem toList_descriptor : (dir ++ file ++ ":" ++ technique).toList =
    (dir.toList ++ file.toList) ++ ':' :: technique.toList := by
  rw [String.toList_append, String.toList_append, String.toList_append, List.append_assoc]
  rfl

/-- **File and technique are found** behind every directory. -/
theorem split_append (hdir : IsDirectory dir) (hfile : '/' ∉ file.toList ∧ '\\' ∉ file.toList)
    (htechnique : ':' ∉ technique.toList) :
    split (dir ++ file ++ ":" ++ technique) = (file, technique) := by
  have hname : ∀ c ∈ file.toList, isSeparator c = false := by
    intro c hc
    rw [isSeparator, Bool.or_eq_false_iff, beq_eq_false_iff_ne, beq_eq_false_iff_ne]
    exact ⟨fun h => hfile.1 (h ▸ hc), fun h => hfile.2 (h ▸ hc)⟩
  have hunmarked : ∀ c ∈ technique.toList, isMark c = false := by
    intro c hc
    rw [isMark, beq_eq_false_iff_ne]
    exact fun h => htechnique (h ▸ hc)
  have hany : ((dir.toList ++ file.toList) ++ ':' :: technique.toList).any isMark = true := by
    rw [List.any_append, List.any_cons]
    simp [isMark]
  rw [split, toList_descriptor, splitChars, if_pos hany,
    beforeLast_append (c := ':') rfl hunmarked, afterLast_append (c := ':') rfl hunmarked,
    afterLast_directory hdir hname]
  dsimp only
  rw [String.ofList_toList, String.ofList_toList]

/-- Without a mark there is no technique. -/
theorem technique_eq_empty (h : descriptor.toList.any isMark = false) :
    (split descriptor).2 = "" := by
  rw [split, splitChars, if_neg (by simp [h])]

/-- With one, the descriptor is put together from its parts. -/
theorem eq_append_split (h : descriptor.toList.any isMark = true) :
    ∃ dir, IsDirectory dir ∧
      descriptor = dir ++ (split descriptor).1 ++ ":" ++ (split descriptor).2 := by
  obtain ⟨front, c, back, heq, hc, hback⟩ := exists_last h
  obtain rfl : c = ':' := beq_iff_eq.mp hc
  obtain ⟨dir, hdir, hfront⟩ := exists_directory front
  refine ⟨dir, hdir, ?_⟩
  rw [← String.toList_inj, toList_descriptor, split, splitChars, if_pos h, heq,
    beforeLast_append hc hback, afterLast_append hc hback]
  dsimp only
  rw [String.toList_ofList, String.toList_ofList, ← hfront]

/-- A file is never in a directory. -/
theorem file_free (descriptor : String) :
    '/' ∉ (split descriptor).1.toList ∧ '\\' ∉ (split descriptor).1.toList := by
  have hfree : ∀ c ∈ (split descriptor).1.toList, isSeparator c = false := by
    show ∀ c ∈ (String.ofList (splitChars descriptor.toList).1).toList, isSeparator c = false
    rw [String.toList_ofList, splitChars]
    split
    · exact afterLast_free _ _
    · exact afterLast_free _ _
  exact ⟨fun h => absurd (hfree _ h) (by decide), fun h => absurd (hfree _ h) (by decide)⟩

end Descriptor

/-! ## Recognised shaders -/

namespace ShaderKind

/-- The rows are named apart, and each is a file and a technique. -/
theorem catalog_wellFormed : ∀ row ∈ catalog,
    catalog.find? (fun r => r.file == row.file && r.technique == row.technique) = some row ∧
      ('/' ∉ row.file.toList ∧ '\\' ∉ row.file.toList) ∧ ':' ∉ row.technique.toList ∧
      row.technique ≠ "" := by
  decide

/-- File and technique are all that is looked up. -/
theorem resolve_congr {stage : ShaderStage} {s s' : String}
    (h : Descriptor.split s = Descriptor.split s') : resolve stage s = resolve stage s' := by
  simp only [resolve, h]

/-- **The rows behind a directory are recognised**, and nothing else. -/
theorem resolve_eq_known_iff {stage stage' : ShaderStage} {s : String} {program : Program} :
    resolve stage s = known program stage' ↔ stage' = stage ∧ ∃ row ∈ catalog,
      row.program = program ∧
        ∃ dir, Descriptor.IsDirectory dir ∧ s = dir ++ row.file ++ ":" ++ row.technique := by
  unfold resolve
  dsimp only
  constructor
  · intro h
    cases hfind : catalog.find? fun row =>
        row.file == (Descriptor.split s).1 && row.technique == (Descriptor.split s).2 with
    | none =>
      rw [hfind] at h
      cases h
    | some row =>
      rw [hfind] at h
      cases h
      have hrow : row ∈ catalog := List.mem_of_find?_eq_some hfind
      have hfound : row.file = (Descriptor.split s).1 ∧
          row.technique = (Descriptor.split s).2 := by
        simpa using List.find?_some hfind
      obtain ⟨_, _, _, htechnique⟩ := catalog_wellFormed row hrow
      have hany : s.toList.any Descriptor.isMark = true := by
        by_contra hnone
        rw [Bool.not_eq_true] at hnone
        exact htechnique (hfound.2.trans (Descriptor.technique_eq_empty hnone))
      obtain ⟨dir, hdir, hs⟩ := Descriptor.eq_append_split hany
      rw [← hfound.1, ← hfound.2] at hs
      exact ⟨rfl, row, hrow, rfl, dir, hdir, hs⟩
  · rintro ⟨rfl, row, hrow, rfl, dir, hdir, rfl⟩
    obtain ⟨hfind, hfile, htechnique, _⟩ := catalog_wellFormed row hrow
    rw [Descriptor.split_append hdir hfile htechnique, hfind]

/-- A shader is recognised in its own stage, or not at all. -/
theorem resolve_eq_unknown_iff {stage : ShaderStage} {s : String} :
    resolve stage s = unknown ↔ ¬ ∃ row ∈ catalog,
      ∃ dir, Descriptor.IsDirectory dir ∧ s = dir ++ row.file ++ ":" ++ row.technique := by
  constructor
  · rintro hunknown ⟨row, hrow, hdir⟩
    have hknown : resolve stage s = known row.program stage :=
      resolve_eq_known_iff.mpr ⟨rfl, row, hrow, rfl, hdir⟩
    rw [hunknown] at hknown
    cases hknown
  · intro hnone
    cases hkind : resolve stage s with
    | unknown => rfl
    | known program stage' =>
      obtain ⟨_, row, hrow, _, hdir⟩ := resolve_eq_known_iff.mp hkind
      exact absurd ⟨row, hrow, hdir⟩ hnone

end ShaderKind

/-- What is created and what is told: one warning, if the descriptor is not recognised. -/
theorem Shader.create_eq (stage : ShaderStage) (s : String) :
    Shader.create stage s =
      (⟨ShaderKind.resolve stage s, stage, (Descriptor.split s).1, s⟩,
        if ShaderKind.resolve stage s = .unknown then [.unknownShader s] else []) := by
  unfold create log ofDescriptor
  dsimp only

/-- **Descriptors are recognised by what they say.** A shader is known, in the stage it was asked
for, exactly if its descriptor is a row of the catalog behind some directory; otherwise it is
unknown, and that alone is warned of, once. The file and the technique of a descriptor are found
behind every directory, so the directory does not matter, and no file has a separator in it. -/
theorem descriptors_recognized (stage : ShaderStage) :
    (∀ s program stage', ShaderKind.resolve stage s = .known program stage' ↔
      stage' = stage ∧ ∃ row ∈ catalog, row.program = program ∧
        ∃ dir, Descriptor.IsDirectory dir ∧ s = dir ++ row.file ++ ":" ++ row.technique) ∧
    (∀ s, ShaderKind.resolve stage s = .unknown ↔ ¬ ∃ row ∈ catalog,
      ∃ dir, Descriptor.IsDirectory dir ∧ s = dir ++ row.file ++ ":" ++ row.technique) ∧
    (∀ dir file technique, Descriptor.IsDirectory dir →
      (':' ∉ file.toList ∧ '/' ∉ file.toList ∧ '\\' ∉ file.toList) → ':' ∉ technique.toList →
        Descriptor.split (dir ++ file ++ ":" ++ technique) = (file, technique) ∧
        (Shader.create stage (dir ++ file ++ ":" ++ technique)).1.file = file ∧
        (Shader.create stage (dir ++ file ++ ":" ++ technique)).1.kind =
          (Shader.create stage (file ++ ":" ++ technique)).1.kind) ∧
    ∀ s, (Shader.create stage s).1.kind = ShaderKind.resolve stage s ∧
      ('/' ∉ (Shader.create stage s).1.file.toList ∧
        '\\' ∉ (Shader.create stage s).1.file.toList) ∧
      ((Shader.create stage s).1.kind = .unknown →
        ∃ r, (Shader.create stage s).2 = [r] ∧ r.level = .warn) ∧
      ((Shader.create stage s).1.kind ≠ .unknown → (Shader.create stage s).2 = []) := by
  refine ⟨fun s program stage' => ShaderKind.resolve_eq_known_iff,
    fun s => ShaderKind.resolve_eq_unknown_iff, ?_, ?_⟩
  · rintro dir file technique hdir ⟨_, hfile⟩ htechnique
    have hsplit := Descriptor.split_append hdir hfile htechnique
    have hbare := Descriptor.split_append (.inl rfl) hfile htechnique
    rw [String.empty_append] at hbare
    rw [Shader.create_eq, Shader.create_eq]
    dsimp only
    refine ⟨hsplit, ?_, ?_⟩
    · rw [hsplit]
    · exact ShaderKind.resolve_congr (hsplit.trans hbare.symm)
  · intro s
    rw [Shader.create_eq]
    dsimp only
    refine ⟨rfl, Descriptor.file_free s, ?_, ?_⟩
    · intro hunknown
      exact ⟨_, if_pos hunknown, rfl⟩
    · intro hknown
      exact if_neg hknown

/-- Behind a drive letter and two kinds of separators. A file that is in no catalog keeps its name. -/
theorem drive_letter_is_ignored :
    ShaderKind.resolve .fragment "C:\\fx/default.effect:Draw" = .known .defaultDraw .fragment ∧
      (Shader.create .vertex ("a:b/" ++ "mine" ++ ":" ++ "Draw/x")).1.file = "mine" ∧
      ∃ r, (Shader.create .vertex "Draw").2 = [r] ∧ r.level = .warn := by
  obtain ⟨hknown, _, _, _⟩ := descriptors_recognized .fragment
  obtain ⟨_, _, hsplit, hlog⟩ := descriptors_recognized .vertex
  refine ⟨?_, ?_, ?_⟩
  · exact (hknown _ _ _).mpr ⟨rfl, ⟨"default.effect", "Draw", .defaultDraw⟩, .head _, rfl,
      "C:\\fx/", .inr ⟨"C:\\fx", .inl (by decide)⟩, by decide⟩
  · exact (hsplit _ _ _ (.inr ⟨"a:b", .inl (by decide)⟩) (by decide) (by decide)).2.1
  · exact (hlog _).2.2.1 (by decide)

end BlitDevice

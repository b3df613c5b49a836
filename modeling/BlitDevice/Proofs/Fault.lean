import Mathlib
import BlitDevice.Log

/-!
# Procedures that faults can stop

Calls answer with a value or with an error. A fault is neither: it stops a computation that leaves
its machine words, its buffer, or what it may touch.

* `FailsOnly` — what a result can fail with.
* `Word.hold` — a whole number as a machine word, if the word has it.
* `euclidean`, `clampTo` — division and clamping, with what they ask for checked.
* `InPlace` — procedures that change a state as they go. An error keeps what was changed before it;
  nothing is put back.
* `InPlace.run_forM` — a loop whose every round runs through runs through, and folds the rounds.
-/

set_option autoImplicit false

namespace BlitDevice

/-- What stops a computation. -/
inductive Fault where
  /-- A machine word does not have the value. -/
  | overflow
  /-- The divisor is not positive. -/
  | divisor
  /-- The least value is above the greatest. -/
  | emptyRange
  /-- Bytes are read or written outside a buffer, or a different number than there are. -/
  | outOfBounds
  /-- A surface is taken hold of while someone else holds it, or is touched without holding it. -/
  | conflict
  deriving DecidableEq, Repr

abbrev Checked (α : Type) := Except Fault α

@[simp] theorem ok_bind {ε α β : Type} (a : α) (f : α → Except ε β) :
    (Except.ok a >>= f) = f a := rfl

@[simp] theorem Checked.pure_eq {α : Type} (a : α) : (pure a : Checked α) = .ok a := rfl

theorem bind_eq_ok {ε α β : Type} {x : Except ε α} {f : α → Except ε β} {b : β} :
    x >>= f = .ok b ↔ ∃ a, x = .ok a ∧ f a = .ok b := by
  cases x with
  | ok a =>
    constructor
    · intro h
      exact ⟨a, rfl, h⟩
    · rintro ⟨_, h, hf⟩
      cases h
      exact hf
  | error e =>
    constructor
    · intro h
      cases h
    · rintro ⟨_, h, _⟩
      cases h

/-- If it fails, then with an error that has the property. -/
def FailsOnly {α : Type} (P : Error → Prop) (r : Except Error α) : Prop := ∀ e, r = .error e → P e

section FailsOnly

variable {α β : Type} {P : Error → Prop}

theorem failsOnly_ok (a : α) : FailsOnly P (.ok a) := by
  intro e h
  cases h

theorem failsOnly_error {e : Error} (h : P e) : FailsOnly P (.error e : Except Error α) := by
  intro e' he
  cases he
  exact h

theorem failsOnly_bind {x : Except Error α} {f : α → Except Error β} (hx : FailsOnly P x)
    (hf : ∀ a, FailsOnly P (f a)) : FailsOnly P (x >>= f) := by
  cases x with
  | ok a => exact hf a
  | error e => exact failsOnly_error (hx e rfl)

theorem failsOnly_map {x : Except Error α} (f : α → β) (hx : FailsOnly P x) :
    FailsOnly P (x.map f) := by
  cases x with
  | ok a => exact failsOnly_ok (f a)
  | error e => exact failsOnly_error (hx e rfl)

end FailsOnly

/-! ## Machine words -/

inductive Word where
  | u32 | u64 | i64 | i128
  deriving DecidableEq, Repr

namespace Word

def least : Word → Int
  | u32 | u64 => 0
  | i64 => -2 ^ 63
  | i128 => -2 ^ 127

def greatest : Word → Int
  | u32 => 2 ^ 32 - 1
  | u64 => 2 ^ 64 - 1
  | i64 => 2 ^ 63 - 1
  | i128 => 2 ^ 127 - 1

/-- The word has the value. -/
def Holds (w : Word) (v : Int) : Prop := w.least ≤ v ∧ v ≤ w.greatest

instance (w : Word) (v : Int) : Decidable (w.Holds v) := inferInstanceAs (Decidable (_ ∧ _))

/-- The value as a word: the result of an operation on words, or of a change of word. -/
def hold (w : Word) (v : Int) : Checked Int := if w.Holds v then .ok v else .error .overflow

theorem hold_eq {w : Word} {v : Int} (h : w.Holds v) : w.hold v = .ok v := if_pos h

theorem holds_u32 {v : Int} : u32.Holds v ↔ 0 ≤ v ∧ v < 2 ^ 32 := by
  simp only [Holds, least, greatest]; omega

theorem holds_u64 {v : Int} : u64.Holds v ↔ 0 ≤ v ∧ v < 2 ^ 64 := by
  simp only [Holds, least, greatest]; omega

theorem holds_i64 {v : Int} : i64.Holds v ↔ -2 ^ 63 ≤ v ∧ v < 2 ^ 63 := by
  simp only [Holds, least, greatest]; omega

theorem holds_i128 {v : Int} : i128.Holds v ↔ -2 ^ 127 ≤ v ∧ v < 2 ^ 127 := by
  simp only [Holds, least, greatest]; omega

/-- A natural number below the bound is a 64-bit number. -/
theorem hold_natCast {n : Nat} (h : n < 2 ^ 64) : u64.hold (n : Int) = .ok (n : Int) :=
  hold_eq (holds_u64.mpr ⟨by omega, by omega⟩)

/-- Twice as many bits hold every product, with room to spare. -/
theorem abs_mul_le {a b : Int} (ha : i64.Holds a) (hb : i64.Holds b) : |a * b| ≤ 2 ^ 126 := by
  rw [holds_i64] at ha hb
  have ha' : |a| ≤ 2 ^ 63 := abs_le.mpr ⟨ha.1, by omega⟩
  have hb' : |b| ≤ 2 ^ 63 := abs_le.mpr ⟨hb.1, by omega⟩
  calc |a * b| = |a| * |b| := abs_mul a b
    _ ≤ 2 ^ 63 * 2 ^ 63 := mul_le_mul ha' hb' (abs_nonneg b) (by norm_num)
    _ = 2 ^ 126 := by norm_num

end Word

/-- Division rounding to the floor, which asks for a positive divisor. -/
def euclidean (w : Word) (a b : Int) : Checked Int :=
  if 0 < b then w.hold (a / b) else .error .divisor

/-- The nearest value of a range, which must not be empty. -/
def clampTo (low high v : Int) : Checked Int :=
  if low ≤ high then .ok (if v < low then low else if high < v then high else v)
  else .error .emptyRange

/-- The whole numbers from `first` up to before `stop`. -/
def wholeNumbers (first stop : Int) : List Int :=
  (List.range (stop - first).toNat).map fun i : Nat => first + (i : Int)

theorem mem_wholeNumbers {first stop v : Int} :
    v ∈ wholeNumbers first stop ↔ first ≤ v ∧ v < stop := by
  simp only [wholeNumbers, List.mem_map, List.mem_range]
  constructor
  · rintro ⟨i, hi, rfl⟩; omega
  · intro h; exact ⟨(v - first).toNat, by omega, by omega⟩

theorem wholeNumbers_zero (n : Nat) :
    wholeNumbers 0 n = (List.range n).map fun i : Nat => (i : Int) := by
  simp only [wholeNumbers, Int.sub_zero, Int.toNat_natCast, Int.zero_add]

/-- A quotient is no larger than what is divided. -/
theorem abs_ediv_le {a b : Int} (hb : 0 < b) : |a / b| ≤ |a| := by
  rcases le_or_gt 0 a with ha | ha
  · rw [abs_of_nonneg (Int.ediv_nonneg ha hb.le), abs_of_nonneg ha]
    exact Int.ediv_le_self _ ha
  · have hneg : a / b < 0 := Int.ediv_neg_of_neg_of_pos ha hb
    have hle : a ≤ a / b := Int.le_ediv_of_mul_le hb (by nlinarith)
    rw [abs_of_neg hneg, abs_of_neg ha]
    omega

/-! ## Procedures on a state -/

/-- A procedure on a state: it ends with a value or an error, and either way with the state as it
was changed; or a fault stops it. -/
structure InPlace (σ α : Type) where
  run : σ → Checked (Except Error α × σ)

/-- States that keep what was told. -/
class Telling (σ : Type) where
  add : Record → σ → σ

namespace InPlace

variable {σ α β ι : Type}

/-- Goes on from what a procedure came to. -/
def andThen (r : Checked (Except Error α × σ)) (f : α → InPlace σ β) :
    Checked (Except Error β × σ) :=
  match r with
  | .ok (.ok a, s) => (f a).run s
  | .ok (.error e, s) => .ok (.error e, s)
  | .error fault => .error fault

instance : Monad (InPlace σ) where
  pure a := ⟨fun s => .ok (.ok a, s)⟩
  bind x f := ⟨fun s => andThen (x.run s) f⟩

/-- A result found without looking at the state. -/
def ofExcept (r : Except Error α) : InPlace σ α := ⟨fun s => .ok (r, s)⟩

def refuse (e : Error) : InPlace σ α := ofExcept (.error e)

/-- A computation on words and buffers. -/
def checked (c : Checked α) : InPlace σ α := ⟨fun s => c.map fun a => (.ok a, s)⟩

def state : InPlace σ σ := ⟨fun s => .ok (.ok s, s)⟩

def change (f : σ → σ) : InPlace σ Unit := ⟨fun s => .ok (.ok (), f s)⟩

def tell [Telling σ] (r : Record) : InPlace σ Unit := change (Telling.add r)

/-- Tells the error, if there is one, and hands the result on. -/
def reported [Telling σ] (x : InPlace σ α) : InPlace σ α := ⟨fun s =>
  match x.run s with
  | .ok (.error e, s') => .ok (.error e, Telling.add (.failed e) s')
  | .ok (.ok a, s') => .ok (.ok a, s')
  | .error fault => .error fault⟩

@[simp] theorem run_pure (a : α) (s : σ) : (pure a : InPlace σ α).run s = .ok (.ok a, s) := rfl

@[simp] theorem run_ofExcept (r : Except Error α) (s : σ) :
    (ofExcept r : InPlace σ α).run s = .ok (r, s) := rfl

@[simp] theorem run_refuse (e : Error) (s : σ) :
    (refuse e : InPlace σ α).run s = .ok (.error e, s) := rfl

@[simp] theorem run_state (s : σ) : (state : InPlace σ σ).run s = .ok (.ok s, s) := rfl

@[simp] theorem run_change (f : σ → σ) (s : σ) : (change f).run s = .ok (.ok (), f s) := rfl

@[simp] theorem run_tell [Telling σ] (r : Record) (s : σ) :
    (tell r).run s = .ok (.ok (), Telling.add r s) := rfl

theorem run_checked {c : Checked α} {a : α} (h : c = .ok a) (s : σ) :
    (checked c : InPlace σ α).run s = .ok (.ok a, s) := by
  rw [h]; rfl

@[simp] theorem run_bind (x : InPlace σ α) (f : α → InPlace σ β) (s : σ) :
    (x >>= f).run s = andThen (x.run s) f := rfl

@[simp] theorem andThen_ok (a : α) (s : σ) (f : α → InPlace σ β) :
    andThen (.ok (.ok a, s)) f = (f a).run s := rfl

@[simp] theorem andThen_error (e : Error) (s : σ) (f : α → InPlace σ β) :
    andThen (.ok (.error e, s)) f = .ok (.error e, s) := rfl

theorem ext_run {x y : InPlace σ α} (h : ∀ s, x.run s = y.run s) : x = y := by
  obtain ⟨f⟩ := x
  obtain ⟨g⟩ := y
  exact congrArg InPlace.mk (funext h)

theorem andThen_pure (r : Checked (Except Error α × σ)) : andThen r pure = r := by
  rcases r with fault | ⟨_ | _, _⟩ <;> rfl

theorem andThen_andThen {γ : Type} (r : Checked (Except Error α × σ)) (f : α → InPlace σ β)
    (g : β → InPlace σ γ) : andThen (andThen r f) g = andThen r fun a => f a >>= g := by
  rcases r with fault | ⟨_ | _, _⟩ <;> rfl

instance : LawfulMonad (InPlace σ) := .mk' _
  (fun x => ext_run fun s => andThen_pure (x.run s))
  (fun _ _ => rfl)
  (fun x f g => ext_run fun s => andThen_andThen (x.run s) f g)

theorem reported_ok [Telling σ] {x : InPlace σ α} {a : α} {s s' : σ}
    (h : x.run s = .ok (.ok a, s')) : (reported x).run s = .ok (.ok a, s') := by
  simp only [reported, h]

theorem reported_error [Telling σ] {x : InPlace σ α} {e : Error} {s s' : σ}
    (h : x.run s = .ok (.error e, s')) :
    (reported x).run s = .ok (.error e, Telling.add (.failed e) s') := by
  simp only [reported, h]

/-- **A loop runs through if each of its rounds does**: `P` is what the rounds keep, `g` what each
does to the state. -/
theorem run_forM {P : σ → Prop} {f : ι → InPlace σ Unit} {g : σ → ι → σ} (xs : List ι)
    (round : ∀ i ∈ xs, ∀ s, P s → (f i).run s = .ok (.ok (), g s i) ∧ P (g s i)) :
    ∀ s, P s → (forM xs f).run s = .ok (.ok (), xs.foldl g s) ∧ P (xs.foldl g s) := by
  induction xs with
  | nil => intro s hs; exact ⟨rfl, hs⟩
  | cons i xs ih =>
    intro s hs
    obtain ⟨hrun, hP⟩ := round i List.mem_cons_self s hs
    rw [List.forM_cons, run_bind, hrun, andThen_ok]
    exact ih (fun j hj => round j (List.mem_cons_of_mem _ hj)) _ hP

/-- Rounds that ask nothing of the state are folded from any. -/
theorem run_forM_of_forall {f : ι → InPlace σ Unit} {g : σ → ι → σ} {xs : List ι}
    (round : ∀ i ∈ xs, ∀ s, (f i).run s = .ok (.ok (), g s i)) (s : σ) :
    (forM xs f).run s = .ok (.ok (), xs.foldl g s) :=
  (run_forM (P := fun _ => True) xs (fun i hi s _ => ⟨round i hi s, trivial⟩) s trivial).1

end InPlace

end BlitDevice

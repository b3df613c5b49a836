import BlitDevice.Bytes
import BlitDevice.Png.Error

/-!
# Rows and their filters

* `RowFilter` — what a byte of a row is given as a difference to.
* `unfilterRow` — the bytes of a row from its differences; `unfilterRow_none`: without a filter the
  bytes are as they stand.
* `readFilter` — the filter of a row, named by the byte before it.
* `readRows` — rows one after the other.
-/

set_option autoImplicit false

namespace BlitDevice.Png

/-- What a byte is given as a difference to: nothing, the byte of the pixel before, the byte above,
their mean, or whichever of three neighbours is nearest to a linear guess. -/
inductive RowFilter where
  | none | sub | up | average | paeth
  deriving DecidableEq, Repr

namespace RowFilter

def all : List RowFilter := [none, sub, up, average, paeth]

/-- The filter a byte names. -/
def ofByte? (b : UInt8) : Option RowFilter := all[b.toNat]?

/-- The neighbour nearest to `left + above - corner`; of equally near ones the first. -/
def nearestNeighbour (left above corner : UInt8) : UInt8 :=
  let guess : Int := left.toNat + above.toNat - corner.toNat
  let gap (b : UInt8) : Nat := (guess - b.toNat).natAbs
  if gap left ≤ gap above ∧ gap left ≤ gap corner then left
  else if gap above ≤ gap corner then above
  else corner

/-- What a byte is given as a difference to. -/
def predict (f : RowFilter) (left above corner : UInt8) : UInt8 :=
  match f with
  | none => 0
  | sub => left
  | up => above
  | average => UInt8.ofNat ((left.toNat + above.toNat) / 2)
  | paeth => nearestNeighbour left above corner

end RowFilter

/-- A byte of a row, zero before it. -/
def before (row : Bytes) (index distance : Nat) : UInt8 :=
  if distance ≤ index then row[index - distance]?.getD 0 else 0

/-- The bytes of a row, `distance` bytes to a pixel. `above` is the row before, or nothing. -/
def unfilterRow (f : RowFilter) (distance : Nat) (above : Bytes) (differences : List UInt8) :
    Bytes :=
  differences.foldl
    (fun row d =>
      let i := row.size
      row.push (d + f.predict (before row i distance) (above[i]?.getD 0) (before above i distance)))
    #[]

/-- Reads the byte before a row. -/
def readFilter (data : Bytes) (start : Nat) : Except DecodeError RowFilter :=
  match data[start]? with
  | none => .error .imageMissing
  | some b =>
    match RowFilter.ofByte? b with
    | none => .error .rowFilter
    | some f => .ok f

/-- Reads rows from `start` on. -/
def readRows (rowBytes distance : Nat) (data : Bytes) :
    Nat → Nat → Bytes → Except DecodeError (List Bytes)
  | 0, _, _ => .ok []
  | rows + 1, start, above =>
    match readFilter data start with
    | .error e => .error e
    | .ok f =>
      if data.size < start + 1 + rowBytes then .error .imageMissing
      else
        let row := unfilterRow f distance above (data.slice (start + 1) rowBytes)
        match readRows rowBytes distance data rows (start + 1 + rowBytes) row with
        | .error e => .error e
        | .ok rest => .ok (row :: rest)

theorem unfilterRow_none (distance : Nat) (above : Bytes) (bytes : List UInt8) :
    unfilterRow .none distance above bytes = bytes.toArray := by
  have key : ∀ (bs : List UInt8) (row : Bytes),
      bs.foldl (fun row d => row.push (d + RowFilter.none.predict (before row row.size distance)
        (above[row.size]?.getD 0) (before above row.size distance))) row = row ++ bs.toArray := by
    intro bs
    induction bs with
    | nil => intro row; simp
    | cons b bs ih => intro row; rw [List.foldl_cons, ih]; simp [RowFilter.predict]
  rw [unfilterRow, key]; simp

end BlitDevice.Png

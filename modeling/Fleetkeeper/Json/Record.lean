/-
Records from values. A record is read from an object, where members of other
names are skipped and a known member given twice is refused, or from an
array of its fields in order. What a missing field means is said where the
field is named: `required`, `optional` (unset when missing from an object),
`omittable` (unset when missing anywhere) or `orElse` with a value of its own.

A record is put together field by field, so its names and their order are
those of its fields. All fields are read, and of several complaints the one
that stands first in the text is reported; missing fields come after that,
in the order of the record.
-/
import Fleetkeeper.Json.Decode

namespace Fleetkeeper.Json

/-- What was found for a record: its members, in the order of the text. -/
structure Fields where
  members : List (String × Json)
  /-- Read from an array, where the end of the array is the end of the
  fields. -/
  positional : Bool
  /-- What the record is called in a complaint. -/
  what : String
  /-- The names of its fields, in order. -/
  names : List String

namespace Fields

/-- The values given under a name. -/
def values (fs : Fields) (name : String) : List Json :=
  (fs.members.filter fun m => m.1 == name).map Prod.snd

/-- Where a name stands for the first time, or again after `skip` times. -/
def placeOf (fs : Fields) (name : String) (skip : Nat) : Nat :=
  let places := fs.members.zipIdx.filter fun m => m.1.1 == name
  (places[skip]?.map Prod.snd).getD fs.members.length

end Fields

/-- A mismatch and where it stands among the members. -/
structure Complaint where
  place : Nat
  cause : Mismatch

namespace Complaint

/-- The one that stands first; of two in one place the left one. -/
def first (a b : Complaint) : Complaint :=
  if b.place < a.place then b else a

/-- A complaint about a field that is not there. -/
def missing (fs : Fields) (name : String) : Complaint where
  place := fs.members.length
  cause :=
    if fs.positional then
      .wrongLength (fs.names.idxOf name)
        (fs.what ++ " with " ++ toString fs.names.length
          ++ (if fs.names.length = 1 then " element" else " elements"))
    else .missingField name

end Complaint

/-- A reading of records: the fields it names, and the value they make. -/
structure Record (α : Type) where
  names : List String
  read : Fields → Except Complaint α

namespace Record

/-- Two readings of the same fields, both made whatever comes of the
other. -/
def both {α β : Type} :
    Except Complaint (α → β) → Except Complaint α → Except Complaint β
  | .ok f, .ok a => .ok (f a)
  | .ok _, .error c => .error c
  | .error c, .ok _ => .error c
  | .error c, .error d => .error (c.first d)

instance : Applicative Record where
  pure a := ⟨[], fun _ => .ok a⟩
  map f r := ⟨r.names, fun fs => (r.read fs).map f⟩
  seq f r :=
    ⟨f.names ++ (r ()).names, fun fs => both (f.read fs) ((r ()).read fs)⟩

/-- One field: how its value is read, and what it means that there is
none. -/
def field {α : Type} (name : String) (f : Decoder α)
    (absent : Fields → Except Complaint α) : Record α where
  names := [name]
  read fs :=
    match fs.values name with
    | [] => absent fs
    | j :: more =>
      match f j with
      | .error m => .error ⟨fs.placeOf name 0, m⟩
      | .ok a =>
        if more.isEmpty then .ok a
        else .error ⟨fs.placeOf name 1, .repeatedField name⟩

end Record

/-- A field that has to be there. -/
def required {α : Type} (name : String) (f : Decoder α) : Record α :=
  .field name f fun fs => .error (.missing fs name)

/-- A field that is unset when an object lacks it. -/
def optional {α : Type} (name : String) (f : Decoder α) : Record (Option α) :=
  .field name (asOption f) fun fs =>
    if fs.positional then .error (.missing fs name) else .ok none

/-- A field with a value of its own when it is missing. -/
def orElse {α : Type} (name : String) (f : Decoder α) (default : α) :
    Record α :=
  .field name f fun _ => .ok default

/-- A field that is unset when it is missing, even from an array. -/
def omittable {α : Type} (name : String) (f : Decoder α) : Record (Option α) :=
  orElse name (asOption f) none

/-- The record called `what` in complaints. -/
def record {α : Type} (what : String) (r : Record α) : Decoder α
  | obj members =>
    (r.read ⟨members, false, what, r.names⟩).mapError Complaint.cause
  | arr items =>
    match r.read ⟨r.names.zip items, true, what, r.names⟩ with
    | .error c => .error c.cause
    | .ok a =>
      if items.length ≤ r.names.length then .ok a
      else .error (.wrongLength items.length "fewer elements in array")
  | j => .error (.wrongType j.describe what)

end Fleetkeeper.Json

import VisitLog.Column
import VisitLog.Calendar.Instant
import VisitLog.Calendar.Reading
import VisitLog.Digest.Xxh3

/-!
# Visitor records

A `Visitor` holds a text for every column and remembers which columns were set since it was last
stored. A fresh record has all columns changed, one hydrated from stored data has none.

Main statements: `value_set` (setting one column changes no other), `mem_changed` (the changed
columns are exactly the dirty ones) and `map_data` (all columns are listed, in table order).
-/

namespace VisitLog

/-- A visitor record: a text for every column, and the columns changed since it was stored. -/
structure Visitor where
  value : Column → String
  dirty : Column → Bool

namespace Visitor

/-- The value of `deleted_at` of a record that was never deleted. -/
def never : String := "9999-12-31 23:59:59"

/-- The record with empty texts and no changes. -/
def blank : Visitor :=
  { value := fun _ => "", dirty := fun _ => false }

instance : Inhabited Visitor := ⟨blank⟩

/-- Puts a text into a column without marking it changed. -/
def assign (v : Visitor) (c : Column) (s : String) : Visitor :=
  { v with value := fun x => if x = c then s else v.value x }

/-- Puts a text into a column and marks it changed, also when the text was the same before. -/
def set (v : Visitor) (c : Column) (s : String) : Visitor :=
  { value := fun x => if x = c then s else v.value x
    dirty := fun x => x = c || v.dirty x }

/-- Sets several columns, one after another. -/
def setAll (v : Visitor) (fields : List (Column × String)) : Visitor :=
  fields.foldl (fun v f => v.set f.1 f.2) v

/-- Marks every column unchanged. -/
def clean (v : Visitor) : Visitor :=
  { v with dirty := fun _ => false }

/-- Some column changed. -/
def isDirty (v : Visitor) : Bool :=
  Column.all.any v.dirty

/-- Every column with its text, in table order. -/
def data (v : Visitor) : List (Column × String) :=
  Column.all.map fun c => (c, v.value c)

/-- The changed columns with their texts, in table order. -/
def changed (v : Visitor) : List (Column × String) :=
  (Column.all.filter v.dirty).map fun c => (c, v.value c)

/-- The text of a column given by name. -/
def get? (v : Visitor) (name : String) : Option String :=
  (Column.ofName? name).map v.value

/-- A record hydrated from named values: unchanged; names that no column has are left out. -/
def hydrate (fields : List (String × String)) : Visitor :=
  fields.foldl (fun v f =>
    match Column.ofName? f.1 with
    | some c => v.assign c f.2
    | none => v) blank

/-! ## Identifiers -/

/-- The part of an identifier that the clock determines: the datetime and nine digits of
nanoseconds. A leap second is second 60 and takes ten. -/
def idStamp (now : Instant) : List Char :=
  let c := now.date.civil
  let s := now.secondOfDay
  Civil.yearChars c.year ++ Text.fixedDigits 2 c.month ++ Text.fixedDigits 2 c.day ++
    Text.fixedDigits 2 (s / 3600) ++ Text.fixedDigits 2 (s / 60 % 60) ++
    Text.fixedDigits 2 (s % 60 + now.nanos / 1000000000) ++ Text.paddedDigits 9 now.nanos

/-- An identifier of 32 digits that sorts by time: the stamp of the clock, filled up with random
digits. -/
def makeId (now : Instant) (random : Nat) : String :=
  let stamp := idStamp now
  String.ofList (stamp ++ Text.fixedDigits (32 - stamp.length) random)

/-- A new record: an identifier, both timestamps of the clock, not deleted, and all columns
changed. -/
def fresh (now : Instant) (random : Nat) : Visitor :=
  let stamp := now.layout
  let v := (((blank.set .id (makeId now random)).set .createdAt stamp).set .updatedAt stamp).set
    .deletedAt never
  { v with dirty := fun _ => true }

/-! ## Readings of a record -/

/-- The instant in a datetime column. -/
def time? (v : Visitor) (c : Column) : Option Instant :=
  Instant.read? (v.value c)

/-- The digest of a client's address and user agent. -/
def fingerprintOf (address agent : String) : String :=
  Xxh3.hexOf (address ++ agent)

/-- The fingerprint of the record's own address and user agent. -/
def fingerprint (v : Visitor) : String :=
  fingerprintOf (v.value .ipAddress) (v.value .userAgent)

/-- The record was deleted at or before the clock; texts are compared. -/
def isDeletedAt (v : Visitor) (now : Instant) : Bool :=
  ¬ now.layout < v.value .deletedAt

/-! ## Lemmas -/

@[simp] theorem value_set (v : Visitor) (c x : Column) (s : String) :
    (v.set c s).value x = if x = c then s else v.value x := rfl

@[simp] theorem dirty_set (v : Visitor) (c x : Column) (s : String) :
    (v.set c s).dirty x = (decide (x = c) || v.dirty x) := rfl

@[simp] theorem value_clean (v : Visitor) : v.clean.value = v.value := rfl

@[simp] theorem dirty_clean (v : Visitor) (c : Column) : v.clean.dirty c = false := rfl

theorem mem_changed {v : Visitor} {c : Column} {s : String} :
    (c, s) ∈ v.changed ↔ v.dirty c ∧ s = v.value c := by
  constructor
  · intro h
    obtain ⟨x, hx, he⟩ := List.mem_map.1 h
    obtain ⟨rfl, rfl⟩ := Prod.mk.inj he
    exact ⟨(List.mem_filter.1 hx).2, rfl⟩
  · rintro ⟨h, rfl⟩
    exact List.mem_map.2 ⟨c, List.mem_filter.2 ⟨c.mem_all, h⟩, rfl⟩

theorem map_data (v : Visitor) : v.data.map Prod.fst = Column.all := by
  rw [data, List.map_map]
  exact List.map_id _

end Visitor

end VisitLog

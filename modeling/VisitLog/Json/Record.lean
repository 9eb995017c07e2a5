import VisitLog.Json.Members
import VisitLog.Visitor

/-!
# Records from JSON

A record is read from an object with a string for every column, each once, or from a list of these
strings in table order. Other members of the object are passed over. Nothing in the record counts as
changed.

Main statement: `dirty_ofTexts`.
-/

namespace VisitLog

open Json

namespace Visitor

/-- The texts of a record, by column. -/
abbrev Texts := List (Column × String)

/-- The record of texts, in which nothing is changed. -/
def ofTexts (texts : Texts) : Visitor :=
  texts.foldl (fun v t => v.assign t.1 t.2) blank

/-- The members of an object; the fuel bounds their number. -/
def readFields : (fuel : Nat) → (isFirst : Bool) → Texts → Scan Texts
  | 0, _, _, bs => failNext .endInObject bs
  | fuel + 1, isFirst, texts, bs => do
    let (key, bs) ← nextKey isFirst bs
    match key with
    | none =>
      match Column.all.find? fun c => (texts.lookup c).isNone with
      | some c => unfitAt ("missing field \x60" ++ c.name ++ "\x60") 0x7D bs
      | none => return (texts, bs)
    | some name =>
      match Column.ofName? name with
      | some c =>
        if (texts.lookup c).isSome then unfitAt ("duplicate field \x60" ++ name ++ "\x60") 0x7D bs
        else
          let ((), bs) ← colon bs
          let (s, bs) ← stringValue bs
          readFields fuel false (texts ++ [(c, s)]) bs
      | none =>
        let ((), bs) ← colon bs
        let ((), bs) ← skipValue bs
        readFields fuel false texts bs

/-- The items of a list, one for every column. -/
def readItems : (isFirst : Bool) → List Column → Texts → Scan Texts
  | _, [], texts, bs => .ok (texts, bs)
  | isFirst, c :: cs, texts, bs => do
    let (more, bs) ← nextItem isFirst bs
    if more then
      let (s, bs) ← stringValue bs
      readItems false cs (texts ++ [(c, s)]) bs
    else unfitAt ("invalid length " ++ Text.natText texts.length) 0x5D bs

/-- The record in octets. -/
def readOctets (bs : List Nat) : Except Json.Fault Visitor := do
  match skipBlanks bs with
  | [] => failNext .endInValue []
  | b :: rest =>
    if b = 0x5B then
      let (texts, rest) ← readItems true Column.all [] rest
      let ((), rest) ← endList rest
      finish rest
      return ofTexts texts
    else if b = 0x7B then
      let (texts, rest) ← readFields (rest.length + 1) true [] rest
      let ((), rest) ← endObject rest
      finish rest
      return ofTexts texts
    else .error (unfitValue "a record" (b :: rest))

/-- The record in a JSON text. -/
def ofJson (text : String) : Except Json.Fault Visitor :=
  readOctets (Text.Utf8.encode text.toList)

theorem dirty_ofTexts (texts : Texts) (c : Column) : (ofTexts texts).dirty c = false := by
  have h (v : Visitor) (hv : v.dirty c = false) :
      (texts.foldl (fun v t => v.assign t.1 t.2) v).dirty c = false := by
    induction texts generalizing v with
    | nil => exact hv
    | cons t ts ih => exact ih _ hv
  exact h blank rfl

end Visitor

end VisitLog

import VisitLog.Json.Scan

/-!
# Reading the members of lists and objects

Between members stand commas; the reader of a member is told whether it is the first. Object keys
are strings with a colon behind them.
-/

namespace VisitLog.Json

/-- The next key of an object, or none before its end, which is left to be read. -/
def nextKey (isFirst : Bool) : Scan (Option String) := fun bs =>
  let key (rest : List Nat) : Except Fault (Option String × List Nat) :=
    match string rest with
    | .ok (s, rest) => .ok (some s, rest)
    | .error f => .error f
  match skipBlanks bs with
  | [] => failNext .endInObject []
  | b :: rest =>
    if b = 0x7D then .ok (none, b :: rest)
    else if isFirst then
      if b = 0x22 then key rest else failNext .keyNotString (b :: rest)
    else if b = 0x2C then
      match skipBlanks rest with
      | [] => failNext .endInValue []
      | c :: rest =>
        if c = 0x22 then key rest
        else if c = 0x7D then failNext .trailingComma (c :: rest)
        else failNext .keyNotString (c :: rest)
    else failNext .expectedObjectEnd (b :: rest)

/-- The colon behind a key. -/
def colon : Scan Unit := fun bs =>
  match skipBlanks bs with
  | [] => failNext .endInObject []
  | b :: rest => if b = 0x3A then .ok ((), rest) else failNext .expectedColon (b :: rest)

/-- There is a next item of a list, whose value comes next, or its end does. -/
def nextItem (isFirst : Bool) : Scan Bool := fun bs =>
  match skipBlanks bs with
  | [] => failNext .endInList []
  | b :: rest =>
    if b = 0x5D then .ok (false, b :: rest)
    else if isFirst then .ok (true, b :: rest)
    else if b = 0x2C then
      match skipBlanks rest with
      | [] => failNext .endInValue []
      | c :: rest =>
        if c = 0x5D then failNext .trailingComma (c :: rest) else .ok (true, c :: rest)
    else failNext .expectedListEnd (b :: rest)

/-- The end of an object. -/
def endObject : Scan Unit := fun bs =>
  match skipBlanks bs with
  | [] => failNext .endInObject []
  | b :: rest =>
    if b = 0x7D then .ok ((), rest)
    else if b = 0x2C then failNext .trailingComma (b :: rest)
    else failNext .trailingCharacters (b :: rest)

/-- The end of a list. -/
def endList : Scan Unit := fun bs =>
  match skipBlanks bs with
  | [] => failNext .endInList []
  | b :: rest =>
    if b = 0x5D then .ok ((), rest)
    else if b = 0x2C then
      match skipBlanks rest with
      | 0x5D :: rest => failNext .trailingComma (0x5D :: rest)
      | rest => failNext .trailingCharacters rest
    else failNext .trailingCharacters (b :: rest)

/-- The octets after blanks and after one that ends a value, if it is there. -/
def pastEnd (last : Nat) (bs : List Nat) : List Nat :=
  match skipBlanks bs with
  | [] => []
  | b :: rest => if b = last then rest else b :: rest

/-- A value is not of the form that is asked for; that shows when its end has been looked for. -/
def unfitAt {α : Type} (why : String) (last : Nat) (bs : List Nat) : Except Fault α :=
  fail (.unfit why) (pastEnd last bs)

/-- A result whose fault, if it is one, lies in a named part of the value. -/
def within {α : Type} (place : String) (result : Except Fault α) : Except Fault α :=
  match result with
  | .ok a => .ok a
  | .error f => .error { f with place := some place }

end VisitLog.Json

import VisitLog.Digest.Hex

/-!
# Writing JSON

JSON values as far as answers need them, and their text: no blanks, strings with the short escapes,
and control characters by number.

Main statement: `quoteChars_append`.
-/

namespace VisitLog

/-- A JSON value. -/
inductive Json where
  | bool (b : Bool)
  /-- A number, by its text. -/
  | num (text : String)
  | str (s : String)
  | arr (items : List Json)
  | obj (fields : List (String × Json))

namespace Json

/-- A character of a string. -/
def quoteChar (c : Char) : List Char :=
  match c with
  | '"' => ['\\', '"']
  | '\\' => ['\\', '\\']
  | '\n' => ['\\', 'n']
  | '\r' => ['\\', 'r']
  | '\t' => ['\\', 't']
  | '\x08' => ['\\', 'b']
  | '\x0c' => ['\\', 'f']
  | c => if c.toNat < 0x20 then '\\' :: 'u' :: Hex.fixed 4 c.toNat else [c]

/-- The characters of a string. -/
def quoteChars (cs : List Char) : List Char :=
  cs.flatMap quoteChar

/-- A string between quotes. -/
def quote (s : String) : String :=
  "\"" ++ String.ofList (quoteChars s.toList) ++ "\""

mutual

/-- The text of a value. -/
def text : Json → String
  | bool true => "true"
  | bool false => "false"
  | num t => t
  | str s => quote s
  | arr [] => "[]"
  | arr (v :: vs) => "[" ++ text v ++ textItems vs ++ "]"
  | obj [] => "\x7b\x7d"
  | obj ((k, v) :: fs) => "\x7b" ++ quote k ++ ":" ++ text v ++ textFields fs ++ "\x7d"

/-- Further items of an array, each after a comma. -/
def textItems : List Json → String
  | [] => ""
  | v :: vs => "," ++ text v ++ textItems vs

/-- Further fields of an object, each after a comma. -/
def textFields : List (String × Json) → String
  | [] => ""
  | (k, v) :: fs => "," ++ quote k ++ ":" ++ text v ++ textFields fs

end

@[simp] theorem quoteChars_append (a b : List Char) :
    quoteChars (a ++ b) = quoteChars a ++ quoteChars b := by
  simp [quoteChars]

end Json

end VisitLog

import VisitLog.Toml.Moment
import VisitLog.Toml.Tree

/-!
# Reading TOML

Values, and documents: lines that name a table, append one to a list, or set a key, with blank lines
and comments between them. `Toml.read?` is the table that a document stands for.

Main statement: `build_filter` (blank lines and comments say nothing).
-/

namespace VisitLog.Toml

open Text

/-! ## Numbers -/

/-- Further digits, each after an underscore at most. -/
def moreDigits (isDigit : Char → Bool) : List Char → List Char × List Char
  | [] => ([], [])
  | '_' :: c :: cs =>
    if isDigit c then
      let (ds, rest) := moreDigits isDigit cs
      (c :: ds, rest)
    else ([], '_' :: c :: cs)
  | c :: cs =>
    if isDigit c then
      let (ds, rest) := moreDigits isDigit cs
      (c :: ds, rest)
    else ([], c :: cs)

/-- One digit or more. -/
def digits (isDigit : Char → Bool) : Read (List Char)
  | c :: cs =>
    if isDigit c then
      let (ds, rest) := moreDigits isDigit cs
      some (c :: ds, rest)
    else none
  | [] => none

/-- The number that digits in a base stand for. -/
def ofBase (base : Nat) (ds : List Char) : Nat :=
  ds.foldl (fun n c => base * n + (Hex.value? c).getD 0) 0

/-- An integer of 64 bits. -/
def integer? (n : Int) (rest : List Char) : Option (Scalar × List Char) :=
  if -0x8000000000000000 ≤ n ∧ n < 0x8000000000000000 then some (.integer n, rest) else none

/-- A natural number in a base, behind the letter that names it. -/
def inBase (base : Nat) (cs : List Char) : Option (Scalar × List Char) := do
  let (ds, rest) ← digits (fun c => (Hex.value? c).any fun d => d < base) cs
  integer? (ofBase base ds) rest

/-- A decimal digit. -/
def isDecimal (c : Char) : Bool :=
  '0' ≤ c && c ≤ '9'

/-- Digits before a point: no others follow a zero. -/
def wholePart : Read (List Char)
  | '0' :: cs => some (['0'], cs)
  | cs => digits isDecimal cs

/-- A number with a fraction or an exponent, unless it is too large. -/
def real? (negative : Bool) (whole fraction : List Char) (exponent : Int) (rest : List Char) :
    Option (Scalar × List Char) :=
  let x := Decimal.ofDigits negative whole fraction exponent
  if x = .infinite false then none else some (.real (.number x), rest)

/-- An exponent behind its letter. -/
def exponent (cs : List Char) : Option (Int × List Char) := do
  let (negative, cs) := Decimal.spanSign cs
  let (ds, rest) ← digits isDecimal cs
  let n : Int := ofBase 10 ds
  return (if negative then -n else n, rest)

/-- The letter of an exponent is next. -/
def isExponentNext : List Char → Bool
  | c :: _ => c = 'e' || c = 'E'
  | [] => false

/-- A decimal number behind its sign. -/
def decimal (negative : Bool) (cs : List Char) : Option (Scalar × List Char) := do
  let (whole, cs) ← wholePart cs
  match cs with
  | '.' :: cs =>
    let (fraction, cs) ← digits isDecimal cs
    if isExponentNext cs then
      let (e, cs) ← exponent (cs.drop 1)
      real? negative whole fraction e cs
    else real? negative whole fraction 0 cs
  | cs =>
    if isExponentNext cs then
      let (e, cs) ← exponent (cs.drop 1)
      real? negative whole [] e cs
    else
      let n : Int := ofBase 10 whole
      integer? (if negative then -n else n) cs

/-- A number behind its sign: also the words for infinity and for no number. -/
def numberBody (negative : Bool) (cs : List Char) : Option (Scalar × List Char) :=
  match cs with
  | 'i' :: 'n' :: 'f' :: cs => some (.real (.number (.infinite negative)), cs)
  | 'n' :: 'a' :: 'n' :: cs => some (.real .undefined, cs)
  | cs => decimal negative cs

/-- A date, a time or a number. -/
def number (cs : List Char) : Option (Scalar × List Char) :=
  match Moment.read cs with
  | some (s, cs) => some (.text s, cs)
  | none =>
    match cs with
    | '0' :: 'x' :: cs => inBase 16 cs
    | '0' :: 'o' :: cs => inBase 8 cs
    | '0' :: 'b' :: cs => inBase 2 cs
    | '-' :: cs => numberBody true cs
    | '+' :: cs => numberBody false cs
    | cs => numberBody false cs

/-- A value without parts. -/
def readScalar (cs : List Char) : Option (Scalar × List Char) :=
  match cs with
  | 't' :: 'r' :: 'u' :: 'e' :: cs => some (.flag true, cs)
  | 'f' :: 'a' :: 'l' :: 's' :: 'e' :: cs => some (.flag false, cs)
  | c :: _ =>
    if c = '"' ∨ c = '\'' then (quotedText cs).map fun (s, cs) => (.text (String.ofList s), cs)
    else number cs
  | [] => none

/-! ## Values -/

/-- A setting: the keys before the last one, the last one, and a value. -/
structure Setting where
  path : List String
  key : String
  value : Toml

/-- Sets keys one after another. -/
def assignAll (settings : List Setting) : Option Nodes :=
  settings.foldlM (fun ns s => ns.assign s.key s.value true s.path) []

mutual

/-- A value; the fuel bounds its parts and the room its depth. -/
def value : (fuel room : Nat) → Read Toml
  | 0, _, _ => none
  | fuel + 1, room, cs =>
    match cs with
    | '[' :: cs =>
      if room = 0 then none
      else (items fuel (room - 1) (skipFill false cs)).map fun (vs, cs) => (.list vs, cs)
    | '\x7b' :: cs => do
      if room = 0 then none
      else
        let (settings, cs) ←
          match skipBlanks cs with
          | '\x7d' :: cs => some ([], cs)
          | cs => members fuel (room - 1) cs
        let ns ← assignAll settings
        return (.table (finishFields ns), cs)
    | cs => (readScalar cs).map fun (s, cs) => (.scalar s, cs)

/-- The items of a list, up to its closing bracket. -/
def items : (fuel room : Nat) → Read (List Toml)
  | 0, _, _ => none
  | fuel + 1, room, cs =>
    match cs with
    | ']' :: cs => some ([], cs)
    | cs => do
      let (v, cs) ← value fuel room cs
      match skipFill false cs with
      | ',' :: cs =>
        let (vs, cs) ← items fuel room (skipFill false cs)
        return (v :: vs, cs)
      | ']' :: cs => return ([v], cs)
      | _ => none

/-- The members of a table on one line, up to its closing brace. -/
def members : (fuel room : Nat) → Read (List Setting)
  | 0, _, _ => none
  | fuel + 1, room, cs => do
    let (s, cs) ← setting fuel room cs
    match skipBlanks cs with
    | ',' :: cs =>
      let (rest, cs) ← members fuel room cs
      return (s :: rest, cs)
    | '\x7d' :: cs => return ([s], cs)
    | _ => none

/-- A key and its value. -/
def setting : (fuel room : Nat) → Read Setting
  | 0, _, _ => none
  | fuel + 1, room, cs => do
    let (path, cs) ← keyPath depthLimit cs
    let key ← path.getLast?
    match cs with
    | '=' :: cs =>
      let (v, cs) ← value fuel room (skipBlanks cs)
      return (⟨path.dropLast, key, v⟩, cs)
    | _ => none

end

/-! ## Documents -/

/-- A line of a document. -/
inductive Line where
  | blank
  /-- Names a table. -/
  | table (path : List String) (key : String)
  /-- Appends a table to a list. -/
  | item (path : List String) (key : String)
  | setting (s : Setting)

/-- The path in a header, up to its brackets. -/
def headerPath (close : List Char) (cs : List Char) :
    Option ((List String × String) × List Char) := do
  let (path, cs) ← keyPath depthLimit cs
  let key ← path.getLast?
  let cs ← dropLiteral? close cs
  return ((path.dropLast, key), cs)

/-- A line without its end. -/
def line : Read Line := fun cs =>
  match skipBlanks cs with
  | '[' :: '[' :: cs => (headerPath [']', ']'] cs).map fun ((path, key), cs) => (.item path key, cs)
  | '[' :: cs => (headerPath [']'] cs).map fun ((path, key), cs) => (.table path key, cs)
  | cs =>
    match cs with
    | [] => some (.blank, cs)
    | c :: _ =>
      if c = '#' ∨ c = '\n' ∨ c = '\r' then some (.blank, cs)
      else (setting (2 * cs.length + 2) depthLimit cs).map fun (s, cs) => (.setting s, cs)

/-- The lines of a document; the fuel bounds their number. -/
def lines : (fuel : Nat) → List Char → Option (List Line)
  | 0, _ => none
  | _ + 1, [] => some []
  | fuel + 1, cs => do
    let (l, cs) ← line cs
    let cs ← lineEnd? cs
    let ls ← lines fuel cs
    return l :: ls

/-- Follows lines below the table that the last header named. -/
def build : (ns : Nodes) → (current : List String) → List Line → Option Nodes
  | ns, _, [] => some ns
  | ns, current, .blank :: ls => build ns current ls
  | ns, _, .table path key :: ls => do build (← ns.openTable path key) (path ++ [key]) ls
  | ns, _, .item path key :: ls => do build (← ns.openItem path key) (path ++ [key]) ls
  | ns, current, .setting s :: ls => do
    build (← ns.at? (fun t => t.assign s.key s.value true s.path) current) current ls

/-- The fields of the table that a document stands for. -/
def read? (document : String) : Option (List (String × Toml)) := do
  let cs :=
    match document.toList with
    | '\ufeff' :: cs => cs
    | cs => cs
  let ls ← lines (cs.length + 1) cs
  let ns ← build [] [] ls
  return finishFields ns

/-! ## Lemmas -/

/-- The line says something. -/
def Line.isTelling : Line → Bool
  | blank => false
  | _ => true

/-- Blank lines and comments say nothing. -/
theorem build_filter (ns : Nodes) (current : List String) (ls : List Line) :
    build ns current (ls.filter Line.isTelling) = build ns current ls := by
  induction ls generalizing ns current with
  | nil => rfl
  | cons l ls ih =>
    cases l with
    | blank => exact ih ns current
    | table path key =>
      rw [List.filter_cons_of_pos rfl, build, build]
      exact Option.bind_congr fun ns _ => ih ns _
    | item path key =>
      rw [List.filter_cons_of_pos rfl, build, build]
      exact Option.bind_congr fun ns _ => ih ns _
    | setting s =>
      rw [List.filter_cons_of_pos rfl, build, build]
      exact Option.bind_congr fun ns _ => ih ns _

end VisitLog.Toml

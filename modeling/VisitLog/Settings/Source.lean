import VisitLog.Settings.Entry
import VisitLog.Text.Integer
import VisitLog.Toml.Read

/-!
# Sources of settings

A settings file and the environment. The names of the file's topmost entries, and those of the
variables in the environment, are paths into the settings; a name that is no path stands for itself.
The environment wins.

Main statements: `lookup_ofEnvironment_append` (of several variables for one setting the last one
counts) and `at?_merged` (a variable wins over the file and over the variables before it).
-/

namespace VisitLog.Settings

open Text

/-! ## Paths -/

/-- A character of a name in a path. -/
def isPathChar (c : Char) : Bool :=
  c.isAlphanum || c = '_' || c = '-'

/-- A place in a list, up to its closing bracket. -/
def readPlace (cs : List Char) : Option (Entry.Step × List Char) :=
  let isBlank (c : Char) : Bool := c = ' ' || c = '\t'
  let (negative, cs) :=
    match cs.dropWhile isBlank with
    | '-' :: cs => (true, cs)
    | cs => (false, cs)
  match Decimal.spanDigits cs with
  | ([], _) => none
  | (ds, rest) =>
    match rest.dropWhile isBlank with
    | ']' :: rest =>
      let n : Int := Decimal.natOfDigits ds
      some (.index (if negative then -n else n), rest)
    | _ => none

/-- Further steps of a path: names behind points, and places in brackets. The fuel bounds their
number. -/
def readSteps : (fuel : Nat) → List Char → Option (List Entry.Step)
  | _, [] => some []
  | 0, _ => none
  | fuel + 1, '.' :: cs =>
    match cs.span isPathChar with
    | ([], _) => none
    | (name, cs) => (readSteps fuel cs).map (.name (String.ofList name) :: ·)
  | fuel + 1, '[' :: cs => do
    let (step, cs) ← readPlace cs
    return step :: (← readSteps fuel cs)
  | _, _ => none

/-- The path that a name is, or the name alone. -/
def pathOf (name : String) : List Entry.Step :=
  match name.toList.span isPathChar with
  | ([], _) => [.name name]
  | (first, cs) =>
    match readSteps cs.length cs with
    | some steps => .name (String.ofList first) :: steps
    | none => [.name name]

/-! ## The file -/

/-- The pieces of a path without those that lead nowhere. -/
def plainPieces (path : String) : List String :=
  ((splitAt '/' path.toList).filter fun p => ¬ (p = [] ∨ p = ['.'])).map String.ofList

/-- The files that a name of a settings file may mean, in the order in which they are looked for. -/
def fileNames (name : String) : List String :=
  let start := if name.toList.head? = some '/' then "/" else ""
  let plain := start ++ "/".intercalate (plainPieces name)
  let last := (splitAt '/' name.toList).getLastD []
  if (plainPieces name).isEmpty then []
  else if last = [] ∨ last = ['.'] then [plain ++ ".toml"]
  else [plain, plain ++ ".toml"]

/-- The name of the settings file when nothing else is asked for. -/
def defaultFile : String := "config.toml"

/-! ## The environment -/

/-- What the names of variables that hold settings start with, in lower case. -/
def variableStart : List Char := "statsstore__".toList

/-- Points in place of pairs of underscores. -/
def withPoints : List Char → List Char
  | '_' :: '_' :: cs => '.' :: withPoints cs
  | c :: cs => c :: withPoints cs
  | [] => []

/-- The name of the setting that a variable holds. -/
def settingName? (name : String) : Option String :=
  (dropLiteral? variableStart (lowerChars name.toList)).map fun cs => String.ofList (withPoints cs)

/-- The value of a variable: a flag, a number, or a text. -/
def variableValue (s : String) : Scalar :=
  if lower s = "true" then .flag true
  else if lower s = "false" then .flag false
  else
    match readInteger s.toList with
    | .ok n => .integer n
    | .error _ =>
      match Decimal.read? s.toList with
      | some x => .real x
      | none => .text s

/-- The settings in the environment, by name; of several variables for one setting the last one
counts. -/
def ofEnvironment (environment : List (String × String)) : List (String × Entry) :=
  (environment.foldl (fun e v =>
    match settingName? v.1 with
    | some name => e.put name (.scalar (some "the environment") (variableValue v.2))
    | none => e) Entry.empty).fields

/-! ## Merging -/

/-- The settings with further entries, each at the path that its name is. -/
def withEntries (root : Entry) (entries : List (String × Entry)) : Entry :=
  entries.foldl (fun root e => Entry.setAt (pathOf e.1) e.2 root) root

/-- The settings of a file, given by its name and its fields, and of the environment. -/
def merged (file : Option (String × List (String × Toml)))
    (environment : List (String × String)) : Entry :=
  let fromFile :=
    match file with
    | some (name, fields) => Entry.ofFields (some name) fields
    | none => []
  withEntries (withEntries .empty fromFile) (ofEnvironment environment)

/-! ## Lemmas -/

/-- Of several variables for one setting the last one counts. -/
theorem lookup_ofEnvironment_append (environment : List (String × String)) (v : String × String)
    (name : String) :
    (ofEnvironment (environment ++ [v])).lookup name =
      if settingName? v.1 = some name then
        some (.scalar (some "the environment") (variableValue v.2))
      else (ofEnvironment environment).lookup name := by
  rw [ofEnvironment, List.foldl_append, List.foldl_cons, List.foldl_nil]
  cases settingName? v.1 with
  | none => rfl
  | some setting =>
    dsimp only
    rw [Entry.lookup_put]
    by_cases h : name = setting
    · rw [if_pos h, if_pos (congrArg some h.symm)]
    · rw [if_neg h, if_neg fun hs => h (Option.some.inj hs).symm]
      rfl

/-- The last entry counts, wherever its name leads. -/
theorem at?_withEntries_append {name last : String} {path : List Entry.Step}
    (hpath : pathOf name = path ++ [.name last]) (root : Entry) (entries : List (String × Entry))
    (source : Option String) (s : Scalar) :
    (withEntries root (entries ++ [(name, .scalar source s)])).at? (path ++ [.name (lower last)]) =
      some (.scalar source s) := by
  rw [withEntries, List.foldl_append, List.foldl_cons, List.foldl_nil, hpath]
  exact Entry.at?_setAt_name path last source s _

/-- The value of a variable stands where the name of its setting leads, whatever the file and the
variables before it say. -/
theorem at?_merged {v : String × String} {name last : String} {path : List Entry.Step}
    (hname : settingName? v.1 = some name) (hpath : pathOf name = path ++ [.name last])
    {environment : List (String × String)}
    (hnew : ¬ (ofEnvironment environment).any fun e => e.1 == name)
    (file : Option (String × List (String × Toml))) :
    (merged file (environment ++ [v])).at? (path ++ [.name (lower last)]) =
      some (.scalar (some "the environment") (variableValue v.2)) := by
  have hlast : ofEnvironment (environment ++ [v]) = ofEnvironment environment ++
      [(name, .scalar (some "the environment") (variableValue v.2))] := by
    rw [ofEnvironment, List.foldl_append, List.foldl_cons, List.foldl_nil, hname]
    exact Entry.fields_put_of_not_any _ hnew
  unfold merged
  rw [hlast]
  exact at?_withEntries_append hpath _ _ _ _

end VisitLog.Settings

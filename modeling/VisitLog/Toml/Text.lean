import VisitLog.Digest.Hex
import VisitLog.Text.Search

/-!
# Texts in TOML

Blanks, comments and line ends; quoted texts with escapes, as they are, or over several lines; and
keys. A reader takes a part off the head of the characters, or fails.

Main statement: `skipBlanks_idem`.
-/

namespace VisitLog.Toml

open Text

/-- A reader of a part of a document. -/
abbrev Read (α : Type) := List Char → Option (α × List Char)

/-! ## Between the parts -/

/-- The characters after blanks and tabs. -/
def skipBlanks (cs : List Char) : List Char :=
  cs.dropWhile fun c => c = ' ' ∨ c = '\t'

/-- The characters after a line end. -/
def newline? : List Char → Option (List Char)
  | '\n' :: cs => some cs
  | '\r' :: '\n' :: cs => some cs
  | _ => none

/-- A character that texts and comments may hold as it is. -/
def isPlain (c : Char) : Bool :=
  c = '\t' || (' ' ≤ c && c ≠ '\x7f')

/-- The characters after a comment, if there is one. -/
def skipComment : List Char → List Char
  | '#' :: cs => cs.dropWhile isPlain
  | cs => cs

/-- The characters after the rest of a line, which may hold a comment only. -/
def lineEnd? (cs : List Char) : Option (List Char) :=
  match skipComment (skipBlanks cs) with
  | [] => some []
  | cs => newline? cs

/-- The characters after blanks, line ends and comments; within a comment at first if told so. -/
def skipFill : (inComment : Bool) → List Char → List Char
  | _, [] => []
  | _, '\n' :: cs => skipFill false cs
  | _, '\r' :: '\n' :: cs => skipFill false cs
  | inComment, c :: cs =>
    if inComment then
      if isPlain c then skipFill true cs else c :: cs
    else if c = ' ' ∨ c = '\t' then skipFill false cs
    else if c = '#' then skipFill true cs
    else c :: cs

/-- The characters after blanks and line ends. -/
def skipLines : List Char → List Char
  | [] => []
  | '\n' :: cs => skipLines cs
  | '\r' :: '\n' :: cs => skipLines cs
  | c :: cs => if c = ' ' ∨ c = '\t' then skipLines cs else c :: cs

/-! ## Quoted texts -/

/-- The character of a number of hexadecimal digits. -/
def hexChar? (n : Nat) (cs : List Char) : Option (Char × List Char) := do
  let ds ← (cs.take n).mapM Hex.value?
  let code := ds.foldl (fun n d => 16 * n + d) 0
  if h : ds.length = n ∧ code.isValidChar then some (Char.ofNatAux code h.2, cs.drop n) else none

/-- The character that an escape stands for, behind its backslash. -/
def escape? : Read Char
  | 'b' :: cs => some ('\x08', cs)
  | 't' :: cs => some ('\t', cs)
  | 'n' :: cs => some ('\n', cs)
  | 'f' :: cs => some ('\x0c', cs)
  | 'r' :: cs => some ('\r', cs)
  | '"' :: cs => some ('"', cs)
  | '\\' :: cs => some ('\\', cs)
  | 'u' :: cs => hexChar? 4 cs
  | 'U' :: cs => hexChar? 8 cs
  | _ => none

/-- A text with escapes, up to its closing quote; the fuel bounds its length. -/
def basicFrom : (fuel : Nat) → Read (List Char)
  | 0, _ => none
  | _ + 1, [] => none
  | fuel + 1, c :: cs =>
    if c = '"' then some ([], cs)
    else do
      let (x, cs) ← if c = '\\' then escape? cs else if isPlain c then some (c, cs) else none
      let (s, cs) ← basicFrom fuel cs
      return (x :: s, cs)

/-- A text as it is, up to its closing quote. -/
def literalFrom : Read (List Char)
  | [] => none
  | c :: cs =>
    if c = '\'' then some ([], cs)
    else if isPlain c then (literalFrom cs).map fun (s, cs) => (c :: s, cs)
    else none

/-- Quotes within or at the end of a text over several lines: those that belong to the text, and
whether the text ends. Up to two quotes may stand before the three that close it. -/
def quotes (q : Char) (cs : List Char) : List Char × Bool × List Char :=
  let count := (cs.takeWhile fun c => c = q).length
  if count < 3 then (List.replicate count q, false, cs.drop count)
  else
    let own := min (count - 3) 2
    (List.replicate own q, true, cs.drop (own + 3))

/-- A text over several lines, up to the quotes that close it; the fuel bounds its length. A
backslash at the end of a line joins it with the next text. -/
def linesFrom (q : Char) : (fuel : Nat) → Read (List Char)
  | 0, _ => none
  | _ + 1, [] => none
  | fuel + 1, c :: cs =>
    let more (before : List Char) (cs : List Char) : Option (List Char × List Char) :=
      (linesFrom q fuel cs).map fun (s, cs) => (before ++ s, cs)
    if c = q then
      match quotes q (c :: cs) with
      | (own, true, cs) => some (own, cs)
      | (own, false, cs) => more own cs
    else
      match newline? (c :: cs) with
      | some cs => more ['\n'] cs
      | none =>
        if c = '\\' ∧ q = '"' then
          match escape? cs with
          | some (x, cs) => more [x] cs
          | none => (newline? (skipBlanks cs)).bind fun cs => more [] (skipLines cs)
        else if isPlain c then more [c] cs
        else none

/-- A text over several lines; a line end right behind the opening quotes is not part of it. -/
def manyLines (q : Char) : Read (List Char) := fun cs =>
  let cs := (newline? cs).getD cs
  linesFrom q (cs.length + 1) cs

/-- A quoted text on one line. -/
def quotedLine : Read (List Char)
  | '"' :: cs => basicFrom (cs.length + 1) cs
  | '\'' :: cs => literalFrom cs
  | _ => none

/-- A quoted text. -/
def quotedText : Read (List Char)
  | '"' :: '"' :: '"' :: cs => manyLines '"' cs
  | '\'' :: '\'' :: '\'' :: cs => manyLines '\'' cs
  | cs => quotedLine cs

/-! ## Keys -/

/-- A character of a key without quotes. -/
def isBare (c : Char) : Bool :=
  c.isAlphanum || c = '_' || c = '-'

/-- One key of a path. -/
def keyPart : Read String := fun cs =>
  match quotedLine cs with
  | some (s, cs) => some (String.ofList s, cs)
  | none =>
    match cs.span isBare with
    | ([], _) => none
    | (key, cs) => some (String.ofList key, cs)

/-- Tables and values may lie this deep, but no deeper. -/
def depthLimit : Nat := 79

/-- The keys of a path with points between them and blanks around them. -/
def keyPath : (room : Nat) → Read (List String)
  | 0, _ => none
  | room + 1, cs => do
    let (key, cs) ← keyPart (skipBlanks cs)
    match skipBlanks cs with
    | '.' :: cs => do
      let (keys, cs) ← keyPath room cs
      return (key :: keys, cs)
    | cs => return ([key], cs)

theorem skipBlanks_idem (cs : List Char) : skipBlanks (skipBlanks cs) = skipBlanks cs := by
  simp only [skipBlanks]
  induction cs with
  | nil => rfl
  | cons c cs ih =>
    by_cases h : c = ' ' ∨ c = '\t'
    · rw [List.dropWhile_cons_of_pos (by simpa using h)]
      exact ih
    · rw [List.dropWhile_cons_of_neg (by simpa using h), List.dropWhile_cons_of_neg
        (by simpa using h)]

end VisitLog.Toml

import VisitLog.Column
import VisitLog.Text.Blank
import VisitLog.Text.DecimalDigit
import VisitLog.Text.Search
import VisitLog.Text.Word

/-!
# User agents

`UserAgent.ofText` derives browser, operating system and device from the text of a `User-Agent`
header. Order matters in each table: Edge and Opera also name Chrome, and Chrome names Safari. A
text that names a crawler is a bot whatever else it says.

Main statement: `ofText_blank` (a blank text gives empty fields only).
-/

namespace VisitLog

open Text

/-- What a user agent says about the client. -/
structure UserAgent where
  browser : String := ""
  browserVersion : String := ""
  os : String := ""
  osVersion : String := ""
  device : String := ""
  deviceType : String := ""
  deriving DecidableEq, Repr, Inhabited

namespace UserAgent

/-! ## Versions -/

/-- A run of at least one character of a class at the head of the text, and what follows. -/
def run? (p : Char → Bool) (cs : List Char) : Option (List Char × List Char) :=
  match cs.takeWhile p with
  | [] => none
  | r => some (r, cs.dropWhile p)

/-- Digits and dots in any order. -/
def dotted? (cs : List Char) : Option (List Char × List Char) :=
  run? (fun c => isDecimalDigit c || c = '.') cs

/-- Runs of digits joined by single separators; `fuel` bounds the number of runs. -/
def joinedFrom (isSeparator : Char → Bool) : (fuel : Nat) → List Char → List Char
  | 0, _ => []
  | fuel + 1, cs =>
    match cs with
    | s :: rest =>
      if isSeparator s then
        match run? isDecimalDigit rest with
        | some (digits, rest) => s :: (digits ++ joinedFrom isSeparator fuel rest)
        | none => []
      else []
    | [] => []

/-- A version of one or more runs of digits joined by separators. -/
def joined? (isSeparator : Char → Bool) (cs : List Char) : Option (List Char) :=
  (run? isDecimalDigit cs).map fun (digits, rest) =>
    digits ++ joinedFrom isSeparator rest.length rest

/-- The text up to the end of the line. -/
def line (cs : List Char) : List Char :=
  cs.takeWhile (· ≠ '\n')

/-- Underscores written as dots. -/
def dotsForUnderscores (cs : List Char) : List Char :=
  cs.map fun c => if c = '_' then '.' else c

/-! ## Browsers -/

/-- A browser's name and the marks that stand before its version. -/
structure Browser where
  name : String
  marks : List String

/-- The browsers that put their version right after a mark, in order of precedence. -/
def browsers : List Browser :=
  [⟨"Edge", ["Edge/", "EdgA/", "EdgiOS/", "Edg/"]⟩,
    ⟨"Opera", ["OPR/", "Opera/"]⟩,
    ⟨"Samsung Internet", ["SamsungBrowser/"]⟩,
    ⟨"Chrome", ["Chrome/", "CriOS/"]⟩,
    ⟨"Firefox", ["Firefox/", "FxiOS/"]⟩]

/-- The version after the first mark of a browser that one follows. -/
def Browser.version? (b : Browser) (cs : List Char) : Option (List Char) :=
  firstMatch (fun cs => (dropAny? (b.marks.map String.toList) cs).bind fun rest =>
    (dotted? rest).map Prod.fst) cs

/-- Safari writes its version after `Version/`, and its own name later in the same line. -/
def safariVersion? (cs : List Char) : Option (List Char) :=
  firstMatch (fun cs => do
    let rest ← dropLiteral? "Version/".toList cs
    let (version, rest) ← dotted? rest
    if contains "Safari/".toList (line rest) then return version else none) cs

/-- Name and version of the browser. -/
def browserOf (cs : List Char) : List Char × List Char :=
  match browsers.findSome? fun b => (b.version? cs).map fun v => (b.name.toList, v) with
  | some found => found
  | none =>
    match safariVersion? cs with
    | some version => ("Safari".toList, version)
    | none => if contains "Safari/".toList cs then ("Safari".toList, []) else ([], [])

/-! ## Operating systems -/

/-- The name by which a Windows kernel version was sold. -/
def windowsVersion (kernel : List Char) : List Char :=
  match String.ofList kernel with
  | "10.0" => "10".toList
  | "6.3" => "8.1".toList
  | "6.2" => "8".toList
  | "6.1" => "7".toList
  | "6.0" => "Vista".toList
  | "5.1" | "5.2" => "XP".toList
  | _ => kernel

/-- The kernel version of Windows. -/
def windowsKernel? (cs : List Char) : Option (List Char) :=
  firstMatch (fun cs => (dropLiteral? "Windows NT ".toList cs).bind fun rest =>
    (dotted? rest).map Prod.fst) cs

/-- The Apple handhelds. -/
def handhelds : List String := ["iPhone", "iPad", "iPod"]

/-- The version of iOS: after the name of a handheld, the first ` OS ` of the line before digits. -/
def iosVersion? (cs : List Char) : Option (List Char) :=
  firstMatch (fun cs => (dropAny? (handhelds.map String.toList) cs).bind fun rest =>
    firstMatch (fun cs => (dropLiteral? " OS ".toList cs).bind (joined? (· = '_'))) (line rest)) cs

/-- The version of Android. -/
def androidVersion? (cs : List Char) : Option (List Char) :=
  firstMatch (fun cs => (dropLiteral? "Android ".toList cs).bind (joined? (· = '.'))) cs

/-- The version of macOS. -/
def macVersion? (cs : List Char) : Option (List Char) :=
  firstMatch (fun cs =>
    (dropLiteral? "Mac OS X ".toList cs).bind (joined? fun c => c = '_' || c = '.')) cs

/-- Name and version of the operating system. -/
def osOf (cs : List Char) : List Char × List Char :=
  match windowsKernel? cs with
  | some v => ("Windows".toList, windowsVersion v)
  | none =>
  match iosVersion? cs with
  | some v => ("iOS".toList, dotsForUnderscores v)
  | none =>
  match androidVersion? cs with
  | some v => ("Android".toList, v)
  | none =>
  match macVersion? cs with
  | some v => ("macOS".toList, dotsForUnderscores v)
  | none =>
    if contains "CrOS".toList cs then ("ChromeOS".toList, [])
    else if contains "Linux".toList cs then ("Linux".toList, [])
    else ([], [])

/-! ## Devices -/

/-- What follows a locale such as `en-us; ` at the head of the text. -/
def dropLocale? : List Char → Option (List Char)
  | a :: b :: s :: c :: d :: ';' :: ' ' :: rest =>
    if a.isAlpha && b.isAlpha && (s = '-' || s = '_') && c.isAlpha && d.isAlpha then some rest
    else none
  | _ => none

/-- A field of the parenthesised comment: up to a semicolon or the closing parenthesis. -/
def commentField? (cs : List Char) : Option (List Char) :=
  (run? (fun c => c ≠ ';' && c ≠ ')') cs).map Prod.fst

/-- The field after the version of Android, past a locale if one stands there. -/
def androidField? (cs : List Char) : Option (List Char) :=
  firstMatch (fun cs => do
    let rest ← dropLiteral? "Android ".toList cs
    let (_, rest) ← dotted? rest
    let rest ← dropLiteral? "; ".toList rest
    match (dropLocale? rest).bind commentField? with
    | some field => some field
    | none => commentField? rest) cs

/-- The model of an Android device. The letter `K` stands for a withheld model. -/
def androidModel? (cs : List Char) : Option (List Char) := do
  let field ← androidField? cs
  let model := trimChars (before " Build/".toList field)
  if model.isEmpty || model = ['K'] then none else return model

/-- The device. -/
def deviceOf (cs : List Char) : List Char :=
  match handhelds.find? fun d => contains d.toList cs with
  | some d => d.toList
  | none =>
  match androidModel? cs with
  | some model => model
  | none =>
    if contains "Macintosh".toList cs then "Mac".toList
    else if ["Windows", "X11", "CrOS"].any fun w => contains w.toList cs then "PC".toList
    else []

/-! ## Kinds of device -/

/-- A character without its case: the ASCII letters, the long s and the Kelvin sign fold to
lower-case ASCII letters. -/
def foldCase (c : Char) : Char :=
  if c = '\u017F' then 's' else if c = '\u212A' then 'k' else c.toLower

/-- Words that mark a crawler or a program wherever they stand. -/
def botWords : List String :=
  ["crawler", "spider", "crawling", "slurp", "facebookexternalhit", "headless", "curl/", "wget/",
    "python-requests", "go-http-client", "okhttp"]

/-- The text has `bot` at the end of a word. -/
def endsWordInBot (folded : List Char) : Bool :=
  (firstMatch (fun cs => (dropLiteral? "bot".toList cs).bind fun rest =>
    match rest with
    | [] => some ()
    | c :: _ => if isWord c then none else some ()) folded).isSome

/-- The text names a crawler or a program. -/
def isBot (cs : List Char) : Bool :=
  let folded := cs.map foldCase
  endsWordInBot folded || botWords.any fun w => contains w.toList folded

/-- Characters of a crawler's name. -/
def isNameChar (c : Char) : Bool :=
  let c := foldCase c
  ('a' ≤ c && c ≤ 'z') || ('0' ≤ c && c ≤ '9') || c = '-' || c = '_' || c = '.'

/-- Words that a crawler's name ends in. -/
def botNameEnds : List String := ["bot", "crawler", "spider", "slurp"]

/-- The text starts with a word, whatever its case. -/
def startsWithWord : (word text : List Char) → Bool
  | [], _ => true
  | _ :: _, [] => false
  | w :: ws, c :: cs => w == foldCase c && startsWithWord ws cs

/-- The longest part of a name that ends in one of the words. -/
def nameUpToEnd : List Char → Option (List Char)
  | [] => none
  | c :: cs =>
    match nameUpToEnd cs with
    | some name => some (c :: name)
    | none =>
      (botNameEnds.find? fun w => startsWithWord w.toList (c :: cs)).map fun w =>
        (c :: cs).take w.length

/-- The crawler's name further on; within a run of name characters that holds none if told so. -/
def botNameFrom : (inRun : Bool) → List Char → Option (List Char)
  | _, [] => none
  | inRun, c :: cs =>
    if isNameChar c then
      if inRun then botNameFrom true cs
      else
        match nameUpToEnd ((c :: cs).takeWhile isNameChar) with
        | some name => some name
        | none => botNameFrom true cs
    else botNameFrom false cs

/-- The crawler's name: in the first run of name characters that holds one of the words, up to the
last of them. -/
def botName? (cs : List Char) : Option (List Char) :=
  botNameFrom false cs

/-- The kinds of device. -/
inductive Kind where
  | bot
  | tablet
  | mobile
  | desktop
  deriving DecidableEq, Repr

/-- The name of a kind of device in a record. -/
def Kind.name : Kind → String
  | bot => "bot"
  | tablet => "tablet"
  | mobile => "mobile"
  | desktop => "desktop"

/-- The kind of device. An Android client that does not call itself mobile is a tablet. -/
def kindOf (cs : List Char) : Kind :=
  let folded := cs.map foldCase
  if isBot cs then .bot
  else if contains "ipad".toList folded || contains "tablet".toList folded ||
      (contains "Android".toList cs && !contains "Mobile".toList cs) then .tablet
  else if ["Mobi", "iPhone", "iPod", "Android"].any fun w => contains w.toList cs then .mobile
  else .desktop

/-! ## The whole -/

/-- A text cut to the width of a column. -/
def fit (c : Column) (cs : List Char) : String :=
  String.ofList (cs.take c.maxLength)

/-- The fields of a trimmed text that is not empty, before they are cut to their columns. -/
def ofChars (cs : List Char) : UserAgent :=
  let kind := kindOf cs
  let (browser, browserVersion) :=
    match kind, botName? cs with
    | .bot, some name => (name, [])
    | _, _ => browserOf cs
  let (os, osVersion) := osOf cs
  let device := if kind = .bot then "Bot".toList else deviceOf cs
  { browser := fit .userBrowser browser
    browserVersion := fit .userBrowserVersion browserVersion
    os := fit .userOs os
    osVersion := fit .userOsVersion osVersion
    device := fit .userDevice device
    deviceType := fit .userDeviceType kind.name.toList }

/-- Browser, operating system and device of a `User-Agent` text. -/
def ofText (s : String) : UserAgent :=
  match trimChars s.toList with
  | [] => {}
  | cs => ofChars cs

theorem ofText_blank {s : String} (h : trimChars s.toList = []) : ofText s = {} := by
  simp [ofText, h]

end UserAgent

end VisitLog

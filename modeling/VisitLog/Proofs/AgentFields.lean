import VisitLog.Proofs.BlankParameters
import VisitLog.Proofs.WellFormed

/-!
# The fields of a user agent

Browser, operating system, device and kind are found independently of one another in the same text,
and then the kind of a crawler replaces what was found. That they still agree needs one fact about
texts: a device that is called `Bot` stands before a blank, a semicolon, a parenthesis or the end,
so it ends a word, and the text is a crawler's (`isBot_of_androidModel?`).

Main statement: `UserAgent.isCoherent_ofText`.
-/

namespace VisitLog

namespace Text

/-! ## Where recognisers succeed -/

section
variable {α : Type} {p : List Char → Option α} {cs rest : List Char} {a : α}

theorem exists_append_of_firstMatch (h : firstMatch p cs = some a) :
    ∃ before rest, cs = before ++ rest ∧ p rest = some a := by
  induction cs with
  | nil => exact ⟨[], [], rfl, h⟩
  | cons c cs ih =>
    rw [firstMatch] at h
    split at h
    · next hp => exact ⟨[], c :: cs, rfl, hp.trans h⟩
    · obtain ⟨before, rest, rfl, hp⟩ := ih h
      exact ⟨c :: before, rest, rfl, hp⟩

theorem isSome_firstMatch_append (before : List Char) (h : (p rest).isSome) :
    (firstMatch p (before ++ rest)).isSome := by
  induction before with
  | nil =>
    cases rest with
    | nil => exact h
    | cons c rest =>
      obtain ⟨a, ha⟩ := Option.isSome_iff_exists.1 h
      simp [firstMatch, ha]
  | cons c before ih =>
    rw [List.cons_append, firstMatch]
    split
    · rfl
    · exact ih

end

variable {cs rest a b : List Char}

theorem exists_of_dropAny? {literals : List (List Char)} (h : dropAny? literals cs = some rest) :
    ∃ l ∈ literals, cs = l ++ rest := by
  obtain ⟨l, hl, hdrop⟩ := List.exists_of_findSome?_eq_some h
  exact ⟨l, hl, eq_append_of_dropLiteral? hdrop⟩

/-- What stands before a literal ends at the literal, or with the text. -/
theorem exists_append_before (literal cs : List Char) :
    ∃ rest, cs = before literal cs ++ rest ∧ (rest = [] ∨ ∃ after, rest = literal ++ after) := by
  induction cs with
  | nil => exact ⟨[], rfl, .inl rfl⟩
  | cons c cs ih =>
    rw [before]
    split
    · next hdrop =>
      obtain ⟨after, hafter⟩ := Option.isSome_iff_exists.1 hdrop
      exact ⟨c :: cs, rfl, .inr ⟨after, eq_append_of_dropLiteral? hafter⟩⟩
    · obtain ⟨rest, hrest, hend⟩ := ih
      exact ⟨rest, by rw [List.cons_append, ← hrest], hend⟩

/-! ## Blanks -/

theorem exists_append_trimChars (cs : List Char) :
    ∃ a b, cs = a ++ (trimChars cs ++ b) ∧ (∀ c ∈ a, isBlank c) ∧ ∀ c ∈ b, isBlank c := by
  refine ⟨cs.takeWhile isBlank, (trimStart cs).rtakeWhile isBlank, ?_, ?_, ?_⟩
  · rw [trimChars, trimEnd_eq_rdropWhile, List.rdropWhile_append_rtakeWhile, trimStart,
      List.takeWhile_append_dropWhile]
  · intro c hc
    exact List.mem_takeWhile_imp hc
  · intro c hc
    exact List.mem_rtakeWhile_imp hc

theorem trimChars_append (ha : ∀ c ∈ a, isBlank c) (hb : ∀ c ∈ b, isBlank c) (cs : List Char) :
    trimChars (a ++ cs ++ b) = trimChars cs := by
  have hend (cs : List Char) : trimEnd (cs ++ b) = trimEnd cs := by
    have hb' : ∀ c ∈ b.reverse, isBlank c := fun c hc => hb c (List.mem_reverse.1 hc)
    rw [trimEnd, List.reverse_append, List.dropWhile_append_of_pos hb', trimEnd]
  rw [trimChars, trimStart, List.append_assoc, List.dropWhile_append_of_pos ha,
    List.dropWhile_append]
  split
  · next hblank =>
    rw [List.isEmpty_iff] at hblank
    rw [List.dropWhile_eq_nil_iff.2 hb, trimChars, trimStart, hblank]
  · rw [hend, trimChars, trimStart]

theorem trimChars_eq_nil_iff : trimChars cs = [] ↔ ∀ c ∈ cs, isBlank c := by
  constructor
  · intro h c hc
    exact isBlank_of_trimChars_eq_nil h hc
  · intro h
    simpa [trimChars_nil] using trimChars_append h (b := []) (by simp) []

/-- A table that has no code point in common with the one of the blanks has no blank. -/
theorem any_eq_false_of_isBlank {α : Type} {ranges : List α} (low high : α → Nat)
    (hapart : blankRanges.all fun b => ranges.all fun r => b.2 < low r || high r < b.1) {c : Char}
    (h : isBlank c) :
    (ranges.any fun r => low r ≤ c.toNat && c.toNat ≤ high r) = false := by
  obtain ⟨b, hb, hc⟩ := List.any_eq_true.1 h
  rw [List.any_eq_false]
  intro r hr
  have hbr := List.all_eq_true.1 (List.all_eq_true.1 hapart b hb) r hr
  simp only [Bool.and_eq_true, Bool.or_eq_true, decide_eq_true_eq] at hc hbr ⊢
  omega

/-- What holds of all ASCII characters by trying them holds of a character below 128. -/
theorem eq_false_of_ascii {p : Char → Bool}
    (hall : ∀ n < 0x80, isBlank (Char.ofNat n) → p (Char.ofNat n) = false) {c : Char}
    (hascii : c.toNat < 0x80) (h : isBlank c) : p c = false := by
  have hc := hall c.toNat hascii
  rw [Char.ofNat_toNat] at hc
  exact hc h

theorem isWord_of_isBlank {c : Char} (h : isBlank c) : isWord c = false := by
  by_cases hascii : c.toNat < 0x80
  · exact eq_false_of_ascii (by decide) hascii h
  · rw [isWord, if_neg hascii]
    exact any_eq_false_of_isBlank Prod.fst Prod.snd (by decide +kernel) h

theorem isDecimalDigit_of_isBlank {c : Char} (h : isBlank c) : isDecimalDigit c = false := by
  by_cases hascii : c.toNat < 0x80
  · exact eq_false_of_ascii (by decide) hascii h
  · rw [isDecimalDigit, if_neg hascii]
    exact any_eq_false_of_isBlank id (· + 9) (by decide +kernel) h

end Text

namespace UserAgent

open Text

variable {cs rest : List Char}

/-! ## Versions -/

/-- A character of a version. -/
def isVersionChar (c : Char) : Bool :=
  isDecimalDigit c || c = '.'

theorem isVersionChar_of_isBlank {c : Char} (h : isBlank c) : isVersionChar c = false := by
  rw [isVersionChar, isDecimalDigit_of_isBlank h, Bool.false_or, decide_eq_false_iff_not]
  rintro rfl
  cases h

/-- A version stands in a text: behind a slash, and in full. -/
structure IsWritten (version cs : List Char) : Prop where
  chars : ∀ c ∈ version, isVersionChar c
  place : ∃ before after, cs = before ++ '/' :: (version ++ after) ∧ ∀ c ∈ after.head?,
    isVersionChar c = false

theorem run?_eq_some {p : Char → Bool} {run : List Char} (h : run? p cs = some (run, rest)) :
    cs = run ++ rest ∧ (∀ c ∈ run, p c) ∧ ∀ c ∈ rest.head?, p c = false := by
  unfold run? at h
  split at h
  · cases h
  · next hne =>
    cases h
    refine ⟨(List.takeWhile_append_dropWhile).symm, fun c hc => List.mem_takeWhile_imp hc,
      fun c hc => ?_⟩
    have hhead := List.head?_dropWhile_not p cs
    rwa [Option.mem_def.1 hc] at hhead

/-- A version is found behind a mark, and all marks end in a slash. -/
theorem isWritten_of_mark {mark version : List Char} (before : List Char)
    (hmark : mark.getLast? = some '/')
    (h : dotted? cs = some (version, rest)) : IsWritten version (before ++ (mark ++ cs)) := by
  obtain ⟨rfl, hchars, hend⟩ := run?_eq_some h
  obtain ⟨name, rfl⟩ := List.getLast?_eq_some_iff.1 hmark
  exact ⟨hchars, before ++ name, rest, by simp, hend⟩

theorem getLast?_of_mem_marks {b : Browser} (hb : b ∈ browsers) {mark : String}
    (hm : mark ∈ b.marks) :
    mark.toList.getLast? = some '/' := by
  have hall : ∀ b ∈ browsers, ∀ m ∈ b.marks, m.toList.getLast? = some '/' := by decide
  exact hall b hb mark hm

theorem isWritten_of_version? {b : Browser} (hb : b ∈ browsers) {version : List Char}
    (h : b.version? cs = some version) : IsWritten version cs := by
  obtain ⟨before, found, rfl, hfound⟩ := exists_append_of_firstMatch h
  obtain ⟨rest, hdrop, hversion⟩ := Option.bind_eq_some_iff.1 hfound
  obtain ⟨⟨run, after⟩, hdotted, rfl⟩ := Option.map_eq_some_iff.1 hversion
  obtain ⟨literal, hliteral, rfl⟩ := exists_of_dropAny? hdrop
  obtain ⟨mark, hmark, rfl⟩ := List.mem_map.1 hliteral
  exact isWritten_of_mark before (getLast?_of_mem_marks hb hmark) hdotted

theorem isWritten_of_safariVersion? {version : List Char} (h : safariVersion? cs = some version) :
    IsWritten version cs := by
  obtain ⟨before, found, rfl, hfound⟩ := exists_append_of_firstMatch h
  obtain ⟨rest, hdrop, hfound⟩ := Option.bind_eq_some_iff.1 hfound
  obtain ⟨⟨written, rest⟩, hdotted, hfound⟩ := Option.bind_eq_some_iff.1 hfound
  rw [eq_append_of_dropLiteral? hdrop]
  dsimp only at hfound
  split at hfound
  · cases hfound
    exact isWritten_of_mark before rfl hdotted
  · cases hfound

theorem name_ne_empty {b : Browser} (hb : b ∈ browsers) : b.name.toList ≠ [] := by
  have hall : ∀ b ∈ browsers, b.name.toList ≠ [] := by decide
  exact hall b hb

/-- A browser's version comes with its name, and from the text. -/
theorem version_browserOf (cs : List Char) :
    (browserOf cs).2 = [] ∨ (browserOf cs).1 ≠ [] ∧ IsWritten (browserOf cs).2 cs := by
  unfold browserOf
  split
  · next found hfound =>
    obtain ⟨b, hb, hnamed⟩ := List.exists_of_findSome?_eq_some hfound
    obtain ⟨version, hversion, rfl⟩ := Option.map_eq_some_iff.1 hnamed
    exact .inr ⟨name_ne_empty hb, isWritten_of_version? hb hversion⟩
  · split
    · next version hversion => exact .inr ⟨by simp, isWritten_of_safariVersion? hversion⟩
    · split <;> exact .inl rfl

theorem version_osOf (cs : List Char) : (osOf cs).2 = [] ∨ (osOf cs).1 ≠ [] := by
  unfold osOf
  repeat' split
  all_goals simp

/-! ## Devices -/

theorem exists_of_dropLocale? (h : dropLocale? cs = some rest) : ∃ locale, cs = locale ++ rest := by
  unfold dropLocale? at h
  split at h
  · next a b s c d after =>
    split at h
    · cases h
      exact ⟨[a, b, s, c, d, ';', ' '], rfl⟩
    · cases h
  · cases h

/-- A character at which the name of a device ends. -/
def endsDevice (c : Char) : Bool :=
  isBlank c || c = ';' || c = ')'

theorem exists_of_commentField? {field : List Char} (h : commentField? cs = some field) :
    ∃ rest, cs = field ++ rest ∧ ∀ c ∈ rest.head?, endsDevice c := by
  obtain ⟨⟨run, rest⟩, hrun, rfl⟩ := Option.map_eq_some_iff.1 h
  obtain ⟨rfl, -, hend⟩ := run?_eq_some hrun
  refine ⟨rest, rfl, fun c hc => ?_⟩
  have hc := hend c hc
  simp only [Bool.and_eq_false_iff, decide_eq_false_iff_not, not_not] at hc
  rcases hc with rfl | rfl <;> rfl

/-- The name of an Android device stands in the text, right before something that ends it. -/
theorem exists_of_androidField? {field : List Char} (h : androidField? cs = some field) :
    ∃ before rest, cs = before ++ (field ++ rest) ∧ ∀ c ∈ rest.head?, endsDevice c := by
  obtain ⟨before, found, rfl, hfound⟩ := exists_append_of_firstMatch h
  obtain ⟨system, hsystem, hfound⟩ := Option.bind_eq_some_iff.1 hfound
  obtain ⟨⟨version, after⟩, hversion, hfound⟩ := Option.bind_eq_some_iff.1 hfound
  obtain ⟨comment, hcomment, hmatch⟩ := Option.bind_eq_some_iff.1 hfound
  obtain ⟨rfl, -, -⟩ := run?_eq_some hversion
  rw [eq_append_of_dropLiteral? hsystem, eq_append_of_dropLiteral? hcomment]
  split at hmatch
  · next found hlocale =>
    cases hmatch
    obtain ⟨past, hpast, hfield⟩ := Option.bind_eq_some_iff.1 hlocale
    obtain ⟨locale, rfl⟩ := exists_of_dropLocale? hpast
    obtain ⟨rest, rfl, hend⟩ := exists_of_commentField? hfield
    exact ⟨before ++ ("Android ".toList ++ (version ++ ("; ".toList ++ locale))),
      rest, by simp, hend⟩
  · obtain ⟨rest, rfl, hend⟩ := exists_of_commentField? hmatch
    exact ⟨before ++ ("Android ".toList ++ (version ++ "; ".toList)), rest, by simp, hend⟩

/-- A model stands in the text, and it ends there where a name of a device does. -/
theorem exists_of_androidModel? {model : List Char} (h : androidModel? cs = some model) :
    ∃ before rest, cs = before ++ (model ++ rest) ∧ ∀ c ∈ rest.head?, endsDevice c := by
  obtain ⟨field, hfield, hmodel⟩ := Option.bind_eq_some_iff.1 h
  obtain ⟨before, rest, rfl, hend⟩ := exists_of_androidField? hfield
  obtain ⟨build, hbuild, hstart⟩ := exists_append_before " Build/".toList field
  dsimp only at hmodel
  generalize Text.before " Build/".toList field = kept at hbuild hmodel
  obtain ⟨a, b, htrim, -, hb⟩ := exists_append_trimChars kept
  split at hmodel
  · cases hmodel
  · cases hmodel
    refine ⟨before ++ a, b ++ (build ++ rest), ?_, ?_⟩
    · nth_rewrite 1 [hbuild, htrim]
      simp
    · cases b with
      | cons c b => simp [endsDevice, hb c (by simp)]
      | nil =>
        rcases hstart with rfl | ⟨after, rfl⟩
        · exact hend
        · simp [endsDevice, isBlank, blankRanges]

/-- Words end at the same places whatever the case of their letters. -/
theorem isWord_foldCase (c : Char) : isWord (foldCase c) = isWord c := by
  by_cases hascii : c.toNat < 0x80
  · have hall : ∀ n < 0x80, isWord (foldCase (Char.ofNat n)) = isWord (Char.ofNat n) := by decide
    have hlow := hall c.toNat hascii
    rwa [Char.ofNat_toNat] at hlow
  · rw [foldCase]
    split
    · next hs =>
      subst hs
      decide
    · split
      · next hk =>
        subst hk
        decide +kernel
      · have hupper : ¬('A'.val ≤ c.val ∧ c.val ≤ 'Z'.val) := by
          rintro ⟨-, hle⟩
          exact hascii (Nat.lt_of_le_of_lt (UInt32.le_iff_toNat_le.1 hle) (by decide))
        have hlower : c.toLower = c := dif_neg hupper
        rw [hlower]

theorem isWord_of_endsDevice {c : Char} (h : endsDevice c) : isWord (foldCase c) = false := by
  rw [isWord_foldCase]
  simp only [endsDevice, Bool.or_eq_true, decide_eq_true_eq] at h
  rcases h with (hblank | rfl) | rfl
  · exact isWord_of_isBlank hblank
  · rfl
  · rfl

/-- A text with the word `Bot` in it is a crawler's. -/
theorem isBot_of_append (before : List Char) (h : ∀ c ∈ rest.head?, endsDevice c) :
    isBot (before ++ ("Bot".toList ++ rest)) := by
  have hends : endsWordInBot ((before ++ ("Bot".toList ++ rest)).map foldCase) := by
    rw [List.map_append, List.map_append]
    refine isSome_firstMatch_append _ ?_
    have hfold : "Bot".toList.map foldCase = "bot".toList := by decide
    rw [hfold, dropLiteral?_append]
    cases rest with
    | nil => rfl
    | cons c rest => simp [isWord_of_endsDevice (h c rfl)]
  rw [isBot, hends, Bool.true_or]

theorem isBot_of_androidModel? (h : androidModel? cs = some "Bot".toList) : isBot cs := by
  obtain ⟨before, rest, rfl, hend⟩ := exists_of_androidModel? h
  exact isBot_of_append before hend

/-- Only a robot is called one, whatever the text says. -/
theorem deviceOf_ne_bot (h : isBot cs = false) : deviceOf cs ≠ "Bot".toList := by
  intro hdevice
  unfold deviceOf at hdevice
  split at hdevice
  · next d hd =>
    have hall : ∀ d ∈ handhelds, d.toList ≠ "Bot".toList := by decide
    exact hall d (List.mem_of_find?_eq_some hd) hdevice
  · split at hdevice
    · next model hmodel =>
      rw [hdevice] at hmodel
      rw [isBot_of_androidModel? hmodel] at h
      cases h
    · revert hdevice
      split
      · decide
      · split <;> decide

theorem kindOf_eq_bot_iff : kindOf cs = .bot ↔ isBot cs := by
  rw [kindOf]
  by_cases hbot : isBot cs
  · rw [if_pos hbot]
    exact iff_of_true rfl hbot
  · rw [if_neg hbot, iff_false_right hbot]
    split
    · nofun
    · split <;> nofun

/-! ## The fields together -/

theorem toList_fit (c : Column) (cs : List Char) : (fit c cs).toList = cs.take c.maxLength := by
  rw [fit, String.toList_ofList]

theorem fit_eq_empty_iff {c : Column} : fit c cs = "" ↔ cs = [] := by
  have hwidth : c.maxLength ≠ 0 := by cases c <;> decide
  rw [← String.toList_inj, toList_fit]
  simp [hwidth]

theorem fit_of_length_lt {c : Column} (h : (fit c cs).toList.length < c.maxLength) :
    (fit c cs).toList = cs := by
  rw [toList_fit, List.length_take] at h
  rw [toList_fit, List.take_of_length_le (by omega)]

theorem name_kind_mem (k : Kind) : k.name ∈ ["bot", "tablet", "mobile", "desktop"] := by
  cases k <;> decide

theorem fit_name (k : Kind) : fit .userDeviceType k.name.toList = k.name := by
  cases k <;> rfl

/-- The kind of a crawler replaces the browser by a name without a version. So a version that is
shown is the browser's: it comes with a name and stands in the text. -/
theorem exists_browser_ofChars (cs : List Char) :
    ∃ client : List Char × List Char, (ofChars cs).browser = fit .userBrowser client.1 ∧
      (ofChars cs).browserVersion = fit .userBrowserVersion client.2 ∧
      (client.2 ≠ [] → client.1 ≠ [] ∧ IsWritten client.2 cs) := by
  refine ⟨_, rfl, rfl, fun hne => ?_⟩
  split at hne
  · exact absurd rfl hne
  · exact (version_browserOf _).resolve_left hne

theorem os_ofChars_ne_empty {cs : List Char} (h : (ofChars cs).osVersion ≠ "") :
    (ofChars cs).os ≠ "" := by
  have hos : (ofChars cs).os = fit .userOs (osOf cs).1 := rfl
  have hversion : (ofChars cs).osVersion = fit .userOsVersion (osOf cs).2 := rfl
  rw [hversion, ne_eq, fit_eq_empty_iff] at h
  rw [hos, ne_eq, fit_eq_empty_iff]
  exact (version_osOf _).resolve_left h

theorem deviceType_ofChars (cs : List Char) : (ofChars cs).deviceType = (kindOf cs).name :=
    fit_name (kindOf cs)

/-- The device is a robot exactly if the kind of the device says so. -/
theorem device_ofChars_eq_iff (cs : List Char) : (ofChars cs).device = "Bot" ↔
    kindOf cs = .bot := by
  have hdevice : (ofChars cs).device =
      fit .userDevice (if kindOf cs = .bot then "Bot".toList else deviceOf cs) := rfl
  rw [hdevice]
  by_cases hkind : kindOf cs = .bot
  · rw [if_pos hkind]
    exact iff_of_true rfl hkind
  · rw [if_neg hkind, iff_false_right hkind]
    intro hfit
    have hshort : (fit .userDevice (deviceOf cs)).toList.length < Column.userDevice.maxLength := by
      rw [hfit]
      decide
    have hdevice := fit_of_length_lt hshort
    rw [hfit] at hdevice
    rw [kindOf_eq_bot_iff, Bool.not_eq_true] at hkind
    exact deviceOf_ne_bot hkind hdevice.symm

theorem mem_fit {c : Column} {x : Char} (h : x ∈ (fit c cs).toList) : x ∈ cs := by
  rw [toList_fit] at h
  exact List.mem_of_mem_take h

/-- Of a version that is too long its first part stands in the text. -/
theorem IsWritten.fit {version : List Char} (h : IsWritten version cs) (c : Column) :
    ∃ before after, cs = before ++ '/' :: ((fit c version).toList ++ after) ∧
      ((fit c version).toList.length < c.maxLength → ∀ x ∈ after.head?,
        isVersionChar x = false) := by
  obtain ⟨before, after, rfl, hend⟩ := h.place
  refine ⟨before, version.drop c.maxLength ++ after, ?_, fun hlength => ?_⟩
  · rw [toList_fit, ← List.append_assoc, List.take_append_drop]
  · have hwhole := fit_of_length_lt hlength
    rw [hwhole] at hlength
    rw [List.drop_eq_nil_of_le (by omega), List.nil_append]
    exact hend

/-- What the fields say together. `blank`, `kind`: a text that is not blank has a kind of device, a
blank one has nothing. `bot`: a crawler is a device of its own. `browser`, `os`: no version comes
without a name. `version`, `place`: a browser's version has digits and dots only, it stands in the
text behind a slash, and if it is shorter than its column it goes no further there. `fits`: all are
within their columns. `surrounded`: blanks around the text do not count. -/
structure IsCoherent (s : String) (agent : UserAgent) : Prop where
  blank : agent = {} ↔ ∀ c ∈ s.toList, isBlank c
  kind : (∃ c ∈ s.toList, isBlank c = false) → agent.deviceType ∈
    ["bot", "tablet", "mobile", "desktop"]
  bot : agent.device = "Bot" ↔ agent.deviceType = "bot"
  browser : agent.browserVersion ≠ "" → agent.browser ≠ ""
  os : agent.osVersion ≠ "" → agent.os ≠ ""
  version : ∀ c ∈ agent.browserVersion.toList, isDecimalDigit c ∨ c = '.'
  place : agent.browserVersion ≠ "" → ∃ before after,
    s.toList = before ++ '/' :: (agent.browserVersion.toList ++ after) ∧
      (agent.browserVersion.toList.length < Column.userBrowserVersion.maxLength →
        ∀ c ∈ after.head?, ¬(isDecimalDigit c ∨ c = '.'))
  fits : agent.Fits
  surrounded : ∀ a b : String, (∀ c ∈ a.toList, isBlank c) → (∀ c ∈ b.toList, isBlank c) →
    ofText (a ++ s ++ b) = agent

theorem ofText_of_ne_nil {s : String} (h : trimChars s.toList ≠ []) :
    ofText s = ofChars (trimChars s.toList) := by
  unfold ofText
  split
  · next hnil => exact absurd hnil h
  · rfl

theorem ofText_surrounded {a b : String} (ha : ∀ c ∈ a.toList, isBlank c)
    (hb : ∀ c ∈ b.toList, isBlank c) (s : String) :
    ofText (a ++ s ++ b) = ofText s := by
  rw [ofText, String.toList_append, String.toList_append, trimChars_append ha hb, ← ofText]

/-- The version of the browser stands in the text behind a slash, up to its end unless it is cut. -/
theorem exists_of_browserVersion {s : String}
    (h : (ofChars (trimChars s.toList)).browserVersion ≠ "") : ∃ before after,
      s.toList = before ++
        '/' :: ((ofChars (trimChars s.toList)).browserVersion.toList ++ after) ∧
      ((ofChars (trimChars s.toList)).browserVersion.toList.length <
          Column.userBrowserVersion.maxLength →
        ∀ c ∈ after.head?, ¬(isDecimalDigit c ∨ c = '.')) := by
  obtain ⟨client, -, hversion, hfound⟩ := exists_browser_ofChars (trimChars s.toList)
  rw [hversion, ne_eq, fit_eq_empty_iff] at h
  obtain ⟨before, after, htext, hend⟩ := (hfound h).2.fit .userBrowserVersion
  obtain ⟨a, b, hs, -, hb⟩ := exists_append_trimChars s.toList
  rw [hversion]
  refine ⟨a ++ before, after ++ b, ?_, fun hlength c hc => ?_⟩
  · rw [hs, htext]
    simp
  · have hstop : isVersionChar c = false := by
      cases after with
      | nil => exact isVersionChar_of_isBlank (hb c (List.mem_of_mem_head? hc))
      | cons d after => exact hend hlength c hc
    simpa [isVersionChar] using hstop

/-- The fields are coherent field by field: each one comes from a piece of the text, clipped to its
column. -/
theorem isCoherent_ofChars {s : String} (h : trimChars s.toList ≠ []) :
    IsCoherent s (ofChars (trimChars s.toList)) := by
  obtain ⟨client, hbrowser, hversion, hfound⟩ := exists_browser_ofChars (trimChars s.toList)
  constructor
  case blank =>
    refine iff_of_false ?_ fun hblank => h (trimChars_eq_nil_iff.2 hblank)
    intro hempty
    have hkind := deviceType_ofChars (trimChars s.toList)
    rw [hempty] at hkind
    have hne (k : Kind) : "" ≠ k.name := by cases k <;> decide
    exact hne _ hkind
  case kind =>
    intro _
    rw [deviceType_ofChars]
    exact name_kind_mem _
  case bot =>
    rw [device_ofChars_eq_iff, deviceType_ofChars]
    cases kindOf (trimChars s.toList) <;> decide
  case browser =>
    rw [hbrowser, hversion, ne_eq, fit_eq_empty_iff, ne_eq, fit_eq_empty_iff]
    exact fun hne => (hfound hne).1
  case os => exact os_ofChars_ne_empty
  case version =>
    intro c hc
    rw [hversion] at hc
    have hc := mem_fit hc
    have hchar := (hfound (List.ne_nil_of_mem hc)).2.chars c hc
    simpa [isVersionChar] using hchar
  case place => exact exists_of_browserVersion
  case fits => exact ⟨length_fit_le .., length_fit_le .., length_fit_le .., length_fit_le ..,
    length_fit_le .., length_fit_le ..⟩
  case surrounded =>
    intro a b ha hb
    rw [ofText_surrounded ha hb, ofText_of_ne_nil h]

/-- What is told from a user agent is coherent, whatever the text is. -/
theorem isCoherent_ofText (s : String) : IsCoherent s (ofText s) := by
  by_cases h : trimChars s.toList = []
  · rw [ofText_blank h]
    have hblank := trimChars_eq_nil_iff.1 h
    constructor
    case blank => exact iff_of_true rfl hblank
    case kind =>
      rintro ⟨c, hc, hfalse⟩
      rw [hblank c hc] at hfalse
      cases hfalse
    case bot => decide
    case browser => exact fun hne => absurd rfl hne
    case os => exact fun hne => absurd rfl hne
    case version => nofun
    case place => exact fun hne => absurd rfl hne
    case fits => exact ofText_blank h ▸ fits_ofText s
    case surrounded =>
      intro a b ha hb
      rw [ofText_surrounded ha hb, ofText_blank h]
  · rw [ofText_of_ne_nil h]
    exact isCoherent_ofChars h

end UserAgent

end VisitLog

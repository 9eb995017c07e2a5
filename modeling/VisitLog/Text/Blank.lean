/-!
# Blank text

The characters with the Unicode property `White_Space`, and trimming. Every reader of the library
that "ignores surrounding blanks" uses this class: the datetime readers, the record builder, the
query filters and the dashboard parameters.

Main statement: `isBlank_of_isWhitespace` (the class covers core's).
-/

namespace VisitLog.Text

/-- Ranges of the Unicode property `White_Space`. -/
def blankRanges : List (Nat × Nat) :=
  [(0x9, 0xD), (0x20, 0x20), (0x85, 0x85), (0xA0, 0xA0), (0x1680, 0x1680), (0x2000, 0x200A),
    (0x2028, 0x2029), (0x202F, 0x202F), (0x205F, 0x205F), (0x3000, 0x3000)]

/-- The character has the Unicode property `White_Space`. -/
def isBlank (c : Char) : Bool :=
  blankRanges.any fun r => r.1 ≤ c.toNat && c.toNat ≤ r.2

/-- The text without its leading blanks. -/
def trimStart (cs : List Char) : List Char :=
  cs.dropWhile isBlank

/-- The text without its trailing blanks. -/
def trimEnd (cs : List Char) : List Char :=
  (cs.reverse.dropWhile isBlank).reverse

/-- The text without blanks at either end. -/
def trimChars (cs : List Char) : List Char :=
  trimEnd (trimStart cs)

/-- The string without blanks at either end. -/
def trim (s : String) : String :=
  String.ofList (trimChars s.toList)

/-- The first `n` characters. -/
def clip (n : Nat) (s : String) : String :=
  String.ofList (s.toList.take n)

/-- The first `n` characters and three dots, or the whole string if it has no more. -/
def abbreviate (n : Nat) (s : String) : String :=
  if s.toList.length ≤ n then s else clip n s ++ "..."

/-! ## Lemmas -/

theorem isBlank_of_isWhitespace {c : Char} (h : c.isWhitespace) : isBlank c := by
  simp only [Char.isWhitespace, Bool.or_eq_true, decide_eq_true_eq] at h
  rcases h with ((rfl | rfl) | rfl) | rfl <;> decide

@[simp] theorem toList_trim (s : String) : (trim s).toList = trimChars s.toList := by
  simp [trim]

@[simp] theorem toList_clip (n : Nat) (s : String) : (clip n s).toList = s.toList.take n := by
  simp [clip]

theorem trimChars_nil : trimChars [] = [] := rfl

theorem isBlank_of_isDigit {c : Char} (h : c.isDigit) : isBlank c = false := by
  rw [Char.isDigit, Bool.and_eq_true, decide_eq_true_eq, decide_eq_true_eq] at h
  have hlow : 48 ≤ c.toNat := h.1
  have hhigh : c.toNat ≤ 57 := h.2
  rw [isBlank, List.any_eq_false]
  simp only [blankRanges, List.mem_cons, List.not_mem_nil, or_false, Bool.and_eq_true,
    decide_eq_true_eq]
  rintro _ (rfl | rfl | rfl | rfl | rfl | rfl | rfl | rfl | rfl | rfl) <;> dsimp only <;> omega

/-- A text without blanks stays as it is. -/
theorem trim_of_not_blank {s : String} (h : ∀ c ∈ s.toList, isBlank c = false) : trim s = s := by
  have hblank : ∀ cs : List Char, (∀ c ∈ cs, isBlank c = false) → cs.dropWhile isBlank = cs := by
    intro cs hcs
    cases cs with
    | nil => rfl
    | cons c cs => exact List.dropWhile_cons_of_neg (by rw [hcs c List.mem_cons_self]; decide)
  rw [trim, trimChars, trimEnd, trimStart, hblank _ h, hblank _ fun c hc =>
    h c (List.mem_reverse.1 hc), List.reverse_reverse, String.ofList_toList]

theorem trim_of_isDigit {s : String} (h : ∀ c ∈ s.toList, c.isDigit) : trim s = s :=
  trim_of_not_blank fun c hc => isBlank_of_isDigit (h c hc)

end VisitLog.Text

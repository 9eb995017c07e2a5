/-!
# Case of ASCII letters

Comparisons that ignore the case of the letters A to Z and of no others. Table names, pattern
matches and a few key words are compared this way.

Main statement: `sameLetters_comm`.
-/

namespace VisitLog.Text

/-- The text with the letters A to Z in lower case. -/
def foldLetters (cs : List Char) : List Char :=
  cs.map Char.toLower

/-- The strings differ in the case of ASCII letters at most. -/
def sameLetters (a b : String) : Bool :=
  foldLetters a.toList == foldLetters b.toList

/-- The string with the letters a to z in upper case. -/
def raiseLetters (s : String) : String :=
  String.ofList (s.toList.map Char.toUpper)

/-! ## Lemmas -/

@[simp] theorem sameLetters_refl (a : String) : sameLetters a a := by
  simp [sameLetters]

theorem sameLetters_iff {a b : String} :
    sameLetters a b ↔ foldLetters a.toList = foldLetters b.toList := by
  simp [sameLetters]

theorem sameLetters_comm (a b : String) : sameLetters a b = sameLetters b a :=
  Bool.eq_iff_iff.2 (by rw [sameLetters_iff, sameLetters_iff, eq_comm])

theorem sameLetters_congr {a b : String} (h : sameLetters a b) (c : String) :
    sameLetters a c = sameLetters b c := by
  unfold sameLetters
  rw [sameLetters_iff.1 h]

theorem foldLetters_append (a b : List Char) :
    foldLetters (a ++ b) = foldLetters a ++ foldLetters b :=
  List.map_append

theorem length_foldLetters (cs : List Char) : (foldLetters cs).length = cs.length := by
  simp [foldLetters]

end VisitLog.Text

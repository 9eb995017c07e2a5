/-!
# UTF-8

Characters as octets, and back. Octets are naturals below 256. The reader goes octet by octet and
remembers how many more a character needs and which range the next one must lie in; so it notices an
ill-formed sequence at the first octet that cannot continue it.

Main statement: `read_encode` (what is written reads back as the same characters).
-/

namespace VisitLog.Text.Utf8

/-- The octets of a character. -/
def encodeChar (c : Char) : List Nat :=
  let n := c.toNat
  if n < 0x80 then [n]
  else if n < 0x800 then [0xC0 + n / 0x40, 0x80 + n % 0x40]
  else if n < 0x10000 then [0xE0 + n / 0x1000, 0x80 + n / 0x40 % 0x40, 0x80 + n % 0x40]
  else
    [0xF0 + n / 0x40000, 0x80 + n / 0x1000 % 0x40, 0x80 + n / 0x40 % 0x40, 0x80 + n % 0x40]

/-- The octets of a text. -/
def encode (cs : List Char) : List Nat :=
  cs.flatMap encodeChar

/-- A character under way: the octets still to come, the range of the next one and the bits so
far. -/
structure Pending where
  more : Nat
  low : Nat
  high : Nat
  bits : Nat
  deriving DecidableEq, Repr

/-- What an octet at the start of a character begins. -/
inductive Start where
  | whole (c : Char)
  | lead (p : Pending)
  | bad
  deriving DecidableEq, Repr

/-- The meaning of an octet at the start of a character. -/
def start (b : Nat) : Start :=
  if b < 0x80 then .whole (Char.ofNat b)
  else if 0xC2 ≤ b ∧ b ≤ 0xDF then .lead ⟨0, 0x80, 0xBF, b - 0xC0⟩
  else if b = 0xE0 then .lead ⟨1, 0xA0, 0xBF, 0⟩
  else if b = 0xED then .lead ⟨1, 0x80, 0x9F, 0xD⟩
  else if 0xE1 ≤ b ∧ b ≤ 0xEF then .lead ⟨1, 0x80, 0xBF, b - 0xE0⟩
  else if b = 0xF0 then .lead ⟨2, 0x90, 0xBF, 0⟩
  else if 0xF1 ≤ b ∧ b ≤ 0xF3 then .lead ⟨2, 0x80, 0xBF, b - 0xF0⟩
  else if b = 0xF4 then .lead ⟨2, 0x80, 0x8F, 4⟩
  else .bad

/-- The characters of octets after a character under way; `none` stands for each ill-formed
sequence. -/
def readFrom : Option Pending → List Nat → List (Option Char)
  | none, [] => []
  | some _, [] => [none]
  | none, b :: bs =>
    match start b with
    | .whole c => some c :: readFrom none bs
    | .lead p => readFrom (some p) bs
    | .bad => none :: readFrom none bs
  | some p, b :: bs =>
    if p.low ≤ b ∧ b ≤ p.high then
      let bits := p.bits * 0x40 + (b - 0x80)
      match p.more with
      | 0 => some (Char.ofNat bits) :: readFrom none bs
      | more + 1 => readFrom (some ⟨more, 0x80, 0xBF, bits⟩) bs
    else
      none ::
        match start b with
        | .whole c => some c :: readFrom none bs
        | .lead p => readFrom (some p) bs
        | .bad => none :: readFrom none bs

/-- The characters of octets; `none` stands for each ill-formed sequence. -/
def read (bs : List Nat) : List (Option Char) :=
  readFrom none bs

/-- The text of octets, with a replacement character for each ill-formed sequence. -/
def decodeLossy (bs : List Nat) : List Char :=
  (read bs).map fun c => c.getD '\uFFFD'

/-- The text of octets that are well formed. -/
def decode? (bs : List Nat) : Option (List Char) :=
  (read bs).mapM id

/-! ## Lemmas -/

theorem isScalar (c : Char) : c.toNat < 0xD800 ∨ 0xDFFF < c.toNat ∧ c.toNat < 0x110000 := by
  have h : Nat.isValidChar c.toNat := c.valid
  unfold Nat.isValidChar at h
  omega

/-! A character of two octets or more is read in steps: its first octet says how many follow, and
each of those brings six bits. -/

section Steps

variable {b more low high bits d : Nat} {p : Pending} {bs : List Nat}

theorem readFrom_lead (h : start b = .lead p) : readFrom none (b :: bs) = readFrom (some p) bs := by
  rw [readFrom, h]

theorem readFrom_more (hlow : low ≤ 0x80 + d) (hhigh : 0x80 + d ≤ high) :
    readFrom (some ⟨more + 1, low, high, bits⟩) ((0x80 + d) :: bs) =
      readFrom (some ⟨more, 0x80, 0xBF, bits * 0x40 + d⟩) bs := by
  simp only [readFrom, if_pos (And.intro hlow hhigh), Nat.add_sub_cancel_left]

theorem readFrom_last (hlow : low ≤ 0x80 + d) (hhigh : 0x80 + d ≤ high) :
    readFrom (some ⟨0, low, high, bits⟩) ((0x80 + d) :: bs) =
      some (Char.ofNat (bits * 0x40 + d)) :: readFrom none bs := by
  simp only [readFrom, if_pos (And.intro hlow hhigh), Nat.add_sub_cancel_left]

end Steps

section Starts

variable {n : Nat}

theorem start_of_two (hlow : 0x80 ≤ n) (hhigh : n < 0x800) :
    start (0xC0 + n / 0x40) = .lead ⟨0, 0x80, 0xBF, n / 0x40⟩ := by
  rw [start, if_neg (by omega), if_pos (by omega), Nat.add_sub_cancel_left]

/-- Of three octets the second is bounded where the character would have two octets, or would be a
surrogate. -/
theorem exists_start_of_three (hlow : 0x800 ≤ n) (hhigh : n < 0x10000)
    (hn : n < 0xD800 ∨ 0xDFFF < n) :
    ∃ low high, start (0xE0 + n / 0x1000) = .lead ⟨1, low, high, n / 0x1000⟩ ∧
      low ≤ 0x80 + n / 0x40 % 0x40 ∧ 0x80 + n / 0x40 % 0x40 ≤ high := by
  rw [start, if_neg (by omega), if_neg (by omega)]
  rcases (by omega : n / 0x1000 = 0 ∨ n / 0x1000 = 0xD ∨ n / 0x1000 ≠ 0 ∧
    n / 0x1000 ≠ 0xD) with h | h | h
  · rw [h]
    exact ⟨_, _, rfl, by omega, by omega⟩
  · rw [h]
    exact ⟨_, _, rfl, by omega, by omega⟩
  · rw [if_neg (by omega), if_neg (by omega), if_pos (by omega), Nat.add_sub_cancel_left]
    exact ⟨_, _, rfl, by omega, by omega⟩

/-- Of four octets the second is bounded where the character would have three octets, or would be
too great. -/
theorem exists_start_of_four (hlow : 0x10000 ≤ n) (hhigh : n < 0x110000) :
    ∃ low high, start (0xF0 + n / 0x40000) = .lead ⟨2, low, high, n / 0x40000⟩ ∧
      low ≤ 0x80 + n / 0x1000 % 0x40 ∧ 0x80 + n / 0x1000 % 0x40 ≤ high := by
  rw [start, if_neg (by omega), if_neg (by omega), if_neg (by omega), if_neg (by omega),
    if_neg (by omega)]
  rcases (by omega : n / 0x40000 = 0 ∨ n / 0x40000 = 4 ∨ 1 ≤ n / 0x40000 ∧
    n / 0x40000 ≤ 3) with h | h | h
  · rw [h]
    exact ⟨_, _, rfl, by omega, by omega⟩
  · rw [h]
    exact ⟨_, _, rfl, by omega, by omega⟩
  · rw [if_neg (by omega), if_pos (by omega), Nat.add_sub_cancel_left]
    exact ⟨_, _, rfl, by omega, by omega⟩

end Starts

/-- An encoded character is decoded before whatever follows it. -/
theorem readFrom_encodeChar (c : Char) (bs : List Nat) :
    readFrom none (encodeChar c ++ bs) = some c :: readFrom none bs := by
  have hc := isScalar c
  have hback : Char.ofNat c.toNat = c := Char.ofNat_toNat c
  unfold encodeChar
  generalize c.toNat = n at hc hback ⊢
  dsimp only
  split
  · next hone => simp only [List.cons_append, List.nil_append, readFrom, start, if_pos hone, hback]
  split
  · next hone htwo =>
    have hbits : n / 0x40 * 0x40 + n % 0x40 = n := by omega
    simp only [List.cons_append, List.nil_append]
    rw [readFrom_lead (start_of_two (by omega) htwo), readFrom_last (by omega) (by omega), hbits,
      hback]
  split
  · next hone htwo hthree =>
    obtain ⟨low, high, hstart, hlow, hhigh⟩ := exists_start_of_three (by omega) hthree (by omega)
    have hbits : (n / 0x1000 * 0x40 + n / 0x40 % 0x40) * 0x40 + n % 0x40 = n := by omega
    simp only [List.cons_append, List.nil_append]
    rw [readFrom_lead hstart, readFrom_more hlow hhigh, readFrom_last (by omega) (by omega), hbits,
      hback]
  · next hone htwo hthree =>
    obtain ⟨low, high, hstart, hlow, hhigh⟩ := exists_start_of_four (n := n) (by omega) (by omega)
    have hbits : ((n / 0x40000 * 0x40 + n / 0x1000 % 0x40) * 0x40 + n / 0x40 % 0x40) * 0x40 +
        n % 0x40 = n := by omega
    simp only [List.cons_append, List.nil_append]
    rw [readFrom_lead hstart, readFrom_more hlow hhigh, readFrom_more (by omega) (by omega),
      readFrom_last (by omega) (by omega), hbits, hback]

theorem read_encode (cs : List Char) : read (encode cs) = cs.map some := by
  induction cs with
  | nil => rfl
  | cons c cs ih =>
    have : encode (c :: cs) = encodeChar c ++ encode cs := rfl
    rw [read, this, readFrom_encodeChar]
    exact congrArg (some c :: ·) ih

theorem decodeLossy_encode (cs : List Char) : decodeLossy (encode cs) = cs := by
  rw [decodeLossy, read_encode, List.map_map]
  exact List.map_id _

end VisitLog.Text.Utf8

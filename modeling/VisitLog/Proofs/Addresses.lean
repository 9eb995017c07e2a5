import VisitLog.Http.Address
import VisitLog.Proofs.Readings

/-!
# Texts of addresses

The text of an address reads back as the address (`Address.ofText?_text`), and whatever is read is
an address, with as many numbers as its version has and all of them in range
(`Address.isWellFormed_of_ofText?`). An address of version 6 has one of three spellings
(`Address.Spelling`). Its reader looks for four octets at every group but the last, and finds none
in hexadecimal digits, as no point follows them (`Address.readQuad_eq_none`).
-/

namespace VisitLog

open Text

/-! ## Hexadecimal numbers -/

namespace Hex

theorem isDigit_digitChar {d : Nat} (h : d < 16) : isDigit d.digitChar := by
  have hall : ∀ d < 16, isDigit d.digitChar := by decide
  exact hall d h

theorem value?_digitChar {d : Nat} (h : d < 16) : value? d.digitChar = some d := by
  have hall : ∀ d < 16, value? d.digitChar = some d := by decide
  exact hall d h

theorem lt_of_value? {c : Char} {d : Nat} (h : value? c = some d) : d < 16 := by
  unfold value? at h
  split at h
  · next hc =>
    cases h
    have hhigh : c.toNat ≤ 57 := hc.2
    omega
  · split at h
    · next hc =>
      cases h
      have hhigh : c.toNat ≤ 102 := hc.2
      omega
    · split at h
      · next hc =>
        cases h
        have hhigh : c.toNat ≤ 70 := hc.2
        omega
      · cases h

theorem text_of_lt {n : Nat} (h : n < 16) : text n = [n.digitChar] :=
  Nat.toDigits_of_lt_base h

theorem text_of_le {n : Nat} (h : 16 ≤ n) : text n = text (n / 16) ++ [(n % 16).digitChar] :=
  Nat.toDigits_of_base_le (by decide) h

theorem isDigit_of_mem_text {n : Nat} {c : Char} (h : c ∈ text n) : isDigit c := by
  induction n using Nat.strongRecOn with
  | ind n ih =>
    by_cases hn : n < 16
    · rw [text_of_lt hn, List.mem_singleton] at h
      exact h ▸ isDigit_digitChar hn
    · rw [text_of_le (Nat.not_lt.1 hn), List.mem_append, List.mem_singleton] at h
      rcases h with h | rfl
      · exact ih _ (by omega) h
      · exact isDigit_digitChar (Nat.mod_lt _ (by decide))

theorem isDigit_of_isDigit {c : Char} (h : c.isDigit) : isDigit c := by
  rw [Char.isDigit, Bool.and_eq_true, decide_eq_true_eq, decide_eq_true_eq] at h
  rw [isDigit, Bool.or_eq_true, Bool.and_eq_true, decide_eq_true_eq, decide_eq_true_eq]
  exact .inl h

theorem isBlank_of_isDigit {c : Char} (h : isDigit c) : isBlank c = false := by
  rw [isDigit, Bool.or_eq_true, Bool.and_eq_true, Bool.and_eq_true] at h
  simp only [decide_eq_true_eq] at h
  have hranges : 48 ≤ c.toNat ∧ c.toNat ≤ 57 ∨ 97 ≤ c.toNat ∧ c.toNat ≤ 102 := h
  rw [isBlank, List.any_eq_false]
  simp only [blankRanges, List.mem_cons, List.not_mem_nil, or_false, Bool.and_eq_true,
    decide_eq_true_eq]
  rintro _ (rfl | rfl | rfl | rfl | rfl | rfl | rfl | rfl | rfl | rfl) <;> dsimp only <;> omega

end Hex

namespace Address

variable {c : Char} {n room : Nat} {ns octets groups : List Nat} {cs rest tail : List Char}
    {isFirst : Bool}

/-- The numbers are as many as the version has, and in range. -/
def IsWellFormed : Address → Prop
  | v4 octets => octets.length = 4 ∧ ∀ n ∈ octets, n < 256
  | v6 groups => groups.length = 8 ∧ ∀ n ∈ groups, n < 65536

/-! ## Numbers behind separators -/

/-- The text ends, or goes on with a separator. -/
def Breaks (sep : Char) (cs : List Char) : Prop :=
  cs = [] ∨ ∃ r, cs = sep :: r

/-- The digits of numbers, each but the first behind a separator. -/
def writeFrom (sep : Char) (digits : Nat → List Char) : (isFirst : Bool) → List Nat → List Char
  | _, [] => []
  | true, n :: ns => digits n ++ writeFrom sep digits false ns
  | false, n :: ns => sep :: (digits n ++ writeFrom sep digits false ns)

theorem intercalate_map_eq (sep : Char) (digits : Nat → List Char) (ns : List Nat) :
    [sep].intercalate (ns.map digits) = writeFrom sep digits true ns := by
  cases ns with
  | nil => rfl
  | cons n ns =>
    rw [writeFrom]
    induction ns generalizing n with
    | nil => simp [writeFrom]
    | cons m ns ih =>
      rw [List.map_cons, List.map_cons, List.intercalate_cons_cons, ← List.map_cons, ih, writeFrom,
        List.append_assoc, List.singleton_append]

theorem toList_quadText (octets : List Nat) :
    (quadText octets).toList = writeFrom '.' (Nat.toDigits 10) true octets := by
  rw [quadText, String.toList_intercalate, List.map_map, ← intercalate_map_eq]
  congr 1
  exact List.map_congr_left fun n _ => String.toList_ofList

theorem toList_groupsText (groups : List Nat) :
    (groupsText groups).toList = writeFrom ':' Hex.text true groups := by
  rw [groupsText, String.toList_intercalate, List.map_map, ← intercalate_map_eq]
  congr 1
  exact List.map_congr_left fun n _ => String.toList_ofList

/-- Behind a number the text ends or goes on with the separator. -/
theorem breaks_writeFrom (sep : Char) (digits : Nat → List Char) (ns : List Nat)
    (h : Breaks sep rest) :
    Breaks sep (writeFrom sep digits false ns ++ rest) := by
  cases ns with
  | nil => exact h
  | cons n ns => exact .inr ⟨_, rfl⟩

theorem length_writeFrom_le {sep : Char} {digits : Nat → List Char} {w : Nat} (isFirst : Bool)
    (h : ∀ n ∈ ns, (digits n).length ≤ w) : (writeFrom sep digits isFirst ns).length ≤
      (w + 1) * ns.length := by
  induction ns generalizing isFirst with
  | nil => simp [writeFrom]
  | cons n ns ih =>
    rw [List.forall_mem_cons] at h
    have hrest := ih false h.2
    have hhead := h.1
    rw [List.length_cons, Nat.mul_add, Nat.mul_one]
    cases isFirst with
    | true =>
      rw [writeFrom, List.length_append]
      omega
    | false =>
      rw [writeFrom, List.length_cons, List.length_append]
      omega

theorem mem_writeFrom {sep : Char} {digits : Nat → List Char}
    (h : c ∈ writeFrom sep digits isFirst ns) :
    c = sep ∨ ∃ n ∈ ns, c ∈ digits n := by
  induction ns generalizing isFirst with
  | nil => simp [writeFrom] at h
  | cons n ns ih =>
    have hmem : c = sep ∨ c ∈ digits n ∨ c ∈ writeFrom sep digits false ns := by
      cases isFirst with
      | true => exact .inr (List.mem_append.1 h)
      | false => exact (List.mem_cons.1 h).imp_right List.mem_append.1
    rcases hmem with rfl | hmem | hmem
    · exact .inl rfl
    · exact .inr ⟨n, List.mem_cons_self, hmem⟩
    · exact (ih hmem).imp_right fun ⟨m, hm, hc⟩ => ⟨m, List.mem_cons_of_mem n hm, hc⟩

/-! ## Octets -/

theorem digitValue?_of_breaks (h : Breaks '.' rest) : ∀ c ∈ rest.head?, digitValue? c = none := by
  rcases h with rfl | ⟨r, rfl⟩
  · exact nofun
  · rintro _ ⟨⟩
    rfl

theorem length_toDigits_le (hn : n < 256) : (Nat.toDigits 10 n).length ≤ 3 :=
  (Nat.length_toDigits_le_iff (by decide) (by decide)).2 (by omega)

/-- The digits of a number below 256 are read as that number if no further digit follows. -/
theorem readOctet_toDigits (hn : n < 256) (hrest : Breaks '.' rest) :
    readOctet (Nat.toDigits 10 n ++ rest) = some (n, rest) := by
  have hdigits : ∀ c ∈ Nat.toDigits 10 n, c.isDigit :=
    fun c => Nat.isDigit_of_mem_toDigits (by decide) (by decide)
  have hscan : scanDigits (Nat.toDigits 10 n ++ rest).length 0 0 (Nat.toDigits 10 n ++ rest) =
      (n, (Nat.toDigits 10 n).length, rest) := by
    rw [List.length_append, scanDigits_append hdigits,
      scanDigits_stop (digitValue?_of_breaks hrest), Nat.ofDigitChars_ten_toDigits, Nat.zero_add]
  have hlength := length_toDigits_le hn
  have hpos : 0 < (Nat.toDigits 10 n).length := Nat.length_toDigits_pos
  have hzero : ∀ n < 256, ¬(1 < (Nat.toDigits 10 n).length ∧ (Nat.toDigits 10 n).head? =
    some '0') := by decide +kernel
  have hhead : (Nat.toDigits 10 n ++ rest).head? = (Nat.toDigits 10 n).head? := by
    rw [List.head?_append,
      Option.or_of_isSome (List.isSome_head?.2 (List.ne_nil_of_length_pos hpos))]
  rw [readOctet, hscan]
  dsimp only
  rw [hhead, if_neg]
  rintro (h | h | h | h)
  · omega
  · omega
  · omega
  · exact hzero n hn h

theorem afterSeparator_writeFrom (sep : Char) (digits : Nat → List Char) (n : Nat) (ns : List Nat)
    (rest : List Char) :
    afterSeparator sep isFirst (writeFrom sep digits isFirst (n :: ns) ++ rest) =
      some (digits n ++ (writeFrom sep digits false ns ++ rest)) := by
  cases isFirst with
  | true =>
    rw [writeFrom, List.append_assoc]
    rfl
  | false =>
    rw [writeFrom, List.cons_append, List.append_assoc, afterSeparator, if_neg Bool.false_ne_true]
    exact if_pos rfl

theorem readOctets_writeFrom (isFirst : Bool) (h : ∀ n ∈ ns, n < 256) (hrest : Breaks '.' rest) :
    readOctets ns.length isFirst (writeFrom '.' (Nat.toDigits 10) isFirst ns ++ rest) =
    some (ns, rest) := by
  induction ns generalizing isFirst with
  | nil => cases isFirst <;> rfl
  | cons n ns ih =>
    rw [List.forall_mem_cons] at h
    simp only [List.length_cons, readOctets, afterSeparator_writeFrom, Option.bind_eq_bind,
      Option.bind_some, readOctet_toDigits h.1 (breaks_writeFrom '.' (Nat.toDigits 10) ns hrest),
      ih false h.2, Option.pure_def]

theorem readQuad_quadText (h : (v4 octets).IsWellFormed) :
    readQuad (quadText octets).toList = some (octets, []) := by
  have hread := readOctets_writeFrom true h.2 (.inl rfl : Breaks '.' [])
  rwa [h.1, List.append_nil, ← toList_quadText] at hread

theorem eq_cons_of_afterSeparator {sep : Char} (h : afterSeparator sep false cs = some rest) :
    cs = sep :: rest := by
  unfold afterSeparator at h
  rw [if_neg Bool.false_ne_true] at h
  split at h
  · split at h
    · next hsep => rw [hsep, Option.some.inj h]
    · cases h
  · cases h

theorem digits_of_readOctet (h : readOctet cs = some (n, rest)) : ∃ ds, cs = ds ++ rest ∧
    ∀ c ∈ ds, c.isDigit := by
  unfold readOctet at h
  split at h
  next hscan =>
  split at h
  · cases h
  · cases h
    obtain ⟨ds, hcs, hds, -⟩ := scanDigits_eq hscan
    exact ⟨ds, hcs, hds⟩

/-- Four octets begin with digits and a point. -/
theorem digits_of_readQuad (h : readQuad cs = some (octets, rest)) :
    ∃ ds r, cs = ds ++ '.' :: r ∧ ∀ c ∈ ds, c.isDigit := by
  simp only [readQuad, readOctets, Option.bind_eq_bind, Option.bind_eq_some_iff] at h
  obtain ⟨_, hcs, ⟨n, r⟩, hoctet, -, ⟨r', hr, -⟩, -⟩ := h
  cases hcs
  obtain ⟨ds, hcs, hds⟩ := digits_of_readOctet hoctet
  exact ⟨ds, r', eq_cons_of_afterSeparator hr ▸ hcs, hds⟩

/-- There are no octets where a colon or the end stands behind hexadecimal digits. -/
theorem readQuad_eq_none (hs : List Char) (hhs : ∀ c ∈ hs, Hex.isDigit c)
    (hrest : Breaks ':' rest) :
    readQuad (hs ++ rest) = none := by
  rw [Option.eq_none_iff_forall_ne_some]
  intro ⟨octets, _⟩ h
  obtain ⟨ds, r, hcs, hds⟩ := digits_of_readQuad h
  have hdrop := congrArg (List.dropWhile Hex.isDigit) hcs
  rw [List.dropWhile_append_of_pos hhs,
    List.dropWhile_append_of_pos fun c hc => Hex.isDigit_of_isDigit (hds c hc)] at hdrop
  rcases hrest with rfl | ⟨r', rfl⟩
  · cases hdrop
  · cases hdrop

/-! ## Groups -/

/-- A number written in hexadecimal digits is read whole, and reading goes on behind it. -/
theorem scanHex_text (n : Nat) (rest : List Char) :
    scanHex 0 0 (Hex.text n ++ rest) = scanHex n (Hex.text n).length rest := by
  induction n using Nat.strongRecOn generalizing rest with
  | ind n ih =>
    by_cases hn : n < 16
    · rw [Hex.text_of_lt hn, List.singleton_append, scanHex, Hex.value?_digitChar hn]
      dsimp only
      rw [Nat.mul_zero, Nat.zero_add]
      rfl
    · rw [Hex.text_of_le (Nat.not_lt.1 hn), List.append_assoc, List.singleton_append,
        ih _ (by omega), scanHex, Hex.value?_digitChar (Nat.mod_lt _ (by decide)),
        List.length_append]
      dsimp only
      rw [Nat.div_add_mod]
      rfl

theorem length_hexText_le (hn : n < 65536) : (Hex.text n).length ≤ 4 :=
  (Nat.length_toDigits_le_iff (by decide) (by decide)).2 hn

theorem readGroup_text (hn : n < 65536) (hrest : Breaks ':' rest) :
    readGroup (Hex.text n ++ rest) = some (n, rest) := by
  have hstop : scanHex n (Hex.text n).length rest = (n, (Hex.text n).length, rest) := by
    rcases hrest with rfl | ⟨r, rfl⟩ <;> rfl
  have hlength := length_hexText_le hn
  have hpos : 0 < (Hex.text n).length := Nat.length_toDigits_pos
  rw [readGroup, scanHex_text, hstop]
  dsimp only
  rw [if_neg (by omega)]

/-- A group that is not the beginning of four octets is read, and then the next ones. -/
theorem readGroups_text (hcs : afterSeparator ':' isFirst cs = some (Hex.text n ++ rest))
    (hn : n < 65536)
    (hrest : Breaks ':' rest) :
    readGroups (room + 1) isFirst cs =
    (n :: (readGroups room false rest).1, (readGroups room false rest).2) := by
  have hquad : readQuad (Hex.text n ++ rest) = none :=
    readQuad_eq_none (Hex.text n) (fun c => Hex.isDigit_of_mem_text) hrest
  rw [readGroups, hcs, Option.bind_some, Option.bind_some, hquad, ite_self, readGroup_text hn hrest]

/-- Groups end where two colons stand. -/
theorem readGroups_stop (hrest : rest = [] ∨ ∃ r, rest = ':' :: ':' :: r) :
    readGroups room isFirst rest = ([], false, rest) := by
  have hnone (r : List Char) (h : Breaks ':' r) : readQuad r = none ∧ readGroup r = none := by
    refine ⟨readQuad_eq_none [] nofun h, ?_⟩
    rcases h with rfl | ⟨r', rfl⟩ <;> rfl
  have hbind : (afterSeparator ':' isFirst rest).bind readQuad = none ∧
      (afterSeparator ':' isFirst rest).bind readGroup = none := by
    cases isFirst with
    | true => exact hnone rest (hrest.imp_right fun ⟨r, h⟩ => ⟨_, h⟩)
    | false =>
      rcases hrest with rfl | ⟨r, rfl⟩
      · exact ⟨rfl, rfl⟩
      · exact hnone (':' :: r) (.inr ⟨r, rfl⟩)
  cases room with
  | zero => rfl
  | succ room => rw [readGroups, hbind.1, hbind.2, ite_self]

/-- Groups between colons read back, up to the end or a double colon. -/
theorem readGroups_writeFrom (isFirst : Bool) (hroom : groups.length ≤ room)
    (h : ∀ n ∈ groups, n < 65536)
    (hrest : rest = [] ∨ ∃ r, rest = ':' :: ':' :: r) :
    readGroups room isFirst (writeFrom ':' Hex.text isFirst groups ++ rest) =
    (groups, false, rest) := by
  induction groups generalizing room isFirst with
  | nil => cases isFirst <;> exact readGroups_stop hrest
  | cons n groups ih =>
    obtain ⟨room, rfl⟩ : ∃ k, room = k + 1 :=
      Nat.exists_eq_add_one.2 (by rw [List.length_cons] at hroom; omega)
    rw [List.forall_mem_cons] at h
    have hbehind := breaks_writeFrom ':' Hex.text groups (hrest.imp_right fun ⟨r, h⟩ => ⟨_, h⟩)
    rw [readGroups_text (afterSeparator_writeFrom ':' Hex.text n groups rest) h.1 hbehind,
      ih false (Nat.le_of_succ_le_succ hroom) h.2]

theorem readQuad_writeFrom_eq_none (groups : List Nat) (hrest : Breaks ':' rest) :
    readQuad (writeFrom ':' Hex.text true groups ++ rest) = none := by
  cases groups with
  | nil => exact readQuad_eq_none [] nofun hrest
  | cons n groups =>
    rw [writeFrom, List.append_assoc]
    exact readQuad_eq_none (Hex.text n) (fun c => Hex.isDigit_of_mem_text)
      (breaks_writeFrom ':' Hex.text groups hrest)

/-! ## Zeros that are left out -/

theorem eq_replicate_append_drop (ns : List Nat) :
    ns = List.replicate (zerosAtHead ns) 0 ++ ns.drop (zerosAtHead ns) := by
  induction ns with
  | nil => rfl
  | cons n ns ih =>
    cases n with
    | zero => exact congrArg (List.cons 0) ih
    | succ n => rfl

/-- The longest run is a run: its zeros stand between the numbers before and behind it. -/
theorem eq_append_of_longestZeros {place start count : Nat}
    (h : longestZeros place ns = (start, count))
    (hcount : count ≠ 0) :
    ∃ front back, ns = front ++ List.replicate count 0 ++ back ∧ start = place + front.length := by
  induction ns generalizing place with
  | nil =>
    cases h
    exact absurd rfl hcount
  | cons n ns ih =>
    rw [longestZeros] at h
    split at h
    · cases h
      exact ⟨[], (n :: ns).drop (zerosAtHead (n :: ns)), eq_replicate_append_drop (n :: ns), rfl⟩
    · obtain ⟨front, back, hns, hstart⟩ := ih h
      refine ⟨n :: front, back, by rw [hns]; rfl, ?_⟩
      rw [List.length_cons]
      omega

/-! ## Spellings -/

/-- How a text spells an address of version 6. -/
inductive Spelling : List Nat → List Char → Prop
  /-- All groups are written. -/
  | plain (groups : List Nat) : Spelling groups (writeFrom ':' Hex.text true groups)
  /-- Two colons stand for a run of zeros. -/
  | shortened (front back : List Nat) (count : Nat) (h : 1 < count) :
    Spelling (front ++ List.replicate count 0 ++ back)
      (writeFrom ':' Hex.text true front ++ ':' :: ':' :: writeFrom ':' Hex.text true back)
  /-- The last two groups are written as four octets. -/
  | mapped (octets : List Nat) (h : (v4 octets).IsWellFormed) :
    Spelling ([0, 0, 0, 0, 0, 0xFFFF] ++ groupsOf octets)
      ("::ffff:".toList ++ (quadText octets).toList)

/-- Every address of version 6 is written in one of the three spellings. -/
theorem spelling_text (hgroups : ∀ n ∈ groups, n < 65536) :
    Spelling groups (v6 groups).text.toList := by
  unfold text
  dsimp only
  split
  · next a b =>
    simp only [List.forall_mem_cons] at hgroups
    have hoctets : (v4 [a / 256, a % 256, b / 256, b % 256]).IsWellFormed := by
      simp only [IsWellFormed, List.forall_mem_cons, List.not_mem_nil, false_implies,
        implies_true, and_true]
      exact ⟨rfl, by omega⟩
    have hspelling := Spelling.mapped _ hoctets
    rw [groupsOf, Nat.div_add_mod, Nat.div_add_mod] at hspelling
    rw [String.toList_append]
    exact hspelling
  · cases hzeros : longestZeros 0 groups with
    | mk start count =>
    dsimp only
    split
    · next hcount =>
      obtain ⟨front, back, rfl, hstart⟩ := eq_append_of_longestZeros hzeros (by omega)
      have htake : (front ++ List.replicate count 0 ++ back).take start = front := by
        rw [List.append_assoc, List.take_left' (by omega)]
      have hdrop : (front ++ List.replicate count 0 ++ back).drop (start + count) = back :=
        List.drop_left' (by rw [List.length_append, List.length_replicate]; omega)
      rw [htake, hdrop, String.toList_append, String.toList_append, toList_groupsText,
        toList_groupsText, List.append_assoc (writeFrom ':' Hex.text true front)]
      exact .shortened front back count hcount
    · rw [toList_groupsText]
      exact .plain groups

/-- What stands before two colons and what stands behind them is filled up with zeros. -/
theorem readV6_shortened {front back : List Nat} {hasQuad : Bool}
    (hfront : readGroups 8 true cs = (front, false, ':' :: ':' :: tail))
    (hlength : front.length ≠ 8)
    (hback : readGroups (7 - front.length) true tail = (back, hasQuad, rest)) :
    readV6 cs = some (front ++ List.replicate (8 - front.length - back.length) 0 ++
      back, rest) := by
  rw [readV6, hfront]
  dsimp only
  rw [if_neg hlength, if_neg Bool.false_ne_true]
  exact congrArg
    (fun read => some (front ++ List.replicate (8 - front.length - read.1.length) 0 ++
      read.1, read.2.2))
    hback

theorem readGroups_quadText (hroom : room ≠ 0) (h : (v4 octets).IsWellFormed) :
    readGroups (room + 1) false (':' :: (quadText octets).toList) =
    (groupsOf octets, true, []) := by
  have hquad : (afterSeparator ':' false (':' :: (quadText octets).toList)).bind readQuad =
      some (octets, []) :=
    readQuad_quadText h
  rw [readGroups, if_neg hroom, hquad]

/-- An address of version 6 is read from its spellings, and they are not taken for an address of
version 4. -/
theorem Spelling.ofChars? (h : Spelling groups cs) (hlength : groups.length = 8)
    (hgroups : ∀ n ∈ groups, n < 65536) :
    ofChars? cs = some (v6 groups) := by
  have hread : readQuad cs = none ∧ readV6 cs = some (groups, []) := by
    cases h with
    | plain =>
      have hfront := readGroups_writeFrom true (Nat.le_of_eq hlength) hgroups (.inl rfl)
      have hquad := readQuad_writeFrom_eq_none groups (.inl rfl)
      rw [List.append_nil] at hfront hquad
      refine ⟨hquad, ?_⟩
      rw [readV6, hfront]
      exact if_pos hlength
    | shortened front back count hcount =>
      rw [List.length_append, List.length_append, List.length_replicate] at hlength
      simp only [List.forall_mem_append] at hgroups
      have hroom : front.length ≤ 8 := by omega
      have hfront := readGroups_writeFrom true hroom hgroups.1.1
        (.inr ⟨writeFrom ':' Hex.text true back, rfl⟩)
      have hroom : back.length ≤ 7 - front.length := by omega
      have hback := readGroups_writeFrom true hroom hgroups.2
        (.inl rfl : [] = [] ∨ ∃ r, [] = ':' :: ':' :: r)
      rw [List.append_nil] at hback
      refine ⟨readQuad_writeFrom_eq_none front (.inr ⟨_, rfl⟩), ?_⟩
      rw [readV6_shortened hfront (by omega) hback,
        show 8 - front.length - back.length = count by omega]
    | mapped octets hoctets =>
      have hfront : readGroups 8 true ("::ffff:".toList ++ (quadText octets).toList) =
          ([], false, "::ffff:".toList ++ (quadText octets).toList) :=
        readGroups_stop (.inr ⟨_, rfl⟩)
      have hgroup : afterSeparator ':' true ("ffff:".toList ++ (quadText octets).toList) =
          some (Hex.text 0xFFFF ++ ':' :: (quadText octets).toList) := rfl
      have hback : readGroups 7 true ("ffff:".toList ++ (quadText octets).toList) =
          (0xFFFF :: groupsOf octets, true, []) := by
        rw [readGroups_text hgroup (by decide) (.inr ⟨_, rfl⟩),
          readGroups_quadText (by decide) hoctets]
      refine ⟨readQuad_eq_none [] nofun (.inr ⟨_, rfl⟩), ?_⟩
      have hpair : (groupsOf octets).length = 2 := by
        rw [List.length_append] at hlength
        exact Nat.add_left_cancel hlength
      rw [readV6_shortened hfront (by decide) hback, List.length_cons, hpair]
      rfl
  rw [Address.ofChars?, hread.1, hread.2]

theorem ofText?_text {a : Address} (h : a.IsWellFormed) : ofText? a.text = some a := by
  cases a with
  | v4 octets => rw [ofText?, text, Address.ofChars?, readQuad_quadText h]
  | v6 groups => exact (spelling_text h.2).ofChars? h.1 h.2

/-! ## Characters of a text -/

theorem length_quadText_le (h : (v4 octets).IsWellFormed) :
    (quadText octets).toList.length ≤ 16 := by
  have hwritten : (writeFrom '.' (Nat.toDigits 10) true octets).length ≤ 4 * octets.length :=
    length_writeFrom_le true fun n hn => length_toDigits_le (h.2 n hn)
  rwa [h.1, ← toList_quadText] at hwritten

theorem length_writtenGroups_le (hgroups : ∀ n ∈ groups, n < 65536) :
    (writeFrom ':' Hex.text true groups).length ≤ 5 * groups.length :=
  length_writeFrom_le true fun n hn => length_hexText_le (hgroups n hn)

/-- No spelling is longer than eight groups of four digits with seven colons and one more. -/
theorem Spelling.length_le (h : Spelling groups cs) (hlength : groups.length = 8)
    (hgroups : ∀ n ∈ groups, n < 65536) :
    cs.length ≤ 40 := by
  cases h with
  | plain =>
    have hwritten := length_writtenGroups_le hgroups
    omega
  | shortened front back count hcount =>
    rw [List.length_append, List.length_append, List.length_replicate] at hlength
    simp only [List.forall_mem_append] at hgroups
    have hfront := length_writtenGroups_le hgroups.1.1
    have hback := length_writtenGroups_le hgroups.2
    simp only [List.length_append, List.length_cons]
    omega
  | mapped octets hoctets =>
    have hquad := length_quadText_le hoctets
    have hhead : "::ffff:".toList.length = 7 := rfl
    rw [List.length_append]
    omega

theorem length_text_le {a : Address} (h : a.IsWellFormed) : a.text.toList.length ≤ 40 := by
  cases a with
  | v4 octets => exact Nat.le_trans (length_quadText_le h) (by decide)
  | v6 groups => exact (spelling_text h.2).length_le h.1 h.2

theorem isBlank_of_mem_quadText (h : c ∈ (quadText octets).toList) : isBlank c = false := by
  rw [toList_quadText] at h
  rcases mem_writeFrom h with rfl | ⟨n, -, hc⟩
  · rfl
  · exact isBlank_of_isDigit (Nat.isDigit_of_mem_toDigits (by decide) (by decide) hc)

theorem isBlank_of_mem_writtenGroups (h : c ∈ writeFrom ':' Hex.text true groups) :
    isBlank c = false := by
  rcases mem_writeFrom h with rfl | ⟨n, -, hc⟩
  · rfl
  · exact Hex.isBlank_of_isDigit (Hex.isDigit_of_mem_text hc)

theorem Spelling.isBlank_of_mem (h : Spelling groups cs) (hc : c ∈ cs) : isBlank c = false := by
  cases h with
  | plain => exact isBlank_of_mem_writtenGroups hc
  | shortened front back count hcount =>
    rw [List.mem_append, List.mem_cons, List.mem_cons] at hc
    rcases hc with hc | rfl | rfl | hc
    · exact isBlank_of_mem_writtenGroups hc
    · rfl
    · rfl
    · exact isBlank_of_mem_writtenGroups hc
  | mapped octets hoctets =>
    have hhead : "::ffff:".toList.all (!isBlank ·) := by decide
    rcases List.mem_append.1 hc with hc | hc
    · exact (Bool.not_eq_true' _).mp (List.all_eq_true.1 hhead c hc)
    · exact isBlank_of_mem_quadText hc

theorem trim_text {a : Address} (h : a.IsWellFormed) : trim a.text = a.text := by
  refine trim_of_not_blank fun c hc => ?_
  cases a with
  | v4 octets => exact isBlank_of_mem_quadText hc
  | v6 groups => exact (spelling_text h.2).isBlank_of_mem hc

/-! ## What is read is an address -/

/-- What the reader of octets returns is as many numbers as it was asked for, all in range. -/
theorem isWellFormed_of_readOctets {k : Nat} (h : readOctets k isFirst cs = some (ns, rest)) :
    ns.length = k ∧ ∀ n ∈ ns, n < 256 := by
  induction k generalizing isFirst cs ns with
  | zero =>
    cases h
    exact ⟨rfl, nofun⟩
  | succ k ih =>
    simp only [readOctets, Option.bind_eq_bind, Option.bind_eq_some_iff] at h
    obtain ⟨_, -, ⟨n, r⟩, hoctet, ⟨ns, r'⟩, hns, hdone⟩ := h
    cases hdone
    have hrest := ih hns
    exact ⟨congrArg Nat.succ hrest.1,
      List.forall_mem_cons.2 ⟨Nat.lt_succ_of_le (readOctet_le hoctet), hrest.2⟩⟩

/-- Each digit that is read multiplies the bound of the value by sixteen. -/
theorem scanHex_lt {k m count : Nat} (h : scanHex n k cs = (m, count, rest)) :
    ∃ j, count = k + j ∧ m < (n + 1) * 16 ^ j := by
  induction cs generalizing n k with
  | nil =>
    cases h
    exact ⟨0, rfl, by omega⟩
  | cons c cs ih =>
    rw [scanHex] at h
    cases hc : Hex.value? c with
    | none =>
      rw [hc] at h
      cases h
      exact ⟨0, rfl, by omega⟩
    | some d =>
      rw [hc] at h
      obtain ⟨j, hcount, hm⟩ := ih h
      have hd := Hex.lt_of_value? hc
      refine ⟨j + 1, by omega, Nat.lt_of_lt_of_le hm ?_⟩
      rw [Nat.pow_succ', ← Nat.mul_assoc]
      exact Nat.mul_le_mul_right _ (by omega)

theorem readGroup_lt (h : readGroup cs = some (n, rest)) : n < 65536 := by
  unfold readGroup at h
  split at h
  next hscan =>
  split at h
  · cases h
  · next hcount =>
    cases h
    obtain ⟨j, hj, hn⟩ := scanHex_lt hscan
    have hpow : 16 ^ j ≤ 16 ^ 4 := Nat.pow_le_pow_right (by decide) (by omega)
    omega

theorem isWellFormed_groupsOf (h : (v4 octets).IsWellFormed) :
    (groupsOf octets).length = 2 ∧ ∀ n ∈ groupsOf octets, n < 65536 := by
  obtain ⟨hlength, hoctets⟩ := h
  match octets, hlength with
  | [a, b, c, d], _ =>
    simp only [List.forall_mem_cons] at hoctets
    simp only [groupsOf, List.forall_mem_cons, List.not_mem_nil, false_implies,
      implies_true, and_true]
    exact ⟨rfl, by omega⟩

/-- What the reader of groups returns fits its room, with all numbers in range. -/
theorem isWellFormed_of_readGroups {hasQuad : Bool}
    (h : readGroups room isFirst cs = (ns, hasQuad, rest)) :
    ns.length ≤ room ∧ ∀ n ∈ ns, n < 65536 := by
  induction room generalizing isFirst cs ns with
  | zero =>
    cases h
    exact ⟨Nat.le_refl 0, nofun⟩
  | succ room ih =>
    rw [readGroups] at h
    dsimp only at h
    split at h
    · next octets r hquad =>
      cases h
      split at hquad
      · cases hquad
      · obtain ⟨_, -, hquad⟩ := Option.bind_eq_some_iff.1 hquad
        have hpair := isWellFormed_groupsOf (isWellFormed_of_readOctets hquad)
        exact ⟨by omega, hpair.2⟩
    · split at h
      · next n r hgroup =>
        obtain ⟨_, -, hgroup⟩ := Option.bind_eq_some_iff.1 hgroup
        cases h
        have hrest : (readGroups room false r).1.length ≤ room ∧ ∀ n ∈ (readGroups room false r).1,
            n < 65536 := ih rfl
        exact ⟨Nat.succ_le_succ hrest.1, List.forall_mem_cons.2 ⟨readGroup_lt hgroup, hrest.2⟩⟩
      · cases h
        exact ⟨Nat.zero_le _, nofun⟩

/-- What is read around a double colon is filled up to eight groups. -/
theorem isWellFormed_of_readV6 (h : readV6 cs = some (ns, rest)) : (v6 ns).IsWellFormed := by
  unfold readV6 at h
  split at h
  next front hasQuad r hfront =>
  obtain ⟨hlength, hgroups⟩ := isWellFormed_of_readGroups hfront
  split at h
  · next height =>
    cases h
    exact ⟨height, hgroups⟩
  · split at h
    · cases h
    · split at h
      · next tail =>
        split at h
        next back _ _ hback =>
        cases h
        obtain ⟨hlengthBack, hgroupsBack⟩ := isWellFormed_of_readGroups hback
        refine ⟨?_, ?_⟩
        · simp only [List.length_append, List.length_replicate]
          omega
        · simp only [List.forall_mem_append]
          refine ⟨⟨hgroups, fun n hn => ?_⟩, hgroupsBack⟩
          rw [List.eq_of_mem_replicate hn]
          decide
      · cases h

theorem isWellFormed_of_ofText? {s : String} {a : Address} (h : ofText? s = some a) :
    a.IsWellFormed := by
  unfold ofText? Address.ofChars? at h
  split at h
  · next hquad =>
    cases h
    exact isWellFormed_of_readOctets hquad
  · split at h
    · next hgroups =>
      cases h
      exact isWellFormed_of_readV6 hgroups
    · cases h

end Address

end VisitLog

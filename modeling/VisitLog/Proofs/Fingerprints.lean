import VisitLog.Proofs.Grouping
import VisitLog.Proofs.WellFormed

/-!
# Fingerprints and clients

The fingerprint of a visit is the digest of its address with the user agent right behind it. Nothing
stands between the two, so where one address goes on behind another one with the text with which the
user agent of that one begins, both clients write the same text, and their visits come into one
session. In all other cases clients with different addresses are told apart, as far as the digest
has no collision.

Main statement: `Session.tellsApart_iff`.
-/

namespace VisitLog

/-! ## Digests as text -/

namespace Hex

variable {n m w : Nat}

theorem digit_inj : digit n = digit m ↔ n % 16 = m % 16 := by
  have hall : ∀ d < 16, ∀ e < 16, digit d = digit e → d = e := by decide
  have hmod (k : Nat) : digit k = digit (k % 16) := by rw [digit, digit, Nat.mod_mod]
  constructor
  · intro h
    rw [hmod n, hmod m] at h
    exact hall _ (Nat.mod_lt _ (by decide)) _ (Nat.mod_lt _ (by decide)) h
  · intro h
    rw [hmod n, hmod m, h]

theorem fixed_inj (hn : n < 16 ^ w) (hm : m < 16 ^ w) : fixed w n = fixed w m ↔ n = m := by
  refine ⟨fun h => ?_, fun h => by rw [h]⟩
  induction w generalizing n m with
  | zero => omega
  | succ w ih =>
    rw [Nat.pow_succ] at hn hm
    obtain ⟨hinit, hlast⟩ := List.append_inj' h rfl
    have hdiv := ih (by omega) (by omega) hinit
    have hmod := digit_inj.1 (List.cons.inj hlast).1
    omega

end Hex

namespace Xxh3

theorem hex_inj {d e : Digest} : d.hex = e.hex ↔ d = e := by
  refine ⟨fun h => ?_, fun h => by rw [h]⟩
  rw [Digest.hex, Digest.hex, String.ofList_inj] at h
  obtain ⟨hhigh, hlow⟩ := List.append_inj h (by rw [Hex.length_fixed, Hex.length_fixed])
  rw [Hex.fixed_inj (UInt64.toNat_lt _) (UInt64.toNat_lt _), UInt64.toNat_inj] at hhigh hlow
  cases d
  cases e
  cases hhigh
  cases hlow
  rfl

end Xxh3

/-! ## What a fingerprint is made from -/

namespace Visitor

variable {u v : Visitor}

/-- The text that the fingerprint digests. -/
def client (v : Visitor) : String :=
  v.value .ipAddress ++ v.value .userAgent

/-- The digest has no collision at the clients of two records. -/
def NoCollision (u v : Visitor) : Prop :=
  Xxh3.digest u.client.toUTF8 = Xxh3.digest v.client.toUTF8 → u.client.toUTF8 = v.client.toUTF8

/-- The second address goes on behind the first one with the text with which the first user agent
begins, and the second user agent is the rest of it. -/
def RunsInto (u v : Visitor) : Prop :=
  ∃ text, v.value .ipAddress = u.value .ipAddress ++ text ∧ u.value .userAgent = text ++
    v.value .userAgent

theorem fingerprint_eq_iff (h : NoCollision u v) : u.fingerprint = v.fingerprint ↔
    u.client = v.client := by
  have hdigest : u.fingerprint = v.fingerprint ↔ Xxh3.digest u.client.toUTF8 =
      Xxh3.digest v.client.toUTF8 :=
    Xxh3.hex_inj
  rw [hdigest]
  constructor
  · intro hsame
    exact String.toByteArray_inj.1 (h hsame)
  · intro hsame
    rw [hsame]

/-- Two clients give one text exactly if one runs into the other. -/
theorem client_eq_iff : u.client = v.client ↔ RunsInto u v ∨ RunsInto v u := by
  have hlist (u v : Visitor) : RunsInto u v ↔ ∃ cs, (v.value .ipAddress).toList =
    (u.value .ipAddress).toList ++ cs ∧
      (u.value .userAgent).toList = cs ++ (v.value .userAgent).toList := by
    constructor
    · rintro ⟨text, haddress, hagent⟩
      refine ⟨text.toList, ?_, ?_⟩
      · rw [haddress, String.toList_append]
      · rw [hagent, String.toList_append]
    · rintro ⟨cs, haddress, hagent⟩
      refine ⟨String.ofList cs, ?_, ?_⟩
      · rw [← String.toList_inj, haddress, String.toList_append, String.toList_ofList]
      · rw [← String.toList_inj, hagent, String.toList_append, String.toList_ofList]
  rw [client, client, ← String.toList_inj, String.toList_append, String.toList_append,
    List.append_eq_append_iff, hlist, hlist]

end Visitor

/-! ## Sessions of clients -/

namespace Session

variable {u v : Visitor} {vs : List Visitor}

theorem keyOf_toVisitor (now : Instant) (random : Nat) (visit : Visit) :
    keyOf (visit.toVisitor now random) = (visit.toVisitor now random).fingerprint := by
  rw [keyOf_eq_fingerprint (visit.fingerprint_ne_empty now random), visit.fingerprint_toVisitor]

/-- The session that a visit is put in. -/
def ofVisit? (ss : List Session) (v : Visitor) : Option Session :=
  ss.find? fun x => x.key = keyOf v

theorem ofVisit?_group (h : v ∈ vs) : ofVisit? (group vs) v = some (ofKey vs (keyOf v)) := by
  obtain ⟨x, hx, hkey⟩ := List.mem_map.1 (mem_keys_group.2 ⟨v, h, rfl⟩)
  obtain ⟨y, hy⟩ : ∃ y, ofVisit? (group vs) v = some y :=
    Option.isSome_iff_exists.1 (List.find?_isSome.2 ⟨x, hx, by simpa using hkey⟩)
  have hykey : y.key = keyOf v := by simpa using List.find?_some hy
  rw [hy, (partitions_group vs).eq_ofKey (List.mem_of_find?_eq_some hy), hykey]

theorem mem_steps_ofKey (h : v ∈ vs) : stepOf v ∈ (ofKey vs (keyOf v)).steps :=
  List.mem_map_of_mem (List.mem_filter.2 ⟨h, decide_eq_true rfl⟩)

/-- Two visits are told apart. `fingerprint`: they have different fingerprints. `sessions`: and so,
whatever other visits there are, they are steps of different sessions. -/
structure TellsApart (u v : Visitor) : Prop where
  fingerprint : u.value .fingerprint ≠ v.value .fingerprint
  sessions : ∀ vs, u ∈ vs → v ∈ vs → ∃ x y, ofVisit? (group vs) u = some x ∧
    ofVisit? (group vs) v = some y ∧ stepOf u ∈ x.steps ∧ stepOf v ∈ y.steps ∧ x.key ≠ y.key

variable {now now' : Instant} {random random' : Nat} {a b : Visit}

/-- Visits are told apart unless one client runs into the other, whether their addresses are
different or not. -/
theorem tellsApart_iff (hcollision : Visitor.NoCollision (a.toVisitor now random)
    (b.toVisitor now' random')) :
    TellsApart (a.toVisitor now random) (b.toVisitor now' random') ↔
      ¬Visitor.RunsInto (a.toVisitor now random) (b.toVisitor now' random') ∧
        ¬Visitor.RunsInto (b.toVisitor now' random') (a.toVisitor now random) := by
  rw [← not_or, ← Visitor.client_eq_iff, ← Visitor.fingerprint_eq_iff hcollision,
    ← a.fingerprint_toVisitor, ← b.fingerprint_toVisitor]
  constructor
  · intro h
    exact h.fingerprint
  · intro h
    refine ⟨h, fun vs hu hv => ⟨_, _, ofVisit?_group hu, ofVisit?_group hv, mem_steps_ofKey hu,
      mem_steps_ofKey hv, ?_⟩⟩
    rw [a.fingerprint_toVisitor, b.fingerprint_toVisitor, ← keyOf_toVisitor, ← keyOf_toVisitor] at h
    rw [key_ofKey, key_ofKey]
    exact h

/-- A visit from an address with a user agent. -/
def calling (address agent : String) : Visitor :=
  Visit.toVisitor ⟨0, 0⟩ 0 { ipAddress := address, userAgent := agent }

theorem fingerprint_calling (address agent : String) :
    (calling address agent).value .fingerprint = (calling address agent).fingerprint :=
  Visit.fingerprint_toVisitor ..

theorem tellsApart_iff_neighbours :
    Visitor.NoCollision (calling "192.0.2.1" "curl/8.0") (calling "192.0.2.17" "curl/8.0") ∧
      TellsApart (calling "192.0.2.1" "curl/8.0") (calling "192.0.2.17" "curl/8.0") := by
  have hfirst : (calling "192.0.2.1" "curl/8.0").client = "192.0.2.1curl/8.0" := by decide
  have hsecond : (calling "192.0.2.17" "curl/8.0").client = "192.0.2.17curl/8.0" := by decide
  have hcollision : Visitor.NoCollision (calling "192.0.2.1" "curl/8.0")
      (calling "192.0.2.17" "curl/8.0") := by
    rw [Visitor.NoCollision, hfirst, hsecond]
    intro hdigest
    exact absurd hdigest (by decide +kernel)
  have hclient : ¬(calling "192.0.2.1" "curl/8.0").client =
      (calling "192.0.2.17" "curl/8.0").client := by
    rw [hfirst, hsecond]
    decide
  rw [Visitor.client_eq_iff, not_or] at hclient
  exact ⟨hcollision, (tellsApart_iff hcollision).2 hclient⟩

/-- A client may choose its user agent such that its visits come into the session of another one. -/
theorem not_tellsApart_borrowedDigit : ¬∀ (now now' : Instant) (random random' : Nat) (a b : Visit),
    Visitor.NoCollision (a.toVisitor now random) (b.toVisitor now' random') →
      (a.toVisitor now random).value .ipAddress ≠ (b.toVisitor now' random').value .ipAddress →
      (a.toVisitor now random).value .ipAddress ≠ "" →
      (b.toVisitor now' random').value .ipAddress ≠ "" → TellsApart (a.toVisitor now random)
      (b.toVisitor now' random') := by
  intro hall
  have hclient : (calling "192.0.2.1" "7curl/8.0").client =
      (calling "192.0.2.17" "curl/8.0").client := by decide
  have hcollision : Visitor.NoCollision (calling "192.0.2.1" "7curl/8.0")
      (calling "192.0.2.17" "curl/8.0") := by
    intro _
    rw [hclient]
  have hapart : TellsApart (calling "192.0.2.1" "7curl/8.0") (calling "192.0.2.17" "curl/8.0") :=
    hall ⟨0, 0⟩ ⟨0, 0⟩ 0 0 _ _ hcollision (by decide) (by decide) (by decide)
  apply hapart.fingerprint
  rw [fingerprint_calling, fingerprint_calling]
  exact (Visitor.fingerprint_eq_iff hcollision).2 hclient

end Session

end VisitLog

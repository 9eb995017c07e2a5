import VisitLog.Json.Members

/-!
# Beacons

A page reports its own visit with a small JSON body: an object with a path and perhaps a referrer,
or a list of the two. Members that are not known are refused, and a fault names the member it lies
in.

Main statements: `place_of_readMember` and `place_of_readItem` (a fault in a value names the member
or the place in the list).
-/

namespace VisitLog

open Json

/-- What a page reports. -/
structure Beacon where
  path : String
  /-- The page that led here; without it the header of the request counts. -/
  referrer : Option String := none
  deriving DecidableEq, Repr

namespace Beacon

/-- The members of an object as far as they have been read. -/
structure Members where
  path : Option String := none
  referrer : Option (Option String) := none

/-- A string or null. -/
def readReferrer : Scan (Option String) := fun bs =>
  match skipBlanks bs with
  | 0x6E :: rest => do
    let ((), rest) ← word (ascii "ull") rest
    return (none, rest)
  | bs => do
    let (s, rest) ← stringValue bs
    return (some s, rest)

/-- The value of a key, behind its colon. -/
def readMember {α : Type} (key : String) (value : Scan α) : Scan α := fun bs =>
  within key do
    let ((), bs) ← colon bs
    value bs

/-- A key comes a second time. -/
def repeated {α : Type} (key : String) (bs : List Nat) : Except Json.Fault α :=
  unfitAt ("duplicate field \x60" ++ key ++ "\x60") 0x7D bs

/-- The members of an object, up to its end; the fuel bounds their number. -/
def readMembers : (fuel : Nat) → (isFirst : Bool) → Members → Scan Beacon
  | 0, _, _, bs => failNext .endInObject bs
  | fuel + 1, isFirst, m, bs => do
    let (key, bs) ← nextKey isFirst bs
    match key with
    | none =>
      match m.path with
      | some path => return (⟨path, m.referrer.join⟩, bs)
      | none => unfitAt "missing field \x60path\x60" 0x7D bs
    | some "path" =>
      if m.path.isSome then repeated "path" bs
      else
        let (s, bs) ← readMember "path" stringValue bs
        readMembers fuel false { m with path := some s } bs
    | some "referrer" =>
      if m.referrer.isSome then repeated "referrer" bs
      else
        let (s, bs) ← readMember "referrer" readReferrer bs
        readMembers fuel false { m with referrer := some s } bs
    | some key =>
      let why := "unknown field \x60" ++ key ++ "\x60, expected \x60path\x60 or \x60referrer\x60"
      within key (unfitAt why 0x7D bs)

/-- An item of a list, which has to be there. -/
def readItem {α : Type} (index : Nat) (value : Scan α) : Scan α := fun bs => do
  let place := "[" ++ Text.natText index ++ "]"
  let (more, bs) ← within place (nextItem (index == 0) bs)
  if more then within place (value bs)
  else
    unfitAt ("invalid length " ++ Text.natText index ++
      ", expected struct BeaconPayload with 2 elements") 0x5D bs

/-- The beacon in octets. -/
def ofOctets (bs : List Nat) : Except Json.Fault Beacon := do
  match skipBlanks bs with
  | [] => failNext .endInValue []
  | b :: rest =>
    if b = 0x7B then
      let (beacon, rest) ← readMembers (rest.length + 1) true {} rest
      let ((), rest) ← endObject rest
      finish rest
      return beacon
    else if b = 0x5B then
      let (path, rest) ← readItem 0 stringValue rest
      let (referrer, rest) ← readItem 1 readReferrer rest
      let ((), rest) ← endList rest
      finish rest
      return ⟨path, referrer⟩
    else .error (unfitValue "struct BeaconPayload" (b :: rest))

/-! ## Lemmas -/

theorem place_of_within {α : Type} {place : String} {result : Except Json.Fault α} {f : Json.Fault}
    (h : within place result = .error f) : f.place = some place := by
  cases result with
  | ok _ => cases h
  | error _ =>
    cases h
    rfl

theorem place_of_readMember {α : Type} {key : String} {value : Scan α} {bs : List Nat}
    {f : Json.Fault} (h : readMember key value bs = .error f) : f.place = some key :=
  place_of_within h

/-- A fault in a list names its place, unless the list ends before it. -/
theorem place_of_readItem {α : Type} {index : Nat} {value : Scan α} {bs : List Nat} {f : Json.Fault}
    (h : readItem index value bs = .error f) :
    f.place = some ("[" ++ Text.natText index ++ "]") ∨
      f.cause = .unfit ("invalid length " ++ Text.natText index ++
        ", expected struct BeaconPayload with 2 elements") := by
  unfold readItem at h
  dsimp only at h
  cases hmore : within ("[" ++ Text.natText index ++ "]") (nextItem (index == 0) bs) with
  | error _ =>
    rw [hmore] at h
    cases h
    exact .inl (place_of_within hmore)
  | ok next =>
    rw [hmore] at h
    change (if next.1 then _ else _) = _ at h
    split at h
    · exact .inl (place_of_within h)
    · cases h
      exact .inr rfl

end Beacon

end VisitLog

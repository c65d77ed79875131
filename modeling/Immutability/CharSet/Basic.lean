/-!
# Sets of characters

A set of characters is kept as ranges of code points in ascending order. Ranges begin and end with characters.
Surrogates are code points but no characters, and a range may run over them. A union joins the ranges that
touch; the last code point before the surrogates and the first one behind them do not touch.
-/

set_option autoImplicit false

namespace Immutability

/-- A set of characters, as ranges of code points. -/
structure CharSet where
  ranges : List (Nat × Nat)
deriving DecidableEq, Repr, Inhabited

namespace CharSet

def lastPoint : Nat := 0x10ffff

/-- The code point of the next character. -/
def after (point : Nat) : Nat := if point = 0xd7ff then 0xe000 else point + 1

/-- The code point of the character before. -/
def before (point : Nat) : Nat := if point = 0xe000 then 0xd7ff else point - 1

def empty : CharSet := ⟨[]⟩

def any : CharSet := ⟨[(0, lastPoint)]⟩

/-- The characters from one code point to another, both included. -/
def range (low high : Nat) : CharSet := if low ≤ high then ⟨[(low, high)]⟩ else empty

def single (c : Char) : CharSet := ⟨[(c.toNat, c.toNat)]⟩

def holds (set : CharSet) (point : Nat) : Bool :=
  set.ranges.any fun (low, high) => low ≤ point && point ≤ high

def contains (set : CharSet) (c : Char) : Bool := set.holds c.toNat

def isEmpty (set : CharSet) : Bool := set.ranges.isEmpty

def isAscii (set : CharSet) : Bool := set.ranges.all fun (_, high) => high < 0x80

/-- The only character of the set, if it has one only. -/
def only? (set : CharSet) : Option Char :=
  match set.ranges with
  | [(low, high)] => if low == high then some (Char.ofNat low) else none
  | _ => none

/-! ### Union -/

/-- Two lists of ranges as one in ascending order of their first points, if both are in that order. The fuel is
the number of ranges. -/
def merge : Nat → List (Nat × Nat) → List (Nat × Nat) → List (Nat × Nat)
  | fuel + 1, a :: as, b :: bs =>
    if a.1 ≤ b.1 then a :: merge fuel as (b :: bs) else b :: merge fuel (a :: as) bs
  | _, as, bs => as ++ bs

/-- Joins a range with those behind it that touch it, and so on. -/
def joinFrom (low high : Nat) : List (Nat × Nat) → List (Nat × Nat)
  | [] => [(low, high)]
  | (low', high') :: rest =>
    if low' ≤ high + 1 then joinFrom low (max high high') rest
    else (low, high) :: joinFrom low' high' rest

def join : List (Nat × Nat) → List (Nat × Nat)
  | [] => []
  | (low, high) :: rest => joinFrom low high rest

def union (a b : CharSet) : CharSet :=
  ⟨join (merge (a.ranges.length + b.ranges.length) a.ranges b.ranges)⟩

def unions (sets : List CharSet) : CharSet := sets.foldl union empty

/-! ### Complement -/

/-- The range with these ends, whichever comes first. -/
def between (a b : Nat) : Nat × Nat := if a ≤ b then (a, b) else (b, a)

/-- What lies between the ranges behind a point. Between ranges that leave no character between them lie their
own ends; the only such ranges that a union leaves apart end and begin at the surrogates. -/
def gaps (last : Nat) : List (Nat × Nat) → List (Nat × Nat)
  | [] => if last < lastPoint then [(after last, lastPoint)] else []
  | (low, high) :: rest => between (after last) (before low) :: gaps high rest

def compl (set : CharSet) : CharSet :=
  match set.ranges with
  | [] => any
  | (low, high) :: rest => ⟨(if 0 < low then [(0, before low)] else []) ++ gaps high rest⟩

/-! ### Intersection and difference -/

/-- What two lists of ranges have in common. The fuel is the number of ranges. -/
def common : Nat → List (Nat × Nat) → List (Nat × Nat) → List (Nat × Nat)
  | fuel + 1, a :: as, b :: bs =>
    let rest := if a.2 < b.2 then common fuel as (b :: bs) else common fuel (a :: as) bs
    if max a.1 b.1 ≤ min a.2 b.2 then (max a.1 b.1, min a.2 b.2) :: rest else rest
  | _, _, _ => []

/-- What a list of ranges holds and another does not. The fuel is the number of ranges. -/
def remove : Nat → List (Nat × Nat) → List (Nat × Nat) → List (Nat × Nat)
  | fuel + 1, a :: as, b :: bs =>
    if b.2 < a.1 then remove fuel (a :: as) bs
    else if a.2 < b.1 then a :: remove fuel as (b :: bs)
    else
      let rest :=
        if b.2 < a.2 then remove fuel ((after b.2, a.2) :: as) bs else remove fuel as (b :: bs)
      if a.1 < b.1 then (a.1, before b.1) :: rest else rest
  | _, as, _ => as

def inter (a b : CharSet) : CharSet := ⟨common (a.ranges.length + b.ranges.length) a.ranges b.ranges⟩

def diff (a b : CharSet) : CharSet := ⟨remove (a.ranges.length + b.ranges.length) a.ranges b.ranges⟩

def symmDiff (a b : CharSet) : CharSet := (a.union b).diff (a.inter b)

/-! ### Laws -/

def inside (point : Nat) (range : Nat × Nat) : Bool := range.1 ≤ point && point ≤ range.2

theorem inside_eq_true {point low high : Nat} : inside point (low, high) = true ↔ low ≤ point ∧ point ≤ high := by
  simp [inside]

theorem inside_eq_false {point low high : Nat} :
    inside point (low, high) = false ↔ point < low ∨ high < point := by
  simp only [inside, Bool.and_eq_false_iff, decide_eq_false_iff_not]
  omega

/-- A character is no surrogate. -/
def IsScalar (point : Nat) : Prop := point < 0xd800 ∨ 0xdfff < point

/-- Ranges from a point on that end with characters and are in ascending order, with a character between each two
of them. -/
def Ascending : Nat → List (Nat × Nat) → Prop
  | _, [] => True
  | next, (low, high) :: rest =>
    next ≤ low ∧ low ≤ high ∧ IsScalar high ∧ Ascending (after high + 1) rest

theorem lt_after (point : Nat) : point < after point := by
  unfold after
  split <;> omega

/-- No character lies between a character and the next one. -/
theorem after_le {last point : Nat} (h : IsScalar point) (hlt : last < point) : after last ≤ point := by
  unfold IsScalar at h
  unfold after
  split <;> omega

/-- No character lies between a character and the one before it. -/
theorem le_before {low point : Nat} (h : IsScalar point) (hlt : point < low) : point ≤ before low := by
  unfold IsScalar at h
  unfold before
  split <;> omega

theorem before_lt {low : Nat} (h : 0 < low) : before low < low := by
  unfold before
  split <;> omega

/-- Where a character lies between two ranges, so do the ends of the gap between them, in order. -/
theorem after_le_before {last low : Nat} (hscalar : IsScalar last) (h : after last < low) :
    after last ≤ before low := by
  revert h
  unfold IsScalar at hscalar
  unfold after before
  split <;> split <;> omega

/-- Ranges from a point on hold nothing before it. -/
theorem Ascending.any_inside_eq_false {next point : Nat} {ranges : List (Nat × Nat)}
    (h : Ascending next ranges) (hlt : point < next) : ranges.any (inside point) = false := by
  induction ranges generalizing next with
  | nil => rfl
  | cons range rest ih =>
    obtain ⟨low, high⟩ := range
    obtain ⟨hlow, hhigh, hends, hrest⟩ := h
    have hfirst : inside point (low, high) = false := inside_eq_false.mpr (Or.inl (by omega))
    have hafter := lt_after high
    rw [List.any_cons, hfirst, ih hrest (by omega), Bool.or_false]

/-- The gaps behind a point hold nothing up to it. -/
theorem any_gaps_eq_false {last point : Nat} {ranges : List (Nat × Nat)}
    (h : Ascending (after last + 1) ranges) (hend : IsScalar last) (hle : point ≤ last) :
    (gaps last ranges).any (inside point) = false := by
  induction ranges generalizing last with
  | nil =>
    have hafter := lt_after last
    rw [gaps]
    split
    · rw [List.any_cons, inside_eq_false.mpr (Or.inl (by omega)), List.any_nil, Bool.or_false]
    · rfl
  | cons range rest ih =>
    obtain ⟨low, high⟩ := range
    obtain ⟨hlow, hhigh, hends, hrest⟩ := h
    have hafter := lt_after last
    rw [gaps, between, if_pos (after_le_before hend (by omega)), List.any_cons,
      inside_eq_false.mpr (Or.inl (by omega)), ih hrest hends (by omega), Bool.or_false]

/-- What lies between ranges holds the characters that they do not hold. -/
theorem any_gaps {last point : Nat} {ranges : List (Nat × Nat)} (h : Ascending (after last + 1) ranges)
    (hend : IsScalar last) (hscalar : IsScalar point) (hlt : last < point) (hlast : point ≤ lastPoint) :
    (gaps last ranges).any (inside point) = !ranges.any (inside point) := by
  induction ranges generalizing last with
  | nil =>
    have hinside : inside point (after last, lastPoint) = true :=
      inside_eq_true.mpr ⟨after_le hscalar hlt, hlast⟩
    rw [gaps, if_pos (Nat.lt_of_lt_of_le hlt hlast), List.any_cons, hinside]
    rfl
  | cons range rest ih =>
    obtain ⟨low, high⟩ := range
    obtain ⟨hlow, hhigh, hends, hrest⟩ := h
    have hgap : after last ≤ before low := after_le_before hend (by omega)
    have hbefore : before low < low := before_lt (by omega)
    rw [gaps, between, if_pos hgap, List.any_cons, List.any_cons]
    by_cases hbelow : point < low
    · have hin : inside point (after last, before low) = true :=
        inside_eq_true.mpr ⟨after_le hscalar hlt, le_before hscalar hbelow⟩
      have hout : inside point (low, high) = false := inside_eq_false.mpr (Or.inl hbelow)
      have hafter := lt_after high
      rw [hin, hout, hrest.any_inside_eq_false (by omega)]
      rfl
    · have hout : inside point (after last, before low) = false :=
        inside_eq_false.mpr (Or.inr (by omega))
      rw [hout, Bool.false_or]
      by_cases habove : point ≤ high
      · rw [inside_eq_true.mpr ⟨by omega, habove⟩, any_gaps_eq_false hrest hends habove]
        rfl
      · rw [inside_eq_false.mpr (Or.inr (by omega)), ih hrest hends (by omega), Bool.false_or]

/-- The complement of a set holds the characters that the set does not hold, where a character lies between
each two of its ranges. -/
theorem contains_compl {set : CharSet} (h : Ascending 0 set.ranges) (c : Char) :
    set.compl.contains c = !set.contains c := by
  have hvalid := c.valid
  simp only [UInt32.isValidChar, Nat.isValidChar] at hvalid
  have hlast : c.toNat ≤ lastPoint := by
    show c.val.toNat ≤ 0x10ffff
    omega
  have hscalar : IsScalar c.toNat := by
    show c.val.toNat < 0xd800 ∨ 0xdfff < c.val.toNat
    omega
  obtain ⟨ranges⟩ := set
  cases ranges with
  | nil =>
    show any.ranges.any (inside c.toNat) = true
    rw [any, List.any_cons, inside_eq_true.mpr ⟨Nat.zero_le _, hlast⟩]
    rfl
  | cons range rest =>
    obtain ⟨low, high⟩ := range
    obtain ⟨_, hhigh, hends, hrest⟩ := h
    show ((if 0 < low then [(0, before low)] else []) ++ gaps high rest).any (inside c.toNat)
      = !((low, high) :: rest).any (inside c.toNat)
    rw [List.any_append, List.any_cons]
    by_cases hbelow : c.toNat < low
    · have hafter := lt_after high
      rw [if_pos (by omega), List.any_cons,
        inside_eq_true.mpr ⟨Nat.zero_le _, le_before hscalar hbelow⟩,
        inside_eq_false.mpr (Or.inl hbelow), hrest.any_inside_eq_false (by omega)]
      rfl
    · have hfirst : (if 0 < low then [(0, before low)] else []).any (inside c.toNat) = false := by
        split
        · next hpos =>
          have hlt := before_lt hpos
          rw [List.any_cons, inside_eq_false.mpr (Or.inr (by omega))]
          rfl
        · rfl
      rw [hfirst, Bool.false_or]
      by_cases habove : c.toNat ≤ high
      · rw [any_gaps_eq_false hrest hends habove, inside_eq_true.mpr ⟨by omega, habove⟩]
        rfl
      · rw [any_gaps hrest hends hscalar (by omega) hlast, inside_eq_false.mpr (Or.inr (by omega)),
          Bool.false_or]

end CharSet

end Immutability

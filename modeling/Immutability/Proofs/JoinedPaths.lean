import Immutability.Path
import Immutability.Proofs.Directories
import Mathlib.Logic.Relation

/-!
# Joined paths

The segments of a path can be shortened: an empty segment or a single dot goes away, two dots go away
together with the segment before them, and at the beginning by themselves. Joining two paths shortens their
segments until nothing more can be done. In whatever order that happens, the outcome is the same, and so
paths can be joined one by one or all at once.
-/

set_option autoImplicit false

namespace Immutability

namespace Text

variable {mark : Char} {parts : List (List Char)}

theorem splitAt_append_mark (mark : Char) (chars more : List Char) :
    splitAt mark (chars ++ mark :: more) = splitAt mark chars ++ splitAt mark more := by
  have hchars := (List.dropLast_concat_getLast (splitAt_ne_nil mark chars)).symm
  rw [splitAt_append hchars (splitAt_mark mark more), List.append_nil]
  nth_rewrite 3 [hchars]
  rw [List.append_assoc, List.singleton_append]

/-- Marks between parts that have none can be found again. -/
theorem splitAt_intercalate (hne : parts ≠ []) (h : ∀ part ∈ parts, mark ∉ part) :
    splitAt mark (List.intercalate [mark] parts) = parts := by
  induction parts with
  | nil => exact absurd rfl hne
  | cons part rest ih =>
    obtain ⟨hpart, hrest⟩ := List.forall_mem_cons.mp h
    cases rest with
    | nil => rw [List.intercalate_singleton, splitAt_of_not_mem hpart]
    | cons next rest =>
      rw [List.intercalate_cons_cons, List.append_assoc, List.singleton_append, splitAt_append_mark,
        splitAt_of_not_mem hpart, ih (List.cons_ne_nil next rest) hrest, List.singleton_append]

theorem not_mem_of_mem_splitAt {chars part : List Char} (h : part ∈ splitAt mark chars) :
    mark ∉ part := by
  induction chars generalizing part with
  | nil =>
    rw [List.mem_singleton.mp h]
    exact List.not_mem_nil
  | cons c rest ih =>
    obtain ⟨first, others, hsplit⟩ := List.exists_cons_of_ne_nil (splitAt_ne_nil mark rest)
    rw [hsplit] at ih
    obtain ⟨hfirst, hothers⟩ := List.forall_mem_cons.mp @ih
    by_cases hc : c = mark
    · rw [hc, splitAt_mark, hsplit] at h
      rcases List.mem_cons.mp h with rfl | h
      · exact List.not_mem_nil
      · exact ih h
    · rw [splitAt_cons hc hsplit] at h
      rcases List.mem_cons.mp h with rfl | h
      · rw [List.mem_cons, not_or]
        exact ⟨Ne.symm hc, hfirst⟩
      · exact hothers part h

end Text

namespace Path

/-- A segment that stands for itself. -/
def Plain (segment : List Char) : Prop :=
  segment ≠ [] ∧ segment ≠ ['.'] ∧ segment ≠ ['.', '.']

/-- The segments of a path behind its leading slash. -/
def body (path : String) : List (List Char) :=
  let chars := if path.toList.head? = some slash then path.toList.tail else path.toList
  if chars = [] then [] else Text.splitAt slash chars

/-- One segment, or two that cancel out, can be left away. -/
inductive Shortens : List (List Char) → List (List Char) → Prop
  | drop {segment : List Char} (before after : List (List Char)) :
      segment = [] ∨ segment = ['.'] → Shortens (before ++ segment :: after) (before ++ after)
  | back {segment : List Char} (before after : List (List Char)) :
      Plain segment → Shortens (before ++ segment :: ['.', '.'] :: after) (before ++ after)
  | root (after : List (List Char)) : Shortens (['.', '.'] :: after) after

variable {segment : List Char} {segments other : List (List Char)}

theorem take_dropped (h : segment = [] ∨ segment = ['.']) : take segments segment = segments := by
  rcases h with rfl | rfl <;> rfl

theorem take_plain (h : Plain segment) : take segments segment = segment :: segments := by
  obtain ⟨hempty, hdot, hdots⟩ := h
  unfold take
  split
  · exact absurd rfl hempty
  · exact absurd rfl hdot
  · exact absurd rfl hdots
  · rfl

theorem cases_segment (segment : List Char) :
    (segment = [] ∨ segment = ['.']) ∨ segment = ['.', '.'] ∨ Plain segment := by
  unfold Plain
  tauto

theorem mem_of_mem_take {last : List Char} (h : segment ∈ take segments last) :
    segment = last ∨ segment ∈ segments := by
  rcases cases_segment last with hdropped | rfl | hplain
  · rw [take_dropped hdropped] at h
    exact Or.inr h
  · exact Or.inr (List.mem_of_mem_tail h)
  · rw [take_plain hplain] at h
    exact List.mem_cons.mp h

/-! ### Normal forms -/

theorem foldl_take_plain (h : ∀ segment ∈ segments, Plain segment) (taken : List (List Char)) :
    segments.foldl take taken = segments.reverse ++ taken := by
  induction segments generalizing taken with
  | nil => rfl
  | cons segment rest ih =>
    obtain ⟨hsegment, hrest⟩ := List.forall_mem_cons.mp h
    rw [List.foldl_cons, take_plain hsegment, ih hrest, List.reverse_cons, List.append_assoc,
      List.singleton_append]

theorem normalize_of_plain (h : ∀ segment ∈ segments, Plain segment) :
    normalize segments = segments := by
  rw [normalize, foldl_take_plain h, List.append_nil, List.reverse_reverse]

theorem mem_of_mem_normalize (h : segment ∈ normalize segments) : segment ∈ segments := by
  have hfold : ∀ taken, segment ∈ segments.foldl take taken → segment ∈ segments ∨ segment ∈ taken := by
    clear h
    induction segments with
    | nil => exact fun _ => Or.inr
    | cons first rest ih =>
      intro taken hmem
      rcases ih _ hmem with hrest | htaken
      · exact Or.inl (List.mem_cons_of_mem first hrest)
      · rcases mem_of_mem_take htaken with rfl | htaken
        · exact Or.inl List.mem_cons_self
        · exact Or.inr htaken
  exact (hfold [] (List.mem_reverse.mp h)).resolve_right List.not_mem_nil

/-- What is taken in is shortened, step by step. The segments taken so far come latest first. -/
theorem shortens_foldl_take {taken : List (List Char)} (htaken : ∀ segment ∈ taken, Plain segment)
    (segments : List (List Char)) :
    Relation.ReflTransGen Shortens (taken.reverse ++ segments) (segments.foldl take taken).reverse ∧
      ∀ segment ∈ segments.foldl take taken, Plain segment := by
  induction segments generalizing taken with
  | nil =>
    rw [List.append_nil]
    exact ⟨.refl, htaken⟩
  | cons segment rest ih =>
    rw [List.foldl_cons]
    rcases cases_segment segment with hdropped | rfl | hplain
    · rw [take_dropped hdropped]
      exact ⟨.head (.drop _ _ hdropped) (ih htaken).1, (ih htaken).2⟩
    · cases taken with
      | nil => exact ⟨.head (.root rest) (ih htaken).1, (ih htaken).2⟩
      | cons last taken =>
        obtain ⟨hlast, htaken⟩ := List.forall_mem_cons.mp htaken
        refine ⟨.head ?_ (ih htaken).1, (ih htaken).2⟩
        rw [List.reverse_cons, List.append_assoc, List.singleton_append]
        exact .back _ _ hlast
    · rw [take_plain hplain]
      have hmore := ih (List.forall_mem_cons.mpr ⟨hplain, htaken⟩)
      rwa [List.reverse_cons, List.append_assoc, List.singleton_append] at hmore

theorem plain_of_mem_normalize (h : segment ∈ normalize segments) : Plain segment :=
  (shortens_foldl_take (List.forall_mem_nil _) segments).2 segment (List.mem_reverse.mp h)

theorem Shortens.normalize_eq (h : Shortens segments other) :
    normalize segments = normalize other := by
  unfold normalize
  cases h with
  | drop before after hdropped =>
    rw [List.foldl_append, List.foldl_cons, take_dropped hdropped, ← List.foldl_append]
  | back before after hplain =>
    rw [List.foldl_append, List.foldl_cons, take_plain hplain, List.foldl_cons, List.foldl_append]
    rfl
  | root after => rfl

/-- Segments have one normal form, which is reached in every order. -/
theorem normalize_eq_iff :
    normalize segments = other ↔
      Relation.ReflTransGen Shortens segments other ∧ ∀ segment ∈ other, Plain segment := by
  constructor
  · rintro rfl
    exact ⟨(shortens_foldl_take (List.forall_mem_nil _) segments).1, fun _ => plain_of_mem_normalize⟩
  · rintro ⟨hshortens, hplain⟩
    induction hshortens using Relation.ReflTransGen.head_induction_on with
    | refl => exact normalize_of_plain hplain
    | head hstep _ ih => exact hstep.normalize_eq.trans ih

theorem normalize_normalize_append (segments other : List (List Char)) :
    normalize (normalize segments ++ other) = normalize (segments ++ other) := by
  have hplain : ∀ segment ∈ normalize segments, Plain segment := fun _ => plain_of_mem_normalize
  rw [normalize, List.foldl_append, foldl_take_plain hplain, List.append_nil, normalize,
    List.reverse_reverse, ← List.foldl_append, ← normalize]

/-! ### Joins -/

section

variable {base relative : String}

def pieces (base relative : String) : List (List Char) :=
  Text.splitAt slash base.toList ++ Text.splitAt slash relative.toList

theorem toList_join (base relative : String) :
    (join base relative).toList = (if base.toList.head? = some slash then [slash] else []) ++
      List.intercalate [slash] (normalize (pieces base relative)) := by
  rw [join, String.toList_ofList]
  split <;> rfl

theorem slash_not_mem_of_mem_normalize (h : segment ∈ normalize (pieces base relative)) :
    slash ∉ segment := by
  rcases List.mem_append.mp (mem_of_mem_normalize h) with hmem | hmem <;>
    exact Text.not_mem_of_mem_splitAt hmem

theorem head?_intercalate_normalize :
    (List.intercalate [slash] (normalize (pieces base relative))).head? ≠ some slash := by
  cases hsegments : normalize (pieces base relative) with
  | nil => simp
  | cons first rest =>
    have hfirst : first ∈ normalize (pieces base relative) := hsegments ▸ List.mem_cons_self
    obtain ⟨c, chars, rfl⟩ := List.exists_cons_of_ne_nil (plain_of_mem_normalize hfirst).1
    have hc : some c ≠ some slash := by
      rintro ⟨⟩
      exact slash_not_mem_of_mem_normalize hfirst List.mem_cons_self
    cases rest with
    | nil => rwa [List.intercalate_singleton]
    | cons next rest => rwa [List.intercalate_cons_cons]

theorem head?_join (base relative : String) :
    (join base relative).toList.head? = some slash ↔ base.toList.head? = some slash := by
  rw [toList_join]
  split
  · next habsolute => simp [habsolute]
  · next hrelative =>
    rw [List.nil_append]
    exact iff_of_false head?_intercalate_normalize hrelative

theorem body_join (base relative : String) :
    body (join base relative) = normalize (pieces base relative) := by
  have hchars : (if (join base relative).toList.head? = some slash
      then (join base relative).toList.tail else (join base relative).toList) =
      List.intercalate [slash] (normalize (pieces base relative)) := by
    rw [if_congr (head?_join base relative) rfl rfl, toList_join]
    split <;> rfl
  unfold body
  dsimp only
  rw [hchars]
  by_cases hnone : normalize (pieces base relative) = []
  · rw [hnone]
    rfl
  · have hsplit := Text.splitAt_intercalate hnone fun segment => slash_not_mem_of_mem_normalize
    split
    · next hempty =>
      -- A single segment that is empty is the one list of segments that leaves no text.
      rw [hempty] at hsplit
      have hmem : [] ∈ normalize (pieces base relative) := hsplit ▸ List.mem_cons_self
      exact absurd rfl (plain_of_mem_normalize hmem).1
    · exact hsplit

/-- The segments of a path differ from those behind its leading slash by empty ones only. -/
theorem foldl_take_splitAt (path : String) (taken : List (List Char)) :
    (Text.splitAt slash path.toList).foldl take taken = (body path).foldl take taken := by
  have hbody : ∀ chars, (Text.splitAt slash chars).foldl take taken =
      (if chars = [] then [] else Text.splitAt slash chars).foldl take taken := by
    intro chars
    split
    · next hempty =>
      rw [hempty]
      rfl
    · rfl
  unfold body
  dsimp only
  rw [← hbody]
  split
  · next habsolute =>
    obtain ⟨rest, hrest⟩ := List.head?_eq_some_iff.mp habsolute
    rw [hrest, Text.splitAt_mark]
    rfl
  · rfl

theorem normalize_pieces (base relative : String) :
    normalize (pieces base relative) =
      normalize (body base ++ Text.splitAt slash relative.toList) := by
  rw [normalize, pieces, List.foldl_append, foldl_take_splitAt base, ← List.foldl_append,
    ← normalize]

theorem pieces_slash (base first second : String) :
    pieces base (first ++ "/" ++ second) =
      pieces base first ++ Text.splitAt slash second.toList := by
  have hchars : (first ++ "/" ++ second).toList = first.toList ++ slash :: second.toList := by
    simp [slash]
  rw [pieces, hchars, Text.splitAt_append_mark, ← List.append_assoc, ← pieces]

theorem join_eq_of_normalize {other tail : String}
    (hhead : base.toList.head? = some slash ↔ other.toList.head? = some slash)
    (h : normalize (pieces base relative) = normalize (pieces other tail)) :
    join base relative = join other tail := by
  apply String.toList_inj.mp
  rw [toList_join, toList_join, h, if_congr hhead rfl rfl]

theorem join_join (base first second : String) :
    join (join base first) second = join base (first ++ "/" ++ second) := by
  apply join_eq_of_normalize (head?_join base first)
  rw [normalize_pieces, body_join, normalize_normalize_append, pieces_slash]

/-- Joining a path of one segment that goes away changes nothing. -/
theorem join_dropped {last : String} (base first : String)
    (hlast : last.toList = [] ∨ last.toList = ['.']) :
    join (join base first) last = join base first := by
  have hsplit : Text.splitAt slash last.toList = [last.toList] := by
    rcases hlast with h | h <;> rw [h] <;> rfl
  have hshortens := Shortens.drop (pieces base first) [] hlast
  rw [join_join]
  apply join_eq_of_normalize Iff.rfl
  rw [pieces_slash, hsplit, hshortens.normalize_eq, List.append_nil]

end

/-- A joined path is in normal form: it begins with a slash if the base does, and behind it there is no
segment that is empty or made of one or two dots. Its segments are the only normal form of those of the two
paths. Paths may be joined one by one or all at once, and nothing and a single dot change nothing. -/
theorem join_normal (base first second : String) :
    ((join base first).toList.head? = some slash ↔ base.toList.head? = some slash) ∧
    (∀ segment ∈ body (join base first),
      segment ≠ [] ∧ segment ≠ ['.'] ∧ segment ≠ ['.', '.']) ∧
    (∀ segments, body (join base first) = segments ↔
      Relation.ReflTransGen Shortens
        (Text.splitAt slash base.toList ++ Text.splitAt slash first.toList) segments ∧
      ∀ segment ∈ segments, Plain segment) ∧
    join (join base first) second = join base (first ++ "/" ++ second) ∧
    join (join base first) "" = join base first ∧
    join (join base first) "." = join base first := by
  refine ⟨head?_join base first, ?_, ?_, join_join base first second,
    join_dropped base first (Or.inl rfl), join_dropped base first (Or.inr rfl)⟩
  · intro segment hsegment
    rw [body_join] at hsegment
    exact plain_of_mem_normalize hsegment
  · intro segments
    rw [body_join]
    exact normalize_eq_iff

example : join "/project//src/" "./../../../lib/a.ts" = "/lib/a.ts" := by decide +kernel

end Path

end Immutability

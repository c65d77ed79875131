import Immutability.Rule.Basic
import Immutability.Store.Host
import Mathlib.Data.List.Infix

/-!
# Files inside directories

A path is a list of segments between slashes, and a file is inside a directory if the segments of the
directory come first in the path of the file, and others follow. Comparing the texts of the two paths is
not the same: the text of a directory can break off in the middle of a segment, where another directory
has a longer name. Lower-casing goes segment by segment, since no word goes on behind a slash.
-/

set_option autoImplicit false

namespace Immutability

/-! ### Segments of a text -/

namespace Text

variable {mark : Char} {first last part : List Char} {before parts : List (List Char)}

theorem splitAt_mark (mark : Char) (rest : List Char) :
    splitAt mark (mark :: rest) = [] :: splitAt mark rest := by
  simp [splitAt]

theorem splitAt_cons {c : Char} {rest : List Char} (hc : c ≠ mark)
    (hrest : splitAt mark rest = part :: parts) :
    splitAt mark (c :: rest) = (c :: part) :: parts := by
  simp [splitAt, hc, hrest]

/-- The last segment of a text and the first of the text behind it become one. -/
theorem splitAt_append {chars more : List Char} (hchars : splitAt mark chars = before ++ [last])
    (hmore : splitAt mark more = first :: parts) :
    splitAt mark (chars ++ more) = before ++ (last ++ first) :: parts := by
  induction chars generalizing before last with
  | nil =>
    obtain ⟨rfl, rfl⟩ : before = [] ∧ last = [] := by
      simpa [splitAt, eq_comm, List.append_eq_singleton_iff] using hchars
    exact hmore
  | cons c chars ih =>
    obtain ⟨head, tail, hsplit⟩ := List.exists_cons_of_ne_nil (splitAt_ne_nil mark chars)
    by_cases hc : c = mark
    · rw [hc, splitAt_mark] at hchars
      rw [hc, List.cons_append, splitAt_mark]
      cases before with
      | nil => simp [splitAt_ne_nil] at hchars
      | cons segment before =>
        obtain ⟨rfl, hrest⟩ : segment = [] ∧ splitAt mark chars = before ++ [last] := by
          simpa [eq_comm] using hchars
        rw [ih hrest, List.cons_append]
    · rw [splitAt_cons hc hsplit] at hchars
      cases before with
      | nil =>
        obtain ⟨rfl, rfl⟩ : last = c :: head ∧ tail = [] := by simpa [eq_comm] using hchars
        exact splitAt_cons hc (@ih head [] hsplit)
      | cons segment before =>
        obtain ⟨rfl, rfl⟩ : segment = c :: head ∧ tail = before ++ [last] := by
          simpa [eq_comm] using hchars
        exact splitAt_cons hc (@ih last (head :: before) hsplit)

theorem splitAt_of_not_mem {chars : List Char} (h : mark ∉ chars) : splitAt mark chars = [chars] := by
  induction chars with
  | nil => rfl
  | cons c chars ih =>
    have hc : c ≠ mark := fun he => h (he ▸ List.mem_cons_self)
    exact splitAt_cons hc (ih fun hmem => h (List.mem_cons_of_mem c hmem))

/-- One text is the beginning of another if it goes through its segments up to a part of one. -/
theorem prefix_iff_splitAt {chars text : List Char} (hchars : splitAt mark chars = before ++ [last]) :
    chars <+: text ↔
      ∃ more rest, splitAt mark text = before ++ (last ++ more) :: rest := by
  constructor
  · rintro ⟨behind, rfl⟩
    obtain ⟨first, parts, hmore⟩ := List.exists_cons_of_ne_nil (splitAt_ne_nil mark behind)
    exact ⟨first, parts, splitAt_append hchars hmore⟩
  · rintro ⟨more, rest, htext⟩
    have hjoin : List.intercalate [mark] (before ++ [last]) <+:
        List.intercalate [mark] (before ++ (last ++ more) :: rest) := by
      clear hchars htext
      induction before with
      | nil => cases rest <;> simp [List.intercalate_cons_cons, List.append_assoc]
      | cons segment before ih =>
        rw [List.cons_append, List.cons_append, List.intercalate_cons_of_ne_nil (by simp),
          List.intercalate_cons_of_ne_nil (by simp)]
        exact (List.prefix_append_right_inj _).mpr ih
    rwa [← hchars, ← htext, intercalate_splitAt, intercalate_splitAt] at hjoin

/-! ### Lower case between slashes -/

section Lower

variable {c : Char} {before chars rest : List Char}

theorem meetsCased_slash (chars rest : List Char) :
    meetsCased (chars ++ Path.slash :: rest) = meetsCased chars := by
  have hslash : isCaseIgnorable Path.slash = false ∧ isCased Path.slash = false := by decide
  have hrest : (Path.slash :: rest).dropWhile isCaseIgnorable = Path.slash :: rest := by
    rw [List.dropWhile_cons_of_neg (by simp [hslash.1])]
  unfold meetsCased
  rw [List.dropWhile_append, hrest]
  cases hdrop : chars.dropWhile isCaseIgnorable with
  | nil => simp [hslash.2]
  | cons c tail => rfl

/-- The first segment of a text decides whether a letter follows. -/
theorem meetsCased_splitAt {part : List Char} {parts : List (List Char)}
    (h : splitAt Path.slash chars = part :: parts) : meetsCased chars = meetsCased part := by
  have hchars := intercalate_splitAt Path.slash chars
  rw [h] at hchars
  cases parts with
  | nil => rw [← hchars, List.intercalate_singleton]
  | cons next parts =>
    rw [← hchars, List.intercalate_cons_cons, List.append_assoc]
    exact meetsCased_slash part _

theorem lowerChars_behind_slash (before : List Char) :
    lowerChars (Path.slash :: before) chars = lowerChars [] chars := by
  have hmore : ∀ near, lowerChars (near ++ Path.slash :: before) chars = lowerChars near chars := by
    induction chars with
    | nil => exact fun _ => rfl
    | cons c rest ih =>
      intro near
      rw [lowerChars, lowerChars, ← List.cons_append, ih, lowerAt, lowerAt, endsWord, endsWord,
        meetsCased_slash]
  exact hmore []

theorem lowerAt_congr {after : List Char} (h : meetsCased rest = meetsCased after) :
    lowerAt before c rest = lowerAt before c after := by
  rw [lowerAt, lowerAt, endsWord, endsWord, h]

theorem lowerAt_slash (before rest : List Char) : lowerAt before Path.slash rest = [Path.slash] := by
  rfl

theorem applyShifts_ne {point other : Nat} {shifts : List Shift}
    (h : ∀ shift ∈ shifts, (other : Int) < shift.low + shift.distance) (hpoint : point ≠ other) :
    applyShifts point shifts ≠ other := by
  induction shifts with
  | nil => exact hpoint
  | cons shift rest ih =>
    obtain ⟨hshift, hrest⟩ := List.forall_mem_cons.mp h
    rw [applyShifts]
    split
    · exact hpoint
    · split
      · next hheld =>
        simp only [Shift.holds, Bool.and_eq_true, decide_eq_true_eq] at hheld
        rw [Shift.image]
        omega
      · exact ih hrest

theorem slash_not_mem_lowerAt (hc : c ≠ Path.slash) : Path.slash ∉ lowerAt before c rest := by
  have hshifts : ∀ shift ∈ lowerShifts,
      ((Path.slash.toNat : Nat) : Int) < shift.low + shift.distance := by decide +kernel
  have hpoint : c.toNat ≠ Path.slash.toNat := fun he => hc (Char.toNat_inj.mp he)
  unfold lowerAt
  split
  · split <;> decide
  · split
    · decide
    · have hne := applyShifts_ne hshifts hpoint
      rw [List.mem_singleton]
      intro he
      by_cases hvalid : (applyShifts c.toNat lowerShifts).isValidChar
      · rw [Char.ofNat, dif_pos hvalid] at he
        exact hne (congrArg Char.toNat he).symm
      · rw [Char.ofNat, dif_neg hvalid] at he
        exact absurd he (by decide)

/-- Lower-casing keeps the slashes and goes segment by segment. -/
theorem splitAt_lowerChars (before : List Char) {part : List Char} {parts : List (List Char)}
    (h : splitAt Path.slash chars = part :: parts) :
    splitAt Path.slash (lowerChars before chars) =
      lowerChars before part :: parts.map (lowerChars []) := by
  induction chars generalizing before part parts with
  | nil =>
    cases h
    rfl
  | cons c chars ih =>
    obtain ⟨head, tail, hsplit⟩ := List.exists_cons_of_ne_nil (splitAt_ne_nil Path.slash chars)
    rw [lowerChars]
    by_cases hc : c = Path.slash
    · rw [hc, splitAt_mark, hsplit] at h
      cases h
      rw [hc, lowerAt_slash, List.singleton_append, splitAt_mark, ih _ hsplit, lowerChars_behind_slash]
      rfl
    · rw [splitAt_cons hc hsplit] at h
      cases h
      have hword : splitAt Path.slash (lowerAt before c chars) = [] ++ [lowerAt before c chars] :=
        splitAt_of_not_mem (slash_not_mem_lowerAt hc)
      rw [splitAt_append hword (ih (c :: before) hsplit), lowerChars,
        lowerAt_congr (meetsCased_splitAt hsplit)]
      rfl

end Lower

end Text

/-! ### Directories -/

namespace Path

/-- The segments of a path, in lower case. -/
def segments (path : String) : List (List Char) :=
  (Text.splitAt slash path.toList).map (Text.lowerChars [])

/-- The segments of a directory, which may be written with a slash at its end. -/
def directorySegments (path : String) : List (List Char) :=
  if (segments path).getLast? = some [] then (segments path).dropLast else segments path

/-- The segments of the directory come first in the path of the file, and others follow. -/
def Inside (directory file : String) : Prop :=
  directorySegments directory <+: segments file ∧ directorySegments directory ≠ segments file

/-- The text of the directory breaks off in the middle of a segment of the file, or it is the file. -/
def Straddles (directory file : String) : Prop :=
  ∃ before last more rest, segments directory = before ++ [last] ∧ last ≠ [] ∧
    segments file = before ++ (last ++ more) :: rest ∧ (more ≠ [] ∨ rest = [])

theorem splitAt_lower (path : String) : Text.splitAt slash (Text.lower path).toList = segments path := by
  obtain ⟨part, parts, hsplit⟩ := List.exists_cons_of_ne_nil (Text.splitAt_ne_nil slash path.toList)
  rw [Text.lower, String.toList_ofList, Text.splitAt_lowerChars [] hsplit, segments, hsplit, List.map_cons]

theorem exists_segments_concat (path : String) : ∃ before last, segments path = before ++ [last] := by
  have hne : segments path ≠ [] := by simp [segments, Text.splitAt_ne_nil]
  exact ⟨_, _, (List.dropLast_concat_getLast hne).symm⟩

variable {directory file : String} {before : List (List Char)} {last : List Char}

theorem proper_prefix_iff {α : Type} {start list : List α} :
    (start <+: list ∧ start ≠ list) ↔ ∃ next rest, list = start ++ next :: rest := by
  constructor
  · rintro ⟨⟨behind, rfl⟩, hne⟩
    cases behind with
    | nil => simp at hne
    | cons next rest => exact ⟨next, rest, rfl⟩
  · rintro ⟨next, rest, rfl⟩
    exact ⟨List.prefix_append _ _, by simp⟩

/-- The text of a directory comes first in that of a file if the file is inside, and also if the text
breaks off elsewhere than at the end of a segment. -/
theorem beginsWith_iff (directory file : String) :
    Text.beginsWith (Text.lower file) (Text.lower directory) = true ↔
      Inside directory file ∨ Straddles directory file := by
  obtain ⟨before, last, h⟩ := exists_segments_concat directory
  have hprefix := @Text.prefix_iff_splitAt slash last before (Text.lower directory).toList
    (Text.lower file).toList ((splitAt_lower directory).trans h)
  rw [Text.beginsWith, List.isPrefixOf_iff_prefix, hprefix, splitAt_lower, Inside, proper_prefix_iff,
    directorySegments, h, List.getLast?_concat, List.dropLast_concat]
  constructor
  · rintro ⟨more, rest, hfile⟩
    by_cases hlast : last = []
    · subst hlast
      exact .inl ⟨more, rest, by simpa using hfile⟩
    · by_cases hends : more ≠ [] ∨ rest = []
      · exact .inr ⟨before, last, more, rest, h, hlast, hfile, hends⟩
      · obtain ⟨rfl, hrest⟩ := not_or.mp hends |>.imp_left not_not.mp
        obtain ⟨next, rest, rfl⟩ := List.exists_cons_of_ne_nil hrest
        exact .inl ⟨next, rest, by simpa [hlast] using hfile⟩
  · rintro (⟨next, rest, hfile⟩ | ⟨start, final, more, rest, hsame, _, hfile, _⟩)
    · by_cases hlast : last = []
      · subst hlast
        exact ⟨next, rest, by simpa using hfile⟩
      · exact ⟨[], next :: rest, by simpa [hlast] using hfile⟩
    · obtain ⟨rfl, hfinal⟩ := List.append_inj' (h.symm.trans hsame) rfl
      cases hfinal
      exact ⟨more, rest, hfile⟩

/-- A directory that is written with a slash at its end breaks off at the end of a segment. -/
theorem not_straddles_of_slash (h : directory.toList.getLast? = some slash) (file : String) :
    ¬ Straddles directory file := by
  rintro ⟨before, last, _, _, hsegments, hlast, _⟩
  obtain ⟨start, hstart⟩ := List.getLast?_eq_some_iff.mp h
  obtain ⟨parts, part, hparts⟩ : ∃ parts part, Text.splitAt slash start = parts ++ [part] :=
    ⟨_, _, (List.dropLast_concat_getLast (Text.splitAt_ne_nil slash start)).symm⟩
  have hends : Text.splitAt slash directory.toList = (parts ++ [part]) ++ [[]] := by
    rw [hstart, Text.splitAt_append hparts (Text.splitAt_mark slash [])]
    simp [Text.splitAt]
  rw [segments, hends, List.map_append] at hsegments
  obtain ⟨-, hempty⟩ := List.append_inj' hsegments rfl
  exact hlast (List.singleton_inj.mp hempty).symm

instance (directory file : String) : Decidable (Inside directory file) :=
  inferInstanceAs (Decidable (_ ∧ _))

end Path

/-! ### Types of the project -/

namespace Specifier

/-- A rule about the project picks a type if the text of the project's directory, and of no type root,
comes first in that of a file. So it picks the types that are declared inside the project, as long as each
directory is written with a slash at its end, or its text breaks off in no segment of a file. -/
theorem picks_project_iff {σ : Type} (host : Host σ) (state : σ) (specifier : Specifier) (ref : TypeRef)
    (hproject : specifier.provenance = some (.project none))
    (hnames : nameMatches (host.typeName state ref) specifier.names specifier.patterns = true)
    (hignores : specifier.ignores (host.typeName state ref) = false) :
    let root := (host.program state).currentDirectory
    let typeRoots := (host.program state).typeRoots
    let files := host.declarationFiles state ref.id
    (specifier.picks (host.subject state ref) = true ↔ ∃ file ∈ files, file.external = false ∧
      (Path.Inside root file.name ∨ Path.Straddles root file.name) ∧
      ∀ typeRoot ∈ typeRoots,
        ¬ (Path.Inside typeRoot file.name ∨ Path.Straddles typeRoot file.name)) ∧
    ((∀ directory ∈ root :: typeRoots, directory.toList.getLast? = some Path.slash ∨
        ∀ file ∈ files, ¬ Path.Straddles directory file.name) →
      (specifier.picks (host.subject state ref) = true ↔ ∃ file ∈ files, file.external = false ∧
        Path.Inside root file.name ∧ ∀ typeRoot ∈ typeRoots, ¬ Path.Inside typeRoot file.name)) := by
  intro root typeRoots files
  have hpicks : specifier.picks (host.subject state ref) = true ↔ ∃ file ∈ files,
      file.external = false ∧ (Path.Inside root file.name ∨ Path.Straddles root file.name) ∧
      ∀ typeRoot ∈ typeRoots,
        ¬ (Path.Inside typeRoot file.name ∨ Path.Straddles typeRoot file.name) := by
    simp only [picks, Host.subject, hnames, hignores, hproject, Option.all_some, Provenance.admits,
      Provenance.inProject, Bool.not_false, Bool.true_and, List.any_eq_true, Bool.and_eq_true,
      Bool.not_eq_true', List.any_map, List.any_eq_false, Function.comp_apply, Path.beginsWith_iff]
    rfl
  refine ⟨hpicks, fun hclear => hpicks.trans (exists_congr fun file => and_congr_right fun hfile => ?_)⟩
  have hinside : ∀ directory ∈ root :: typeRoots,
      Path.Inside directory file.name ∨ Path.Straddles directory file.name ↔
        Path.Inside directory file.name := by
    intro directory hdirectory
    refine or_iff_left ?_
    rcases hclear directory hdirectory with hslash | hnone
    · exact Path.not_straddles_of_slash hslash file.name
    · exact hnone file hfile
  rw [hinside root List.mem_cons_self]
  refine and_congr_right fun _ => and_congr_right fun _ => forall₂_congr fun typeRoot htypeRoot => ?_
  rw [hinside typeRoot (List.mem_cons_of_mem root htypeRoot)]

/-- An interface `Foo` that is declared in one file of the user's. -/
def declaredIn (program : Program) (file : String) : TypeId × Store :=
  let (file, store) := (Store.new program).addFile (.project file)
  store.interface "Foo" [file] []

def projectFoo : Specifier := { names := ["Foo"], provenance := some (.project none) }

def picksFoo (program : Program) (file : String) : Bool :=
  let (id, store) := declaredIn program file
  projectFoo.picks (Store.host.subject store { id })

theorem picks_project_iff_slashed :
    let program : Program := ⟨"/project/", ["/project/node_modules/@types/"]⟩
    Path.Inside "/project/" "/Project/src/foo.ts" ∧
    ¬ Path.Inside "/project/node_modules/@types/" "/Project/src/foo.ts" ∧
    picksFoo program "/Project/src/foo.ts" = true := by
  intro program
  have hinside : Path.Inside "/project/" "/Project/src/foo.ts" := by decide +kernel
  have houtside : ¬ Path.Inside "/project/node_modules/@types/" "/Project/src/foo.ts" := by
    decide +kernel
  have hfile : SourceFile.project "/Project/src/foo.ts" ∈
      (declaredIn program "/Project/src/foo.ts").2.declarationFiles ⟨14⟩ := by decide +kernel
  have hiff := (picks_project_iff Store.host (declaredIn program "/Project/src/foo.ts").2 projectFoo
    ⟨⟨14⟩, none⟩ rfl (by decide +kernel) (by decide +kernel)).2 ?_
  · refine ⟨hinside, houtside, hiff.mpr ⟨_, hfile, rfl, hinside, ?_⟩⟩
    exact List.forall_mem_singleton.mpr houtside
  · intro directory hdirectory
    left
    revert directory
    decide +kernel

/-- A file next to the project counts as one of the project if the names of the two begin alike, and a
file of the project next to a type root counts as one of the type root. -/
theorem picks_beside_project :
    picksFoo Store.defaultProgram "/project-old/foo.ts" = true ∧
    ¬ Path.Inside "/project" "/project-old/foo.ts" ∧
    picksFoo Store.defaultProgram "/project/node_modules/@types-local/foo.ts" = false ∧
    Path.Inside "/project" "/project/node_modules/@types-local/foo.ts" ∧
    ¬ Path.Inside "/project/node_modules/@types" "/project/node_modules/@types-local/foo.ts" := by
  decide +kernel

end Specifier

end Immutability

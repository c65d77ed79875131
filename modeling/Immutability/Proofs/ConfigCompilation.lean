import Immutability.Config.Compile
import Mathlib.Data.List.Forall2

/-!
# What compiling a configuration amounts to

The checks on a configured rule can be listed with what is wrong: all faults of the rule, in the order in
which they are looked for. Compiling stops at the first fault. So a list of rules compiles if no rule has a
fault, and then says what the records say, and otherwise it gives the first fault of the first rule that
has one. All of this holds whatever the engine takes for a pattern.
-/

set_option autoImplicit false

namespace Immutability

/-! ### Outcomes -/

/-- With a fault the outcome is the first of them, and without one it is a result as wanted. -/
inductive DecidedBy {ε α : Type} (wanted : α → Prop) : List ε → Except ε α → Prop where
  | ok {result : α} : wanted result → DecidedBy wanted [] (.ok result)
  | error (fault : ε) (rest : List ε) : DecidedBy wanted (fault :: rest) (.error fault)

namespace DecidedBy

variable {ε α β : Type} {outcome : Except ε α} {faults more : List ε} {wanted : α → Prop}
  {final : β → Prop}

/-- Faults of the first part come before those of the second. -/
theorem bind {next : α → Except ε β} (h : DecidedBy wanted faults outcome)
    (hnext : ∀ result, wanted result → DecidedBy final more (next result)) :
    DecidedBy final (faults ++ more) (outcome >>= next) := by
  cases h with
  | ok hresult => exact hnext _ hresult
  | error fault rest => exact .error fault (rest ++ more)

/-- The last part of a computation only puts the result together. -/
theorem map {result : α → β} (h : DecidedBy wanted faults outcome)
    (hresult : ∀ found, wanted found → final (result found)) :
    DecidedBy final faults (outcome >>= fun found => .ok (result found)) := by
  rw [← List.append_nil faults]
  exact h.bind fun found hfound => .ok (hresult found hfound)

section Through

variable {run : α → Except ε β} {faultsOf : α → List ε} {fits : α → β → Prop}
  (h : ∀ source, DecidedBy (fits source) (faultsOf source) (run source))
include h

/-- A list is gone through up to the first fault of the first element that has one. -/
theorem mapM (sources : List α) :
    DecidedBy (List.Forall₂ fits sources) (sources.flatMap faultsOf) (sources.mapM run) := by
  induction sources with
  | nil => exact .ok .nil
  | cons first rest ih =>
    rw [List.mapM_cons, List.flatMap_cons]
    exact (h first).bind fun result hresult => ih.map fun results hresults => .cons hresult hresults

theorem optionMapM (source : Option α) :
    DecidedBy (Option.Rel fits source) (source.toList.flatMap faultsOf) (source.mapM run) := by
  cases source with
  | none => exact .ok .none
  | some source =>
    rw [Option.toList_some, List.flatMap_singleton]
    exact (h source).map fun result hresult => .some hresult

end Through

theorem exists_ok_iff (h : DecidedBy wanted faults outcome) :
    (∃ result, outcome = .ok result) ↔ faults = [] := by
  cases h <;> simp

theorem wanted_of_ok {result : α} (h : DecidedBy wanted faults (.ok result)) : wanted result := by
  cases h with
  | ok hresult => exact hresult

theorem error_iff (h : DecidedBy wanted faults outcome) (fault : ε) :
    outcome = .error fault ↔ faults.head? = some fault := by
  cases h <;> simp

end DecidedBy

/-! ### Levels and patterns -/

/-- Whether a text names a level, up to white space around it and the case of ASCII letters. -/
def Level.spelledBy (text : String) (level : Level) : Bool :=
  Text.sameIgnoringAsciiCase level.name (Text.trim text)

theorem Level.mem_all (level : Level) : level ∈ all := by cases level <;> decide

theorem Level.spelledBy_of_parse {text : String} {level : Level} (h : parse text = .ok level) :
    spelledBy text level = true := by
  unfold parse at h
  split at h
  · next found hfind =>
    cases h
    exact List.find?_some hfind
  · cases h

theorem Level.not_spelledBy_of_parse {text : String} {error : ParseError}
    (h : parse text = .error error) : error = ⟨text⟩ ∧ ∀ level, spelledBy text level = false := by
  unfold parse at h
  split at h
  · cases h
  · next hfind =>
    cases h
    refine ⟨rfl, fun level => ?_⟩
    exact Bool.eq_false_iff.mpr (List.find?_eq_none.mp hfind level level.mem_all)

theorem Status.mem_all (status : Status) : status ∈ all := by
  rcases status with _ | _ | level
  · decide
  · decide
  · cases level <;> decide

theorem Status.eq_of_sameIgnoringAsciiCase {a b : Status}
    (h : Text.sameIgnoringAsciiCase a.name b.name = true) : a = b := by
  have hall : ∀ a ∈ all, ∀ b ∈ all, Text.sameIgnoringAsciiCase a.name b.name = true → a = b := by
    decide
  exact hall a a.mem_all b b.mem_all h

/-- A text names one level at most, and if it names one, it names none of the statuses that are no level. -/
theorem Level.eq_known_of_spelledBy {text : String} {level : Level} {status : Status}
    (h : level.spelledBy text = true)
    (hstatus : Text.sameIgnoringAsciiCase status.name (Text.trim text) = true) :
    status = .known level := by
  apply Status.eq_of_sameIgnoringAsciiCase
  rw [spelledBy, Text.sameIgnoringAsciiCase, beq_iff_eq] at h
  rw [Text.sameIgnoringAsciiCase, beq_iff_eq] at hstatus ⊢
  exact hstatus.trans h.symm

def levelFaults (text : String) : List ConfigError :=
  if Level.all.any (Level.spelledBy text) then [] else [.invalidLevel ⟨text⟩]

theorem any_spelledBy_iff {text : String} : Level.all.any (Level.spelledBy text) = true ↔
    ∃ level, Level.spelledBy text level = true := by
  simp [List.any_eq_true, Level.mem_all]

theorem levelFaults_eq_nil {text : String} :
    levelFaults text = [] ↔ ∃ level, Level.spelledBy text level = true := by
  rw [levelFaults, ← any_spelledBy_iff]
  split <;> simp_all

theorem compileLevel_decided (text : String) :
    DecidedBy (fun level => Level.spelledBy text level = true) (levelFaults text)
      (compileLevel text) := by
  unfold compileLevel
  cases hparse : Level.parse text with
  | ok level =>
    have hspelled := Level.spelledBy_of_parse hparse
    rw [levelFaults_eq_nil.mpr ⟨level, hspelled⟩]
    exact .ok hspelled
  | error error =>
    obtain ⟨rfl, hnone⟩ := Level.not_spelledBy_of_parse hparse
    have hany : ¬ Level.all.any (Level.spelledBy text) = true := by simp [hnone]
    rw [levelFaults, if_neg hany]
    exact .error _ _

def patternFaults (engine : Engine) (sources : List String) : List ConfigError :=
  (sources.filter fun source => (engine.compile? source).isNone).map .invalidPattern

def Patterned (engine : Engine) : List String → List Pattern → Prop :=
  List.Forall₂ fun source pattern => engine.compile? source = some pattern ∧ pattern.source = source

theorem Patterned.unique {engine : Engine} {sources : List String} {patterns others : List Pattern}
    (h : Patterned engine sources patterns) (hothers : Patterned engine sources others) :
    patterns = others := by
  refine List.right_unique_forall₂' ?_ h hothers
  intro source pattern other hpattern hother
  exact Option.some.inj (hpattern.1.symm.trans hother.1)

theorem compilePatterns_decided (engine : Engine) (sources : List String) :
    DecidedBy (Patterned engine sources) (patternFaults engine sources)
      (compilePatterns engine sources) := by
  have hfaults : patternFaults engine sources =
      sources.flatMap fun source => patternFaults engine [source] := by
    induction sources with
    | nil => rfl
    | cons first rest ih =>
      rw [List.flatMap_cons, ← ih]
      simp [patternFaults, List.filter_cons]
      split <;> rfl
  rw [hfaults]
  apply DecidedBy.mapM
  intro source
  unfold patternFaults
  cases hcompile : engine.compile? source with
  | some pattern => simpa [hcompile] using DecidedBy.ok ⟨rfl, Engine.source_of_compile? hcompile⟩
  | none => simpa [hcompile] using DecidedBy.error _ _

theorem patternFaults_eq_nil {engine : Engine} {sources : List String} :
    patternFaults engine sources = [] ↔
      ∀ source ∈ sources, (engine.compile? source).isSome = true := by
  simp [patternFaults, List.filter_eq_nil_iff, Option.isSome_iff_ne_none]

/-! ### Specifiers -/

/-- A name alone is short for a specifier with that name and nothing else. -/
def SpecifierInput.details : SpecifierInput → SpecifierRecord
  | named name => { name := some [name] }
  | detailed record => record

theorem SpecifierInput.compile_details (engine : Engine) (input : SpecifierInput) :
    input.compile engine = input.details.compile engine := by
  cases input <;> rfl

namespace SpecifierRecord

def Places (record : SpecifierRecord) : Option Provenance → Prop
  | none => record.source = none
  | some (.project path) => record.source = some .file ∧ record.path = path
  | some .library => record.source = some .library
  | some (.package name) => record.source = some .package ∧ record.package = some name

theorem Places.unique {record : SpecifierRecord} {place other : Option Provenance}
    (h : record.Places place) (hother : record.Places other) : place = other := by
  rcases place with _ | path | _ | name <;> rcases other with _ | _ | _ | _ <;> simp_all [Places]

def packageFaults (record : SpecifierRecord) : List ConfigError :=
  if record.source = some .package ∧ record.package = none then [.missingPackage] else []

theorem provenance_decided (record : SpecifierRecord) :
    DecidedBy record.Places record.packageFaults record.provenance := by
  unfold packageFaults provenance
  cases hsource : record.source with
  | none => exact .ok hsource
  | some kind =>
    cases kind with
    | file => exact .ok ⟨hsource, rfl⟩
    | library => exact .ok hsource
    | package =>
      cases hpackage : record.package with
      | none => exact .error _ _
      | some name => exact .ok ⟨hsource, hpackage⟩

def emptyFaults (record : SpecifierRecord) : List ConfigError :=
  if record.name.getD [] = [] ∧ record.pattern.getD [] = [] then [.emptySpecifier] else []

/-- All that is wrong with a record, in the order of the checks. -/
def faults (engine : Engine) (record : SpecifierRecord) : List ConfigError :=
  patternFaults engine (record.pattern.getD []) ++ (record.emptyFaults ++
    (record.packageFaults ++ patternFaults engine (record.ignorePattern.getD [])))

structure Describes (engine : Engine) (record : SpecifierRecord) (specifier : Specifier) : Prop where
  names : specifier.names = record.name.getD []
  patterns : Patterned engine (record.pattern.getD []) specifier.patterns
  ignoreNames : specifier.ignoreNames = record.ignoreName.getD []
  ignorePatterns : Patterned engine (record.ignorePattern.getD []) specifier.ignorePatterns
  provenance : record.Places specifier.provenance

theorem Describes.unique {engine : Engine} {record : SpecifierRecord} {specifier other : Specifier}
    (h : record.Describes engine specifier) (hother : record.Describes engine other) :
    specifier = other := by
  have hnames := h.names.trans hother.names.symm
  have hpatterns := h.patterns.unique hother.patterns
  have hignoreNames := h.ignoreNames.trans hother.ignoreNames.symm
  have hignorePatterns := h.ignorePatterns.unique hother.ignorePatterns
  have hprovenance := h.provenance.unique hother.provenance
  cases specifier
  cases other
  congr

theorem compile_decided (engine : Engine) (record : SpecifierRecord) :
    DecidedBy (record.Describes engine) (record.faults engine) (record.compile engine) := by
  refine (compilePatterns_decided engine _).bind fun patterns hpatterns => ?_
  have hempty : ((record.name.getD []).isEmpty && patterns.isEmpty) = true ↔
      record.name.getD [] = [] ∧ record.pattern.getD [] = [] := by
    rw [Bool.and_eq_true, List.isEmpty_iff, List.isEmpty_iff, ← List.length_eq_zero_iff (l := patterns),
      ← hpatterns.length_eq, List.length_eq_zero_iff]
  unfold emptyFaults
  by_cases hnothing : record.name.getD [] = [] ∧ record.pattern.getD [] = []
  · rw [if_pos hnothing, if_pos (hempty.mpr hnothing)]
    exact .error _ _
  · rw [if_neg hnothing, if_neg (mt hempty.mp hnothing)]
    refine (provenance_decided record).bind fun provenance hprovenance => ?_
    refine (compilePatterns_decided engine _).map fun ignorePatterns hignore => ?_
    exact ⟨rfl, hpatterns, rfl, hignore, hprovenance⟩

end SpecifierRecord

/-! ### Rules -/

namespace RuleRecord

def Spells (text : String) (status : Status) : Prop :=
  ∃ level : Level, status = .known level ∧ level.spelledBy text = true

theorem Spells.unique {text : String} {status other : Status} (h : Spells text status)
    (hother : Spells text other) : status = other := by
  obtain ⟨level, rfl, hlevel⟩ := h
  obtain ⟨second, rfl, hsecond⟩ := hother
  exact Level.eq_known_of_spelledBy hsecond hlevel

def faults (engine : Engine) (record : RuleRecord) : List ConfigError :=
  levelFaults record.target ++ (record.origin.toList.flatMap levelFaults ++
    record.specifier.details.faults engine)

structure Describes (engine : Engine) (record : RuleRecord) (rule : Rule) : Prop where
  specifier : record.specifier.details.Describes engine rule.specifier
  target : Spells record.target rule.target
  origin : Option.Rel Spells record.origin rule.origin

theorem Describes.unique {engine : Engine} {record : RuleRecord} {rule other : Rule}
    (h : record.Describes engine rule) (hother : record.Describes engine other) : rule = other := by
  obtain ⟨specifier, target, origin⟩ := rule
  obtain ⟨specifier', target', origin'⟩ := other
  obtain rfl : specifier = specifier' := h.specifier.unique hother.specifier
  obtain rfl : target = target' := h.target.unique hother.target
  have horigin : origin = origin' := by
    have hfirst := h.origin
    have hsecond := hother.origin
    generalize record.origin = text at hfirst hsecond
    cases hfirst with
    | none =>
      cases hsecond
      rfl
    | some hspells =>
      cases hsecond with
      | some hspells' => rw [hspells.unique hspells']
  rw [horigin]

theorem compile_decided (engine : Engine) (record : RuleRecord) :
    DecidedBy (record.Describes engine) (record.faults engine) (record.compile engine) := by
  refine (compileLevel_decided _).bind fun target htarget => ?_
  refine (DecidedBy.optionMapM compileLevel_decided record.origin).bind fun origin horigin => ?_
  rw [SpecifierInput.compile_details]
  refine (SpecifierRecord.compile_decided engine _).map fun specifier hspecifier => ?_
  refine ⟨hspecifier, ⟨target, rfl, htarget⟩, ?_⟩
  dsimp only
  generalize record.origin = text at horigin ⊢
  cases horigin with
  | none => exact .none
  | some hlevel => exact .some ⟨_, rfl, hlevel⟩

theorem compileAll_decided (engine : Engine) (records : List RuleRecord) :
    DecidedBy (List.Forall₂ (Describes engine) records) (records.flatMap (faults engine))
      (compileAll engine records) :=
  DecidedBy.mapM (compile_decided engine) records

/-- A rule can be compiled: its levels are named, its patterns are patterns, it has a name or a pattern, and
if it is about a package, it names the package. -/
structure Valid (engine : Engine) (record : RuleRecord) : Prop where
  target : ∃ level : Level, level.spelledBy record.target = true
  origin : ∀ text ∈ record.origin, ∃ level : Level, level.spelledBy text = true
  patterns : ∀ source ∈ record.specifier.details.pattern.getD [],
    (engine.compile? source).isSome = true
  ignorePatterns : ∀ source ∈ record.specifier.details.ignorePattern.getD [],
    (engine.compile? source).isSome = true
  specified : record.specifier.details.name.getD [] ≠ [] ∨
    record.specifier.details.pattern.getD [] ≠ []
  packaged : record.specifier.details.source = some .package →
    record.specifier.details.package ≠ none

theorem valid_iff {engine : Engine} {record : RuleRecord} :
    record.Valid engine ↔ record.faults engine = [] := by
  have horigin : record.origin.toList.flatMap levelFaults = [] ↔
      ∀ text ∈ record.origin, ∃ level : Level, level.spelledBy text = true := by
    simp [List.flatMap_eq_nil_iff, levelFaults_eq_nil]
  have hempty : record.specifier.details.emptyFaults = [] ↔
      record.specifier.details.name.getD [] ≠ [] ∨ record.specifier.details.pattern.getD [] ≠ [] := by
    simp [SpecifierRecord.emptyFaults, ← Classical.not_and_iff_not_or_not]
  have hpackage : record.specifier.details.packageFaults = [] ↔
      (record.specifier.details.source = some .package → record.specifier.details.package ≠ none) := by
    simp [SpecifierRecord.packageFaults]
  rw [faults, SpecifierRecord.faults, List.append_eq_nil_iff, List.append_eq_nil_iff,
    List.append_eq_nil_iff, List.append_eq_nil_iff, List.append_eq_nil_iff, levelFaults_eq_nil, horigin,
    patternFaults_eq_nil, patternFaults_eq_nil, hempty, hpackage]
  constructor
  · rintro ⟨htarget, horigin, hpatterns, hignore, hspecified, hpackaged⟩
    exact ⟨htarget, horigin, hpatterns, hspecified, hpackaged, hignore⟩
  · rintro ⟨htarget, horigin, hpatterns, hspecified, hpackaged, hignore⟩
    exact ⟨htarget, horigin, hpatterns, hignore, hspecified, hpackaged⟩

/-- With any engine, rules compile exactly if each of them is valid. They give the one list of rules that
say what the records say, one for one. Otherwise the error is the first fault of the first rule that is not
valid. -/
theorem compileAll_faithful (engine : Engine) (records : List RuleRecord) :
    ((∃ rules, compileAll engine records = .ok rules) ↔ ∀ record ∈ records, record.Valid engine) ∧
    (∀ rules, compileAll engine records = .ok rules ↔
      (∀ record ∈ records, record.Valid engine) ∧ List.Forall₂ (Describes engine) records rules) ∧
    ∀ error, compileAll engine records = .error error ↔ ∃ before record after,
      records = before ++ record :: after ∧ (∀ earlier ∈ before, earlier.Valid engine) ∧
      (record.faults engine).head? = some error := by
  have hdecided := compileAll_decided engine records
  have hvalid : (∃ rules, compileAll engine records = .ok rules) ↔
      ∀ record ∈ records, record.Valid engine := by
    rw [hdecided.exists_ok_iff, List.flatMap_eq_nil_iff]
    simp only [valid_iff]
  refine ⟨hvalid, fun rules => ⟨fun hrules => ?_, ?_⟩, fun error => ?_⟩
  · exact ⟨hvalid.mp ⟨rules, hrules⟩, (hrules ▸ hdecided).wanted_of_ok⟩
  · rintro ⟨hrecords, hdescribes⟩
    obtain ⟨compiled, hcompiled⟩ := hvalid.mpr hrecords
    have hfound := (hcompiled ▸ hdecided).wanted_of_ok
    have hunique : Relator.RightUnique (Describes engine) := fun _ _ _ => Describes.unique
    rw [hcompiled, List.right_unique_forall₂' hunique hfound hdescribes]
  · rw [hdecided.error_iff, List.head?_flatMap, List.findSome?_eq_some_iff]
    simp only [valid_iff, List.head?_eq_none_iff]
    constructor
    · rintro ⟨before, record, after, hrecords, hfault, hbefore⟩
      exact ⟨before, record, after, hrecords, hbefore, hfault⟩
    · rintro ⟨before, record, after, hrecords, hbefore, hfault⟩
      exact ⟨before, record, after, hrecords, hfault, hbefore⟩

end RuleRecord

end Immutability

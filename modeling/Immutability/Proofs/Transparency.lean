import Immutability.Proofs.SteadyAssignments
import Immutability.Proofs.Termination
import Immutability.Query

/-!
# What a shared cache and a threshold may change

A cache that is kept over many requests, or a threshold below the highest, changes which types of a cycle
are entered first. Both are meant to save work only. They do where there is a steady assignment: all
requests through one cache are answered as they would be on a cache of their own (`runAll_alone`), and a
narrow question is answered as the full classification answers it (`ask_eq_holds`).

Without one they need not. In `couple false` the second record is found immutable while the first is under
way, and is still taken for immutable when the first turns out to lead to a box that can be written. In
`detour` the threshold of a question ends one walk early, and what it leaves undone is then found on
another way with another result.
-/

set_option autoImplicit false

namespace Immutability

/-- A question compares a level with its threshold. -/
theorem Question.holds_known (question : Question) (level : Level) :
    question.holds (.known level) =
      ((question == isMutable) ^^ decide (question.threshold ≤ level)) := by
  cases question <;> cases level <;> rfl

theorem Question.holds_eq_of_approximates (question : Question) {found exact : Verdict}
    (h : Approximates question.threshold found exact) :
    question.holds (.settled found) = question.holds (.settled exact) := by
  cases h with
  | exact => rfl
  | between hf he =>
    rw [holds_known, holds_known, decide_eq_true hf, decide_eq_true (hf.trans he)]

section

variable {σ : Type} {host : Host σ} {rules : List Rule} {ref : TypeRef} {context later : Context σ}

theorem run_of_classify {threshold : Level} {status : Status}
    (h : classify host rules ref (.known threshold) context = .ok (status, later)) :
    ∃ answer, Machine.run host rules stepLimit ref threshold
      { context with journal := context.journal.start ref.id threshold } = .ok answer ∧
      answer.status = status := by
  simp only [classify, Status.level?, Option.getD_some] at h
  cases hrun : Machine.run host rules stepLimit ref threshold
      { context with journal := context.journal.start ref.id threshold } with
  | error fault =>
    rw [hrun] at h
    cases h
  | ok answer =>
    rw [hrun] at h
    cases h
    exact ⟨answer, rfl, rfl⟩

theorem Question.classify_of_ask {question : Question} {answer : Bool}
    (h : question.ask host rules ref context = .ok (answer, later)) :
    ∃ status, classify host rules ref (.known question.threshold) context = .ok (status, later) ∧
      answer = question.holds status := by
  unfold ask at h
  cases hclassify : classify host rules ref (.known question.threshold) context with
  | error fault =>
    rw [hclassify] at h
    cases h
  | ok found =>
    rw [hclassify] at h
    cases h
    exact ⟨found.1, rfl, rfl⟩

end

namespace TypeGraph

variable {graph : TypeGraph} {rules : List Rule} {roots : List TypeId} {value : TypeId → Verdict}

theorem exists_run_of_finite (rules : List Rule) {root : TypeId} (threshold : Level)
    {context : Context Unit} (hfaithful : graph.Faithful value context.cache)
    (hkeys : (graph.keysBelow { id := root }).Finite) :
    ∃ steps answer, Machine.run graph.host rules steps { id := root } threshold context =
      .ok answer := by
  obtain ⟨status, final, heval⟩ := exists_evaluates rules hkeys threshold context.cache
  have hunmarked : ∀ entry, context.cache.get? (graph.key { id := root }) = some entry →
      entry.value ≠ .calculating := by
    intro entry hget
    cases hfaithful.settled root entry List.not_mem_nil hget
    exact Status.noConfusion
  obtain ⟨steps, answer, hrun, _⟩ := run_of_evaluates hunmarked heval
  exact ⟨steps, answer, hrun⟩

/-- The answer to a request is the verdict that its root is assigned, and the same request has no other
answer on an empty cache. -/
def AnsweredAlone (graph : TypeGraph) (value : TypeId → Verdict) (root : TypeId)
    (answer : Machine.Answer Unit) : Prop :=
  answer.status = .settled (value root) ∧
  ∀ steps journal alone, Machine.run graph.host [] steps { id := root } .immutable
    { state := (), journal } = .ok alone → answer.status = alone.status

theorem answeredAlone_of_run (hgraph : graph.Unplaced) (hsteady : graph.Steady [] roots value)
    {root : TypeId} (hroot : root ∈ roots) {steps : Nat} {context : Context Unit}
    {answer : Machine.Answer Unit} (hfaithful : graph.Faithful value context.cache)
    (h : Machine.run graph.host [] steps { id := root } .immutable context = .ok answer) :
    graph.AnsweredAlone value root answer ∧ graph.Faithful value answer.context.cache := by
  have hassigned : ∀ {steps context answer}, graph.Faithful value context.cache →
      Machine.run graph.host [] steps { id := root } .immutable context = .ok answer →
      answer.status = .settled (value root) ∧ graph.Faithful value answer.context.cache := by
    intro steps context answer hfaithful h
    obtain ⟨⟨found, hstatus, happrox⟩, hfinal⟩ :=
      faithful_of_run hgraph (List.forall_mem_nil _) hsteady hroot hfaithful h
    rw [happrox.eq_of_immutable] at hstatus
    exact ⟨hstatus, hfinal⟩
  obtain ⟨hstatus, hfinal⟩ := hassigned hfaithful h
  refine ⟨⟨hstatus, fun steps journal alone halone => ?_⟩, hfinal⟩
  exact hstatus.trans (hassigned (holding_empty graph _) halone).1.symm

/-- Where there is a steady assignment, requests that share a cache are answered as each would be on an
empty one, in whatever order the roots are asked for, and they end if there are finitely many keys. -/
theorem runAll_alone (graph : TypeGraph) (hgraph : graph.Unplaced) (roots : List TypeId)
    (value : TypeId → Verdict) (hsteady : graph.Steady [] roots value) (asked : List TypeId)
    (hasked : asked ⊆ roots) (journal : Journal) :
    (∀ steps answers, Machine.runAll graph.host steps
        (asked.map fun id => ⟨[], { id }, .immutable⟩) { state := (), journal } = .ok answers →
      List.Forall₂ (graph.AnsweredAlone value) asked answers) ∧
    ((∀ id ∈ asked, (graph.keysBelow { id }).Finite) →
      (∃ steps answers, Machine.runAll graph.host steps
        (asked.map fun id => ⟨[], { id }, .immutable⟩) { state := (), journal } = .ok answers) ∧
      ∀ id ∈ asked, ∃ steps alone, Machine.run graph.host [] steps { id } .immutable
        { state := (), journal } = .ok alone) := by
  let good (context : Context Unit) : Prop := graph.Faithful value context.cache
  have hstart : good { state := (), journal } := holding_empty graph _
  constructor
  · intro steps answers h
    refine Machine.forall₂_of_runAll ?_ hstart h
    intro id hid context answer hgood hrun
    exact answeredAlone_of_run hgraph hsteady (hasked hid) hgood hrun
  · intro hkeys
    refine ⟨?_, fun id hid => exists_run_of_finite [] .immutable hstart (hkeys id hid)⟩
    have hends : ∀ request ∈ asked.map fun id => (⟨[], { id }, .immutable⟩ : Machine.Request),
        ∀ context, good context → ∃ steps answer, Machine.run graph.host request.rules steps
          request.root request.threshold context = .ok answer ∧
          graph.AnsweredAlone value request.root.id answer ∧ good answer.context := by
      intro request hmem context hgood
      obtain ⟨root, hroot, rfl⟩ := List.mem_map.mp hmem
      obtain ⟨steps, answer, hrun⟩ := exists_run_of_finite [] .immutable hgood (hkeys root hroot)
      exact ⟨steps, answer, hrun, answeredAlone_of_run hgraph hsteady (hasked hroot) hgood hrun⟩
    obtain ⟨steps, answers, h, _⟩ := Machine.exists_runAll_of_run hends hstart
    exact ⟨steps, answers, h⟩

/-- Two records that hold each other. The first holds a box that can be written as well, and so does the
second if both do. -/
def couple (both : Bool) : TypeGraph where
  shape id :=
    match id.index with
    | 1 => .object .plain
    | 2 => .object .plain
    | 3 => .object .plain
    | _ => .primitive
  properties id :=
    match id.index with
    | 1 => [.readonly "partner" ⟨2⟩, .readonly "box" ⟨3⟩]
    | 2 => .readonly "partner" ⟨1⟩ :: if both then [.readonly "box" ⟨3⟩] else []
    | 3 => [{ name := "content", type := ⟨0⟩ }]
    | _ => []
  callable _ := false
  isReference _ := false
  typeArguments _ := []
  indexSignature _ _ := none
  identity id := ⟨id.index⟩
  typeName _ := { evaluated := "Record" }
  declarationFiles _ := []
  program := { currentDirectory := "/" }

theorem couple_unplaced (both : Bool) : (couple both).Unplaced := by
  refine unplaced_of_index (fun _ => rfl) ?_
  intro id whenTrue whenFalse h
  simp only [couple] at h
  split at h <;> cases h

/-- The second record leads to the box of the first, but is taken for immutable after the first. -/
theorem runAll_couple_not_alone :
    (couple false).Unplaced ∧
    (Machine.runAll (couple false).host 40 ([⟨1⟩, ⟨2⟩].map fun id => ⟨[], { id }, .immutable⟩)
        { state := () }).toOption.map (·.map (·.status)) =
      some [.known .readonlyShallow, .known .immutable] ∧
    (Machine.run (couple false).host [] 40 ⟨⟨2⟩, none⟩ .immutable { state := () }).toOption.map
        (·.status) = some (.known .readonlyShallow) :=
  ⟨couple_unplaced false, by decide +kernel, by decide +kernel⟩

def coupleValue (id : TypeId) : Verdict :=
  match id.index with
  | 1 => .known .readonlyShallow
  | 2 => .known .readonlyShallow
  | 3 => .known .mutable
  | _ => .known .immutable

theorem couple_steady : (couple true).Steady [] [⟨1⟩, ⟨2⟩] coupleValue := by
  refine steady_of_closed [[⟨1⟩], [⟨2⟩, ⟨1⟩], [⟨3⟩, ⟨2⟩, ⟨1⟩], [⟨0⟩, ⟨3⟩, ⟨2⟩, ⟨1⟩], [⟨3⟩, ⟨1⟩],
    [⟨0⟩, ⟨3⟩, ⟨1⟩], [⟨2⟩], [⟨1⟩, ⟨2⟩], [⟨3⟩, ⟨1⟩, ⟨2⟩], [⟨0⟩, ⟨3⟩, ⟨1⟩, ⟨2⟩], [⟨3⟩, ⟨2⟩],
    [⟨0⟩, ⟨3⟩, ⟨2⟩]] ?_ ?_ ?_
  · decide
  · decide +kernel
  · decide +kernel

theorem runAll_couple_alone :
    ∃ answers, Machine.runAll (couple true).host 40
        ([⟨1⟩, ⟨2⟩, ⟨1⟩].map fun id => ⟨[], { id }, .immutable⟩) { state := () } = .ok answers ∧
      List.Forall₂ ((couple true).AnsweredAlone coupleValue) [⟨1⟩, ⟨2⟩, ⟨1⟩] answers := by
  have hends : (Machine.runAll (couple true).host 40
      ([⟨1⟩, ⟨2⟩, ⟨1⟩].map fun id => ⟨[], { id }, .immutable⟩) { state := () }).isOk = true := by
    decide +kernel
  have halone := (runAll_alone (couple true) (couple_unplaced true) [⟨1⟩, ⟨2⟩] coupleValue
    couple_steady [⟨1⟩, ⟨2⟩, ⟨1⟩] (by decide) {}).1 40
  cases hrun : Machine.runAll (couple true).host 40
      ([⟨1⟩, ⟨2⟩, ⟨1⟩].map fun id => ⟨[], { id }, .immutable⟩) { state := () } with
  | error fault =>
    rw [hrun] at hends
    cases hends
  | ok answers => exact ⟨answers, rfl, halone answers hrun⟩

/-! ### Questions -/

/-- Where there is a steady assignment, a question that is asked under its own threshold is answered as
the full classification answers it, and both end if there are finitely many keys. -/
theorem ask_eq_holds (graph : TypeGraph) (rules : List Rule) (hgraph : graph.Unplaced)
    (hrules : ∀ rule ∈ rules, rule.target ≠ .calculating) (root : TypeId)
    (value : TypeId → Verdict) (hsteady : graph.Steady rules [root] value) (question : Question) :
    (∀ journal noted answer status left later,
      question.ask graph.host rules { id := root } { state := (), journal } = .ok (answer, left) →
      classify graph.host rules { id := root } (.known .immutable)
        { state := (), journal := noted } = .ok (status, later) →
      answer = question.holds status) ∧
    ((graph.keysBelow { id := root }).Finite → ∀ journal, ∃ steps cut full,
      Machine.run graph.host rules steps { id := root } question.threshold { state := (), journal } =
        .ok cut ∧
      Machine.run graph.host rules steps { id := root } .immutable { state := (), journal } =
        .ok full ∧
      question.holds cut.status = question.holds full.status) := by
  have hstart : ∀ journal, graph.Faithful value ({ state := (), journal } : Context Unit).cache :=
    fun _ => holding_empty graph _
  have hagree : ∀ {steps more journal noted cut full},
      Machine.run graph.host rules steps { id := root } question.threshold { state := (), journal } =
        .ok cut →
      Machine.run graph.host rules more { id := root } .immutable
        { state := (), journal := noted } = .ok full →
      question.holds cut.status = question.holds full.status := by
    intro steps more journal noted cut full hcut hfull
    obtain ⟨⟨found, hfound, happrox⟩, _⟩ :=
      faithful_of_run hgraph hrules hsteady (List.mem_singleton_self root) (hstart _) hcut
    obtain ⟨⟨exact, hexact, hsame⟩, _⟩ :=
      faithful_of_run hgraph hrules hsteady (List.mem_singleton_self root) (hstart _) hfull
    rw [hfound, hexact, hsame.eq_of_immutable]
    exact question.holds_eq_of_approximates happrox
  constructor
  · intro journal noted answer status left later hask hclassify
    obtain ⟨cut, hcut, rfl⟩ := Question.classify_of_ask hask
    obtain ⟨cutAnswer, hcutRun, rfl⟩ := run_of_classify hcut
    obtain ⟨full, hfullRun, rfl⟩ := run_of_classify hclassify
    exact hagree hcutRun hfullRun
  · intro hkeys journal
    obtain ⟨first, cut, hcut⟩ :=
      exists_run_of_finite rules question.threshold (hstart journal) hkeys
    obtain ⟨second, full, hfull⟩ := exists_run_of_finite rules .immutable (hstart journal) hkeys
    exact ⟨max first second, cut, full,
      Machine.run_ok_of_le hcut (Nat.le_max_left first second),
      Machine.run_ok_of_le hfull (Nat.le_max_right first second), hagree hcut hfull⟩

/-- A list: a record that holds a box that can be written, and the rest of the list or nothing. -/
def chain : TypeGraph where
  shape id :=
    match id.index with
    | 1 => .object .plain
    | 2 => .union [⟨1⟩, ⟨0⟩]
    | 3 => .object .plain
    | _ => .primitive
  properties id :=
    match id.index with
    | 1 => [.readonly "rest" ⟨2⟩, .readonly "box" ⟨3⟩]
    | 3 => [{ name := "content", type := ⟨0⟩ }]
    | _ => []
  callable _ := false
  isReference _ := false
  typeArguments _ := []
  indexSignature _ _ := none
  identity id := ⟨id.index⟩
  typeName ref := { evaluated := if ref.id.index = 3 then "Box" else "List" }
  declarationFiles _ := []
  program := { currentDirectory := "/" }

theorem chain_unplaced : chain.Unplaced := by
  refine unplaced_of_index (fun _ => rfl) ?_
  intro id whenTrue whenFalse h
  simp only [chain] at h
  split at h <;> cases h

/-- Boxes that are found mutable are taken for deeply read-only. -/
def trustRule : Rule :=
  { specifier := { names := ["Box"] }, target := .known .readonlyDeep, origin := some (.known .mutable) }

/-- The rest of a list is met under way only, and so is judged by its end alone. -/
def chainValue (id : TypeId) : Verdict :=
  match id.index with
  | 1 => .known .readonlyDeep
  | 3 => .known .readonlyDeep
  | _ => .known .immutable

theorem chain_steady : chain.Steady [trustRule] [⟨1⟩] chainValue := by
  refine steady_of_closed [[⟨1⟩], [⟨2⟩, ⟨1⟩], [⟨0⟩, ⟨2⟩, ⟨1⟩], [⟨3⟩, ⟨1⟩], [⟨0⟩, ⟨3⟩, ⟨1⟩]] ?_ ?_ ?_
  · decide
  · decide +kernel
  · decide +kernel

theorem ask_chain_eq_holds :
    ∃ status later, classify chain.host [trustRule] ⟨⟨1⟩, none⟩ (.known .immutable) { state := () } =
        .ok (status, later) ∧
      ∀ question : Question, ∃ left,
        question.ask chain.host [trustRule] ⟨⟨1⟩, none⟩ { state := () } =
          .ok (question.holds status, left) := by
  have hends : (classify chain.host [trustRule] ⟨⟨1⟩, none⟩ (.known .immutable)
      { state := () }).isOk = true := by
    decide +kernel
  have hasks : ∀ question ∈ Question.all, (question.ask chain.host [trustRule] ⟨⟨1⟩, none⟩
      { state := () }).isOk = true := by
    decide +kernel
  cases hfull : classify chain.host [trustRule] ⟨⟨1⟩, none⟩ (.known .immutable) { state := () } with
  | error fault =>
    rw [hfull] at hends
    cases hends
  | ok found =>
    refine ⟨found.1, found.2, rfl, fun question => ?_⟩
    have hanswer := hasks question (by cases question <;> decide)
    cases hask : question.ask chain.host [trustRule] ⟨⟨1⟩, none⟩ { state := () } with
    | error fault =>
      rw [hask] at hanswer
      cases hanswer
    | ok answered =>
      have heq := (ask_eq_holds chain [trustRule] chain_unplaced (by simp [trustRule]) ⟨1⟩ chainValue
        chain_steady question).1 {} {} answered.1 found.1 answered.2 found.2 hask hfull
      exact ⟨answered.2, by rw [← heq]⟩

/-- A choice between a record and one of two choices that lead to each other, the other of which leads to
a box that can be written. -/
def detour : TypeGraph where
  shape id :=
    match id.index with
    | 1 => .union [⟨2⟩, ⟨0⟩]
    | 2 => .union [⟨1⟩, ⟨3⟩]
    | 3 => .object .plain
    | 4 => .object .plain
    | 5 => .union [⟨4⟩, ⟨1⟩]
    | _ => .primitive
  properties id :=
    match id.index with
    | 3 => [{ name := "content", type := ⟨0⟩ }]
    | 4 => [.readonly "size" ⟨0⟩, .readonly "inner" ⟨2⟩]
    | _ => []
  callable _ := false
  isReference _ := false
  typeArguments _ := []
  indexSignature _ _ := none
  identity id := ⟨id.index⟩
  typeName _ := { evaluated := "Choice" }
  declarationFiles _ := []
  program := { currentDirectory := "/" }

/-- Asked whether the choice is mutable, the walk over the record ends at its first property, and the two
choices are then entered from the other side. -/
theorem ask_detour_ne_holds :
    (Question.isMutable.ask detour.host [] ⟨⟨5⟩, none⟩ { state := () }).toOption.map (·.1) =
      some true ∧
    (classify detour.host [] ⟨⟨5⟩, none⟩ (.known .immutable) { state := () }).toOption.map
      (fun found => Question.isMutable.holds found.1) = some false := by
  decide +kernel

end TypeGraph

end Immutability

import Immutability.Proofs.Bounds
import Immutability.Proofs.CacheInvariants

/-!
# Self-consistent readings

An assignment of verdicts to types is self-consistent if it asks no more of a type than the rule that
forces it or, without one, than what the type answers when its children answer by the assignment. In a
graph with cycles there may be many, and none need be what a classification finds. But no type is ever
found to be lower than a self-consistent assignment has it (`runAll_above`).

What classifications keep is that no entry is lower than the assignment. A type that is met again on the
way down its own cycle replies with an unknown verdict, which is above all others, so it lowers nothing.
-/

set_option autoImplicit false

namespace Immutability.TypeGraph

/-- An assignment that asks no more of a type than the rule that forces it, or else than what the
structure of the type answers to the assignment. -/
structure SelfConsistent (graph : TypeGraph) (rules : List Rule) (value : TypeId → Verdict) : Prop where
  of_rule : ∀ {id : TypeId} {rule : Rule}, graph.shape id ≠ .error →
    Rule.find? rules (graph.host.subject () { id }) = some rule →
    ∃ target, rule.target = .settled target ∧ value id ≤ target
  of_structure : ∀ {id : TypeId}, graph.shape id ≠ .error →
    Rule.find? rules (graph.host.subject () { id }) = none →
    ∃ verdict, graph.Responds (fun child reply => reply = value child.id) .immutable id verdict ∧
      value id ≤ verdict

variable {graph : TypeGraph} {rules : List Rule} {value : TypeId → Verdict} {id : TypeId}
  {ref : TypeRef} {threshold : Level} {verdict : Verdict}

theorem Responds.eq_structural
    (h : graph.Responds (fun child reply => reply = value child.id) .immutable id verdict) :
    verdict = graph.structural (fun ref => value ref.id) id := by
  have hexact : graph.Responds (RepliesUpTo (fun ref => value ref.id) .immutable) .immutable id
      verdict := by
    refine h.mono ?_
    rintro child reply rfl
    exact .exact _
  exact hexact.approximates.eq_of_immutable

theorem responds_structural (graph : TypeGraph) (value : TypeId → Verdict) (id : TypeId) :
    graph.Responds (fun child reply => reply = value child.id) .immutable id
      (graph.structural (fun ref => value ref.id) id) := by
  have hreplies : ∀ child : TypeRef, ∃ reply, reply = value child.id := fun _ => ⟨_, rfl⟩
  obtain ⟨verdict, h⟩ := graph.exists_responds hreplies .immutable id
  rwa [← h.eq_structural]

theorem Responds.structural_le
    (hsingle : ∀ members, graph.shape id = .intersection members → graph.SingleIndex members)
    (h : graph.Responds (RepliesFrom fun ref => value ref.id) .immutable id verdict) :
    graph.structural (fun ref => value ref.id) id ≤ verdict := by
  cases h with
  | leaf ha => exact (eq_structural_of_leaf _ ha).ge
  | walk ha hyields => exact le_of_walk hsingle ha hyields

/-! ### What each way into a type calls for -/

theorem find?_of_demand_forced {target : Status}
    (h : graph.demand rules ref threshold = .forced target) :
    graph.shape ref.id ≠ .error ∧ ∃ rule,
      Rule.find? rules (graph.host.subject () ref) = some rule ∧ rule.target = target := by
  unfold demand at h
  split at h
  · cases h
  · next hshape =>
    refine ⟨hshape, ?_⟩
    split at h
    · cases h
    · next rule hrule =>
      split at h
      · cases h
        exact ⟨rule, hrule, rfl⟩
      · cases h

/-- Where no rule has an origin, only a type that no rule picks is judged. -/
theorem find?_of_demand_judged (hrules : ∀ rule ∈ rules, rule.origin = none) {judged : Level}
    {pending : Option PendingRule}
    (h : graph.demand rules ref threshold = .judged judged pending) :
    graph.shape ref.id ≠ .error ∧ Rule.find? rules (graph.host.subject () ref) = none ∧
      judged = threshold ∧ pending = none := by
  unfold demand at h
  split at h
  · cases h
  · next hshape =>
    split at h
    · next hnone =>
      cases h
      exact ⟨hshape, hnone, rfl, rfl⟩
    · next rule hrule =>
      rw [hrules rule (List.mem_of_find?_eq_some hrule)] at h
      cases h

theorem SelfConsistent.keeps (hvalue : graph.SelfConsistent rules value)
    (hsingle : ∀ id members, graph.shape id = .intersection members → graph.SingleIndex members)
    (hrules : ∀ rule ∈ rules, rule.origin = none) :
    graph.Keeps rules (fun threshold _ => threshold = .immutable)
      (fun id entry => ∃ found, entry.value = .settled found ∧ value id ≤ found)
      (fun _ _ => RepliesFrom fun ref => value ref.id) where
  marked _ := Verdict.le_unknown _
  entry _ hentry _ := hentry
  nothing _ _ _ := Verdict.le_unknown _
  forced _ hd := by
    obtain ⟨hshape, rule, hrule, rfl⟩ := find?_of_demand_forced hd
    exact hvalue.of_rule hshape hrule
  judged hway hd hresponds := by
    obtain ⟨hshape, hnone, rfl, rfl⟩ := find?_of_demand_judged hrules hd
    subst hway
    obtain ⟨answer, hanswer, hle⟩ := hvalue.of_structure hshape hnone
    rw [hanswer.eq_structural] at hle
    exact ⟨_, rfl, hle.trans (hresponds.structural_le (hsingle _))⟩
  child hway hd _ _ := by
    obtain ⟨_, _, rfl, _⟩ := find?_of_demand_judged hrules hd
    exact hway

/-! ### Requests -/

/-- An answer for a type, and every entry of the cache it leaves behind, is settled and no lower than the
assignment has it. -/
def StaysAbove (graph : TypeGraph) (value : TypeId → Verdict) (root : TypeId)
    (answer : Machine.Answer Unit) : Prop :=
  (∃ found, answer.status = .settled found ∧ value root ≤ found) ∧
  ∀ id entry, answer.context.cache.get? (.identity (graph.identity id)) = some entry →
    ∃ found, entry.value = .settled found ∧ value id ≤ found

theorem staysAbove_of_runAll (hgraph : graph.Unplaced)
    (hsingle : ∀ id members, graph.shape id = .intersection members → graph.SingleIndex members)
    (hrules : ∀ rule ∈ rules, rule.origin = none) (hvalue : graph.SelfConsistent rules value)
    {roots : List TypeId} {steps : Nat} {journal : Journal} {answers : List (Machine.Answer Unit)}
    (h : Machine.runAll graph.host steps (roots.map fun id => ⟨rules, { id }, .immutable⟩)
      { state := (), journal } = .ok answers) :
    List.Forall₂ (graph.StaysAbove value) roots answers := by
  let good (context : Context Unit) : Prop :=
    graph.Holding (fun id entry => ∃ found, entry.value = .settled found ∧ value id ≤ found) []
      context.cache
  have hstart : good { state := (), journal } := holding_empty graph _
  refine Machine.forall₂_of_runAll ?_ hstart h
  intro root _ context answer hgood hrun
  obtain ⟨hstatus, hfinal⟩ := holding_of_run hgraph (hvalue.keeps hsingle hrules) rfl hgood hrun
  exact ⟨⟨hstatus, fun id entry => hfinal.settled id entry List.not_mem_nil⟩, hfinal⟩

/-! ### Graphs in which nothing can be written -/

/-- Every property and index signature is read-only, and so is every tuple. -/
structure AllReadonly (graph : TypeGraph) : Prop where
  properties : ∀ id, ∀ property ∈ graph.properties id, property.flags.readonly = true
  indexSignatures : ∀ id kind signature, graph.indexSignature id kind = some signature →
    signature.readonly = true
  tuples : ∀ id, graph.shape id ≠ .object (.tuple false)

variable {constant : TypeRef → Verdict}

theorem AllReadonly.le_indexBound (h : graph.AllReadonly)
    (hconstant : ∀ ref, .known .immutable ≤ constant ref) (kind : IndexKind) (sources : List TypeId) :
    .known .immutable ≤ graph.indexBound constant kind sources := by
  apply Verdict.le_joinAll
  intro verdict hmem
  obtain ⟨source, _, rfl⟩ := List.mem_map.mp hmem
  unfold indexVerdict
  cases hsignature : graph.indexSignature source kind with
  | none => exact Verdict.le_unknown _
  | some signature =>
    dsimp only
    rw [h.indexSignatures source kind signature hsignature, Bool.not_true, if_neg Bool.false_ne_true]
    split
    · exact le_refl _
    · exact Verdict.raise_le_raise (hconstant _)

theorem le_meetAll_map (hconstant : ∀ ref, .known .immutable ≤ constant ref) (refs : List TypeRef) :
    .known .immutable ≤ Verdict.meetAll (refs.map constant) := by
  apply Verdict.le_meetAll
  intro verdict hmem
  obtain ⟨ref, _, rfl⟩ := List.mem_map.mp hmem
  exact hconstant ref

theorem AllReadonly.le_surfaceLevel (h : graph.AllReadonly)
    (hconstant : ∀ ref, .known .immutable ≤ constant ref) (id : TypeId) (isTuple : Bool)
    (sources : List TypeId) :
    .immutable ≤ graph.surfaceLevel constant .immutable id isTuple sources := by
  have hexempt : ∀ property ∈ graph.properties id, property.exempt isTuple = true := by
    intro property hmem
    rw [Property.exempt, h.properties id property hmem, Bool.true_or, Bool.true_or]
  have hwritable : (graph.properties id).any (Property.writable isTuple) = false := by
    rw [List.any_eq_false]
    intro property hmem
    simp [Property.writable, hexempt property hmem]
  have hmethods : Property.methodBound isTuple (graph.properties id) = .immutable := by
    unfold Property.methodBound
    rw [if_neg]
    simp only [List.any_eq_true, not_exists, not_and]
    intro property hmem
    simp [hexempt property hmem]
  have hbound : .known .immutable ≤ graph.surfaceBound constant id isTuple sources := by
    apply Verdict.le_meetAll
    simp only [List.forall_mem_cons, List.not_mem_nil, false_implies, implies_true, and_true]
    refine ⟨?_, le_meetAll_map hconstant _, ?_, h.le_indexBound hconstant _ _,
      h.le_indexBound hconstant _ _⟩
    · rw [hmethods]
    · unfold argumentBound
      split
      · exact le_meetAll_map hconstant _
      · exact Verdict.le_unknown _
  unfold surfaceLevel
  rw [hwritable, if_neg Bool.false_ne_true]
  exact (Level.cap_le_cap (le_refl Level.immutable) hbound).trans (le_max_right _ _)

theorem AllReadonly.le_structural (h : graph.AllReadonly)
    (hconstant : ∀ ref, .known .immutable ≤ constant ref) (id : TypeId) :
    .known .immutable ≤ graph.structural constant id := by
  unfold structural
  split
  · exact Verdict.le_unknown _
  · exact le_refl _
  · exact le_meetAll_map hconstant _
  · exact le_meetAll_map hconstant [_, _]
  · exact Verdict.known_le_known.mpr (h.le_surfaceLevel hconstant _ _ _)
  · next kind hshape =>
    split
    · exact le_refl _
    · split
      · exact absurd hshape (h.tuples id)
      · exact Verdict.known_le_known.mpr (h.le_surfaceLevel hconstant _ _ _)
      · exact Verdict.known_le_known.mpr (h.le_surfaceLevel hconstant _ _ _)
      · exact Verdict.known_le_known.mpr (h.le_surfaceLevel hconstant _ _ _)

theorem AllReadonly.selfConsistent (h : graph.AllReadonly) :
    graph.SelfConsistent [] fun _ => .known .immutable where
  of_rule _ hrule := nomatch hrule
  of_structure {id} _ _ :=
    ⟨_, graph.responds_structural (fun _ => .known .immutable) id,
      h.le_structural (fun _ => le_refl _) id⟩

/-- However requests follow one another through one cache, and whatever cycles there are among the types,
no answer and no entry falls below a self-consistent assignment. So where nothing can be written, every
answer is immutable or unknown. -/
theorem runAll_above (graph : TypeGraph) (rules : List Rule) (hgraph : graph.Unplaced)
    (hsingle : ∀ id members, graph.shape id = .intersection members → graph.SingleIndex members)
    (hrules : ∀ rule ∈ rules, rule.origin = none) (roots : List TypeId) (steps : Nat)
    (journal : Journal) (answers : List (Machine.Answer Unit))
    (h : Machine.runAll graph.host steps (roots.map fun id => ⟨rules, { id }, .immutable⟩)
      { state := (), journal } = .ok answers) :
    (∀ value, graph.SelfConsistent rules value →
      List.Forall₂ (graph.StaysAbove value) roots answers) ∧
    (graph.AllReadonly → rules = [] → List.Forall₂
      (fun _ answer => answer.status = .known .immutable ∨ answer.status = .unknown)
      roots answers) := by
  have habove : ∀ value, graph.SelfConsistent rules value →
      List.Forall₂ (graph.StaysAbove value) roots answers := fun value hvalue =>
    staysAbove_of_runAll hgraph hsingle hrules hvalue h
  refine ⟨habove, ?_⟩
  rintro hreadonly rfl
  refine (habove _ hreadonly.selfConsistent).imp ?_
  rintro root answer ⟨⟨found, hstatus, hle⟩, _⟩
  rw [hstatus]
  exact (Verdict.eq_of_immutable_le hle).imp (congrArg _) (congrArg _)

/-- Two records that hold each other. One of them is also indexed by strings, and the other holds a box
that can be written. -/
def ring : TypeGraph where
  shape id :=
    match id.index with
    | 1 => .object .plain
    | 2 => .object .plain
    | 3 => .object .plain
    | _ => .primitive
  properties id :=
    match id.index with
    | 1 => [.readonly "next" ⟨2⟩]
    | 2 => [.readonly "back" ⟨1⟩, .readonly "box" ⟨3⟩]
    | 3 => [{ name := "content", type := ⟨0⟩ }]
    | _ => []
  callable _ := false
  isReference _ := false
  typeArguments _ := []
  indexSignature id kind :=
    if id.index = 1 ∧ kind = .string then some { value := ⟨2⟩, readonly := true } else none
  identity id := ⟨id.index⟩
  typeName ref := { evaluated := if ref.id.index = 3 then "Box" else "Other" }
  declarationFiles _ := []
  program := { currentDirectory := "/" }

theorem ring_unplaced : ring.Unplaced := by
  refine unplaced_of_index (fun _ => rfl) ?_
  intro id whenTrue whenFalse h
  simp only [ring] at h
  split at h <;> cases h

def boxRule : Rule := { specifier := { names := ["Box"] }, target := .known .readonlyDeep }

theorem ring_selfConsistent : ring.SelfConsistent [boxRule] fun _ => .known .readonlyDeep where
  of_rule _ hrule := by
    rw [List.mem_singleton.mp (List.mem_of_find?_eq_some hrule)]
    exact ⟨_, rfl, le_refl _⟩
  of_structure {id} _ hnone := by
    refine ⟨_, ring.responds_structural (fun _ => .known .readonlyDeep) id, ?_⟩
    obtain ⟨index⟩ := id
    match index with
    | 0 => decide
    | 1 => decide
    | 2 => decide
    | 3 =>
      have hpicks : boxRule.specifier.picks (ring.host.subject () { id := ⟨3⟩ }) = true := by
        decide +kernel
      have hsome : Rule.find? [boxRule] (ring.host.subject () { id := ⟨3⟩ }) = some boxRule :=
        List.find?_cons_of_pos hpicks
      rw [hsome] at hnone
      cases hnone
    | _ + 4 => exact Verdict.known_le_known.mpr (Level.le_immutable _)

/-- With the rule, the records are deeply read-only at least, whichever is asked for first. -/
theorem runAll_ring_above :
    ∃ answers, Machine.runAll ring.host 40
        ([⟨2⟩, ⟨1⟩].map fun id => ⟨[boxRule], { id }, .immutable⟩) { state := () } = .ok answers ∧
      List.Forall₂ (ring.StaysAbove fun _ => .known .readonlyDeep) [⟨2⟩, ⟨1⟩] answers := by
  have hsingle : ∀ id members, ring.shape id = .intersection members →
      ring.SingleIndex members := by
    intro id members h
    simp only [ring] at h
    split at h <;> cases h
  have hends : (Machine.runAll ring.host 40
      ([⟨2⟩, ⟨1⟩].map fun id => ⟨[boxRule], { id }, .immutable⟩) { state := () }).isOk = true := by
    decide +kernel
  cases hrun : Machine.runAll ring.host 40
      ([⟨2⟩, ⟨1⟩].map fun id => ⟨[boxRule], { id }, .immutable⟩) { state := () } with
  | error fault =>
    rw [hrun] at hends
    cases hends
  | ok answers =>
    have habove := runAll_above ring [boxRule] ring_unplaced hsingle (by simp [boxRule]) [⟨2⟩, ⟨1⟩] 40
      {} answers hrun
    exact ⟨answers, rfl, habove.1 _ ring_selfConsistent⟩

end Immutability.TypeGraph

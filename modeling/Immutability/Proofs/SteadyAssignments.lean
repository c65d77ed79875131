import Immutability.Proofs.CacheInvariants

/-!
# Ways through a graph

A classification goes down from type to type. The types on its way are marked, and a child that is one of
them contributes nothing. What is found for a type is filed all the same, as if nothing had been left out,
and answers later requests. So in a graph with cycles, what is found for a type may depend on the way on
which it was reached first.

An assignment is steady if it does not: whichever way leads from a root to a type, the type is judged as
assigned when the types of the way are left out. Then every entry that is ever filed stands for the
assigned verdict (`Steady.keeps`), and so does every answer, whatever the threshold is. A graph without
cycles has a steady assignment, the exact verdicts (`steady_verdict`).
-/

set_option autoImplicit false

namespace Immutability.TypeGraph

/-- The verdicts of an assignment, less those of the types under way. -/
def masked (value : TypeId → Verdict) (underWay : List TypeId) (ref : TypeRef) : Verdict :=
  if ref.id ∈ underWay then .unknown else value ref.id

/-- The ways that a classification may take from some roots, the last type first. A type is entered if the
walk of the one before may ask for it, under some threshold, and it is not under way already. -/
inductive Way (graph : TypeGraph) (rules : List Rule) (value : TypeId → Verdict)
    (roots : List TypeId) : List TypeId → Prop where
  | root {root : TypeId} : root ∈ roots → Way graph rules value roots [root]
  | child {id : TypeId} {before : List TypeId} {child : TypeRef} {threshold judged : Level}
      {pending : Option PendingRule} :
      Way graph rules value roots (id :: before) →
      graph.demand rules { id } threshold = .judged judged pending →
      graph.AsksFor (RepliesUpTo (masked value (id :: before)) judged) judged id child →
      child.id ∉ id :: before →
      Way graph rules value roots (child.id :: id :: before)

/-- Whichever way leads to a type, it is judged as assigned when the types of the way are left out. -/
def Steady (graph : TypeGraph) (rules : List Rule) (roots : List TypeId) (value : TypeId → Verdict) :
    Prop :=
  ∀ id before, graph.Way rules value roots (id :: before) →
    graph.judge rules (masked value (id :: before)) { id } = value id

variable {graph : TypeGraph} {rules : List Rule} {roots : List TypeId} {value : TypeId → Verdict}
  {underWay : List TypeId}

theorem masked_eq {child : TypeRef} (h : child.id ∉ underWay) :
    masked value underWay child = value child.id := if_neg h

theorem masked_eq_unknown {child : TypeRef} (h : child.id ∈ underWay) :
    masked value underWay child = .unknown := if_pos h

/-- A cache with no marks whose entries stand for the verdicts of an assignment. -/
abbrev Faithful (graph : TypeGraph) (value : TypeId → Verdict) (cache : Cache) : Prop :=
  graph.Holding (fun id entry => entry.StandsFor (value id)) [] cache

theorem Steady.keeps (hrules : ∀ rule ∈ rules, rule.target ≠ .calculating)
    (hsteady : graph.Steady rules roots value) :
    graph.Keeps rules (fun _ => graph.Way rules value roots)
      (fun id entry => entry.StandsFor (value id))
      (fun underWay threshold => RepliesUpTo (masked value underWay) threshold) where
  marked hmem := by
    rw [RepliesUpTo, masked_eq_unknown hmem]
    exact .exact .unknown
  entry hfree hentry hs := by
    obtain ⟨found, hvalue, hfound⟩ := hentry.approximates hs
    refine ⟨found, hvalue, ?_⟩
    rwa [RepliesUpTo, masked_eq hfree]
  nothing {id underWay threshold} hfree hway hd := by
    rw [RepliesUpTo, masked_eq hfree, ← hsteady id underWay hway, judge_of_nothing graph rules _ hd]
    exact .exact .unknown
  forced {id underWay threshold target} hway hd := by
    rw [← hsteady id underWay hway, judge_of_forced graph rules _ hd]
    cases target with
    | calculating => exact absurd rfl (ne_calculating_of_forced hrules hd)
    | settled found => exact .intro (.exact found)
  judged {id underWay threshold judged pending verdict} hway hd hresponds := by
    rw [← hsteady id underWay hway]
    exact standsFor_conclusion graph rules _ hd hresponds.approximates
  child hway hd hasks hfree := hway.child hd hasks hfree

/-- On a faithful cache a request at a root is answered by an approximation of what the root is
assigned. -/
theorem faithful_of_run (hgraph : graph.Unplaced)
    (hrules : ∀ rule ∈ rules, rule.target ≠ .calculating)
    (hsteady : graph.Steady rules roots value) {root : TypeId} (hroot : root ∈ roots)
    {threshold : Level} {steps : Nat} {context : Context Unit} {answer : Machine.Answer Unit}
    (hfaithful : graph.Faithful value context.cache)
    (h : Machine.run graph.host rules steps { id := root } threshold context = .ok answer) :
    (∃ found, answer.status = .settled found ∧ Approximates threshold found (value root)) ∧
      graph.Faithful value answer.context.cache := by
  obtain ⟨⟨found, hstatus, happrox⟩, hfinal⟩ :=
    holding_of_run hgraph (hsteady.keeps hrules) (.root hroot) hfaithful h
  rw [RepliesUpTo, masked_eq List.not_mem_nil] at happrox
  exact ⟨⟨found, hstatus, happrox⟩, hfinal⟩

/-! ### Steady assignments

Where there are no cycles, the exact verdicts are steady. In a finite graph all ways can be listed. -/

/-- Every type of a way reaches its last one, below which there is no cycle if there is none below the
roots. -/
theorem Way.reaches (hgraph : graph.Unplaced) (hroots : ∀ root ∈ roots, Acc graph.Child { id := root })
    (h : graph.Way rules value roots underWay) :
    ∀ last before, underWay = last :: before → Acc graph.Child { id := last } ∧
      ∀ other ∈ last :: before, graph.Reaches { id := other } { id := last } := by
  induction h with
  | root hroot =>
    rintro last before ⟨⟩
    refine ⟨hroots _ hroot, fun other hmem => ?_⟩
    rw [List.mem_singleton.mp hmem]
    exact .refl
  | @child id before child _ _ _ _ _ hasks _ ih =>
    rintro _ _ ⟨⟩
    have hchild := hasks.mem_children
    have hnode := hgraph.node_eq_none hchild
    obtain ⟨childId, childNode⟩ := child
    cases hnode
    obtain ⟨hacc, hreaches⟩ := ih id before rfl
    refine ⟨hacc.inv hchild, fun other hmem => ?_⟩
    rcases List.mem_cons.mp hmem with rfl | hother
    · exact .refl
    · exact (hreaches other hother).tail hchild

/-- Where there are no cycles the exact verdicts are steady: no way leads back to a type on it. -/
theorem steady_verdict (hgraph : graph.Unplaced)
    (hroots : ∀ root ∈ roots, Acc graph.Child { id := root }) :
    graph.Steady rules roots fun id => graph.verdict rules { id } := by
  intro id before hway
  obtain ⟨hacc, hreaches⟩ := hway.reaches hgraph hroots id before rfl
  refine Eq.trans ?_ (verdict_eq graph rules hacc).symm
  apply judge_congr
  intro child hchild
  have hnode := hgraph.node_eq_none hchild
  obtain ⟨childId, childNode⟩ := child
  cases hnode
  refine masked_eq fun hmem => ?_
  exact not_reaches_of_child hacc hchild (hreaches childId hmem)

theorem Way.mem_of_closed {ways : List (List TypeId)} (hroots : ∀ root ∈ roots, [root] ∈ ways)
    (hclosed : ∀ way ∈ ways, ∀ id ∈ way.head?, ∀ child ∈ graph.children id, child.id ∉ way →
      child.id :: way ∈ ways)
    (h : graph.Way rules value roots underWay) : underWay ∈ ways := by
  induction h with
  | root hroot => exact hroots _ hroot
  | child _ _ hasks hfree ih => exact hclosed _ ih _ rfl _ hasks.mem_children hfree

/-- An assignment is steady if it is along a list of ways that holds all that prolong them. -/
theorem steady_of_closed (ways : List (List TypeId)) (hroots : ∀ root ∈ roots, [root] ∈ ways)
    (hclosed : ∀ way ∈ ways, ∀ id ∈ way.head?, ∀ child ∈ graph.children id, child.id ∉ way →
      child.id :: way ∈ ways)
    (hjudge : ∀ way ∈ ways, ∀ id ∈ way.head?, graph.judge rules (masked value way) { id } = value id) :
    graph.Steady rules roots value :=
  fun _ _ hway => hjudge _ (hway.mem_of_closed hroots hclosed) _ rfl

end Immutability.TypeGraph

import Immutability.Proofs.Acyclic

/-!
# Types that were written out

The branches of a choice may be written out at a place, and then their verdicts are filed under the place
as well. If every place is of one type, an entry under a place stands for the exact verdict of that type,
and without rules the verdict does not depend on how the type was written. So an evaluation below which
there is no cycle comes back with the exact verdict, whatever was written out.
-/

set_option autoImplicit false

namespace Immutability.TypeGraph

def Branch (graph : TypeGraph) (ref : TypeRef) : Prop :=
  ∃ id whenTrue whenFalse, graph.shape id = .conditional whenTrue whenFalse ∧
    ref ∈ [whenTrue, whenFalse]

/-- A graph that tells its types apart and in which every place is of one type. -/
structure Placed (graph : TypeGraph) : Prop where
  identity_injective : Function.Injective graph.identity
  branches : ∀ {one two : TypeRef}, graph.Branch one → graph.Branch two → one.node = two.node →
    one.node ≠ none → one.id = two.id

/-- The ways in which a type can come up in a walk. -/
def Encountered (graph : TypeGraph) (ref : TypeRef) : Prop := ref.node = none ∨ graph.Branch ref

variable {graph : TypeGraph} {ref other child below : TypeRef} {threshold : Level} {cache : Cache}

theorem encountered_of_child {id : TypeId} (hc : child ∈ graph.children id) : graph.Encountered child := by
  unfold children at hc
  cases hs : graph.shape id with
  | conditional whenTrue whenFalse =>
    rw [hs] at hc
    exact Or.inr ⟨id, whenTrue, whenFalse, hs, hc⟩
  | error =>
    rw [hs] at hc
    cases hc
  | primitive =>
    rw [hs] at hc
    cases hc
  | _ =>
    rw [hs] at hc
    exact Or.inl (mem_bare.mp hc).1

theorem encountered_of_reaches (hencountered : graph.Encountered ref) (h : graph.Reaches ref below) :
    graph.Encountered below := by
  cases h with
  | refl => exact hencountered
  | tail _ hc => exact encountered_of_child hc

theorem Placed.id_eq_of_files (hgraph : graph.Placed) (href : graph.Encountered ref)
    (hother : graph.Encountered other) (h : graph.Files ref (graph.key other)) : other.id = ref.id := by
  rcases other with ⟨id, _ | node⟩
  · rcases h with hkey | hkey
    · exact hgraph.identity_injective (CacheKey.identity.inj hkey)
    · cases hnode : ref.node <;> rw [hnode] at hkey <;> cases hkey
  · rcases h with hkey | hkey
    · cases hkey
    · -- both were written out at the same place
      have hsame : ref.node = some node := by
        cases hnode : ref.node with
        | none =>
          rw [hnode] at hkey
          cases hkey
        | some place =>
          rw [hnode] at hkey
          cases hkey
          rfl
      have href : graph.Branch ref := href.resolve_left (by simp [hsame])
      have hother : graph.Branch ⟨id, some node⟩ := hother.resolve_left (by simp)
      exact hgraph.branches hother href hsame.symm (by simp)

/-! ### Verdicts without rules -/

theorem acc_of_id (h : Acc graph.Child ref) (hid : other.id = ref.id) : Acc graph.Child other := by
  constructor
  intro child hc
  have hc : child ∈ graph.children ref.id := hid ▸ hc
  exact h.inv hc

theorem judge_nil (value : TypeRef → Verdict) (ref : TypeRef) :
    graph.judge [] value ref = graph.structural value ref.id := by
  unfold judge
  split
  · next hs => rw [structural, hs]
  · rfl

/-- Without rules it does not matter how a type was written. -/
theorem verdict_of_id (hid : other.id = ref.id) : graph.verdict [] other = graph.verdict [] ref := by
  by_cases h : Acc graph.Child ref
  · rw [verdict_eq graph [] h, verdict_eq graph [] (acc_of_id h hid), judge_nil, judge_nil, hid]
  · have hother : ¬ Acc graph.Child other := fun hacc => h (acc_of_id hacc hid.symm)
    rw [verdict, verdict, dif_neg h, dif_neg hother]

theorem verdict_nil (h : Acc graph.Child ref) :
    graph.verdict [] ref = graph.structural (graph.verdict []) ref.id := by
  rw [verdict_eq graph [] h, judge_nil]

/-! ### Evaluations -/

/-- Every entry for a type without a cycle below it is a mark or stands for the exact verdict. -/
def Truthful (graph : TypeGraph) (cache : Cache) : Prop :=
  ∀ ref entry, Acc graph.Child ref → graph.Encountered ref → cache.get? (graph.key ref) = some entry →
    entry.value ≠ .calculating → entry.StandsFor (graph.verdict [] ref)

theorem truthful_empty (graph : TypeGraph) : graph.Truthful {} := by
  intro ref entry _ _ hget _
  cases hkey : graph.key ref <;> rw [hkey] at hget <;> simp [Cache.get?] at hget

theorem Truthful.file (hgraph : graph.Placed) (h : graph.Truthful cache)
    (hencountered : graph.Encountered ref) {entry : Entry}
    (hentry : entry.value ≠ .calculating → entry.StandsFor (graph.verdict [] ref)) :
    graph.Truthful (graph.file ref entry cache) := by
  intro other found hacc hother hget hvalue
  rw [get?_file] at hget
  split at hget
  · next hfiles =>
    cases hget
    rw [verdict_of_id (hgraph.id_eq_of_files hencountered hother hfiles)]
    exact hentry hvalue
  · exact h other found hacc hother hget hvalue

/-- An evaluation comes back with an approximation of the exact verdict and keeps the cache truthful. -/
def ComesBack (graph : TypeGraph) (ref : TypeRef) (threshold : Level) (cache : Cache) : Prop :=
  ∃ found final, graph.Evaluates [] ref threshold cache (.settled found) final ∧
    Approximates threshold found (graph.verdict [] ref) ∧ graph.Truthful final

theorem comesBack_of_entry (hgraph : graph.Placed) (hencountered : graph.Encountered ref)
    {found : Verdict} {middle : Cache} (hmiddle : graph.Truthful middle)
    (happrox : Approximates threshold found (graph.verdict [] ref))
    (h : graph.Evaluates [] ref threshold cache (conclusion threshold none found).value
      (graph.file ref (conclusion threshold none found) middle)) :
    graph.ComesBack ref threshold cache :=
  ⟨found, _, h, happrox, hmiddle.file hgraph hencountered fun _ => .intro happrox⟩

/-- Nothing below a child bears the mark of its parent, since there would be a cycle. -/
theorem Placed.clear_of_child (hgraph : graph.Placed) (hacc : Acc graph.Child ref)
    (hencountered : graph.Encountered ref) (hc : child ∈ graph.children ref.id)
    (hclear : ∀ below, graph.Reaches ref below → ¬ cache.Marked (graph.key below)) {later : Cache}
    (hmarks : ∀ key, later.Marked key → (graph.file ref .inProgress cache).Marked key) :
    ∀ below, graph.Reaches child below → ¬ later.Marked (graph.key below) := by
  intro below hreach hmarked
  rcases marked_or_files_of_marked_file (hmarks _ hmarked) with hfiles | hmarked
  · have hbelow := encountered_of_reaches (encountered_of_child hc) hreach
    have hid := hgraph.id_eq_of_files hencountered hbelow hfiles
    exact not_reaches_of_child (acc_of_id hacc hid) (hid ▸ hc) hreach
  · exact hclear below (.head hc hreach) hmarked

theorem comesBack_of_walk (hgraph : graph.Placed) (hacc : Acc graph.Child ref)
    (hencountered : graph.Encountered ref) (htruthful : graph.Truthful cache)
    (hclear : ∀ below, graph.Reaches ref below → ¬ cache.Marked (graph.key below)) {task : Task}
    (ha : graph.approach ref.id (graph.shape ref.id) threshold = .walk task)
    (he : graph.enter [] ref threshold cache =
      (.frame { ref, threshold, pending := none, task }, graph.file ref .inProgress cache))
    (hchildren : ∀ child ∈ graph.children ref.id, ∀ later, graph.Truthful later →
      (∀ below, graph.Reaches child below → ¬ later.Marked (graph.key below)) →
      graph.ComesBack child threshold later) :
    graph.ComesBack ref threshold cache := by
  have hkeeps : ∀ child, child ∈ graph.children ref.id → ∀ later, (graph.Truthful later ∧
      ∀ key, later.Marked key → (graph.file ref .inProgress cache).Marked key) →
      ∃ status final, graph.Evaluates [] child threshold later status final ∧
        RepliesUpTo (graph.verdict []) threshold child status.settle ∧ (graph.Truthful final ∧
          ∀ key, final.Marked key → (graph.file ref .inProgress cache).Marked key) := by
    rintro child hc later ⟨hlater, hmarks⟩
    obtain ⟨found, final, heval, happrox, hfinal⟩ := hchildren child hc later hlater
      (hgraph.clear_of_child hacc hencountered hc hclear hmarks)
    refine ⟨.settled found, final, heval, happrox, hfinal, fun key hm => hmarks key ?_⟩
    exact marked_of_evaluates (by simp) heval hm
  have hmarked : graph.Truthful (graph.file ref .inProgress cache) :=
    htruthful.file hgraph hencountered fun hvalue => absurd rfl hvalue
  obtain ⟨verdict, final, hfollow, hyields, hfinal, _⟩ := exists_follows _ _ hkeeps
    (fun child => mem_children_of_walk ha) none ⟨hmarked, fun _ hm => hm⟩
  have happrox := approximates_of_walk ha hyields
  rw [← verdict_nil hacc] at happrox
  exact comesBack_of_entry hgraph hencountered hfinal happrox (.of_frame he hfollow)

theorem comesBack_of_acc (hgraph : graph.Placed) (hacc : Acc graph.Child ref)
    (hencountered : graph.Encountered ref) (threshold : Level) (htruthful : graph.Truthful cache)
    (hclear : ∀ below, graph.Reaches ref below → ¬ cache.Marked (graph.key below)) :
    graph.ComesBack ref threshold cache := by
  induction hacc generalizing cache with
  | intro ref hbelow ih =>
    have hacc : Acc graph.Child ref := .intro ref hbelow
    cases he : graph.enter [] ref threshold cache with
    | mk entered middle =>
      cases enters_of_enter he with
      | hit hl =>
        obtain ⟨entry, hget, hs, rfl⟩ := Cache.lookup_eq_hit_iff.mp hl
        have hvalue : entry.value ≠ .calculating := fun hv => hclear ref .refl ⟨entry, hget, hv⟩
        obtain ⟨found, hfound, happrox⟩ := (htruthful ref entry hacc hencountered hget hvalue).approximates hs
        rw [hfound] at he
        exact ⟨found, _, .of_ready he, happrox, htruthful⟩
      | nothing _ hd =>
        refine ⟨.unknown, _, .of_ready he, ?_, htruthful⟩
        rw [verdict_eq graph [] hacc, judge_of_nothing graph [] _ hd]
        exact .exact .unknown
      | forced _ hd =>
        obtain ⟨rule, hmem, _⟩ := mem_of_demand_forced hd
        cases hmem
      | @leaf judged pending found _ hd ha =>
        obtain ⟨rfl, rfl⟩ | ⟨_, rule, hmem, _⟩ := demand_judged_cases hd
        · have hfound := eq_structural_of_leaf (graph.verdict []) ha
          rw [← verdict_nil hacc] at hfound
          have hmarked : graph.Truthful (graph.file ref .inProgress cache) :=
            htruthful.file hgraph hencountered fun hvalue => absurd rfl hvalue
          exact comesBack_of_entry hgraph hencountered hmarked (hfound ▸ .exact found) (.of_ready he)
        · cases hmem
      | @walk judged pending task _ hd ha =>
        obtain ⟨rfl, rfl⟩ | ⟨_, rule, hmem, _⟩ := demand_judged_cases hd
        · refine comesBack_of_walk hgraph hacc hencountered htruthful hclear ha he ?_
          intro child hc later hlater hunmarked
          exact ih child hc (encountered_of_child hc) hlater hunmarked
        · cases hmem

/-- A request without rules for a type below which there is no cycle ends with the exact verdict. -/
theorem Placed.exists_run (hgraph : graph.Placed) (hacc : Acc graph.Child ref)
    (hnode : ref.node = none) (journal : Journal) :
    ∃ steps answer, Machine.run graph.host [] steps ref .immutable { state := (), journal } =
      .ok answer ∧ answer.status = .settled (graph.verdict [] ref) := by
  have hunmarked : ∀ key, ¬ Cache.Marked {} key := by
    rintro key ⟨entry, hget, _⟩
    cases key <;> simp [Cache.get?] at hget
  obtain ⟨found, final, heval, happrox, _⟩ := comesBack_of_acc hgraph hacc (Or.inl hnode) .immutable
    (truthful_empty graph) fun below _ => hunmarked _
  let context : Context Unit := { state := (), journal }
  have hroot : ∀ entry, context.cache.get? (graph.key ref) = some entry →
      entry.value ≠ .calculating :=
    fun entry hget hvalue => hunmarked _ ⟨entry, hget, hvalue⟩
  obtain ⟨steps, answer, hrun, hstatus, _⟩ := run_of_evaluates hroot heval
  exact ⟨steps, answer, hrun, by rw [hstatus, happrox.eq_of_immutable]⟩

end Immutability.TypeGraph

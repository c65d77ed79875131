import Immutability.Proofs.Histories
import Immutability.Proofs.StoreRuns

/-!
# Asking a store

A host is asked one question after another, and its state goes along. The answers of a store do not
depend on what was asked before. Only the first listing of an intersection makes the store grow, and
what it adds are new types: the types that were there are untouched. So a classification over a store is
one over a host that has no state.
-/

set_option autoImplicit false

namespace Immutability

open Relation (ReflTransGen TransGen)

/-! ### Questions to a host -/

namespace Host

inductive Query where
  | shape (id : TypeId)
  | properties (id : TypeId)
  | callable (id : TypeId)
  | isReference (id : TypeId)
  | typeArguments (id : TypeId)
  | indexSignature (id : TypeId) (kind : IndexKind)
  | identity (id : TypeId)
  | typeName (ref : TypeRef)
  | declarationFiles (id : TypeId)

inductive Response where
  | shape (shape : Shape)
  | properties (properties : List Property)
  | truth (value : Bool)
  | types (ids : List TypeId)
  | index (signature : Option IndexSignature)
  | identity (identity : Identity)
  | name (name : TypeName)
  | files (files : List SourceFile)
deriving DecidableEq

namespace Query

def about : Query → TypeId
  | shape id | properties id | callable id | isReference id | typeArguments id | indexSignature id _
  | identity id | declarationFiles id => id
  | typeName ref => ref.id

variable {σ : Type}

def ask (host : Host σ) (state : σ) : Query → Response × σ
  | shape id => (.shape (host.shape state id), state)
  | properties id =>
    (.properties (host.properties state id).properties, (host.properties state id).state)
  | callable id => (.truth (host.callable state id), state)
  | isReference id => (.truth (host.isReference state id), state)
  | typeArguments id => (.types (host.typeArguments state id), state)
  | indexSignature id kind => (.index (host.indexSignature state id kind), state)
  | identity id => (.identity (host.identity state id), state)
  | typeName ref => (.name (host.typeName state ref), state)
  | declarationFiles id => (.files (host.declarationFiles state id), state)

def askAll (host : Host σ) (state : σ) (queries : List Query) : σ :=
  queries.foldl (fun state query => (query.ask host state).2) state

end Query

end Host

namespace Store

open Host (Query)

variable {store later : Store} {identity : TypeId → Identity} {id : TypeId} {query : Query}

theorem gains_ask (identity : TypeId → Identity) (hwhole : store.Whole) (query : Query) :
    Gains store (query.ask (hostWith identity) store).2 := by
  cases query with
  | properties id => exact hwhole.gains_properties id
  | _ => exact .refl

theorem gains_askAll (identity : TypeId → Identity) (hwhole : store.Whole) (queries : List Query) :
    Gains store (Query.askAll (hostWith identity) store queries) := by
  induction queries generalizing store with
  | nil => exact .refl
  | cons query queries ih =>
    have hfirst := gains_ask identity hwhole query
    exact hfirst.trans (ih (Gains.whole hfirst hwhole))

/-- All answers but listings stay the same while the store gains types. -/
theorem ask_of_gains (hwhole : store.Whole) (hgains : Gains store later)
    (hquery : ∀ id, query ≠ .properties id) (hid : store.Allocated query.about) :
    query.ask (hostWith identity) later = ((query.ask (hostWith identity) store).1, later) := by
  have hextends := Gains.extends hgains
  cases query with
  | shape id => exact congrArg (fun shape => (Host.Response.shape shape, later)) (hextends.shape hid)
  | properties id => exact absurd rfl (hquery id)
  | callable id =>
    exact congrArg (fun value => (Host.Response.truth value, later)) (Gains.callable hgains hwhole hid)
  | isReference id =>
    exact congrArg (fun value => (Host.Response.truth value, later)) (hextends.isReference hid)
  | typeArguments id =>
    exact congrArg (fun ids => (Host.Response.types ids, later)) (hextends.typeArguments hid)
  | indexSignature id kind =>
    exact congrArg (fun index => (Host.Response.index index, later)) (hextends.indexSignature hid kind)
  | identity id => rfl
  | typeName ref =>
    exact congrArg (fun name => (Host.Response.name name, later)) (hextends.typeName hwhole hid)
  | declarationFiles id =>
    exact congrArg (fun files => (Host.Response.files files, later)) (hextends.declarationFiles hid)

/-- A listing that was asked for once is settled, so it stays the same and stores nothing. -/
theorem ask_properties_again (hwhole : store.Whole) (hid : store.Allocated id)
    (hgains : Gains (Query.ask (hostWith identity) store (.properties id)).2 later) :
    Query.ask (hostWith identity) later (.properties id) =
      ((Query.ask (hostWith identity) store (.properties id)).1, later) := by
  have hlists := hwhole.lists hid
  have hthen : (store.properties id).2.Whole := Gains.whole hlists.gains hwhole
  have hsettled : later.Settled id (store.properties id).1 :=
    hthen.settled_of_extends (Gains.extends hgains) hlists.settled
  have hagain := (Gains.whole hgains hthen).properties_eq hsettled
  simp only [Query.ask, hostWith, listing, hagain]

end Store

/-! ### Requests over a store -/

namespace Machine

open Store

theorem outcomes_cons {σ : Type} (answer : Answer σ) (answers : Except Fault (List (Answer σ))) :
    (answers.map (answer :: ·)).map (·.map Answer.outcome) =
      (answers.map (·.map Answer.outcome)).map (answer.outcome :: ·) := by
  cases answers <;> rfl

/-- There is a graph that reflects the store and on which requests, put one after another, come to the
same. -/
theorem exists_reflecting_all {identity : TypeId → Identity} (steps : Nat) (requests : List Request)
    {context : Context Store} (hwhole : context.state.Whole)
    (hroots : ∀ request ∈ requests, context.state.Allocated request.root.id) :
    ∃ graph : TypeGraph, graph.Reflects identity context.state ∧
      ∀ twin : Context Unit, twin.cache = context.cache →
        (runAll graph.host steps requests twin).map (·.map Answer.outcome) =
          (runAll (hostWith identity) steps requests context).map (·.map Answer.outcome) := by
  induction requests generalizing context with
  | nil =>
    obtain ⟨graph, hgraph⟩ := hwhole.exists_reflects identity
    exact ⟨graph, hgraph, fun _ _ => rfl⟩
  | cons request requests ih =>
    obtain ⟨hroot, hrest⟩ := List.forall_mem_cons.mp hroots
    cases hrun : run (hostWith identity) request.rules steps request.root request.threshold context with
    | error fault =>
      obtain ⟨graph, hgraph, hsame⟩ :=
        @exists_reflecting identity request.rules context request.root request.threshold hwhole hroot
      refine ⟨graph, hgraph, fun twin htwin => ?_⟩
      rw [runAll_cons_error hrun,
        runAll_cons_error (error_of_outcome (hsame twin htwin steps).symm hrun)]
      rfl
    | ok answer =>
      -- the graph has to reflect the store that the last request leaves, and so all those before
      have hgains := gains_of_ok hwhole hroot hrun
      have hlater := Gains.whole hgains hwhole
      obtain ⟨graph, hgraph, hsame⟩ := ih hlater
        fun request hrequest => (Gains.extends hgains).allocated (hrest request hrequest)
      refine ⟨graph, hgraph.of_gains hgains hwhole, fun twin htwin => ?_⟩
      obtain ⟨first, hfirst, houtcome⟩ := outcome_of_run hwhole hroot hrun hgraph htwin
      have hothers := hsame first.context (congrArg (fun outcome => outcome.2.2) houtcome)
      rw [runAll_cons_ok hrun, runAll_cons_ok hfirst, outcomes_cons, outcomes_cons, hothers, houtcome]

end Machine

namespace Store

variable {store : Store} {unfinished : List TypeId}

/-! ### Whole histories -/

theorem Linked.mono {parts others : StoredType → List TypeId}
    (hsub : ∀ data, parts data ⊆ others data) {parent child : TypeId}
    (h : Linked parts store parent child) : Linked others store parent child := by
  obtain ⟨data, hget, hchild⟩ := h
  exact ⟨data, hget, hsub data hchild⟩

/-- Every type mentions only types that were there before it. -/
def Layered (store : Store) : Prop :=
  ∀ index < store.nextType.index,
    ∀ other ∈ ((store.get? ⟨index⟩).map StoredType.mentions).getD [], other.index < index

instance (store : Store) : Decidable store.Layered :=
  inferInstanceAs (Decidable (∀ index < _, ∀ other ∈ _, _))

theorem Layered.linked (h : store.Layered) (horderly : Orderly store unfinished)
    {parent child : TypeId} (hlinked : Linked StoredType.mentions store parent child) :
    child.index < parent.index := by
  obtain ⟨data, hget, hchild⟩ := hlinked
  have hparent : parent.index < store.nextType.index :=
    (horderly.stored parent).mp (Option.isSome_of_mem hget)
  apply h parent.index hparent
  rw [hget]
  exact hchild

theorem Layered.acyclic (h : store.Layered) (horderly : Orderly store unfinished)
    {parts : StoredType → List TypeId}
    (hsub : ∀ data, parts data ⊆ data.mentions) (id : TypeId) :
    ¬ TransGen (Linked parts store) id id := by
  have hless : ∀ {parent child}, TransGen (Linked parts store) parent child →
      child.index < parent.index := by
    intro parent child hpath
    induction hpath with
    | single hlink => exact h.linked horderly (hlink.mono hsub)
    | tail _ hlink ih => exact Nat.lt_trans (h.linked horderly (hlink.mono hsub)) ih
  exact fun hpath => Nat.lt_irrefl _ (hless hpath)

theorem Layered.closed (h : store.Layered) (horderly : Orderly store unfinished)
    (haliases : store.aliases.isEmpty = true) : store.Closed where
  types id data hget other hother := by
    have hid : id.index < store.nextType.index :=
      (horderly.stored id).mp (Option.isSome_of_mem hget)
    exact Nat.lt_trans (h.linked horderly ⟨data, hget, hother⟩) hid
  aliases id found hfound := by
    have hnone : store.aliasOf? id = none := Std.TreeMap.getElem?_of_isEmpty haliases
    rw [hnone] at hfound
    cases hfound

namespace History

variable {history : History} {program : Program}

/-- What can happen to a store: a step of its history, or that one of its types is defined anew. -/
inductive Reworks (history : History) : History → Prop
  | step {next : History} (step : Step history next) : Reworks history next
  | redefine (id : TypeId) (data : StoredType) (allocated : history.store.Allocated id) :
      Reworks history { history with store := history.store.define id data }

theorem coherent_of_reworks (h : ReflTransGen Reworks (start program) history) :
    Grows (new program) history.store ∧ ∃ redefined, Coherent redefined history := by
  induction h with
  | refl => exact ⟨Grows.refl _, [], coherent_start program⟩
  | @tail before _ _ rework ih =>
    obtain ⟨hgrows, redefined, hcoherent⟩ := ih
    cases rework with
    | step step =>
      obtain ⟨hstep, hnext⟩ := step.coherent hcoherent
      exact ⟨hgrows.trans hstep, redefined, hnext⟩
    | redefine id data allocated =>
      have hdefine := Grows.define before.store id data
      refine ⟨hgrows.trans hdefine, id :: redefined, hcoherent.orderly.define allocated ?_ ?_,
        hcoherent.recorded.grow hdefine⟩
      · exact fun _ hin => Or.inr (List.mem_cons_of_mem _ hin)
      · exact fun hnot => absurd List.mem_cons_self hnot

/-- The store of a history is whole if it mentions allocated types only and no intersection contains
itself. -/
theorem whole_of_reworks (h : ReflTransGen Reworks (start program) history)
    (hclosed : history.store.Closed) (hacyclic : ∀ id, ¬ TransGen history.store.Member id id) :
    history.store.Whole := by
  obtain ⟨hgrows, _, hcoherent⟩ := coherent_of_reworks h
  exact ⟨⟨_, hcoherent.orderly⟩, Nat.le_trans (Nat.le_succ _) hgrows.next_le, hclosed, hacyclic⟩

/-- In a store that mentions allocated types only and where no intersection contains itself, whatever
questions are asked: all answers about allocated types but listings stay the same; a listing that was
asked for once stays the same, and asking for it again stores nothing; and the types that were there
keep their data. Requests, put one after another, come to the same over a host without state, which
gives the answers that the store gives. -/
theorem queries_of_history (program : Program) (history : History)
    (h : ReflTransGen Reworks (start program) history) (hclosed : history.store.Closed)
    (hacyclic : ∀ id, ¬ TransGen history.store.Member id id) (identity : TypeId → Identity)
    (queries : List Host.Query) :
    let host := hostWith identity
    let later := Host.Query.askAll host history.store queries
    (∀ query : Host.Query, (∀ id, query ≠ .properties id) → history.store.Allocated query.about →
      query.ask host later = ((query.ask host history.store).1, later)) ∧
    (∀ earlier id rest, queries = earlier ++ .properties id :: rest →
      (Host.Query.askAll host history.store earlier).Allocated id →
      Host.Query.ask host later (.properties id) =
        ((Host.Query.ask host (Host.Query.askAll host history.store earlier) (.properties id)).1,
          later)) ∧
    (∀ id, history.store.Allocated id →
      later.get? id = history.store.get? id ∧ later.aliasOf? id = history.store.aliasOf? id) ∧
    (∀ (steps : Nat) (requests : List Machine.Request) (cache : Cache) (journal : Journal),
      (∀ request ∈ requests, later.Allocated request.root.id) →
      ∃ graph : TypeGraph, graph.Reflects identity later ∧
        (Machine.runAll graph.host steps requests { state := (), cache }).map
            (·.map Machine.Answer.outcome) =
          (Machine.runAll host steps requests { state := later, cache, journal }).map
            (·.map Machine.Answer.outcome)) := by
  have hwhole := whole_of_reworks h hclosed hacyclic
  have hgains := gains_askAll identity hwhole queries
  refine ⟨?_, ?_, ?_, ?_⟩
  · intro query hquery hid
    exact ask_of_gains hwhole hgains hquery hid
  · intro earlier id rest hqueries hid
    have hbefore := gains_askAll identity hwhole earlier
    have hthen := Gains.whole hbefore hwhole
    have hrest := gains_askAll identity
      (Gains.whole (gains_ask identity hthen (.properties id)) hthen) rest
    have hlater : Host.Query.askAll (hostWith identity) history.store queries =
        Host.Query.askAll (hostWith identity) (Host.Query.ask (hostWith identity)
          (Host.Query.askAll (hostWith identity) history.store earlier) (.properties id)).2 rest := by
      rw [hqueries, Host.Query.askAll, List.foldl_append]
      rfl
    rw [hlater]
    exact ask_properties_again hthen hid hrest
  · intro id hid
    exact ⟨(Gains.extends hgains).kept id hid, (Gains.extends hgains).aliasOf? id⟩
  · intro steps requests cache journal hroots
    obtain ⟨graph, hgraph, hsame⟩ :=
      @Machine.exists_reflecting_all identity steps requests
        { state := Host.Query.askAll (hostWith identity) history.store queries, cache, journal }
        (Gains.whole hgains hwhole) hroots
    exact ⟨graph, hgraph, hsame _ rfl⟩

/-- Two records with a property in common, of types that differ, and their intersection. -/
def overlap : History :=
  ((start defaultProgram)
    |>.answer (.record [{ name := "size", type := Intrinsic.number.id }])
    |>.answer (.record [{ name := "size", type := Intrinsic.string.id }])
    |>.answer (.intersection [⟨14⟩, ⟨15⟩]))

theorem overlap_reachable : ReflTransGen Reworks (start defaultProgram) overlap := by
  refine .tail ?_ (.step (.answer (.intersection _) trivial))
  refine .tail ?_ (.step (.answer (.record _) trivial))
  exact .single (.step (.answer (.record _) trivial))

/-- The listing stores the intersection of a number and a string, and then nothing more. -/
theorem overlap_queries :
    let later := Host.Query.askAll host overlap.store [.properties ⟨16⟩, .callable ⟨14⟩]
    overlap.store.nextType = ⟨17⟩ ∧ later.nextType = ⟨18⟩ ∧
    Host.Query.ask host later (.properties ⟨16⟩) =
      ((Host.Query.ask host overlap.store (.properties ⟨16⟩)).1, later) ∧
    Host.Query.ask host later (.shape ⟨16⟩) =
      ((Host.Query.ask host overlap.store (.shape ⟨16⟩)).1, later) := by
  obtain ⟨_, _, hcoherent⟩ := coherent_of_reworks overlap_reachable
  have hlayered : overlap.store.Layered := by decide +kernel
  have hclosed := hlayered.closed hcoherent.orderly (by decide +kernel)
  obtain ⟨hkept, hagain, _, _⟩ := queries_of_history defaultProgram overlap overlap_reachable hclosed
    (hlayered.acyclic hcoherent.orderly members_subset_mentions) ownIdentity
    [.properties ⟨16⟩, .callable ⟨14⟩]
  refine ⟨by decide +kernel, by decide +kernel, ?_, ?_⟩
  · exact hagain [] ⟨16⟩ [.callable ⟨14⟩] rfl (by unfold Allocated; decide +kernel)
  · exact hkept (.shape ⟨16⟩) nofun (by unfold Allocated; decide +kernel)

end History

end Store

end Immutability

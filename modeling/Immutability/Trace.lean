import Immutability.Cache

/-!
# Traces

A journal collects what happens during a query, in order. It keeps everything, the start and end of queries
only, or nothing. Events have a target, a severity and named fields.
-/

set_option autoImplicit false

namespace Immutability

inductive Event where
  | queryStarted (query : Nat) (type : TypeId) (threshold : Level)
  | queryEnded (query : Nat) (result : Status) (cacheHit : Bool)
  | cacheHit (key : CacheKey) (value : Status)
  /-- There was an entry, found under a ceiling that was too low. -/
  | cacheBelow (key : CacheKey) (value : Status)
  | markedCalculating (type : TypeId)
  | errorIgnored (type : TypeId)
  | framePushed (type : TypeId) (depth : Nat)
  | frameResolved (type : TypeId) (depth : Nat) (value : Verdict)
  | ruleMatched (type : TypeId) (target : Status) (origin : Option Status)
  | ruleApplied (type : TypeId) (computed : Verdict) (target : Status)
  | typeRegistered (type : TypeId)
deriving DecidableEq, Repr

inductive Field where
  | text (value : String)
  | number (value : Nat)
  | flag (value : Bool)
deriving DecidableEq, Repr

inductive Severity where
  | debug
  | trace
deriving DecidableEq, Repr

def Severity.name : Severity → String
  | debug => "DEBUG"
  | trace => "TRACE"

namespace Event

def target : Event → String
  | queryStarted .. | queryEnded .. => "immutype::query_json"
  | cacheHit .. | cacheBelow .. => "immutype_solver::cache"
  | ruleMatched .. => "immutype_solver::overrides"
  | typeRegistered .. => "immutype_solver::store"
  | _ => "immutype_solver::classify"

def severity : Event → Severity
  | ruleMatched .. | ruleApplied .. => .debug
  | _ => .trace

/-- What an event says; queries speak through their fields alone. -/
def message? : Event → Option String
  | queryStarted .. | queryEnded .. => none
  | cacheHit .. => some "cache hit"
  | cacheBelow .. => some "cache entry below requested threshold"
  | markedCalculating _ => some "marked calculating"
  | errorIgnored _ => some "error type contributes nothing"
  | framePushed .. => some "push frame"
  | frameResolved .. => some "frame resolved"
  | ruleMatched .. => some "override matched"
  | ruleApplied .. => some "conditional override applied"
  | typeRegistered _ => some "TypeStore::register"

def queryFields (phase : String) (query : Nat) : List (String × Field) :=
  [("event", .text "query"), ("phase", .text phase), ("run_id", .text "default"),
    ("query_id", .number query), ("op", .text "get_type_immutability")]

def fields : Event → List (String × Field)
  | queryStarted query type threshold =>
    queryFields "start" query ++
      [("input_type_id", .number type.index), ("threshold", .text threshold.name)]
  | queryEnded query result hit =>
    queryFields "end" query ++ [("result", .text result.name), ("cache_hit", .flag hit)]
  | cacheHit key value | cacheBelow key value =>
    [("key", .text key.text), ("value", .text value.name)]
  | markedCalculating type | errorIgnored type | typeRegistered type =>
    [("type_id", .number type.index)]
  | framePushed type depth => [("type_id", .number type.index), ("depth", .number depth)]
  | frameResolved type depth value =>
    [("type_id", .number type.index), ("depth", .number depth),
      ("value", .text (Status.settled value).name)]
  | ruleMatched type target origin =>
    [("type_id", .number type.index), ("to", .text target.name)] ++
      origin.toList.map fun origin => ("from", .text origin.name)
  | ruleApplied type computed target =>
    [("type_id", .number type.index), ("computed", .text (Status.settled computed).name),
      ("to", .text target.name)]

end Event

/-- Which events are kept. -/
inductive TraceScope where
  | nothing
  /-- The start and end of queries. -/
  | queries
  | everything
deriving DecidableEq, Repr, Inhabited

/-- The events of some queries. -/
structure Journal where
  scope : TraceScope := .nothing
  /-- Number of the next query that is kept. -/
  nextQuery : Nat := 1
  events : Array Event := #[]
deriving Repr, Inhabited

namespace Journal

/-- Keeps an event of the work on a query, if everything is kept. -/
def note (journal : Journal) (event : Unit → Event) : Journal :=
  match journal.scope with
  | .everything => { journal with events := journal.events.push (event ()) }
  | _ => journal

/-- Keeps the start of a query, if queries are kept, and numbers it. -/
def start (journal : Journal) (type : TypeId) (threshold : Level) : Journal :=
  match journal.scope with
  | .nothing => journal
  | _ =>
    { journal with
      nextQuery := journal.nextQuery + 1
      events := journal.events.push (.queryStarted journal.nextQuery type threshold) }

/-- Keeps the end of the query of a number, if queries are kept. -/
def finish (journal : Journal) (query : Nat) (result : Status) (hit : Bool) : Journal :=
  match journal.scope with
  | .nothing => journal
  | _ => { journal with events := journal.events.push (.queryEnded query result hit) }

end Journal

end Immutability

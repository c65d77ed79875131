import Immutability.Script.Session

/-!
# Running scripts

An instruction changes the session and answers. A request that is stopped by a fault answers with the
fault and leaves the session as it was, except that a traced one uses up a query number once an earlier
one has answered.
-/

set_option autoImplicit false

namespace Immutability.Script

/-- Adds a text to texts that came before, latest first, counting how often it comes in a row. -/
def addRun (text : String) : List (String × Nat) → List (String × Nat)
  | (last, count) :: rest =>
    if last == text then (last, count + 1) :: rest else (text, 1) :: (last, count) :: rest
  | [] => [(text, 1)]

/-- Writes a type a number of times under one guard. -/
def writeTimes (store : Store) (id : TypeId) :
    Nat → List (String × Nat) → Guard → List (String × Nat) × Guard
  | 0, runs, guard => (runs, guard)
  | times + 1, runs, guard =>
    let (text, guard) := store.render id guard
    writeTimes store id times (addRun text runs) guard

namespace Session

/-- Everything the store says about the structure of a type, asked in the order of the fields. -/
def inspect (session : Session) (id : TypeId) : Inspection × Session :=
  let shape := session.store.shape id
  let (properties, store) := session.store.properties id
  ({ shape
     properties
     callable := store.callable id
     isReference := store.isReference id
     typeArguments := store.typeArguments id
     stringIndex := store.indexSignature id .string
     numberIndex := store.indexSignature id .number
     identity := session.identityOf id
     files := store.declarationFiles id },
    { session with store })

/-- What rules see of a type; without the type roots if it is seen bare. -/
def subject (session : Session) (ref : TypeRef) (bare : Bool) : Subject :=
  let subject := session.host.subject session.store ref
  if bare then { subject with program := { subject.program with typeRoots := [] } } else subject

/-! ### Queries -/

def setting? (session : Session) : Setting → Option (List Rule × Cache)
  | .fresh rules => (session.rules? rules).map (·, {})
  | .shared rules cache => (session.rules? rules).map (·, session.caches[cache]?.getD {})
  | .checker name => session.checkers[name]?.map fun checker => (checker.rules, checker.cache)

def keepCache (session : Session) (cache : Cache) : Setting → Session
  | .fresh _ => session
  | .shared _ name => { session with caches := session.caches.insert name cache }
  | .checker name =>
    { session with
      checkers := session.checkers.modify name fun checker => { checker with cache } }

def query? {α : Type} (session : Session) (setting : Setting) (scope : TraceScope)
    (request : List Rule → Context Store → Except Fault (α × Context Store)) (reply : α → Reply) :
    Option (Reply × Session) := do
  let (rules, cache) ← session.setting? setting
  let journal : Journal := { scope, nextQuery := session.nextQuery }
  match request rules { state := session.store, cache, journal } with
  | .ok (value, context) =>
    let session := { session with
      store := context.state
      nextQuery := context.journal.nextQuery }.keepCache context.cache setting
    match scope with
    | .nothing => return (reply value, session)
    | _ => return (.traced (reply value) context.journal.events.toList, session)
  | .error fault =>
    let counted := scope ≠ .nothing && session.nextQuery > 1
    return (.fault fault,
      if counted then { session with nextQuery := session.nextQuery + 1 } else session)

/-- Makes a request for each element of a list, each with a cache of its own. -/
def each {α β : Type} (request : α → Context Store → Except Fault (β × Context Store)) :
    List α → Store → Except Fault (List β × Store)
  | [], store => .ok ([], store)
  | a :: rest, store => do
    let (value, context) ← request a { state := store }
    let (values, store) ← each request rest context.state
    return (value :: values, store)

/-- Classifies a type at every threshold and asks every question, each with a new cache. -/
def survey (session : Session) (ref : TypeRef) (rules : List Rule) :
    Except Fault (Survey × Session) := do
  let (statuses, store) ← each
    (fun level context => classify session.host rules ref (.known level) context)
    Level.all session.store
  let (answers, store) ← each
    (fun question context => Question.ask session.host rules question ref context)
    Question.all store
  return ({ levels := Level.all.zip statuses, answers }, { session with store })

/-! ### Caches -/

/-- The cache that an expression stands for; a cache of a new name is empty. -/
def cache? (session : Session) : CacheExpr → Option Cache
  | .name name => some (session.caches[name]?.getD {})
  | .checker name => session.checkers[name]?.map (·.cache)

def setCache (session : Session) (cache : Cache) : CacheExpr → Session
  | .name name => { session with caches := session.caches.insert name cache }
  | .checker name =>
    { session with
      checkers := session.checkers.modify name fun checker => { checker with cache } }

/-- The identities of the stored types, in ascending order. -/
def identityList (session : Session) : List Identity :=
  (session.store.types.foldl (fun found id _ => found.insert (session.identityOf id))
    (∅ : Std.TreeSet Identity)).toList

def dump (session : Session) (cache : Cache) : Dump where
  size := cache.size
  nodes := (List.range session.store.nodes.size).filterMap fun place =>
    let node : NodeId := ⟨place + 1⟩
    (cache.get? (.node node)).map (node, ·)
  identities := session.identityList.filterMap fun identity =>
    (cache.get? (.identity identity)).map (identity, ·)

def keyOf (session : Session) (ref : TypeRef) : CacheKey := ref.key (session.identityOf ref.id)

/-! ### Instructions -/

/-- Names the rules of a configuration, or says what is wrong with it. -/
def bindRules (session : Session) (label : String) :
    Except ConfigError (List Rule) → Reply × Session
  | .ok rules => (.rules rules, { session with rules := session.rules.insert label rules })
  | .error error => (.refused error, session)

/-- Runs an instruction, if its names have a meaning. -/
def run? (session : Session) : Instruction → Option (Reply × Session)
  | .make label builder => do
    let (id, session) ← session.make? label builder
    return (.number id.index, session)
  | .write label type text => do
    let id ← session.typeId? type
    let (ref, store) := session.store.addNode id text
    let reply := match ref.node with
      | some node => .written id node
      | none => .number id.index
    return (reply, { session with store }.bindType label ref)
  | .define type data => do
    let id ← session.typeId? type
    let data ← session.data? data
    return (.nothing, { session with store := session.store.define id data })
  | .file label file => do
    let (id, store) := session.store.addFile file
    let files := match label with
      | some label => session.files.insert label id
      | none => session.files
    return (.number id.index, { session with store, files })
  | .declare label name files => do
    let (symbol, store) := session.store.declare name (← files.mapM session.file?)
    return (.number symbol.index, { session with store }.bindSymbol (label.getD name) symbol)
  | .librarySymbol label name =>
    let (symbol, store) := session.store.librarySymbol name
    some (.number symbol.index, { session with store }.bindSymbol (label.getD name) symbol)
  | .setAlias type symbol arguments => do
    let id ← session.typeId? type
    let symbol ← session.symbol? symbol
    let arguments ← session.typeIds? arguments
    return (.nothing, { session with store := session.store.setAlias id symbol arguments })
  | .identity type index => do
    let id ← session.typeId? type
    return (.nothing, { session with identities := session.identities.insert id ⟨index⟩ })
  | .lookup type => do return (.stored (session.store.get? (← session.typeId? type)), session)
  | .symbolInfo symbol => do
    return (.symbol (session.store.symbol? (← session.symbol? symbol)), session)
  | .aliasInfo type => do return (.aliasInfo (session.store.aliasOf? (← session.typeId? type)), session)
  | .written node => some (.words (session.store.written? ⟨node⟩), session)
  | .program =>
    some (.program
      { program := session.store.program, libraryFile := session.store.libraryFile
        methodType := session.store.methodType }, session)
  | .inspect type => do
    let (inspection, session) := session.inspect (← session.typeId? type)
    return (.inspection inspection, session)
  | .typeName type => do return (.typeName (session.store.typeName (← session.type? type)), session)
  | .asArgument type => do
    return (.text (session.store.typeName (← session.type? type)).asArgument, session)
  | .format items => do
    let items ← items.mapM fun (type, times) => (session.typeId? type).map (·, times)
    let (runs, _) := items.foldl
      (fun (runs, guard) (id, times) => writeTimes session.store id times runs guard)
      (([] : List (String × Nat)), ({} : Guard))
    return (.runs runs.reverse, session)
  | .configure label config => some (session.bindRules label (Rule.ofConfig config))
  | .rules label rules => some (session.bindRules label (rules.mapM (RawRule.build .regex)))
  | .findRule type rules bare => do
    let subject := session.subject (← session.type? type) bare
    let rules ← session.rules? rules
    return (.place (rules.findIdx? (·.specifier.picks subject)), session)
  | .matchRules type rules bare => do
    let subject := session.subject (← session.type? type) bare
    let rules ← session.rules? rules
    return (.truths (rules.map (·.specifier.picks subject)), session)
  | .checker label rules => do
    let rules ← session.rules? rules
    return (.number rules.length,
      { session with checkers := session.checkers.insert label { rules } })
  | .classify type max setting scope => do
    let ref ← session.type? type
    session.query? setting scope (fun rules => classify session.host rules ref max)
      (fun status => .status (some status))
  | .ask type question setting scope => do
    let ref ← session.type? type
    session.query? setting scope (fun rules => question.ask session.host rules ref) .truth
  | .survey type rules => do
    let ref ← session.type? type
    match session.survey ref (← session.rules? rules) with
    | .ok (survey, session) => return (.survey survey, session)
    | .error fault => return (.fault fault, session)
  | .cacheSet cache type entry => do
    let ref ← session.type? type
    let cache := CacheExpr.name cache
    let entries := (← session.cache? cache).record ref (session.identityOf ref.id) entry
    return (.number entries.size, session.setCache entries cache)
  | .cacheGet cache type max => do
    let ref ← session.type? type
    match (← session.cache? cache).lookup (session.keyOf ref) max with
    | .hit status => return (.status (some status), session)
    | _ => return (.status none, session)
  | .cacheEntry cache type => do
    let key := session.keyOf (← session.type? type)
    return (.entry key ((← session.cache? (.name cache)).get? key), session)
  | .cacheClear cache => some (.nothing, session.setCache {} cache)
  | .cacheDump cache => do return (.dump (session.dump (← session.cache? cache)), session)

/-- Runs the instructions of a script; a reply is missing where a name has no meaning. -/
def runAll (session : Session) : List Instruction → List (Option Reply)
  | [] => []
  | instruction :: rest =>
    match session.run? instruction with
    | some (reply, session) => some reply :: session.runAll rest
    | none => none :: session.runAll rest

end Session

end Immutability.Script

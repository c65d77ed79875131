import Immutability.Proofs.StoreUpkeep
import Immutability.Rule.Basic
import Mathlib.Tactic.IntervalCases

/-!
# Where types are declared

A rule for the standard library picks the types that have a declaration in a file of the library, and
those that have no declaration in a known file. The intrinsic types are of the second sort, and so is
everything that has no name: literals, unions and intersections, object types that were written out.

A symbol or a file may be missing. If every symbol was declared in some known file when it was first
used, and so in every store that was built in this way, the types without a declaration are those
without a name (`sourced_of_sources`).
-/

set_option autoImplicit false

namespace Immutability

def StoredType.symbol? : StoredType → Option SymbolId
  | .object type => type.symbol
  | .typeParameter symbol => some symbol
  | _ => none

namespace Store

def DeclaredIn (store : Store) (id : TypeId) (file : SourceFile) : Prop :=
  ∃ symbol info handle,
    (store.declaringSymbol? id <|> (store.aliasOf? id).map (·.symbol)) = some symbol ∧
    store.symbol? symbol = some info ∧ handle ∈ info.declarations ∧ store.file? handle = some file

def LibraryDeclared (store : Store) (id : TypeId) : Prop :=
  ∃ file, store.DeclaredIn id file ∧ file.defaultLibrary = true

/-- The type has no declaration in a file that the store knows. -/
def Undeclared (store : Store) (id : TypeId) : Prop := ∀ file, ¬ store.DeclaredIn id file

/-- The type carries a symbol or has an alias. -/
def Named (store : Store) (id : TypeId) : Prop :=
  store.declaringSymbol? id ≠ none ∨ store.aliasOf? id ≠ none

variable {store later : Store} {id : TypeId} {data : StoredType}

theorem mem_declarationFiles {file : SourceFile} :
    file ∈ store.declarationFiles id ↔ store.DeclaredIn id file := by
  unfold declarationFiles DeclaredIn
  cases (store.declaringSymbol? id <|> (store.aliasOf? id).map (·.symbol)) with
  | none => simp
  | some symbol =>
    cases hinfo : store.symbol? symbol with
    | none => simp [hinfo]
    | some info => simp [hinfo]

instance (store : Store) (id : TypeId) : Decidable (store.LibraryDeclared id) :=
  decidable_of_iff (∃ file ∈ store.declarationFiles id, file.defaultLibrary = true)
    (exists_congr fun _ => and_congr_left' mem_declarationFiles)

theorem inLibrary_iff :
    Provenance.inLibrary (store.declarationFiles id) = true ↔
      store.LibraryDeclared id ∨ store.Undeclared id := by
  have hnone : store.declarationFiles id = [] ↔ store.Undeclared id := by
    rw [List.eq_nil_iff_forall_not_mem]
    exact forall_congr' fun file => not_congr mem_declarationFiles
  rw [Provenance.inLibrary, Bool.or_eq_true, List.isEmpty_iff, hnone, List.any_eq_true, or_comm]
  simp only [mem_declarationFiles, LibraryDeclared]

theorem declaringSymbol?_eq (store : Store) (id : TypeId) :
    store.declaringSymbol? id = (store.get? id).bind StoredType.symbol? := by
  unfold declaringSymbol?
  cases store.get? id with
  | none => rfl
  | some data => cases data <;> rfl

/-! ### Stores whose symbols are declared -/

/-- Every symbol in use is known, and has a declaration in a known file. -/
structure Sourced (store : Store) : Prop where
  library : (store.file? store.libraryFile).isSome
  declared : ∀ symbol info, store.symbol? symbol = some info →
    ∃ handle ∈ info.declarations, (store.file? handle).isSome
  typed : ∀ id symbol, store.declaringSymbol? id = some symbol → (store.symbol? symbol).isSome
  aliased : ∀ id named, store.aliasOf? id = some named → (store.symbol? named.symbol).isSome
  listed : ∀ (name : String) symbol, store.librarySymbols[name]? = some symbol →
    (store.symbol? symbol).isSome

def Knows (store : Store) (data : StoredType) : Prop :=
  ∀ symbol, data.symbol? = some symbol → (store.symbol? symbol).isSome

theorem knows_of_none (h : data.symbol? = none) : store.Knows data := by
  intro symbol hsymbol
  rw [h] at hsymbol
  cases hsymbol

def Locates (store : Store) (declarations : List FileId) : Prop :=
  ∃ handle ∈ declarations, (store.file? handle).isSome

/-- The call brings in no unknown symbol and no symbol without a declaration. -/
def Call.Sourced (store : Store) : Call → Prop
  | register data => store.Knows data
  | object type => store.Knows (.object type)
  | typeParameter _ declarations => store.Locates declarations
  | interface _ declarations _ => store.Locates declarations
  | _ => True

/-- What can happen to a store if symbols are declared before they are used. -/
inductive Sources (store : Store) : Store → Prop
  | answer (call : Call) (direct : call.Direct store) (sourced : call.Sourced store) :
      Sources store (call.run store).2
  | allot (symbol : SymbolId) (arguments : List TypeId) :
      Sources store (store.allot (.reference symbol arguments)).2.2
  | define (id : TypeId) (data : StoredType) (known : store.Knows data) :
      Sources store (store.define id data)
  | list (id : TypeId) : Sources store (store.properties id).2
  | library (name : String) : Sources store (store.librarySymbol name).2
  | addFile (file : SourceFile) : Sources store (store.addFile file).2
  | declare (name : String) (declarations : List FileId) (located : store.Locates declarations) :
      Sources store (store.declare name declarations).2
  | setAlias (id : TypeId) (symbol : SymbolId) (arguments : List TypeId)
      (known : (store.symbol? symbol).isSome) : Sources store (store.setAlias id symbol arguments)
  | addNode (type : TypeId) (written : String) : Sources store (store.addNode type written).2

theorem symbol?_declare (store : Store) (name : String) (declarations : List FileId)
    (symbol : SymbolId) :
    (store.declare name declarations).2.symbol? symbol =
      if symbol = ⟨store.symbols.size + 1⟩ then some { name, declarations }
      else store.symbol? symbol := by
  obtain ⟨index⟩ := symbol
  simp only [declare, symbol?, Array.getElem?_push, Handle.mk.injEq]
  split <;> split <;> grind

theorem file?_addFile (store : Store) (file : SourceFile) {handle : FileId}
    (h : (store.file? handle).isSome) : (store.addFile file).2.file? handle = store.file? handle := by
  obtain ⟨index⟩ := handle
  simp only [addFile, file?, Array.getElem?_push] at h ⊢
  grind

namespace Sourced

/-- Types are stored or given other data. -/
theorem retype (h : Sourced store) (hfiles : later.files = store.files)
    (hsymbols : later.symbols = store.symbols) (haliases : later.aliases = store.aliases)
    (hlibrary : later.libraryFile = store.libraryFile)
    (hlists : later.librarySymbols = store.librarySymbols)
    (htypes : ∀ id data, later.get? id = some data → store.get? id = some data ∨ store.Knows data) :
    Sourced later := by
  have hfile : later.file? = store.file? := by
    funext handle
    rw [file?, hfiles, file?]
  have hsymbol : later.symbol? = store.symbol? := by
    funext symbol
    rw [symbol?, hsymbols, symbol?]
  constructor
  case library => rw [hfile, hlibrary]; exact h.library
  case declared => rw [hfile, hsymbol]; exact h.declared
  case typed =>
    intro id symbol hid
    rw [declaringSymbol?_eq, Option.bind_eq_some_iff] at hid
    obtain ⟨data, hget, hdata⟩ := hid
    rw [hsymbol]
    rcases htypes id data hget with hold | hknown
    · exact h.typed id symbol (by rw [declaringSymbol?_eq, hold]; exact hdata)
    · exact hknown symbol hdata
  case aliased =>
    intro id named hid
    rw [hsymbol]
    exact h.aliased id named (by rwa [aliasOf?, ← haliases])
  case listed => rw [hsymbol, hlists]; exact h.listed

protected theorem define (h : Sourced store) (id : TypeId) (hknown : store.Knows data) :
    Sourced (store.define id data) := by
  refine h.retype rfl rfl rfl rfl rfl fun other found hget => ?_
  rw [get?_define] at hget
  split at hget
  · cases hget
    exact Or.inr hknown
  · exact Or.inl hget

protected theorem register (h : Sourced store) (hknown : store.Knows data) :
    Sourced (store.register data).2 :=
  (h.define store.nextType hknown).retype rfl rfl rfl rfl rfl fun _ _ hget => Or.inl hget

protected theorem intern (h : Sourced store) (composite : Composite) (id : TypeId) :
    Sourced (store.intern composite id) :=
  h.retype rfl rfl rfl rfl rfl fun _ _ hget => Or.inl hget

theorem share (h : Sourced store) (composite : Composite) (hknown : store.Knows data) :
    Sourced (store.share composite data).2 := by
  cases hc : store.interned? composite with
  | some id =>
    rw [share_of_interned hc]
    exact h
  | none =>
    rw [share_of_new hc]
    exact (h.register hknown).intern composite _

theorem allot (h : Sourced store) (composite : Composite) : Sourced (store.allot composite).2.2 := by
  cases hc : store.interned? composite with
  | some id =>
    rw [allot_of_interned hc]
    exact h
  | none =>
    rw [allot_of_new hc]
    exact (h.register (knows_of_none rfl)).intern composite _

theorem union (h : Sourced store) (members : List TypeId) : Sourced (store.union members).2 := by
  rcases store.union_cases members with ⟨he, _⟩ | ⟨he, _⟩ <;> rw [he]
  · exact h
  · exact h.share _ (knows_of_none rfl)

theorem intersection (h : Sourced store) (members : List TypeId) :
    Sourced (store.intersection members).2 := by
  rcases store.intersection_cases members with ⟨he, _⟩ | ⟨he, _⟩ <;> rw [he]
  · exact h
  · exact h.share _ (knows_of_none rfl)

theorem tuple (h : Sourced store) (readonly : Bool) (elements : List TypeId) :
    Sourced (store.tuple readonly elements).2 := by
  have hallot := h.allot (.tuple readonly elements)
  unfold Store.tuple
  split
  · next he => rwa [he] at hallot
  · next he =>
    rw [he] at hallot
    exact (hallot.union elements).define _ (knows_of_none rfl)

/-- Files and symbols are added, and types are named by known symbols. -/
theorem extend (h : Sourced store) (hget : later.get? = store.get?)
    (hlibrary : later.libraryFile = store.libraryFile)
    (hfiles : ∀ handle, (store.file? handle).isSome → (later.file? handle).isSome)
    (hsymbols : ∀ symbol, (store.symbol? symbol).isSome → later.symbol? symbol = store.symbol? symbol)
    (hnew : ∀ symbol info, later.symbol? symbol = some info →
      store.symbol? symbol = some info ∨ later.Locates info.declarations)
    (haliases : ∀ id named, later.aliasOf? id = some named →
      store.aliasOf? id = some named ∨ (later.symbol? named.symbol).isSome)
    (hlists : ∀ (name : String) symbol, later.librarySymbols[name]? = some symbol →
      store.librarySymbols[name]? = some symbol ∨ (later.symbol? symbol).isSome) : Sourced later := by
  have hkept : ∀ {symbol}, (store.symbol? symbol).isSome → (later.symbol? symbol).isSome := by
    intro symbol hsymbol
    rwa [hsymbols symbol hsymbol]
  constructor
  case library => exact hlibrary ▸ hfiles _ h.library
  case declared =>
    intro symbol info hinfo
    rcases hnew symbol info hinfo with hold | hlocated
    · obtain ⟨handle, hmem, hhandle⟩ := h.declared symbol info hold
      exact ⟨handle, hmem, hfiles handle hhandle⟩
    · exact hlocated
  case typed =>
    intro id symbol hid
    rw [declaringSymbol?_eq, hget, ← declaringSymbol?_eq] at hid
    exact hkept (h.typed id symbol hid)
  case aliased =>
    intro id named hid
    rcases haliases id named hid with hold | hknown
    · exact hkept (h.aliased id named hold)
    · exact hknown
  case listed =>
    intro name symbol hname
    rcases hlists name symbol hname with hold | hknown
    · exact hkept (h.listed name symbol hold)
    · exact hknown

theorem addFile (h : Sourced store) (file : SourceFile) : Sourced (store.addFile file).2 := by
  refine h.extend rfl rfl ?_ (fun _ _ => rfl) (fun _ _ hinfo => Or.inl hinfo) (fun _ _ hid => Or.inl hid)
    fun _ _ hname => Or.inl hname
  intro handle hhandle
  rwa [file?_addFile store file hhandle]

theorem declare (h : Sourced store) (name : String) {declarations : List FileId}
    (hlocated : store.Locates declarations) : Sourced (store.declare name declarations).2 := by
  refine h.extend rfl rfl (fun _ hhandle => hhandle) ?_ ?_ (fun _ _ hid => Or.inl hid)
    fun _ _ hname => Or.inl hname
  · intro symbol hsymbol
    have hfresh : store.symbol? ⟨store.symbols.size + 1⟩ = none := by simp [symbol?]
    rw [symbol?_declare, if_neg]
    rintro rfl
    rw [hfresh] at hsymbol
    cases hsymbol
  · intro symbol info hinfo
    rw [symbol?_declare] at hinfo
    split at hinfo
    · cases hinfo
      exact Or.inr hlocated
    · exact Or.inl hinfo

theorem setAlias (h : Sourced store) (id : TypeId) {symbol : SymbolId} (arguments : List TypeId)
    (hknown : (store.symbol? symbol).isSome) : Sourced (store.setAlias id symbol arguments) := by
  refine h.extend rfl rfl (fun _ hhandle => hhandle) (fun _ _ => rfl) (fun _ _ hinfo => Or.inl hinfo) ?_
    fun _ _ hname => Or.inl hname
  intro other named hother
  rw [Store.setAlias, aliasOf?, Std.TreeMap.getElem?_insert] at hother
  split at hother
  · cases hother
    exact Or.inr hknown
  · exact Or.inl hother

theorem librarySymbol (h : Sourced store) (name : String) : Sourced (store.librarySymbol name).2 := by
  cases hlisted : store.librarySymbols[name]? with
  | some symbol =>
    simp only [Store.librarySymbol, hlisted]
    exact h
  | none =>
    have hdeclare := h.declare name ⟨store.libraryFile, List.mem_singleton_self _, h.library⟩
    simp only [Store.librarySymbol, hlisted]
    refine hdeclare.extend rfl rfl (fun _ hhandle => hhandle) (fun _ _ => rfl)
      (fun _ _ hinfo => Or.inl hinfo) (fun _ _ hid => Or.inl hid) ?_
    intro other symbol hother
    rw [Std.TreeMap.getElem?_insert] at hother
    split at hother
    · cases hother
      refine Or.inr ?_
      change ((store.declare name _).2.symbol? ⟨store.symbols.size + 1⟩).isSome
      rw [symbol?_declare, if_pos rfl]
      rfl
    · exact Or.inl hother

/-- A reference to a symbol of the library whose builder leaves the store alone. -/
theorem reference (h : Sourced store) (symbol : SymbolId) (arguments : List TypeId)
    {type : Store → ObjectType} (htype : ∀ later : Store, later.symbols = store.symbols →
      later.Knows (.object (type later))) :
    Sourced (store.reference symbol arguments fun _ later => (type later, later)).2 := by
  have hallot := h.allot (.reference symbol arguments)
  cases hc : store.interned? (.reference symbol arguments) with
  | some id =>
    simp only [Store.reference, allot_of_interned hc]
    exact h
  | none =>
    rw [reference_of_new hc]
    refine hallot.define _ (htype _ ?_)
    rw [allot_of_new hc]
    rfl

theorem list (h : Sourced store) (name : String) (readonly : Bool) (element : TypeId) :
    Sourced ((store.librarySymbol name).2.reference (store.librarySymbol name).1 [element]
      fun _ later => (later.arrayType (store.librarySymbol name).1 readonly element, later)).2 := by
  have hlibrary := h.librarySymbol name
  refine hlibrary.reference _ [element] fun later hsymbols symbol hsymbol => ?_
  cases hsymbol
  rw [symbol?, hsymbols]
  exact hlibrary.listed name _ (librarySymbols_librarySymbol store name)

protected theorem answer (h : Sourced store) {call : Call} (hdirect : call.Direct store)
    (hsourced : call.Sourced store) : Sourced (call.run store).2 := by
  cases call with
  | register data => exact h.register hsourced
  | object type => exact h.register hsourced
  | typeParameter name declarations =>
    refine (h.declare name hsourced).register fun symbol hsymbol => ?_
    cases hsymbol
    rw [symbol?_declare, if_pos rfl]
    rfl
  | interface name declarations properties =>
    refine (h.declare name hsourced).register fun symbol hsymbol => ?_
    cases hsymbol
    rw [symbol?_declare, if_pos rfl]
    rfl
  | union members => exact h.union members
  | intersection members => exact h.intersection members
  | array element => exact h.list "Array" false element
  | readonlyArray element => exact h.list "ReadonlyArray" true element
  | tuple readonly elements => exact h.tuple readonly elements
  | reference symbol arguments build =>
    obtain ⟨id, hid⟩ := Option.ne_none_iff_exists'.mp hdirect
    simp only [Call.run, Store.reference, allot_of_interned hid]
    exact h
  | _ => exact h.register (knows_of_none rfl)

theorem step (h : Sourced store) (hstep : Sources store later) : Sourced later := by
  cases hstep with
  | answer call direct sourced => exact h.answer direct sourced
  | allot symbol arguments => exact h.allot _
  | define id data known => exact h.define id known
  | list id =>
    exact propertiesWithin_keeps Sourced (fun _ members h => h.intersection members) h
  | library name => exact h.librarySymbol name
  | addFile file => exact h.addFile file
  | declare name declarations located => exact h.declare name located
  | setAlias id symbol arguments known => exact h.setAlias id arguments known
  | addNode type written => exact h.retype rfl rfl rfl rfl rfl fun _ _ hget => Or.inl hget

/-- A type has a declaration if and only if it has a name. -/
theorem undeclared_iff (h : Sourced store) : store.Undeclared id ↔ ¬ store.Named id := by
  constructor
  · intro hnowhere hnamed
    obtain ⟨symbol, hsymbol, hknown⟩ : ∃ symbol,
        (store.declaringSymbol? id <|> (store.aliasOf? id).map (·.symbol)) = some symbol ∧
          (store.symbol? symbol).isSome := by
      cases hdeclaring : store.declaringSymbol? id with
      | some symbol => exact ⟨symbol, rfl, h.typed id symbol hdeclaring⟩
      | none =>
        obtain ⟨named, hnamed⟩ :=
          Option.ne_none_iff_exists'.mp (hnamed.resolve_left (not_not.mpr hdeclaring))
        exact ⟨named.symbol, by rw [hnamed]; rfl, h.aliased id named hnamed⟩
    obtain ⟨info, hinfo⟩ := Option.isSome_iff_exists.mp hknown
    obtain ⟨handle, hmem, hhandle⟩ := h.declared symbol info hinfo
    obtain ⟨file, hfile⟩ := Option.isSome_iff_exists.mp hhandle
    exact hnowhere file ⟨symbol, info, handle, hsymbol, hinfo, hmem, hfile⟩
  · rintro hnameless file ⟨symbol, _, _, hsymbol, _⟩
    obtain ⟨hdeclaring, halias⟩ := not_or.mp hnameless
    rw [not_not.mp hdeclaring, not_not.mp halias] at hsymbol
    cases hsymbol

end Sourced

theorem sourced_new (program : Program) : Sourced (new program) := by
  have hsymbols : ∀ symbol, (new program).symbol? symbol = none := by
    simp [new, function, register, addFile, symbol?]
  constructor
  case library => rfl
  case declared =>
    intro symbol info hinfo
    rw [hsymbols] at hinfo
    cases hinfo
  case typed =>
    intro id symbol hsymbol
    have hstored : id.index < 14 := by
      refine ((orderly_new program).stored id).mp ?_
      rw [declaringSymbol?_eq] at hsymbol
      exact Option.isSome_of_isSome_bind (Option.isSome_of_mem hsymbol)
    obtain ⟨index⟩ := id
    interval_cases index <;> cases hsymbol
  case aliased =>
    intro id named hid
    simp [new, function, register, addFile, aliasOf?] at hid
  case listed =>
    intro name symbol hname
    simp [new, function, register, addFile] at hname

/-- If symbols were declared before they were used, every symbol has a declaration. -/
theorem sourced_of_sources {program : Program} (h : Relation.ReflTransGen Sources (new program) store) :
    Sourced store := by
  induction h with
  | refl => exact sourced_new program
  | tail _ hstep ih => exact ih.step hstep

/-! ### Rules for the standard library -/

theorem picks_library (identity : TypeId → Identity) (store : Store) (ref : TypeRef)
    {specifier : Specifier} (hlibrary : specifier.provenance = some .library) :
    specifier.picks ((hostWith identity).subject store ref) = true ↔
      Specifier.nameMatches (store.typeName ref) specifier.names specifier.patterns = true ∧
      specifier.ignores (store.typeName ref) = false ∧
      (store.LibraryDeclared ref.id ∨ store.Undeclared ref.id) := by
  rw [Specifier.picks, hlibrary, Option.all_some, Provenance.admits, Bool.and_eq_true, Bool.and_eq_true,
    Bool.not_eq_true', and_assoc, ← inLibrary_iff]
  rfl

theorem provenance_of_mem_defaults {rule : Rule} (h : rule ∈ Rule.defaults) :
    rule.specifier.provenance = some .library := by
  obtain ⟨name, _, rfl⟩ := List.mem_map.mp h
  rfl

/-- A rule for the standard library picks the types with its names that are declared in the library or
in no known file. If symbols were declared before they were used, the latter are the types without a
name; so a type of the user that has a name is picked by no such rule, and by none of the rules that
apply by default. -/
theorem picks_library_iff (identity : TypeId → Identity) (store : Store) (ref : TypeRef)
    (specifier : Specifier) (hlibrary : specifier.provenance = some .library) :
    let subject := (hostWith identity).subject store ref
    (specifier.picks subject = true ↔
      Specifier.nameMatches (store.typeName ref) specifier.names specifier.patterns = true ∧
      specifier.ignores (store.typeName ref) = false ∧
      (store.LibraryDeclared ref.id ∨ store.Undeclared ref.id)) ∧
    ∀ program, Relation.ReflTransGen Sources (new program) store →
      (store.Undeclared ref.id ↔ ¬ store.Named ref.id) ∧
      (store.Named ref.id → ¬ store.LibraryDeclared ref.id →
        specifier.picks subject = false ∧ Rule.find? Rule.defaults subject = none) := by
  intro subject
  refine ⟨picks_library identity store ref hlibrary, fun program hsources => ?_⟩
  have hundeclared : store.Undeclared ref.id ↔ ¬ store.Named ref.id :=
    (sourced_of_sources hsources).undeclared_iff
  refine ⟨hundeclared, fun hnamed hforeign => ?_⟩
  have hnone : ∀ specifier : Specifier, specifier.provenance = some .library →
      ¬ specifier.picks subject = true := by
    intro specifier hlibrary hpicks
    obtain ⟨_, _, hdeclared⟩ := (picks_library identity store ref hlibrary).mp hpicks
    rcases hdeclared with hdeclared | hnowhere
    · exact hforeign hdeclared
    · exact hundeclared.mp hnowhere hnamed
  refine ⟨Bool.eq_false_iff.mpr (hnone specifier hlibrary), ?_⟩
  refine List.find?_eq_none.mpr fun rule hrule => ?_
  exact hnone rule.specifier (provenance_of_mem_defaults hrule)

/-- A store with an interface `Map` that the user has declared. -/
def ownMap : Store :=
  let (file, store) := (new defaultProgram).addFile (.project "/project/map.ts")
  (store.interface "Map" [file] []).2

theorem picks_library_iff_ownMap :
    ownMap.declaringSymbol? ⟨14⟩ = some ⟨1⟩ ∧ ¬ ownMap.LibraryDeclared ⟨14⟩ ∧
    Rule.find? Rule.defaults (host.subject ownMap { id := ⟨14⟩ }) = none := by
  have hsources : Relation.ReflTransGen Sources (new defaultProgram) ownMap := by
    refine .tail (.single (.addFile (.project "/project/map.ts")))
      (.answer (.interface "Map" [⟨2⟩] []) trivial ?_)
    exact ⟨⟨2⟩, List.mem_singleton_self _, by decide +kernel⟩
  have hsymbol : ownMap.declaringSymbol? ⟨14⟩ = some ⟨1⟩ := by decide +kernel
  have hforeign : ¬ ownMap.LibraryDeclared ⟨14⟩ := by decide +kernel
  have hnamed : ownMap.Named ⟨14⟩ := Or.inl (by rw [hsymbol]; exact Option.some_ne_none _)
  have hpicks := picks_library_iff ownIdentity ownMap { id := ⟨14⟩ } { provenance := some .library } rfl
  exact ⟨hsymbol, hforeign, ((hpicks.2 defaultProgram hsources).2 hnamed hforeign).2⟩

/-- A store with an object type that the user has written out. -/
def writtenOut : Store :=
  ((new defaultProgram).record
    [{ name := "a", type := Intrinsic.number.id, flags := { readonly := true } }]).2

/-- A store with an interface `Map` that is declared in no file. -/
def lostMap : Store := ((new defaultProgram).interface "Map" [] []).2

/-- A rule for the standard library picks an object type that the user has written out, and the rules
that apply by default pick an interface that is declared in no file. -/
theorem picks_library_unnamed :
    (Specifier.picks { names := ["\x7b readonly a: number; \x7d"], provenance := some .library }
        (host.subject writtenOut { id := ⟨14⟩ }) = true ∧
      writtenOut.shape ⟨14⟩ = .object .plain ∧ ¬ writtenOut.LibraryDeclared ⟨14⟩) ∧
    ((Rule.find? Rule.defaults (host.subject lostMap { id := ⟨14⟩ })).isSome = true ∧
      lostMap.shape ⟨14⟩ = .object .plain ∧ ¬ lostMap.LibraryDeclared ⟨14⟩) := by
  decide +kernel

end Store

end Immutability

import Immutability.Proofs.ComposedTypes
import Immutability.Proofs.Phrases
import Immutability.Proofs.RenderingSketches

/-!
# How composed types are spelled

The text of a composed type that is not cut off is spelled with the words of its phrase, and nothing else
can be read off it. The phrase of a type tells the forms of the type and of its parts, but for one thing:
around an array that can be written or a tuple it does not tell which arrays are read-only. So texts tell
types apart, unless an array that can be written is made of a read-only array or tuple.
-/

set_option autoImplicit false

namespace Immutability

open Relation (ReflTransGen)

namespace Phrase

def list (readonly : Bool) : Phrase → Phrase
  | name marks depth kind => name (marks + readonly.toNat) (depth + 1) kind
  | group marks depth meet first second rest =>
    group (marks + readonly.toNat) (depth + 1) meet first second rest
  | row marks depth elements => row (marks + readonly.toNat) (depth + 1) elements

def joined (meet : Bool) : List Phrase → Phrase
  | first :: second :: rest => group 0 0 meet first second rest
  | _ => name 0 0 .never

variable {phrase other : Phrase} {readonly : Bool}

theorem marks_list (phrase : Phrase) (readonly : Bool) :
    (phrase.list readonly).marks = phrase.marks + readonly.toNat := by
  cases phrase <;> rfl

theorem depth_list (phrase : Phrase) (readonly : Bool) :
    (phrase.list readonly).depth = phrase.depth + 1 := by
  cases phrase <;> rfl

theorem list_injective (h : phrase.list readonly = other.list readonly) : phrase = other := by
  cases phrase <;> cases other <;> simp_all [list]

theorem list_ne (h : other.depth = 0) : phrase.list readonly ≠ other := by
  rintro rfl
  rw [depth_list] at h
  exact Nat.succ_ne_zero _ h

theorem isBare_list (phrase : Phrase) (readonly : Bool) : (phrase.list readonly).isBare = false := by
  rw [isBare, depth_list]
  simp

theorem brackets_succ (depth : Nat) : brackets (depth + 1) = brackets depth ++ [.left, .right] := by
  induction depth with
  | zero => rfl
  | succ depth ih => exact congrArg (fun tokens => Token.left :: Token.right :: tokens) ih

/-- The word `readonly` comes before all words of the phrase, and the brackets come behind. -/
theorem words_list (phrase : Phrase) (readonly : Bool) :
    (phrase.list readonly).words =
      List.replicate readonly.toNat .readonly ++ (phrase.operand ++ [.left, .right]) := by
  have hinner : (phrase.list readonly).inner = phrase.inner := by
    cases phrase with
    | row marks depth elements => cases elements <;> rfl
    | _ => rfl
  have hgroup : (phrase.list readonly).isGroup = phrase.isGroup := by cases phrase <;> rfl
  rw [words_of_not_bare (phrase.isBare_list readonly), operand, asOperand, hinner, hgroup, marks_list,
    depth_list, brackets_succ, Nat.add_comm, List.replicate_add, operand, asOperand]
  simp only [List.append_assoc]

theorem operand_of_bare (h : phrase.isBare = true) :
    phrase.operand = .opening :: (phrase.words ++ [.closing]) := by
  obtain ⟨meet, first, second, rest, rfl⟩ := eq_of_bare h
  rw [words_of_bare h, operand, asOperand]
  exact List.append_nil _

end Phrase

/-! ### Characters of layouts -/

def Piece.chars (fill : TypeId → List Char) : Piece → List Char
  | .text fixed => fixed.toList
  | .type id => fill id

theorem chars_writeAll (fill : TypeId → String) (before : String) (pieces : List Piece) :
    (Piece.writeAll Sketch.nextText before pieces ((Piece.types pieces).map fill)).1.toList =
      before.toList ++ pieces.flatMap (Piece.chars fun id => (fill id).toList) := by
  induction pieces generalizing before with
  | nil => exact (List.append_nil _).symm
  | cons piece rest ih =>
    cases piece with
    | text fixed =>
      have hrest := ih (before ++ fixed)
      rw [String.toList_append, List.append_assoc] at hrest
      exact hrest
    | type id =>
      have hrest := ih (before ++ fill id)
      rw [String.toList_append, List.append_assoc] at hrest
      exact hrest

theorem chars_congr {fill other : TypeId → List Char} {pieces : List Piece}
    (h : ∀ id ∈ Piece.types pieces, fill id = other id) :
    pieces.flatMap (Piece.chars fill) = pieces.flatMap (Piece.chars other) := by
  induction pieces with
  | nil => rfl
  | cons piece rest ih =>
    cases piece with
    | text fixed => exact congrArg (fixed.toList ++ ·) (ih h)
    | type id =>
      obtain ⟨hfirst, hrest⟩ := List.forall_mem_cons.mp h
      rw [List.flatMap_cons, List.flatMap_cons, ih hrest, Piece.chars, Piece.chars, hfirst]

theorem chars_separated (fill : TypeId → List Char) (between : String) (first : List Piece)
    (layouts : List (List Piece)) :
    (Layout.separated between (first :: layouts)).flatMap (Piece.chars fill) =
      first.flatMap (Piece.chars fill) ++
        layouts.flatMap fun layout => between.toList ++ layout.flatMap (Piece.chars fill) := by
  induction layouts generalizing first with
  | nil => simp [Layout.separated, List.intercalate]
  | cons second layouts ih =>
    have hcons : Layout.separated between (first :: second :: layouts) =
        first ++ .text between :: Layout.separated between (second :: layouts) := by
      simp [Layout.separated, List.intercalate]
    rw [hcons, List.flatMap_append, List.flatMap_cons, ih, List.flatMap_cons, List.append_assoc]
    rfl

theorem Token.chars_append (first second : List Token) :
    chars (first ++ second) = chars first ++ chars second := List.flatMap_append

theorem Phrase.chars_chained (put : Phrase → List Token → List Token) (token : Token)
    (phrases : List Phrase) :
    Token.chars (chained put token phrases) =
      phrases.flatMap fun phrase => token.text.toList ++ Token.chars (put phrase phrase.inner) := by
  induction phrases with
  | nil => rfl
  | cons phrase rest ih =>
    rw [chained, List.flatMap_cons, ← ih, List.append_assoc, ← Token.chars_append]
    rfl

namespace Form

def layout (store : Store) : Form → List Piece
  | intrinsic kind => [.text kind.name]
  | joined meet members => Layout.separated (Token.bar meet).text (members.map store.operand)
  | tuple readonly elements =>
    .text (Layout.modifier readonly ++ "[") :: Layout.listed elements ++ [.text "]"]
  | list readonly element => .text (Layout.modifier readonly) :: store.operand element ++ [.text "[]"]

/-- The phrase of a type in this form, given the phrases of its parts. -/
def phrase (phrases : TypeId → Phrase) : Form → Phrase
  | intrinsic kind => .name 0 0 kind
  | joined meet members => .joined meet (members.map phrases)
  | tuple readonly elements => .row readonly.toNat 0 (elements.map phrases)
  | list readonly element => (phrases element).list readonly

variable {store : Store} {phrases : TypeId → Phrase}

theorem exists_of_long {members : List TypeId} (h : 2 ≤ members.length) :
    ∃ first second rest, members = first :: second :: rest := by
  rcases members with _ | ⟨first, _ | ⟨second, rest⟩⟩
  · exact absurd h (Nat.not_succ_le_zero 1)
  · exact absurd h (Nat.not_succ_le_self 1)
  · exact ⟨first, second, rest, rfl⟩

theorem chars_modifier (readonly : Bool) :
    (Layout.modifier readonly).toList = Token.chars (List.replicate readonly.toNat .readonly) := by
  cases readonly <;> rfl

theorem chars_operand {id : TypeId} (h : store.needsParentheses id = (phrases id).isBare) :
    (store.operand id).flatMap (Piece.chars fun id => Token.chars (phrases id).words) =
      Token.chars (phrases id).operand := by
  rw [Store.operand, h]
  cases hbare : (phrases id).isBare with
  | false =>
    rw [← Phrase.words_of_not_bare hbare]
    exact List.append_nil _
  | true =>
    rw [Phrase.operand_of_bare hbare]
    change _ = _ ++ Token.chars (_ ++ _)
    rw [Token.chars_append]
    rfl

theorem chars_joined (meet : Bool) {first second : TypeId} {rest : List TypeId}
    (h : ∀ part ∈ first :: second :: rest, store.needsParentheses part = (phrases part).isBare) :
    (Layout.separated (Token.bar meet).text ((first :: second :: rest).map store.operand)).flatMap
        (Piece.chars fun id => Token.chars (phrases id).words) =
      Token.chars (Phrase.joined meet ((first :: second :: rest).map phrases)).words := by
  obtain ⟨hfirst, hrest⟩ := List.forall_mem_cons.mp h
  have hwords : (Phrase.joined meet ((first :: second :: rest).map phrases)).words =
      (phrases first).operand ++
        Phrase.chained Phrase.asOperand (.bar meet) ((second :: rest).map phrases) := rfl
  rw [hwords, List.map_cons, chars_separated, chars_operand hfirst, Token.chars_append,
    Phrase.chars_chained, List.flatMap_map, List.flatMap_map]
  refine congrArg _ (List.flatMap_congr fun part hpart => ?_)
  rw [chars_operand (hrest part hpart)]
  rfl

theorem chars_row (marks depth : Nat) (elements : List TypeId) :
    (Piece.text "[" :: (Layout.listed elements ++ [Piece.text "]"])).flatMap
        (Piece.chars fun id => Token.chars (phrases id).words) =
      Token.chars (Phrase.row marks depth (elements.map phrases)).inner := by
  cases elements with
  | nil => rfl
  | cons first rest =>
    have hinner : (Phrase.row marks depth ((first :: rest).map phrases)).inner =
        [.left] ++ ((phrases first).words ++
          (Phrase.chained Phrase.asPhrase .comma (rest.map phrases) ++ [.right])) := rfl
    rw [hinner, Layout.listed, List.map_cons, List.flatMap_cons, List.flatMap_append, chars_separated,
      Token.chars_append, Token.chars_append, Token.chars_append, Phrase.chars_chained,
      List.flatMap_map, List.flatMap_map, List.append_assoc]
    simp [Piece.chars, Token.text, Token.chars, Phrase.words]

/-- The layout of a form is spelled with the words of its phrase. -/
theorem chars_layout {form : Form} {id : TypeId} (hstored : form.Stored store id)
    (hparts : ∀ part ∈ form.parts, store.needsParentheses part = (phrases part).isBare) :
    (form.layout store).flatMap (Piece.chars fun id => Token.chars (phrases id).words) =
      Token.chars (form.phrase phrases).words := by
  cases form with
  | intrinsic kind => rfl
  | joined meet members =>
    obtain ⟨first, second, rest, rfl⟩ := exists_of_long hstored.1
    exact chars_joined meet hparts
  | tuple readonly elements =>
    have hrow := @chars_row phrases readonly.toNat 0 elements
    have hwords : (Phrase.row readonly.toNat 0 (elements.map phrases)).words =
        List.replicate readonly.toNat .readonly ++
          (Phrase.row readonly.toNat 0 (elements.map phrases)).inner :=
      congrArg _ (List.append_nil _)
    rw [phrase, hwords, Token.chars_append, ← hrow, ← chars_modifier, layout, List.cons_append,
      List.flatMap_cons, List.flatMap_cons, Piece.chars, String.toList_append, List.append_assoc]
    rfl
  | list readonly element =>
    have hoperand := chars_operand (hparts element (List.mem_singleton_self element))
    rw [layout, phrase, Phrase.words_list, Token.chars_append, Token.chars_append, ← hoperand,
      ← chars_modifier, List.cons_append, List.flatMap_cons, List.flatMap_append]
    rfl

theorem types_layout (store : Store) (form : Form) : Piece.types (form.layout store) = form.parts := by
  cases form with
  | intrinsic kind => rfl
  | joined meet members => exact store.types_operands _ members
  | tuple readonly elements =>
    change Piece.types (Layout.listed elements ++ [.text "]"]) = elements
    rw [Piece.types_append, Layout.types_listed]
    exact List.append_nil elements
  | list readonly element =>
    change Piece.types (store.operand element ++ [.text "[]"]) = [element]
    rw [Piece.types_append, Store.types_operand]
    rfl

/-- Whether a type in this form is written with the word `readonly` in front. -/
def marked : Form → Bool
  | tuple readonly _ => readonly
  | list readonly _ => readonly
  | _ => false

/-- Whether a type in this form stands in parentheses as an operand. -/
def isJoined : Form → Bool
  | joined _ _ => true
  | _ => false

theorem isBare_phrase {form : Form} {id : TypeId} (hstored : form.Stored store id) :
    (form.phrase phrases).isBare = form.isJoined := by
  cases form with
  | intrinsic kind => rfl
  | joined meet members =>
    obtain ⟨first, second, rest, rfl⟩ := exists_of_long hstored.1
    rfl
  | tuple readonly elements => rfl
  | list readonly element => exact Phrase.isBare_list _ readonly

theorem eq_of_map_eq {others : TypeId → Phrase} {first second : List TypeId}
    (h : ∀ id ∈ first, ∀ other ∈ second, phrases id = others other → id = other)
    (hsame : first.map phrases = second.map others) : first = second := by
  induction first generalizing second with
  | nil => exact (List.map_eq_nil_iff.mp hsame.symm).symm
  | cons id rest ih =>
    cases second with
    | nil => cases hsame
    | cons other second =>
      obtain ⟨hid, hrest⟩ := List.cons.inj hsame
      rw [h id List.mem_cons_self other List.mem_cons_self hid,
        ih (fun id hid other hother => h id (List.mem_cons_of_mem _ hid) other
          (List.mem_cons_of_mem _ hother)) hrest]

/-- A form is told by its phrase, if it is told whether it is marked. -/
theorem eq_of_phrase {form other : Form} {others : TypeId → Phrase} {id same : TypeId}
    (hform : form.Stored store id) (hother : other.Stored store same)
    (hmarked : form.marked = other.marked)
    (hparts : ∀ part ∈ form.parts, ∀ like ∈ other.parts, phrases part = others like → part = like)
    (h : form.phrase phrases = other.phrase others) : form = other := by
  -- arrays are told from the other forms by the brackets around them
  cases form with
  | intrinsic kind =>
    cases other with
    | intrinsic same =>
      cases h
      rfl
    | joined meet members =>
      obtain ⟨first, second, rest, rfl⟩ := exists_of_long hother.1
      cases h
    | tuple readonly elements => cases h
    | list readonly element => exact absurd h.symm (Phrase.list_ne rfl)
  | joined meet members =>
    obtain ⟨first, second, rest, rfl⟩ := exists_of_long hform.1
    cases other with
    | intrinsic same => cases h
    | joined like members =>
      obtain ⟨head, next, tail, rfl⟩ := exists_of_long hother.1
      obtain ⟨_, _, rfl, hfirst, hsecond, hrest⟩ := Phrase.group.inj h
      have hmembers : (first :: second :: rest).map phrases = (head :: next :: tail).map others := by
        rw [List.map_cons, List.map_cons, hfirst, hsecond, hrest]
        rfl
      exact congrArg (joined meet) (eq_of_map_eq hparts hmembers)
    | tuple readonly elements => cases h
    | list readonly element => exact absurd h.symm (Phrase.list_ne rfl)
  | tuple readonly elements =>
    cases other with
    | intrinsic same => cases h
    | joined meet members =>
      obtain ⟨first, second, rest, rfl⟩ := exists_of_long hother.1
      cases h
    | tuple like others =>
      obtain rfl : readonly = like := hmarked
      exact congrArg (tuple readonly) (eq_of_map_eq hparts (Phrase.row.inj h).2.2)
    | list readonly element => exact absurd h.symm (Phrase.list_ne rfl)
  | list readonly element =>
    cases other with
    | intrinsic same => exact absurd h (Phrase.list_ne rfl)
    | joined meet members =>
      obtain ⟨first, second, rest, rfl⟩ := exists_of_long hother.1
      exact absurd h (Phrase.list_ne rfl)
    | tuple readonly elements => exact absurd h (Phrase.list_ne rfl)
    | list like same =>
      obtain rfl : readonly = like := hmarked
      exact congrArg (list readonly) (hparts element (List.mem_singleton_self _) same
        (List.mem_singleton_self _) (Phrase.list_injective h))

end Form

/-! ### Stored types -/

namespace Store

def marked (store : Store) (id : TypeId) : Bool :=
  match store.object? id with
  | none => false
  | some object =>
    match object.kind with
    | .array => object.symbol.bind store.symbolName? == some "ReadonlyArray"
    | .tuple readonly => readonly
    | .plain => false

/-- What the text of a composed type tells, down to some level. -/
def phrase (store : Store) : Nat → TypeId → Phrase
  | 0, _ => .name 0 0 .never
  | levels + 1, id =>
    match store.get? id with
    | some (.intrinsic kind) => .name 0 0 kind
    | some (.union members) => .joined false (members.map (store.phrase levels))
    | some (.intersection members) => .joined true (members.map (store.phrase levels))
    | some (.object object) =>
      match object.kind with
      | .array =>
        (store.phrase levels (object.typeArguments.head?.getD Intrinsic.unknown.id)).list
          (store.marked id)
      | .tuple readonly => .row readonly.toNat 0 (object.typeArguments.map (store.phrase levels))
      | .plain => .name 0 0 .never
    | _ => .name 0 0 .never

/-- What a store shows of a type that is in some form. -/
structure Reads (store : Store) (id : TypeId) (form : Form) : Prop where
  layout : store.layout id = form.layout store
  phrase : ∀ levels, store.phrase (levels + 1) id = form.phrase (store.phrase levels)
  marked : store.marked id = form.marked
  parentheses : store.needsParentheses id = form.isJoined

variable {store : Store} {made : List TypeId} {id : TypeId}

theorem Stocked.reads (h : Stocked store made) {form : Form} (hstored : form.Stored store id)
    (hplain : store.aliasOf? id = none) : Reads store id form := by
  have hnamed : store.namedAlias? id = none := by
    rw [namedAlias?, hplain]
    rfl
  cases form with
  | intrinsic kind =>
    obtain rfl := hstored
    have hget := h.genuine.intrinsic kind
    constructor
    case layout => rw [layout, hnamed, hget]; rfl
    case phrase => intro levels; rw [phrase, hget]; rfl
    case marked => rw [marked, object?, hget]; rfl
    case parentheses => rw [needsParentheses, hplain, hget]; rfl
  | joined meet members =>
    have hrests := h.genuine.rests _ id hstored.2 List.not_mem_nil
    have hget : store.get? id = some (.joined meet members) := by cases meet <;> exact hrests
    constructor
    case layout => rw [layout, hnamed, hget]; cases meet <;> rfl
    case phrase => intro levels; rw [phrase, hget]; cases meet <;> rfl
    case marked => rw [marked, object?, hget]; cases meet <;> rfl
    case parentheses => rw [needsParentheses, hplain, hget]; cases meet <;> rfl
  | tuple readonly elements =>
    obtain ⟨union, _, hget⟩ := h.genuine.rests _ id hstored List.not_mem_nil
    constructor
    case layout => rw [layout, hnamed, hget]; rfl
    case phrase => intro levels; rw [phrase, hget]; rfl
    case marked => rw [marked, object?, hget]; rfl
    case parentheses => rw [needsParentheses, hplain, hget]; rfl
  | list readonly element =>
    obtain ⟨symbol, hsymbol, hid⟩ := hstored
    obtain ⟨_, hsame, hget⟩ := h.genuine.rests _ id hid List.not_mem_nil readonly hsymbol
    cases hsame
    have hname : store.symbolName? symbol = some (listName readonly) := h.labelled _ _ hsymbol
    have hword : (store.symbolName? symbol == some "ReadonlyArray") = readonly := by
      rw [hname]
      cases readonly <;> rfl
    have hmarked : store.marked id = readonly := by
      rw [marked, object?, hget]
      exact hword
    constructor
    case layout =>
      rw [layout, hnamed, hget]
      change Piece.text (Layout.modifier (store.symbolName? symbol == some "ReadonlyArray")) :: _ = _
      rw [hword]
      rfl
    case phrase =>
      intro levels
      rw [phrase, hget, hmarked]
      rfl
    case marked => exact hmarked
    case parentheses => rw [needsParentheses, hplain, hget]; rfl

/-- The types that are shown in the text of a type, and in the texts of these, and so on. -/
def Reveals (store : Store) : TypeId → TypeId → Prop :=
  ReflTransGen fun whole part => part ∈ store.shown whole

theorem Reads.shown {form : Form} (h : Reads store id form) : store.shown id = form.parts := by
  rw [← types_layout, h.layout, Form.types_layout]

variable {levels : Nat} {path : List TypeId}

theorem whole_sketch (h : (store.sketch levels path id).whole = true) :
    ∃ lower, levels = lower + 1 ∧ id ∉ path ∧
      ∀ part ∈ store.shown id, (store.sketch lower (id :: path) part).whole = true := by
  cases levels with
  | zero => cases h
  | succ lower =>
    by_cases hmem : id ∈ path
    · rw [sketch_of_mem hmem] at h
      cases h
    · rw [sketch_of_not_mem hmem] at h
      exact ⟨lower, rfl, hmem, fun part hpart => Sketch.whole_of_mem h (List.mem_map_of_mem hpart)⟩

/-- A composed type whose text shows no alias and is not cut off. -/
structure Spelled (store : Store) (levels : Nat) (path : List TypeId) (id : TypeId) : Prop where
  built : store.Built id
  plain : ∀ part, store.Reveals id part → store.aliasOf? part = none
  whole : (store.sketch levels path id).whole = true

/-- A type that is spelled is in some form, and its parts are spelled one level further down. -/
theorem Spelled.cases (h : Spelled store levels path id) (hstocked : Stocked store made) :
    ∃ lower form, levels = lower + 1 ∧ id ∉ path ∧ form.Stored store id ∧ Reads store id form ∧
      ∀ part ∈ form.parts, part ∈ store.shown id ∧ Spelled store lower (id :: path) part := by
  obtain ⟨lower, hlevels, hmem, hwhole⟩ := whole_sketch h.whole
  obtain ⟨form, _, hstored, hbelow⟩ := h.built
  have hreads := hstocked.reads hstored (h.plain id .refl)
  refine ⟨lower, form, hlevels, hmem, hstored, hreads, fun part hpart => ?_⟩
  have hshown : part ∈ store.shown id := hreads.shown ▸ hpart
  exact ⟨hshown, hbelow part hpart, fun inner hinner => h.plain inner (.head hshown hinner),
    hwhole part hshown⟩

theorem Spelled.needsParentheses (h : Spelled store levels path id) (hstocked : Stocked store made) :
    store.needsParentheses id = (store.phrase levels id).isBare := by
  obtain ⟨lower, form, rfl, _, hstored, hreads, _⟩ := h.cases hstocked
  rw [hreads.parentheses, hreads.phrase, Form.isBare_phrase hstored]

theorem texts_map (store : Store) (parts : List Sketch) :
    Sketch.texts store parts = parts.map (Sketch.text store) := by
  induction parts with
  | nil => rfl
  | cons part rest ih => rw [Sketch.texts, ih, List.map_cons]

/-- The text of a composed type is spelled with the words of its phrase. -/
theorem Spelled.chars_text (h : Spelled store levels path id) (hstocked : Stocked store made) :
    ((store.sketch levels path id).text store).toList = Token.chars (store.phrase levels id).words := by
  induction levels generalizing path id with
  | zero => cases h.whole
  | succ levels ih =>
    obtain ⟨_, form, hlevels, hmem, hstored, hreads, hparts⟩ := h.cases hstocked
    cases hlevels
    have hfill : ∀ part ∈ Piece.types (store.layout id),
        ((store.sketch levels (id :: path) part).text store).toList =
          Token.chars (store.phrase levels part).words := by
      intro part hpart
      rw [types_layout, hreads.shown] at hpart
      exact ih (hparts part hpart).2
    rw [sketch_of_not_mem hmem, Sketch.text, texts_map, List.map_map, ← types_layout]
    refine (chars_writeAll (fun part => (store.sketch levels (id :: path) part).text store) ""
      (store.layout id)).trans ?_
    rw [chars_congr hfill, hreads.layout, hreads.phrase]
    exact Form.chars_layout hstored fun part hpart => (hparts part hpart).2.needsParentheses hstocked

/-! ### What a phrase tells of a type -/

/-- Whether an array that can be written is not made of a read-only array or tuple. -/
def sharp (store : Store) (id : TypeId) : Bool :=
  match store.object? id with
  | none => true
  | some object => object.kind != .array || store.marked id || !object.typeArguments.any store.marked

theorem Stocked.marked_of_sharp (h : Stocked store made) {element : TypeId}
    (hstored : (Form.list false element).Stored store id) (hmarked : store.marked id = false)
    (hsharp : store.sharp id = true) : store.marked element = false := by
  obtain ⟨symbol, hsymbol, hid⟩ := hstored
  obtain ⟨_, hsame, hget⟩ := h.genuine.rests _ id hid List.not_mem_nil false hsymbol
  cases hsame
  rw [sharp, object?, hget, hmarked] at hsharp
  simpa [arrayType] using hsharp

/-- The phrase of a type has marks if and only if the type itself is marked. -/
theorem Spelled.marks_phrase (h : Spelled store levels path id) (hstocked : Stocked store made)
    (hsharp : ∀ part, store.Reveals id part → store.sharp part = true) :
    (store.phrase levels id).marks = 0 ↔ store.marked id = false := by
  induction levels generalizing path id with
  | zero => cases h.whole
  | succ levels ih =>
    obtain ⟨_, form, hlevels, _, hstored, hreads, hparts⟩ := h.cases hstocked
    cases hlevels
    rw [hreads.phrase, hreads.marked]
    cases form with
    | intrinsic kind => exact ⟨fun _ => rfl, fun _ => rfl⟩
    | joined meet members =>
      obtain ⟨first, second, rest, rfl⟩ := Form.exists_of_long hstored.1
      exact ⟨fun _ => rfl, fun _ => rfl⟩
    | tuple readonly elements => exact Bool.toNat_eq_zero
    | list readonly element =>
      rw [Form.phrase, Phrase.marks_list, Form.marked]
      cases readonly with
      | true => simp
      | false =>
        -- an array that can be written adds no mark, and what it is made of has none
        obtain ⟨hshown, helement⟩ := hparts element (List.mem_singleton_self element)
        have hinner := ih helement fun part hpart => hsharp part (.head hshown hpart)
        exact iff_of_true (hinner.mpr (hstocked.marked_of_sharp hstored hreads.marked (hsharp id .refl)))
          rfl

/-- Types with the same phrase are the same. -/
theorem Spelled.eq_of_phrase {others : Nat} {along : List TypeId} {other : TypeId}
    (h : Spelled store levels path id) (hother : Spelled store others along other)
    (hstocked : Stocked store made)
    (hsharp : ∀ part, store.Reveals id part → store.sharp part = true)
    (hclear : ∀ part, store.Reveals other part → store.sharp part = true)
    (hsame : store.phrase levels id = store.phrase others other) : id = other := by
  induction levels generalizing others path along id other with
  | zero => cases h.whole
  | succ levels ih =>
    have hmarks := h.marks_phrase hstocked hsharp
    have hlike := hother.marks_phrase hstocked hclear
    obtain ⟨_, form, hlevels, _, hstored, hreads, hparts⟩ := h.cases hstocked
    cases hlevels
    obtain ⟨others, like, rfl, _, hkept, hmeans, hpieces⟩ := hother.cases hstocked
    -- in a sharp type the read-only layers are the outer ones, so the marks tell of the outermost
    have hmarked : form.marked = like.marked := by
      rw [← hreads.marked, ← hmeans.marked, Bool.eq_iff_iff, ← Bool.not_eq_false, ← Bool.not_eq_false,
        not_iff_not, ← hmarks, ← hlike, hsame]
    rw [hreads.phrase, hmeans.phrase] at hsame
    have hforms : form = like := by
      refine Form.eq_of_phrase hstored hkept hmarked ?_ hsame
      intro part hpart piece hpiece
      obtain ⟨hshown, hpart⟩ := hparts part hpart
      obtain ⟨hseen, hpiece⟩ := hpieces piece hpiece
      exact ih hpart hpiece (fun inner hinner => hsharp inner (.head hshown hinner))
        (fun inner hinner => hclear inner (.head hseen hinner))
    rw [hforms] at hstored
    exact hstored.unique hkept

/-! ### Texts -/

/-- A type whose text shows no alias and stays within the limits of a guard. -/
structure Legible (store : Store) (id : TypeId) : Prop where
  plain : ∀ part, store.Reveals id part → store.aliasOf? part = none
  whole : (store.sketch 8 [] id).whole = true
  size : (store.sketch 8 [] id).size ≤ 10000

theorem Legible.spelled (h : Legible store id) (hbuilt : store.Built id) : Spelled store 8 [] id :=
  ⟨hbuilt, h.plain, h.whole⟩

theorem Legible.chars_render (h : Legible store id) (hstocked : Stocked store made) (hid : id ∈ made) :
    (store.render id ({} : Guard)).1.toList = Token.chars (store.phrase 8 id).words := by
  rw [(store.render_sketch id h.size).1, (h.spelled (hstocked.built id hid)).chars_text hstocked]

/-- Two composed types have the same text if and only if they have the same phrase. If no array that can
be written is made of a read-only array or tuple in them, only one type has this text. -/
theorem render_unambiguous {program : Program} (hcomposed : Composed program store made)
    {first second : TypeId} (hfirst : first ∈ made) (hsecond : second ∈ made)
    (hlegible : Legible store first) (hreadable : Legible store second) :
    ((store.render first ({} : Guard)).1 = (store.render second ({} : Guard)).1 ↔
      store.phrase 8 first = store.phrase 8 second) ∧
    ((∀ part, store.Reveals first part ∨ store.Reveals second part → store.sharp part = true) →
      (store.render first ({} : Guard)).1 = (store.render second ({} : Guard)).1 →
        first = second) := by
  have hstocked := stocked_of_composed hcomposed
  have htext : (store.render first ({} : Guard)).1 = (store.render second ({} : Guard)).1 ↔
      store.phrase 8 first = store.phrase 8 second := by
    rw [← String.toList_inj, hlegible.chars_render hstocked hfirst,
      hreadable.chars_render hstocked hsecond]
    refine ⟨fun hchars => ?_, fun hphrase => by rw [hphrase]⟩
    exact Phrase.words_injective (Token.chars_injective hchars)
  refine ⟨htext, fun hsharp hsame => ?_⟩
  have hspelled := hlegible.spelled (hstocked.built first hfirst)
  have hread := hreadable.spelled (hstocked.built second hsecond)
  exact hspelled.eq_of_phrase hread hstocked (fun part hpart => hsharp part (Or.inl hpart))
    (fun part hpart => hsharp part (Or.inr hpart)) (htext.mp hsame)

theorem Reveals.mem_of_closed {ids : List TypeId} {part : TypeId} (h : store.Reveals id part)
    (hid : id ∈ ids) (hclosed : ∀ whole ∈ ids, ∀ part ∈ store.shown whole, part ∈ ids) : part ∈ ids := by
  induction h with
  | refl => exact hid
  | tail _ hpart ih => exact hclosed _ ih _ hpart

/-- A store with an array `⟨16⟩` of a union, and a union `⟨17⟩` with an array. -/
def sampler : Store :=
  [.array Intrinsic.number.id,
   .union [Intrinsic.string.id, Intrinsic.number.id],
   .array ⟨15⟩,
   .union [Intrinsic.string.id, ⟨14⟩]].foldl (fun store call => (Call.run store call).2)
    (new defaultProgram)

theorem composed_sampler :
    ∃ made, Composed defaultProgram sampler made ∧ ⟨16⟩ ∈ made ∧ ⟨17⟩ ∈ made := by
  have hnew : (new defaultProgram).Unclaimed "Array" := by
    intro _ arguments
    simp [new, function, register, addFile, interned?]
  have hnumbers := Composed.make .start (.array Intrinsic.number.id)
    (List.mem_map_of_mem (by decide)) hnew
  have hunion := hnumbers.make (.union [Intrinsic.string.id, Intrinsic.number.id])
    (List.forall_mem_cons.mpr (by decide +kernel)) trivial
  have harray := hunion.make (.array ⟨15⟩) (List.mem_of_elem_eq_true (by decide +kernel))
    fun hnone => absurd hnone (by decide +kernel)
  have hcomposed : Composed defaultProgram sampler _ := harray.make (.union [Intrinsic.string.id, ⟨14⟩])
    (List.forall_mem_cons.mpr (by decide +kernel)) trivial
  exact ⟨_, hcomposed, by decide +kernel, by decide +kernel⟩

theorem render_unambiguous_sampler :
    (∃ made, Composed defaultProgram sampler made ∧ ⟨16⟩ ∈ made ∧ ⟨17⟩ ∈ made) ∧
    sampler.Legible ⟨16⟩ ∧ sampler.Legible ⟨17⟩ ∧
    (sampler.render ⟨16⟩ ({} : Guard)).1 ≠ (sampler.render ⟨17⟩ ({} : Guard)).1 := by
  let ids : List TypeId := [⟨16⟩, ⟨17⟩, ⟨15⟩, ⟨14⟩, Intrinsic.string.id, Intrinsic.number.id]
  have hclosed : ∀ whole ∈ ids, ∀ part ∈ sampler.shown whole, part ∈ ids := by decide +kernel
  have hids : ∀ part ∈ ids, sampler.aliasOf? part = none ∧ sampler.sharp part = true := by
    decide +kernel
  have harray : sampler.Legible ⟨16⟩ := by
    refine ⟨fun part hpart => ?_, by decide +kernel, by decide +kernel⟩
    exact (hids part (hpart.mem_of_closed (by decide +kernel) hclosed)).1
  have hunion : sampler.Legible ⟨17⟩ := by
    refine ⟨fun part hpart => ?_, by decide +kernel, by decide +kernel⟩
    exact (hids part (hpart.mem_of_closed (by decide +kernel) hclosed)).1
  refine ⟨composed_sampler, harray, hunion, fun hsame => ?_⟩
  obtain ⟨made, hcomposed, hfirst, hsecond⟩ := composed_sampler
  have hequal := (render_unambiguous hcomposed hfirst hsecond harray hunion).2 ?_ hsame
  · cases hequal
  · rintro part (hpart | hpart)
    · exact (hids part (hpart.mem_of_closed (by decide +kernel) hclosed)).2
    · exact (hids part (hpart.mem_of_closed (by decide +kernel) hclosed)).2

/-- A read-only array of arrays and an array of read-only arrays have the same text. -/
theorem render_ambiguous :
    let (array, store) := (new defaultProgram).array Intrinsic.string.id
    let (outer, store) := store.readonlyArray array
    let (fixed, store) := store.readonlyArray Intrinsic.string.id
    let (inner, store) := store.array fixed
    outer ≠ inner ∧ (store.render outer ({} : Guard)).1 = "readonly string[][]" ∧
      (store.render inner ({} : Guard)).1 = "readonly string[][]" := by
  decide +kernel

end Store

end Immutability

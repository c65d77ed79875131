import Immutability.Store.Data
import Mathlib.Data.List.Infix
import Mathlib.Tactic.Common

/-!
# Phrases

What the text of a union, an intersection, an array or a tuple tells is a phrase: the names in it, the
groups and the rows, and around each of them how many arrays there are and how many words `readonly`
stand in front. Which of the arrays these words belong to is not told.

A phrase is read off its words in one way only (`words_injective`), and the words off the characters
(`chars_injective`). Where a phrase ends is seen from what comes next: an operand goes on as long as
brackets follow, and a phrase as long as brackets or bars follow.
-/

set_option autoImplicit false

namespace Immutability

/-! ### Words -/

inductive Token where
  | name (kind : Intrinsic)
  | readonly
  | opening
  | closing
  | left
  | right
  | comma
  | bar (meet : Bool)
deriving DecidableEq, Repr

namespace Token

def text : Token → String
  | name kind => kind.name
  | readonly => "readonly "
  | opening => "("
  | closing => ")"
  | left => "["
  | right => "]"
  | comma => ", "
  | bar false => " | "
  | bar true => " & "

def chars (tokens : List Token) : List Char := tokens.flatMap (·.text.toList)

def all : List Token :=
  Intrinsic.all.map name ++
    [readonly, opening, closing, left, right, comma, bar false, bar true]

theorem mem_all (token : Token) : token ∈ all := by
  cases token with
  | name kind => cases kind <;> decide
  | bar meet => cases meet <;> decide
  | _ => decide

theorem text_ne_nil (token : Token) : token.text.toList ≠ [] := by
  have hall : ∀ token ∈ all, token.text.toList ≠ [] := by decide +kernel
  exact hall token token.mem_all

/-- No word is the beginning of another. -/
theorem eq_of_begins {first second : Token} (h : first.text.toList <+: second.text.toList) :
    first = second := by
  have hall : ∀ first ∈ all, ∀ second ∈ all,
      first.text.toList.isPrefixOf second.text.toList = true → first = second := by decide +kernel
  exact hall first first.mem_all second second.mem_all (List.isPrefixOf_iff_prefix.mpr h)

/-- Characters are cut into words in one way only. -/
theorem chars_injective {first second : List Token} (h : chars first = chars second) :
    first = second := by
  have hcons : ∀ (token : Token) (rest : List Token), chars (token :: rest) ≠ chars [] := by
    intro token rest he
    exact token.text_ne_nil (List.append_eq_nil_iff.mp he).1
  induction first generalizing second with
  | nil =>
    cases second with
    | nil => rfl
    | cons token rest => exact absurd h.symm (hcons token rest)
  | cons token rest ih =>
    cases second with
    | nil => exact absurd h (hcons token rest)
    | cons other others =>
      have hsame : token.text.toList ++ chars rest = other.text.toList ++ chars others := h
      have htoken : token = other := by
        rcases List.append_eq_append_iff.mp hsame with ⟨more, hmore, _⟩ | ⟨more, hmore, _⟩
        · exact eq_of_begins ⟨more, hmore.symm⟩
        · exact (eq_of_begins ⟨more, hmore.symm⟩).symm
      subst htoken
      rw [ih (List.append_cancel_left hsame)]

end Token

/-! ### Phrases and their words -/

/-- What a text tells of a type: a name, a group of operands or a row of elements, the arrays around it
and the words `readonly` in front. -/
inductive Phrase where
  | name (marks depth : Nat) (kind : Intrinsic)
  | group (marks depth : Nat) (meet : Bool) (first second : Phrase) (rest : List Phrase)
  | row (marks depth : Nat) (elements : List Phrase)

namespace Phrase

def marks : Phrase → Nat
  | name marks _ _ | group marks _ _ _ _ _ | row marks _ _ => marks

def depth : Phrase → Nat
  | name _ depth _ | group _ depth _ _ _ _ | row _ depth _ => depth

def isGroup : Phrase → Bool
  | group .. => true
  | _ => false

def isBare (phrase : Phrase) : Bool := phrase.isGroup && phrase.marks == 0 && phrase.depth == 0

def brackets : Nat → List Token
  | 0 => []
  | depth + 1 => .left :: .right :: brackets depth

def enclosed (isGroup : Bool) (inner : List Token) : List Token :=
  if isGroup then .opening :: (inner ++ [.closing]) else inner

/-- The words of a phrase as an operand, where a group stands in parentheses, given its inner words. -/
def asOperand (phrase : Phrase) (inner : List Token) : List Token :=
  List.replicate phrase.marks .readonly ++ (enclosed phrase.isGroup inner ++ brackets phrase.depth)

def asPhrase (phrase : Phrase) (inner : List Token) : List Token :=
  if phrase.isBare then inner else phrase.asOperand inner

mutual

/-- The words of a phrase without the arrays around it. -/
def inner : Phrase → List Token
  | name _ _ kind => [.name kind]
  | group _ _ meet first second rest =>
    first.asOperand first.inner ++
      (.bar meet :: (second.asOperand second.inner ++ chained asOperand (.bar meet) rest))
  | row _ _ [] => [.left, .right]
  | row _ _ (first :: rest) =>
    .left :: (first.asPhrase first.inner ++ (chained asPhrase .comma rest ++ [.right]))

/-- The words of phrases, with a word in front of each. -/
def chained (put : Phrase → List Token → List Token) (token : Token) : List Phrase → List Token
  | [] => []
  | phrase :: rest => token :: (put phrase phrase.inner ++ chained put token rest)

end

def operand (phrase : Phrase) : List Token := phrase.asOperand phrase.inner

def words (phrase : Phrase) : List Token := phrase.asPhrase phrase.inner

variable {phrase other first second : Phrase} {rest : List Phrase} {marks depth : Nat} {meet : Bool}

theorem words_of_bare (h : phrase.isBare = true) : phrase.words = phrase.inner := if_pos h

theorem words_of_not_bare (h : phrase.isBare = false) : phrase.words = phrase.operand := by
  rw [words, asPhrase, h]
  rfl

theorem inner_group :
    (group marks depth meet first second rest).inner =
      first.operand ++ chained asOperand (.bar meet) (second :: rest) := rfl

theorem eq_of_bare (h : phrase.isBare = true) :
    ∃ meet first second rest, phrase = group 0 0 meet first second rest := by
  cases phrase with
  | name marks depth kind => cases h
  | row marks depth elements => cases h
  | group marks depth meet first second rest =>
    simp only [isBare, Bool.and_eq_true, beq_iff_eq] at h
    obtain ⟨⟨_, hmarks⟩, hdepth⟩ := h
    cases hmarks
    cases hdepth
    exact ⟨meet, first, second, rest, rfl⟩

/-- An induction on phrases whose parts are in lists. -/
theorem induction {motive : Phrase → Prop}
    (name : ∀ marks depth kind, motive (name marks depth kind))
    (group : ∀ marks depth meet first second rest, motive first → motive second →
      (∀ phrase ∈ rest, motive phrase) → motive (group marks depth meet first second rest))
    (row : ∀ marks depth elements, (∀ phrase ∈ elements, motive phrase) →
      motive (row marks depth elements)) (phrase : Phrase) : motive phrase :=
  @Phrase.rec motive (fun phrases => ∀ phrase ∈ phrases, motive phrase) name
    (fun marks depth meet first second rest => group marks depth meet first second rest)
    row (fun _ h => absurd h List.not_mem_nil)
    (fun _ _ hfirst hrest => List.forall_mem_cons.mpr ⟨hfirst, hrest⟩) phrase

/-! ### Where a phrase ends -/

def NoBracket (tokens : List Token) : Prop := tokens.head? ≠ some .left

def Ended (tokens : List Token) : Prop :=
  NoBracket tokens ∧ ∀ meet, tokens.head? ≠ some (.bar meet)

theorem noBracket_cons {token : Token} (h : token ≠ .left) (tokens : List Token) :
    NoBracket (token :: tokens) := fun he => h (Option.some.inj he)

theorem ended_cons {token : Token} (hleft : token ≠ .left) (hbar : ∀ meet, token ≠ .bar meet)
    (tokens : List Token) : Ended (token :: tokens) :=
  ⟨noBracket_cons hleft tokens, fun meet he => hbar meet (Option.some.inj he)⟩

theorem ended_nil : Ended [] := by
  constructor
  · intro h
    cases h
  · intro meet h
    cases h

variable {before after : List Token}

theorem brackets_cancel {more : Nat} (hbefore : NoBracket before) (hafter : NoBracket after)
    (h : brackets depth ++ before = brackets more ++ after) : depth = more ∧ before = after := by
  induction depth generalizing more with
  | zero =>
    cases more with
    | zero => exact ⟨rfl, h⟩
    | succ more => exact absurd (congrArg List.head? h) hbefore
  | succ depth ih =>
    cases more with
    | zero => exact absurd (congrArg List.head? h).symm hafter
    | succ more =>
      obtain ⟨hdepth, hrest⟩ := ih (List.cons.inj (List.cons.inj h).2).2
      exact ⟨congrArg _ hdepth, hrest⟩

theorem marks_cancel {more : Nat} (hbefore : before.head? ≠ some .readonly)
    (hafter : after.head? ≠ some .readonly)
    (h : List.replicate marks .readonly ++ before = List.replicate more .readonly ++ after) :
    marks = more ∧ before = after := by
  induction marks generalizing more with
  | zero =>
    cases more with
    | zero => exact ⟨rfl, h⟩
    | succ more => exact absurd (congrArg List.head? h) hbefore
  | succ marks ih =>
    cases more with
    | zero => exact absurd (congrArg List.head? h).symm hafter
    | succ more =>
      obtain ⟨hmarks, hrest⟩ := ih (List.cons.inj h).2
      exact ⟨congrArg _ hmarks, hrest⟩

/-- The words of a phrase, put in some way, are told from what follows. -/
def Cancels (put : Phrase → List Token → List Token) (Follows : List Token → Prop) (phrase : Phrase) :
    Prop :=
  ∀ other before after, Follows before → Follows after →
    put phrase phrase.inner ++ before = put other other.inner ++ after →
      phrase = other ∧ before = after

theorem chained_cancel {put : Phrase → List Token → List Token} {Follows : List Token → Prop}
    {token : Token} {phrases others : List Phrase} (h : ∀ phrase ∈ phrases, Cancels put Follows phrase)
    (htoken : ∀ tokens, Follows (token :: tokens)) (hbefore : Follows before) (hafter : Follows after)
    (hstops : before.head? ≠ some token) (hends : after.head? ≠ some token)
    (hsame : chained put token phrases ++ before = chained put token others ++ after) :
    phrases = others ∧ before = after := by
  -- a phrase of the chain is followed by the next word or by what follows the chain
  have hfollows : ∀ (phrases : List Phrase) {tokens : List Token}, Follows tokens →
      Follows (chained put token phrases ++ tokens) := by
    intro phrases tokens htokens
    cases phrases with
    | nil => exact htokens
    | cons phrase rest => exact htoken _
  induction phrases generalizing others with
  | nil =>
    cases others with
    | nil => exact ⟨rfl, hsame⟩
    | cons other others => exact absurd (congrArg List.head? hsame) hstops
  | cons phrase phrases ih =>
    cases others with
    | nil => exact absurd (congrArg List.head? hsame).symm hends
    | cons other others =>
      obtain ⟨hphrase, hphrases⟩ := List.forall_mem_cons.mp h
      rw [chained, chained, List.cons_append, List.cons_append, List.append_assoc, List.append_assoc,
        List.cons.injEq] at hsame
      obtain ⟨rfl, hrest⟩ :=
        hphrase other _ _ (hfollows phrases hbefore) (hfollows others hafter) hsame.2
      obtain ⟨rfl, htail⟩ := ih hphrases hrest
      exact ⟨rfl, htail⟩

theorem noBracket_bar (meet : Bool) (tokens : List Token) : NoBracket (.bar meet :: tokens) := by
  apply noBracket_cons
  intro h
  cases h

/-- The operands of a group are told from what follows, as long as this is neither a bracket nor a bar. -/
theorem group_cancel {joined : Bool} {head next : Phrase} {others : List Phrase}
    (hfirst : Cancels asOperand NoBracket first)
    (hrest : ∀ phrase ∈ second :: rest, Cancels asOperand NoBracket phrase)
    (hbefore : Ended before) (hafter : Ended after)
    (h : first.operand ++ (chained asOperand (.bar meet) (second :: rest) ++ before) =
      head.operand ++ (chained asOperand (.bar joined) (next :: others) ++ after)) :
    (first = head ∧ meet = joined ∧ second = next ∧ rest = others) ∧ before = after := by
  obtain ⟨rfl, hchained⟩ := hfirst head (chained asOperand (.bar meet) (second :: rest) ++ before)
    (chained asOperand (.bar joined) (next :: others) ++ after) (noBracket_bar meet _)
    (noBracket_bar joined _) h
  obtain rfl : meet = joined := Token.bar.inj (List.cons.inj hchained).1
  obtain ⟨hsame, hbehind⟩ := chained_cancel hrest (noBracket_bar meet) hbefore.1 hafter.1 (hbefore.2 meet)
    (hafter.2 meet) hchained
  obtain ⟨rfl, rfl⟩ := List.cons.inj hsame
  exact ⟨⟨rfl, rfl, rfl, rfl⟩, hbehind⟩

/-- A phrase begins with a name, a parenthesis or a bracket, behind its marks. -/
theorem exists_enclosed_cons (phrase : Phrase) : ∃ token tokens,
    enclosed phrase.isGroup phrase.inner = token :: tokens ∧ token ≠ .readonly ∧ token ≠ .right := by
  cases phrase with
  | name marks depth kind => exact ⟨.name kind, [], rfl, Token.noConfusion, Token.noConfusion⟩
  | group marks depth meet first second rest => exact ⟨.opening, _, rfl, by decide, by decide⟩
  | row marks depth elements =>
    cases elements with
    | nil => exact ⟨.left, _, rfl, by decide, by decide⟩
    | cons first rest => exact ⟨.left, _, rfl, by decide, by decide⟩

theorem exists_operand_cons (phrase : Phrase) : ∃ token tokens,
    phrase.operand = token :: tokens ∧ token ≠ .right := by
  obtain ⟨token, tokens, htokens, _, hright⟩ := phrase.exists_enclosed_cons
  unfold operand asOperand
  rw [htokens]
  cases phrase.marks with
  | zero => exact ⟨token, _, rfl, hright⟩
  | succ marks => exact ⟨.readonly, _, rfl, by decide⟩

theorem exists_words_cons (phrase : Phrase) : ∃ token tokens,
    phrase.words = token :: tokens ∧ token ≠ .right := by
  cases hbare : phrase.isBare with
  | false =>
    rw [words_of_not_bare hbare]
    exact phrase.exists_operand_cons
  | true =>
    obtain ⟨meet, first, second, rest, rfl⟩ := eq_of_bare hbare
    obtain ⟨token, tokens, htokens, hright⟩ := first.exists_operand_cons
    rw [words_of_bare hbare, inner_group, htokens]
    exact ⟨token, _, rfl, hright⟩

theorem inner_row_append (marks depth : Nat) (first : Phrase) (rest : List Phrase) (after : List Token) :
    (row marks depth (first :: rest)).inner ++ after =
      .left :: (first.words ++ (chained asPhrase .comma rest ++ .right :: after)) := by
  rw [inner, words, List.cons_append, List.append_assoc, List.append_assoc]
  rfl

/-- The elements of a row are told from what follows the bracket at its end. -/
theorem row_cancel {more deeper : Nat} {elements others : List Phrase}
    (h : ∀ phrase ∈ elements, Cancels asPhrase Ended phrase)
    (hsame : (row marks depth elements).inner ++ before = (row more deeper others).inner ++ after) :
    elements = others ∧ before = after := by
  have hempty : ∀ {first : Phrase} {tokens rest : List Token},
      .left :: .right :: tokens ≠ .left :: (first.words ++ rest) := by
    intro first tokens rest he
    obtain ⟨token, _, htoken, hright⟩ := first.exists_words_cons
    rw [htoken] at he
    exact hright (List.cons.inj (List.cons.inj he).2).1.symm
  have hcomma : ∀ tokens, Ended (.comma :: tokens) :=
    fun tokens => ended_cons Token.noConfusion (fun _ => Token.noConfusion) tokens
  have hright : ∀ tokens, Ended (.right :: tokens) :=
    fun tokens => ended_cons Token.noConfusion (fun _ => Token.noConfusion) tokens
  have hchained : ∀ rest tokens, Ended (chained asPhrase .comma rest ++ .right :: tokens) := by
    intro rest tokens
    cases rest with
    | nil => exact hright tokens
    | cons next rest => exact hcomma _
  cases elements with
  | nil =>
    cases others with
    | nil => exact ⟨rfl, (List.cons.inj (List.cons.inj hsame).2).2⟩
    | cons other others =>
      rw [inner_row_append] at hsame
      exact absurd hsame hempty
  | cons first rest =>
    rw [inner_row_append] at hsame
    cases others with
    | nil => exact absurd hsame.symm hempty
    | cons other others =>
      rw [inner_row_append] at hsame
      obtain ⟨hfirst, hrest⟩ := List.forall_mem_cons.mp h
      obtain ⟨rfl, hbehind⟩ :=
        hfirst other _ _ (hchained rest before) (hchained others after) (List.cons.inj hsame).2
      obtain ⟨rfl, htail⟩ := chained_cancel hrest hcomma (hright before) (hright after) (by simp) (by simp)
        hbehind
      exact ⟨rfl, (List.cons.inj htail).2⟩

/-! ### A phrase is read in one way only -/

theorem operand_append (phrase : Phrase) (after : List Token) :
    phrase.operand ++ after = List.replicate phrase.marks .readonly ++
      (enclosed phrase.isGroup phrase.inner ++ (brackets phrase.depth ++ after)) := by
  rw [operand, asOperand, List.append_assoc, List.append_assoc]

theorem enclosed_group_append (first second : Phrase) (rest : List Phrase) (after : List Token) :
    enclosed true (group marks depth meet first second rest).inner ++ after = .opening :: (first.operand ++
      (chained asOperand (.bar meet) (second :: rest) ++ .closing :: after)) := by
  rw [inner_group, enclosed, if_pos rfl, List.cons_append, List.append_assoc, List.append_assoc]
  rfl

/-- Without its marks and brackets, a phrase is told from what follows. -/
def Separates (phrase : Phrase) : Prop :=
  ∀ other before after,
    enclosed phrase.isGroup phrase.inner ++ before = enclosed other.isGroup other.inner ++ after →
      (phrase.marks = other.marks → phrase.depth = other.depth → phrase = other) ∧ before = after

theorem separates_name (marks depth : Nat) (kind : Intrinsic) : Separates (name marks depth kind) := by
  intro other before after h
  cases other with
  | name more deeper other =>
    obtain ⟨hkind, hbehind⟩ := List.cons.inj h
    cases hkind
    refine ⟨?_, hbehind⟩
    rintro rfl rfl
    rfl
  | group => cases h
  | row _ _ others => cases others <;> cases h

theorem separates_row (marks depth : Nat) {elements : List Phrase}
    (h : ∀ phrase ∈ elements, Cancels asPhrase Ended phrase) :
    Separates (row marks depth elements) := by
  intro other before after hsame
  cases other with
  | name => cases elements <;> cases hsame
  | group => cases elements <;> cases hsame
  | row more deeper others =>
    obtain ⟨rfl, hbehind⟩ := row_cancel h hsame
    refine ⟨?_, hbehind⟩
    rintro rfl rfl
    rfl

theorem separates_group (marks depth : Nat) (meet : Bool) (hfirst : Cancels asOperand NoBracket first)
    (hrest : ∀ phrase ∈ second :: rest, Cancels asOperand NoBracket phrase) :
    Separates (group marks depth meet first second rest) := by
  intro other before after hsame
  cases other with
  | name => cases hsame
  | row _ _ others => cases others <;> cases hsame
  | group more deeper joined head next others =>
    have hclosing : ∀ tokens, Ended (.closing :: tokens) :=
      fun tokens => ended_cons Token.noConfusion (fun _ => Token.noConfusion) tokens
    rw [isGroup, isGroup, enclosed_group_append, enclosed_group_append] at hsame
    obtain ⟨⟨rfl, rfl, rfl, rfl⟩, hbehind⟩ :=
      group_cancel hfirst hrest (hclosing before) (hclosing after) (List.cons.inj hsame).2
    refine ⟨?_, (List.cons.inj hbehind).2⟩
    rintro rfl rfl
    rfl

theorem Separates.operand (h : Separates phrase) : Cancels asOperand NoBracket phrase := by
  intro other before after hbefore hafter hsame
  have hhead : ∀ (phrase : Phrase) (tokens : List Token),
      (enclosed phrase.isGroup phrase.inner ++ tokens).head? ≠ some .readonly := by
    intro phrase tokens he
    obtain ⟨token, _, htoken, hreadonly, _⟩ := phrase.exists_enclosed_cons
    rw [htoken] at he
    exact hreadonly (Option.some.inj he)
  change phrase.operand ++ before = other.operand ++ after at hsame
  rw [operand_append, operand_append] at hsame
  obtain ⟨hmarks, hbehind⟩ := marks_cancel (hhead phrase _) (hhead other _) hsame
  obtain ⟨hequal, hbrackets⟩ := h other _ _ hbehind
  obtain ⟨hdepth, htail⟩ := brackets_cancel hbefore hafter hbrackets
  exact ⟨hequal hmarks hdepth, htail⟩

/-- A phrase that is no bare group goes on as an operand does, and no bar follows. -/
theorem words_cancel_of_not_bare (hbare : phrase.isBare = false)
    (h : Cancels asOperand NoBracket phrase) : Cancels asPhrase Ended phrase := by
  intro other before after hbefore hafter hsame
  change phrase.words ++ before = other.words ++ after at hsame
  rw [words_of_not_bare hbare] at hsame
  cases hother : other.isBare with
  | false =>
    rw [words_of_not_bare hother] at hsame
    exact h other before after hbefore.1 hafter.1 hsame
  | true =>
    obtain ⟨meet, first, second, rest, rfl⟩ := eq_of_bare hother
    rw [words_of_bare hother, inner_group, List.append_assoc] at hsame
    -- the first operand of the other would be the whole phrase, and a bar would follow
    obtain ⟨_, rfl⟩ := h first before _ hbefore.1 (noBracket_bar meet _) hsame
    exact absurd rfl (hbefore.2 meet)

theorem words_cancel_of_bare (hfirst : Cancels asOperand NoBracket first)
    (hrest : ∀ phrase ∈ second :: rest, Cancels asOperand NoBracket phrase) :
    Cancels asPhrase Ended (group 0 0 meet first second rest) := by
  intro other before after hbefore hafter hsame
  change first.operand ++ chained asOperand (.bar meet) (second :: rest) ++ before =
    other.words ++ after at hsame
  rw [List.append_assoc] at hsame
  cases hother : other.isBare with
  | false =>
    rw [words_of_not_bare hother] at hsame
    obtain ⟨_, rfl⟩ := hfirst other _ after (noBracket_bar meet _) hafter.1 hsame
    exact absurd rfl (hafter.2 meet)
  | true =>
    obtain ⟨joined, head, next, others, rfl⟩ := eq_of_bare hother
    rw [words_of_bare hother, inner_group, List.append_assoc] at hsame
    obtain ⟨⟨rfl, rfl, rfl, rfl⟩, hbehind⟩ := group_cancel hfirst hrest hbefore hafter hsame
    exact ⟨rfl, hbehind⟩

theorem cancels (phrase : Phrase) :
    Cancels asOperand NoBracket phrase ∧ Cancels asPhrase Ended phrase := by
  induction phrase using Phrase.induction with
  | name marks depth kind =>
    have hoperand := (separates_name marks depth kind).operand
    exact ⟨hoperand, words_cancel_of_not_bare rfl hoperand⟩
  | row marks depth elements helements =>
    have hoperand := (separates_row marks depth fun phrase hphrase => (helements phrase hphrase).2).operand
    exact ⟨hoperand, words_cancel_of_not_bare rfl hoperand⟩
  | group marks depth meet first second rest hfirst hsecond hrest =>
    have hoperands : ∀ phrase ∈ second :: rest, Cancels asOperand NoBracket phrase :=
      List.forall_mem_cons.mpr ⟨hsecond.1, fun phrase hphrase => (hrest phrase hphrase).1⟩
    have hoperand := (separates_group marks depth meet hfirst.1 hoperands).operand
    refine ⟨hoperand, ?_⟩
    cases hbare : (group marks depth meet first second rest).isBare with
    | false => exact words_cancel_of_not_bare hbare hoperand
    | true =>
      obtain ⟨_, _, _, _, hgroup⟩ := eq_of_bare hbare
      cases hgroup
      exact words_cancel_of_bare hfirst.1 hoperands

/-- Different phrases have different words. -/
theorem words_injective (h : phrase.words = other.words) : phrase = other := by
  refine ((cancels phrase).2 other [] [] ended_nil ended_nil ?_).1
  rw [List.append_nil, List.append_nil]
  exact h

end Phrase

end Immutability

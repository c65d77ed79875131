import Immutability.Store.Properties
import Mathlib.Data.List.Basic
import Mathlib.Data.List.Induction

/-!
# Merged properties

Merging takes in the properties of the members of an intersection one after another. What comes out can
be read off the list of all of them: the names at their first occurrences, and for each name the distinct
types and the joint flags of the properties of that name.
-/

set_option autoImplicit false

namespace Immutability

theorem eraseDups_concat {α : Type} [BEq α] [LawfulBEq α] (list : List α) (last : α) :
    (list ++ [last]).eraseDups =
      if last ∈ list then list.eraseDups else list.eraseDups ++ [last] := by
  by_cases h : last ∈ list <;> simp [List.eraseDups_append, List.removeAll, List.eraseDups_cons, h]

/-- Dropping duplicates in the first part makes no difference to the whole. -/
theorem eraseDups_eraseDups_append {α : Type} [BEq α] [LawfulBEq α] (list rest : List α) :
    (list.eraseDups ++ rest).eraseDups = (list ++ rest).eraseDups := by
  induction rest using List.reverseRecOn with
  | nil =>
    induction list using List.reverseRecOn with
    | nil => rfl
    | append_singleton list last ih =>
      simp only [List.append_nil] at ih ⊢
      rw [eraseDups_concat]
      by_cases h : last ∈ list
      · rw [if_pos h, ih]
      · rw [if_neg h, eraseDups_concat, if_neg (by simpa using h), ih]
  | append_singleton rest last ih =>
    rw [← List.append_assoc, ← List.append_assoc, eraseDups_concat, eraseDups_concat, ih]
    simp

theorem eraseDups_eraseDups {α : Type} [BEq α] [LawfulBEq α] (list : List α) :
    list.eraseDups.eraseDups = list.eraseDups := by
  have h := eraseDups_eraseDups_append list []
  rwa [List.append_nil, List.append_nil] at h

theorem nodup_eraseDups {α : Type} [BEq α] [LawfulBEq α] (list : List α) : list.eraseDups.Nodup := by
  induction list using List.reverseRecOn with
  | nil => exact List.nodup_nil
  | append_singleton list last ih =>
    rw [eraseDups_concat]
    split
    · exact ih
    · next hnew =>
      refine List.nodup_append.mpr ⟨ih, List.pairwise_singleton _ last, ?_⟩
      intro a ha b hb hab
      rw [hab, List.mem_singleton.mp hb, List.mem_eraseDups] at ha
      exact hnew ha

theorem eraseDups_append_of_subset {α : Type} [BEq α] [LawfulBEq α] {list rest : List α}
    (h : rest ⊆ list) : (list ++ rest).eraseDups = list.eraseDups := by
  induction rest using List.reverseRecOn with
  | nil => rw [List.append_nil]
  | append_singleton rest last ih =>
    obtain ⟨hrest, hlast⟩ := List.append_subset.mp h
    rw [← List.append_assoc, eraseDups_concat, ih hrest, if_pos]
    exact List.mem_append_left rest (hlast (List.mem_singleton_self last))

/-- A list that is gone through again adds nothing new. -/
theorem eraseDups_flatMap_eraseDups {α β : Type} [BEq α] [LawfulBEq α] [BEq β] [LawfulBEq β]
    (f : α → List β) (list : List α) :
    (list.eraseDups.flatMap f).eraseDups = (list.flatMap f).eraseDups := by
  induction list using List.reverseRecOn with
  | nil => rfl
  | append_singleton list last ih =>
    rw [eraseDups_concat, List.flatMap_append, List.flatMap_singleton]
    split
    · next hseen =>
      rw [ih, eraseDups_append_of_subset]
      exact fun b hb => List.mem_flatMap.mpr ⟨last, hseen, hb⟩
    · rw [List.flatMap_append, List.flatMap_singleton, ← eraseDups_eraseDups_append, ih,
        eraseDups_eraseDups_append]

namespace PropertyFlags

def blank : PropertyFlags := { method := true }

@[simp] theorem blank_merge (flags : PropertyFlags) : blank.merge flags = flags := by
  simp [blank, merge]

theorem merge_assoc (a b c : PropertyFlags) : (a.merge b).merge c = a.merge (b.merge c) := by
  simp [merge, Bool.or_assoc, Bool.and_assoc]

def mergeAll (properties : List Property) : PropertyFlags :=
  properties.foldl (fun flags property => flags.merge property.flags) blank

theorem foldl_merge (properties : List Property) (flags : PropertyFlags) :
    properties.foldl (fun flags property => flags.merge property.flags) flags =
      flags.merge (mergeAll properties) := by
  induction properties generalizing flags with
  | nil => cases flags; simp [mergeAll, blank, merge]
  | cons property rest ih =>
    rw [mergeAll, List.foldl_cons, List.foldl_cons, ih, ih, blank_merge, merge_assoc]

theorem merge_comm (a b : PropertyFlags) : a.merge b = b.merge a := by
  simp [merge, Bool.or_comm, Bool.and_comm]

theorem merge_self (flags : PropertyFlags) : flags.merge flags = flags := by
  simp [merge]

theorem mergeAll_append (properties others : List Property) :
    mergeAll (properties ++ others) = (mergeAll properties).merge (mergeAll others) := by
  rw [mergeAll, List.foldl_append, foldl_merge others]
  rfl

theorem mergeAll_cons (property : Property) (rest : List Property) :
    mergeAll (property :: rest) = property.flags.merge (mergeAll rest) := by
  rw [mergeAll, List.foldl_cons, foldl_merge, blank_merge]

theorem mergeAll_singleton (property : Property) : mergeAll [property] = property.flags := by
  simp [mergeAll]

theorem mergeAll_merge_of_mem {properties : List Property} {property : Property}
    (h : property ∈ properties) :
    (mergeAll properties).merge property.flags = mergeAll properties := by
  induction properties with
  | nil => cases h
  | cons first rest ih =>
    rw [mergeAll_cons, merge_assoc]
    rcases List.mem_cons.mp h with rfl | hrest
    · rw [merge_comm (mergeAll rest), ← merge_assoc, merge_self]
    · rw [ih hrest]

theorem mergeAll_append_of_subset {properties others : List Property} (h : others ⊆ properties) :
    mergeAll (properties ++ others) = mergeAll properties := by
  rw [mergeAll_append]
  induction others with
  | nil => exact (mergeAll_append properties []).symm.trans (by rw [List.append_nil])
  | cons first rest ih =>
    obtain ⟨hfirst, hrest⟩ := List.cons_subset.mp h
    rw [mergeAll_cons, ← merge_assoc, mergeAll_merge_of_mem hfirst, ih hrest]

/-- It does not matter in which order the occurrences come, nor how often. -/
theorem mergeAll_eq_of_mem_iff {properties others : List Property}
    (h : ∀ property, property ∈ properties ↔ property ∈ others) :
    mergeAll properties = mergeAll others := by
  rw [← mergeAll_append_of_subset (fun property hmem => (h property).mpr hmem), mergeAll_append,
    merge_comm, ← mergeAll_append, mergeAll_append_of_subset fun property hmem => (h property).mp hmem]

end PropertyFlags

namespace MergedProperty

def ofOccurrences (properties : List Property) : MergedProperty where
  types := (properties.map (·.type)).eraseDups
  flags := .mergeAll properties

theorem add_ofOccurrences (properties : List Property) (property : Property) :
    (ofOccurrences properties).add property = ofOccurrences (properties ++ [property]) := by
  have htypes : (ofOccurrences (properties ++ [property])).types =
      if property.type ∈ properties.map (·.type) then (properties.map (·.type)).eraseDups
      else (properties.map (·.type)).eraseDups ++ [property.type] := by
    simp only [ofOccurrences, List.map_append, List.map_cons, List.map_nil, eraseDups_concat]
  have hflags : (ofOccurrences (properties ++ [property])).flags =
      (PropertyFlags.mergeAll properties).merge property.flags := by
    simp [ofOccurrences, PropertyFlags.mergeAll]
  rw [add, MergedProperty.mk.injEq]
  refine ⟨?_, hflags.symm⟩
  rw [htypes, ofOccurrences]
  simp only [List.contains_eq_mem, List.mem_eraseDups, decide_eq_true_eq]

end MergedProperty

namespace PropertyMerge

def named (name : String) (properties : List Property) : List Property :=
  properties.filter (·.name == name)

theorem named_concat (name : String) (properties : List Property) (property : Property) :
    named name (properties ++ [property]) =
      if property.name = name then named name properties ++ [property] else named name properties := by
  by_cases h : property.name = name <;> simp [named, List.filter_append, h]

theorem named_eq_nil {name : String} {properties : List Property}
    (h : name ∉ properties.map (·.name)) : named name properties = [] := by
  simp only [named, List.filter_eq_nil_iff, beq_iff_eq]
  intro property hmem hname
  exact h (List.mem_map.mpr ⟨property, hmem, hname⟩)

theorem named_ne_nil {name : String} {properties : List Property}
    (h : name ∈ properties.map (·.name)) : named name properties ≠ [] := by
  obtain ⟨property, hmem, rfl⟩ := List.mem_map.mp h
  exact List.ne_nil_of_mem (List.mem_filter.mpr ⟨hmem, beq_self_eq_true _⟩)

theorem named_append (name : String) (properties others : List Property) :
    named name (properties ++ others) = named name properties ++ named name others :=
  List.filter_append properties others

theorem named_of_nodup {properties : List Property} (h : (properties.map (·.name)).Nodup)
    {property : Property} (hmem : property ∈ properties) :
    named property.name properties = [property] := by
  induction properties with
  | nil => cases hmem
  | cons first rest ih =>
    rw [List.map_cons, List.nodup_cons] at h
    rcases List.mem_cons.mp hmem with rfl | hrest
    · rw [named, List.filter_cons_of_pos (by simp), ← named, named_eq_nil h.1]
    · have hne : first.name ≠ property.name := by
        intro he
        rw [he] at h
        exact h.1 (List.mem_map_of_mem hrest)
      rw [named, List.filter_cons_of_neg (by simpa using hne), ← named, ih h.2 hrest]

theorem addAll_concat (merge : PropertyMerge) (properties : List Property) (property : Property) :
    merge.addAll (properties ++ [property]) = (merge.addAll properties).add property := by
  simp [addAll]

theorem addAll_append (merge : PropertyMerge) (properties others : List Property) :
    merge.addAll (properties ++ others) = (merge.addAll properties).addAll others := by
  simp [addAll]

theorem byName_addAll (properties : List Property) (name : String) :
    (addAll {} properties).byName[name]? =
      if name ∈ properties.map (·.name) then some (.ofOccurrences (named name properties)) else none := by
  induction properties using List.reverseRecOn generalizing name with
  | nil => simp [addAll]
  | append_singleton properties property ih =>
    rw [addAll_concat, add, ih, named_concat]
    by_cases hseen : property.name ∈ properties.map (·.name)
    · simp only [hseen, if_true, Std.TreeMap.getElem?_insert, ih, Std.LawfulEqCmp.compare_eq_iff_eq]
      by_cases hname : property.name = name
      · simp [← hname, MergedProperty.add_ofOccurrences]
      · simp [hname, Ne.symm hname]
    · simp only [hseen, if_false, Std.TreeMap.getElem?_insert, ih, Std.LawfulEqCmp.compare_eq_iff_eq]
      by_cases hname : property.name = name
      · subst hname
        have hblank : (⟨[property.type], property.flags⟩ : MergedProperty) =
            .ofOccurrences [property] := by
          simp [MergedProperty.ofOccurrences, PropertyFlags.mergeAll, List.eraseDups_cons]
        simp [named_eq_nil hseen, hblank]
      · simp [hname, Ne.symm hname]

theorem names_addAll (properties : List Property) :
    (addAll {} properties).names.reverse = (properties.map (·.name)).eraseDups := by
  induction properties using List.reverseRecOn with
  | nil => rfl
  | append_singleton properties property ih =>
    rw [addAll_concat, add, byName_addAll, List.map_append, List.map_singleton, eraseDups_concat]
    by_cases hseen : property.name ∈ properties.map (·.name)
    · simp only [hseen, if_true, ih]
    · simp only [hseen, if_false, List.reverse_cons, ih]

/-- The merged properties, read off the list of all properties taken in. -/
theorem entries_addAll (properties : List Property) :
    (addAll {} properties).entries = (properties.map (·.name)).eraseDups.map
      fun name => (name, .ofOccurrences (named name properties)) := by
  have hfound : ∀ name ∈ (properties.map (·.name)).eraseDups,
      (addAll {} properties).byName[name]?.map (name, ·) =
        some (name, .ofOccurrences (named name properties)) := by
    intro name hname
    rw [byName_addAll, if_pos (List.mem_eraseDups.mp hname), Option.map_some]
  rw [entries, names_addAll, List.filterMap_congr hfound]
  exact congrFun List.filterMap_eq_map _

end PropertyMerge

end Immutability

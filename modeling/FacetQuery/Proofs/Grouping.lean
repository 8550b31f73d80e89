import FacetQuery.Query.Formula
import Mathlib.Data.List.Induction
import Mathlib.Data.List.Nodup

/-!
Grouping. Adding terms to a formula one by one gives one literal for each key and operator among
them, in order of first occurrence, with the values of its terms in order.
-/
namespace FacetQuery

/-- What terms are grouped by. -/
abbrev Group := String × Option Operator

def Term.group (t : Term) : Group := (t.key, t.operator)

def Literal.group (l : Literal) : Group := (l.key, l.operator)

/-- The values of the terms of one group, in order and with repetitions. -/
def valuesOf (terms : List Term) (g : Group) : List String :=
  (terms.filter fun t => t.group = g).map Term.value

/-- The groups of terms in order of first occurrence. -/
def groupsOf (terms : List Term) : List Group := (terms.map Term.group).eraseDups

/-- The literal of one group. -/
def literalOf (terms : List Term) (g : Group) : Literal := ⟨g.1, g.2, valuesOf terms g⟩

/-- The group-by: one literal for each group. -/
def grouped (terms : List Term) : List Literal := (groupsOf terms).map (literalOf terms)

/-- Terms added one by one. -/
def addTerms (terms : List Term) (ls : List Literal) : List Literal :=
  terms.foldl (fun ls t => addTerm t ls) ls

/-- The number of values in all. -/
def valueCount : List Literal → Nat
  | [] => 0
  | l :: ls => l.values.length + valueCount ls

/-- The terms of a literal, one for each value. -/
def Literal.terms (l : Literal) : List Term := l.values.map fun value => ⟨l.key, l.operator, value⟩

/-- The terms of literals in order. -/
def spelledOut (ls : List Literal) : List Term := ls.flatMap Literal.terms

variable {terms : List Term} {t : Term} {ls : List Literal} {g : Group} {gs : List Group}

section EraseDups

variable {α : Type} [BEq α] [LawfulBEq α] {xs : List α} {x : α}

theorem eraseDups_concat_of_mem (h : x ∈ xs) : (xs ++ [x]).eraseDups = xs.eraseDups := by
  simp [List.eraseDups_append, List.removeAll, h]

theorem eraseDups_concat_of_notMem (h : x ∉ xs) :
    (xs ++ [x]).eraseDups = xs.eraseDups ++ [x] := by
  simp [List.eraseDups_append, List.removeAll, h, List.eraseDups_cons]

theorem nodup_eraseDups (xs : List α) : xs.eraseDups.Nodup := by
  induction xs using List.reverseRecOn with
  | nil => simp
  | append_singleton xs x ih =>
    by_cases hx : x ∈ xs
    · rwa [eraseDups_concat_of_mem hx]
    · rw [eraseDups_concat_of_notMem hx, List.nodup_append]
      simpa [ih] using fun y hy => ne_of_mem_of_not_mem hy hx

theorem eraseDups_of_nodup (h : xs.Nodup) : xs.eraseDups = xs := by
  induction xs using List.reverseRecOn with
  | nil => rfl
  | append_singleton xs x ih =>
    obtain ⟨hn, -, hd⟩ := List.nodup_append.1 h
    have hx : x ∉ xs := fun hm => hd x hm x (by simp) rfl
    rw [eraseDups_concat_of_notMem hx, ih hn]

theorem eraseDups_append_filter (xs ys : List α) :
    (xs ++ ys).eraseDups = xs.eraseDups ++ ys.eraseDups.filter (· ∉ xs) := by
  induction ys using List.reverseRecOn with
  | nil => simp
  | append_singleton ys y ih =>
    rw [← List.append_assoc]
    by_cases hy : y ∈ ys
    · rw [eraseDups_concat_of_mem (by simp [hy]), eraseDups_concat_of_mem hy, ih]
    · rw [eraseDups_concat_of_notMem hy, List.filter_append]
      by_cases hx : y ∈ xs
      · rw [eraseDups_concat_of_mem (by simp [hx]), ih]
        simp [hx]
      · rw [eraseDups_concat_of_notMem (by simp [hx, hy]), ih]
        simp [hx]

theorem eraseDups_filter (p : α → Bool) (xs : List α) :
    (xs.filter p).eraseDups = xs.eraseDups.filter p := by
  induction xs using List.reverseRecOn with
  | nil => rfl
  | append_singleton xs x ih =>
    rw [List.filter_append]
    by_cases hx : x ∈ xs
    · rw [eraseDups_concat_of_mem hx, ← ih]
      cases hp : p x with
      | true => simpa [hp] using eraseDups_concat_of_mem (List.mem_filter.mpr ⟨hx, hp⟩)
      | false => simp [hp]
    · rw [eraseDups_concat_of_notMem hx, List.filter_append, ← ih]
      cases hp : p x with
      | true => simpa [hp] using eraseDups_concat_of_notMem (by simp [hx])
      | false => simp [hp]

/-- What is written without repetitions may have them again before more is added. -/
theorem eraseDups_eraseDups_append (xs ys : List α) :
    (xs.eraseDups ++ ys).eraseDups = (xs ++ ys).eraseDups := by
  rw [eraseDups_append_filter, eraseDups_append_filter, eraseDups_of_nodup (nodup_eraseDups xs)]
  simp only [List.mem_eraseDups]

end EraseDups

@[simp] theorem group_literalOf : (literalOf terms g).group = g := rfl

theorem isGroup_iff {l : Literal} {key : String} {operator : Option Operator} :
    l.isGroup key operator = true ↔ l.group = (key, operator) := by
  simp [Literal.isGroup, Literal.group]

theorem isGroup_literalOf_iff {key : String} {operator : Option Operator} :
    (literalOf terms g).isGroup key operator = true ↔ g = (key, operator) := by
  rw [isGroup_iff, group_literalOf]

theorem valuesOf_concat : valuesOf (terms ++ [t]) g =
    if t.group = g then valuesOf terms g ++ [t.value] else valuesOf terms g := by
  split <;> simp_all [valuesOf]

theorem valuesOf_eq_nil_iff : valuesOf terms g = [] ↔ g ∉ terms.map Term.group := by
  simp only [valuesOf, List.map_eq_nil_iff, List.filter_eq_nil_iff, decide_eq_true_eq,
    List.mem_map, not_exists, not_and]

theorem mem_valuesOf {value : String} (h : value ∈ valuesOf terms g) :
    ∃ t ∈ terms, t.group = g ∧ t.value = value := by
  simpa [valuesOf, and_assoc] using h

theorem mem_groupsOf : g ∈ groupsOf terms ↔ g ∈ terms.map Term.group := by
  rw [groupsOf, List.mem_eraseDups]

theorem nodup_groupsOf (terms : List Term) : (groupsOf terms).Nodup := nodup_eraseDups _

theorem literalOf_concat_self :
    literalOf (terms ++ [t]) t.group =
      { literalOf terms t.group with values := valuesOf terms t.group ++ [t.value] } := by
  simp [literalOf, valuesOf_concat]

theorem literalOf_concat_of_ne (h : t.group ≠ g) :
    literalOf (terms ++ [t]) g = literalOf terms g := by
  simp [literalOf, valuesOf_concat, h]

theorem map_literalOf_concat (h : t.group ∉ gs) :
    gs.map (literalOf (terms ++ [t])) = gs.map (literalOf terms) := by
  apply List.map_congr_left
  intro g hg
  exact literalOf_concat_of_ne fun he => h (he ▸ hg)

/-- A term passes by the literals of other groups. -/
theorem addTerm_append (h : t.group ∉ ls.map Literal.group) (ms : List Literal) :
    addTerm t (ls ++ ms) = ls ++ addTerm t ms := by
  induction ls with
  | nil => rfl
  | cons l ls ih =>
    simp only [List.map_cons, List.mem_cons, not_or] at h
    have hl : ¬ l.isGroup t.key t.operator = true := by
      rw [isGroup_iff]
      exact fun he => h.1 he.symm
    rw [List.cons_append, addTerm, if_neg hl, ih h.2, List.cons_append]

theorem addTerm_of_notMem (h : t.group ∉ ls.map Literal.group) :
    addTerm t ls = ls ++ [⟨t.key, t.operator, [t.value]⟩] := by
  simpa [addTerm] using addTerm_append h []

/-- A term of a known group changes the literal of that group and no other. -/
theorem addTerm_of_mem (hn : gs.Nodup) (h : t.group ∈ gs) :
    addTerm t (gs.map (literalOf terms)) = gs.map (literalOf (terms ++ [t])) := by
  induction gs with
  | nil => cases h
  | cons g gs ih =>
    obtain ⟨hg, hgs⟩ := List.nodup_cons.mp hn
    rw [List.map_cons, List.map_cons, addTerm]
    by_cases he : t.group = g
    · -- the groups behind are others, so their literals are the same with and without the term
      subst he
      have hl : (literalOf terms t.group).isGroup t.key t.operator = true :=
        isGroup_literalOf_iff.mpr rfl
      rw [if_pos hl, map_literalOf_concat hg, literalOf_concat_self]
      rfl
    · have hl : ¬ (literalOf terms g).isGroup t.key t.operator = true := by
        rw [isGroup_literalOf_iff]
        exact fun hx => he hx.symm
      rw [if_neg hl, ih hgs (List.mem_of_ne_of_mem he h), literalOf_concat_of_ne he]

theorem groups_grouped (terms : List Term) :
    (grouped terms).map Literal.group = groupsOf terms := by
  simp [grouped, Function.comp_def]

/-- Every group is made of one term at least. -/
theorem values_ne_nil_of_mem_grouped {l : Literal} (h : l ∈ grouped terms) : l.values ≠ [] := by
  obtain ⟨g, hg, rfl⟩ := List.mem_map.mp h
  exact fun hnil => valuesOf_eq_nil_iff.mp hnil (mem_groupsOf.mp hg)

/-- One more term at the end is added to the groups so far. -/
theorem grouped_concat (terms : List Term) (t : Term) :
    grouped (terms ++ [t]) = addTerm t (grouped terms) := by
  by_cases h : t.group ∈ terms.map Term.group
  · have hgs : groupsOf (terms ++ [t]) = groupsOf terms := by
      simp only [groupsOf, List.map_append, List.map_singleton]
      exact eraseDups_concat_of_mem h
    rw [grouped, hgs, grouped, addTerm_of_mem (nodup_groupsOf terms) (mem_groupsOf.mpr h)]
  · have hgs : groupsOf (terms ++ [t]) = groupsOf terms ++ [t.group] := by
      simp only [groupsOf, List.map_append, List.map_singleton]
      exact eraseDups_concat_of_notMem h
    have hn : t.group ∉ groupsOf terms := mem_groupsOf.not.mpr h
    rw [addTerm_of_notMem (by rwa [groups_grouped]), grouped, hgs, List.map_append,
      map_literalOf_concat hn, List.map_singleton, literalOf_concat_self, valuesOf_eq_nil_iff.mpr h]
    rfl

/-- Terms added one by one are grouped. -/
theorem addTerms_nil (terms : List Term) : addTerms terms [] = grouped terms := by
  induction terms using List.reverseRecOn with
  | nil => rfl
  | append_singleton terms t ih => rw [grouped_concat, ← ih, addTerms, List.foldl_concat, addTerms]

theorem find?_literalOf (gs : List Group) (key : String) (operator : Option Operator) :
    (gs.map (literalOf terms)).find? (fun l => l.isGroup key operator) =
      if (key, operator) ∈ gs then some (literalOf terms (key, operator)) else none := by
  induction gs with
  | nil => rfl
  | cons g gs ih =>
    rw [List.map_cons, List.find?_cons]
    by_cases hg : g = (key, operator)
    · subst hg
      have hl : (literalOf terms (key, operator)).isGroup key operator = true :=
        isGroup_literalOf_iff.mpr rfl
      simp only [hl, List.mem_cons, true_or, if_true]
    · have hl : (literalOf terms g).isGroup key operator = false :=
        Bool.eq_false_iff.mpr (isGroup_literalOf_iff.not.mpr hg)
      simp only [hl, ih, List.mem_cons, Ne.symm hg, false_or]

/-- A group is looked up with all its values, and with them only. -/
theorem get?_grouped (terms : List Term) (key : String) (operator : Option Operator) :
    (Formula.mk (grouped terms)).get? key operator =
      if (key, operator) ∈ terms.map Term.group then some (literalOf terms (key, operator))
      else none := by
  rw [Formula.get?, grouped, find?_literalOf]
  simp only [mem_groupsOf]

theorem valueCount_addTerm (t : Term) (ls : List Literal) :
    valueCount (addTerm t ls) = valueCount ls + 1 := by
  induction ls with
  | nil => rfl
  | cons l ls ih =>
    rw [addTerm]
    split
    · simp only [valueCount, List.length_append, List.length_singleton]
      omega
    · simp only [valueCount, ih]
      omega

/-- No value is lost and none is added. -/
theorem valueCount_grouped (terms : List Term) : valueCount (grouped terms) = terms.length := by
  induction terms using List.reverseRecOn with
  | nil => rfl
  | append_singleton terms t ih => simp [grouped_concat, valueCount_addTerm, ih]

@[simp] theorem addTerms_append (ts us : List Term) (ls : List Literal) :
    addTerms (ts ++ us) ls = addTerms us (addTerms ts ls) := by
  simp [addTerms]

theorem addTerms_values (key : String) (operator : Option Operator) (values more : List String)
    (h : (key, operator) ∉ ls.map Literal.group) :
    addTerms (more.map fun value => ⟨key, operator, value⟩) (ls ++ [⟨key, operator, values⟩]) =
      ls ++ [⟨key, operator, values ++ more⟩] := by
  induction more generalizing values with
  | nil => simp [addTerms]
  | cons value more ih =>
    have hadd : addTerm ⟨key, operator, value⟩ (ls ++ [⟨key, operator, values⟩]) =
        ls ++ [⟨key, operator, values ++ [value]⟩] := by
      rw [addTerm_append h]
      simp [addTerm, Literal.isGroup]
    have hmore := ih (values ++ [value])
    rw [List.append_assoc] at hmore
    rw [List.map_cons, addTerms, List.foldl_cons, hadd]
    exact hmore

/-- The terms of a literal of a new group make up the literal again. -/
theorem addTerms_literal (l : Literal) (h : l.group ∉ ls.map Literal.group) (hv : l.values ≠ []) :
    addTerms l.terms ls = ls ++ [l] := by
  obtain ⟨key, operator, values⟩ := l
  obtain ⟨value, more, rfl⟩ := List.exists_cons_of_ne_nil hv
  have hadd := addTerm_of_notMem (t := ⟨key, operator, value⟩) h
  rw [Literal.terms, List.map_cons, addTerms, List.foldl_cons, hadd]
  exact addTerms_values key operator [value] more h

/-- Literals of distinct groups, none of them empty, are the group-by of their terms. -/
theorem grouped_spelledOut (hd : (ls.map Literal.group).Nodup) (hv : ∀ l ∈ ls, l.values ≠ []) :
    grouped (spelledOut ls) = ls := by
  rw [← addTerms_nil]
  induction ls using List.reverseRecOn with
  | nil => rfl
  | append_singleton ls l ih =>
    simp only [List.map_append, List.map_singleton, List.nodup_append, List.mem_singleton] at hd
    have hl : l.group ∉ ls.map Literal.group := fun hm => hd.2.2 _ hm _ rfl rfl
    have hls := ih hd.1 fun m hm => hv m (by simp [hm])
    have hsplit : spelledOut (ls ++ [l]) = spelledOut ls ++ l.terms := by simp [spelledOut]
    rw [hsplit, addTerms_append, hls, addTerms_literal l hl (hv l (by simp))]

end FacetQuery

import FacetQuery.Files.Path
import Mathlib.Data.List.Basic

/-!
Paths and the directories above them. Every directory on the way up has fewer components than the
ones before it, so no two of them are the same, nor are the files of one name in them.
-/
namespace FacetQuery

section Pieces

variable {separator : Char} {cs piece : List Char} {ss : List (List Char)}

theorem pieces_of_notMem (h : separator ∉ cs) : pieces separator cs = [cs] := by
  induction cs with
  | nil => rfl
  | cons c cs ih =>
    simp only [List.mem_cons, not_or] at h
    rw [pieces, if_neg (Ne.symm h.1), ih h.2]

theorem pieces_append_cons (xs ys : List Char) :
    pieces separator (xs ++ separator :: ys) = pieces separator xs ++ pieces separator ys := by
  induction xs with
  | nil => simp [pieces]
  | cons c xs ih =>
    rw [List.cons_append, pieces, pieces, ih]
    by_cases hc : c = separator
    · simp [hc]
    · obtain ⟨piece, more, hx⟩ := List.exists_cons_of_ne_nil (pieces_ne_nil separator xs)
      simp [hc, hx]

/-- Pieces that are joined can be told apart again. -/
theorem pieces_intercalate (hn : ss ≠ []) (h : ∀ s ∈ ss, separator ∉ s) :
    pieces separator ([separator].intercalate ss) = ss := by
  induction ss with
  | nil => exact (hn rfl).elim
  | cons s ss ih =>
    have hs := pieces_of_notMem (h s (by simp))
    cases ss with
    | nil => simpa using hs
    | cons t ss =>
      have hrest := ih (by simp) fun u hu => h u (by simp [hu])
      rw [List.intercalate_cons_cons, List.append_assoc, List.singleton_append,
        pieces_append_cons, hs, hrest]
      rfl

theorem separator_notMem_of_mem_pieces (h : piece ∈ pieces separator cs) : separator ∉ piece := by
  induction cs generalizing piece with
  | nil =>
    obtain rfl : piece = [] := by simpa [pieces] using h
    simp
  | cons c cs ih =>
    rw [pieces] at h
    by_cases hc : c = separator
    · rw [if_pos hc, List.mem_cons] at h
      rcases h with rfl | h
      · simp
      · exact ih h
    · obtain ⟨head, more, hx⟩ := List.exists_cons_of_ne_nil (pieces_ne_nil separator cs)
      simp only [if_neg hc, hx, List.mem_cons] at h
      have hhead : separator ∉ head := ih (by simp [hx])
      rcases h with rfl | h
      · simp [Ne.symm hc, hhead]
      · exact ih (by simp [hx, h])

end Pieces

namespace Path

variable {p q : Path} {first name : List Char} {outer others : List (List Char)}

theorem segments_text (p : Path) : segments p.text.toList = p.first :: p.others := by
  obtain ⟨piece, more, h⟩ := List.exists_cons_of_ne_nil (pieces_ne_nil '/' p.text.toList)
  simp [first, Path.others, segments, h]

theorem slash_notMem_first (p : Path) : '/' ∉ p.first := by
  have hm : p.first ∈ segments p.text.toList := by simp [segments_text]
  exact separator_notMem_of_mem_pieces hm

theorem slash_notMem_others (p : Path) : ∀ s ∈ p.others, '/' ∉ s := by
  intro s hs
  have hm : s ∈ segments p.text.toList := by simp [segments_text, hs]
  exact separator_notMem_of_mem_pieces hm

theorem component_ne_root (s : List Char) : component s ≠ .root := by
  unfold component
  split
  · simp
  · split <;> simp

/-- What the first piece means in front of others. -/
def lead (first : List Char) : Component := if first.isEmpty then .root else component first

/-- The pieces that mean something. -/
def meaningful (pieces : List (List Char)) : List (List Char) := pieces.filter fun s => !isFiller s

theorem meaningful_concat (ss : List (List Char)) (s : List Char) :
    meaningful (ss ++ [s]) = if isFiller s then meaningful ss else meaningful ss ++ [s] := by
  cases hs : isFiller s <;> simp [meaningful, hs]

/-- The components of any path but the empty one, read off its pieces. -/
theorem components_of_segments (hs : segments p.text.toList = first :: others)
    (h : first ≠ [] ∨ others ≠ []) :
    p.components = lead first :: (meaningful others).map component := by
  rw [segments_text] at hs
  obtain ⟨rfl, rfl⟩ := List.cons.inj hs
  rw [components, isAbsolute, lead]
  cases hf : p.first with
  | nil =>
    have ho : p.others ≠ [] := by simpa [hf] using h
    simp [ho, meaningful]
  | cons c cs => simp [meaningful]

theorem components_empty : (Path.mk "").components = [] := rfl

theorem components_ofOuter (hf : '/' ∉ first) (ho : ∀ s ∈ outer, '/' ∉ s) :
    (ofOuter first outer).components =
      lead first :: (meaningful outer.reverse).map component := by
  have hkeep : meaningful outer.reverse = meaningful (outer.dropWhile isFiller).reverse := by
    simp only [meaningful, List.filter_reverse]
    congr 1
    induction outer with
    | nil => rfl
    | cons s outer ih =>
      have hrest := ih fun t ht => ho t (by simp [ht])
      cases hs : isFiller s <;> simp [hs, hrest]
  rw [hkeep, ofOuter]
  split
  · rename_i hnone
    rw [hnone]
    cases first with
    | nil => rfl
    | cons c cs =>
      have hs : segments (String.ofList (c :: cs)).toList = [c :: cs] := by
        simp [segments, pieces_of_notMem hf]
      exact components_of_segments hs (Or.inl (by simp))
  · rename_i kept hkept
    have hslash : ∀ s ∈ first :: (outer.dropWhile isFiller).reverse, '/' ∉ s := by
      intro s hs
      rcases List.mem_cons.mp hs with rfl | hs
      · exact hf
      · exact ho s ((List.dropWhile_sublist isFiller).subset (List.mem_reverse.mp hs))
    refine components_of_segments ?_ (Or.inr (by simpa using hkept))
    simp only [joinSegments, String.toList_ofList, segments]
    exact pieces_intercalate (by simp) hslash

theorem length_components_above (hf : '/' ∉ first) (ho : ∀ s ∈ outer, '/' ∉ s)
    (hq : q ∈ above first outer) : q.components.length ≤ (meaningful outer).length := by
  induction outer with
  | nil =>
    rw [above] at hq
    split at hq
    · cases hq
    · obtain rfl := List.mem_singleton.mp hq
      simp [components_empty]
  | cons s outer ih =>
    have hrest : ∀ t ∈ outer, '/' ∉ t := fun t ht => ho t (by simp [ht])
    rw [above] at hq
    cases hs : isFiller s with
    | true =>
      rw [hs, if_pos rfl] at hq
      simpa [meaningful, hs] using ih hrest hq
    | false =>
      rw [hs, if_neg (by simp), List.mem_cons] at hq
      rcases hq with rfl | hq
      · simp [components_ofOuter hf hrest, meaningful, hs]
      · have := ih hrest hq
        simp only [meaningful, hs, List.filter_cons, Bool.not_false, if_true, List.length_cons]
          at this ⊢
        omega

theorem components_above_prefix (hf : '/' ∉ first) (ho : ∀ s ∈ outer, '/' ∉ s)
    (hq : q ∈ above first outer) :
    q.components <+: lead first :: (meaningful outer.reverse).map component := by
  induction outer with
  | nil =>
    rw [above] at hq
    split at hq
    · cases hq
    · obtain rfl := List.mem_singleton.mp hq
      simp [components_empty]
  | cons s outer ih =>
    have hrest : ∀ t ∈ outer, '/' ∉ t := fun t ht => ho t (by simp [ht])
    have hmore : lead first :: (meaningful outer.reverse).map component <+:
        lead first :: (meaningful (s :: outer).reverse).map component := by
      simp [meaningful]
    rw [above] at hq
    split at hq
    · exact (ih hrest hq).trans hmore
    · rcases List.mem_cons.mp hq with rfl | hq
      · rw [components_ofOuter hf hrest]
        exact hmore
      · exact (ih hrest hq).trans hmore

theorem pairwise_above (hf : '/' ∉ first) (ho : ∀ s ∈ outer, '/' ∉ s) :
    (above first outer).Pairwise fun p q => q.components.length < p.components.length := by
  induction outer with
  | nil =>
    rw [above]
    split <;> simp
  | cons s outer ih =>
    have hrest : ∀ t ∈ outer, '/' ∉ t := fun t ht => ho t (by simp [ht])
    rw [above]
    split
    · exact ih hrest
    · refine List.pairwise_cons.mpr ⟨?_, ih hrest⟩
      intro q hq
      have hlength := length_components_above hf hrest hq
      simp only [components_ofOuter hf hrest, meaningful, List.filter_reverse, List.map_reverse,
        List.length_cons, List.length_reverse, List.length_map] at hlength ⊢
      omega

/-- On the way up every directory has fewer components than those before it. -/
theorem pairwise_ancestors (p : Path) :
    p.ancestors.Pairwise fun p q => q.components.length < p.components.length := by
  have hf := p.slash_notMem_first
  have ho : ∀ s ∈ p.others.reverse, '/' ∉ s := by
    intro s hs
    exact p.slash_notMem_others s (List.mem_reverse.mp hs)
  refine List.pairwise_cons.mpr ⟨?_, pairwise_above hf ho⟩
  intro q hq
  by_cases h : p.first ≠ [] ∨ p.others ≠ []
  · have hlength := length_components_above hf ho hq
    simp only [components_of_segments p.segments_text h, meaningful, List.filter_reverse,
      List.length_cons, List.length_reverse, List.length_map] at hlength ⊢
    omega
  · -- above the empty path there is nothing
    simp only [ne_eq, not_or, not_not] at h
    simp [h, above] at hq

/-- The components of a directory on the way up are the first ones of the path. -/
theorem components_prefix_of_mem_ancestors (hq : q ∈ p.ancestors) :
    q.components <+: p.components := by
  rcases List.mem_cons.mp hq with rfl | hq
  · exact List.prefix_rfl
  · have ho : ∀ s ∈ p.others.reverse, '/' ∉ s := by
      intro s hs
      exact p.slash_notMem_others s (List.mem_reverse.mp hs)
    have hfront := components_above_prefix p.slash_notMem_first ho hq
    by_cases h : p.first ≠ [] ∨ p.others ≠ []
    · simpa [components_of_segments p.segments_text h] using hfront
    · simp only [ne_eq, not_or, not_not] at h
      simp [h, above] at hq

/-- The closest directory above a path has all components but the last one. -/
theorem components_head?_above (hf : '/' ∉ first) (ho : ∀ s ∈ outer, '/' ∉ s)
    (hq : (above first outer).head? = some q) :
    ∃ c, lead first :: (meaningful outer.reverse).map component = q.components ++ [c] := by
  induction outer with
  | nil =>
    rw [above] at hq
    split at hq
    · cases hq
    · obtain rfl := Option.some.inj hq
      exact ⟨lead first, rfl⟩
  | cons s outer ih =>
    have hrest : ∀ t ∈ outer, '/' ∉ t := fun t ht => ho t (by simp [ht])
    rw [above] at hq
    rw [List.reverse_cons, meaningful_concat]
    cases hs : isFiller s with
    | true =>
      rw [hs, if_pos rfl] at hq
      exact ih hrest hq
    | false =>
      rw [hs, if_neg (by simp)] at hq
      obtain rfl := Option.some.inj hq
      exact ⟨component s, by simp [components_ofOuter hf hrest]⟩

/-- There is a directory above every path but the root. -/
theorem exists_head?_above (h : lead first :: (meaningful outer.reverse).map component ≠ [.root]) :
    ∃ q, (above first outer).head? = some q := by
  induction outer with
  | nil =>
    cases first with
    | nil => exact (h rfl).elim
    | cons c cs => exact ⟨_, rfl⟩
  | cons s outer ih =>
    rw [List.reverse_cons, meaningful_concat] at h
    rw [above]
    split
    · rename_i hs
      exact ih (by simpa [hs] using h)
    · exact ⟨_, rfl⟩

theorem segments_child_of_slash {dir : Path} {front : List Char} (name : String)
    (hd : dir.text.toList = front ++ ['/']) (hn : '/' ∉ name.toList) :
    segments (dir.child name).text.toList = segments front ++ [name.toList] := by
  have htext : (dir.child name).text.toList = front ++ '/' :: name.toList := by
    simp [child, hd]
  rw [htext, segments, pieces_append_cons, pieces_of_notMem hn]
  rfl

theorem segments_child_of_not_slash {dir : Path} (name : String)
    (hd : dir.text.toList.getLast?.all (· = '/') = false) (hn : '/' ∉ name.toList) :
    segments (dir.child name).text.toList = segments dir.text.toList ++ [name.toList] := by
  have htext : (dir.child name).text.toList = dir.text.toList ++ '/' :: name.toList := by
    simp [child, hd]
  rw [htext, segments, pieces_append_cons, pieces_of_notMem hn]
  rfl

theorem text_eq_nil (h : segments p.text.toList = [[]]) : p.text.toList = [] := by
  have hjoin := intercalate_pieces '/' p.text.toList
  rw [segments] at h
  simpa [h] using hjoin.symm

/-- A file in a directory has one component more, its name. -/
theorem components_child (dir : Path) {name : String} (hn : '/' ∉ name.toList)
    (hfill : isFiller name.toList = false) :
    (dir.child name).components = dir.components ++ [component name.toList] := by
  have hne : name.toList ≠ [] := by
    intro he
    simp [he, isFiller] at hfill
  rcases List.eq_nil_or_concat' dir.text.toList with hd | ⟨front, c, hd⟩
  · have hchild : segments (dir.child name).text.toList = [name.toList] := by
      simp [child, hd, segments, pieces_of_notMem hn]
    have hdir : dir.components = [] := by
      simp [components, isAbsolute, Path.first, Path.others, segments, hd, pieces]
    rw [components_of_segments hchild (Or.inl hne), hdir]
    simp [meaningful, lead, hne]
  · by_cases hc : c = '/'
    · -- the empty piece behind the last slash gives way to the name
      rw [hc] at hd
      obtain ⟨piece, more, hfront⟩ := List.exists_cons_of_ne_nil (pieces_ne_nil '/' front)
      have hchild := segments_child_of_slash name hd hn
      have hdir : segments dir.text.toList = segments front ++ [[]] := by
        rw [hd, segments, pieces_append_cons]
        rfl
      simp only [segments, hfront, List.cons_append] at hchild hdir
      rw [components_of_segments hchild (Or.inr (by simp)),
        components_of_segments hdir (Or.inr (by simp))]
      have hempty : isFiller [] = true := rfl
      simp [meaningful_concat, hfill, hempty]
    · have hlast : dir.text.toList.getLast?.all (· = '/') = false := by simp [hd, hc]
      have hchild := segments_child_of_not_slash name hlast hn
      rw [dir.segments_text, List.cons_append] at hchild
      have hparts : dir.first ≠ [] ∨ dir.others ≠ [] := by
        by_contra hnone
        simp only [ne_eq, not_or, not_not] at hnone
        have htext := dir.text_eq_nil (by rw [segments_text, hnone.1, hnone.2])
        simp [hd] at htext
      rw [components_of_segments hchild (Or.inr (by simp)),
        components_of_segments dir.segments_text hparts]
      simp [meaningful_concat, hfill]

/-- A file in a directory has that directory above it. -/
theorem exists_parent (dir : Path) {name : String} (hn : '/' ∉ name.toList)
    (hfill : isFiller name.toList = false) :
    ∃ q, (dir.child name).parent? = some q ∧ q.components = dir.components := by
  have hchild := components_child dir hn hfill
  generalize dir.child name = p at hchild
  have hparts : p.first ≠ [] ∨ p.others ≠ [] := by
    by_contra hnone
    simp only [ne_eq, not_or, not_not] at hnone
    simp [components, isAbsolute, hnone] at hchild
  have ho : ∀ s ∈ p.others.reverse, '/' ∉ s := by
    intro s hs
    exact p.slash_notMem_others s (List.mem_reverse.mp hs)
  have hcomponents := components_of_segments p.segments_text hparts
  rw [← p.others.reverse_reverse] at hcomponents
  have hroot : p.components ≠ [.root] := by
    rw [hchild]
    intro he
    have hlast := congrArg List.getLast? he
    simp [component_ne_root] at hlast
  obtain ⟨q, hq⟩ := exists_head?_above (hcomponents ▸ hroot)
  obtain ⟨c, hc⟩ := components_head?_above p.slash_notMem_first ho hq
  refine ⟨q, hq, ?_⟩
  rw [hcomponents, hc] at hchild
  exact List.append_inj_left' hchild rfl

end Path

end FacetQuery

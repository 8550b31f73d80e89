import FacetQuery.Query.Vocabulary
import Mathlib.Data.List.Basic
import Mathlib.Data.List.TakeWhile

/-!
Whole words of a text: runs of characters without separators that cannot be extended on either
side. The lookup of a key finds the runs that spell one, and nothing else.
-/
namespace FacetQuery

variable {v : Vocabulary} {before run after cs : List Char} {c : Char} {key : String}

/-- A run of word characters between two parts of a text that cannot be extended: on either side
stands a separator or an end of the text. -/
structure MaximalRun (before run after : List Char) : Prop where
  ne_nil : run ≠ []
  wordChars : ∀ c ∈ run, isSeparator c = false
  left : ∀ c ∈ before.getLast?, isSeparator c = true
  right : ∀ c ∈ after.head?, isSeparator c = true

/-- A maximal run that spells a key. -/
structure KeyRun (v : Vocabulary) (before run after : List Char) : Prop extends
    MaximalRun before run after where
  isKey : v.isKey (String.ofList run) = true

/-- No word goes across the place between two parts of a text. -/
def Seam (before after : List Char) : Prop :=
  (∀ c ∈ before.getLast?, isSeparator c = true) ∨ ∀ c ∈ after.head?, isSeparator c = true

theorem isWordChar_eq_true_iff : isWordChar c = true ↔ isSeparator c = false := by
  simp [isWordChar]

theorem isBlank_eq_false (hc : isSeparator c = false) : isBlank c = false := by
  cases hb : isBlank c with
  | false => rfl
  | true => simp [isSeparator_of_isBlank hb] at hc

theorem isQuote_eq_false (hc : isSeparator c = false) : isQuote c = false := by
  cases hq : isQuote c with
  | false => rfl
  | true => simp [isSeparator_of_isQuote hq] at hc

theorem ne_of_isSeparator_eq_false {d : Char} (hd : isSeparator d = true)
    (hc : isSeparator c = false) : c ≠ d := by
  rintro rfl
  simp [hd] at hc

/-- The first character of a phrase or a word is no blank, no hyphen and no colon. -/
theorem isBlank_ne_of_opens (hc : isQuote c = true ∨ isSeparator c = false) :
    isBlank c = false ∧ c ≠ '-' ∧ c ≠ ':' := by
  rcases hc with hc | hc
  · simp only [isQuote, Bool.or_eq_true, decide_eq_true_eq] at hc
    rcases hc with rfl | rfl <;> decide
  · exact ⟨isBlank_eq_false hc, ne_of_isSeparator_eq_false (by decide) hc,
      ne_of_isSeparator_eq_false (by decide) hc⟩

theorem opensWord_eq_true_iff {last : Option Char} :
    opensWord last = true ↔ ∀ c ∈ last, isSeparator c = true := by
  cases last <;> simp [opensWord]

theorem leadingWord_append (hr : ∀ c ∈ run, isSeparator c = false)
    (ha : ∀ c ∈ after.head?, isSeparator c = true) : leadingWord (run ++ after) = run := by
  have hw : ∀ c ∈ run, isWordChar c = true := fun c hc => isWordChar_eq_true_iff.mpr (hr c hc)
  have hn : after.takeWhile isWordChar = [] := by
    cases after with
    | nil => rfl
    | cons d _ => simp [isWordChar, ha d (by simp)]
  simp [leadingWord, List.takeWhile_append_of_pos hw, hn]

/-- Every text is its leading word and a rest that cannot extend it. -/
theorem exists_leadingWord_append (cs : List Char) :
    ∃ after, cs = leadingWord cs ++ after ∧ ∀ c ∈ after.head?, isSeparator c = true := by
  refine ⟨cs.dropWhile isWordChar, List.takeWhile_append_dropWhile.symm, ?_⟩
  intro c hc
  have hn := List.head?_dropWhile_not isWordChar cs
  rw [Option.mem_def] at hc
  simpa [hc, isWordChar] using hn

theorem isSeparator_of_mem_leadingWord (hc : c ∈ leadingWord cs) : isSeparator c = false :=
  isWordChar_eq_true_iff.mp (List.mem_takeWhile_imp hc)

/-- Where a word may begin, a word character begins a maximal run. -/
theorem exists_maximalRun (cs : List Char) (hb : ∀ d ∈ before.getLast?, isSeparator d = true)
    (hc : isSeparator c = false) :
    ∃ run after, c :: cs = run ++ after ∧ MaximalRun before run after := by
  obtain ⟨after, he, ha⟩ := exists_leadingWord_append (c :: cs)
  refine ⟨leadingWord (c :: cs), after, he, ?_, fun d hd => isSeparator_of_mem_leadingWord hd,
    hb, ha⟩
  simp [leadingWord, isWordChar, hc]

section Quotes

variable {quote : Char} {content : List Char}

theorem takeWhile_ne_append (after : List Char) (h : quote ∉ content) :
    (content ++ quote :: after).takeWhile (· != quote) = content := by
  have hc : ∀ c ∈ content, (c != quote) = true := by
    intro c hc
    simp only [bne_iff_ne]
    rintro rfl
    exact h hc
  simp [List.takeWhile_append_of_pos hc]

theorem dropWhile_ne_append (after : List Char) (h : quote ∉ content) :
    (content ++ quote :: after).dropWhile (· != quote) = quote :: after := by
  have he := List.takeWhile_append_dropWhile (p := (· != quote)) (l := content ++ quote :: after)
  rw [takeWhile_ne_append after h] at he
  exact List.append_cancel_left he

end Quotes

namespace MaximalRun

theorem leadingWord_eq (h : MaximalRun before run after) : leadingWord (run ++ after) = run :=
  leadingWord_append h.wordChars h.right

/-- A maximal run begins with a word character. -/
theorem exists_cons (h : MaximalRun before run after) :
    ∃ c cs, run = c :: cs ∧ isSeparator c = false := by
  obtain ⟨c, cs, rfl⟩ := List.exists_cons_of_ne_nil h.ne_nil
  exact ⟨c, cs, rfl, h.wordChars c (by simp)⟩

theorem isSeparator_of_getLast (h : MaximalRun before run after) (hc : c ∈ run.getLast?) :
    isSeparator c = false :=
  h.wordChars c (List.mem_of_getLast? hc)

theorem unique {run' after' : List Char} (h : MaximalRun before run after)
    (h' : MaximalRun before run' after') (he : run ++ after = run' ++ after') :
    run = run' ∧ after = after' := by
  have hr : run = run' := by rw [← h.leadingWord_eq, he, h'.leadingWord_eq]
  subst hr
  exact ⟨rfl, List.append_cancel_left he⟩

/-- A maximal run is one in every shorter text that holds it. -/
theorem cut {rest : List Char} (h : MaximalRun before run (rest ++ after)) :
    MaximalRun before run rest := by
  refine ⟨h.ne_nil, h.wordChars, h.left, ?_⟩
  intro c hc
  rw [Option.mem_def] at hc
  exact h.right c (by simp [List.head?_append, hc])

/-- A maximal run is one in every longer text that has a seam where the shorter one ends. -/
theorem extend {rest : List Char} (h : MaximalRun before run rest)
    (hs : Seam (before ++ run ++ rest) after) : MaximalRun before run (rest ++ after) := by
  refine ⟨h.ne_nil, h.wordChars, h.left, ?_⟩
  cases rest with
  | cons d rest =>
    intro c hc
    exact h.right c hc
  | nil =>
    rcases hs with hs | hs
    · have hd := List.getLast?_eq_some_getLast h.ne_nil
      have hsep := hs _ (by simp only [List.append_nil, List.getLast?_append, hd]; rfl)
      simp [h.isSeparator_of_getLast hd] at hsep
    · exact hs

/-- At a maximal run the lookup answers whether the run is a key. -/
theorem keyBehind?_eq (h : MaximalRun before run after) :
    v.keyBehind? before.getLast? (run ++ after) =
      if v.isKey (String.ofList run) then some (String.ofList run) else none := by
  simp [Vocabulary.keyBehind?, opensWord_eq_true_iff.mpr h.left, Vocabulary.leadingKey?,
    h.leadingWord_eq, h.ne_nil]

end MaximalRun

theorem KeyRun.keyBehind?_eq (h : KeyRun v before run after) :
    v.keyBehind? before.getLast? (run ++ after) = some (String.ofList run) := by
  simp [h.toMaximalRun.keyBehind?_eq, h.isKey]

theorem KeyRun.cut {rest : List Char} (h : KeyRun v before run (rest ++ after)) :
    KeyRun v before run rest :=
  ⟨h.toMaximalRun.cut, h.isKey⟩

theorem KeyRun.extend {rest : List Char} (h : KeyRun v before run rest)
    (hs : Seam (before ++ run ++ rest) after) : KeyRun v before run (rest ++ after) :=
  ⟨h.toMaximalRun.extend hs, h.isKey⟩

theorem keyBehind?_of_separator {last : Option Char} (hc : isSeparator c = true) :
    v.keyBehind? last (c :: cs) = none := by
  cases hk : v.keyBehind? last (c :: cs) with
  | none => rfl
  | some key =>
    have hw := isWordChar_eq_true_iff.mp (Vocabulary.isWordChar_of_keyBehind hk)
    simp [hc] at hw

theorem exists_keyRun (h : v.keyBehind? before.getLast? cs = some key) :
    ∃ run after, cs = run ++ after ∧ key = String.ofList run ∧ KeyRun v before run after := by
  have hb : ∀ d ∈ before.getLast?, isSeparator d = true := by
    rw [← opensWord_eq_true_iff]
    by_contra hn
    simp [Vocabulary.keyBehind?, hn] at h
  cases cs with
  | nil => simp [Vocabulary.keyBehind?, Vocabulary.leadingKey?, leadingWord] at h
  | cons c cs =>
    have hc := isWordChar_eq_true_iff.mp (Vocabulary.isWordChar_of_keyBehind h)
    obtain ⟨run, after, he, hr⟩ := exists_maximalRun cs hb hc
    rw [he, hr.keyBehind?_eq] at h
    split at h
    · rename_i hk
      exact ⟨run, after, he, (Option.some.inj h).symm, hr, hk⟩
    · cases h

/-- The lookup fails exactly where no key stands as a whole word. -/
theorem keyBehind?_eq_none_iff : v.keyBehind? before.getLast? cs = none ↔
    ¬ ∃ run after, cs = run ++ after ∧ KeyRun v before run after := by
  constructor
  · rintro hn ⟨run, after, rfl, hr⟩
    simp [hr.keyBehind?_eq] at hn
  · intro hn
    cases h : v.keyBehind? before.getLast? cs with
    | none => rfl
    | some key =>
      obtain ⟨run, after, he, _, hr⟩ := exists_keyRun h
      exact (hn ⟨run, after, he, hr⟩).elim

end FacetQuery

import FacetQuery.Query.Vocabulary
import Mathlib.Data.List.Basic

/-! Vocabularies made of keyword lists: their keys are words, and fulltext is one of them. -/
namespace FacetQuery

variable {keywords : List String} {v : Vocabulary} {name : String}

theorem isMatchable_iff :
    isMatchable name = true ↔ name.toList ≠ [] ∧ ∀ c ∈ name.toList, isSeparator c = false := by
  simp [isMatchable]

theorem keywordFault_eq_none_iff : keywordFault name = none ↔ isMatchable name = true := by
  rw [keywordFault, isMatchable_iff]
  split
  · simp_all
  · rename_i hne
    split
    · rename_i c hc
      have hm := List.mem_of_find?_eq_some hc
      have hs := List.find?_some hc
      simp only [reduceCtorEq, ne_eq, false_iff, not_and, not_forall]
      exact fun _ => ⟨c, hm, by simp [hs]⟩
    · rename_i hc
      rw [List.find?_eq_none] at hc
      simpa using ⟨by simpa using hne, by simpa using hc⟩

/-- A keyword list is accepted exactly if each keyword could stand in a query as a word. -/
theorem ofKeywords_eq_ok_iff : Vocabulary.ofKeywords keywords = .ok v ↔
    (∀ name ∈ keywords, isMatchable name = true) ∧ v = Vocabulary.ofValid keywords := by
  simp only [← keywordFault_eq_none_iff, ← List.findSome?_eq_none_iff]
  rw [Vocabulary.ofKeywords]
  split <;> rename_i hf
  · simp [hf]
  · simp [hf, eq_comm]

theorem mem_keys_ofValid :
    name ∈ (Vocabulary.ofValid keywords).keys ↔ name ∈ keywords ∨ name = fulltextKey := by
  rw [Vocabulary.ofValid]
  by_cases hf : fulltextKey ∈ keywords
  · simp only [List.contains_iff_mem, List.mem_eraseDups, hf, if_true]
    refine ⟨Or.inl, ?_⟩
    rintro (h | rfl)
    · exact h
    · exact hf
  · simp [hf]

theorem fulltextKey_mem_keys (h : Vocabulary.ofKeywords keywords = .ok v) :
    fulltextKey ∈ v.keys := by
  obtain ⟨-, rfl⟩ := ofKeywords_eq_ok_iff.mp h
  exact mem_keys_ofValid.mpr (Or.inr rfl)

/-- Every key of an accepted vocabulary could stand in a query as a word. -/
theorem isMatchable_of_mem_keys (h : Vocabulary.ofKeywords keywords = .ok v)
    (hn : name ∈ v.keys) : isMatchable name = true := by
  obtain ⟨hall, rfl⟩ := ofKeywords_eq_ok_iff.mp h
  rcases mem_keys_ofValid.mp hn with hn | rfl
  · exact hall name hn
  · decide

end FacetQuery

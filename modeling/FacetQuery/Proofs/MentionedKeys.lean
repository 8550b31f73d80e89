import FacetQuery.Config.Basic
import FacetQuery.Proofs.Keywords
import FacetQuery.Proofs.Steps
import FacetQuery.Query.Assembly

/-!
What a query asks of its vocabulary. The scanner looks up whole words of the query and nothing else,
so vocabularies that have the same of these words among their keys read the query alike.
-/
namespace FacetQuery

/-- A word stands in a query, with a separator or an end of the query on either side. -/
def Mentions (query word : String) : Prop :=
  ∃ before run after, query.toList = before ++ run ++ after ∧ MaximalRun before run after ∧
    word = String.ofList run

/-- Two vocabularies read a query alike: the tokens up to an error, the error, and the formula. -/
structure ReadAlike (v w : Vocabulary) (query : String) : Prop where
  scan : v.scan query = w.scan query
  tokens : v.tokenize query = w.tokenize query
  formula : v.parse query = w.parse query

/-- A scanner between two parts of a query. -/
def Scanner.In (query : String) (s : Scanner) : Prop :=
  ∃ before, query.toList = before ++ s.rest ∧ s = .between before s.rest s.mode

variable {v w : Vocabulary} {query word : String} {before rest : List Char} {s n : Scanner}

theorem Scanner.in_start (query : String) : (Scanner.start query.toList).In query :=
  ⟨[], rfl, rfl⟩

theorem Scanner.In.next (h : s.In query) (hnext : (s.step v).next? = some n) : n.In query := by
  obtain ⟨before, hquery, hs⟩ := h
  obtain ⟨lexeme, hrest, hn⟩ := advance_of_goesOn (goesOn_step hnext) hnext
  refine ⟨before ++ lexeme, by simp [hquery, hrest], ?_⟩
  rw [hs, between_advance] at hn
  exact hn

section Agreement

variable (hagree : ∀ word, Mentions query word → v.isKey word = w.isKey word)

include hagree

/-- Wherever a key is looked for, the word there is one of the query. -/
theorem keyBehind?_congr (hquery : query.toList = before ++ rest) :
    v.keyBehind? before.getLast? rest = w.keyBehind? before.getLast? rest := by
  by_cases hopens : opensWord before.getLast? = true
  · cases rest with
    | nil => simp [Vocabulary.keyBehind?, Vocabulary.leadingKey?, leadingWord]
    | cons c cs =>
      cases hc : isSeparator c with
      | true => simp [keyBehind?_of_separator hc]
      | false =>
        obtain ⟨run, after, he, hrun⟩ :=
          exists_maximalRun cs (opensWord_eq_true_iff.mp hopens) hc
        have hword := hagree _ ⟨before, run, after, by simp [hquery, he], hrun, rfl⟩
        simp [he, hrun.keyBehind?_eq, hword]
  · simp [Vocabulary.keyBehind?, hopens]

theorem step_congr (h : s.In query) : s.step v = s.step w := by
  obtain ⟨before, hquery, hs⟩ := h
  generalize s.rest = rest at hquery hs
  generalize s.mode = mode at hs
  subst hs
  cases mode with
  | pairing key => rfl
  | scanning =>
    cases rest with
    | nil => rfl
    | cons c rest =>
      have hhere := keyBehind?_congr hagree hquery
      -- the lookup in front of which a hyphen stands
      have hquery' : query.toList = (before ++ [c]) ++ rest := by simp [hquery]
      have hahead := keyBehind?_congr hagree hquery'
      rw [List.getLast?_concat] at hahead
      simp only [Scanner.step, Scanner.between_mode, Scanner.scan, Scanner.between_rest,
        Scanner.between_last, hhere, hahead]

theorem run_congr (h : s.In query) : s.run v query = s.run w query := by
  fun_induction Scanner.run v query s with
  | case1 s hstep =>
    rw [step_congr hagree h] at hstep
    rw [Scanner.run_stop query hstep]
  | case2 s position fault hstep =>
    rw [step_congr hagree h] at hstep
    rw [Scanner.run_fail query hstep]
  | case3 s next hstep ih =>
    have hnext := h.next (v := v) (n := next) (by rw [hstep]; rfl)
    rw [step_congr hagree h] at hstep
    rw [Scanner.run_skip query hstep]
    exact ih hnext
  | case4 s token next hstep tail =>
    rename_i ih
    have hnext := h.next (v := v) (n := next) (by rw [hstep]; rfl)
    rw [step_congr hagree h] at hstep
    rw [Scanner.run_emit query hstep, ← ih hnext]
    rfl

theorem readAlike_of_agree : ReadAlike v w query := by
  have hscan : v.scan query = w.scan query := run_congr hagree (Scanner.in_start query)
  refine ⟨hscan, ?_, ?_⟩
  · simp only [Vocabulary.tokenize, hscan]
  · simp only [Vocabulary.parse, hscan]

end Agreement

theorem readAlike_of_mem_iff (h : ∀ key, Mentions query key → (key ∈ v.keys ↔ key ∈ w.keys)) :
    ReadAlike v w query := by
  apply readAlike_of_agree
  intro key hkey
  rw [Bool.eq_iff_iff]
  simpa [Vocabulary.isKey] using h key hkey

theorem Mentions.isMatchable (h : Mentions query word) : isMatchable word = true := by
  obtain ⟨before, run, after, -, hrun, rfl⟩ := h
  exact isMatchable_iff.mpr (by simpa using ⟨hrun.ne_nil, hrun.wordChars⟩)

/-- Vocabularies that agree on the words of a query read it alike. The order of keys, repetitions,
keys that the query does not mention and keys that no query can mention make no difference, whether
they are left out of a vocabulary or of the keywords that it is made of. -/
theorem only_mentioned_keys_matter (query : String) :
    (∀ v w : Vocabulary, (∀ word, Mentions query word → v.isKey word = w.isKey word) →
      ReadAlike v w query) ∧
    (∀ keys keys' : List String, (∀ key, key ∈ keys ↔ key ∈ keys') →
      ReadAlike ⟨keys⟩ ⟨keys'⟩ query) ∧
    (∀ keys more : List String, (∀ key ∈ more, ¬ Mentions query key) →
      ReadAlike ⟨keys ++ more⟩ ⟨keys⟩ query) ∧
    (∀ keys : List String, ReadAlike ⟨keys.filter isMatchable⟩ ⟨keys⟩ query) ∧
    ∀ c : Config, ReadAlike (.ofValid c.keywords) (.ofValid c.names) query := by
  refine ⟨?_, ?_, ?_, ?_, ?_⟩
  · intro v w hagree
    exact readAlike_of_agree hagree
  · intro keys keys' hsame
    exact readAlike_of_mem_iff fun key _ => hsame key
  · intro keys more hmore
    apply readAlike_of_mem_iff
    intro key hkey
    have hnot : key ∉ more := fun hmem => hmore key hmem hkey
    simp [hnot]
  · intro keys
    apply readAlike_of_mem_iff
    intro key hkey
    simp [hkey.isMatchable]
  · intro c
    apply readAlike_of_mem_iff
    intro key hkey
    simp [mem_keys_ofValid, Config.keywords, hkey.isMatchable]

end FacetQuery

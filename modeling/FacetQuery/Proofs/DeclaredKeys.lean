import FacetQuery.Cli.Queries
import FacetQuery.Proofs.Grouping
import FacetQuery.Proofs.Keywords

/-!
From declarations to a vocabulary. What the files declare never keeps a run from its vocabulary;
only a keyword of the run itself can.
-/
namespace FacetQuery

variable {name : String} {names : List String} {fault : Fault} {files : List ConfigFile}
  {home : Path} {c : Config} {k : KeywordChoice}

/-- A text that can stand in a query as a word: there is something in it, and no separator. -/
def SpellsWord (name : String) : Prop :=
  name ≠ "" ∧ ∀ c ∈ name.toList, isSeparator c = false

theorem isMatchable_iff_spellsWord : isMatchable name = true ↔ SpellsWord name := by
  simp [isMatchable_iff, SpellsWord]

instance : DecidablePred SpellsWord := fun _ => decidable_of_iff _ isMatchable_iff_spellsWord

/-- What is said against a keyword: that it is empty, or the first separator in it. -/
inductive Objection (name : String) : String → Prop where
  | empty (nothing : name = "") : Objection name "keyword is empty"
  | separator {before after : List Char} {c : Char} (split : name.toList = before ++ c :: after)
      (word : ∀ b ∈ before, isSeparator b = false) (here : isSeparator c = true) :
      Objection name ("contains separator " ++ quoteChar c)

theorem objection_of_keywordFault (h : keywordFault name = some fault) :
    ∃ reason, Objection name reason ∧ fault = .invalidKeyword name reason := by
  rw [keywordFault] at h
  split at h
  · rename_i hempty
    obtain rfl := Option.some.inj h
    exact ⟨_, .empty (by simpa using hempty), rfl⟩
  · split at h
    · rename_i c hfind
      obtain rfl := Option.some.inj h
      obtain ⟨hc, before, after, hsplit, hbefore⟩ := List.find?_eq_some_iff_append.mp hfind
      exact ⟨_, .separator hsplit (by simpa using hbefore) hc, rfl⟩
    · cases h

theorem spellsWord_of_mem_keywords (h : name ∈ c.keywords) : SpellsWord name :=
  isMatchable_iff_spellsWord.mp (List.mem_filter.mp h).2

/-- The names that files declare and that can stand as words, each as often as it is declared. -/
def declaredWords (files : List ConfigFile) : List String :=
  (files.flatMap fun f => f.settings.keywords).filter fun name => SpellsWord name

theorem names_declared (home : Path) (files : List ConfigFile) :
    (Config.merge home files).declarations.map Declaration.name =
      files.flatMap fun f => f.settings.keywords := by
  simp [Config.merge, ConfigFile.declarations, List.map_flatMap, Function.comp_def]

theorem keywords_merge (home : Path) (files : List ConfigFile) :
    (Config.merge home files).keywords = (declaredWords files).eraseDups := by
  have hmatch : isMatchable = fun name => decide (SpellsWord name) := by
    funext name
    rw [Bool.eq_iff_iff, isMatchable_iff_spellsWord, decide_eq_true_iff]
  rw [Config.keywords, Config.names, names_declared, declaredWords, eraseDups_filter, hmatch]

/-- The words that a run may use as keys: those of the files unless it leaves them out, and then
its own. -/
def wordsOf (files : List ConfigFile) (k : KeywordChoice) : List String :=
  (if k.noConfig then [] else declaredWords files) ++ k.keywords

theorem eraseDups_keywordsWith (home : Path) (files : List ConfigFile) (k : KeywordChoice) :
    (k.keywordsWith (Config.merge home files)).eraseDups = (wordsOf files k).eraseDups := by
  rw [KeywordChoice.keywordsWith, wordsOf, keywords_merge]
  split
  · rfl
  · exact eraseDups_eraseDups_append _ _

theorem findSome?_keywordsWith (c : Config) (k : KeywordChoice) :
    (k.keywordsWith c).findSome? keywordFault = k.keywords.findSome? keywordFault := by
  have hnone : (if k.noConfig then [] else c.keywords).findSome? keywordFault = none := by
    rw [List.findSome?_eq_none_iff]
    intro name hname
    rw [keywordFault_eq_none_iff, isMatchable_iff_spellsWord]
    split at hname
    · cases hname
    · exact spellsWord_of_mem_keywords hname
  rw [KeywordChoice.keywordsWith, List.findSome?_append, hnone, Option.none_or]

theorem ofKeywords_eq_ok (h : ∀ name ∈ k.keywords, SpellsWord name) :
    Vocabulary.ofKeywords (k.keywordsWith c) = .ok (.ofValid (k.keywordsWith c)) := by
  have hnone : (k.keywordsWith c).findSome? keywordFault = none := by
    rw [findSome?_keywordsWith, List.findSome?_eq_none_iff]
    intro name hname
    exact keywordFault_eq_none_iff.mpr (isMatchable_iff_spellsWord.mpr (h name hname))
  rw [Vocabulary.ofKeywords, hnone]

theorem ofKeywords_eq_error {front back : List String} (hk : k.keywords = front ++ name :: back)
    (hfront : ∀ n ∈ front, SpellsWord n) (hname : ¬ SpellsWord name) :
    ∃ reason, Objection name reason ∧
      Vocabulary.ofKeywords (k.keywordsWith c) =
        .error ⟨.invalidKeyword name reason, none, none⟩ := by
  cases hfault : keywordFault name with
  | none =>
    exact (hname (isMatchable_iff_spellsWord.mp (keywordFault_eq_none_iff.mp hfault))).elim
  | some fault =>
    obtain ⟨reason, hreason, rfl⟩ := objection_of_keywordFault hfault
    have hfirst : (k.keywordsWith c).findSome? keywordFault =
        some (.invalidKeyword name reason) := by
      rw [findSome?_keywordsWith, List.findSome?_eq_some_iff]
      refine ⟨front, name, back, hk, hfault, ?_⟩
      intro n hn
      exact keywordFault_eq_none_iff.mpr (isMatchable_iff_spellsWord.mpr (hfront n hn))
    exact ⟨reason, hreason, by rw [Vocabulary.ofKeywords, hfirst]⟩

/-- The first of several keywords that cannot stand as a word. -/
theorem exists_first_objection (h : ∃ name ∈ names, ¬ SpellsWord name) :
    ∃ front name back, names = front ++ name :: back ∧ (∀ n ∈ front, SpellsWord n) ∧
      ¬ SpellsWord name := by
  have hfind : (names.find? fun n => ¬ SpellsWord n).isSome = true := by
    simpa using h
  obtain ⟨name, hname⟩ := Option.isSome_iff_exists.mp hfind
  obtain ⟨hno, front, back, rfl, hfront⟩ := List.find?_eq_some_iff_append.mp hname
  exact ⟨front, name, back, rfl, by simpa using hfront, by simpa using hno⟩

theorem keys_ofValid (names : List String) : (Vocabulary.ofValid names).keys =
    names.eraseDups ++ if fulltextKey ∈ names then [] else [fulltextKey] := by
  by_cases hfull : fulltextKey ∈ names <;> simp [Vocabulary.ofValid, hfull]

theorem nodup_keys_ofValid (names : List String) : (Vocabulary.ofValid names).keys.Nodup := by
  have hnodup := nodup_eraseDups names
  rw [keys_ofValid]
  split
  · simpa using hnodup
  · rename_i hfull
    refine List.nodup_append.mpr ⟨hnodup, by simp, ?_⟩
    intro key hkey other hother
    obtain rfl := List.mem_singleton.mp hother
    exact ne_of_mem_of_not_mem (List.mem_eraseDups.mp hkey) hfull

/-- The keys of a run depend on its words only, not on how often they are declared. -/
theorem ofValid_keywordsWith (home : Path) (files : List ConfigFile) (k : KeywordChoice) :
    Vocabulary.ofValid (k.keywordsWith (Config.merge home files)) =
      .ofValid (wordsOf files k) := by
  rw [Vocabulary.ofValid, Vocabulary.ofValid, eraseDups_keywordsWith]

/-- A run has no vocabulary exactly if one of its own keywords cannot stand as a word, and the first
such keyword is the error. Otherwise its keys are the declared words and its own, each at its first
occurrence, and behind them fulltext if it is not among them. -/
theorem vocabulary_exact (home : Path) (files : List ConfigFile) (k : KeywordChoice) :
    let made := Vocabulary.ofKeywords (k.keywordsWith (Config.merge home files))
    let words := wordsOf files k
    ((∃ e, made = .error e) ↔ ∃ name ∈ k.keywords, ¬ SpellsWord name) ∧
    (∀ front name back, k.keywords = front ++ name :: back → (∀ n ∈ front, SpellsWord n) →
      ¬ SpellsWord name →
      ∃ reason, Objection name reason ∧ made = .error ⟨.invalidKeyword name reason, none, none⟩) ∧
    ((∀ name ∈ k.keywords, SpellsWord name) →
      made = .ok ⟨words.eraseDups ++ if fulltextKey ∈ words then [] else [fulltextKey]⟩) ∧
    (∀ v, made = .ok v → v.keys.Nodup ∧ ∀ key ∈ v.keys, SpellsWord key) ∧
    ∀ c : Config, ∃ v, Vocabulary.ofKeywords c.keywords = .ok v := by
  intro made words
  refine ⟨⟨?_, ?_⟩, ?_, ?_, ?_, ?_⟩
  · rintro ⟨e, he⟩
    by_contra hnone
    have hok : made = _ := ofKeywords_eq_ok (by simpa using hnone)
    rw [hok] at he
    cases he
  · intro h
    obtain ⟨front, name, back, hk, hfront, hname⟩ := exists_first_objection h
    obtain ⟨reason, -, herror⟩ := ofKeywords_eq_error (c := .merge home files) hk hfront hname
    exact ⟨_, herror⟩
  · intro front name back hk hfront hname
    exact ofKeywords_eq_error hk hfront hname
  · intro h
    have hok : made = _ := ofKeywords_eq_ok h
    rw [hok, ofValid_keywordsWith, ← keys_ofValid]
  · intro v hv
    obtain ⟨-, rfl⟩ := ofKeywords_eq_ok_iff.mp hv
    refine ⟨nodup_keys_ofValid _, ?_⟩
    intro key hkey
    exact isMatchable_iff_spellsWord.mp (isMatchable_of_mem_keys hv hkey)
  · intro c
    have hall : ∀ name ∈ c.keywords, isMatchable name = true := by
      intro name hname
      exact isMatchable_iff_spellsWord.mpr (spellsWord_of_mem_keywords hname)
    exact ⟨_, ofKeywords_eq_ok_iff.mpr ⟨hall, rfl⟩⟩

/-- A file with names that no query can use as keys. -/
def carelessFile : ConfigFile :=
  ⟨⟨"/work/.sift.toml"⟩, ⟨none, some ⟨some ["tag", "due date", "", "tag"]⟩⟩⟩

/-- Such names do no harm in a file, and the first of them is an error among a run's own. -/
theorem vocabulary_exact_careless :
    Vocabulary.ofKeywords
        (KeywordChoice.keywordsWith ⟨["owner", "tag"], false⟩ (.merge ⟨"/home"⟩ [carelessFile])) =
      .ok ⟨["tag", "owner", "fulltext"]⟩ ∧
    (∃ reason, Objection "no, yes" reason ∧
      Vocabulary.ofKeywords (KeywordChoice.keywordsWith ⟨["owner", "no, yes", ""], false⟩
        (.merge ⟨"/home"⟩ [carelessFile])) =
      .error ⟨.invalidKeyword "no, yes" reason, none, none⟩) := by
  obtain ⟨-, -, hok, -⟩ := vocabulary_exact ⟨"/home"⟩ [carelessFile] ⟨["owner", "tag"], false⟩
  obtain ⟨-, herror, -⟩ :=
    vocabulary_exact ⟨"/home"⟩ [carelessFile] ⟨["owner", "no, yes", ""], false⟩
  exact ⟨hok (by decide), herror ["owner"] "no, yes" [""] rfl (by decide) (by decide)⟩

end FacetQuery

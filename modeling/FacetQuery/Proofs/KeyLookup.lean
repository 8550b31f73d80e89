import FacetQuery.Proofs.Boundaries
import FacetQuery.Proofs.Keywords

/-!
Keys by position. A lookup cuts one word out of the input and asks whether it is a key. What it
finds is the key that the input spells out there between separators, and since there is one such key
at most, trying the keys one by one finds the same, the longest first or in any other order.
-/
namespace FacetQuery

/-- A byte position between two characters of a text, or at one of its ends. -/
def OnBoundary (input : String) (position : Nat) : Prop :=
  ∃ before after, input.toList = before ++ after ∧ byteLength before = position

/-- A name that a text spells out from a byte position on, with a separator or an end of the text on
either side. -/
def StandsAt (input : String) (position : Nat) (name : String) : Prop :=
  ∃ before after, input.toList = before ++ (name.toList ++ after) ∧ byteLength before = position ∧
    (∀ c ∈ before.getLast?, isSeparator c = true) ∧ ∀ c ∈ after.head?, isSeparator c = true

/-- The longest of the keys that stand at a byte position. -/
structure Vocabulary.LongestAt (v : Vocabulary) (input : String) (position : Nat) (key : String) :
    Prop where
  isKey : key ∈ v.keys
  stands : StandsAt input position key
  longest : ∀ other ∈ v.keys, StandsAt input position other → other.length ≤ key.length

variable {v v' : Vocabulary} {keywords order : List String} {input name key key' : String}
  {position : Nat} {before after : List Char}

theorem onBoundary_iff :
    OnBoundary input position ↔ ∃ parts, splitAtByte? position input.toList = some parts := by
  constructor
  · rintro ⟨before, after, hinput, rfl⟩
    exact ⟨(before, after), splitAtByte?_eq_some.mpr ⟨hinput, rfl⟩⟩
  · rintro ⟨⟨before, after⟩, hcut⟩
    obtain ⟨hinput, rfl⟩ := splitAtByte?_eq_some.mp hcut
    exact ⟨before, after, hinput, rfl⟩

/-- At a boundary the text behind it and the character in front of it tell what stands there. -/
theorem standsAt_iff (h : input.toList = before ++ after) :
    StandsAt input (byteLength before) name ↔
      opensWord before.getLast? = true ∧ name.toList <+: after ∧
        opensWord (after.drop name.toList.length).head? = true := by
  simp only [opensWord_eq_true_iff]
  constructor
  · rintro ⟨front, rest, hinput, hlength, hleft, hright⟩
    -- a text has one cut at a byte position
    have hcut := splitAtByte?_eq_some.mpr ⟨hinput, hlength.symm⟩
    rw [splitAtByte?_eq_some.mpr ⟨h, rfl⟩] at hcut
    obtain ⟨rfl, rfl⟩ := Prod.mk.inj (Option.some.inj hcut)
    exact ⟨hleft, List.prefix_append _ _, by simpa using hright⟩
  · rintro ⟨hleft, ⟨rest, rfl⟩, hright⟩
    exact ⟨before, rest, h, rfl, hleft, by simpa using hright⟩

instance : Decidable (StandsAt input position name) :=
  match hcut : splitAtByte? position input.toList with
  | none => isFalse (by
      rintro ⟨before, after, hinput, rfl, -⟩
      simp [splitAtByte?_eq_some.mpr ⟨hinput, rfl⟩] at hcut)
  | some (before, after) =>
    decidable_of_iff (opensWord before.getLast? = true ∧ name.toList <+: after ∧
      opensWord (after.drop name.toList.length).head? = true) (by
        obtain ⟨hinput, rfl⟩ := splitAtByte?_eq_some.mp hcut
        exact (standsAt_iff hinput).symm)

/-- Only the keys of a vocabulary matter to its lookups, not their order. -/
theorem keyAt_congr (h : ∀ key, key ∈ v'.keys ↔ key ∈ v.keys) (input : String) (position : Nat) :
    v'.keyAt input position = v.keyAt input position := by
  have hkeys : v'.isKey = v.isKey := by
    funext word
    simp [Vocabulary.isKey, h]
  simp only [Vocabulary.keyAt, Vocabulary.keyBehind?, Vocabulary.leadingKey?, hkeys]

theorem keyAt_byteLength (h : input.toList = before ++ after) :
    v.keyAt input (byteLength before) = .ok (v.keyBehind? before.getLast? after) := by
  rw [← keyAt?_eq_keyAt, h]
  exact keyAt?_append v before after

theorem onBoundary_of_keyAt (h : v.keyAt input position = .ok (some key)) :
    OnBoundary input position := by
  rw [onBoundary_iff]
  unfold Vocabulary.keyAt at h
  split at h
  · cases h
  · split at h
    · cases h
    · rename_i hcut
      exact ⟨_, hcut⟩

/-- A key that is found stands where it is looked for. -/
theorem standsAt_of_keyAt (h : v.keyAt input position = .ok (some key)) :
    key ∈ v.keys ∧ StandsAt input position key := by
  obtain ⟨before, after, hinput, rfl⟩ := onBoundary_of_keyAt h
  rw [keyAt_byteLength hinput] at h
  obtain ⟨run, rest, rfl, rfl, hrun⟩ := exists_keyRun (Except.ok.inj h)
  have hkey : String.ofList run ∈ v.keys := by simpa [Vocabulary.isKey] using hrun.isKey
  exact ⟨hkey, before, rest, by simpa using hinput, rfl, hrun.left, hrun.right⟩

/-- A key that stands somewhere is a maximal run there, being a word, and so it is found. -/
theorem keyAt_of_standsAt (hword : isMatchable key = true) (hkey : key ∈ v.keys)
    (h : StandsAt input position key) : v.keyAt input position = .ok (some key) := by
  obtain ⟨before, after, hinput, rfl, hleft, hright⟩ := h
  obtain ⟨hne, hchars⟩ := isMatchable_iff.mp hword
  have hrun : KeyRun v before key.toList after :=
    { ne_nil := hne, wordChars := hchars, left := hleft, right := hright
      isKey := by simpa [Vocabulary.isKey] using hkey }
  rw [keyAt_byteLength hinput, hrun.keyBehind?_eq, String.ofList_toList]

section Words

variable (hwords : ∀ key ∈ v.keys, isMatchable key = true)

include hwords

theorem keyAt_eq_some_iff :
    v.keyAt input position = .ok (some key) ↔ key ∈ v.keys ∧ StandsAt input position key :=
  ⟨standsAt_of_keyAt, fun h => keyAt_of_standsAt (hwords key h.1) h.1 h.2⟩

/-- Two keys that stand at one position are the same. -/
theorem standsAt_unique (hkey : key ∈ v.keys) (hkey' : key' ∈ v.keys)
    (h : StandsAt input position key) (h' : StandsAt input position key') : key = key' := by
  have hfound := (keyAt_eq_some_iff hwords).mpr ⟨hkey, h⟩
  rw [(keyAt_eq_some_iff hwords).mpr ⟨hkey', h'⟩] at hfound
  simpa using hfound.symm

theorem keyAt_eq_some_iff_longest :
    v.keyAt input position = .ok (some key) ↔ v.LongestAt input position key := by
  rw [keyAt_eq_some_iff hwords]
  constructor
  · rintro ⟨hkey, hstands⟩
    refine ⟨hkey, hstands, ?_⟩
    intro other hother hstands'
    rw [standsAt_unique hwords hother hkey hstands' hstands]
  · intro h
    exact ⟨h.isKey, h.stands⟩

/-- Trying the keys in any order finds the same as the lookup. -/
theorem keyAt_eq_find? (hposition : OnBoundary input position)
    (horder : ∀ key, key ∈ order ↔ key ∈ v.keys) :
    v.keyAt input position = .ok (order.find? fun key => StandsAt input position key) := by
  cases htried : order.find? fun key => StandsAt input position key with
  | some key =>
    have hstands : StandsAt input position key := by simpa using List.find?_some htried
    exact (keyAt_eq_some_iff hwords).mpr
      ⟨(horder key).mp (List.mem_of_find?_eq_some htried), hstands⟩
  | none =>
    obtain ⟨before, after, hinput, rfl⟩ := hposition
    rw [keyAt_byteLength hinput]
    cases hfound : v.keyBehind? before.getLast? after with
    | none => rfl
    | some key =>
      obtain ⟨hkey, hstands⟩ := standsAt_of_keyAt ((keyAt_byteLength hinput).trans
        (congrArg Except.ok hfound))
      rw [List.find?_eq_none] at htried
      exact (htried key ((horder key).mpr hkey) (by simpa using hstands)).elim

end Words

/-- The lookup of a key finds the key that stands at a position, which no other key does, so that it
is the longest of those that do. Trying the keys one by one finds the same in whatever order they
come, and so does the lookup in a vocabulary that has the keys in another order. -/
theorem keyAt_exact (h : Vocabulary.ofKeywords keywords = .ok v) (input : String)
    (position : Nat) :
    (∀ key, v.keyAt input position = .ok (some key) ↔
      key ∈ v.keys ∧ StandsAt input position key) ∧
    (∀ key ∈ v.keys, ∀ key' ∈ v.keys, StandsAt input position key →
      StandsAt input position key' → key = key') ∧
    (∀ key, v.keyAt input position = .ok (some key) ↔ v.LongestAt input position key) ∧
    (OnBoundary input position → ∀ order : List String, (∀ key, key ∈ order ↔ key ∈ v.keys) →
      v.keyAt input position = .ok (order.find? fun key => StandsAt input position key)) ∧
    ∀ v' : Vocabulary, (∀ key, key ∈ v'.keys ↔ key ∈ v.keys) →
      v'.keyAt input position = v.keyAt input position := by
  have hwords : ∀ key ∈ v.keys, isMatchable key = true := fun _ => isMatchable_of_mem_keys h
  refine ⟨fun key => keyAt_eq_some_iff hwords, ?_, fun key => keyAt_eq_some_iff_longest hwords,
    fun hposition order => keyAt_eq_find? hwords hposition, ?_⟩
  · intro key hkey key' hkey'
    exact standsAt_unique hwords hkey hkey'
  · intro v' hkeys
    exact keyAt_congr hkeys input position

/-- Keys that are the beginnings of others, behind a character of two bytes and a hyphen, and tried
from the shortest to the longest. At a place inside the first word no key stands. -/
theorem keyAt_exact_nested :
    ∃ v, Vocabulary.ofKeywords ["tag", "tags"] = .ok v ∧
      v.keyAt "é-tags:a" 3 = .ok (some "tags") ∧ v.LongestAt "é-tags:a" 3 "tags" ∧
      v.keyAt "é-tags:a" 3 =
        .ok (["tag", "tags", "fulltext"].find? fun key => StandsAt "é-tags:a" 3 key) ∧
      v.keyAt "é-tags:a" 4 = .ok none := by
  have hv : Vocabulary.ofKeywords ["tag", "tags"] = .ok ⟨["tag", "tags", "fulltext"]⟩ := by
    decide +kernel
  have hboundary : OnBoundary "é-tags:a" 3 := ⟨['é', '-'], "tags:a".toList, by decide, by decide⟩
  obtain ⟨hfound, -, hlongest, htried, -⟩ := keyAt_exact hv "é-tags:a" 3
  have htags := (hfound "tags").mpr ⟨by decide, by decide +kernel⟩
  exact ⟨_, hv, htags, (hlongest "tags").mp htags, htried hboundary _ (fun _ => Iff.rfl),
    by decide +kernel⟩

end FacetQuery

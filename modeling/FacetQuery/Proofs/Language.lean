import FacetQuery.Proofs.Scanning

/-! The queries that have tokens, and which tokens they have. -/
namespace FacetQuery

variable {v : Vocabulary} {query : String} {ps qs : List Piece} {f : Flaw}

theorem tokenize_of_splits (h : Splits v query ps) : v.tokenize query = .ok (tokensFrom 0 ps) := by
  rw [Vocabulary.tokenize, scan_of_splits h]
  rfl

theorem tokenize_of_flaw (hq : query.toList = spelled ps ++ f.chars)
    (hps : AllFit v [] ps f.chars) (hf : f.Fits v (spelled ps)) :
    v.tokenize query =
      .error ⟨f.fault, some (byteLength (spelled ps ++ f.lead)), some query⟩ := by
  rw [Vocabulary.tokenize, scan_of_flaw hq hps hf]
  rfl

theorem exists_splits_of_tokenize {tokens : List Token} (h : v.tokenize query = .ok tokens) :
    ∃ ps, Splits v query ps ∧ tokens = tokensFrom 0 ps := by
  rcases splits_or_flaw v query with ⟨ps, hps⟩ | ⟨ps, f, hq, hps, hf⟩
  · rw [tokenize_of_splits hps] at h
    exact ⟨ps, hps, (Except.ok.inj h).symm⟩
  · rw [tokenize_of_flaw hq hps hf] at h
    cases h

theorem Splits.unique (h : Splits v query ps) (h' : Splits v query qs) : ps = qs :=
  h.2.unique h'.2 (h.1.trans h'.1.symm)

/-- A hyphen right before the key of a pair belongs to the pair. -/
theorem Splits.getLast?_ne_hyphen {front back : List Piece} {key : List Char} {n : Nat}
    {w : Written} (h : Splits v query (front ++ .pair false key n w :: back)) :
    (spelled front).getLast? ≠ some '-' := by
  obtain ⟨hfront, hpair, -⟩ := allFit_append.mp h.2
  have hk : KeyRun v (spelled front) key (colons n ++ w.chars ++ (spelled back ++ [])) := by
    simpa using hpair.1
  exact AllFit.getLast?_ne_hyphen (by simpa [Piece.chars] using hfront) hk

/-- A query has tokens exactly if it splits into pieces. It then does so in one way only, its
tokens are those of the pieces, and a pair without a hyphen does not stand behind one. -/
theorem tokenize_exact (v : Vocabulary) (query : String) :
    ((∃ tokens, v.tokenize query = .ok tokens) ↔ ∃ ps, Splits v query ps) ∧
    (∀ ps qs, Splits v query ps → Splits v query qs → ps = qs) ∧
    ∀ ps, Splits v query ps → v.tokenize query = .ok (tokensFrom 0 ps) ∧
      ∀ front key n w back, ps = front ++ .pair false key n w :: back →
        (spelled front).getLast? ≠ some '-' := by
  refine ⟨⟨?_, ?_⟩, fun ps qs => Splits.unique, ?_⟩
  · rintro ⟨tokens, h⟩
    obtain ⟨ps, hps, -⟩ := exists_splits_of_tokenize h
    exact ⟨ps, hps⟩
  · rintro ⟨ps, hps⟩
    exact ⟨_, tokenize_of_splits hps⟩
  · intro ps hps
    refine ⟨tokenize_of_splits hps, ?_⟩
    rintro front key n w back rfl
    exact hps.getLast?_ne_hyphen

end FacetQuery

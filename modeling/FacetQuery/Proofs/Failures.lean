import FacetQuery.Proofs.Language

/-! Errors of the scanner: what they say, where they point, and that they are the first ones. -/
namespace FacetQuery

variable {v : Vocabulary} {query : String} {e : QueryError} {ps : List Piece} {f : Flaw}

/-- Why a query fails at the place between two parts of it: a quote is not closed behind it, or
behind a key and its colons stands neither a colon nor a value. -/
inductive FaultAt (v : Vocabulary) (before after : List Char) : Fault → Prop where
  | unclosed {quote : Char} {rest : List Char} (quoted : isQuote quote = true)
      (here : after = quote :: rest) (never : quote ∉ rest) :
      FaultAt v before after (.unterminatedPhrase quote)
  | valueless {front key : List Char} {n : Nat} (behind : before = front ++ key ++ colons n)
      (whole : KeyRun v front key (colons n ++ after))
      (stuck : ∀ c ∈ after.head?, isSeparator c = true ∧ c ≠ ':' ∧ isQuote c = false) :
      FaultAt v before after (.expectedValue (String.ofList key))

/-- The error of a query is the first one. The query up to the item that fails has tokens, which
are those read before the error less those of the item, and no hyphen in front of the item's key
is left out of it. -/
structure FirstError (v : Vocabulary) (query : String) (e : QueryError) : Prop where
  query_eq : e.query = some query
  place : ∃ position before after, e.position = some position ∧
    position ≤ byteLength query.toList ∧
    splitAtByte? position query.toList = some (before, after) ∧ FaultAt v before after e.fault
  never_unexpectedInput : ∀ found, e.fault ≠ .unexpectedInput found
  never_invalidKeyword : ∀ keyword reason, e.fault ≠ .invalidKeyword keyword reason
  first : ∃ (start : List Char) (item : Flaw) (tokens : List Token),
    query.toList = start ++ item.chars ∧ item.Fits v start ∧ e.fault = item.fault ∧
    e.position = some (byteLength (start ++ item.lead)) ∧
    (∀ key n rest, item = .pair false key n rest → start.getLast? ≠ some '-') ∧
    v.tokenize (String.ofList start) = .ok tokens ∧
    (v.scan query).tokens = tokens ++ item.tokens (byteLength start)

theorem Flaw.Fits.faultAt {start : List Char} (h : f.Fits v start) :
    FaultAt v (start ++ f.lead) f.tail f.fault := by
  cases f with
  | phrase quote rest => exact .unclosed h.1 rfl h.2
  | pair negated key n rest =>
    cases rest with
    | nil => exact .valueless (by simp [lead]) h.1 (by simp [tail])
    | cons c rest =>
      obtain ⟨hs, hc, hn⟩ := h.2 c rest rfl
      cases hq : isQuote c with
      | true =>
        rw [fault, if_pos hq]
        exact .unclosed hq rfl (hn hq)
      | false =>
        rw [fault, if_neg (by simp [hq])]
        refine .valueless (by simp [lead]) h.1 ?_
        simpa [tail] using ⟨hs, hc, hq⟩

/-- The part of a query in front of a flaw splits into the same pieces on its own. -/
theorem splits_of_flaw (hps : AllFit v [] ps f.chars) (hf : f.Fits v (spelled ps)) :
    Splits v (String.ofList (spelled ps)) ps :=
  ⟨by simp, hps.cut (by simpa using hf.seam)⟩

theorem getLast?_ne_hyphen_of_flaw {key rest : List Char} {n : Nat}
    (hps : AllFit v [] ps (Flaw.pair false key n rest).chars)
    (hf : (Flaw.pair false key n rest).Fits v (spelled ps)) :
    (spelled ps).getLast? ≠ some '-' := by
  have hk : KeyRun v (spelled ps) key (colons n ++ rest) := by simpa using hf.1
  exact AllFit.getLast?_ne_hyphen (by simpa [Flaw.chars, Flaw.lead, Flaw.tail] using hps) hk

/-- A query fails with the error of the flaw that it breaks off in. -/
theorem exists_flaw_of_tokenize (h : v.tokenize query = .error e) :
    ∃ (ps : List Piece) (f : Flaw), query.toList = spelled ps ++ f.chars ∧
      AllFit v [] ps f.chars ∧ f.Fits v (spelled ps) ∧
      e = ⟨f.fault, some (byteLength (spelled ps ++ f.lead)), some query⟩ := by
  rcases splits_or_flaw v query with ⟨ps, hps⟩ | ⟨ps, f, hq, hps, hf⟩
  · rw [tokenize_of_splits hps] at h
    cases h
  · rw [tokenize_of_flaw hq hps hf] at h
    exact ⟨ps, f, hq, hps, hf, (Except.error.inj h).symm⟩

/-- Every error of the scanner is the first of its query, and says what is wrong where. -/
theorem tokenize_error_first (h : v.tokenize query = .error e) : FirstError v query e := by
  obtain ⟨ps, f, hq, hps, hf, rfl⟩ := exists_flaw_of_tokenize h
  have hat := hf.faultAt
  refine ⟨rfl, ⟨_, spelled ps ++ f.lead, f.tail, rfl, ?_, ?_, hat⟩, ?_, ?_,
    spelled ps, f, tokensFrom 0 ps, hq, hf, rfl, rfl, ?_, ?_, ?_⟩
  · simp [hq, Flaw.chars]
  · rw [hq, Flaw.chars, ← List.append_assoc]
    exact splitAtByte?_byteLength _ _
  · rintro found hfault
    simp only at hfault
    rw [hfault] at hat
    cases hat
  · rintro keyword reason hfault
    simp only at hfault
    rw [hfault] at hat
    cases hat
  · rintro key n rest rfl
    exact getLast?_ne_hyphen_of_flaw hps hf
  · exact tokenize_of_splits (splits_of_flaw hps hf)
  · rw [scan_of_flaw hq hps hf]

/-- The value is missing behind the blank; the word and the gap before the hyphen are read. -/
theorem tokenize_error_first_negated :
    (Vocabulary.ofValid ["status"]).tokenize "a -status:: b" =
      .error ⟨.expectedValue "status", some 11, some "a -status:: b"⟩ ∧
    FirstError (Vocabulary.ofValid ["status"]) "a -status:: b"
      ⟨.expectedValue "status", some 11, some "a -status:: b"⟩ :=
  ⟨by decide +kernel, tokenize_error_first (by decide +kernel)⟩

end FacetQuery

import FacetQuery.Proofs.Scanning
import Mathlib.Data.List.Chain

/-!
What the tokens of a scan leave out. Up to the place where a scan ends, every character belongs to
the span of a token or is a separator that opens no phrase.
-/
namespace FacetQuery

/-- How a token comes from the characters `lexeme` between two parts of a query: as the hyphen of a
pair, as a whole word, or as a phrase without its quotes. -/
inductive Token.ReadFrom (before lexeme after : List Char) (t : Token) : Prop where
  | operator (kind : t.kind = .operator) (hyphen : lexeme = ['-'])
      (text : t.text = String.ofList lexeme)
  | word (kind : t.kind ≠ .operator) (run : MaximalRun before lexeme after)
      (text : t.text = String.ofList lexeme)
  | phrase {quote : Char} {content : List Char} (kind : t.kind = .value ∨ t.kind = .fulltext)
      (quoted : isQuote quote = true) (never : quote ∉ content)
      (enclosed : lexeme = quote :: content ++ [quote]) (text : t.text = String.ofList content)

def Span.Covers (s : Span) (position : Nat) : Prop := s.start ≤ position ∧ position < s.stop

/-- Tokens account for a stretch between two parts of a query: each is read from a part of it, one
behind the other, and what they leave out are separators that open no phrase. -/
structure Covers (before stretch after : List Char) (tokens : List Token) : Prop where
  read : ∀ t ∈ tokens, ∃ left lexeme right, stretch = left ++ lexeme ++ right ∧
    t.span = ⟨byteLength (before ++ left), byteLength (before ++ left ++ lexeme)⟩ ∧
    t.ReadFrom (before ++ left) lexeme (right ++ after)
  ordered : tokens.Pairwise fun s t => s.span.stop ≤ t.span.start
  passed : ∀ left c right, stretch = left ++ c :: right →
    (∀ t ∈ tokens, ¬ t.span.Covers (byteLength (before ++ left))) →
    isSeparator c = true ∧ isQuote c = false

variable {v : Vocabulary} {before stretch after lexeme : List Char} {c : Char} {t : Token}
  {ts us : List Token} {w : Written} {kind : TokenKind} {p : Piece} {ps : List Piece} {f : Flaw}

theorem Token.ReadFrom.ne_nil (h : t.ReadFrom before lexeme after) : lexeme ≠ [] := by
  cases h with
  | operator _ hyphen _ => simp [hyphen]
  | word _ run _ => exact run.ne_nil
  | phrase _ _ _ enclosed _ => simp [enclosed]

theorem byteSlice_byteLength (left middle right : List Char) :
    byteSlice (byteLength left) (byteLength (left ++ middle)) (left ++ middle ++ right) =
      middle := by
  simp only [byteSlice, splitBytes_byteLength]

/-- A place in a text that is no earlier than the end of a beginning is behind that beginning. -/
theorem exists_append_of_byteLength_le {left right tail : List Char}
    (he : left ++ right = stretch ++ tail) (hle : byteLength left ≤ byteLength stretch) :
    ∃ gap, stretch = left ++ gap := by
  rcases List.append_eq_append_iff.mp he with ⟨gap, hs, -⟩ | ⟨more, hl, -⟩
  · exact ⟨gap, hs⟩
  · have hmore : more = [] := by
      by_contra hne
      have hpos := byteLength_pos hne
      have := congrArg byteLength hl
      rw [byteLength_append] at this
      omega
    exact ⟨[], by simp [hl, hmore]⟩

/-- A character that begins before the end of a part of a text belongs to that part. -/
theorem exists_append_of_byteLength_lt {left right tail : List Char}
    (he : left ++ c :: right = stretch ++ tail) (hlt : byteLength left < byteLength stretch) :
    ∃ more, stretch = left ++ c :: more := by
  obtain ⟨gap, rfl⟩ := exists_append_of_byteLength_le he (by omega)
  cases gap with
  | nil => simp at hlt
  | cons d more =>
    rw [List.append_assoc] at he
    obtain ⟨rfl, -⟩ := List.cons.inj (List.append_cancel_left he)
    exact ⟨more, rfl⟩

namespace Covers

/-- Separators that open no phrase may stand without a token. -/
theorem of_separators (h : ∀ c ∈ stretch, isSeparator c = true ∧ isQuote c = false) :
    Covers before stretch after [] := by
  refine ⟨by simp, List.Pairwise.nil, ?_⟩
  rintro left c right rfl -
  exact h c (by simp)

theorem single (hr : t.ReadFrom before lexeme after)
    (hs : t.span = ⟨byteLength before, byteLength (before ++ lexeme)⟩) :
    Covers before lexeme after [t] := by
  refine ⟨?_, List.pairwise_singleton _ _, ?_⟩
  · intro u hu
    obtain rfl := List.mem_singleton.mp hu
    exact ⟨[], lexeme, [], by simp, by simpa using hs, by simpa using hr⟩
  · rintro left c right rfl hnot
    have hc := c.utf8Size_pos
    refine (hnot t (by simp) ⟨?_, ?_⟩).elim
    · simp only [hs, byteLength_append]
      omega
    · simp only [hs, byteLength_append, byteLength_cons]
      omega

/-- The spans of tokens lie in the stretch that they are read from. -/
theorem bounds (h : Covers before stretch after ts) (ht : t ∈ ts) :
    byteLength before ≤ t.span.start ∧ t.span.start < t.span.stop ∧
      t.span.stop ≤ byteLength (before ++ stretch) := by
  obtain ⟨left, lexeme, right, rfl, hs, hr⟩ := h.read t ht
  have hpos := byteLength_pos hr.ne_nil
  simp only [hs, byteLength_append]
  omega

theorem append {xs ys : List Char} (h : Covers before xs (ys ++ after) ts)
    (h' : Covers (before ++ xs) ys after us) : Covers before (xs ++ ys) after (ts ++ us) := by
  refine ⟨?_, ?_, ?_⟩
  · intro t ht
    rcases List.mem_append.mp ht with ht | ht
    · obtain ⟨left, lexeme, right, rfl, hs, hr⟩ := h.read t ht
      exact ⟨left, lexeme, right ++ ys, by simp, hs, by simpa using hr⟩
    · obtain ⟨left, lexeme, right, rfl, hs, hr⟩ := h'.read t ht
      exact ⟨xs ++ left, lexeme, right, by simp, by simpa using hs, by simpa using hr⟩
  · refine List.pairwise_append.mpr ⟨h.ordered, h'.ordered, ?_⟩
    intro s hs t ht
    exact Nat.le_trans (h.bounds hs).2.2 (h'.bounds ht).1
  · intro left c right he hnot
    have hts : ∀ t ∈ ts, ¬ t.span.Covers (byteLength (before ++ left)) := by
      intro t ht
      exact hnot t (by simp [ht])
    have hus : ∀ t ∈ us, ¬ t.span.Covers (byteLength (before ++ left)) := by
      intro t ht
      exact hnot t (by simp [ht])
    rcases List.append_eq_append_iff.mp he.symm with ⟨more, hxs, hys⟩ | ⟨more, hleft, hys⟩
    · cases more with
      | nil =>
        simp only [List.append_nil, List.nil_append] at hxs hys
        subst hxs
        exact h'.passed [] c right hys.symm (by simpa using hus)
      | cons d more =>
        obtain ⟨rfl, -⟩ := List.cons.inj hys
        exact h.passed left c more hxs hts
    · subst hleft
      rw [← List.append_assoc] at hus
      exact h'.passed more c right hys hus

end Covers

theorem Written.span_token (w : Written) (kind : TokenKind) (before : List Char) :
    (w.token kind (byteLength before)).span =
      ⟨byteLength before, byteLength (before ++ w.chars)⟩ := by
  rw [Written.token, byteLength_append]

theorem Written.Fits.readFrom (h : w.Fits before after) (hk : kind = .value ∨ kind = .fulltext) :
    (w.token kind (byteLength before)).ReadFrom before w.chars after := by
  cases w with
  | phrase quote content => exact .phrase hk h.1 h.2 rfl rfl
  | word text =>
    refine .word ?_ h rfl
    rcases hk with rfl | rfl <;> simp [Written.token]

theorem Written.Fits.covers (h : w.Fits before after) (hk : kind = .value ∨ kind = .fulltext) :
    Covers before w.chars after [w.token kind (byteLength before)] :=
  .single (h.readFrom hk) (w.span_token kind before)

theorem covers_colons (n : Nat) : Covers before (colons n) after [] := by
  apply Covers.of_separators
  intro c hc
  obtain rfl := List.eq_of_mem_replicate hc
  decide

/-- A hyphen, if there is one, and a key are covered by their tokens. -/
theorem KeyRun.covers_head {negated : Bool} {key : List Char}
    (h : KeyRun v (before ++ hyphen negated) key after) :
    Covers before (hyphen negated ++ key) after (headTokens negated key (byteLength before)) := by
  have hkey : Covers (before ++ hyphen negated) key after
      [(Written.word key).token .key (byteLength (before ++ hyphen negated))] :=
    .single (.word (by simp [Written.token]) h.toMaximalRun rfl) (Written.span_token _ _ _)
  rw [byteLength_append] at hkey
  refine Covers.append ?_ hkey
  cases negated with
  | false => exact .of_separators (by simp)
  | true => exact .single (.operator rfl rfl rfl) (Written.span_token _ _ _)

theorem Piece.Fits.covers (h : p.Fits v before after) :
    Covers before p.chars after (p.tokens (byteLength before)) := by
  cases p with
  | gap c =>
    apply Covers.of_separators
    intro d hd
    obtain rfl := List.mem_singleton.mp hd
    exact ⟨h.1, h.2.1⟩
  | term w => exact h.1.covers (Or.inr rfl)
  | pair negated key n w =>
    obtain ⟨hk, hw, -⟩ := h
    have hvalue := hw.covers (Or.inl rfl)
    rw [List.append_assoc] at hk
    have hhead := (hk.covers_head.append (covers_colons n))
    simp only [List.append_nil] at hhead
    have := hhead.append (by simpa using hvalue)
    simpa [Piece.chars, Piece.tokens] using this

theorem AllFit.covers (h : AllFit v before ps after) :
    Covers before (spelled ps) after (tokensFrom (byteLength before) ps) := by
  induction ps generalizing before with
  | nil => exact .of_separators (by simp)
  | cons p ps ih =>
    have hps := ih h.2
    rw [byteLength_append] at hps
    rw [spelled_cons]
    exact h.1.covers.append hps

/-- The part of a flaw in front of the error is covered. -/
theorem Flaw.Fits.covers (h : f.Fits v before) :
    Covers before f.lead f.tail (f.tokens (byteLength before)) := by
  cases f with
  | phrase quote rest => exact .of_separators (by simp [Flaw.lead])
  | pair negated key n rest =>
    have hhead := h.1.covers_head.append (covers_colons n)
    simpa [Flaw.lead, Flaw.tail, Flaw.tokens] using hhead

/-- What may stand between a token and the next: nothing between a hyphen and its key, and only
colons between a key and its value. -/
def Linked (query : List Char) (s t : Token) : Prop :=
  (s.kind = .operator → t.kind = .key ∧ t.span.start = s.span.stop) ∧
  (s.kind = .key → t.kind = .value ∧ ∃ n, byteSlice s.span.stop t.span.start query = colons n)

variable {query : List Char}

theorem getLast?_headTokens (negated : Bool) (key : List Char) (position : Nat) :
    (headTokens negated key position).getLast? =
      some ((Written.word key).token .key (position + byteLength (hyphen negated))) := by
  rw [headTokens, List.getLast?_concat]

theorem isChain_headTokens (negated : Bool) (key : List Char) (position : Nat) :
    (headTokens negated key position).IsChain (Linked query) := by
  cases negated with
  | false => exact List.isChain_singleton _
  | true => exact List.isChain_pair.mpr ⟨fun _ => ⟨rfl, rfl⟩, fun h => by cases h⟩

/-- Behind the tokens of a hyphen and a key, the colons lead to the value or the error. -/
theorem byteSlice_colons {negated : Bool} {key : List Char} {n : Nat}
    (he : query = before ++ (hyphen negated ++ key ++ colons n) ++ after)
    (ht : t ∈ (headTokens negated key (byteLength before)).getLast?) :
    byteSlice t.span.stop (byteLength (before ++ (hyphen negated ++ key ++ colons n))) query =
      colons n := by
  rw [getLast?_headTokens, Option.mem_some] at ht
  have hstop : t.span.stop = byteLength (before ++ hyphen negated ++ key) := by
    simp only [← ht, Written.token, Written.chars, byteLength_append]
  have hslice := byteSlice_byteLength (before ++ hyphen negated ++ key) (colons n) after
  rw [hstop, he]
  simpa using hslice

theorem Piece.kind_getLast (p : Piece) (position : Nat) :
    ∀ t ∈ (p.tokens position).getLast?, t.kind = .value ∨ t.kind = .fulltext := by
  cases p with
  | gap c => simp [Piece.tokens]
  | term w => simp [Piece.tokens, Written.token]
  | pair negated key n w => simp [Piece.tokens, Written.token]

theorem linked_of_complete {s : Token} (h : s.kind = .value ∨ s.kind = .fulltext) :
    Linked query s t := by
  rcases h with h | h <;> exact ⟨by simp [h], by simp [h]⟩

theorem Piece.isChain_tokens (p : Piece) (he : query = before ++ p.chars ++ after) :
    (p.tokens (byteLength before)).IsChain (Linked query) := by
  cases p with
  | gap c => exact List.isChain_nil
  | term w => exact List.isChain_singleton _
  | pair negated key n w =>
    refine List.isChain_append.mpr ⟨isChain_headTokens _ _ _, List.isChain_singleton _, ?_⟩
    intro s hs u hu
    have hcut : query = before ++ (hyphen negated ++ key ++ colons n) ++ (w.chars ++ after) := by
      simpa [Piece.chars] using he
    have hcolons := byteSlice_colons hcut hs
    rw [byteLength_append] at hcolons
    obtain rfl : w.token .value _ = u := Option.some.inj hu
    have hkind : s.kind = .key := by
      rw [getLast?_headTokens, Option.mem_some] at hs
      rw [← hs]
      rfl
    exact ⟨by simp [hkind], fun _ => ⟨rfl, n, hcolons⟩⟩

theorem isChain_pieces (ps : List Piece) (he : query = before ++ spelled ps ++ after) :
    (tokensFrom (byteLength before) ps).IsChain (Linked query) := by
  induction ps generalizing before with
  | nil => exact List.isChain_nil
  | cons p ps ih =>
    have hps : query = before ++ p.chars ++ spelled ps ++ after := by simpa using he
    have hrest := ih hps
    rw [byteLength_append] at hrest
    refine List.isChain_append.mpr ⟨p.isChain_tokens (by simpa using hps), hrest, ?_⟩
    intro s hs t _
    exact linked_of_complete (p.kind_getLast _ s hs)

theorem kind_getLast_pieces (ps : List Piece) (position : Nat) :
    ∀ t ∈ (tokensFrom position ps).getLast?, t.kind = .value ∨ t.kind = .fulltext := by
  induction ps generalizing position with
  | nil => simp [tokensFrom]
  | cons p ps ih =>
    intro t ht
    rw [tokensFrom, List.getLast?_append, Option.mem_def, Option.or_eq_some_iff] at ht
    rcases ht with ht | ⟨-, ht⟩
    · exact ih _ t ht
    · exact p.kind_getLast _ t ht

theorem Flaw.isChain_tokens (f : Flaw) (position : Nat) :
    (f.tokens position).IsChain (Linked query) := by
  cases f with
  | phrase quote rest => exact List.isChain_nil
  | pair negated key n rest => exact isChain_headTokens negated key position

/-- The last token of a flaw is a key, and between it and the error stand only colons. -/
theorem Flaw.getLast_tokens (f : Flaw) (he : query = before ++ f.lead ++ f.tail)
    (ht : t ∈ (f.tokens (byteLength before)).getLast?) :
    t.kind = .key ∧
      ∃ n, byteSlice t.span.stop (byteLength (before ++ f.lead)) query = colons n := by
  cases f with
  | phrase quote rest => cases ht
  | pair negated key n rest =>
    refine ⟨?_, n, byteSlice_colons he ht⟩
    rw [Flaw.tokens, getLast?_headTokens, Option.mem_some] at ht
    rw [← ht]
    rfl

/-- The tokens of a scan that ends at the byte `stop` account for the query up to there. Their spans
lie on boundaries of characters, in order and apart. Only separators that open no phrase are left
out, between a key and its value or the error only colons, and nothing behind a hyphen. -/
structure Accounts (query : String) (scan : Scan) (stop : Nat) : Prop where
  ends : match scan.failure with
    | none => stop = byteLength query.toList
    | some e => e.position = some stop ∧ stop ≤ byteLength query.toList
  read : ∀ t ∈ scan.tokens, ∃ before lexeme after, query.toList = before ++ lexeme ++ after ∧
    t.span = ⟨byteLength before, byteLength (before ++ lexeme)⟩ ∧
    t.span.start < t.span.stop ∧ t.span.stop ≤ stop ∧ t.ReadFrom before lexeme after
  ordered : scan.tokens.Pairwise fun s t => s.span.start < t.span.start ∧ s.span.stop ≤ t.span.start
  passed : ∀ before c after, query.toList = before ++ c :: after → byteLength before < stop →
    (∀ t ∈ scan.tokens, ¬ t.span.Covers (byteLength before)) →
    isSeparator c = true ∧ isQuote c = false
  linked : scan.tokens.IsChain (Linked query.toList)
  last : ∀ t ∈ scan.tokens.getLast?, t.kind ≠ .operator ∧
    (t.kind = .key → scan.failure.isSome ∧ ∃ n, byteSlice t.span.stop stop query.toList = colons n)

/-- Tokens that cover a beginning of the query account for it. -/
theorem Covers.accounts {query : String} {scan : Scan} (h : Covers [] stretch after scan.tokens)
    (he : query.toList = stretch ++ after)
    (hends : match scan.failure with
      | none => after = []
      | some e => e.position = some (byteLength stretch))
    (hlinked : scan.tokens.IsChain (Linked query.toList))
    (hlast : ∀ t ∈ scan.tokens.getLast?, t.kind ≠ .operator ∧ (t.kind = .key →
      scan.failure.isSome ∧
        ∃ n, byteSlice t.span.stop (byteLength stretch) query.toList = colons n)) :
    Accounts query scan (byteLength stretch) := by
  refine ⟨?_, ?_, ?_, ?_, hlinked, hlast⟩
  · cases hf : scan.failure with
    | none =>
      rw [hf] at hends
      simp only at hends
      simp [he, hends]
    | some e =>
      rw [hf] at hends
      simp only at hends
      exact ⟨hends, by simp [he]⟩
  · intro t ht
    obtain ⟨left, lexeme, right, hs, hspan, hread⟩ := h.read t ht
    obtain ⟨-, hlt, hle⟩ := h.bounds ht
    exact ⟨left, lexeme, right ++ after, by simp [he, hs], by simpa using hspan, hlt,
      by simpa using hle, by simpa using hread⟩
  · refine h.ordered.imp_of_mem ?_
    intro s t hs ht hst
    have hlt := (h.bounds hs).2.1
    exact ⟨by omega, hst⟩
  · intro before c right hq hlt hnot
    obtain ⟨more, hs⟩ := exists_append_of_byteLength_lt (hq.symm.trans he) hlt
    exact h.passed before c more hs (by simpa using hnot)

theorem accounts_of_splits {query : String} (h : Splits v query ps) :
    Accounts query (v.scan query) (byteLength (spelled ps)) := by
  have hscan := scan_of_splits h
  have hq : query.toList = [] ++ spelled ps ++ [] := by simp [h.1]
  have hcovers : Covers [] (spelled ps) [] (v.scan query).tokens := by
    rw [hscan]
    exact h.2.covers
  refine hcovers.accounts (by simp [h.1]) (by simp [hscan]) ?_ ?_
  · rw [hscan]
    exact isChain_pieces ps hq
  · intro t ht
    rw [hscan] at ht
    rcases kind_getLast_pieces ps 0 t ht with hk | hk <;> simp [hk]

theorem isChain_pieces_flaw {query : List Char} (hq : query = [] ++ spelled ps ++ f.chars) :
    (tokensFrom 0 ps ++ f.tokens (byteLength (spelled ps))).IsChain (Linked query) := by
  refine List.isChain_append.mpr ⟨isChain_pieces ps hq, f.isChain_tokens _, ?_⟩
  intro s hs t _
  exact linked_of_complete (kind_getLast_pieces ps 0 s hs)

theorem accounts_of_flaw {query : String} (hq : query.toList = spelled ps ++ f.chars)
    (hps : AllFit v [] ps f.chars) (hf : f.Fits v (spelled ps)) :
    Accounts query (v.scan query) (byteLength (spelled ps ++ f.lead)) := by
  have hscan := scan_of_flaw hq hps hf
  have hcut : query.toList = spelled ps ++ f.lead ++ f.tail := by simp [hq, Flaw.chars]
  have hcovers : Covers [] (spelled ps ++ f.lead) f.tail (v.scan query).tokens := by
    rw [hscan]
    exact hps.covers.append hf.covers
  refine hcovers.accounts hcut (by simp [hscan]) ?_ ?_
  · rw [hscan]
    exact isChain_pieces_flaw (by simpa using hq)
  · intro t ht
    rw [hscan, List.getLast?_append, Option.mem_def, Option.or_eq_some_iff] at ht
    rcases ht with ht | ⟨-, ht⟩
    · obtain ⟨hk, hcolons⟩ := f.getLast_tokens hcut ht
      simpa [hk, hscan] using hcolons
    · rcases kind_getLast_pieces ps 0 t ht with hk | hk <;> simp [hk]

/-- The tokens of every scan account for its query up to the end or the error. -/
theorem scan_accounts (v : Vocabulary) (query : String) :
    ∃ stop, Accounts query (v.scan query) stop := by
  rcases splits_or_flaw v query with ⟨ps, hps⟩ | ⟨ps, f, hq, hps, hf⟩
  · exact ⟨_, accounts_of_splits hps⟩
  · exact ⟨_, accounts_of_flaw hq hps hf⟩

end FacetQuery

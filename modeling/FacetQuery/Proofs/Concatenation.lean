import FacetQuery.Proofs.Parsing

/-!
Queries one behind the other. Separators that neither open a phrase nor negate a pair keep two
queries apart: the second is read as if it stood alone, and its values are added to those of the
first.
-/
namespace FacetQuery

/-- Separators that two queries can be kept apart by: no quotes and no hyphens. -/
structure Parting (w : List Char) : Prop where
  ne_nil : w ≠ []
  separators : ∀ c ∈ w, isSeparator c = true
  noQuote : ∀ c ∈ w, isQuote c = false
  noHyphen : ∀ c ∈ w, c ≠ '-'

def Span.shift (n : Nat) (s : Span) : Span := ⟨s.start + n, s.stop + n⟩

/-- The token as it is found `n` bytes further on. -/
def Token.shift (n : Nat) (t : Token) : Token := { t with span := t.span.shift n }

/-- The values that a formula asks for under a group. -/
def Formula.valuesAt (f : Formula) (g : Group) : List String :=
  match f.get? g.1 g.2 with
  | some l => l.values
  | none => []

/-- The formula `f` with the values of `g`: they are appended to the literals of their groups, and
the literals of new groups stand at the end. -/
def Formula.extend (f g : Formula) : Formula where
  literals :=
    (f.literals.map fun l => { l with values := l.values ++ g.valuesAt l.group }) ++
      g.literals.filter fun l => l.group ∉ f.literals.map Literal.group

variable {v : Vocabulary} {before middle after front key run : List Char} {c : Char}
  {ps qs : List Piece} {p : Piece} {w : Written} {f : Flaw}

/-- A word cannot reach across a separator. -/
theorem exists_append_of_separator (hk : ∀ c ∈ key, isSeparator c = false)
    (ha : ∀ c ∈ after.head?, isSeparator c = true) {rest : List Char}
    (he : middle ++ after = key ++ rest) : ∃ more, middle = key ++ more ∧ rest = more ++ after := by
  rcases List.append_eq_append_iff.mp he with ⟨more, hkey, hafter⟩ | ⟨more, hmiddle, hrest⟩
  · cases more with
    | nil => exact ⟨[], by simp [hkey], by simp [hafter]⟩
    | cons d more =>
      have hd : isSeparator d = false := hk d (by simp [hkey])
      have hs : isSeparator d = true := ha d (by simp [hafter])
      simp [hd] at hs
  · exact ⟨more, hmiddle, hrest⟩

theorem Written.Fits.extend (h : w.Fits before middle)
    (ha : ∀ c ∈ after.head?, isSeparator c = true) : w.Fits before (middle ++ after) := by
  cases w with
  | phrase quote content => exact h
  | word text => exact MaximalRun.extend h (Or.inr ha)

theorem Piece.Fits.extend (h : p.Fits v before middle)
    (ha : ∀ c ∈ after.head?, isSeparator c = true) : p.Fits v before (middle ++ after) := by
  cases p with
  | gap c =>
    refine ⟨h.1, h.2.1, ?_⟩
    rintro hc ⟨key, rest, he, hk⟩
    -- a key behind the hyphen would have been there without the new text
    obtain ⟨more, hmiddle, rfl⟩ := exists_append_of_separator hk.wordChars ha he
    exact h.2.2 hc ⟨key, more, hmiddle, hk.cut⟩
  | term w => exact ⟨h.1.extend ha, h.2⟩
  | pair negated key n w =>
    refine ⟨?_, h.2.1.extend ha, h.2.2⟩
    have hk := h.1.extend (Or.inr ha)
    rwa [List.append_assoc] at hk

theorem AllFit.extend (h : AllFit v before ps middle)
    (ha : ∀ c ∈ after.head?, isSeparator c = true) : AllFit v before ps (middle ++ after) := by
  induction ps generalizing before with
  | nil => trivial
  | cons p ps ih =>
    have hp := h.1.extend ha
    rw [List.append_assoc] at hp
    exact ⟨hp, ih h.2⟩

theorem MaximalRun.behind (h : MaximalRun before run after)
    (hf : ∀ c ∈ front.getLast?, isSeparator c = true) : MaximalRun (front ++ before) run after := by
  refine ⟨h.ne_nil, h.wordChars, ?_, h.right⟩
  intro c hc
  rw [List.getLast?_append] at hc
  cases hb : before.getLast? with
  | none => exact hf c (by simpa [hb] using hc)
  | some d => exact h.left c (by simpa [hb] using hc)

theorem KeyRun.behind (h : KeyRun v before run after)
    (hf : ∀ c ∈ front.getLast?, isSeparator c = true) : KeyRun v (front ++ before) run after :=
  ⟨h.toMaximalRun.behind hf, h.isKey⟩

/-- What stands in front of a separator has no part in the run behind it. -/
theorem KeyRun.of_concat (h : KeyRun v (front ++ (before ++ [c])) run after) :
    KeyRun v (before ++ [c]) run after := by
  have hleft := h.left
  rw [← List.append_assoc, List.getLast?_concat] at hleft
  refine ⟨⟨h.ne_nil, h.wordChars, ?_, h.right⟩, h.isKey⟩
  rw [List.getLast?_concat]
  exact hleft

theorem Written.Fits.behind (h : w.Fits before after)
    (hf : ∀ c ∈ front.getLast?, isSeparator c = true) : w.Fits (front ++ before) after := by
  cases w with
  | phrase quote content => exact h
  | word text => exact MaximalRun.behind h hf

theorem Piece.Fits.behind (h : p.Fits v before after)
    (hf : ∀ c ∈ front.getLast?, isSeparator c = true) : p.Fits v (front ++ before) after := by
  cases p with
  | gap c =>
    refine ⟨h.1, h.2.1, ?_⟩
    rintro hc ⟨key, rest, he, hk⟩
    rw [List.append_assoc] at hk
    exact h.2.2 hc ⟨key, rest, he, hk.of_concat⟩
  | term w => exact ⟨h.1.behind hf, h.2⟩
  | pair negated key n w =>
    have hk := h.1.behind hf
    have hw := h.2.1.behind hf
    simp only [List.append_assoc] at hk hw
    refine ⟨?_, ?_, h.2.2⟩
    · simpa only [List.append_assoc] using hk
    · simpa only [List.append_assoc] using hw

theorem AllFit.behind (h : AllFit v before ps after)
    (hf : ∀ c ∈ front.getLast?, isSeparator c = true) : AllFit v (front ++ before) ps after := by
  induction ps generalizing before with
  | nil => trivial
  | cons p ps ih =>
    have hps := ih h.2
    rw [← List.append_assoc] at hps
    exact ⟨h.1.behind hf, hps⟩

theorem Flaw.Fits.behind (h : f.Fits v before)
    (hf : ∀ c ∈ front.getLast?, isSeparator c = true) : f.Fits v (front ++ before) := by
  cases f with
  | phrase quote rest => exact h
  | pair negated key n rest =>
    have hk := h.1.behind hf
    rw [← List.append_assoc] at hk
    exact ⟨hk, h.2⟩

theorem Written.token_shift (w : Written) (kind : TokenKind) (position n : Nat) :
    w.token kind (position + n) = (w.token kind position).shift n := by
  have hstop : position + n + byteLength w.chars = position + byteLength w.chars + n := by omega
  simp [Written.token, Token.shift, Span.shift, hstop]

theorem headTokens_shift (negated : Bool) (key : List Char) (position n : Nat) :
    headTokens negated key (position + n) =
      (headTokens negated key position).map (Token.shift n) := by
  have hkey : position + n + byteLength (hyphen negated) =
      position + byteLength (hyphen negated) + n := by omega
  rw [headTokens, headTokens, hkey, Written.token_shift, Written.token_shift]
  cases negated <;> rfl

theorem Piece.tokens_shift (p : Piece) (position n : Nat) :
    p.tokens (position + n) = (p.tokens position).map (Token.shift n) := by
  cases p with
  | gap c => rfl
  | term w => simp [Piece.tokens, Written.token_shift]
  | pair negated key m w =>
    have hvalue : position + n + byteLength (hyphen negated ++ key ++ colons m) =
        position + byteLength (hyphen negated ++ key ++ colons m) + n := by omega
    simp only [Piece.tokens, headTokens_shift, hvalue, Written.token_shift, List.map_append,
      List.map_singleton]

theorem tokensFrom_shift (ps : List Piece) (position n : Nat) :
    tokensFrom (position + n) ps = (tokensFrom position ps).map (Token.shift n) := by
  induction ps generalizing position with
  | nil => rfl
  | cons p ps ih =>
    have hrest : position + n + byteLength p.chars = position + byteLength p.chars + n := by omega
    rw [tokensFrom, tokensFrom, hrest, ih, Piece.tokens_shift, List.map_append]

theorem tokensFrom_append (ps qs : List Piece) (position : Nat) :
    tokensFrom position (ps ++ qs) =
      tokensFrom position ps ++ tokensFrom (position + byteLength (spelled ps)) qs := by
  induction ps generalizing position with
  | nil => rfl
  | cons p ps ih =>
    rw [List.cons_append, tokensFrom, tokensFrom, ih, spelled_cons, byteLength_append]
    simp [Nat.add_assoc]

theorem spelled_gaps (cs : List Char) : spelled (cs.map Piece.gap) = cs := by
  induction cs with
  | nil => rfl
  | cons c cs ih => simp [Piece.chars, ih]

theorem tokensFrom_gaps (cs : List Char) (position : Nat) :
    tokensFrom position (cs.map Piece.gap) = [] := by
  induction cs generalizing position with
  | nil => rfl
  | cons c cs ih => simp [tokensFrom, Piece.tokens, ih]

theorem terms_gaps (cs : List Char) : (cs.map Piece.gap).flatMap Piece.terms = [] := by
  induction cs with
  | nil => rfl
  | cons c cs ih => simp [Piece.terms, ih]

namespace Parting

variable {gap : List Char}

theorem head (h : Parting gap) (after : List Char) :
    ∀ c ∈ (gap ++ after).head?, isSeparator c = true := by
  obtain ⟨d, ds, rfl⟩ := List.exists_cons_of_ne_nil h.ne_nil
  simpa using h.separators d (by simp)

theorem getLast (h : Parting gap) (before : List Char) :
    ∀ c ∈ (before ++ gap).getLast?, isSeparator c = true := by
  intro c hc
  rw [List.getLast?_append, List.getLast?_eq_some_getLast h.ne_nil] at hc
  obtain rfl : gap.getLast h.ne_nil = c := by simpa using hc
  exact h.separators _ (List.getLast_mem _)

theorem fits (h : Parting gap) (hc : c ∈ gap) : (Piece.gap c).Fits v before after :=
  ⟨h.separators c hc, h.noQuote c hc, fun he => (h.noHyphen c hc he).elim⟩

end Parting

theorem allFit_gaps (h : ∀ c ∈ middle, ∀ before after, (Piece.gap c).Fits v before after) :
    AllFit v before (middle.map Piece.gap) after := by
  induction middle generalizing before with
  | nil => trivial
  | cons c cs ih =>
    have hcs : ∀ d ∈ cs, ∀ before after, (Piece.gap d).Fits v before after := by
      intro d hd
      exact h d (by simp [hd])
    exact ⟨h c (by simp) _ _, ih hcs⟩

/-- The pieces of a query and of the separators behind it fit in front of any text. -/
theorem AllFit.part (h : AllFit v [] ps []) {gap : List Char} (hg : Parting gap)
    (after : List Char) : AllFit v [] (ps ++ gap.map Piece.gap) after := by
  have hps : AllFit v [] ps ([] ++ (gap ++ after)) := h.extend (hg.head after)
  rw [allFit_append, spelled_gaps]
  exact ⟨hps, allFit_gaps fun c hc before after => hg.fits hc⟩

variable {a b w : String} {fa fb : Formula}

/-- Two queries that are kept apart split into the pieces of both. -/
theorem Splits.join (ha : Splits v a ps) (hw : Parting w.toList) (hb : Splits v b qs) :
    Splits v (a ++ w ++ b) (ps ++ w.toList.map Piece.gap ++ qs) := by
  have hqs := hb.2.behind (hw.getLast (spelled ps))
  refine ⟨by simp [ha.1, hb.1, spelled_gaps], allFit_append.mpr ⟨ha.2.part hw _, ?_⟩⟩
  simpa [spelled_gaps] using hqs

/-- A flaw behind another query and separators is still one. -/
theorem Splits.join_flaw (ha : Splits v a ps) (hw : Parting w.toList)
    (hb : b.toList = spelled qs ++ f.chars) (hqs : AllFit v [] qs f.chars)
    (hf : f.Fits v (spelled qs)) :
    (a ++ w ++ b).toList = spelled (ps ++ w.toList.map Piece.gap ++ qs) ++ f.chars ∧
      AllFit v [] (ps ++ w.toList.map Piece.gap ++ qs) f.chars ∧
      f.Fits v (spelled (ps ++ w.toList.map Piece.gap ++ qs)) := by
  have hlast := hw.getLast (spelled ps)
  have hqs' := hqs.behind hlast
  have hf' := hf.behind hlast
  refine ⟨by simp [ha.1, hb, spelled_gaps], allFit_append.mpr ⟨ha.2.part hw _, ?_⟩, ?_⟩
  · simpa [spelled_gaps] using hqs'
  · simpa [spelled_gaps] using hf'

theorem valuesOf_append (ts us : List Term) (g : Group) :
    valuesOf (ts ++ us) g = valuesOf ts g ++ valuesOf us g := by
  simp [valuesOf]

theorem valuesAt_grouped (terms : List Term) (g : Group) :
    (Formula.mk (grouped terms)).valuesAt g = valuesOf terms g := by
  rw [Formula.valuesAt, get?_grouped]
  by_cases hg : (g.1, g.2) ∈ terms.map Term.group
  · rw [if_pos hg]
    rfl
  · rw [if_neg hg, valuesOf_eq_nil_iff.mpr hg]

theorem map_literalOf_old (ts us : List Term) :
    (groupsOf ts).map (literalOf (ts ++ us)) = (grouped ts).map fun l =>
      { l with values := l.values ++ (Formula.mk (grouped us)).valuesAt l.group } := by
  simp only [valuesAt_grouped]
  rw [grouped, List.map_map]
  apply List.map_congr_left
  intro g _
  rw [Function.comp, group_literalOf, literalOf, valuesOf_append]
  rfl

theorem map_literalOf_new (ts us : List Term) :
    ((groupsOf us).filter (· ∉ ts.map Term.group)).map (literalOf (ts ++ us)) =
      (grouped us).filter fun l => l.group ∉ (grouped ts).map Literal.group := by
  rw [groups_grouped]
  simp only [grouped, List.filter_map, Function.comp_def, group_literalOf, mem_groupsOf]
  apply List.map_congr_left
  intro g hg
  have hn : g ∉ ts.map Term.group := by simpa using (List.mem_filter.mp hg).2
  rw [literalOf, valuesOf_append, valuesOf_eq_nil_iff.mpr hn]
  rfl

/-- The terms of two queries are grouped as the formula of the first, extended by the other's. -/
theorem grouped_append (ts us : List Term) :
    Formula.mk (grouped (ts ++ us)) = (Formula.mk (grouped ts)).extend ⟨grouped us⟩ := by
  have hgroups : groupsOf (ts ++ us) =
      groupsOf ts ++ (groupsOf us).filter (· ∉ ts.map Term.group) := by
    rw [groupsOf, List.map_append, eraseDups_append_filter]
    rfl
  rw [Formula.extend, grouped, hgroups, List.map_append, map_literalOf_old, map_literalOf_new]

theorem parse_join (ha : Splits v a ps) (hw : Parting w.toList) (hb : Splits v b qs) :
    v.parse (a ++ w ++ b) = .ok ((Formula.mk (grouped (ps.flatMap Piece.terms))).extend
      ⟨grouped (qs.flatMap Piece.terms)⟩) := by
  rw [parse_of_splits (ha.join hw hb), List.flatMap_append, List.flatMap_append, terms_gaps,
    List.append_nil, grouped_append]

theorem tokenize_join (ha : Splits v a ps) (hw : Parting w.toList) (hb : Splits v b qs) :
    v.tokenize (a ++ w ++ b) = .ok (tokensFrom 0 ps ++
      (tokensFrom 0 qs).map (Token.shift (byteLength (a ++ w).toList))) := by
  have hlength : byteLength (spelled (ps ++ w.toList.map Piece.gap)) =
      byteLength (a ++ w).toList := by
    simp [spelled_gaps, ha.1]
  rw [tokenize_of_splits (ha.join hw hb), tokensFrom_append, tokensFrom_append, tokensFrom_gaps,
    List.append_nil, hlength, tokensFrom_shift]

theorem parse_join_flaw (ha : Splits v a ps) (hw : Parting w.toList)
    (hb : b.toList = spelled qs ++ f.chars) (hqs : AllFit v [] qs f.chars)
    (hf : f.Fits v (spelled qs)) :
    v.parse (a ++ w ++ b) = .error ⟨f.fault,
      some (byteLength (spelled qs ++ f.lead) + byteLength (a ++ w).toList),
      some (a ++ w ++ b)⟩ := by
  obtain ⟨hq, hall, hfits⟩ := ha.join_flaw hw hb hqs hf
  have hposition : byteLength (spelled (ps ++ w.toList.map Piece.gap ++ qs) ++ f.lead) =
      byteLength (spelled qs ++ f.lead) + byteLength (a ++ w).toList := by
    simp only [spelled_append, spelled_gaps, ha.1, byteLength_append, String.toList_append]
    omega
  rw [parse_of_flaw hq hall hfits, hposition]

/-- Behind a query that can be parsed and separators that keep them apart, another query is parsed
as if it stood alone. Its values extend the first formula and its tokens follow the first ones; if
it fails, so do the two together, for the same reason at the same place. -/
theorem parse_concatenation (ha : v.parse a = .ok fa) (hw : Parting w.toList) (b : String) :
    (∀ fb, v.parse b = .ok fb → v.parse (a ++ w ++ b) = .ok (fa.extend fb) ∧
      ∃ ts us, v.tokenize a = .ok ts ∧ v.tokenize b = .ok us ∧ v.tokenize (a ++ w ++ b) =
        .ok (ts ++ us.map (Token.shift (byteLength (a ++ w).toList)))) ∧
    ∀ e, v.parse b = .error e → ∃ position, e.position = some position ∧
      v.parse (a ++ w ++ b) = .error ⟨e.fault,
        some (position + byteLength (a ++ w).toList), some (a ++ w ++ b)⟩ := by
  obtain ⟨ps, hps, rfl⟩ := exists_splits_of_parse ha
  refine ⟨?_, ?_⟩
  · intro fb hb
    obtain ⟨qs, hqs, rfl⟩ := exists_splits_of_parse hb
    exact ⟨parse_join hps hw hqs, _, _, tokenize_of_splits hps, tokenize_of_splits hqs,
      tokenize_join hps hw hqs⟩
  · intro e hb
    obtain ⟨qs, f, hq, hqs, hf, rfl⟩ := exists_flaw_of_parse hb
    exact ⟨_, rfl, parse_join_flaw hps hw hq hqs hf⟩

/-- A hyphen at the end of the first query does not negate the key behind the separators, whether
the second query can be parsed or not. -/
theorem parse_concatenation_hyphen :
    (Vocabulary.ofValid ["status"]).parse "é status:a -" =
      .ok ⟨[⟨"fulltext", none, ["é"]⟩, ⟨"status", none, ["a"]⟩]⟩ ∧
    Parting ": ".toList ∧
    (Vocabulary.ofValid ["status"]).parse "é status:a -: status:b -status:c" =
      .ok ⟨[⟨"fulltext", none, ["é"]⟩, ⟨"status", none, ["a", "b"]⟩,
        ⟨"status", some .negate, ["c"]⟩]⟩ ∧
    (Vocabulary.ofValid ["status"]).parse "é status:a -: status:" =
      .error ⟨.expectedValue "status", some 22, some "é status:a -: status:"⟩ := by
  have ha : (Vocabulary.ofValid ["status"]).parse "é status:a -" =
      .ok ⟨[⟨"fulltext", none, ["é"]⟩, ⟨"status", none, ["a"]⟩]⟩ := by decide +kernel
  have hw : Parting ": ".toList := by
    have hseparators : ∀ c ∈ ": ".toList, isSeparator c = true := by simp; decide
    have hquotes : ∀ c ∈ ": ".toList, isQuote c = false := by simp; decide
    exact ⟨by simp, hseparators, hquotes, by simp⟩
  have hb : (Vocabulary.ofValid ["status"]).parse "status:b -status:c" =
      .ok ⟨[⟨"status", none, ["b"]⟩, ⟨"status", some .negate, ["c"]⟩]⟩ := by decide +kernel
  have he : (Vocabulary.ofValid ["status"]).parse "status:" =
      .error ⟨.expectedValue "status", some 7, some "status:"⟩ := by decide +kernel
  obtain ⟨position, hp, herror⟩ := (parse_concatenation ha hw "status:").2 _ he
  obtain rfl : 7 = position := Option.some.inj hp
  exact ⟨ha, hw, ((parse_concatenation ha hw "status:b -status:c").1 _ hb).1, herror⟩

end FacetQuery

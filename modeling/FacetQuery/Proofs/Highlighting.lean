import FacetQuery.Proofs.Boundaries
import FacetQuery.Proofs.Coverage
import FacetQuery.Proofs.Language
import FacetQuery.Proofs.Visible
import FacetQuery.Query.Highlight

/-!
Highlighted queries. The tokens of a query lie one behind the other in it, so that all parts can be
cut out, and what is shown is the query. Tokens written in quotes stand in the style of phrases.
-/
namespace FacetQuery

open Style

/-- Tokens read from the part `rest` of a query behind `before`, one behind the other. -/
inductive Laid : List Char → List Char → List Token → Prop where
  | done {before rest : List Char} : Laid before rest []
  | token {before gap source behind : List Char} {t : Token} {ts : List Token}
      (span : t.span = ⟨byteLength (before ++ gap), byteLength (before ++ gap ++ source)⟩)
      (read : t.ReadFrom (before ++ gap) source behind)
      (others : Laid (before ++ gap ++ source) behind ts) :
      Laid before (gap ++ (source ++ behind)) (t :: ts)

/-- The source of a token is its text in quotes. -/
def Token.InQuotes (t : Token) (source : List Char) : Prop :=
  ∃ quote, isQuote quote = true ∧ source = quote :: t.text.toList ++ [quote]

/-- A text ends with the escape sequence that switches a style on. -/
def EndsIn (style : Style) (text : String) : Prop := style.on.toList <:+ text.toList

/-- How a query in styles shows one of its tokens. What stands in front of the token's source shows
the query up to there and ends in the style of phrases exactly if the source is in quotes; behind
the source styles are switched off, and what follows shows the rest of the query. -/
def PaintedIn (query : List Char) (styled : String) (t : Token) : Prop :=
  ∃ before source after front back, query = before ++ source ++ after ∧
    t.span = ⟨byteLength before, byteLength (before ++ source)⟩ ∧
    styled = front ++ String.ofList source ++ off ++ back ∧
    strip front = String.ofList before ∧ strip back = String.ofList after ∧
    (EndsIn magenta front ↔ t.InQuotes source)

variable {v : Vocabulary} {query : String} {before rest gap source behind left right : List Char}
  {t : Token} {ts tokens : List Token} {ps : List Piece} {front : String} {style : Style}

/-- Tokens in order, each read from its span, lie one behind the other. -/
theorem laid_of_read {chars : List Char} (hq : chars = before ++ rest)
    (hread : ∀ t ∈ ts, ∃ left source right, chars = left ++ source ++ right ∧
      t.span = ⟨byteLength left, byteLength (left ++ source)⟩ ∧ t.ReadFrom left source right)
    (hordered : ts.Pairwise fun s t => s.span.stop ≤ t.span.start)
    (hstart : ∀ t ∈ ts, byteLength before ≤ t.span.start) : Laid before rest ts := by
  induction ts generalizing before rest with
  | nil => exact .done
  | cons t ts ih =>
    obtain ⟨left, source, right, he, hspan, hr⟩ := hread t (by simp)
    have hcut : before ++ rest = left ++ (source ++ right) := by rw [← hq, he, List.append_assoc]
    have hle : byteLength before ≤ byteLength left := by simpa [hspan] using hstart t (by simp)
    obtain ⟨gap, rfl⟩ := exists_append_of_byteLength_le hcut hle
    obtain rfl : rest = gap ++ (source ++ right) := by simpa using hcut
    obtain ⟨hnext, hordered⟩ := List.pairwise_cons.mp hordered
    refine .token hspan hr (ih he (fun u hu => hread u (by simp [hu])) hordered ?_)
    intro u hu
    simpa [hspan] using hnext u hu

theorem laid_of_splits (h : Splits v query ps) : Laid [] query.toList (tokensFrom 0 ps) := by
  have hcovers : Covers [] (spelled ps) [] (tokensFrom 0 ps) := h.2.covers
  rw [← h.1]
  refine laid_of_read rfl ?_ hcovers.ordered (by simp)
  intro t ht
  obtain ⟨left, source, right, he, hspan, hread⟩ := hcovers.read t ht
  exact ⟨left, source, right, by simpa using he, by simpa using hspan, by simpa using hread⟩

theorem laid_of_tokenize (h : v.tokenize query = .ok tokens) : Laid [] query.toList tokens := by
  obtain ⟨ps, hps, rfl⟩ := exists_splits_of_tokenize h
  exact laid_of_splits hps

theorem styledParts_token
    (hspan : t.span = ⟨byteLength (before ++ gap), byteLength (before ++ gap ++ source)⟩) :
    styledParts (byteLength before) (gap ++ (source ++ behind)) (t :: ts) =
      styledGap gap :: t.kind.style source :: String.ofList source :: off ::
        styledParts (byteLength (before ++ gap ++ source)) behind ts := by
  have hgap : t.span.start - byteLength before = byteLength gap := by simp [hspan]
  have hsource : t.span.stop - t.span.start = byteLength source := by
    simp only [hspan, byteLength_append]
    omega
  rw [styledParts, hgap, splitBytes_byteLength]
  dsimp only
  rw [hsource, splitBytes_byteLength, hspan]

theorem dimmedBetween_append (before gap after : List Char) :
    dimmedBetween (before ++ (gap ++ after)) (byteLength before) (byteLength (before ++ gap)) =
      .ok (styledGap gap) := by
  cases gap with
  | nil => simp [dimmedBetween, styledGap]
  | cons c gap =>
    have hpos : 0 < byteLength (c :: gap) := byteLength_pos (by simp)
    have hlt : byteLength before < byteLength (before ++ c :: gap) := by
      rw [byteLength_append]
      omega
    rw [dimmedBetween, if_pos hlt, textBetween_append]
    rfl

/-- All parts of a query can be cut out if its tokens lie in it. -/
theorem Laid.highlightFrom_eq (h : Laid before rest ts) :
    highlightFrom (before ++ rest) (byteLength before) ts =
      .ok (String.join (styledParts (byteLength before) rest ts)) := by
  induction h with
  | @done before rest =>
    have hgap := dimmedBetween_append before rest []
    rw [List.append_nil] at hgap
    simpa [highlightFrom, styledParts] using hgap
  | @token before gap source behind t ts hspan _ _ ih =>
    have hgap := dimmedBetween_append before gap (source ++ behind)
    have hsource := textBetween_append (before ++ gap) source behind
    rw [List.append_assoc] at hsource
    have hwhole : before ++ gap ++ source ++ behind = before ++ (gap ++ (source ++ behind)) := by
      simp
    rw [hwhole] at ih
    rw [highlightFrom, styledParts_token hspan, hspan]
    refine bind_eq_ok.mpr ⟨_, hgap, bind_eq_ok.mpr ⟨_, hsource, bind_eq_ok.mpr ⟨_, ih, ?_⟩⟩⟩
    simp [pure, Except.pure, String.append_assoc]

theorem TokenKind.shows_style (kind : TokenKind) (source : List Char) :
    Shows (kind.style source) "" := by
  cases kind with
  | operator => exact Shows.on red
  | key => exact Shows.on cyan
  | value =>
    simp only [style]
    split
    · exact Shows.on magenta
    · exact Shows.on green
  | fulltext =>
    simp only [style]
    split
    · exact Shows.on magenta
    · exact Shows.empty

theorem shows_ofList (h : escapeChar ∉ source) :
    Shows (String.ofList source) (String.ofList source) :=
  IsPlain.shows (by simpa [IsPlain] using h)

theorem shows_styledGap (h : escapeChar ∉ gap) : Shows (styledGap gap) (String.ofList gap) := by
  cases gap with
  | nil => exact Shows.empty
  | cons c gap => exact (shows_ofList h).paint dim

/-- A token and the characters left out before it are shown as they stand. -/
theorem shows_item (kind : TokenKind) (hgap : escapeChar ∉ gap) (hsource : escapeChar ∉ source) :
    Shows (styledGap gap ++ kind.style source ++ String.ofList source ++ off)
      (String.ofList (gap ++ source)) := by
  have hall := (((shows_styledGap hgap).append (kind.shows_style source)).append
    (shows_ofList hsource)).append Shows.off
  simpa only [String.append_empty, String.ofList_append] using hall

theorem Laid.shows (h : Laid before rest ts) (hrest : escapeChar ∉ rest) :
    Shows (String.join (styledParts (byteLength before) rest ts)) (String.ofList rest) := by
  induction h with
  | done => simpa [styledParts] using shows_styledGap hrest
  | @token before gap source behind t ts hspan _ _ ih =>
    simp only [List.mem_append, not_or] at hrest
    have hall := (shows_item t.kind hrest.1 hrest.2.1).append (ih hrest.2.2)
    rw [styledParts_token hspan]
    simpa [String.append_assoc] using hall

/-- All styles are switched off at the end of a text. -/
def Settled (text : String) : Prop := text = "" ∨ off.toList <:+ text.toList

theorem settled_append_off (front : String) : Settled (front ++ off) := by
  right
  rw [String.toList_append]
  exact List.suffix_append _ _

theorem Settled.append_styledGap (h : Settled front) (gap : List Char) :
    Settled (front ++ styledGap gap) := by
  cases gap with
  | nil => simpa [styledGap] using h
  | cons c gap =>
    have hoff := settled_append_off (front ++ (dim.on ++ String.ofList (c :: gap)))
    simpa [styledGap, paint, String.append_assoc] using hoff

theorem Settled.not_endsIn (h : Settled front) (style : Style) : ¬ EndsIn style front := by
  intro hend
  rcases h with rfl | hoff
  · have hnil := List.suffix_nil.mp hend
    revert hnil
    cases style <;> decide
  · rcases List.suffix_or_suffix_of_suffix hend hoff with hs | hs
    · revert hs
      cases style <;> decide
    · revert hs
      cases style <;> decide

theorem endsIn_append_on (front : String) (style style' : Style) :
    EndsIn style (front ++ style'.on) ↔ style = style' := by
  rw [EndsIn, String.toList_append]
  constructor
  · intro hend
    rcases List.suffix_or_suffix_of_suffix hend (List.suffix_append _ _) with hs | hs
    · revert hs
      cases style <;> cases style' <;> decide
    · revert hs
      cases style <;> cases style' <;> decide
  · rintro rfl
    exact List.suffix_append _ _

namespace Token.ReadFrom

/-- The source of a token begins with a quote exactly if it is in quotes. -/
theorem isPhrase_iff (h : t.ReadFrom left source right) :
    isPhrase source = true ↔ t.InQuotes source := by
  constructor
  · intro hphrase
    cases h with
    | operator _ hyphen _ =>
      rw [hyphen] at hphrase
      exact absurd hphrase (by decide)
    | word _ run _ =>
      obtain ⟨c, cs, rfl, hc⟩ := run.exists_cons
      simp [isPhrase, isQuote_eq_false hc] at hphrase
    | @phrase quote content _ quoted _ enclosed text =>
      exact ⟨quote, quoted, by simp [enclosed, text]⟩
  · rintro ⟨quote, quoted, rfl⟩
    simpa [isPhrase] using quoted

theorem kind_of_isPhrase (h : t.ReadFrom left source right) (hphrase : isPhrase source = true) :
    t.kind = .value ∨ t.kind = .fulltext := by
  obtain ⟨quote, quoted, hsource⟩ := h.isPhrase_iff.mp hphrase
  cases h with
  | operator _ hyphen _ => simp [hyphen] at hsource
  | word _ run _ =>
    obtain ⟨c, cs, rfl, hc⟩ := run.exists_cons
    simp [isPhrase, isQuote_eq_false hc] at hphrase
  | phrase kind _ _ _ _ => exact kind

/-- The style of phrases is on in front of what is written in quotes, and nowhere else. -/
theorem endsIn_magenta_iff (h : t.ReadFrom left source right) (hs : Settled front) :
    EndsIn magenta (front ++ t.kind.style source) ↔ t.InQuotes source := by
  rw [← h.isPhrase_iff]
  cases hphrase : isPhrase source with
  | true =>
    rcases h.kind_of_isPhrase hphrase with hk | hk <;>
      simp [hk, TokenKind.style, hphrase, endsIn_append_on]
  | false =>
    have hnone := hs.not_endsIn magenta
    cases hk : t.kind <;> simp [TokenKind.style, hphrase, endsIn_append_on, hnone]

end Token.ReadFrom

/-- Every token is painted, whatever has been shown in front of the part that it lies in. -/
theorem Laid.paintedIn (h : Laid before rest ts) (hrest : escapeChar ∉ rest)
    (hsettled : Settled front) (hshows : Shows front (String.ofList before)) (ht : t ∈ ts) :
    PaintedIn (before ++ rest)
      (front ++ String.join (styledParts (byteLength before) rest ts)) t := by
  induction h generalizing front with
  | done => cases ht
  | @token before gap source behind u ts hspan hread hothers ih =>
    simp only [List.mem_append, not_or] at hrest
    obtain ⟨hgap, hsource, hbehind⟩ := hrest
    rw [styledParts_token hspan]
    rcases List.mem_cons.mp ht with rfl | ht
    · have hfront := (hshows.append (shows_styledGap hgap)).append (t.kind.shows_style source)
      refine ⟨before ++ gap, source, behind, front ++ styledGap gap ++ t.kind.style source,
        String.join (styledParts (byteLength (before ++ gap ++ source)) behind ts), by simp, hspan,
        by simp [String.append_assoc], ?_, (hothers.shows hbehind).strip_eq,
        hread.endsIn_magenta_iff (hsettled.append_styledGap gap)⟩
      simpa using hfront.strip_eq
    · have hfront := hshows.append (shows_item u.kind hgap hsource)
      rw [← String.ofList_append, ← List.append_assoc] at hfront
      have hpainted := ih hbehind
        (settled_append_off (front ++ (styledGap gap ++ u.kind.style source ++
          String.ofList source))) (by simpa only [String.append_assoc] using hfront) ht
      simpa [String.append_assoc] using hpainted

/-- A query with its tokens in styles is made of cuts at boundaries and shows the query, and its
tokens are in the style of phrases exactly if they are written in quotes. -/
theorem highlight_transparent (h : v.tokenize query = .ok tokens) (hplain : IsPlain query) :
    highlight query tokens = .ok (styledTokens query tokens) ∧
    strip (styledTokens query tokens) = query ∧
    ∀ t ∈ tokens, PaintedIn query.toList (styledTokens query tokens) t := by
  have hlaid := laid_of_tokenize h
  refine ⟨hlaid.highlightFrom_eq, ?_, ?_⟩
  · have hshows := (hlaid.shows hplain).strip_eq
    rwa [String.ofList_toList] at hshows
  · intro t ht
    have hpainted := hlaid.paintedIn hplain (Or.inl rfl) Shows.empty ht
    simpa [styledTokens] using hpainted

/-- A hyphen, a key, a colon, a phrase right behind a two-byte character and a mark at the end. -/
theorem highlight_transparent_phrase :
    (Vocabulary.ofValid ["tag"]).tokenize "é -tag:'b c'!" =
      .ok [⟨.fulltext, "é", ⟨0, 2⟩⟩, ⟨.operator, "-", ⟨3, 4⟩⟩, ⟨.key, "tag", ⟨4, 7⟩⟩,
        ⟨.value, "b c", ⟨8, 13⟩⟩] ∧
    IsPlain "é -tag:'b c'!" ∧
    ∃ styled, highlight "é -tag:'b c'!" [⟨.fulltext, "é", ⟨0, 2⟩⟩, ⟨.operator, "-", ⟨3, 4⟩⟩,
        ⟨.key, "tag", ⟨4, 7⟩⟩, ⟨.value, "b c", ⟨8, 13⟩⟩] = .ok styled ∧
      strip styled = "é -tag:'b c'!" ∧
      PaintedIn "é -tag:'b c'!".toList styled ⟨.value, "b c", ⟨8, 13⟩⟩ := by
  have htokens : (Vocabulary.ofValid ["tag"]).tokenize "é -tag:'b c'!" =
      .ok [⟨.fulltext, "é", ⟨0, 2⟩⟩, ⟨.operator, "-", ⟨3, 4⟩⟩, ⟨.key, "tag", ⟨4, 7⟩⟩,
        ⟨.value, "b c", ⟨8, 13⟩⟩] := by decide +kernel
  have hplain : IsPlain "é -tag:'b c'!" := by decide +kernel
  obtain ⟨hcuts, hstrip, hpainted⟩ := highlight_transparent htokens hplain
  exact ⟨htokens, hplain, _, hcuts, hstrip, hpainted _ (by simp)⟩

end FacetQuery

import FacetQuery.Proofs.Boundaries

/-!
The places that a cursor comes to. However often a cursor is asked, it stands at a boundary of the
query where an item, a colon or a value may begin, and answers with the tokens of the query one by
one.
-/
namespace FacetQuery

/-- What stands before and behind a place that is come to. Between items no word goes across it;
behind a key stand the key, which is a word of the query, and colons. -/
inductive Standing (v : Vocabulary) (before after : List Char) : Mode → Prop
  | scanning (seam : Seam before after) : Standing v before after .scanning
  | pairing {front key : List Char} {n : Nat} (ends : before = front ++ (key ++ colons n))
      (isKey : KeyRun v front key (colons n ++ after)) :
      Standing v before after (.pairing (String.ofList key))

/-- A scanner at such a place of a query. -/
def Scanner.Stands (v : Vocabulary) (query : String) (s : Scanner) : Prop :=
  ∃ before, query.toList = before ++ s.rest ∧ s = .between before s.rest s.mode ∧
    Standing v before s.rest s.mode

/-- A cursor at such a place of a query, where the query can be cut. -/
structure Cursor.Stands (v : Vocabulary) (query : String) (c : Cursor) : Prop where
  within : c.position ≤ byteLength query.toList
  between : ∃ before after, cutAt query.toList c.position = .ok (before, after) ∧
    Standing v before after c.mode

/-- The cursors that a cursor passes in one call, itself among them. -/
def Cursor.Passes (v : Vocabulary) (query : String) : Cursor → Cursor → Prop :=
  Relation.ReflTransGen fun c n => c.step v query.toList = .ok (.skip n)

/-- A cursor that stands, and whose step makes all its cuts at boundaries. If the step goes on, it
goes on further behind. -/
structure Cursor.Steps (v : Vocabulary) (query : String) (c : Cursor) : Prop where
  stands : c.Stands v query
  advances : ∃ step, c.step v query.toList = .ok step ∧
    ∀ n, step.next? = some n → c.position < n.position

/-- The answers that a scan gives one by one: its tokens, then its error if there is one, then
nothing. -/
def Scan.answer? (s : Scan) (i : Nat) : Option (Except QueryError Token) :=
  (s.tokens.map Except.ok ++ s.failure.toList.map Except.error)[i]?

variable {v : Vocabulary} {query : String} {before after rest key : List Char} {mode : Mode}
  {s n : Scanner} {c : Cursor}

theorem Standing.next_of_keyRun {negated : Bool}
    (hk : KeyRun v (before ++ hyphen negated) key rest)
    (hnext : ((Scanner.between before (hyphen negated ++ key ++ rest) .scanning).step v).next? =
      some n) :
    ∃ lexeme after, hyphen negated ++ key ++ rest = lexeme ++ after ∧
      n = .between (before ++ lexeme) after n.mode ∧
      Standing v (before ++ lexeme) after n.mode := by
  cases negated with
  | true =>
    simp only [hyphen_true, List.cons_append, List.nil_append] at hk hnext ⊢
    rw [Scanner.step_operator hk] at hnext
    obtain rfl := Option.some.inj hnext
    exact ⟨['-'], _, rfl, rfl, .scanning (.inl (by simp; decide))⟩
  | false =>
    simp only [hyphen_false, List.nil_append, List.append_nil] at hk hnext ⊢
    rw [Scanner.step_key hk] at hnext
    obtain rfl := Option.some.inj hnext
    exact ⟨key, rest, rfl, rfl, .pairing (n := 0) (by simp) hk⟩

theorem Standing.next (h : Standing v before after mode)
    (hnext : ((Scanner.between before after mode).step v).next? = some n) :
    ∃ lexeme rest, after = lexeme ++ rest ∧ n = .between (before ++ lexeme) rest n.mode ∧
      Standing v (before ++ lexeme) rest n.mode := by
  cases h with
  | scanning seam =>
    cases after with
    | nil => cases hnext
    | cons c rest =>
      rcases exists_piece_or_flaw v seam with ⟨p, after, he, hp⟩ | ⟨f, he, hf⟩
      · have hseam := hp.seam
        rw [he] at hnext ⊢
        cases p with
        | gap c =>
          rw [Piece.chars, List.singleton_append, Scanner.step_gap hp] at hnext
          obtain rfl := Option.some.inj hnext
          exact ⟨_, _, rfl, rfl, .scanning hseam⟩
        | term w =>
          rw [Piece.chars, Scanner.step_term hp] at hnext
          obtain rfl := Option.some.inj hnext
          exact ⟨_, _, rfl, rfl, .scanning hseam⟩
        | pair negated key n w =>
          have hchars : (Piece.pair negated key n w).chars ++ after =
              hyphen negated ++ key ++ (colons n ++ w.chars ++ after) := by simp [Piece.chars]
          rw [hchars] at hnext ⊢
          exact next_of_keyRun hp.1 hnext
      · rw [he] at hnext ⊢
        cases f with
        | phrase quote rest =>
          rw [Flaw.chars, Flaw.lead, Flaw.tail, List.nil_append,
            Scanner.step_open hf.1 hf.2] at hnext
          cases hnext
        | pair negated key n rest =>
          have hchars : (Flaw.pair negated key n rest).chars =
              hyphen negated ++ key ++ (colons n ++ rest) := by
            simp [Flaw.chars, Flaw.lead, Flaw.tail]
          rw [hchars] at hnext ⊢
          exact next_of_keyRun hf.1 hnext
  | @pairing front key n ends isKey =>
    by_cases hcolon : ':' ∈ after.head?
    · obtain ⟨rest, rfl⟩ := List.head?_eq_some_iff.mp hcolon
      rw [Scanner.step_colon] at hnext
      obtain rfl := Option.some.inj hnext
      have hcolons : colons n ++ ':' :: rest = colons (n + 1) ++ rest := by
        rw [← colons_append_cons, List.append_assoc, List.singleton_append]
      rw [hcolons] at isKey
      refine ⟨[':'], rest, rfl, rfl, .pairing (n := n + 1) ?_ isKey⟩
      rw [ends, ← colons_append_cons]
      simp
    · have hright : n = 0 → ∀ c ∈ after.head?, isSeparator c = true := by
        rintro rfl
        exact isKey.right
      rcases exists_value_or_noValue n hcolon hright (front ++ key) with
        ⟨w, rest, rfl, hw, -⟩ | hno
      · rw [List.append_assoc, ← ends] at hw
        rw [Scanner.step_value hw] at hnext
        obtain rfl := Option.some.inj hnext
        exact ⟨w.chars, rest, rfl, rfl, .scanning hw.seam⟩
      · rw [Scanner.step_noValue hno false key n] at hnext
        cases hnext

namespace Scanner

theorem stands_start (v : Vocabulary) (query : String) :
    (start query.toList).Stands v query :=
  ⟨[], rfl, rfl, .scanning (.inl (by simp))⟩

theorem Stands.isIn (h : s.Stands v query) : s.In query := by
  obtain ⟨before, hquery, hs, -⟩ := h
  exact ⟨before, hquery, hs⟩

theorem Stands.next (h : s.Stands v query) (hnext : (s.step v).next? = some n) :
    n.Stands v query := by
  obtain ⟨before, hquery, hs, hstanding⟩ := h
  rw [hs] at hnext
  obtain ⟨lexeme, rest, hafter, hn, hplace⟩ := hstanding.next hnext
  have hrest : n.rest = rest := by rw [hn, between_rest]
  refine ⟨before ++ lexeme, ?_, ?_, ?_⟩
  · rw [hquery, hafter, hrest, List.append_assoc]
  · rw [hrest]
    exact hn
  · rw [hrest]
    exact hplace

theorem Stands.skips (h : s.Stands v query) (hskips : Skips v s n) : n.Stands v query := by
  induction hskips with
  | refl => exact h
  | tail _ hstep ih => exact ih.next (by rw [hstep]; rfl)

theorem Stands.toCursor (h : s.Stands v query) : s.toCursor.Stands v query := by
  obtain ⟨before, hquery, hs, hplace⟩ := h
  have hposition : s.toCursor.position = byteLength before := by
    rw [hs]
    rfl
  refine ⟨?_, before, s.rest, cutAt_eq_ok.mpr ⟨hquery, hposition⟩, hplace⟩
  rw [hquery, hposition, byteLength_append]
  omega

theorem run_skips (query : String) (hskips : Skips v s n) : s.run v query = n.run v query := by
  induction hskips with
  | refl => rfl
  | tail _ hstep ih => rw [ih, run_skip query hstep]

theorem length_le_of_skips (hskips : Skips v s n) : n.rest.length ≤ s.rest.length := by
  induction hskips with
  | refl => exact le_rfl
  | tail _ hstep ih =>
    have hlt := step_shorter (v := v) (by rw [hstep]; rfl)
    omega

/-- A step that goes on reads at least one byte. -/
theorem position_lt (hnext : (s.step v).next? = some n) : s.position < n.position := by
  obtain ⟨lexeme, hrest, hn⟩ := advance_of_goesOn (goesOn_step hnext) hnext
  have hshorter := step_shorter hnext
  have hne : lexeme ≠ [] := by
    rintro rfl
    simp [hrest] at hshorter
  have hpos := byteLength_pos hne
  rw [hn]
  simp only [advance]
  omega

end Scanner

namespace Cursor

/-- What a cursor passes in one call, the scanner passes character by character. -/
theorem exists_of_passes (h : s.Stands v query) (hpasses : s.toCursor.Passes v query c) :
    ∃ n : Scanner, c = n.toCursor ∧ n.Stands v query := by
  induction hpasses with
  | refl => exact ⟨s, rfl, h⟩
  | tail _ hstep ih =>
    obtain ⟨n, rfl, hn⟩ := ih
    obtain ⟨step, hstep', hfollows⟩ := Scanner.follows_step (v := v) hn.isIn
    obtain rfl := Except.ok.inj (hstep'.symm.trans hstep)
    cases hfollows with
    | @skip n m here more => exact ⟨m, rfl, (hn.next (by rw [here]; rfl)).skips more⟩

theorem steps_toCursor (h : s.Stands v query) : s.toCursor.Steps v query := by
  obtain ⟨step, hstep, hfollows⟩ := Scanner.follows_step (v := v) h.isIn
  refine ⟨h.toCursor, step, hstep, ?_⟩
  intro n hnext
  cases hfollows with
  | stop here => cases hnext
  | fail here => cases hnext
  | skip here more =>
    obtain rfl := Option.some.inj hnext
    exact (lt_of_skip hstep).2
  | emit here =>
    obtain rfl := Option.some.inj hnext
    exact Scanner.position_lt (by rw [here]; rfl)

/-- What a call comes to, if the rest of the query is scanned so. -/
inductive Answers (v : Vocabulary) (query : String) :
    Scan → Option (Except QueryError Token) → Cursor → Prop
  | ends {s : Scanner} (stands : s.Stands v query) :
      Answers v query ⟨[], none⟩ none s.toCursor.finish
  | breaksOff {s : Scanner} (e : QueryError) (stands : s.Stands v query) :
      Answers v query ⟨[], some e⟩ (some (.error e)) s.toCursor.finish
  | reads {s : Scanner} (t : Token) (stands : s.Stands v query) :
      Answers v query ((s.run v query).behind [t]) (some (.ok t)) s.toCursor

/-- A call answers with what the scanner reads first. -/
theorem exists_next (h : s.Stands v query) :
    ∃ answer c, s.toCursor.next v query = .ok (answer, c) ∧
      Answers v query (s.run v query) answer c := by
  -- by induction on what is left to read, which is less behind all that is passed over
  induction hlength : s.rest.length using Nat.strong_induction_on generalizing s with
  | _ length ih =>
    obtain ⟨step, hstep, hfollows⟩ := Scanner.follows_step (v := v) h.isIn
    cases hfollows with
    | stop here =>
      rw [Scanner.run_stop query here]
      exact ⟨_, _, next_stop rfl hstep, .ends h⟩
    | fail here =>
      rw [Scanner.run_fail query here]
      exact ⟨_, _, next_fail rfl hstep, .breaksOff _ h⟩
    | @skip n m here more =>
      have hnext : (s.step v).next? = some n := by
        rw [here]
        rfl
      have hle := Scanner.length_le_of_skips more
      have hlt := Scanner.step_shorter hnext
      rw [Scanner.run_skip query here, Scanner.run_skips query more, next_skip rfl hstep]
      exact ih m.rest.length (by omega) ((h.next hnext).skips more) rfl
    | emit here =>
      rw [Scanner.run_emit query here]
      exact ⟨_, _, next_emit rfl hstep, .reads _ (h.next (by rw [here]; rfl))⟩

/-- A cursor between two calls. -/
def Rests (v : Vocabulary) (query : String) (c : Cursor) : Prop :=
  ∃ s : Scanner, s.Stands v query ∧ (c = s.toCursor ∨ c = s.toCursor.finish)

/-- A finished cursor has no answers left. -/
theorem calls_finished (h : c.finished = true) (n : Nat) :
    c.calls v query n = .ok (List.replicate n none, c) := by
  induction n with
  | zero => rfl
  | succ n ih => exact bind_eq_ok.mpr ⟨_, next_finished h, bind_eq_ok.mpr ⟨_, ih, rfl⟩⟩

theorem calls_of_next_finish {d : Cursor} {answer : Option (Except QueryError Token)}
    (h : c.next v query = .ok (answer, d.finish)) (n : Nat) :
    c.calls v query (n + 1) = .ok (answer :: List.replicate n none, d.finish) :=
  bind_eq_ok.mpr ⟨_, h, bind_eq_ok.mpr ⟨_, calls_finished rfl n, rfl⟩⟩

theorem answers_succ (scan : Scan) (n : Nat) :
    (List.range (n + 1)).map scan.answer? =
      scan.answer? 0 :: (List.range n).map fun i => scan.answer? (i + 1) := by
  rw [List.range_succ_eq_map, List.map_cons, List.map_map]
  rfl

/-- Calls in a row answer with what the scanner reads. -/
theorem exists_calls (h : s.Stands v query) (n : Nat) :
    ∃ c, s.toCursor.calls v query n = .ok ((List.range n).map (s.run v query).answer?, c) ∧
      c.Rests v query := by
  induction n generalizing s with
  | zero => exact ⟨_, rfl, s, h, .inl rfl⟩
  | succ n ih =>
    obtain ⟨answer, c, hcall, hanswer⟩ := exists_next h
    rw [answers_succ]
    generalize s.run v query = scan at hanswer
    cases hanswer with
    | @ends s stands =>
      refine ⟨_, (calls_of_next_finish hcall n).trans ?_, s, stands, .inr rfl⟩
      simp [Scan.answer?]
    | @breaksOff s e stands =>
      refine ⟨_, (calls_of_next_finish hcall n).trans ?_, s, stands, .inr rfl⟩
      simp [Scan.answer?]
    | @reads s t stands =>
      obtain ⟨c, hcalls, hrests⟩ := ih stands
      exact ⟨c, bind_eq_ok.mpr ⟨_, hcall, bind_eq_ok.mpr ⟨_, hcalls, rfl⟩⟩, hrests⟩

end Cursor

/-- After the end of a scan, and after its error, there is nothing. -/
theorem Scan.answer?_eq_none {scan : Scan} {i j : Nat} (hij : i < j)
    (h : ∀ t, scan.answer? i ≠ some (.ok t)) : scan.answer? j = none := by
  have hi : scan.tokens.length ≤ i := by
    by_contra hi
    have hlt : i < scan.tokens.length := by omega
    refine h scan.tokens[i] ?_
    rw [Scan.answer?, List.getElem?_append_left (by simpa using hlt)]
    simp
  have hfailure : scan.failure.toList.length ≤ 1 := by cases scan.failure <;> simp
  apply List.getElem?_eq_none
  simp only [List.length_append, List.length_map]
  omega

/-- There are at most as many tokens as there are characters. -/
theorem length_tokens_run (v : Vocabulary) (query : String) (s : Scanner) :
    (s.run v query).tokens.length ≤ s.rest.length := by
  fun_induction Scanner.run v query s with
  | case1 => exact Nat.zero_le _
  | case2 => exact Nat.zero_le _
  | case3 s next hstep ih =>
    have hlt := Scanner.step_shorter (v := v) (n := next) (by rw [hstep]; rfl)
    omega
  | case4 s token next hstep tail =>
    rename_i ih
    have hlt := Scanner.step_shorter (v := v) (n := next) (by rw [hstep]; rfl)
    exact Nat.succ_le_of_lt (Nat.lt_of_le_of_lt ih hlt)

/-- However often a cursor is asked for a token of a query, it makes all its cuts at boundaries. It
answers with what the scan of the query answers, at most one token for each character, and with
nothing after the end or an error. Where it stands between the calls, and at every place that it
passes in a call, it is where an item or the value of a key may begin; and each of its steps that
goes on goes on further behind. -/
theorem Cursor.calls_exact (v : Vocabulary) (query : String) (n : Nat) :
    ∃ c, Cursor.start.calls v query n =
        .ok ((List.range n).map (v.scan query).answer?, c) ∧
      c.Stands v query ∧
      (c.finished = false → ∀ passed, c.Passes v query passed → passed.Steps v query) ∧
      (v.scan query).tokens.length ≤ query.toList.length ∧
      ∀ i j, i < j → (∀ t, (v.scan query).answer? i ≠ some (.ok t)) →
        (v.scan query).answer? j = none := by
  obtain ⟨c, hcalls, s, hs, hc⟩ := Cursor.exists_calls (Scanner.stands_start v query) n
  refine ⟨c, hcalls, ?_, ?_, length_tokens_run v query _, fun i j => Scan.answer?_eq_none⟩
  · rcases hc with rfl | rfl
    · exact hs.toCursor
    · exact ⟨hs.toCursor.within, hs.toCursor.between⟩
  · rcases hc with rfl | rfl
    · intro _ passed hpassed
      obtain ⟨m, rfl, hm⟩ := Cursor.exists_of_passes hs hpassed
      exact Cursor.steps_toCursor hm
    · nofun

end FacetQuery

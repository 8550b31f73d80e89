import FacetQuery.Proofs.Scanning

/-!
The steps of the scanner, one by one. A step that goes on reads a part of the text: it passes over a
character, or it makes a token of a kind that its mode allows.
-/
namespace FacetQuery

/-- What a step that goes on does. Between items it finds a hyphen in front of a key, a key, or a
term where there is no key; behind a key it finds the value. -/
inductive Scanner.GoesOn (v : Vocabulary) (s : Scanner) : Step → Prop
  | skip {c : Char} {rest : List Char} (ahead : s.rest = c :: rest)
      (noKey : s.mode = .scanning → v.keyBehind? s.last s.rest = none) :
      GoesOn v s (.skip (s.advance [c] rest s.mode))
  | operator {rest : List Char} {key : String} (mode : s.mode = .scanning)
      (ahead : s.rest = '-' :: rest) (found : v.keyBehind? (some '-') rest = some key) :
      GoesOn v s (.emit ⟨.operator, "-", ⟨s.position, s.position + 1⟩⟩
        (s.advance ['-'] rest .scanning))
  | key {key : String} {lexeme rest : List Char} (mode : s.mode = .scanning)
      (ahead : s.rest = lexeme ++ rest) (found : v.keyBehind? s.last s.rest = some key) :
      GoesOn v s (.emit ⟨.key, key, ⟨s.position, s.position + byteLength lexeme⟩⟩
        (s.advance lexeme rest (.pairing key)))
  | fulltext {text lexeme rest : List Char} (mode : s.mode = .scanning)
      (ahead : s.rest = lexeme ++ rest) (noKey : v.keyBehind? s.last s.rest = none) :
      GoesOn v s (.emit
        ⟨.fulltext, String.ofList text, ⟨s.position, s.position + byteLength lexeme⟩⟩
        (s.advance lexeme rest .scanning))
  | value {key : String} {text lexeme rest : List Char} (mode : s.mode = .pairing key)
      (ahead : s.rest = lexeme ++ rest) :
      GoesOn v s (.emit
        ⟨.value, String.ofList text, ⟨s.position, s.position + byteLength lexeme⟩⟩
        (s.advance lexeme rest .scanning))

/-- The places that the scanner comes to in a query, with the tokens that it has read before. -/
inductive Reaches (v : Vocabulary) (query : String) : List Token → Scanner → Prop
  | start : Reaches v query [] (.start query.toList)
  | skip {ts : List Token} {s n : Scanner} (before : Reaches v query ts s)
      (step : s.step v = .skip n) : Reaches v query ts n
  | emit {ts : List Token} {s n : Scanner} {t : Token} (before : Reaches v query ts s)
      (step : s.step v = .emit t n) : Reaches v query (ts ++ [t]) n

/-- A scan ends where its scanner cannot go on, at the end of the query or in an error. -/
def Scan.EndsAt (v : Vocabulary) (query : String) (scan : Scan) (s : Scanner) : Prop :=
  s.step v = .stop ∧ scan.failure = none ∨
    ∃ position fault, s.step v = .fail position fault ∧
      scan.failure = some ⟨fault, some position, some query⟩

namespace Scanner

variable {v : Vocabulary} {s n : Scanner} {t : Token} {kind : TokenKind} {c : Char}
  {rest : List Char} {key : String} {step : Step}

theorem leadingWord_eq_of_keyBehind {last : Option Char}
    (h : v.keyBehind? last rest = some key) : key = String.ofList (leadingWord rest) := by
  unfold Vocabulary.keyBehind? Vocabulary.leadingKey? at h
  dsimp only at h
  split at h
  · split at h
    · exact (Option.some.inj h).symm
    · cases h
  · cases h

theorem leadingWord_append_drop (cs : List Char) :
    cs = leadingWord cs ++ cs.drop (leadingWord cs).length :=
  (List.prefix_iff_eq_append.mp (List.takeWhile_prefix isWordChar)).symm

/-- A phrase or a word is read from a beginning of the text. -/
theorem term?_emits (ahead : s.rest = c :: rest) (hterm : s.term? kind c rest = some step)
    (hnext : step.next? = some n) :
    ∃ text lexeme after, s.rest = lexeme ++ after ∧
      step = s.emit kind text lexeme after .scanning := by
  unfold term? at hterm
  split at hterm
  · obtain rfl := Option.some.inj hterm
    unfold phrase at hnext ⊢
    dsimp only at hnext ⊢
    split
    · rename_i hopen
      simp [hopen, Step.next?] at hnext
    · rename_i close after hclose
      refine ⟨_, _, after, ?_, rfl⟩
      have hsplit := List.takeWhile_append_dropWhile (p := (· != c)) (l := rest)
      rw [hclose] at hsplit
      simp [ahead, hsplit]
  · split at hterm
    · obtain rfl := Option.some.inj hterm
      exact ⟨_, _, _, leadingWord_append_drop s.rest, rfl⟩
    · cases hterm

theorem goesOn_scan (hmode : s.mode = .scanning) (hnext : (s.scan v).next? = some n) :
    s.GoesOn v (s.scan v) := by
  unfold scan at hnext ⊢
  split
  · rename_i hend
    simp [hend, Step.next?] at hnext
  · rename_i c rest ahead
    simp only [ahead] at hnext
    split
    · rename_i hblank
      have hnone : v.keyBehind? s.last (c :: rest) = none :=
        keyBehind?_of_separator (isSeparator_of_isBlank hblank)
      unfold skip
      exact .skip ahead fun _ => by rw [ahead, hnone]
    · rename_i hblank
      split
      · rename_i hop
        obtain ⟨rfl, hkey⟩ := hop
        obtain ⟨key, hkey⟩ := Option.isSome_iff_exists.mp hkey
        exact .operator hmode ahead hkey
      · rename_i hop
        simp only [hblank, hop, if_false] at hnext
        split
        · rename_i key hkey
          have htext := leadingWord_eq_of_keyBehind hkey
          unfold word emit
          dsimp only
          rw [← htext]
          exact .key hmode (leadingWord_append_drop s.rest) hkey
        · rename_i hkey
          rw [← ahead, hkey] at hnext
          dsimp only at hnext
          split
          · rename_i step hterm
            rw [hterm] at hnext
            obtain ⟨text, lexeme, after, hahead, rfl⟩ := term?_emits ahead hterm hnext
            exact .fulltext hmode hahead hkey
          · rename_i hterm
            rw [hterm] at hnext
            dsimp only at hnext
            split
            · exact .skip ahead fun _ => hkey
            · rename_i hsep
              simp [hsep, Step.next?] at hnext

theorem goesOn_pair (hmode : s.mode = .pairing key) (hnext : (s.pair key).next? = some n) :
    s.GoesOn v (s.pair key) := by
  unfold pair at hnext ⊢
  split
  · rename_i hend
    simp [hend, Step.next?] at hnext
  · rename_i c rest ahead
    simp only [ahead] at hnext
    split
    · exact .skip ahead fun hscan => by simp [hmode] at hscan
    · rename_i hcolon
      simp only [hcolon, if_false] at hnext
      split
      · rename_i step hterm
        rw [hterm] at hnext
        obtain ⟨text, lexeme, after, hahead, rfl⟩ := term?_emits ahead hterm hnext
        exact .value hmode hahead
      · rename_i hterm
        simp [hterm, Step.next?] at hnext

theorem goesOn_step (hnext : (s.step v).next? = some n) : s.GoesOn v (s.step v) := by
  unfold step at hnext ⊢
  split
  · rename_i hmode
    rw [hmode] at hnext
    exact goesOn_scan hmode hnext
  · rename_i key hmode
    rw [hmode] at hnext
    exact goesOn_pair hmode hnext

theorem goesOn_of_skip (hstep : s.step v = .skip n) : s.GoesOn v (.skip n) := by
  rw [← hstep]
  exact goesOn_step (n := n) (by rw [hstep]; rfl)

theorem goesOn_of_emit (hstep : s.step v = .emit t n) : s.GoesOn v (.emit t n) := by
  rw [← hstep]
  exact goesOn_step (n := n) (by rw [hstep]; rfl)

/-- Between items, a key that is found is read at once. -/
theorem step_of_keyBehind (hmode : s.mode = .scanning)
    (hkey : v.keyBehind? s.last s.rest = some key) :
    ∃ t n, s.step v = .emit t n ∧ t.kind = .key ∧ t.text = key ∧ t.span.start = s.position := by
  cases hrest : s.rest with
  | nil => simp [Vocabulary.keyBehind?, Vocabulary.leadingKey?, hrest, leadingWord] at hkey
  | cons c rest =>
    rw [hrest] at hkey
    have hc := isWordChar_eq_true_iff.mp (Vocabulary.isWordChar_of_keyBehind hkey)
    obtain ⟨hblank, hhyphen, -⟩ := isBlank_ne_of_opens (Or.inr hc)
    have hstep : s.step v = s.word .key (.pairing key) := by
      simp [step, hmode, scan, hrest, hblank, hhyphen, hkey]
    refine ⟨_, _, hstep, rfl, ?_, rfl⟩
    rw [hrest]
    exact (leadingWord_eq_of_keyBehind hkey).symm

theorem term?_ne_stop : s.term? kind c rest ≠ some .stop := by
  unfold term? phrase word emit
  dsimp only
  split
  · split <;> simp
  · split <;> simp

/-- The scanner stops between items only. -/
theorem mode_of_stop (hstep : s.step v = .stop) : s.mode = .scanning := by
  unfold step at hstep
  split at hstep
  · assumption
  · unfold pair skip at hstep
    split at hstep
    · cases hstep
    · split at hstep
      · cases hstep
      · split at hstep
        · rename_i hterm
          exact absurd (hstep ▸ hterm) term?_ne_stop
        · cases hstep

theorem advance_of_goesOn (h : s.GoesOn v step) (hnext : step.next? = some n) :
    ∃ lexeme, s.rest = lexeme ++ n.rest ∧ n = s.advance lexeme n.rest n.mode := by
  cases h with
  | skip ahead _ | operator _ ahead _ | key _ ahead _ | fulltext _ ahead _ | value _ ahead =>
    obtain rfl := Option.some.inj hnext
    exact ⟨_, ahead, rfl⟩

end Scanner

variable {v : Vocabulary} {query : String} {s : Scanner} {ts : List Token}

/-- From every place that a scan comes to, the rest of it is the run from there. -/
theorem Reaches.scan_eq (h : Reaches v query ts s) :
    v.scan query = (s.run v query).behind ts := by
  induction h with
  | start => rfl
  | skip before step ih => rw [ih, Scanner.run_skip query step]
  | emit before step ih => rw [ih, Scanner.run_emit query step, Scan.behind_behind]

/-- A scan comes to a place behind every beginning of its tokens, and to one where it ends. -/
theorem Reaches.run (h : Reaches v query ts s) :
    (∀ more, more <+: (s.run v query).tokens → ∃ n, Reaches v query (ts ++ more) n) ∧
      ∃ n, Reaches v query (ts ++ (s.run v query).tokens) n ∧
        (s.run v query).EndsAt v query n := by
  fun_induction Scanner.run v query s generalizing ts with
  | case1 s hstep =>
    refine ⟨?_, s, by simpa using h, Or.inl ⟨hstep, rfl⟩⟩
    intro more hmore
    obtain rfl := List.prefix_nil.mp hmore
    exact ⟨s, by simpa using h⟩
  | case2 s position fault hstep =>
    refine ⟨?_, s, by simpa using h, Or.inr ⟨position, fault, hstep, rfl⟩⟩
    intro more hmore
    obtain rfl := List.prefix_nil.mp hmore
    exact ⟨s, by simpa using h⟩
  | case3 s next hstep ih => exact ih (h.skip hstep)
  | case4 s token next hstep tail =>
    rename_i ih
    obtain ⟨hall, n, hn, hends⟩ := ih (h.emit hstep)
    refine ⟨?_, n, by simpa using hn, hends⟩
    intro more hmore
    cases more with
    | nil => exact ⟨s, by simpa using h⟩
    | cons t more =>
      obtain ⟨rfl, htail⟩ := List.cons_prefix_cons.mp hmore
      obtain ⟨n, hn⟩ := hall more htail
      exact ⟨n, by simpa using hn⟩

end FacetQuery

import FacetQuery.Proofs.MentionedKeys
import FacetQuery.Query.Cursor
import Mathlib.Logic.Relation

/-!
The cursor on a query. At a boundary between characters every cut that it makes is at one, and what
it reads is what the scanner reads there.
-/
namespace FacetQuery

variable {v : Vocabulary} {before after rest run cs : List Char} {c d quote : Char}
  {p : Char → Bool} {query : String}

theorem offsetOf?_eq_none (h : ∀ c ∈ run, p c = false) : offsetOf? p run = none := by
  induction run with
  | nil => rfl
  | cons c run ih =>
    have hrest := ih fun d hd => h d (by simp [hd])
    simp [offsetOf?, h c, hrest]

theorem offsetOf?_append (h : ∀ c ∈ run, p c = false) (hd : p d = true) (rest : List Char) :
    offsetOf? p (run ++ d :: rest) = some (byteLength run) := by
  induction run with
  | nil => simp [offsetOf?, hd]
  | cons c run ih =>
    have hrest := ih fun d hd => h d (by simp [hd])
    simp [offsetOf?, h c, hrest]

@[simp] theorem cutAt_append (before after : List Char) :
    cutAt (before ++ after) (byteLength before) = .ok (before, after) :=
  cutAt_eq_ok.mpr ⟨rfl, rfl⟩

@[simp] theorem textBefore_append (before after : List Char) :
    textBefore (before ++ after) (byteLength before) = .ok before := by
  simp [textBefore, Except.map]

@[simp] theorem textFrom_append (before after : List Char) :
    textFrom (before ++ after) (byteLength before) = .ok after := by
  simp [textFrom, Except.map]

theorem textBetween_append (before middle after : List Char) :
    textBetween (before ++ (middle ++ after)) (byteLength before) (byteLength (before ++ middle)) =
      .ok middle := by
  rw [← List.append_assoc]
  exact bind_eq_ok.mpr ⟨_, textBefore_append _ after, textFrom_append before middle⟩

@[simp] theorem charAt_append (before after : List Char) :
    charAt (before ++ after) (byteLength before) = .ok after.head? := by
  simp [charAt, Except.map]

theorem behindChar_append (before rest : List Char) (c : Char) :
    behindChar (before ++ c :: rest) (byteLength before) = .ok (byteLength (before ++ [c])) :=
  bind_eq_ok.mpr ⟨_, charAt_append before (c :: rest), by simp [pure, Except.pure]⟩

theorem opensWordAt_append (before after : List Char) :
    opensWordAt (before ++ after) (byteLength before) = .ok (opensWord before.getLast?) :=
  bind_eq_ok.mpr ⟨_, textBefore_append before after, rfl⟩

theorem wordEnd_append (before after : List Char) :
    wordEnd (before ++ after) (byteLength before) =
      .ok (byteLength (before ++ leadingWord after)) := by
  refine bind_eq_ok.mpr ⟨_, textFrom_append before after, ?_⟩
  have hword : ∀ c ∈ leadingWord after, isSeparator c = false :=
    fun c hc => isSeparator_of_mem_leadingWord hc
  obtain ⟨rest, hafter, hrest⟩ := exists_leadingWord_append after
  cases rest with
  | nil =>
    rw [List.append_nil] at hafter
    rw [← hafter] at hword ⊢
    rw [offsetOf?_eq_none hword]
    rfl
  | cons d rest =>
    have hoffset := offsetOf?_append hword (hrest d rfl) rest
    rw [← hafter] at hoffset
    simp [hoffset, pure, Except.pure]

theorem keyAt?_append (v : Vocabulary) (before after : List Char) :
    keyAt? (before ++ after) v (byteLength before) = .ok (v.keyBehind? before.getLast? after) := by
  cases after with
  | nil =>
    simp [keyAt?, Vocabulary.keyBehind?, Vocabulary.leadingKey?, leadingWord, pure, Except.pure]
  | cons c rest =>
    have hc := c.utf8Size_pos
    have hle : ¬ byteLength (before ++ c :: rest) ≤ byteLength before := by simp; omega
    rw [keyAt?, if_neg hle]
    refine bind_eq_ok.mpr ⟨_, opensWordAt_append before _, ?_⟩
    cases hopens : opensWord before.getLast? with
    | false => simp [Vocabulary.keyBehind?, hopens, pure, Except.pure]
    | true =>
      obtain ⟨after, hafter, -⟩ := exists_leadingWord_append (c :: rest)
      have hword := textBetween_append before (leadingWord (c :: rest)) after
      rw [← hafter] at hword
      refine bind_eq_ok.mpr ⟨_, wordEnd_append before _, bind_eq_ok.mpr ⟨_, hword, ?_⟩⟩
      simp [Vocabulary.keyBehind?, hopens, Vocabulary.leadingKey?, pure, Except.pure]

/-- The lookup by cuts is the lookup of a key at any byte position, boundary or not. -/
theorem keyAt?_eq_keyAt (v : Vocabulary) (query : String) (position : Nat) :
    keyAt? query.toList v position = v.keyAt query position := by
  unfold Vocabulary.keyAt
  split
  · rename_i hend
    rw [keyAt?, if_pos hend]
    rfl
  · rename_i hend
    split
    · rename_i hcut
      simp [keyAt?, hend, opensWordAt, textBefore, cutAt, hcut, bind, Except.bind, Except.map]
    · rename_i before after hcut
      obtain ⟨hquery, rfl⟩ := splitAtByte?_eq_some.mp hcut
      rw [hquery]
      exact keyAt?_append v before after

theorem keyAt?_behind (v : Vocabulary) (before rest : List Char) (c : Char) :
    keyAt? (before ++ c :: rest) v (byteLength before + c.utf8Size) =
      .ok (v.keyBehind? (some c) rest) := by
  simpa [List.getLast?_append] using keyAt?_append v (before ++ [c]) rest

theorem isOperatorAt_append (v : Vocabulary) (before rest : List Char) (c : Char) :
    isOperatorAt (before ++ c :: rest) v (byteLength before) =
      .ok (decide (c = '-' ∧ (v.keyBehind? (some c) rest).isSome)) := by
  refine bind_eq_ok.mpr ⟨_, textFrom_append before _, ?_⟩
  by_cases hc : c = '-'
  · subst hc
    refine bind_eq_ok.mpr ⟨_, keyAt?_behind v before rest '-', ?_⟩
    simp [pure, Except.pure]
  · simp [hc, pure, Except.pure]

theorem textFrom_behind (before rest : List Char) (c : Char) :
    textFrom (before ++ c :: rest) (byteLength before + c.utf8Size) = .ok rest := by
  simpa using textFrom_append (before ++ [c]) rest

theorem beq_eq_false_of_notMem (h : quote ∉ cs) : ∀ c ∈ cs, (c == quote) = false := by
  intro c hc
  rw [beq_eq_false_iff_ne]
  rintro rfl
  exact h hc

theorem phraseAt_open (before : List Char) (h : quote ∉ rest) :
    phraseAt (before ++ quote :: rest) quote (byteLength before) =
      .ok (.error (.unterminatedPhrase quote)) := by
  refine bind_eq_ok.mpr ⟨_, textFrom_behind before rest quote, ?_⟩
  rw [offsetOf?_eq_none (beq_eq_false_of_notMem h)]
  rfl

theorem phraseAt_append (before after : List Char) {content : List Char} (h : quote ∉ content) :
    phraseAt (before ++ quote :: (content ++ quote :: after)) quote (byteLength before) =
      .ok (.ok (content, byteLength (before ++ (Written.phrase quote content).chars))) := by
  have hcontent := textBetween_append (before ++ [quote]) content (quote :: after)
  simp only [List.append_assoc, List.singleton_append, byteLength_append, byteLength_cons,
    byteLength_nil, Nat.add_zero] at hcontent
  refine bind_eq_ok.mpr ⟨_, textFrom_behind before _ quote, ?_⟩
  rw [offsetOf?_append (beq_eq_false_of_notMem h) (by simp) after]
  refine bind_eq_ok.mpr ⟨content, ?_, ?_⟩
  · simpa [Nat.add_assoc] using hcontent
  · simp [Written.chars, pure, Except.pure]
    omega

theorem wordAt?_append (before after : List Char) :
    wordAt? (before ++ after) (byteLength before) = .ok (
      if opensWord before.getLast? && !(leadingWord after).isEmpty then
        some (leadingWord after, byteLength (before ++ leadingWord after))
      else none) := by
  refine bind_eq_ok.mpr ⟨_, opensWordAt_append before after, ?_⟩
  cases hopens : opensWord before.getLast? with
  | false => simp [pure, Except.pure]
  | true =>
    refine bind_eq_ok.mpr ⟨_, wordEnd_append before after, ?_⟩
    by_cases hnil : leadingWord after = []
    · simp [hnil, pure, Except.pure]
    · have hpos := byteLength_pos hnil
      have hstop : byteLength (before ++ leadingWord after) ≠ byteLength before := by
        rw [byteLength_append]
        omega
      obtain ⟨rest, hafter, -⟩ := exists_leadingWord_append after
      have hword := textBetween_append before (leadingWord after) rest
      rw [← hafter] at hword
      rw [if_neg hstop]
      refine bind_eq_ok.mpr ⟨_, hword, ?_⟩
      simp [hnil, pure, Except.pure]

theorem termAt?_of_quote (before rest : List Char) (hq : isQuote quote = true)
    {reading : Except Fault (List Char × Nat)}
    (h : phraseAt (before ++ quote :: rest) quote (byteLength before) = .ok reading) :
    termAt? (before ++ quote :: rest) (byteLength before) = .ok (some reading) := by
  refine bind_eq_ok.mpr ⟨_, charAt_append before (quote :: rest), ?_⟩
  simp only [List.head?_cons, Option.filter_some, hq, if_true]
  exact bind_eq_ok.mpr ⟨_, h, rfl⟩

theorem termAt?_of_not_quote (before rest : List Char) (hq : isQuote c = false) :
    termAt? (before ++ c :: rest) (byteLength before) = .ok (
      if opensWord before.getLast? && isWordChar c then
        some (.ok (leadingWord (c :: rest), byteLength (before ++ leadingWord (c :: rest))))
      else none) := by
  refine bind_eq_ok.mpr ⟨_, charAt_append before (c :: rest), ?_⟩
  simp only [List.head?_cons, Option.filter_some, hq]
  refine bind_eq_ok.mpr ⟨_, wordAt?_append before (c :: rest), ?_⟩
  have hempty : (leadingWord (c :: rest)).isEmpty = !isWordChar c := by
    cases hc : isWordChar c <;> simp [leadingWord, hc]
  rw [hempty, Bool.not_not]
  split <;> rfl

/-- The cursor at the place of a scanner. -/
def Scanner.toCursor (s : Scanner) : Cursor := ⟨s.position, s.mode, false⟩

/-- What a step of the scanner comes to, for a cursor. -/
def Step.toCursor : Step → CursorStep
  | stop => .stop
  | fail position fault => .fail position fault
  | skip next => .skip next.toCursor
  | emit token next => .emit token next.toCursor

namespace Scanner

theorem toCursor_emit (kind : TokenKind) (text lexeme rest : List Char) (mode mode' : Mode) :
    ((between before cs mode).emit kind text lexeme rest mode').toCursor =
      (between before cs mode).toCursor.emit kind (String.ofList text)
        (byteLength (before ++ lexeme)) mode' := by
  simp [Scanner.emit, Step.toCursor, toCursor, Cursor.emit]

/-- A phrase or a word is read alike. -/
theorem exists_termAt? (before rest : List Char) (c : Char) (kind : TokenKind) (mode : Mode) :
    ∃ term, termAt? (before ++ c :: rest) (byteLength before) = .ok term ∧
      ((between before (c :: rest) mode).term? kind c rest).map Step.toCursor =
        term.map ((between before (c :: rest) mode).toCursor.readTerm kind) := by
  cases hq : isQuote c with
  | false =>
    refine ⟨_, termAt?_of_not_quote before rest hq, ?_⟩
    cases hopens : opensWord before.getLast? && isWordChar c with
    | false => simp [term?, hq, hopens]
    | true =>
      simp only [term?, hq, between_last, hopens, Bool.false_eq_true, if_false, if_true]
      exact congrArg some (toCursor_emit kind _ _ _ mode .scanning)
  | true =>
    rcases exists_phrase_or_notMem c rest with ⟨content, after, he, hn⟩ | hn
    · obtain rfl : rest = content ++ c :: after := by simpa [Written.chars] using he
      refine ⟨_, termAt?_of_quote before _ hq (phraseAt_append before after hn), ?_⟩
      rw [term?, if_pos hq, phrase_eq hn]
      simp [Step.toCursor, toCursor, Cursor.readTerm, Cursor.emit, Written.token, Written.text]
    · refine ⟨_, termAt?_of_quote before rest hq (phraseAt_open before hn), ?_⟩
      simp [term?, hq, phrase_open hn, Cursor.readTerm, Step.toCursor, toCursor]

/-- Passing over characters, one by one. -/
abbrev Skips (v : Vocabulary) : Scanner → Scanner → Prop :=
  Relation.ReflTransGen fun s n => s.step v = .skip n

/-- A step of a cursor at the place of a scanner does what the scanner does there, and may go on as
long as the scanner only passes over characters. -/
inductive Follows (v : Vocabulary) (s : Scanner) : CursorStep → Prop
  | stop (here : s.step v = .stop) : Follows v s .stop
  | fail {position : Nat} {fault : Fault} (here : s.step v = .fail position fault) :
      Follows v s (.fail position fault)
  | skip {n m : Scanner} (here : s.step v = .skip n) (more : Skips v n m) :
      Follows v s (.skip m.toCursor)
  | emit {t : Token} {n : Scanner} (here : s.step v = .emit t n) : Follows v s (.emit t n.toCursor)

/-- What is passed over at once is passed over by the scanner one by one. -/
theorem exists_skips {passes : Nat → Char → Except OffBoundary Bool} {mode : Mode}
    (hpasses : ∀ before c rest, cs = before ++ c :: rest →
      ∃ pass, passes (byteLength before) c = .ok pass ∧
        (pass = true → (between before (c :: rest) mode).step v =
          .skip (between (before ++ [c]) rest mode)))
    (hcs : cs = before ++ after) :
    ∃ n, Skips v (between before after mode) n ∧ n.mode = mode ∧
      passWhile cs passes (byteLength before) = .ok n.position := by
  have hchar : charAt cs (byteLength before) = .ok after.head? := by
    rw [hcs]
    exact charAt_append before after
  induction after generalizing before with
  | nil => exact ⟨_, .refl, rfl, passWhile_end hchar⟩
  | cons c rest ih =>
    obtain ⟨pass, hpass, hstep⟩ := hpasses before c rest hcs
    cases pass with
    | false => exact ⟨_, .refl, rfl, passWhile_stop hchar hpass⟩
    | true =>
      have hcs' : cs = (before ++ [c]) ++ rest := by simpa using hcs
      obtain ⟨n, hskips, hmode, hn⟩ := ih hcs' (by rw [hcs', charAt_append])
      refine ⟨n, .head (hstep rfl) hskips, hmode, ?_⟩
      rw [passWhile_go hchar hpass, ← hn]
      simp

theorem step_blank (hc : isBlank c = true) :
    (between before (c :: rest) .scanning).step v =
      .skip (between (before ++ [c]) rest .scanning) := by
  simp [step, scan, skip, hc]

theorem exists_passBlanks (v : Vocabulary) (before rest : List Char) (hc : isBlank c = true) :
    ∃ n, Skips v (between (before ++ [c]) rest .scanning) n ∧ n.mode = .scanning ∧
      passBlanks (before ++ c :: rest) (byteLength before) = .ok n.position := by
  have hcs : before ++ c :: rest = (before ++ [c]) ++ rest := by simp
  have hplace : byteLength before + c.utf8Size = byteLength (before ++ [c]) := by simp
  rw [passBlanks, passWhile_go (charAt_append before (c :: rest)) (by rw [hc]), hcs, hplace]
  refine exists_skips ?_ rfl
  intro before c rest _
  exact ⟨_, rfl, step_blank⟩

theorem exists_passPunctuation (v : Vocabulary) (before rest : List Char) (c : Char) :
    ∃ n, Skips v (between (before ++ [c]) rest .scanning) n ∧ n.mode = .scanning ∧
      passPunctuation (before ++ c :: rest) v (byteLength before) = .ok n.position := by
  have hcs : before ++ c :: rest = (before ++ [c]) ++ rest := by simp
  rw [passPunctuation, behindChar_append, hcs]
  refine exists_skips ?_ rfl
  intro before c rest hsplit
  rw [hsplit]
  cases hleft : isBlank c || isQuote c || !isSeparator c with
  | true => exact ⟨false, rfl, nofun⟩
  | false =>
    rw [isOperatorAt_append]
    refine ⟨_, rfl, ?_⟩
    simp only [Bool.or_eq_false_iff, Bool.not_eq_false'] at hleft
    intro hop
    exact step_separator hleft.2 hleft.1.2 (by simpa [imp_iff_not_or] using hop)

theorem follows_same {s : Scanner} {step : Step} (h : s.step v = step)
    (noSkip : ∀ n, step ≠ .skip n) : Follows v s step.toCursor := by
  cases step with
  | stop => exact .stop h
  | fail position fault => exact .fail h
  | skip n => exact (noSkip n rfl).elim
  | emit t n => exact .emit h

theorem toCursor_eq {n : Scanner} {mode : Mode} (h : n.mode = mode) :
    (⟨n.position, mode, false⟩ : Cursor) = n.toCursor := by
  rw [← h, toCursor]

theorem follows_emit {kind : TokenKind} {text lexeme : List Char} {mode mode' : Mode}
    (h : (between before cs mode).step v =
      (between before cs mode).emit kind text lexeme rest mode') :
    Follows v (between before cs mode) ((between before cs mode).toCursor.emit kind
      (String.ofList text) (byteLength (before ++ lexeme)) mode') := by
  rw [← toCursor_emit]
  exact follows_same h nofun

theorem follows_readTerm {s : Scanner} {kind : TokenKind} {step : Step}
    {term : Except Fault (List Char × Nat)} (hsame : s.toCursor.readTerm kind term = step.toCursor)
    (h : s.step v = step) : Follows v s (s.toCursor.readTerm kind term) := by
  rw [hsame]
  refine follows_same h ?_
  rintro n rfl
  exact Cursor.readTerm_ne_skip term hsame

/-- Between items a cursor does what the scanner does. -/
theorem follows_scan (v : Vocabulary) (before after : List Char) :
    ∃ step, (between before after .scanning).toCursor.scan v (before ++ after) = .ok step ∧
      Follows v (between before after .scanning) step := by
  cases after with
  | nil =>
    have hchar := charAt_append before []
    exact ⟨_, bind_eq_ok.mpr ⟨_, hchar, rfl⟩, .stop rfl⟩
  | cons c rest =>
    obtain ⟨term, hterm, hsame⟩ := exists_termAt? before rest c .fulltext .scanning
    have hrules : (between before (c :: rest) .scanning).step v =
        (between before (c :: rest) .scanning).scan v := rfl
    simp only [scan, between_rest, between_last] at hrules
    simp only [Cursor.scan, toCursor, between_position, charAt_append, List.head?_cons,
      isOperatorAt_append, keyAt?_append, hterm, bind, Except.bind, pure, Except.pure]
    by_cases hblank : isBlank c = true
    · obtain ⟨n, hskips, hmode, hn⟩ := exists_passBlanks v before rest hblank
      simp only [hblank, if_true, hn]
      refine ⟨_, rfl, ?_⟩
      rw [between_mode, toCursor_eq hmode]
      exact .skip (step_blank hblank) hskips
    · rw [if_neg hblank] at hrules ⊢
      by_cases hop : c = '-' ∧ (v.keyBehind? (some c) rest).isSome
      · rw [if_pos hop] at hrules
        rw [if_pos (decide_eq_true hop)]
        obtain ⟨rfl, -⟩ := hop
        have hfollows := follows_emit hrules
        rw [byteLength_append] at hfollows
        exact ⟨_, rfl, hfollows⟩
      · rw [if_neg hop] at hrules
        rw [if_neg (by simpa using hop)]
        cases hkey : v.keyBehind? before.getLast? (c :: rest) with
        | some key =>
          simp only [hkey] at hrules ⊢
          refine ⟨_, rfl, ?_⟩
          obtain rfl := leadingWord_eq_of_keyBehind hkey
          simpa [toCursor] using follows_emit hrules
        | none =>
          simp only [hkey] at hrules ⊢
          cases hscan : (between before (c :: rest) .scanning).term? .fulltext c rest with
          | some step =>
            rw [hscan] at hsame hrules
            obtain ⟨term, rfl, hread⟩ := Option.map_eq_some_iff.mp hsame.symm
            exact ⟨_, rfl, follows_readTerm hread hrules⟩
          | none =>
            rw [hscan] at hsame hrules
            obtain rfl := Option.map_eq_none_iff.mp hsame.symm
            dsimp only at hrules
            by_cases hs : isSeparator c = true
            · rw [if_pos hs] at hrules ⊢
              obtain ⟨n, hskips, hmode, hn⟩ := exists_passPunctuation v before rest c
              simp only [hn]
              refine ⟨_, rfl, ?_⟩
              rw [between_mode, toCursor_eq hmode]
              exact .skip (by simpa [skip] using hrules) hskips
            · rw [if_neg hs] at hrules ⊢
              exact ⟨_, rfl, .fail hrules⟩

/-- Behind a key a cursor does what the scanner does. -/
theorem follows_pair (v : Vocabulary) (before after : List Char) (key : String) :
    ∃ step,
      (between before after (.pairing key)).toCursor.pair (before ++ after) key = .ok step ∧
      Follows v (between before after (.pairing key)) step := by
  cases after with
  | nil =>
    have hchar := charAt_append before []
    exact ⟨_, bind_eq_ok.mpr ⟨_, hchar, rfl⟩, .fail rfl⟩
  | cons c rest =>
    obtain ⟨term, hterm, hsame⟩ := exists_termAt? before rest c .value (.pairing key)
    have hrules : (between before (c :: rest) (.pairing key)).step v =
        (between before (c :: rest) (.pairing key)).pair key := rfl
    simp only [pair, between_rest] at hrules
    simp only [Cursor.pair, toCursor, between_position, charAt_append, List.head?_cons,
      behindChar_append, hterm, bind, Except.bind, pure, Except.pure]
    by_cases hcolon : c = ':'
    · obtain rfl := hcolon
      rw [if_pos rfl]
      exact ⟨_, rfl, .skip (step_colon key) .refl⟩
    · rw [if_neg hcolon] at hrules ⊢
      cases hvalue : (between before (c :: rest) (.pairing key)).term? .value c rest with
      | some step =>
        rw [hvalue] at hsame hrules
        obtain ⟨term, rfl, hread⟩ := Option.map_eq_some_iff.mp hsame.symm
        exact ⟨_, rfl, follows_readTerm hread hrules⟩
      | none =>
        rw [hvalue] at hsame hrules
        obtain rfl := Option.map_eq_none_iff.mp hsame.symm
        exact ⟨_, rfl, .fail hrules⟩

variable {s n : Scanner}

theorem follows_step (h : s.In query) :
    ∃ step, s.toCursor.step v query.toList = .ok step ∧ Follows v s step := by
  obtain ⟨before, hquery, hs⟩ := h
  rw [hquery, hs]
  cases s.mode with
  | scanning => exact follows_scan v before s.rest
  | pairing key => exact follows_pair v before s.rest key

end Scanner

end FacetQuery

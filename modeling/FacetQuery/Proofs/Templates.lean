import FacetQuery.Config.Load
import FacetQuery.Config.Template
import FacetQuery.Proofs.TomlRoundTrip

/-!
Commented texts. A text in which every line is empty or a comment sets nothing, and so does any
text of lines once they are made comments. Lines that are comments already stay as they are.
-/
namespace FacetQuery

open Toml

variable {line rest cs : List Char} {ls : List (List Char)} {s t text : String}

/-- A line without meaning: an empty one, or one that is a comment. -/
inductive SaysNothing : List Char → Prop where
  | empty : SaysNothing []
  | comment {more : List Char} (text : ∀ c ∈ more, isTextChar c = true) : SaysNothing ('#' :: more)

theorem saysNothing_commentLine (h : ∀ c ∈ line, isTextChar c = true) :
    SaysNothing (commentLine line) := by
  cases line with
  | nil => exact .empty
  | cons c more =>
    rw [commentLine]
    split
    · rename_i hc
      rw [hc]
      exact .comment fun d hd => h d (by simp [hd])
    · refine .comment ?_
      intro d hd
      rcases List.mem_cons.mp hd with rfl | hd
      · rfl
      · exact h d hd

theorem SaysNothing.endLine_eq (h : SaysNothing line) (rest : List Char) :
    endLine (line ++ '\n' :: rest) = some rest := by
  cases h with
  | empty => rfl
  | @comment more htext =>
    have hend : (more ++ '\n' :: rest).dropWhile isTextChar = '\n' :: rest := by
      rw [List.dropWhile_append_of_pos htext]
      rfl
    rw [endLine, List.cons_append, skipSpaces_cons (by rfl), skipComment, hend]
    rfl

/-- Lines without meaning hold no statements. -/
theorem statements_saysNothing (h : ∀ line ∈ ls, SaysNothing line) :
    statements (ls.flatMap fun line => line ++ ['\n']) = some [] := by
  induction ls with
  | nil => exact statements_nil
  | cons line ls ih =>
    have hrest := ih fun other hother => h other (by simp [hother])
    have hend := (h line (by simp)).endLine_eq (ls.flatMap fun line => line ++ ['\n'])
    rw [List.flatMap_cons, List.append_assoc, List.singleton_append]
    refine statements_cons (s := none) ?_ ?_ hrest
    · rw [Toml.line, hend]
    · simp only [List.length_append, List.length_cons]
      omega

theorem dropByteOrderMark_saysNothing (h : ∀ line ∈ ls, SaysNothing line) :
    dropByteOrderMark (ls.flatMap fun line => line ++ ['\n']) =
      ls.flatMap fun line => line ++ ['\n'] := by
  cases ls with
  | nil => rfl
  | cons line ls =>
    cases h line (by simp) <;> rfl

/-- Characters that comments may hold, in lines that end in one of the two ways. -/
def isLined : List Char → Bool
  | [] => true
  | '\n' :: rest => isLined rest
  | '\r' :: '\n' :: rest => isLined rest
  | c :: rest => isTextChar c && isLined rest

theorem isTextChar_of_mem_lines (h : isLined cs = true) :
    ∀ line ∈ lines cs, ∀ c ∈ line, isTextChar c = true := by
  fun_induction isLined cs with
  | case1 => simp [lines]
  | case2 rest ih => simpa [lines] using ih h
  | case3 rest ih => simpa [lines] using ih h
  | case4 c rest hn hr ih =>
    rw [Bool.and_eq_true] at h
    have hrest := ih h.2
    rw [lines]
    · split
      · simpa using h.1
      · rename_i line more hlines
        simp only [hlines, List.mem_cons, forall_eq_or_imp] at hrest ⊢
        exact ⟨⟨h.1, hrest.1⟩, hrest.2⟩
    · exact hn
    · exact hr

theorem isLined_append {xs ys : List Char} (hx : isLined xs = true) (hy : isLined ys = true) :
    isLined (xs ++ ys) = true := by
  fun_induction isLined xs with
  | case1 => exact hy
  | case2 rest ih => exact ih hx
  | case3 rest ih => exact ih hx
  | case4 c rest hn hr ih =>
    rw [Bool.and_eq_true] at hx
    have hcr : c ≠ '\r' := by
      rintro rfl
      exact absurd hx.1 (by decide)
    rw [List.cons_append, isLined]
    · simp [hx.1, ih hx.2]
    · exact hn
    · intro more he
      exact (hcr he).elim

/-- A text in which the only control characters are tabs and those that end lines. -/
def OnlyTabsAndLineEnds (cs : List Char) : Prop :=
  ∀ before c after, cs = before ++ c :: after → isControl c = true →
    c = '\t' ∨ c = '\n' ∨ c = '\r' ∧ after.head? = some '\n'

theorem OnlyTabsAndLineEnds.tail {c : Char} (h : OnlyTabsAndLineEnds (c :: cs)) :
    OnlyTabsAndLineEnds cs := by
  rintro before d after rfl hd
  exact h (c :: before) d after rfl hd

theorem OnlyTabsAndLineEnds.cons {c : Char} (h : OnlyTabsAndLineEnds cs)
    (hc : isControl c = true → c = '\t' ∨ c = '\n' ∨ c = '\r' ∧ cs.head? = some '\n') :
    OnlyTabsAndLineEnds (c :: cs) := by
  intro before d after he hd
  cases before with
  | nil =>
    obtain ⟨rfl, rfl⟩ := List.cons.inj he
    exact hc hd
  | cons b before =>
    obtain ⟨rfl, rfl⟩ := List.cons.inj he
    exact h before d after rfl hd

theorem isLined_iff : isLined cs = true ↔ OnlyTabsAndLineEnds cs := by
  fun_induction isLined cs with
  | case1 => simp [OnlyTabsAndLineEnds]
  | case2 rest ih =>
    rw [ih]
    exact ⟨fun h => h.cons fun _ => by simp, fun h => h.tail⟩
  | case3 rest ih =>
    rw [ih]
    exact ⟨fun h => (h.cons fun _ => by simp).cons fun _ => by simp, fun h => h.tail.tail⟩
  | case4 c rest hn hr ih =>
    rw [Bool.and_eq_true, ih]
    constructor
    · rintro ⟨hc, hrest⟩
      refine hrest.cons ?_
      intro hcontrol
      left
      simpa [isTextChar, hcontrol] using hc
    · intro h
      refine ⟨?_, h.tail⟩
      by_cases hcontrol : isControl c = true
      · rcases h [] c rest rfl hcontrol with rfl | hfeed | ⟨hreturn, hnext⟩
        · rfl
        · exact (hn hfeed).elim
        · obtain ⟨more, rfl⟩ := List.head?_eq_some_iff.mp hnext
          exact (hr more hreturn rfl).elim
      · simp [isTextChar, hcontrol]

instance : Decidable (OnlyTabsAndLineEnds cs) := decidable_of_iff _ isLined_iff

theorem toList_commentedOut (text : String) : (commentedOut text).toList =
    ((lines text.toList).map commentLine).flatMap fun line => line ++ ['\n'] := by
  simp [commentedOut, List.flatMap_map]

theorem saysNothing_of_isLined (h : isLined cs = true) :
    ∀ line ∈ (lines cs).map commentLine, SaysNothing line := by
  intro line hline
  obtain ⟨old, hold, rfl⟩ := List.mem_map.mp hline
  exact saysNothing_commentLine (isTextChar_of_mem_lines h old hold)

/-- A text with all its lines made comments sets nothing, whatever they said. -/
theorem read_commentedOut (h : isLined text.toList = true) :
    Settings.read (commentedOut text) = .ok ⟨none, none⟩ := by
  have hnothing := saysNothing_of_isLined h
  have hdocument : readDocument (commentedOut text) = some [] := by
    rw [readDocument, toList_commentedOut, dropByteOrderMark_saysNothing hnothing,
      statements_saysNothing hnothing]
    rfl
  rw [Settings.read, hdocument]
  rfl

theorem commentLine_commentLine (line : List Char) :
    commentLine (commentLine line) = commentLine line := by
  cases line with
  | nil => rfl
  | cons c more =>
    by_cases hc : c = '#'
    · simp [commentLine, hc]
    · simp [commentLine, hc]

theorem SaysNothing.isTextChar (h : SaysNothing line) : ∀ c ∈ line, isTextChar c = true := by
  cases h with
  | empty => simp
  | comment htext =>
    intro c hc
    rcases List.mem_cons.mp hc with rfl | hc
    · rfl
    · exact htext c hc

/-- Lines without meaning are read back as they are, since they hold nothing of a line end. -/
theorem lines_saysNothing (h : ∀ line ∈ ls, SaysNothing line) :
    lines (ls.flatMap fun line => line ++ ['\n']) = ls := by
  induction ls with
  | nil => rfl
  | cons line ls ih =>
    have hrest := ih fun other hother => h other (by simp [hother])
    have htext := (h line (by simp)).isTextChar
    have hfeed : '\n' ∉ line := fun hmem => absurd (htext _ hmem) (by decide)
    have hreturn : line.getLast? ≠ some '\r' := fun hlast =>
      absurd (htext _ (List.mem_of_getLast? hlast)) (by decide)
    rw [List.flatMap_cons, List.append_assoc, List.singleton_append,
      lines_append_feed hfeed hreturn, hrest]

theorem commentedOut_commentedOut (h : isLined text.toList = true) :
    commentedOut (commentedOut text) = commentedOut text := by
  apply String.toList_inj.mp
  rw [toList_commentedOut, toList_commentedOut, lines_saysNothing (saysNothing_of_isLined h),
    List.map_map]
  have hlines : commentLine ∘ commentLine = commentLine := funext commentLine_commentLine
  rw [hlines]

/-- A text made a comment is a configuration that sets nothing, whatever the text says and whether
it is a configuration itself, and making it a comment once more changes nothing. -/
theorem commentedOut_inert (h : OnlyTabsAndLineEnds text.toList) :
    (∀ path, readSettings path (commentedOut text) = .ok ⟨none, none⟩) ∧
      commentedOut (commentedOut text) = commentedOut text := by
  have hlined := isLined_iff.mpr h
  refine ⟨?_, commentedOut_commentedOut hlined⟩
  intro path
  rw [readSettings, read_commentedOut hlined]

/-- A root file with a byte order mark, in which a string is not closed. -/
def unclosedRoot : String := "\ufeffroot = true\r\n\tquery.keywords = \"\"\"\n# a\n\nb"

theorem commentedOut_inert_unclosed :
    OnlyTabsAndLineEnds unclosedRoot.toList ∧ Settings.read unclosedRoot = .error ⟨unclosedRoot⟩ ∧
    commentedOut unclosedRoot =
      "# \ufeffroot = true\n# \tquery.keywords = \"\"\"\n# a\n\n# b\n" ∧
    (∀ path, readSettings path (commentedOut unclosedRoot) = .ok ⟨none, none⟩) ∧
    commentedOut (commentedOut unclosedRoot) = commentedOut unclosedRoot := by
  have hplain : OnlyTabsAndLineEnds unclosedRoot.toList := by decide +kernel
  exact ⟨hplain, by decide +kernel, by decide +kernel, commentedOut_inert hplain⟩

theorem isLined_text_append (hs : isLined s.toList = true) (ht : isLined t.toList = true) :
    isLined (s ++ t).toList = true := by
  rw [String.toList_append]
  exact isLined_append hs ht

theorem isLined_ofList (h : isLined cs = true) : isLined (String.ofList cs).toList = true := by
  rwa [String.toList_ofList]

/-- The examples are checked line by line, since texts are slow to compute with. -/
theorem isLined_localExample : isLined localExample.toList = true := by
  iterate 11 refine isLined_text_append ?_ (isLined_ofList (by decide))
  exact isLined_ofList (by decide)

theorem isLined_globalExample : isLined globalExample.toList = true := by
  iterate 6 refine isLined_text_append ?_ (isLined_ofList (by decide))
  exact isLined_ofList (by decide)

theorem read_localTemplate : Settings.read localTemplate = .ok ⟨none, none⟩ :=
  read_commentedOut isLined_localExample

theorem read_globalTemplate : Settings.read globalTemplate = .ok ⟨none, none⟩ :=
  read_commentedOut isLined_globalExample

end FacetQuery

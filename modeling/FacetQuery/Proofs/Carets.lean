import FacetQuery.Proofs.Parsing

/-!
The caret of an error. Positions count bytes and the caret counts characters, so that it stands
below the character that the error is about. A position that is no boundary of the query does no
harm.
-/
namespace FacetQuery

open QueryError

/-- The character of a query that a fault is about, by its number counted from 0. A quote is not
closed behind it, or a separator stands in place of a value; a value that is missing at the end has
the number of all characters. -/
inductive PointedAt (query : List Char) (number : Nat) : Fault → Prop where
  | unclosed {quote : Char} (quoted : isQuote quote = true) (here : query[number]? = some quote)
      (never : quote ∉ query.drop (number + 1)) :
      PointedAt query number (.unterminatedPhrase quote)
  | separator {key : String} {c : Char} (here : query[number]? = some c)
      (separates : isSeparator c = true) (stuck : c ≠ ':' ∧ isQuote c = false) :
      PointedAt query number (.expectedValue key)
  | ended {key : String} (here : number = query.length) :
      PointedAt query number (.expectedValue key)

/-- The text of an error with the query and a caret below the character of a number. -/
def captioned (e : QueryError) (query : String) (number : Nat) : String :=
  e.fault.area ++ ": " ++ e.message ++ "\n" ++ ("  " ++ query ++ "\n") ++
    ("  " ++ spaces number ++ "^\n") ++ e.hint

/-- The text of an error of a query: a headline of one line, the query, the caret below the
character behind the part `before` that the position is the end of, and a hint. -/
def CaretBelow (query : String) (e : QueryError) : Prop :=
  ∃ before after hint, query.toList = before ++ after ∧ e.position = some (byteLength before) ∧
    e.fault.suggestion = some hint ∧ '\n' ∉ e.message.toList ∧
    e.render = "query syntax error: " ++ e.message ++ "\n" ++ ("  " ++ query ++ "\n") ++
      ("  " ++ spaces before.length ++ "^\n") ++ ("hint: " ++ hint) ∧
    PointedAt query.toList before.length e.fault

/-- The part of a query that is counted for a position: it ends there or, for a position behind the
end or inside a character, with the query. -/
def CountedTo (query before : List Char) (position : Nat) : Prop :=
  ∃ after, query = before ++ after ∧
    (byteLength before = min position (byteLength query) ∨
      after = [] ∧ ∀ left right, query = left ++ right → byteLength left ≠ position)

variable {v : Vocabulary} {query : String} {before after : List Char} {fault : Fault}
  {e : QueryError}

theorem min_byteLength_append (before after : List Char) :
    min (byteLength before) (byteLength (before ++ after)) = byteLength before := by
  rw [byteLength_append]
  omega

theorem column_byteLength (before after : List Char) :
    column (before ++ after) (byteLength before) = before.length := by
  rw [column, min_byteLength_append, splitAtByte?_byteLength]

/-- Every column counts a beginning of the query. -/
theorem exists_column (query : List Char) (position : Nat) :
    ∃ before, column query position = before.length ∧ CountedTo query before position := by
  unfold column
  split
  · rename_i before after hcut
    obtain ⟨hquery, hlength⟩ := splitAtByte?_eq_some.mp hcut
    exact ⟨before, rfl, after, hquery, Or.inl hlength.symm⟩
  · rename_i hcut
    refine ⟨query, rfl, [], by simp, Or.inr ⟨rfl, ?_⟩⟩
    rintro left right rfl rfl
    rw [min_byteLength_append, splitAtByte?_byteLength] at hcut
    cases hcut

theorem render_eq_captioned {position : Nat} (hq : e.query = some query)
    (hp : e.position = some position) :
    e.render = captioned e query (column query.toList position) := by
  simp only [render, excerpt, hq, hp, caretLine, captioned, String.append_assoc]

theorem FaultAt.pointedAt (h : FaultAt v before after fault) :
    PointedAt (before ++ after) before.length fault := by
  cases h with
  | unclosed quoted here never =>
    subst here
    exact .unclosed quoted (by simp) (by simpa using never)
  | valueless _ _ stuck =>
    cases after with
    | nil => exact .ended (by simp)
    | cons c after =>
      obtain ⟨hs, hstuck⟩ := stuck c (by simp)
      exact .separator (by simp) hs hstuck

theorem FaultAt.newline_notMem (h : FaultAt v before after fault) :
    '\n' ∉ fault.message.toList := by
  cases h with
  | @unclosed quote rest quoted here never =>
    have hmessage : (Fault.unterminatedPhrase quote).message =
        "unterminated quoted phrase (missing closing " ++ String.singleton quote ++ ")" := rfl
    have hquote : '\n' ≠ quote := by
      rintro rfl
      exact absurd quoted (by decide)
    simp [hmessage, hquote]
  | @valueless front key n _ whole _ =>
    have hmessage : (Fault.expectedValue (String.ofList key)).message =
        "expected ':' and a value after key '" ++ String.ofList key ++ "'" := rfl
    have hkey : '\n' ∉ key := by
      intro hmem
      exact absurd (whole.wordChars _ hmem) (by decide)
    simp [hmessage, hkey]

/-- The headline of an error of a query is one line, and a hint is given. -/
theorem FaultAt.headline (h : FaultAt v before after fault) :
    fault.area = "query syntax error" ∧ '\n' ∉ fault.message.toList ∧
      ∃ hint, fault.suggestion = some hint := by
  refine ⟨?_, h.newline_notMem, ?_⟩
  · cases h <;> rfl
  · cases h with
    | @unclosed quote _ _ _ _ =>
      by_cases hquote : quote = '"'
      · exact ⟨_, if_pos hquote⟩
      · exact ⟨_, if_neg hquote⟩
    | valueless _ _ _ => exact ⟨_, rfl⟩

theorem caretBelow_of_parse (h : v.parse query = .error e) : CaretBelow query e := by
  obtain ⟨ps, f, hquery, -, hf, rfl⟩ := exists_flaw_of_parse h
  have hcut : query.toList = spelled ps ++ f.lead ++ f.tail := by simp [hquery, Flaw.chars]
  obtain ⟨harea, hline, hint, hsuggestion⟩ := hf.faultAt.headline
  refine ⟨spelled ps ++ f.lead, f.tail, hint, hcut, rfl, hsuggestion, hline, ?_, ?_⟩
  · rw [render_eq_captioned rfl rfl, hcut, column_byteLength]
    have hhint : (QueryError.mk f.fault (some (byteLength (spelled ps ++ f.lead)))
        (some query)).hint = "hint: " ++ hint := by
      simp only [QueryError.hint, QueryError.suggestion, hsuggestion]
    have hlead : "query syntax error: " = "query syntax error" ++ ": " := rfl
    rw [captioned, harea, hhint, hlead]
  · rw [hcut]
    exact hf.faultAt.pointedAt

/-- The caret of an error of a query stands below the character that the error is about. With any
query and any position, an error is rendered with a caret below a character of the query or right
behind its end. -/
theorem caret_below_fault :
    (∀ (v : Vocabulary) (query : String) (e : QueryError), v.parse query = .error e →
      CaretBelow query e) ∧
    ∀ (e : QueryError) (query : String) (position : Nat), e.query = some query →
      e.position = some position →
      ∃ before, CountedTo query.toList before position ∧
        e.render = captioned e query before.length ∧ before.length ≤ query.toList.length := by
  refine ⟨fun v query e => caretBelow_of_parse, ?_⟩
  intro e query position hq hp
  obtain ⟨before, hcolumn, hcounted⟩ := exists_column query.toList position
  refine ⟨before, hcounted, ?_, ?_⟩
  · rw [render_eq_captioned hq hp, hcolumn]
  · obtain ⟨after, hsplit, -⟩ := hcounted
    simp [hsplit]

/-- The blank in place of a value is the sixth character and the seventh byte. A position inside the
only character of a query is taken for its end. -/
theorem caret_below_fault_accented :
    (Vocabulary.ofValid ["état"]).parse "état: x" =
      .error ⟨.expectedValue "état", some 6, some "état: x"⟩ ∧
    CaretBelow "état: x" ⟨.expectedValue "état", some 6, some "état: x"⟩ ∧
    (QueryError.mk (.expectedValue "état") (some 6) (some "état: x")).render =
      "query syntax error: expected ':' and a value after key 'état'\n  état: x\n       ^\n" ++
      "hint: Write the value right after the colon, e.g. 'status:open' or 'status:\"in review\"'" ∧
    (∃ before, CountedTo "é".toList before 1 ∧
      (QueryError.mk .unpairedValue (some 1) (some "é")).render =
        captioned ⟨.unpairedValue, some 1, some "é"⟩ "é" before.length ∧
      before.length ≤ "é".toList.length) ∧
    (QueryError.mk .unpairedValue (some 1) (some "é")).render =
      "internal query error: value without a preceding key\n  é\n   ^\n" := by
  have hparse : (Vocabulary.ofValid ["état"]).parse "état: x" =
      .error ⟨.expectedValue "état", some 6, some "état: x"⟩ := by decide +kernel
  refine ⟨hparse, caret_below_fault.1 _ _ _ hparse, by decide +kernel, ?_, by decide +kernel⟩
  exact caret_below_fault.2 _ "é" 1 rfl rfl

end FacetQuery

/-! Lines of text. A line ends at a line feed, and a carriage return just before it belongs to
the end of the line; text after the last line feed is a line if there is any. -/
namespace FacetQuery

/-- The lines of a text, without their ends. -/
def lines : List Char → List (List Char)
  | [] => []
  | '\n' :: rest => [] :: lines rest
  | '\r' :: '\n' :: rest => [] :: lines rest
  | c :: rest =>
    match lines rest with
    | [] => [[c]]
    | line :: more => (c :: line) :: more

def textLines (text : String) : List String := (lines text.toList).map String.ofList

variable {c : Char} {line rest : List Char}

/-- A character that belongs to no line end belongs to the first line. -/
theorem lines_cons (hc : c ≠ '\n') (hr : c = '\r' → rest.head? ≠ some '\n') :
    lines (c :: rest) =
      match lines rest with
      | [] => [[c]]
      | line :: more => (c :: line) :: more := by
  rw [lines]
  · exact hc
  · rintro more hcr rfl
    exact hr hcr rfl

/-- A line feed ends a line as it is, unless a carriage return stands before it. -/
theorem lines_append_feed (h : '\n' ∉ line) (hr : line.getLast? ≠ some '\r') :
    lines (line ++ '\n' :: rest) = line :: lines rest := by
  induction line with
  | nil => rfl
  | cons c line ih =>
    rw [List.mem_cons, not_or] at h
    cases line with
    | nil =>
      have hc : c ≠ '\r' := by simpa using hr
      rw [List.cons_append, lines_cons (Ne.symm h.1) (fun hcr => absurd hcr hc)]
      rfl
    | cons d line =>
      have hd : d ≠ '\n' := fun he => h.2 (by simp [he])
      rw [List.cons_append, lines_cons (Ne.symm h.1) (by simpa using fun _ => hd),
        ih h.2 (by simpa using hr)]

/-- A carriage return and a line feed end every line as it is. -/
theorem lines_append_return (h : '\n' ∉ line) :
    lines (line ++ '\r' :: '\n' :: rest) = line :: lines rest := by
  induction line with
  | nil => rfl
  | cons c line ih =>
    rw [List.mem_cons, not_or] at h
    have hnext : (line ++ '\r' :: '\n' :: rest).head? ≠ some '\n' := by
      cases line with
      | nil => simp
      | cons d line => simpa using fun he => h.2 (by simp [he])
    rw [List.cons_append, lines_cons (Ne.symm h.1) (fun _ => hnext), ih h.2]

/-- What stands behind the last line end is a line if it is not empty. -/
theorem lines_last (h : '\n' ∉ line) (hn : line ≠ []) : lines line = [line] := by
  induction line with
  | nil => exact (hn rfl).elim
  | cons c line ih =>
    rw [List.mem_cons, not_or] at h
    cases line with
    | nil =>
      rw [lines_cons (Ne.symm h.1) (by simp)]
      rfl
    | cons d line =>
      have hd : d ≠ '\n' := fun he => h.2 (by simp [he])
      rw [lines_cons (Ne.symm h.1) (by simpa using fun _ => hd), ih h.2 (by simp)]

end FacetQuery

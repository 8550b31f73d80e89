/-!
Byte offsets into text. Positions that users see count bytes of the UTF-8 form, while the text
itself is worked on as a list of characters; `byteLength` ties the two.
-/
namespace FacetQuery

/-- The number of bytes of the UTF-8 form. -/
def byteLength : List Char → Nat
  | [] => 0
  | c :: cs => c.utf8Size + byteLength cs

@[simp] theorem byteLength_nil : byteLength [] = 0 := rfl

@[simp] theorem byteLength_cons (c : Char) (cs : List Char) :
    byteLength (c :: cs) = c.utf8Size + byteLength cs := rfl

@[simp] theorem byteLength_append (xs ys : List Char) :
    byteLength (xs ++ ys) = byteLength xs + byteLength ys := by
  induction xs with
  | nil => simp
  | cons c xs ih => simp [ih, Nat.add_assoc]

theorem byteLength_pos {cs : List Char} (h : cs ≠ []) : 0 < byteLength cs := by
  obtain ⟨c, cs, rfl⟩ := List.exists_cons_of_ne_nil h
  have hc := c.utf8Size_pos
  rw [byteLength_cons]
  omega

/-- Cuts off the shortest beginning that has at least `n` bytes. -/
def splitBytes (n : Nat) : List Char → List Char × List Char
  | [] => ([], [])
  | c :: cs =>
    if n = 0 then ([], c :: cs)
    else
      let (before, after) := splitBytes (n - c.utf8Size) cs
      (c :: before, after)

/-- Cuts at byte `n`, if `n` is a boundary between characters or an end. -/
def splitAtByte? (n : Nat) (cs : List Char) : Option (List Char × List Char) :=
  let parts := splitBytes n cs
  if byteLength parts.1 = n then some parts else none

/-- What stands between two cuts, the second of which counts from the beginning too. -/
def byteSlice (start stop : Nat) (cs : List Char) : List Char :=
  (splitBytes start (splitBytes stop cs).1).2

/-- No character is lost by a cut. -/
theorem splitBytes_append (n : Nat) (cs : List Char) :
    (splitBytes n cs).1 ++ (splitBytes n cs).2 = cs := by
  induction cs generalizing n with
  | nil => rfl
  | cons c cs ih =>
    rw [splitBytes]
    split
    · rfl
    · simp [ih]

theorem splitBytes_byteLength (before after : List Char) :
    splitBytes (byteLength before) (before ++ after) = (before, after) := by
  induction before with
  | nil => cases after <;> simp [splitBytes]
  | cons c before ih =>
    have hc := c.utf8Size_pos
    have hn : c.utf8Size + byteLength before ≠ 0 := by omega
    have hsub : c.utf8Size + byteLength before - c.utf8Size = byteLength before := by omega
    simp only [byteLength_cons, List.cons_append, splitBytes, hn, if_false, hsub, ih]

/-- The byte length of a beginning is a place to cut at. -/
theorem splitAtByte?_byteLength (before after : List Char) :
    splitAtByte? (byteLength before) (before ++ after) = some (before, after) := by
  simp [splitAtByte?, splitBytes_byteLength]

/-- A text is cut at the byte lengths of its beginnings and nowhere else. -/
theorem splitAtByte?_eq_some {n : Nat} {cs before after : List Char} :
    splitAtByte? n cs = some (before, after) ↔ cs = before ++ after ∧ n = byteLength before := by
  constructor
  · intro h
    have happend := splitBytes_append n cs
    unfold splitAtByte? at h
    dsimp only at h
    split at h
    · rename_i hlength
      rw [Option.some.inj h] at happend hlength
      exact ⟨happend.symm, hlength.symm⟩
    · cases h
  · rintro ⟨rfl, rfl⟩
    exact splitAtByte?_byteLength before after

/-- The bytes of a text are read as the text. -/
theorem fromUTF8?_toUTF8 (s : String) : String.fromUTF8? s.toUTF8 = some s := by
  have hvalid : s.toUTF8.IsValidUTF8 := s.isValidUTF8
  rw [String.fromUTF8?, dif_pos hvalid]
  rfl

end FacetQuery

import FacetQuery.Cli.Queries
import FacetQuery.Text.Characters
import Mathlib.Data.List.Basic

/-!
JSON documents. What is written of a value tells the value and where it ends, whatever stands behind
it, so that different values have different documents. The documents of parsed queries tell apart
all lists of queries with their formulas.
-/
namespace FacetQuery

namespace JsonValue

/-- The character that a string in a document begins with, and what is written behind it. A quote
that is not escaped ends the string. -/
def unescape? : List Char → Option (Char × List Char)
  | '\\' :: 'u' :: '0' :: '0' :: high :: low :: rest => do
    let high ← hexDigit? high
    let low ← hexDigit? low
    return (Char.ofNat (16 * high + low), rest)
  | '\\' :: 'b' :: rest => some ('\x08', rest)
  | '\\' :: 'f' :: rest => some ('\x0c', rest)
  | '\\' :: 'n' :: rest => some ('\n', rest)
  | '\\' :: 'r' :: rest => some ('\r', rest)
  | '\\' :: 't' :: rest => some ('\t', rest)
  | '\\' :: c :: rest => some (c, rest)
  | '"' :: _ => none
  | c :: rest => some (c, rest)
  | [] => none

/-- A text in front of which a number ends. -/
def EndsNumber (rest : List Char) : Prop := ∀ c ∈ rest.head?, c.isDigit = false

/-- A character that values of the kind of `v` may begin with. -/
def Opens (v : JsonValue) (c : Char) : Prop :=
  match v with
  | string _ => c = '"'
  | number _ => c.isDigit = true
  | array _ => c = '['
  | object _ => c = '\x7b'

variable {c : Char} {cs xs ys rest rest' : List Char} {m n depth : Nat} {v v' : JsonValue}
  {s t : String}

theorem hexDigit?_lowerHexDigit (h : n < 16) : hexDigit? (lowerHexDigit n) = some n := by
  have hall : ∀ n : Fin 16, hexDigit? (lowerHexDigit n) = some n.val := by decide
  exact hall ⟨n, h⟩

theorem unescape?_escape (c : Char) (rest : List Char) :
    unescape? (escape c ++ rest) = some (c, rest) := by
  by_cases hletter : c ∈ ['"', '\\', '\x08', '\x0c', '\n', '\r', '\t']
  · simp only [List.mem_cons, List.not_mem_nil, or_false] at hletter
    rcases hletter with rfl | rfl | rfl | rfl | rfl | rfl | rfl <;> rfl
  · simp only [List.mem_cons, List.not_mem_nil, or_false, not_or] at hletter
    by_cases hcontrol : c.toNat < 0x20
    · have hhigh := hexDigit?_lowerHexDigit (n := c.toNat / 16) (by omega)
      have hlow := hexDigit?_lowerHexDigit (n := c.toNat % 16) (by omega)
      have hc : Char.ofNat (16 * (c.toNat / 16) + c.toNat % 16) = c := by
        rw [Nat.div_add_mod, Char.ofNat_toNat]
      simp [escape, hletter, hcontrol, unescape?, hhigh, hlow, hc]
    · simp [escape, hletter, hcontrol, unescape?]

/-- An unescaped quote ends a string, so that the string and what follows it are determined. -/
theorem flatMap_escape_append_inj
    (h : xs.flatMap escape ++ '"' :: rest = ys.flatMap escape ++ '"' :: rest') :
    xs = ys ∧ rest = rest' := by
  have hend : ∀ rest, unescape? ('"' :: rest) = none := fun _ => rfl
  induction xs generalizing ys with
  | nil =>
    cases ys with
    | nil => exact ⟨rfl, (List.cons.inj h).2⟩
    | cons d ys =>
      have hread := congrArg unescape? h
      simp [hend, unescape?_escape] at hread
  | cons c xs ih =>
    have hread := congrArg unescape? h
    cases ys with
    | nil => simp [hend, unescape?_escape] at hread
    | cons d ys =>
      simp only [List.flatMap_cons, List.append_assoc, unescape?_escape, Option.some.injEq,
        Prod.mk.injEq] at hread
      obtain ⟨rfl, hbehind⟩ := hread
      obtain ⟨rfl, hrest⟩ := ih hbehind
      exact ⟨rfl, hrest⟩

theorem quoted_append_inj (h : quoted s ++ rest = quoted t ++ rest') : s = t ∧ rest = rest' := by
  simp only [quoted, List.cons_append, List.append_assoc, List.nil_append, List.cons.injEq,
    true_and] at h
  obtain ⟨hst, hrest⟩ := flatMap_escape_append_inj h
  exact ⟨String.toList_inj.mp hst, hrest⟩

theorem isDigit_of_mem_toDigits (hc : c ∈ Nat.toDigits 10 n) : c.isDigit = true :=
  Nat.isDigit_of_mem_toDigits (by decide) (by decide) hc

theorem takeWhile_toDigits (n : Nat) (h : EndsNumber rest) :
    (Nat.toDigits 10 n ++ rest).takeWhile Char.isDigit = Nat.toDigits 10 n := by
  rw [List.takeWhile_append_of_pos fun c hc => isDigit_of_mem_toDigits hc]
  cases rest with
  | nil => simp
  | cons c rest => simp [h c (by simp)]

theorem toDigits_append_inj (hrest : EndsNumber rest) (hrest' : EndsNumber rest')
    (h : Nat.toDigits 10 m ++ rest = Nat.toDigits 10 n ++ rest') : m = n ∧ rest = rest' := by
  have hdigits : Nat.toDigits 10 m = Nat.toDigits 10 n := by
    rw [← takeWhile_toDigits m hrest, h, takeWhile_toDigits n hrest']
  refine ⟨?_, ?_⟩
  · have hread := congrArg (fun digits => Nat.ofDigitChars 10 digits 0) hdigits
    simpa [Nat.ofDigitChars_toDigits] using hread
  · rw [hdigits] at h
    exact List.append_cancel_left h

theorem exists_opening (v : JsonValue) (depth : Nat) :
    ∃ c cs, v.write depth = c :: cs ∧ v.Opens c := by
  cases v with
  | string s => exact ⟨_, _, rfl, rfl⟩
  | number n =>
    obtain ⟨c, cs, hn⟩ := List.exists_cons_of_ne_nil (Nat.toDigits_ne_nil (b := 10) (n := n))
    refine ⟨c, cs, by rw [write, hn], ?_⟩
    exact isDigit_of_mem_toDigits (n := n) (by simp [hn])
  | array items =>
    cases items with
    | nil => exact ⟨_, _, rfl, rfl⟩
    | cons item items => exact ⟨_, _, rfl, rfl⟩
  | object fields =>
    cases fields with
    | nil => exact ⟨_, _, rfl, rfl⟩
    | cons field fields => exact ⟨_, _, rfl, rfl⟩

/-- Values that begin with the same character are of one kind. -/
theorem opens_of_write (h : v.write depth ++ rest = v'.write depth ++ rest') :
    ∃ c, v.Opens c ∧ v'.Opens c := by
  obtain ⟨c, cs, hv, hc⟩ := v.exists_opening depth
  obtain ⟨c', cs', hv', hc'⟩ := v'.exists_opening depth
  rw [hv, hv'] at h
  obtain ⟨rfl, -⟩ := List.cons.inj h
  exact ⟨c, hc, hc'⟩

/-- The items of arrays can be compared where the arrays can, up to the line ends behind them. -/
theorem writeItems_of_write {items items' : List JsonValue}
    (h : (array items).write depth ++ rest = (array items').write depth ++ rest') :
    writeItems (depth + 1) items ++ '\n' :: (List.replicate (2 * depth) ' ' ++ ']' :: rest) =
      writeItems (depth + 1) items' ++ '\n' :: (List.replicate (2 * depth) ' ' ++ ']' :: rest') := by
  cases items with
  | nil =>
    cases items' with
    | nil => simpa [write, writeItems] using h
    | cons item' items' => simp [write, newLine] at h
  | cons item items =>
    cases items' with
    | nil => simp [write, newLine] at h
    | cons item' items' => simpa [write, writeItems, newLine] using h

theorem writeFields_of_write {fields fields' : List (String × JsonValue)}
    (h : (object fields).write depth ++ rest = (object fields').write depth ++ rest') :
    writeFields (depth + 1) fields ++ '\n' :: (List.replicate (2 * depth) ' ' ++ '\x7d' :: rest) =
      writeFields (depth + 1) fields' ++
        '\n' :: (List.replicate (2 * depth) ' ' ++ '\x7d' :: rest') := by
  cases fields with
  | nil =>
    cases fields' with
    | nil => simpa [write, writeFields] using h
    | cons field' fields' => simp [write, newLine] at h
  | cons field fields =>
    cases fields' with
    | nil => simp [write, newLine] at h
    | cons field' fields' => simpa [write, writeFields, newLine] using h

/-- Behind an item or a field stands a comma or a line end, so that no number goes on there. -/
theorem endsNumber_writeItems (depth : Nat) (items : List JsonValue) (rest : List Char) :
    EndsNumber (writeItems depth items ++ '\n' :: rest) := by
  cases items with
  | nil => simp [EndsNumber, writeItems]
  | cons item items => simp [EndsNumber, writeItems]

theorem endsNumber_writeFields (depth : Nat) (fields : List (String × JsonValue))
    (rest : List Char) : EndsNumber (writeFields depth fields ++ '\n' :: rest) := by
  cases fields with
  | nil => simp [EndsNumber, writeFields]
  | cons field fields => simp [EndsNumber, writeFields]

mutual

/-- A value and what follows it are determined by what is written of them. -/
theorem write_append_inj (v v' : JsonValue) (depth : Nat) {rest rest' : List Char}
    (hrest : EndsNumber rest) (hrest' : EndsNumber rest')
    (h : v.write depth ++ rest = v'.write depth ++ rest') : v = v' ∧ rest = rest' := by
  obtain ⟨c, hc, hc'⟩ := opens_of_write h
  cases v with
  | string s =>
    cases v' with
    | string s' =>
      obtain ⟨rfl, hrest⟩ := quoted_append_inj (by simpa only [write] using h)
      exact ⟨rfl, hrest⟩
    | _ => simp_all [Opens]
  | number n =>
    cases v' with
    | number n' =>
      obtain ⟨rfl, hrest⟩ := toDigits_append_inj hrest hrest' (by simpa only [write] using h)
      exact ⟨rfl, hrest⟩
    | _ => simp_all [Opens]
  | array items =>
    cases v' with
    | array items' =>
      obtain ⟨rfl, hclose⟩ := writeItems_append_inj items items' (depth + 1) (writeItems_of_write h)
      exact ⟨rfl, by simpa using hclose⟩
    | _ => simp_all [Opens]
  | object fields =>
    cases v' with
    | object fields' =>
      obtain ⟨rfl, hclose⟩ :=
        writeFields_append_inj fields fields' (depth + 1) (writeFields_of_write h)
      exact ⟨rfl, by simpa using hclose⟩
    | _ => simp_all [Opens]

/-- The line end behind the last item tells where the items end. -/
theorem writeItems_append_inj (items items' : List JsonValue) (depth : Nat) {rest rest' : List Char}
    (h : writeItems depth items ++ '\n' :: rest = writeItems depth items' ++ '\n' :: rest') :
    items = items' ∧ rest = rest' := by
  cases items with
  | nil =>
    cases items' with
    | nil => simpa [writeItems] using h
    | cons item' items' => simp [writeItems] at h
  | cons item items =>
    cases items' with
    | nil => simp [writeItems] at h
    | cons item' items' =>
      simp only [writeItems, List.cons_append, List.append_assoc, List.cons.injEq, true_and,
        List.append_cancel_left_eq] at h
      obtain ⟨rfl, hitems⟩ := write_append_inj item item' depth
        (endsNumber_writeItems depth items rest) (endsNumber_writeItems depth items' rest') h
      obtain ⟨rfl, hrest⟩ := writeItems_append_inj items items' depth hitems
      exact ⟨rfl, hrest⟩

theorem writeFields_append_inj (fields fields' : List (String × JsonValue)) (depth : Nat)
    {rest rest' : List Char}
    (h : writeFields depth fields ++ '\n' :: rest = writeFields depth fields' ++ '\n' :: rest') :
    fields = fields' ∧ rest = rest' := by
  cases fields with
  | nil =>
    cases fields' with
    | nil => simpa [writeFields] using h
    | cons field' fields' => simp [writeFields] at h
  | cons field fields =>
    obtain ⟨name, value⟩ := field
    cases fields' with
    | nil => simp [writeFields] at h
    | cons field' fields' =>
      obtain ⟨name', value'⟩ := field'
      simp only [writeFields, List.cons_append, List.append_assoc, List.cons.injEq, true_and,
        List.append_cancel_left_eq] at h
      obtain ⟨rfl, hvalue⟩ := quoted_append_inj h
      simp only [List.cons.injEq, true_and] at hvalue
      obtain ⟨rfl, hfields⟩ := write_append_inj value value' depth
        (endsNumber_writeFields depth fields rest) (endsNumber_writeFields depth fields' rest')
        hvalue
      obtain ⟨rfl, hrest⟩ := writeFields_append_inj fields fields' depth hfields
      exact ⟨rfl, hrest⟩

end

/-- Different values have different documents. -/
theorem render_injective : Function.Injective JsonValue.render := by
  intro v v' h
  have hwrite : v.write 0 ++ [] = v'.write 0 ++ [] := by
    simpa [render] using congrArg String.toList h
  have hend : EndsNumber [] := by simp [EndsNumber]
  exact (write_append_inj v v' 0 hend hend hwrite).1

end JsonValue

theorem Literal.toJson_injective : Function.Injective Literal.toJson := by
  rintro ⟨key, operator, values⟩ ⟨key', operator', values'⟩ h
  have hvalues : ∀ {xs ys : List String}, xs.map JsonValue.string = ys.map JsonValue.string →
      xs = ys := fun h => List.map_injective_iff.mpr (fun _ _ hs => JsonValue.string.inj hs) h
  -- a literal with an operator has three fields, one without has two
  cases operator with
  | none =>
    cases operator' with
    | none =>
      simp only [toJson, List.cons_append, List.nil_append, JsonValue.object.injEq, List.cons.injEq,
        Prod.mk.injEq, JsonValue.string.injEq, JsonValue.array.injEq, true_and, and_true] at h
      obtain ⟨rfl, h⟩ := h
      rw [hvalues h]
    | some o => simp [toJson] at h
  | some o =>
    cases operator' with
    | none => simp [toJson] at h
    | some o' =>
      cases o
      cases o'
      simp only [toJson, List.cons_append, List.nil_append, JsonValue.object.injEq, List.cons.injEq,
        Prod.mk.injEq, JsonValue.string.injEq, JsonValue.array.injEq, true_and, and_true] at h
      obtain ⟨rfl, h⟩ := h
      rw [hvalues h]

theorem Formula.toJson_injective : Function.Injective Formula.toJson := by
  rintro ⟨ls⟩ ⟨ls'⟩ h
  have hls : ls = ls' :=
    List.map_injective_iff.mpr Literal.toJson_injective (JsonValue.array.inj h)
  rw [hls]

theorem queriesJson_injective : Function.Injective queriesJson := by
  intro parsed parsed' h
  simp only [queriesJson, JsonValue.object.injEq, List.cons.injEq, Prod.mk.injEq,
    JsonValue.array.injEq, true_and, and_true] at h
  refine List.map_injective_iff.mpr ?_ h
  rintro ⟨query, f⟩ ⟨query', f'⟩ hanswer
  simp only [JsonValue.object.injEq, List.cons.injEq, Prod.mk.injEq, JsonValue.string.injEq,
    true_and, and_true] at hanswer
  rw [hanswer.1, Formula.toJson_injective hanswer.2]

/-- The documents that are printed of two lists of queries with their formulas are the same only if
the lists are. In particular runs that print the same document have parsed the same queries to the
same formulas. -/
theorem queries_document_inj :
    (∀ parsed parsed' : List (String × Formula),
      (queriesJson parsed).render ++ "\n" = (queriesJson parsed').render ++ "\n" ↔
        parsed = parsed') ∧
    ∀ (ctx ctx' : Context) (v v' : Vocabulary) (queries queries' : List String),
      (parseAll ctx true v queries).output = (parseAll ctx' true v' queries').output ↔
        parsedQueries v queries = parsedQueries v' queries' := by
  have hdocument : ∀ parsed parsed' : List (String × Formula),
      (queriesJson parsed).render ++ "\n" = (queriesJson parsed').render ++ "\n" ↔
        parsed = parsed' := by
    intro parsed parsed'
    refine ⟨?_, fun h => by rw [h]⟩
    intro h
    exact queriesJson_injective (JsonValue.render_injective ((String.append_left_inj _).mp h))
  exact ⟨hdocument, fun ctx ctx' v v' queries queries' => hdocument _ _⟩

end FacetQuery

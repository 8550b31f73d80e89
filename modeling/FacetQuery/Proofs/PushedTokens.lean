import FacetQuery.Proofs.Grouping
import FacetQuery.Query.Assembly

/-!
The assembly behind any tokens, in whatever order they come. It holds the group-by of the terms
among them, and a value that finds no key is refused without a trace.
-/
namespace FacetQuery

/-- The tokens behind the last value that found a key. A value finds one if a key is among the
tokens behind the last value before it that did. -/
def sinceLastPair (ts : List Token) : List Token :=
  ts.foldl (fun since t =>
    if t.kind = .value ∧ ∃ k ∈ since, k.kind = .key then [] else since ++ [t]) []

/-- The last token of a kind behind the last value that found a key. -/
def latest? (kind : TokenKind) (ts : List Token) : Option Token :=
  ((sinceLastPair ts).filter fun t => t.kind = kind).getLast?

/-- The operator that a token stands for. -/
def Token.operator? (t : Token) : Option Operator := if t.text = "-" then some .negate else none

/-- The term that a token adds behind others. A value has the latest key and the operator of the
latest operator token; without a key it adds nothing. -/
def Token.termBehind? (before : List Token) (t : Token) : Option Term :=
  match t.kind with
  | .fulltext => some ⟨fulltextKey, none, t.text⟩
  | .value => (latest? .key before).map fun key =>
      ⟨key.text, (latest? .operator before).bind Token.operator?, t.text⟩
  | .operator | .key => none

/-- The terms that tokens add one by one behind others. -/
def termsAdded (before : List Token) : List Token → List Term
  | [] => []
  | t :: rest => (t.termBehind? before).toList ++ termsAdded (before ++ [t]) rest

/-- The assembly after tokens have been pushed one by one, those that are refused among them. -/
def Assembly.pushEach (ts : List Token) : Assembly := ts.foldl (fun a t => (a.push t).1) empty

variable {ts : List Token} {t : Token} {kind : TokenKind}

theorem sinceLastPair_concat (ts : List Token) (t : Token) : sinceLastPair (ts ++ [t]) =
    if t.kind = .value ∧ ∃ k ∈ sinceLastPair ts, k.kind = .key then []
    else sinceLastPair ts ++ [t] := by
  rw [sinceLastPair, List.foldl_concat]
  rfl

theorem latest?_eq_none_iff :
    latest? kind ts = none ↔ ∀ t ∈ sinceLastPair ts, t.kind ≠ kind := by
  simp [latest?]

/-- A value that finds a key leaves nothing behind that later ones could find. -/
theorem latest?_concat_paired (h : t.kind = .value) (hkey : latest? .key ts ≠ none) :
    latest? kind (ts ++ [t]) = none := by
  have hfound : ∃ k ∈ sinceLastPair ts, k.kind = .key := by
    simpa [latest?_eq_none_iff] using hkey
  rw [latest?, sinceLastPair_concat, if_pos ⟨h, hfound⟩]
  rfl

/-- All other tokens are behind the last pair with those before them. -/
theorem sinceLastPair_concat_unpaired (h : t.kind = .value → latest? .key ts = none) :
    sinceLastPair (ts ++ [t]) = sinceLastPair ts ++ [t] := by
  rw [sinceLastPair_concat, if_neg]
  rintro ⟨hvalue, k, hk, hkey⟩
  exact latest?_eq_none_iff.mp (h hvalue) k hk hkey

theorem latest?_concat_self (h : t.kind ≠ .value) (hkind : t.kind = kind) :
    latest? kind (ts ++ [t]) = some t := by
  simp [latest?, sinceLastPair_concat_unpaired (fun hvalue => absurd hvalue h), hkind]

theorem latest?_concat_of_ne (h : t.kind = .value → latest? .key ts = none)
    (hkind : t.kind ≠ kind) : latest? kind (ts ++ [t]) = latest? kind ts := by
  simp [latest?, sinceLastPair_concat_unpaired h, hkind]

theorem termsAdded_concat (before ts : List Token) (t : Token) : termsAdded before (ts ++ [t]) =
    termsAdded before ts ++ (t.termBehind? (before ++ ts)).toList := by
  induction ts generalizing before with
  | nil => simp [termsAdded]
  | cons u ts ih => simp [termsAdded, ih]

theorem pushEach_concat (ts : List Token) (t : Token) :
    Assembly.pushEach (ts ++ [t]) = ((Assembly.pushEach ts).push t).1 := by
  rw [Assembly.pushEach, List.foldl_concat]
  rfl

/-- The assembly behind tokens: their terms are grouped, and the latest key and operator wait. -/
theorem pushEach_eq (ts : List Token) : Assembly.pushEach ts =
    ⟨grouped (termsAdded [] ts), (latest? .operator ts).bind Token.operator?,
      (latest? .key ts).map Token.text⟩ := by
  induction ts using List.reverseRecOn with
  | nil => rfl
  | append_singleton ts t ih =>
    rw [pushEach_concat, ih, termsAdded_concat, List.nil_append]
    cases hkind : t.kind with
    | operator =>
      rw [latest?_concat_self (by simp [hkind]) hkind, latest?_concat_of_ne (by simp [hkind])
        (by simp [hkind])]
      simp [Assembly.push, hkind, Token.termBehind?, Token.operator?, Operator.ofSymbol?]
    | key =>
      rw [latest?_concat_self (by simp [hkind]) hkind, latest?_concat_of_ne (by simp [hkind])
        (by simp [hkind])]
      simp [Assembly.push, hkind, Token.termBehind?]
    | fulltext =>
      rw [latest?_concat_of_ne (by simp [hkind]) (by simp [hkind]),
        latest?_concat_of_ne (by simp [hkind]) (by simp [hkind])]
      simp [Assembly.push, hkind, Token.termBehind?, grouped_concat]
    | value =>
      cases hkey : latest? .key ts with
      | none =>
        rw [latest?_concat_of_ne (fun _ => hkey) (by simp [hkind]),
          latest?_concat_of_ne (fun _ => hkey) (by simp [hkind])]
        simp [Assembly.push, hkind, hkey, Token.termBehind?]
      | some k =>
        rw [latest?_concat_paired hkind (by simp [hkey]),
          latest?_concat_paired hkind (by simp [hkey])]
        simp [Assembly.push, hkind, hkey, Token.termBehind?, grouped_concat]

/-- A push is refused exactly if the token is a value that finds no key. -/
theorem push_eq_some_iff (ts : List Token) (t : Token) (e : QueryError) :
    ((Assembly.pushEach ts).push t).2 = some e ↔
      (t.kind = .value ∧ latest? .key ts = none) ∧
        e = ⟨.unpairedValue, some t.span.start, none⟩ := by
  rw [pushEach_eq]
  cases hkind : t.kind with
  | value => cases latest? .key ts <;> simp [Assembly.push, hkind, eq_comm]
  | operator | key | fulltext => simp [Assembly.push, hkind]

/-- A push that is refused changes nothing. -/
theorem push_of_refused {a : Assembly} {e : QueryError} (h : (a.push t).2 = some e) :
    (a.push t).1 = a := by
  unfold Assembly.push at h ⊢
  split at h
  · cases h
  · cases h
  · cases h
  · split at h
    · rename_i hkey
      simp [*]
    · cases h

/-- After any tokens a push is refused exactly if the token is a value and no key has been pushed
since the last value that found one. It is then told where the value begins, and nothing has
changed. At all times the formula is the group-by of the terms of the tokens so far: its groups are
distinct and none of them is empty. -/
theorem push_refused_or_grouped (ts : List Token) (t : Token) :
    let a := Assembly.pushEach ts
    ((∃ e, (a.push t).2 = some e) ↔
      t.kind = .value ∧ ∀ k ∈ sinceLastPair ts, k.kind ≠ .key) ∧
    (∀ e, (a.push t).2 = some e →
      e = ⟨.unpairedValue, some t.span.start, none⟩ ∧ (a.push t).1 = a) ∧
    a.finish.literals = grouped (termsAdded [] ts) ∧
    (a.finish.literals.map Literal.group).Nodup ∧
    ∀ l ∈ a.finish.literals, l.values ≠ [] := by
  intro a
  have hliterals : a.finish.literals = grouped (termsAdded [] ts) := by
    simp only [a, Assembly.finish, pushEach_eq]
  refine ⟨?_, ?_, hliterals, ?_, ?_⟩
  · simp only [a, push_eq_some_iff, ← latest?_eq_none_iff, exists_and_left, exists_eq, and_true]
  · intro e he
    exact ⟨((push_eq_some_iff ts t e).mp he).2, push_of_refused he⟩
  · rw [hliterals, groups_grouped]
    exact nodup_groupsOf _
  · rw [hliterals]
    intro l hl
    exact values_ne_nil_of_mem_grouped hl

/-- An operator outlasts a value that is refused, and goes to the pair behind it. -/
example :
    (Assembly.pushEach [⟨.operator, "-", ⟨0, 1⟩⟩, ⟨.value, "a", ⟨1, 2⟩⟩, ⟨.key, "tag", ⟨3, 6⟩⟩,
      ⟨.value, "b", ⟨7, 8⟩⟩]).finish = ⟨[⟨"tag", some .negate, ["b"]⟩]⟩ := by decide

end FacetQuery

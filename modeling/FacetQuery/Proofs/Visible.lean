import FacetQuery.Style

/-!
What a text in styles shows. Its escape sequences are invisible, and all else is shown as it
stands, so that styled parts can be read one by one.
-/
namespace FacetQuery

open Style

/-- A text in styles shows a plain text, whatever stands behind it. -/
def Shows (styled plain : String) : Prop :=
  ∀ rest, stripFrom false (styled.toList ++ rest) = plain.toList ++ stripFrom false rest

/-- A text that begins no escape sequence. -/
def IsPlain (text : String) : Prop := escapeChar ∉ text.toList

instance : DecidablePred IsPlain := fun text => inferInstanceAs (Decidable (escapeChar ∉ text.toList))

variable {s t plain text parameter : String} {cs rest : List Char} {style : Style}

theorem stripFrom_plain (h : escapeChar ∉ cs) (rest : List Char) :
    stripFrom false (cs ++ rest) = cs ++ stripFrom false rest := by
  induction cs with
  | nil => rfl
  | cons c cs ih =>
    simp only [List.mem_cons, not_or] at h
    simp [stripFrom, Ne.symm h.1, ih h.2]

/-- Within an escape sequence all is passed over up to its end. -/
theorem stripFrom_inside (h : 'm' ∉ cs) (rest : List Char) :
    stripFrom true (cs ++ 'm' :: rest) = stripFrom false rest := by
  induction cs with
  | nil => rfl
  | cons c cs ih =>
    simp only [List.mem_cons, not_or] at h
    have hc : (c != 'm') = true := by simpa using Ne.symm h.1
    simpa [stripFrom, hc] using ih h.2

theorem IsPlain.shows (h : IsPlain text) : Shows text text := stripFrom_plain h

namespace Shows

theorem strip_eq (h : Shows s plain) : strip s = plain := by
  have hs := h []
  simp only [List.append_nil, stripFrom] at hs
  rw [strip, hs, String.ofList_toList]

theorem empty : Shows "" "" := fun _ => rfl

theorem append {plain' : String} (hs : Shows s plain) (ht : Shows t plain') :
    Shows (s ++ t) (plain ++ plain') := by
  intro rest
  simp only [String.toList_append, List.append_assoc]
  rw [hs, ht]

theorem sequence (h : 'm' ∉ parameter.toList) : Shows (Style.sequence parameter) "" := by
  intro rest
  have hinside : 'm' ∉ '[' :: parameter.toList := by simpa using h
  have hpassed := stripFrom_inside hinside rest
  simpa [Style.sequence, stripFrom] using hpassed

theorem on (style : Style) : Shows style.on "" := by
  apply sequence
  cases style <;> decide

theorem off : Shows Style.off "" := sequence (by decide)

/-- A style is not seen. -/
theorem paint (style : Style) (h : Shows s plain) : Shows (style.paint s) plain := by
  have hall := ((on style).append h).append off
  simpa only [Style.paint, String.empty_append, String.append_empty] using hall

/-- Parts are shown one behind the other. -/
theorem join {α : Type} {xs : List α} {f g : α → String} (h : ∀ x ∈ xs, Shows (f x) (g x)) :
    Shows (String.join (xs.map f)) (String.join (xs.map g)) := by
  induction xs with
  | nil => exact empty
  | cons x xs ih =>
    simp only [List.map_cons, String.join_cons]
    exact (h x (by simp)).append (ih fun y hy => h y (by simp [hy]))

end Shows

end FacetQuery

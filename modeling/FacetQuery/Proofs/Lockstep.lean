import FacetQuery.Proofs.Parsing
import FacetQuery.Proofs.Steps
import Mathlib.Computability.RegularExpressions

/-!
The scanner and the assembly side by side. At every place that a scan comes to, the assembly waits
for the value of a key exactly if the scanner looks for it, and no operator is left waiting for a
later pair.
-/
namespace FacetQuery

open RegularExpression (char)

/-- The kinds of the tokens of whole items: terms, and pairs of a key and a value behind an operator
or none. -/
def wholeItems : RegularExpression TokenKind :=
  ((1 + char TokenKind.operator) * char TokenKind.key * char TokenKind.value +
    char TokenKind.fulltext).star

def kindsOf (ts : List Token) : List TokenKind := ts.map Token.kind

/-- An operator has its key right behind it. -/
def Touches (o t : Token) : Prop :=
  o.kind = .operator → t.kind = .key ∧ t.span.start = o.span.stop

/-- The tokens of a pair up to its key, with its operator. -/
inductive Head : Option Operator → List Token → Prop
  | plain {k : Token} (key : k.kind = .key) : Head none [k]
  | negated {o k : Token} (operator : o.kind = .operator) (key : k.kind = .key)
      (touching : k.span.start = o.span.stop) : Head (some .negate) [o, k]

/-- The tokens of whole items, one behind the other. -/
inductive Items : List Token → Prop
  | nil : Items []
  | term {ts : List Token} {t : Token} (before : Items ts) (kind : t.kind = .fulltext) :
      Items (ts ++ [t])
  | pair {ts head : List Token} {t : Token} {operator : Option Operator} (before : Items ts)
      (front : Head operator head) (kind : t.kind = .value) : Items (ts ++ (head ++ [t]))

/-- Where reading stands: between items, behind an operator, or behind a key. Behind an operator
the scanner is in front of its key. -/
inductive Phase (v : Vocabulary) (s : Scanner) : List Token → Assembly → Prop
  | between {ts : List Token} {ls : List Literal} (mode : s.mode = .scanning) (before : Items ts) :
      Phase v s ts ⟨ls, none, none⟩
  | negating {ts : List Token} {ls : List Literal} {o : Token} {key : String}
      (mode : s.mode = .scanning) (before : Items ts) (kind : o.kind = .operator)
      (here : o.span.stop = s.position) (found : v.keyBehind? s.last s.rest = some key) :
      Phase v s (ts ++ [o]) ⟨ls, some .negate, none⟩
  | pairing {ts head : List Token} {ls : List Literal} {operator : Option Operator} {key : String}
      (mode : s.mode = .pairing key) (before : Items ts) (front : Head operator head) :
      Phase v s (ts ++ head) ⟨ls, operator, some key⟩

/-- What a scanner and an assembly behind the same tokens have in common. -/
structure Lockstep (v : Vocabulary) (s : Scanner) (ts : List Token) (a : Assembly) : Prop where
  key : ∀ key, a.key = some key ↔ s.mode = .pairing key
  operator : a.operator = some .negate ↔
    [.operator] <:+ kindsOf ts ∨ [.operator, .key] <:+ kindsOf ts
  touching : ts.IsChain Touches
  next : ∀ o ∈ ts.getLast?, o.kind = .operator →
    ∃ t n, s.step v = .emit t n ∧ t.kind = .key ∧ t.span.start = o.span.stop
  begun : ∃ more, kindsOf ts ++ more ∈ wholeItems.matches'
  whole : s.step v = .stop →
    kindsOf ts ∈ wholeItems.matches' ∧ a.operator = none ∧ a.key = none

variable {v : Vocabulary} {query : String} {s n : Scanner} {t : Token}
  {ts us head : List Token} {a : Assembly} {ks item : List TokenKind} {operator : Option Operator}

@[simp] theorem kindsOf_append (ts us : List Token) :
    kindsOf (ts ++ us) = kindsOf ts ++ kindsOf us := by
  simp [kindsOf]

@[simp] theorem kindsOf_cons (t : Token) (ts : List Token) :
    kindsOf (t :: ts) = t.kind :: kindsOf ts := rfl

@[simp] theorem kindsOf_nil : kindsOf [] = [] := rfl

theorem mem_wholeItems_append (hks : ks ∈ wholeItems.matches')
    (hitem : item ∈ wholeItems.matches') : ks ++ item ∈ wholeItems.matches' := by
  rw [wholeItems, RegularExpression.matches'_star, Language.mem_kstar] at hks hitem ⊢
  obtain ⟨items, rfl, hitems⟩ := hks
  obtain ⟨more, rfl, hmore⟩ := hitem
  refine ⟨items ++ more, List.flatten_append.symm, ?_⟩
  intro ks hks
  rcases List.mem_append.mp hks with hks | hks
  · exact hitems ks hks
  · exact hmore ks hks

theorem mem_wholeItems_of_rmatch (h : wholeItems.rmatch ks = true) :
    ks ∈ wholeItems.matches' :=
  (RegularExpression.rmatch_iff_matches' _ _).mp h

theorem Head.mem_wholeItems (h : Head operator head) :
    kindsOf head ++ [.value] ∈ wholeItems.matches' := by
  apply mem_wholeItems_of_rmatch
  cases h with
  | plain key => simp only [kindsOf_cons, key]; rfl
  | negated operator key _ => simp only [kindsOf_cons, operator, key]; rfl

theorem Items.mem_wholeItems (h : Items ts) : kindsOf ts ∈ wholeItems.matches' := by
  induction h with
  | nil => exact mem_wholeItems_of_rmatch rfl
  | term before kind ih =>
    simp only [kindsOf_append, kindsOf_cons, kind]
    exact mem_wholeItems_append ih (mem_wholeItems_of_rmatch rfl)
  | pair before front kind ih =>
    simp only [kindsOf_append, kindsOf_cons, kind]
    exact mem_wholeItems_append ih front.mem_wholeItems

/-- The last token of whole items waits for nothing. -/
theorem Items.getLast (h : Items ts) :
    ∀ t ∈ ts.getLast?, t.kind = .value ∨ t.kind = .fulltext := by
  cases h with
  | nil => simp
  | term before kind => simp [kind]
  | pair before front kind => simp [← List.append_assoc, kind]

theorem Items.not_suffix {kind : TokenKind} (h : Items ts) (hkind : kind = .operator ∨ kind = .key)
    (front : List TokenKind) : ¬ front ++ [kind] <:+ kindsOf ts := by
  rintro ⟨more, hmore⟩
  have hlast := congrArg List.getLast? hmore
  rw [← List.append_assoc, List.getLast?_concat, kindsOf, List.getLast?_map] at hlast
  obtain ⟨t, ht, rfl⟩ := Option.map_eq_some_iff.mp hlast.symm
  rcases h.getLast t ht with hk | hk <;> simp [hk] at hkind

/-- The operator of a pair is waiting exactly if it has been read right before the key. -/
theorem Head.operator_iff (h : Head operator head) (before : Items ts) :
    operator = some .negate ↔
      [.operator] <:+ kindsOf (ts ++ head) ∨ [.operator, .key] <:+ kindsOf (ts ++ head) := by
  cases h with
  | plain key =>
    simp only [kindsOf_append, kindsOf_cons, kindsOf_nil, key, reduceCtorEq, false_iff, not_or,
      List.suffix_concat_iff, not_exists, not_and]
    refine ⟨⟨by simp, ?_⟩, ⟨by simp, ?_⟩⟩
    · intro front hfront
      simp [List.singleton_eq_append_iff] at hfront
    · intro front hfront
      obtain rfl : front = [.operator] := by
        have hcut := congrArg List.dropLast hfront
        simpa using hcut.symm
      exact before.not_suffix (Or.inl rfl) []
  | negated operator key touching =>
    simp only [kindsOf_append, kindsOf_cons, kindsOf_nil, operator, key, true_iff]
    exact Or.inr (List.suffix_append _ _)

theorem Items.isChain_append (h : Items ts) (hts : ts.IsChain Touches)
    (hus : us.IsChain Touches) : (ts ++ us).IsChain Touches := by
  refine List.isChain_append.mpr ⟨hts, hus, ?_⟩
  intro o ho t _ hop
  rcases h.getLast o ho with hk | hk <;> simp [hk] at hop

theorem Head.kind_getLast (h : Head operator head) (ts : List Token) :
    ∀ t ∈ (ts ++ head).getLast?, t.kind = .key := by
  cases h with
  | plain key => simp [key]
  | negated operator key touching => simp [List.getLast?_append, key]

theorem Head.isChain (h : Head operator head) :
    head.IsChain Touches ∧ ∀ t, (head ++ [t]).IsChain Touches := by
  cases h with
  | plain key => simp [Touches, key]
  | negated operator key touching => simp [Touches, key, touching]

theorem Items.isChain (h : Items ts) : ts.IsChain Touches := by
  induction h with
  | nil => exact List.isChain_nil
  | term before kind ih => exact before.isChain_append ih (List.isChain_singleton _)
  | pair before front kind ih => exact before.isChain_append ih (front.isChain.2 _)

/-- What is passed over changes nothing, and no operator is passed over its key. -/
theorem Phase.skip (h : Phase v s ts a) (hstep : s.step v = .skip n) : Phase v n ts a := by
  cases Scanner.goesOn_of_skip hstep with
  | skip ahead noKey =>
    cases h with
    | between mode before => exact .between mode before
    | negating mode before kind here found => simp [noKey mode] at found
    | pairing mode before front => exact .pairing mode before front

/-- A token that is read is taken. -/
theorem Phase.emit (h : Phase v s ts a) (hstep : s.step v = .emit t n) :
    ∃ b, a.push t = (b, none) ∧ Phase v n (ts ++ [t]) b := by
  cases Scanner.goesOn_of_emit hstep with
  | operator mode ahead found =>
    cases h with
    | between _ before => exact ⟨_, rfl, .negating rfl before rfl rfl found⟩
    | negating _ _ _ _ ready =>
      have hhyphen : isSeparator '-' = true := by decide
      simp [ahead, keyBehind?_of_separator hhyphen] at ready
    | pairing wrong _ _ => simp [mode] at wrong
  | key mode ahead found =>
    cases h with
    | between _ before => exact ⟨_, rfl, .pairing rfl before (.plain rfl)⟩
    | negating _ before kind here _ =>
      refine ⟨_, rfl, ?_⟩
      rw [List.append_assoc]
      exact .pairing rfl before (.negated kind rfl here.symm)
    | pairing wrong _ _ => simp [mode] at wrong
  | fulltext mode ahead noKey =>
    cases h with
    | between _ before => exact ⟨_, rfl, .between rfl (before.term rfl)⟩
    | negating _ _ _ _ ready => simp [noKey] at ready
    | pairing wrong _ _ => simp [mode] at wrong
  | value mode ahead =>
    cases h with
    | between wrong _ => simp [mode] at wrong
    | negating wrong _ _ _ _ => simp [mode] at wrong
    | pairing _ before front =>
      refine ⟨_, rfl, ?_⟩
      rw [List.append_assoc]
      exact .between rfl (before.pair front rfl)

/-- In every phase the scanner and the assembly agree. -/
theorem Phase.lockstep (h : Phase v s ts a) : Lockstep v s ts a := by
  cases h with
  | between mode before =>
    refine ⟨by simp [mode], ?_, before.isChain, ?_, ⟨[], by simpa using before.mem_wholeItems⟩,
      fun _ => ⟨before.mem_wholeItems, rfl, rfl⟩⟩
    · simpa using ⟨before.not_suffix (Or.inl rfl) [], before.not_suffix (Or.inr rfl) [.operator]⟩
    · intro o ho hop
      rcases before.getLast o ho with hk | hk <;> simp [hk] at hop
  | negating mode before kind here found =>
    obtain ⟨t, n, hstep, hkey, -, hstart⟩ := Scanner.step_of_keyBehind mode found
    refine ⟨by simp [mode], ?_, before.isChain_append before.isChain (List.isChain_singleton _), ?_,
      ⟨[.key, .value], ?_⟩, ?_⟩
    · simp [kind]
    · intro o ho _
      obtain rfl : _ = o := by simpa using ho
      exact ⟨t, n, hstep, hkey, hstart.trans here.symm⟩
    · have hpair : [.operator, .key, .value] ∈ wholeItems.matches' :=
        mem_wholeItems_of_rmatch rfl
      simpa [kind] using mem_wholeItems_append before.mem_wholeItems hpair
    · intro hstop
      simp [hstep] at hstop
  | pairing mode before front =>
    refine ⟨by simp [mode], front.operator_iff before,
      before.isChain_append before.isChain front.isChain.1, ?_, ⟨[.value], ?_⟩, ?_⟩
    · intro o ho hop
      simp [front.kind_getLast _ o ho] at hop
    · simpa using mem_wholeItems_append before.mem_wholeItems front.mem_wholeItems
    · intro hstop
      simp [Scanner.mode_of_stop hstop] at mode

theorem phase_of_reaches (h : Reaches v query ts s) :
    ∃ a, Assembly.empty.pushAll ts = .ok a ∧ Phase v s ts a := by
  induction h with
  | start => exact ⟨_, rfl, .between rfl .nil⟩
  | skip before step ih =>
    obtain ⟨a, hpush, hphase⟩ := ih
    exact ⟨a, hpush, hphase.skip step⟩
  | emit before step ih =>
    obtain ⟨a, hpush, hphase⟩ := ih
    obtain ⟨b, hb, hnext⟩ := hphase.emit step
    refine ⟨b, ?_, hnext⟩
    rw [Assembly.pushAll_append hpush, Assembly.pushAll, hb]
    rfl

/-- Reading a query ends as its scan ends, for no token is refused. -/
theorem parse_of_endsAt (hpush : Assembly.empty.pushAll (v.scan query).tokens = .ok a)
    (hends : (v.scan query).EndsAt v query s) :
    s.step v = .stop ∧ v.parse query = .ok a.finish ∨
      ∃ position fault, s.step v = .fail position fault ∧
        v.parse query = .error ⟨fault, some position, some query⟩ := by
  rcases hends with ⟨hstop, hnone⟩ | ⟨position, fault, hfail, hsome⟩
  · left
    simp [Vocabulary.parse, hpush, hnone, hstop]
  · right
    exact ⟨position, fault, hfail, by simp [Vocabulary.parse, hpush, hsome]⟩

/-- Every place of a scan has an assembly in step with it, and reading a query comes to a place
behind every beginning of its tokens. At the last one the query is read, or the scanner fails. -/
theorem reading_in_lockstep (v : Vocabulary) (query : String) :
    (∀ ts s, Reaches v query ts s → ∃ a, Assembly.empty.pushAll ts = .ok a ∧ Lockstep v s ts a) ∧
    (∀ ts, ts <+: (v.scan query).tokens ↔ ∃ s, Reaches v query ts s) ∧
    ∃ s a, Reaches v query (v.scan query).tokens s ∧
      Assembly.empty.pushAll (v.scan query).tokens = .ok a ∧
      (s.step v = .stop ∧ v.parse query = .ok a.finish ∨
        ∃ position fault, s.step v = .fail position fault ∧
          v.parse query = .error ⟨fault, some position, some query⟩) := by
  have hstart : Reaches v query [] (.start query.toList) := .start
  obtain ⟨hall, s, hlast, hends⟩ := hstart.run
  refine ⟨?_, ?_, ?_⟩
  · intro ts s h
    obtain ⟨a, hpush, hphase⟩ := phase_of_reaches h
    exact ⟨a, hpush, hphase.lockstep⟩
  · intro ts
    constructor
    · intro hts
      exact hall ts hts
    · rintro ⟨s, h⟩
      exact ⟨(s.run v query).tokens, by rw [h.scan_eq]; rfl⟩
  · obtain ⟨a, hpush, -⟩ := phase_of_reaches hlast
    exact ⟨s, a, hlast, hpush, parse_of_endsAt hpush hends⟩

end FacetQuery

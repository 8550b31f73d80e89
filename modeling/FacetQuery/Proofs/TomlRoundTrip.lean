import FacetQuery.Config.Load
import FacetQuery.Proofs.Grouping
import FacetQuery.Proofs.TomlStrings

/-!
A configuration that is written as a file is read back from it. The file has one section with one
list of strings, and every line of it is read as what was written.
-/
namespace FacetQuery.Toml

variable {text tail rest cs start more key : List Char} {c : Char} {texts : List (List Char)}
  {item : Reader Value} {v : Value} {items : List Value} {room : Nat}

/-- A string as a value. -/
def stringOf (text : List Char) : Value := .string (String.ofList text)

theorem exists_cons_writeString (text : List Char) :
    ∃ quote more, writeString text = quote :: more ∧ (quote = '"' ∨ quote = '\'') := by
  rw [writeString]
  cases styleFor text with
  | basic => exact ⟨'"', _, rfl, Or.inl rfl⟩
  | literal => exact ⟨'\'', _, rfl, Or.inr rfl⟩
  | multilineBasic => exact ⟨'"', _, rfl, Or.inl rfl⟩
  | multilineLiteral => exact ⟨'\'', _, rfl, Or.inr rfl⟩

theorem value_writeString (room : Nat) (text : List Char)
    (hr : ∀ d ∈ rest.head?, d ≠ '"' ∧ d ≠ '\'') :
    value room (writeString text ++ rest) = some (stringOf text, rest) := by
  have hscalar : scalar (writeString text ++ rest) = some (stringOf text, rest) := by
    rw [scalar, stringValue_writeString text hr]
    rfl
  cases room with
  | zero => exact hscalar
  | succ room =>
    -- a quote opens neither an array nor a table
    obtain ⟨quote, more, he, hq⟩ := exists_cons_writeString text
    rw [he] at hscalar ⊢
    rcases hq with rfl | rfl
    · simpa [value] using hscalar
    · simpa [value] using hscalar

theorem skipFiller_writeString (text rest : List Char) :
    skipFiller (writeString text ++ rest) = writeString text ++ rest := by
  obtain ⟨quote, more, he, hq⟩ := exists_cons_writeString text
  rw [he]
  rcases hq with rfl | rfl <;> rfl

theorem writeString_ne_close (text rest more : List Char) :
    writeString text ++ rest ≠ ']' :: more := by
  obtain ⟨quote, inner, he, hq⟩ := exists_cons_writeString text
  rw [he]
  rcases hq with rfl | rfl <;> simp

theorem arrayItems_close (hs : skipFiller cs = ']' :: tail) :
    arrayItems item cs = some ([], tail) := by
  unfold arrayItems
  rw [hs]
  rfl

theorem arrayItems_last (hs : skipFiller cs = start) (hc : ∀ more, start ≠ ']' :: more)
    (hi : item start = some (v, rest)) (he : skipFiller rest = ']' :: tail) :
    arrayItems item cs = some ([v], tail) := by
  unfold arrayItems
  rw [hs]
  split
  · exact (hc _ rfl).elim
  · simp only [hi, he]

theorem arrayItems_cons (hs : skipFiller cs = start) (hc : ∀ more, start ≠ ']' :: more)
    (hi : item start = some (v, rest)) (he : skipFiller rest = ',' :: more)
    (hlt : more.length < cs.length) (h : arrayItems item more = some (items, tail)) :
    arrayItems item cs = some (v :: items, tail) := by
  unfold arrayItems
  rw [hs]
  split
  · exact (hc _ rfl).elim
  · simp only [hi, he, if_pos hlt, h, Option.map_some]

/-- Strings on lines of their own are read back one by one. -/
theorem arrayItems_lines (room : Nat) (texts : List (List Char)) (rest : List Char) :
    arrayItems (value room) ('\n' :: (texts.flatMap (fun text =>
      "    ".toList ++ writeString text ++ [',', '\n']) ++ ']' :: rest)) =
      some (texts.map stringOf, rest) := by
  induction texts with
  | nil => exact arrayItems_close rfl
  | cons text texts ih =>
    have hstart : ∀ more, skipFiller ('\n' :: ("    ".toList ++ (writeString text ++ more))) =
        writeString text ++ more := fun more => skipFiller_writeString text more
    have hcomma : ∀ more, skipFiller ([',', '\n'] ++ more) = ',' :: '\n' :: more := fun _ => rfl
    simp only [List.flatMap_cons, List.append_assoc] at ih ⊢
    refine arrayItems_cons (hstart _) (writeString_ne_close text _)
      (value_writeString room text (by simp)) (hcomma _) ?_ ih
    simp only [List.length_cons, List.length_append]
    omega

/-- A list of strings is read back. -/
theorem value_writeStrings (room : Nat) (texts : List (List Char)) (rest : List Char) :
    value (room + 1) (writeStrings texts ++ rest) = some (.array (texts.map stringOf), rest) := by
  match texts with
  | [] =>
    have hitems : arrayItems (value room) (']' :: rest) = some ([], rest) := arrayItems_close rfl
    simp [writeStrings, value, hitems]
  | [text] =>
    have hitems : arrayItems (value room) (writeString text ++ ']' :: rest) =
        some ([stringOf text], rest) :=
      arrayItems_last (skipFiller_writeString text _) (writeString_ne_close text _)
        (value_writeString room text (by simp)) rfl
    simp [writeStrings, value, hitems]
  | text :: next :: texts =>
    have hitems := arrayItems_lines room (text :: next :: texts) rest
    have hwritten : writeStrings (text :: next :: texts) ++ rest =
        '[' :: '\n' :: ((text :: next :: texts).flatMap (fun text =>
          "    ".toList ++ writeString text ++ [',', '\n']) ++ ']' :: rest) := by
      simp [writeStrings]
    rw [hwritten, value, hitems]
    rfl

/-- A key that is written without quotes. -/
structure BareKey (key : List Char) : Prop where
  ne_nil : key ≠ []
  bare : ∀ c ∈ key, isBareKeyChar c = true

theorem ne_of_isBareKeyChar {d : Char} (hc : isBareKeyChar c = true)
    (hd : isBareKeyChar d = false) : c ≠ d := by
  rintro rfl
  simp [hc] at hd

theorem isSpace_of_isBareKeyChar (hc : isBareKeyChar c = true) : isSpace c = false := by
  have hspace : c ≠ ' ' := ne_of_isBareKeyChar hc (by decide)
  have htab : c ≠ '\t' := ne_of_isBareKeyChar hc (by decide)
  simp [isSpace, hspace, htab]

theorem BareKey.simpleKey_eq (h : BareKey key)
    (he : ∀ c ∈ rest.head?, isBareKeyChar c = false) :
    simpleKey (key ++ rest) = some (String.ofList key, rest) := by
  have htake : (key ++ rest).takeWhile isBareKeyChar = key := by
    have hstop : rest.takeWhile isBareKeyChar = [] := by
      cases rest with
      | nil => rfl
      | cons c rest => simp [he c (by simp)]
    rw [List.takeWhile_append_of_pos h.bare, hstop, List.append_nil]
  obtain ⟨c, cs, rfl⟩ := List.exists_cons_of_ne_nil h.ne_nil
  have hc := h.bare c (by simp)
  have hdouble : c ≠ '"' := ne_of_isBareKeyChar hc (by decide)
  have hsingle : c ≠ '\'' := ne_of_isBareKeyChar hc (by decide)
  rw [List.cons_append] at htake ⊢
  rw [simpleKey, if_neg hdouble, if_neg hsingle, htake]
  simp

theorem BareKey.keyPath_eq (h : BareKey key) (he : ∀ c ∈ rest.head?, isBareKeyChar c = false)
    (hd : ∀ more, skipSpaces rest ≠ '.' :: more) :
    keyPath (key ++ rest) = some (([], String.ofList key), rest) := by
  have hdotted : dottedKey (key ++ rest) = some (([], String.ofList key), rest) := by
    unfold dottedKey
    rw [h.simpleKey_eq he]
    dsimp only
    split
    · rename_i more hskip
      exact (hd more hskip).elim
    · rfl
  rw [keyPath, hdotted]
  rfl

theorem endLine_newline (rest : List Char) : endLine ('\n' :: rest) = some rest := rfl

theorem endLine_cons (hs : isSpace c = false) (hh : c ≠ '#') (hn : c ≠ '\n') (hr : c ≠ '\r') :
    endLine (c :: rest) = none := by
  have hcomment : skipComment (c :: rest) = c :: rest := by
    unfold skipComment
    split
    · rename_i he
      exact (hh (List.cons.inj he).1).elim
    · rfl
  rw [endLine, skipSpaces_cons hs, hcomment]
  unfold newline?
  simp_all

/-- A line that is not empty holds its statement up to the line end. -/
theorem line_statement {s : Statement} (hs : isSpace c = false) (hn : endLine (c :: cs) = none)
    (h : statement (c :: cs) = some (s, '\n' :: rest)) : line (c :: cs) = some (some s, rest) := by
  rw [line, hn, skipSpaces_cons hs]
  simp only [h, Option.bind_eq_bind, Option.bind_some, endLine_newline]
  rfl

theorem BareKey.header_eq (h : BareKey key) (rest : List Char) :
    header [']'] (key ++ ']' :: rest) = some (([], String.ofList key), rest) := by
  have hend : ∀ d ∈ (']' :: rest).head?, isBareKeyChar d = false := by simp; decide
  have hpath := h.keyPath_eq hend (by simp [skipSpaces, isSpace])
  obtain ⟨c, cs, rfl⟩ := List.exists_cons_of_ne_nil h.ne_nil
  have hspace := isSpace_of_isBareKeyChar (h.bare c (by simp))
  rw [header, List.cons_append, skipSpaces_cons hspace, ← List.cons_append, hpath]
  rfl

/-- A header on a line of its own opens a table. -/
theorem line_header (h : BareKey key) (rest : List Char) :
    line ('[' :: (key ++ ']' :: '\n' :: rest)) =
      some (some (.openTable [] (String.ofList key)), rest) := by
  have hheader := h.header_eq ('\n' :: rest)
  obtain ⟨c, cs, rfl⟩ := List.exists_cons_of_ne_nil h.ne_nil
  have hbracket : c ≠ '[' := ne_of_isBareKeyChar (h.bare c (by simp)) (by decide)
  refine line_statement rfl (endLine_cons rfl (by decide) (by decide) (by decide)) ?_
  rw [List.cons_append] at hheader ⊢
  simp [statement, hbracket, hheader]

/-- A key, an equals sign and a value on a line of their own give the key the value. -/
theorem line_assign (h : BareKey key) (hs : skipSpaces cs = cs)
    (hv : value nestingLimit cs = some (v, '\n' :: rest)) :
    line (key ++ ' ' :: '=' :: ' ' :: cs) =
      some (some (.assign [] (String.ofList key) v), rest) := by
  have hend : ∀ d ∈ (' ' :: '=' :: ' ' :: cs).head?, isBareKeyChar d = false := by simp; decide
  have hpath := h.keyPath_eq hend (by simp [skipSpaces, isSpace])
  have hkeyValue : keyValue skipSpaces (value nestingLimit) (key ++ ' ' :: '=' :: ' ' :: cs) =
      some ((([], String.ofList key), v), '\n' :: rest) := by
    have hsign : skipSpaces (' ' :: '=' :: ' ' :: cs) = '=' :: ' ' :: cs := rfl
    have hvalue : skipSpaces (' ' :: cs) = cs := hs
    simp only [keyValue, hpath, hsign, hvalue, hv, Option.map_some]
  obtain ⟨c, more, rfl⟩ := List.exists_cons_of_ne_nil h.ne_nil
  have hc := h.bare c (by simp)
  have hspace := isSpace_of_isBareKeyChar hc
  have hbracket : c ≠ '[' := ne_of_isBareKeyChar hc (by decide)
  refine line_statement hspace (endLine_cons hspace (ne_of_isBareKeyChar hc (by decide))
    (ne_of_isBareKeyChar hc (by decide)) (ne_of_isBareKeyChar hc (by decide))) ?_
  rw [List.cons_append] at hkeyValue
  simp [statement, hbracket, hkeyValue]

/-- The statement of a first line, if any, stands in front of those of the others. -/
theorem statements_cons {s : Option Statement} {ss : List Statement} (hl : line cs = some (s, rest))
    (hlt : rest.length < cs.length) (h : statements rest = some ss) :
    statements cs = some (s.toList ++ ss) := by
  have hne : cs.isEmpty = false := by
    cases cs with
    | nil => simp at hlt
    | cons c cs => rfl
  unfold statements
  simp [hne, hl, hlt, h]

theorem statements_nil : statements [] = some [] := by simp [statements]

/-- A section that sets one key has two lines. -/
theorem statements_section {name : List Char} (hn : BareKey name) (hk : BareKey key)
    (hs : skipSpaces cs = cs) (hv : value nestingLimit cs = some (v, ['\n'])) :
    statements ('[' :: (name ++ ']' :: '\n' :: (key ++ ' ' :: '=' :: ' ' :: cs))) =
      some [.openTable [] (String.ofList name), .assign [] (String.ofList key) v] := by
  have hassign : statements (key ++ ' ' :: '=' :: ' ' :: cs) =
      some [.assign [] (String.ofList key) v] := by
    refine statements_cons (line_assign hk hs hv) ?_ statements_nil
    simp only [List.length_cons, List.length_append, List.length_nil]
    omega
  refine statements_cons (line_header hn _) ?_ hassign
  simp only [List.length_cons, List.length_append]
  omega

/-- A section that sets one key is a table with one entry. -/
theorem build_section (name key : String) (v : Value) :
    build [.openTable [] name, .assign [] key v] = some [(name, .table .header [(key, v)])] := by
  simp [build, Draft.apply, Entries.openTable, Entries.change, Entries.assign, Entries.replace]

theorem skipSpaces_writeStrings (texts : List (List Char)) (rest : List Char) :
    skipSpaces (writeStrings texts ++ rest) = writeStrings texts ++ rest := by
  match texts with
  | [] => rfl
  | [_] => rfl
  | _ :: _ :: _ => rfl

/-- The document that lists names in a section of their own. -/
theorem readDocument_names (names : List String) :
    readDocument ("[query]\nkeywords = " ++
      String.ofList (writeStrings (names.map String.toList)) ++ "\n") =
      some [("query", .table .header [("keywords", .array (names.map .string))])] := by
  have hquery : BareKey "query".toList :=
    ⟨by decide, List.all_eq_true.mp (by decide)⟩
  have hkeywords : BareKey "keywords".toList :=
    ⟨by decide, List.all_eq_true.mp (by decide)⟩
  have hitems : (names.map String.toList).map stringOf = names.map .string := by
    simp [stringOf]
  have hvalue := value_writeStrings (nestingLimit - 1) (names.map String.toList) ['\n']
  have hstatements := statements_section hquery hkeywords (skipSpaces_writeStrings _ _) hvalue
  rw [hitems] at hstatements
  have htext : dropByteOrderMark ("[query]\nkeywords = " ++
      String.ofList (writeStrings (names.map String.toList)) ++ "\n").toList =
      '[' :: ("query".toList ++ ']' :: '\n' :: ("keywords".toList ++ ' ' :: '=' :: ' ' ::
        (writeStrings (names.map String.toList) ++ ['\n']))) := by
    simp [dropByteOrderMark]
  rw [readDocument, htext, hstatements]
  exact build_section _ _ _

end FacetQuery.Toml

namespace FacetQuery

open Toml

variable {names : List String} {v : Value}

/-- The settings that list names and say nothing else. -/
def Settings.listing (names : List String) : Settings := ⟨none, some ⟨some names⟩⟩

theorem mapM_readName (names : List String) :
    (names.map Value.string).mapM Settings.readName = some names := by
  induction names with
  | nil => rfl
  | cons name names ih => simp [Settings.readName, ih]

/-- A document with nothing but a query section sets nothing else. -/
theorem ofEntries_query {query : QuerySettings}
    (h : Settings.readQuery (some v) = some (some query)) :
    Settings.ofEntries [("query", v)] = some ⟨none, some query⟩ := by
  have hothers : Settings.othersRepresentable ["root", "query"] [("query", v)] = true := rfl
  have hroot : List.lookup "root" [("query", v)] = none := rfl
  have hquery : List.lookup "query" [("query", v)] = some v := rfl
  rw [Settings.ofEntries, hothers, hroot, hquery, h]
  rfl

theorem ofEntries_names (names : List String) :
    Settings.ofEntries [("query", .table .header [("keywords", .array (names.map .string))])] =
      some (.listing names) := by
  have hsection : Settings.readSection [("keywords", .array (names.map .string))] =
      some ⟨some names⟩ := by
    simp [Settings.readSection, Settings.othersRepresentable, entriesRepresentable,
      Settings.readNames, -List.mapM_map, mapM_readName]
  apply ofEntries_query
  rw [Settings.readQuery, hsection]
  rfl

theorem read_toToml (c : Config) : Settings.read c.toToml = .ok (.listing c.names) := by
  have hdocument : readDocument c.toToml = _ := readDocument_names c.names
  rw [Settings.read, hdocument, Option.bind_some, ofEntries_names]

theorem names_merge_listing (home path : Path) (h : names.Nodup) :
    (Config.merge home [⟨path, .listing names⟩]).names = names := by
  have hdeclared : (Config.merge home [⟨path, .listing names⟩]).declarations.map
      Declaration.name = names := by
    simp [Config.merge, ConfigFile.declarations, Settings.keywords, Settings.listing,
      Function.comp_def]
  rw [Config.names, hdeclared, eraseDups_of_nodup h]

/-- Nothing but the names of a configuration is written. -/
theorem toToml_eq_of_names {c d : Config} (h : c.names = d.names) : c.toToml = d.toToml := by
  unfold Config.toToml
  rw [h]

/-- A configuration written as a file is read back with the same names in the same order, and that
file on its own is written as the same text again. -/
theorem toToml_round_trip (c : Config) (home path : Path) :
    ∃ s, readSettings path c.toToml = .ok s ∧ s.root = none ∧ s.keywords = c.names ∧
      (Config.merge home [⟨path, s⟩]).toToml = c.toToml := by
  have hread : readSettings path c.toToml = .ok (.listing c.names) := by
    rw [readSettings, read_toToml]
  -- the names are written without repetition, so that merging drops none of them
  have hnames : (Config.merge home [⟨path, .listing c.names⟩]).names = c.names :=
    names_merge_listing home path (nodup_eraseDups _)
  exact ⟨.listing c.names, hread, rfl, rfl, toToml_eq_of_names hnames⟩

/-- Names for every style of strings: the last two have no style that holds them as they are. -/
def awkwardNames : List String :=
  ["plain", "say \"hi\"", "it's \"so\"", "C:\\a\nb", "'\"\"\"\"\n\x00", "\r'\""]

/-- A configuration that declares the first of these names twice. -/
def awkward : Config where
  declarations := ("plain" :: awkwardNames).map fun name => ⟨name, ⟨"/work/.sift.toml"⟩, false⟩
  files := [⟨"/work/.sift.toml"⟩]
  directory := some ⟨"/work"⟩

/-- Quotes, line feeds, backslashes and control characters are written as the styles ask for, and
read back as they were. -/
theorem toToml_round_trip_awkward :
    awkward.toToml =
      "[query]\n" ++
      "keywords = [\n" ++
      "    \"plain\",\n" ++
      "    'say \"hi\"',\n" ++
      "    \"\"\"it's \"so\"\"\"\",\n" ++
      "    '''\nC:\\a\nb''',\n" ++
      "    \"\"\"\n'\"\"\\\"\"\n\\u0000\"\"\",\n" ++
      "    \"\\r'\\\"\",\n" ++
      "]\n" ∧
    ∃ s, readSettings ⟨"/work/.sift.toml"⟩ awkward.toToml = .ok s ∧ s.root = none ∧
      s.keywords = awkwardNames ∧
      (Config.merge ⟨"/home"⟩ [⟨⟨"/work/.sift.toml"⟩, s⟩]).toToml = awkward.toToml := by
  have hnames : awkward.names = awkwardNames := by decide +kernel
  obtain ⟨s, hread, hroot, hkeywords, hagain⟩ :=
    toToml_round_trip awkward ⟨"/home"⟩ ⟨"/work/.sift.toml"⟩
  exact ⟨by decide +kernel, s, hread, hroot, hkeywords.trans hnames, hagain⟩

end FacetQuery

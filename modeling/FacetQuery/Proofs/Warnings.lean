import FacetQuery.Config.Warning
import FacetQuery.Proofs.DeclaredKeys
import FacetQuery.Proofs.Precedence
import FacetQuery.Proofs.QueryRuns
import Mathlib.Algebra.BigOperators.Group.List.Lemmas
import Mathlib.Algebra.GroupWithZero.Nat

/-!
What the warnings about a configuration say. Each declaration that does not become a key of its own
is accounted for, so that there are no warnings exactly if the keys are what is declared.
-/
namespace FacetQuery

namespace ConfigWarning

/-- The file of a warning that fulltext is declared. -/
def reserved? : ConfigWarning → Option Path
  | reserved source => some source
  | _ => none

/-- The name and the number of declarations of a warning on a repeated name. -/
def duplicate? : ConfigWarning → Option (String × Nat)
  | duplicate keyword occurrences => some (keyword, occurrences)
  | _ => none

/-- The name and the file of a warning on a declaration that is left out. -/
def unmatchable? : ConfigWarning → Option (String × Path)
  | unmatchable keyword source => some (keyword, source)
  | _ => none

end ConfigWarning

/-- The names of all declarations, each as often as it is declared. -/
def Config.declaredNames (c : Config) : List String := c.declarations.map Declaration.name

/-- Warnings that account for the declarations of a configuration: those that are left out, those of
fulltext, and the repeated names in order of first declaration. -/
structure Accounted (c : Config) (ws : List ConfigWarning) : Prop where
  declared : .noKeywords ∉ ws
  unmatchable : ws.filterMap ConfigWarning.unmatchable? =
    (c.declarations.filter fun d => d.name ∉ c.keywords).map fun d => (d.name, d.source)
  reserved : ws.filterMap ConfigWarning.reserved? =
    (c.declarations.filter fun d => d.name = fulltextKey).map Declaration.source
  repeated : ∀ name n, (name, n) ∈ ws.filterMap ConfigWarning.duplicate? ↔
    n = c.declaredNames.count name ∧ 1 < n
  order : (ws.filterMap ConfigWarning.duplicate?).Pairwise fun r s =>
    c.declaredNames.idxOf r.1 < c.declaredNames.idxOf s.1
  surplus : ((ws.filterMap ConfigWarning.duplicate?).map fun r => r.2 - 1).sum + c.names.length =
    c.declarations.length

/-- The keys of a configuration are what it declares, name by name, and fulltext behind them. -/
def Config.UsedAsDeclared (c : Config) : Prop :=
  c.declarations ≠ [] ∧
    Vocabulary.ofKeywords c.keywords = .ok ⟨c.declaredNames ++ [fulltextKey]⟩

variable {c : Config} {name : String} {w : World} {level : Option Level}

section Counts

variable {α : Type}

theorem sum_sub_one {f : α → Nat} {xs : List α} (h : ∀ x ∈ xs, 0 < f x) :
    ((xs.filter fun x => 1 < f x).map fun x => f x - 1).sum + xs.length = (xs.map f).sum := by
  induction xs with
  | nil => rfl
  | cons x xs ih =>
    have hxs := ih fun y hy => h y (by simp [hy])
    have hx := h x (by simp)
    by_cases hmany : 1 < f x
    · simp only [hmany, decide_true, List.filter_cons_of_pos, List.map_cons, List.sum_cons,
        List.length_cons]
      omega
    · simp only [hmany, decide_false, Bool.false_eq_true, not_false_eq_true,
        List.filter_cons_of_neg, List.map_cons, List.sum_cons, List.length_cons]
      omega

variable [DecidableEq α]

/-- First occurrences stand in the order of the list. -/
theorem pairwise_idxOf_eraseDups (xs : List α) :
    xs.eraseDups.Pairwise fun x y => xs.idxOf x < xs.idxOf y := by
  induction xs using List.reverseRecOn with
  | nil => simp
  | append_singleton xs x ih =>
    have hold : xs.eraseDups.Pairwise fun y z => (xs ++ [x]).idxOf y < (xs ++ [x]).idxOf z := by
      refine ih.imp_of_mem ?_
      intro y z hy hz hyz
      rw [List.mem_eraseDups] at hy hz
      rwa [List.idxOf_append_of_mem hy, List.idxOf_append_of_mem hz]
    by_cases hx : x ∈ xs
    · rwa [eraseDups_concat_of_mem hx]
    · rw [eraseDups_concat_of_notMem hx]
      refine List.pairwise_append.mpr ⟨hold, List.pairwise_singleton _ _, ?_⟩
      intro y hy z hz
      obtain rfl := List.mem_singleton.mp hz
      rw [List.mem_eraseDups] at hy
      have hlt := List.idxOf_lt_length_of_mem hy
      simpa [List.idxOf_append_of_mem hy, List.idxOf_append_of_notMem hx] using hlt

/-- The occurrences of the distinct elements make up the list. -/
theorem sum_count_eraseDups (xs : List α) :
    (xs.eraseDups.map fun x => xs.count x).sum = xs.length := by
  have hperm : xs.eraseDups.Perm xs.dedup := by
    refine (List.perm_ext_iff_of_nodup (nodup_eraseDups xs) xs.nodup_dedup).mpr ?_
    simp
  rw [(hperm.map _).sum_eq, List.sum_map_count_dedup_eq_length]

end Counts

theorem names_eq (c : Config) : c.names = c.declaredNames.eraseDups := rfl

theorem occurrences_eq (c : Config) (name : String) :
    c.occurrences name = c.declaredNames.count name := rfl

theorem isMatchable_fulltextKey : isMatchable fulltextKey = true := by decide

theorem mem_keywords_iff :
    name ∈ c.keywords ↔ name ∈ c.declaredNames ∧ isMatchable name = true := by
  simp [Config.keywords, names_eq]

/-- A view of the warnings of a configuration that declares something. -/
theorem filterMap_warnings {β : Type} (hc : c.declarations ≠ []) (view : ConfigWarning → Option β) :
    c.warnings.filterMap view =
      c.declarations.filterMap (fun d => d.warning?.bind view) ++
        c.names.filterMap (fun name => (c.duplicate? name).bind view) := by
  rw [Config.warnings, if_neg (by simpa using hc), List.filterMap_append, List.filterMap_filterMap,
    List.filterMap_filterMap]

theorem unmatchable?_warning (d : Declaration) : d.warning?.bind ConfigWarning.unmatchable? =
    if isMatchable d.name then none else some (d.name, d.source) := by
  unfold Declaration.warning?
  split
  · rename_i hname
    simp [hname, isMatchable_fulltextKey, ConfigWarning.unmatchable?]
  · split <;> simp [ConfigWarning.unmatchable?]

theorem reserved?_warning (d : Declaration) : d.warning?.bind ConfigWarning.reserved? =
    if d.name = fulltextKey then some d.source else none := by
  unfold Declaration.warning?
  split
  · simp [ConfigWarning.reserved?]
  · split <;> simp [ConfigWarning.reserved?]

theorem duplicate?_warning (d : Declaration) :
    d.warning?.bind ConfigWarning.duplicate? = none := by
  unfold Declaration.warning?
  split
  · rfl
  · split <;> rfl

theorem duplicate?_bind {β : Type} (view : ConfigWarning → Option β) (name : String) :
    (c.duplicate? name).bind view = if 1 < c.declaredNames.count name then
      view (.duplicate name (c.declaredNames.count name)) else none := by
  rw [Config.duplicate?, occurrences_eq]
  split <;> rfl

theorem unmatchable_warnings (hc : c.declarations ≠ []) :
    c.warnings.filterMap ConfigWarning.unmatchable? =
      (c.declarations.filter fun d => d.name ∉ c.keywords).map fun d => (d.name, d.source) := by
  have hnone : c.names.filterMap (fun name =>
      (c.duplicate? name).bind ConfigWarning.unmatchable?) = [] := by
    simp [duplicate?_bind, ConfigWarning.unmatchable?]
  rw [filterMap_warnings hc, hnone, List.append_nil, ← List.filterMap_eq_map',
    List.filterMap_filter]
  refine List.filterMap_congr ?_
  intro d hd
  have hname : d.name ∈ c.declaredNames := List.mem_map_of_mem hd
  cases hmatch : isMatchable d.name <;> simp [unmatchable?_warning, mem_keywords_iff, hname, hmatch]

theorem reserved_warnings (hc : c.declarations ≠ []) :
    c.warnings.filterMap ConfigWarning.reserved? =
      (c.declarations.filter fun d => d.name = fulltextKey).map Declaration.source := by
  have hnone : c.names.filterMap (fun name =>
      (c.duplicate? name).bind ConfigWarning.reserved?) = [] := by
    simp [duplicate?_bind, ConfigWarning.reserved?]
  rw [filterMap_warnings hc, hnone, List.append_nil, ← List.filterMap_eq_map,
    List.filterMap_filter]
  refine List.filterMap_congr ?_
  intro d _
  simp [reserved?_warning]

theorem duplicate_warnings (hc : c.declarations ≠ []) :
    c.warnings.filterMap ConfigWarning.duplicate? =
      (c.names.filter fun name => 1 < c.declaredNames.count name).map
        fun name => (name, c.declaredNames.count name) := by
  have hnone : c.declarations.filterMap (fun d =>
      d.warning?.bind ConfigWarning.duplicate?) = [] := by
    simp [duplicate?_warning]
  rw [filterMap_warnings hc, hnone, List.nil_append, ← List.filterMap_eq_map',
    List.filterMap_filter]
  refine List.filterMap_congr ?_
  intro name _
  simp [duplicate?_bind, ConfigWarning.duplicate?]

theorem noKeywords_notMem_warnings (hc : c.declarations ≠ []) : .noKeywords ∉ c.warnings := by
  rw [Config.warnings, if_neg (by simpa using hc), List.mem_append, List.mem_filterMap,
    List.mem_filterMap]
  rintro (⟨d, -, hd⟩ | ⟨name, -, hname⟩)
  · unfold Declaration.warning? at hd
    split at hd
    · cases hd
    · split at hd <;> cases hd
  · unfold Config.duplicate? at hname
    split at hname <;> cases hname

theorem accounted_warnings (hc : c.declarations ≠ []) : Accounted c c.warnings where
  declared := noKeywords_notMem_warnings hc
  unmatchable := unmatchable_warnings hc
  reserved := reserved_warnings hc
  repeated := by
    intro name n
    rw [duplicate_warnings hc]
    have hmem : 1 < c.declaredNames.count name → name ∈ c.declaredNames := by
      intro hmany
      exact List.count_pos_iff.mp (by omega)
    simp only [names_eq, List.mem_map, List.mem_filter, List.mem_eraseDups, decide_eq_true_eq,
      Prod.mk.injEq]
    constructor
    · rintro ⟨name, ⟨-, hmany⟩, rfl, rfl⟩
      exact ⟨rfl, hmany⟩
    · rintro ⟨rfl, hmany⟩
      exact ⟨name, ⟨hmem hmany, hmany⟩, rfl, rfl⟩
  order := by
    rw [duplicate_warnings hc]
    exact List.pairwise_map.mpr ((pairwise_idxOf_eraseDups c.declaredNames).filter _)
  surplus := by
    have hpos : ∀ name ∈ c.names, 0 < c.declaredNames.count name := by
      intro name hname
      exact List.count_pos_iff.mpr (List.mem_eraseDups.mp hname)
    have hlength : c.declaredNames.length = c.declarations.length := by simp [Config.declaredNames]
    rw [duplicate_warnings hc, List.map_map, Function.comp_def, sum_sub_one hpos, names_eq,
      sum_count_eraseDups, hlength]

/-- A configuration that nothing can be said against. -/
structure Config.Clean (c : Config) : Prop where
  declares : c.declarations ≠ []
  distinct : c.declaredNames.Nodup
  words : ∀ name ∈ c.declaredNames, isMatchable name = true
  unreserved : fulltextKey ∉ c.declaredNames

theorem Config.Clean.of_warnings (hnone : c.warnings = []) : c.Clean := by
  have hc : c.declarations ≠ [] := by
    intro hc
    simp [Config.warnings, hc] at hnone
  have hunmatchable := unmatchable_warnings hc
  have hreserved := reserved_warnings hc
  have hduplicate := duplicate_warnings hc
  simp only [hnone, List.filterMap_nil, List.nil_eq, List.map_eq_nil_iff, List.filter_eq_nil_iff,
    decide_eq_true_eq, not_not] at hunmatchable hreserved hduplicate
  refine ⟨hc, List.nodup_iff_count_le_one.mpr ?_, ?_, ?_⟩
  · intro name
    by_contra hmany
    have hname : name ∈ c.declaredNames := List.count_pos_iff.mp (by omega)
    exact hduplicate name (List.mem_eraseDups.mpr hname) (by omega)
  · intro name hname
    obtain ⟨d, hd, rfl⟩ := List.mem_map.mp hname
    exact (mem_keywords_iff.mp (hunmatchable d hd)).2
  · intro hname
    obtain ⟨d, hd, hfull⟩ := List.mem_map.mp hname
    exact hreserved d hd hfull

theorem warnings_eq_nil_iff : c.warnings = [] ↔ c.Clean := by
  constructor
  · exact Config.Clean.of_warnings
  · rintro ⟨hc, hdistinct, hwords, hunreserved⟩
    rw [Config.warnings, if_neg (by simpa using hc), List.append_eq_nil_iff,
      List.filterMap_eq_nil_iff, List.filterMap_eq_nil_iff]
    refine ⟨?_, ?_⟩
    · intro d hd
      have hname : d.name ∈ c.declaredNames := List.mem_map_of_mem hd
      have hfull : d.name ≠ fulltextKey := ne_of_mem_of_not_mem hname hunreserved
      simp [Declaration.warning?, hfull, hwords d.name hname]
    · intro name _
      have hone := List.nodup_iff_count_le_one.mp hdistinct name
      rw [Config.duplicate?, occurrences_eq, if_neg (by omega)]

theorem Config.Clean.keywords_eq (h : c.Clean) : c.keywords = c.declaredNames := by
  rw [Config.keywords, names_eq, eraseDups_of_nodup h.distinct, List.filter_eq_self]
  exact h.words

/-- The keys are what is declared exactly if each declaration makes a key of its own, and none makes
that of fulltext. -/
theorem usedAsDeclared_iff : c.UsedAsDeclared ↔ c.Clean := by
  constructor
  · rintro ⟨hc, hkeys⟩
    have hnodup : (c.declaredNames ++ [fulltextKey]).Nodup := by
      obtain ⟨-, hv⟩ := ofKeywords_eq_ok_iff.mp hkeys
      have hkeep := nodup_keys_ofValid c.keywords
      rwa [← hv] at hkeep
    obtain ⟨hdistinct, -, hapart⟩ := List.nodup_append.mp hnodup
    refine ⟨hc, hdistinct, ?_, ?_⟩
    · intro name hname
      exact isMatchable_of_mem_keys hkeys (by simp [hname])
    · intro hfull
      exact hapart _ hfull _ (by simp) rfl
  · intro h
    have hkeywords := h.keywords_eq
    refine ⟨h.declares, ofKeywords_eq_ok_iff.mpr ⟨?_, ?_⟩⟩
    · rw [hkeywords]
      exact h.words
    · have hkeys := keys_ofValid c.keywords
      rw [hkeywords, eraseDups_of_nodup h.distinct, if_neg h.unreserved] at hkeys
      rw [hkeywords, ← hkeys]

theorem files_load {d : Disk} {home dir : Path} (h : d.load home dir = .ok c) :
    c.files = (d.discover home dir).files := by
  have hloaded := d.loadedAs_load home dir
  rw [h, ← Disk.files_discover] at hloaded
  generalize (d.discover home dir).files = paths at hloaded ⊢
  cases hloaded with
  | merges _ _ _ hlisted _ => exact hlisted

theorem failed_runStatus (ctx : Context) :
    (runStatus ctx).failed = false ↔ ctx.config.files = [] ∨ ctx.config.warnings = [] := by
  unfold runStatus
  split
  · rename_i hfiles
    simpa [Report.success] using Or.inl hfiles
  · rename_i hfiles
    dsimp only
    split <;> simp_all [Report.success]

theorem exitCode_status (hargs : Request.ofArguments w.args = .run level .status)
    (hload : w.disk.load w.home w.directory = .ok c) :
    w.run.exitCode = 0 ↔ (w.disk.discover w.home w.directory).files = [] ∨ c.warnings = [] := by
  have halike : (w.runCommand .status).Alike (runStatus (w.context c)) := by
    rw [World.runCommand]
    exact World.withConfig_of_ok hload
  have hexit : w.run.exitCode = 0 ↔ (runStatus (w.context c)).failed = false := by
    rw [World.run_of_request hargs, Report.outcome, halike.failed]
    simp
  rw [hexit, failed_runStatus, ← files_load hload]
  rfl

/-- A configuration that declares nothing has one warning, which says so. Otherwise the warnings
account for all declarations, so that there are none exactly if something is declared and the keys
are what is declared, name by name. The command that shows them succeeds in this case, and where no
file was found. -/
theorem warnings_exact (c : Config) :
    (c.warnings = [.noKeywords] ↔ c.declarations = []) ∧
    (c.declarations ≠ [] → Accounted c c.warnings) ∧
    (c.warnings = [] ↔ c.UsedAsDeclared) ∧
    ∀ (w : World) (level : Option Level), Request.ofArguments w.args = .run level .status →
      w.disk.load w.home w.directory = .ok c →
      (w.run.exitCode = 0 ↔
        (w.disk.discover w.home w.directory).files = [] ∨ c.UsedAsDeclared) := by
  refine ⟨⟨?_, ?_⟩, accounted_warnings, ?_, ?_⟩
  · intro hone
    by_contra hc
    exact noKeywords_notMem_warnings hc (by simp [hone])
  · intro hc
    simp [Config.warnings, hc]
  · rw [warnings_eq_nil_iff, usedAsDeclared_iff]
  · intro w level hargs hload
    rw [exitCode_status hargs hload, warnings_eq_nil_iff, usedAsDeclared_iff]

/-- A run that shows the configuration in force, which is that of one file with a text. -/
def statusOf (text : String) : World where
  args := ["status"]
  disk := .furnished text
  home := ⟨"/home"⟩
  input := .empty
  terminal := false
  logSetting := none
  wording := .plain

/-- What that file declares if it lists names. -/
def declaring (names : List String) : Config where
  declarations := names.map fun name => ⟨name, ⟨"/work/.sift.toml"⟩, false⟩
  files := [⟨"/work/.sift.toml"⟩]
  directory := some ⟨"/work"⟩

/-- Names that are reserved, repeated or cut by a blank. -/
def careless : Config := declaring ["tag", "due date", "fulltext", "tag"]

/-- Each of these names is warned of, and the run that shows them fails. Where there are no such
names, it succeeds. -/
theorem warnings_exact_careless :
    careless.warnings = [.unmatchable "due date" ⟨"/work/.sift.toml"⟩,
      .reserved ⟨"/work/.sift.toml"⟩, .duplicate "tag" 2] ∧
    Accounted careless careless.warnings ∧
    (statusOf "query.keywords = ['tag', 'due date', 'fulltext', 'tag']").run.exitCode ≠ 0 ∧
    (declaring ["tag", "due"]).UsedAsDeclared ∧
    (statusOf "query.keywords = ['tag', 'due']").run.exitCode = 0 := by
  have hargs : Request.ofArguments ["status"] = .run none .status := by decide +kernel
  have hwarnings : careless.warnings = [.unmatchable "due date" ⟨"/work/.sift.toml"⟩,
      .reserved ⟨"/work/.sift.toml"⟩, .duplicate "tag" 2] := by decide +kernel
  have hload : (Disk.furnished "query.keywords = ['tag', 'due date', 'fulltext', 'tag']").load
      ⟨"/home"⟩ ⟨"/work"⟩ = .ok careless := by decide +kernel
  have hload' : (Disk.furnished "query.keywords = ['tag', 'due']").load ⟨"/home"⟩ ⟨"/work"⟩ =
      .ok (declaring ["tag", "due"]) := by decide +kernel
  obtain ⟨-, haccounted, hused, hstatus⟩ := warnings_exact careless
  obtain ⟨-, -, hused', hstatus'⟩ := warnings_exact (declaring ["tag", "due"])
  have hgood : (declaring ["tag", "due"]).UsedAsDeclared := hused'.mp (by decide +kernel)
  refine ⟨hwarnings, haccounted (by decide), ?_, hgood, ?_⟩
  · intro hzero
    rcases (hstatus (statusOf _) none hargs hload).mp hzero with hfiles | hbad
    · exact absurd hfiles (by decide +kernel)
    · have hnone := hused.mpr hbad
      simp [hwarnings] at hnone
  · exact (hstatus' (statusOf _) none hargs hload').mpr (Or.inr hgood)

end FacetQuery

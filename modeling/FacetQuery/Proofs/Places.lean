import FacetQuery.Files.Disk
import FacetQuery.Proofs.Paths

/-!
Looking up paths. Where a path leads, and whether it leads anywhere, depends on what is at each
place only. A file that is written is therefore all that changes, and it is found by the paths that
lead to its place.
-/
namespace FacetQuery

/-- The place that a component leads to. -/
def Location.follow (place : Location) : Component → Location
  | .root | .current => place
  | .parent => place.dropLast
  | .name name => place ++ [String.ofList name]

namespace Path

variable {p q : Path} {s : List Char}

theorem step_of_isFiller (place : Location) (h : isFiller s = true) : place.step s = place := by
  simp [Location.step, h]

theorem follow_component (place : Location) (h : s ≠ []) :
    place.follow (component s) = place.step s := by
  rw [component, Location.step, isFiller]
  by_cases hdot : s = ['.']
  · simp [hdot, Location.follow]
  · by_cases hdots : s = ['.', '.'] <;> simp [hdot, hdots, h, Location.follow]

theorem foldl_step_others (place : Location) (ss : List (List Char)) :
    ss.foldl Location.step place = ((meaningful ss).map component).foldl Location.follow place := by
  induction ss generalizing place with
  | nil => rfl
  | cons s ss ih =>
    cases hs : isFiller s with
    | true => simp [meaningful, hs, step_of_isFiller place hs, ih]
    | false =>
      have hne : s ≠ [] := by
        rintro rfl
        cases hs
      simp [meaningful, hs, follow_component place hne, ih]

/-- Where a path leads is given by its components. -/
theorem foldl_step_eq (place : Location) (p : Path) :
    (p.first :: p.others).foldl Location.step place =
      p.components.foldl Location.follow place := by
  by_cases h : p.first ≠ [] ∨ p.others ≠ []
  · rw [components_of_segments p.segments_text h, List.foldl_cons, List.foldl_cons,
      foldl_step_others]
    congr 1
    cases hf : p.first with
    | nil => rfl
    | cons c cs =>
      have hne : c :: cs ≠ [] := by simp
      simp [lead, follow_component place hne]
  · simp only [ne_eq, not_or, not_not] at h
    have hcomponents : p.components = [] := by
      simp [components, isAbsolute, h]
    rw [h.1, h.2, hcomponents]
    rfl

/-- An absolute path is told by its first component. -/
theorem isAbsolute_iff : p.isAbsolute = true ↔ p.components.head? = some .root := by
  rw [components, isAbsolute]
  cases hfirst : p.first with
  | nil => cases hothers : p.others <;> simp
  | cons c cs => simp [component_ne_root]

theorem isAbsolute_eq_of_isSame (h : p.isSame q = true) : p.isAbsolute = q.isAbsolute := by
  have hsame : p.components = q.components := by simpa [isSame] using h
  rw [Bool.eq_iff_iff, isAbsolute_iff, isAbsolute_iff, hsame]

end Path

namespace Tree

variable {t : Tree} {place : Location}

theorem eq_nothing (h : t.entry = none) : t = nothing := by
  cases t <;> simp_all [entry]

/-- There is nothing below a place that has no directory. -/
theorem subtree_eq_nothing (h : t.entry ≠ some .directory) (hp : place ≠ []) :
    t.subtree place = nothing := by
  cases place with
  | nil => exact (hp rfl).elim
  | cons name place =>
    cases t with
    | directory child => simp [entry] at h
    | nothing => exact subtree_nothing place
    | file bytes => exact subtree_nothing place

end Tree

namespace Disk

variable {d d' : Disk} {trail : Trail} {place start other : Location} {names : List (List Char)}
  {p q : Path} {bytes : ByteArray} {entry : Entry}

theorem place_cons (name : String) (t : Tree) (trail : Trail) :
    Trail.place ((name, t) :: trail) = trail.place ++ [name] := by
  simp [Trail.place]

/-- The names of a trail stand for what is under them on a disk. -/
def Holds (d : Disk) : Trail → Prop
  | [] => True
  | (name, t) :: trail => t = (d.reached trail).child name ∧ d.Holds trail

theorem reached_eq (h : d.Holds trail) : d.reached trail = d.tree.subtree trail.place := by
  induction trail with
  | nil => rfl
  | cons step trail ih =>
    obtain ⟨name, t⟩ := step
    obtain ⟨rfl, hrest⟩ := h
    rw [place_cons, Tree.subtree_append, ← ih hrest]
    rfl

theorem entry_reached (h : d.Holds trail) : (d.reached trail).entry = d.entry trail.place := by
  rw [reached_eq h, Disk.entry]

theorem Holds.step (h : d.Holds trail) (name : List Char) : d.Holds (d.step trail name) := by
  rw [Disk.step]
  split
  · exact h
  · split
    · cases trail with
      | nil => trivial
      | cons _ trail => exact h.2
    · exact ⟨rfl, h⟩

theorem place_step (d : Disk) (trail : Trail) (name : List Char) :
    (d.step trail name).place = trail.place.step name := by
  rw [Disk.step, Location.step]
  split
  · rfl
  · split
    · simp [Trail.place]
    · simp [Trail.place]

/-- Follows names from a place, as `walk` does from a trail. -/
def follow (d : Disk) (place : Location) : List (List Char) → Except FileError Location
  | [] => .ok place
  | name :: rest =>
    match d.entry place with
    | none => .error .notFound
    | some (.file _) => .error .notADirectory
    | some .directory =>
      if nameLimit < byteLength name then .error .tooLong else d.follow (place.step name) rest

theorem walk_eq_follow (names : List (List Char)) (h : d.Holds trail) :
    (d.walk trail names).map Trail.place = d.follow trail.place names ∧
      ∀ found, d.walk trail names = .ok found → d.Holds found := by
  induction names generalizing trail with
  | nil =>
    refine ⟨rfl, ?_⟩
    rintro found hfound
    obtain rfl := Except.ok.inj hfound
    exact h
  | cons name names ih =>
    rw [walk, follow, entry_reached h]
    cases d.entry trail.place with
    | none => exact ⟨rfl, nofun⟩
    | some entry =>
      cases entry with
      | file bytes => exact ⟨rfl, nofun⟩
      | directory =>
        dsimp only
        split
        · exact ⟨rfl, nofun⟩
        · rw [← place_step d]
          exact ih (h.step name)

/-- The place that a path leads to. -/
def placeOf (d : Disk) (p : Path) : Except FileError Location := (d.locate p).map Trail.place

theorem holds_of_locate (h : d.locate p = .ok trail) : d.Holds trail := by
  rw [locate] at h
  split at h
  · cases h
  · split at h
    · cases h
    · split at h
      · cases h
      · have hstart : d.Holds [] := trivial
        exact (walk_eq_follow _ hstart).2 trail h

/-- A path leads somewhere if it can be used at all and its names can be followed. -/
theorem placeOf_eq (d : Disk) (p : Path) : d.placeOf p =
    if p.text.toList.contains '\x00' then .error .holdsNul
    else if p.text.isEmpty then .error .notFound
    else if pathLimit < byteLength p.text.toList then .error .tooLong
    else d.follow [] (d.way p) := by
  have hstart : d.Holds [] := trivial
  have hwalk : _ = d.follow [] _ := (walk_eq_follow (d.way p) hstart).1
  rw [placeOf, locate, ← hwalk]
  split
  · rfl
  · split
    · rfl
    · split <;> rfl

theorem stat_eq_ok_iff : d.stat p = .ok entry ↔
    ∃ place, d.placeOf p = .ok place ∧ d.entry place = some entry := by
  rw [stat, placeOf]
  cases hlocate : d.locate p with
  | error e => simp [Except.map]
  | ok trail =>
    have hentry := entry_reached (holds_of_locate hlocate)
    dsimp only
    rw [hentry]
    cases hplace : d.entry trail.place <;> simp [Except.map, hplace]

theorem follow_eq_foldl (h : d.follow start names = .ok place) :
    place = names.foldl Location.step start := by
  induction names generalizing start with
  | nil => exact (Except.ok.inj h).symm
  | cons name names ih =>
    rw [follow] at h
    split at h
    · cases h
    · cases h
    · split at h
      · cases h
      · exact ih h

theorem follow_of_placeOf (h : d.placeOf p = .ok place) : d.follow [] (d.way p) = .ok place := by
  rw [placeOf_eq] at h
  split at h
  · cases h
  · split at h
    · cases h
    · split at h
      · cases h
      · exact h

theorem way_eq (h : d'.here = d.here) (p : Path) : d'.way p = d.way p := by
  rw [way, way, h]

/-- Paths with the same components, seen from one working directory, lead to the same place. -/
theorem foldl_way_eq (hhere : d'.here = d.here) (h : p.isSame q = true) :
    (d.way p).foldl Location.step [] = (d'.way q).foldl Location.step [] := by
  have hsame : p.components = q.components := by simpa [Path.isSame] using h
  rw [way_eq hhere, way, way, Path.isAbsolute_eq_of_isSame h]
  split
  · rw [Path.foldl_step_eq, Path.foldl_step_eq, hsame]
  · rw [List.foldl_append, List.foldl_append, Path.foldl_step_eq _ p, Path.foldl_step_eq _ q, hsame]

/-- Paths with the same components lead to the same place, if they lead anywhere. -/
theorem place_eq_of_isSame (hhere : d'.here = d.here) (h : p.isSame q = true)
    (hp : d.placeOf p = .ok place) (hq : d'.placeOf q = .ok other) : place = other := by
  rw [follow_eq_foldl (follow_of_placeOf hp), follow_eq_foldl (follow_of_placeOf hq),
    foldl_way_eq hhere h]

/-- One disk has a file where the other has nothing, and nothing else sets them apart. -/
structure AddsFile (d d' : Disk) (place : Location) (bytes : ByteArray) : Prop where
  here : d'.here = d.here
  before : d.entry place = none
  after : d'.entry place = some (.file bytes)
  others : ∀ other, other ≠ place → d'.entry other = d.entry other

/-- No name can be followed from a new file, nor could it before. -/
theorem AddsFile.follow (h : AddsFile d d' place bytes) (start : Location)
    (names : List (List Char)) :
    d'.follow start names = d.follow start names ∨
      d.follow start names = .error .notFound ∧ d'.follow start names = .error .notADirectory := by
  induction names generalizing start with
  | nil => exact Or.inl rfl
  | cons name names ih =>
    by_cases hs : start = place
    · rw [hs, Disk.follow, Disk.follow, h.before, h.after]
      exact Or.inr ⟨rfl, rfl⟩
    · rw [Disk.follow, Disk.follow, h.others start hs]
      cases d.entry start with
      | none => exact Or.inl rfl
      | some entry =>
        cases entry with
        | file bytes => exact Or.inl rfl
        | directory =>
          dsimp only
          split
          · exact Or.inl rfl
          · exact ih _

theorem AddsFile.placeOf (h : AddsFile d d' place bytes) (p : Path) :
    d'.placeOf p = d.placeOf p ∨ (d.placeOf p).isOk = false ∧ (d'.placeOf p).isOk = false := by
  rw [placeOf_eq, placeOf_eq, way_eq h.here]
  rcases h.follow [] (d.way p) with hsame | ⟨hbefore, hafter⟩
  · exact Or.inl (by rw [hsame])
  · rw [hbefore, hafter]
    split
    · exact Or.inl rfl
    · split
      · exact Or.inl rfl
      · split
        · exact Or.inl rfl
        · exact Or.inr ⟨rfl, rfl⟩

/-- What was found before is found as it was. -/
theorem AddsFile.stat_of_ok (h : AddsFile d d' place bytes) (hp : d.stat p = .ok entry) :
    d'.stat p = .ok entry := by
  obtain ⟨other, hother, hentry⟩ := stat_eq_ok_iff.mp hp
  have hplace : d'.placeOf p = .ok other := by
    rcases h.placeOf p with hsame | ⟨hbefore, -⟩
    · rw [hsame, hother]
    · simp [hother, Except.isOk, Except.toBool] at hbefore
  have hne : other ≠ place := by
    rintro rfl
    simp [h.before] at hentry
  exact stat_eq_ok_iff.mpr ⟨other, hplace, by rw [h.others other hne, hentry]⟩

/-- What is found now and was not before is the new file. -/
theorem AddsFile.eq_of_stat (h : AddsFile d d' place bytes) (hp : d'.stat p = .ok entry)
    (hnew : d.stat p ≠ .ok entry) : entry = .file bytes ∧ d'.placeOf p = .ok place := by
  obtain ⟨other, hother, hentry⟩ := stat_eq_ok_iff.mp hp
  have hsame : d.placeOf p = .ok other := by
    rcases h.placeOf p with hsame | ⟨-, hafter⟩
    · rw [← hsame, hother]
    · simp [hother, Except.isOk, Except.toBool] at hafter
  by_cases ho : other = place
  · subst ho
    rw [h.after] at hentry
    exact ⟨(Option.some.inj hentry).symm, hother⟩
  · rw [h.others other ho] at hentry
    exact (hnew (stat_eq_ok_iff.mpr ⟨other, hsame, hentry⟩)).elim

theorem entry_dropLast (h : d.entry place ≠ none) : d.entry place.dropLast ≠ none := by
  rcases List.eq_nil_or_concat' place with rfl | ⟨outer, name, rfl⟩
  · exact h
  · intro hnone
    rw [List.dropLast_concat] at hnone
    apply h
    rw [Disk.entry, Tree.subtree_append, Tree.eq_nothing hnone]
    rfl

/-- A place that names lead to is there, or a directory has room for it. -/
theorem room_of_follow (h : d.follow start names = .ok place)
    (hs : d.entry start = none →
      ∃ outer name, start = outer ++ [name] ∧ d.entry outer = some .directory)
    (hp : d.entry place = none) :
    ∃ outer name, place = outer ++ [name] ∧ d.entry outer = some .directory := by
  induction names generalizing start with
  | nil =>
    obtain rfl := Except.ok.inj h
    exact hs hp
  | cons name names ih =>
    rw [follow] at h
    split at h
    · cases h
    · cases h
    · rename_i hdir
      split at h
      · cases h
      · refine ih h ?_
        intro hnone
        rw [Location.step] at hnone ⊢
        split at hnone
        · simp [hdir] at hnone
        · rename_i hfiller
          split at hnone
          · exact (entry_dropLast (by simp [hdir]) hnone).elim
          · rename_i hdots
            exact ⟨start, String.ofList name, by simp [hfiller, hdots], hdir⟩

theorem entry_below {more : Location} (h : d.entry place ≠ some .directory) (hm : more ≠ []) :
    d.entry (place ++ more) = none := by
  rw [Disk.entry, Tree.subtree_append, Tree.subtree_eq_nothing h hm]
  rfl

/-- One disk has a file where the other has a file or nothing, and nothing else sets them apart. -/
structure SetsFile (d d' : Disk) (place : Location) (bytes : ByteArray) : Prop where
  here : d'.here = d.here
  before : d.entry place ≠ some .directory
  after : d'.entry place = some (.file bytes)
  others : ∀ other, other ≠ place → d'.entry other = d.entry other

theorem SetsFile.addsFile (h : SetsFile d d' place bytes) (hnone : d.entry place = none) :
    AddsFile d d' place bytes :=
  ⟨h.here, hnone, h.after, h.others⟩

/-- Which files are written does not depend on where they are seen from. -/
theorem SetsFile.seenFrom (h : SetsFile d d' place bytes) (here : Path) :
    SetsFile (d.seenFrom here) (d'.seenFrom here) place bytes :=
  ⟨rfl, h.before, h.after, h.others⟩

theorem AddsFile.seenFrom (h : AddsFile d d' place bytes) (here : Path) :
    AddsFile (d.seenFrom here) (d'.seenFrom here) place bytes :=
  ⟨rfl, h.before, h.after, h.others⟩

/-- What could be followed before can be followed still, since it leads through directories. -/
theorem SetsFile.follow (h : SetsFile d d' place bytes) (hd : d.follow start names = .ok other) :
    d'.follow start names = .ok other := by
  induction names generalizing start with
  | nil => exact hd
  | cons name names ih =>
    rw [Disk.follow] at hd ⊢
    split at hd
    · cases hd
    · cases hd
    · rename_i hdir
      have hne : start ≠ place := by
        rintro rfl
        exact h.before hdir
      rw [h.others start hne, hdir]
      split at hd
      · cases hd
      · rename_i hfits
        rw [if_neg hfits]
        exact ih hd

theorem SetsFile.placeOf (h : SetsFile d d' place bytes) (hp : d.placeOf p = .ok other) :
    d'.placeOf p = .ok other := by
  have hfollow := h.follow (follow_of_placeOf hp)
  rw [placeOf_eq] at hp ⊢
  rw [way_eq h.here]
  split at hp
  · cases hp
  · split at hp
    · cases hp
    · split at hp
      · cases hp
      · rename_i hnul hempty hlong
        rw [if_neg hnul, if_neg hempty, if_neg hlong]
        exact hfollow

/-- The written file is found by the path that it was written to. -/
theorem SetsFile.stat (h : SetsFile d d' place bytes) (hp : d.placeOf p = .ok place) :
    d'.stat p = .ok (.file bytes) :=
  stat_eq_ok_iff.mpr ⟨place, h.placeOf hp, h.after⟩

/-- A file put where a directory has room for it changes that place only. -/
theorem setsFile_put {outer : Location} {name : String} (hdir : d.entry outer = some .directory)
    (hplace : d.entry (outer ++ [name]) ≠ some .directory) (bytes : ByteArray) :
    SetsFile d (d.put (outer ++ [name]) (.file bytes)) (outer ++ [name]) bytes := by
  have hself : (d.put (outer ++ [name]) (.file bytes)).entry (outer ++ [name]) =
      some (.file bytes) := entry_put_self d _ hdir
  refine ⟨rfl, hplace, hself, ?_⟩
  intro other hne
  by_cases hbelow : outer ++ [name] <+: other
  · obtain ⟨more, rfl⟩ := hbelow
    have hm : more ≠ [] := by
      rintro rfl
      exact hne (List.append_nil _)
    rw [entry_below (by simp [hself]) hm, entry_below hplace hm]
  · exact entry_put_of_not_prefix d _ hbelow

/-- A file put where nothing was is a new file. -/
theorem addsFile_put {outer : Location} {name : String} (hdir : d.entry outer = some .directory)
    (hnone : d.entry (outer ++ [name]) = none) (bytes : ByteArray) :
    AddsFile d (d.put (outer ++ [name]) (.file bytes)) (outer ++ [name]) bytes :=
  (setsFile_put hdir (by simp [hnone]) bytes).addsFile hnone

/-- A file lies in a directory. -/
theorem room_of_entry (h : d.entry place ≠ none) (hplace : d.entry place ≠ some .directory) :
    ∃ outer name, place = outer ++ [name] ∧ d.entry outer = some .directory := by
  rcases List.eq_nil_or_concat' place with rfl | ⟨outer, name, rfl⟩
  · exact (hplace rfl).elim
  · refine ⟨outer, name, rfl, ?_⟩
    by_contra hdir
    exact h (entry_below hdir (by simp))

/-- A file that is written to a path is all that changes. -/
theorem setsFile_of_write (hw : d.write p bytes = .ok d') :
    ∃ place, d.placeOf p = .ok place ∧ SetsFile d d' place bytes := by
  rw [write] at hw
  cases hlocate : d.locate p with
  | error e => simp [hlocate] at hw
  | ok trail =>
    have hentry := entry_reached (holds_of_locate hlocate)
    have hplace : d.placeOf p = .ok trail.place := by rw [placeOf, hlocate]; rfl
    simp only [hlocate, hentry] at hw
    split at hw
    · cases hw
    · rename_i hfile
      have hroom : ∃ outer name, trail.place = outer ++ [name] ∧
          d.entry outer = some .directory := by
        by_cases hnone : d.entry trail.place = none
        · have hroot : d.entry [] = some .directory := rfl
          exact room_of_follow (follow_of_placeOf hplace) (by simp [hroot]) hnone
        · exact room_of_entry hnone hfile
      obtain ⟨outer, name, hroom, hdir⟩ := hroom
      rw [hroom] at hw hfile hplace
      obtain rfl := Except.ok.inj hw
      exact ⟨_, hplace, setsFile_put hdir hfile bytes⟩

/-- A file written to a path that led to nothing is a new file. -/
theorem addsFile_of_write (hw : d.write p bytes = .ok d') (hp : d.pathExists p = false) :
    ∃ place, AddsFile d d' place bytes := by
  obtain ⟨place, hplace, hsets⟩ := setsFile_of_write hw
  refine ⟨place, hsets.addsFile ?_⟩
  by_contra hsome
  obtain ⟨entry, hsome⟩ := Option.ne_none_iff_exists'.mp hsome
  have hstat := stat_eq_ok_iff.mpr ⟨_, hplace, hsome⟩
  simp [pathExists, hstat, Except.isOk, Except.toBool] at hp

end Disk

end FacetQuery

import HtmlTemplate.Files.Tree
import HtmlTemplate.Proofs.Sequence

/-!
What changes of files leave alone. Making directories changes no file and puts a directory only
where nothing was, at a place that the path or the beginning of the path leads to. This is so also
where it fails half-way. Writing a file changes one place. Since directories stay, a path leads
where it led before.
-/

namespace HtmlTemplate.Files

namespace Tree

theorem find?_put_of_ne {place other : Place} (apart : other ≠ place)
    (items : List (Place × Item)) :
    ((items.filter fun entry => entry.1 != place).find? fun entry => entry.1 == other) =
      items.find? fun entry => entry.1 == other := by
  rw [List.find?_filter]
  congr 1
  funext entry
  by_cases here : entry.1 = other
  · simp [here, apart]
  · simp [here]

/-- An item is found where it was put last. -/
theorem item?_put (tree : Tree) (place other : Place) (item : Item) :
    (tree.put place item).item? other = if other = place then some item else tree.item? other := by
  unfold item? put
  rw [List.find?_append]
  by_cases same : other = place
  · subst same
    have gone : ((tree.items.filter fun entry => entry.1 != other).find? fun entry =>
        entry.1 == other) = none := by
      simp [List.find?_eq_none]
    simp [gone]
  · rw [find?_put_of_ne same]
    simp [Ne.symm same, same]

/-! Paths -/

/-- What is a directory stays one, and paths start where they started. -/
structure KeepsDirectories (before after : Tree) : Prop where
  here : after.here = before.here
  directory : ∀ place, before.item? place = some .directory → after.item? place = some .directory

section Paths

variable {before after : Tree}

theorem KeepsDirectories.follow (keeps : KeepsDirectories before after) {start place : Place}
    {names : List String} (leads : before.follow start names = .ok place) :
    after.follow start names = .ok place := by
  induction names generalizing start with
  | nil => exact leads
  | cons name rest ih =>
    cases rest with
    | nil => exact leads
    | cons second rest =>
      simp only [Tree.follow] at leads ⊢
      split at leads
      next inside =>
        rw [keeps.directory _ inside]
        exact ih leads
      next => cases leads
      next => cases leads

/-- A path leads where it led before. -/
theorem KeepsDirectories.place (keeps : KeepsDirectories before after) {path : Path} {place : Place}
    (leads : before.place path = .ok place) : after.place path = .ok place := by
  rw [Tree.place, keeps.here]
  exact keeps.follow leads

/-- What is put where no directory is. -/
theorem keepsDirectories_put {tree : Tree} {place : Place}
    (free : tree.item? place ≠ some .directory) (item : Item) :
    KeepsDirectories tree (tree.put place item) := by
  refine ⟨rfl, fun other there => ?_⟩
  have apart : other ≠ place := by
    rintro rfl
    exact free there
  rw [item?_put, if_neg apart, there]

end Paths

/-! Making directories -/

/-- What making the directories of a path does to a place: nothing, unless nothing was there and it
is a directory now, to which the path or its beginning leads. -/
def SameOrMade (path : Path) (before after : Tree) (place : Place) : Prop :=
  after.item? place = before.item? place ∨
    before.item? place = none ∧ after.item? place = some .directory ∧
      ∃ names, names <+: path.names ∧ after.place { path with names } = .ok place

/-- Nothing but directories of a path has been made. -/
structure Grows (path : Path) (before after : Tree) : Prop where
  here : after.here = before.here
  places : ∀ place, SameOrMade path before after place

namespace Grows

variable {path : Path} {before mid after : Tree}

theorem refl (path : Path) (tree : Tree) : Grows path tree tree where
  here := rfl
  places _ := .inl rfl

/-- What is there stays as it is. -/
theorem item? (grows : Grows path before after) {place : Place} {item : Item}
    (there : before.item? place = some item) : after.item? place = some item := by
  rcases grows.places place with same | ⟨nothing, -⟩
  · rw [same, there]
  · rw [there] at nothing
    cases nothing

theorem keeps (grows : Grows path before after) : KeepsDirectories before after where
  here := grows.here
  directory _ there := grows.item? there

theorem trans (first : Grows path before mid) (second : Grows path mid after) :
    Grows path before after where
  here := second.here.trans first.here
  places place := by
    rcases second.places place with same | ⟨nothing, made, leads⟩
    · rcases first.places place with still | ⟨nothing, made, names, front, leads⟩
      · exact .inl (same.trans still)
      · exact .inr ⟨nothing, same.trans made, names, front, second.keeps.place leads⟩
    · rcases first.places place with still | ⟨-, made, -⟩
      · exact .inr ⟨still.symm.trans nothing, made, leads⟩
      · -- no place is made twice
        rw [nothing] at made
        cases made

/-- The directories of the beginning of a path are directories of the path. -/
theorem extend {root : String} {front names : List String}
    (grows : Grows { root, names := front } before after) (within : front <+: names) :
    Grows { root, names } before after where
  here := grows.here
  places place := by
    rcases grows.places place with same | ⟨nothing, made, first, starts, leads⟩
    · exact .inl same
    · exact .inr ⟨nothing, made, first, starts.trans within, leads⟩

/-- A file has the content that it had, and no file is new. -/
theorem file_iff (grows : Grows path before after) (place : Place) (content : List UInt8) :
    after.item? place = some (.file content) ↔ before.item? place = some (.file content) := by
  rcases grows.places place with same | ⟨nothing, made, -⟩
  · rw [same]
  · simp [nothing, made]

/-- A path that leads to something is read as before. -/
theorem read (grows : Grows path before after) {other : Path}
    (there : before.exists? other = true) : after.read other = before.read other := by
  obtain ⟨item, found⟩ := Option.isSome_iff_exists.mp there
  unfold Tree.lookup? at found
  split at found
  next place leads =>
    unfold Tree.read
    rw [leads, grows.keeps.place leads]
    simp only [found, grows.item? found]
  next => cases found

end Grows

section Making

variable {tree made : Tree} {path : Path}

theorem grows_makeDirectory (run : tree.makeDirectory path = .ok made) : Grows path tree made := by
  unfold makeDirectory at run
  split at run
  next => cases run
  next place leads =>
    split at run
    next => cases run
    next nothing =>
      cases run
      have free : tree.item? place ≠ some .directory := by simp [nothing]
      have keeps := keepsDirectories_put free .directory
      refine ⟨rfl, fun other => ?_⟩
      by_cases same : other = place
      · subst same
        refine .inr ⟨nothing, by simp [item?_put], path.names, List.prefix_rfl, ?_⟩
        exact keeps.place leads
      · exact .inl (by rw [item?_put, if_neg same])

/-- How a change ends that makes nothing but directories of a path, whether or not it fails. -/
inductive Makes (path : Path) (tree : Tree) : EStateM.Result Failure Tree Unit → Prop where
  | done {after : Tree} (grows : Grows path tree after) : Makes path tree (.ok () after)
  | failed {e : Failure} {after : Tree} (grows : Grows path tree after) :
      Makes path tree (.error e after)

/-- What is made on top of directories that have been made. -/
theorem Makes.after {mid : Tree} {outcome : EStateM.Result Failure Tree Unit}
    (makes : Makes path mid outcome) (first : Grows path tree mid) : Makes path tree outcome := by
  cases makes with
  | done grows => exact .done (first.trans grows)
  | failed grows => exact .failed (first.trans grows)

theorem ensureDirectory_makes (path : Path) (tree : Tree) :
    Makes path tree (ensureDirectory path tree) := by
  unfold ensureDirectory
  cases run : tree.makeDirectory path with
  | ok made => exact .done (grows_makeDirectory run)
  | error e =>
    dsimp only
    split
    · exact .done (.refl path tree)
    · exact .failed (.refl path tree)

/-- The directories above come first. If one of them cannot be made, those before it stay. -/
theorem ensureNames_makes (root : String) (backward : List String) (tree : Tree) :
    Makes { root, names := backward.reverse } tree (ensureNames root backward tree) := by
  induction backward with
  | nil => exact ensureDirectory_makes _ tree
  | cons name above ih =>
    have front : above.reverse <+: (name :: above).reverse := by simp
    unfold ensureNames
    dsimp only
    cases run : tree.makeDirectory { root, names := (name :: above).reverse } with
    | ok made => exact .done (grows_makeDirectory run)
    | error e =>
      dsimp only
      split
      next =>
        -- the directory above is missing: it is made first, and then this one is tried again
        generalize upper : ensureNames root above tree = outcome at ih
        cases ih with
        | failed grows =>
          rw [bind_error upper]
          exact .failed (grows.extend front)
        | @done mid grows =>
          rw [bind_ok upper]
          exact (ensureDirectory_makes _ mid).after (grows.extend front)
      next =>
        split
        · exact .done (.refl _ tree)
        · exact .failed (.refl _ tree)

theorem ensureDirectories_makes (path : Path) (tree : Tree) :
    Makes path tree (ensureDirectories path tree) := by
  have makes := ensureNames_makes path.root path.names.reverse tree
  rwa [List.reverse_reverse] at makes

end Making

/-! Writing -/

/-- A file can be written where no directory is, and its directory is there. -/
def Writable (tree : Tree) (path : Path) : Prop :=
  ∃ place, tree.place path = .ok place ∧ tree.item? place ≠ some .directory

theorem write_eq_ok_iff {tree written : Tree} {path : Path} {content : List UInt8} :
    tree.write path content = .ok written ↔
      ∃ place, tree.place path = .ok place ∧ tree.item? place ≠ some .directory ∧
        written = tree.put place (.file content) := by
  unfold write
  cases leads : tree.place path with
  | error flaw => simp
  | ok place =>
    cases there : tree.item? place with
    | none => simp [there, eq_comm]
    | some item => cases item <;> simp [there, eq_comm]

end Tree

end HtmlTemplate.Files

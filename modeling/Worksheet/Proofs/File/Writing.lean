import Mathlib.Data.List.Infix
import Worksheet.File.Store

/-!
# Writing a file

A path is followed from one directory to the next, so all places on the way to the directory of
a file are directories already when the file is written.  So writing a file changes what stands
at its own place and nothing else: it replaces no directory and makes none.
-/

namespace Worksheet

namespace FileStore

variable {store after : FileStore} {place directory other : Place} {name path text : String}
  {bytes : ByteArray}

/-! ## Directories on the way -/

/-- A place and all places on the way to it are directories. -/
def Opens (store : FileStore) (place : Place) : Prop :=
  ∀ way, way <+: place → store.entryAt? way = some .directory

theorem opens_of_isAround (around : place.isAround = true) : store.Opens place := by
  intro way onTheWay
  have aroundWay : Place.isAround way = true :=
    List.all_eq_true.2 fun name member => List.all_eq_true.1 around name (onTheWay.subset member)
  rw [entryAt?, if_pos aroundWay]

theorem Opens.concat (opens : store.Opens place)
    (found : store.entryAt? (place ++ [name]) = some .directory) :
    store.Opens (place ++ [name]) := by
  intro way onTheWay
  rcases List.prefix_concat_iff.1 onTheWay with rfl | before
  · exact found
  · exact opens way before

theorem Opens.parent (opens : store.Opens place) : store.Opens place.parent := by
  rw [Place.parent]
  split
  · next ups =>
      apply opens_of_isAround
      rw [Place.isAround, List.all_append, Bool.and_eq_true]
      constructor
      · rw [List.all_eq_true] at ups ⊢
        intro name member
        rw [ups name member, Bool.true_or]
      · rfl
  · split
    · exact opens_of_isAround rfl
    · intro way onTheWay
      exact opens way (onTheWay.trans (List.dropLast_prefix place))

theorem Opens.enter (opens : store.Opens place)
    (found : store.entryAt? (place.enter name) = some .directory) :
    store.Opens (place.enter name) := by
  rw [Place.enter] at found ⊢
  split
  · exact opens
  · next notHere =>
    rw [if_neg notHere] at found
    split
    · exact opens.parent
    · next notUp =>
      rw [if_neg notUp] at found
      exact opens.concat found

theorem entryAt?_of_lookUp {found : Option FileEntry}
    (looked : store.lookUp directory name = .ok found) :
    store.entryAt? (directory.enter name) = found := by
  rw [lookUp] at looked
  split at looked
  · cases looked
  · exact Except.ok.inj looked

/-- Names are followed from one directory to the next. -/
theorem Opens.follow (opens : store.Opens place) {names : List String}
    (followed : store.follow place names = .ok directory) :
    store.Opens directory ∧ directory = names.foldl Place.enter place := by
  induction names generalizing place with
  | nil =>
      cases followed
      exact ⟨opens, rfl⟩
  | cons name names ih =>
      rw [FileStore.follow] at followed
      split at followed
      · cases followed
      · cases followed
      · cases followed
      · next found =>
          exact ih (opens.enter (entryAt?_of_lookUp found)) followed

theorem opens_start (path : String) : store.Opens (PathName.ofText path).start := by
  apply opens_of_isAround
  rw [PathName.ofText]
  dsimp only
  split <;> rfl

/-! ## The place of a written file -/

theorem eq_ofText_of_read {parts : PathName} (parsed : PathName.read path = .ok parts) :
    parts = PathName.ofText path := by
  rw [PathName.read] at parsed
  split at parsed
  · cases parsed
  · split at parsed
    · cases parsed
    · split at parsed
      · cases parsed
      · exact (Except.ok.inj parsed).symm

/-- If a chain of two steps succeeds, both do. -/
theorem exists_of_bind_eq_ok {ε α β : Type} {first : Except ε α} {next : α → Except ε β}
    {result : β} (succeeds : (first >>= next) = .ok result) :
    ∃ middle, first = .ok middle ∧ next middle = .ok result := by
  cases first with
  | error fault => cases succeeds
  | ok middle => exact ⟨middle, rfl, succeeds⟩

/-- A file is written at the place of its path, which is in a directory and is none. -/
theorem exists_directory_of_target (found : store.target path = .ok place) :
    place = (PathName.ofText path).place ∧ store.entryAt? place ≠ some .directory ∧
      ∃ directory name, store.Opens directory ∧ place = directory.enter name := by
  rw [target] at found
  obtain ⟨parts, parsed, found⟩ := exists_of_bind_eq_ok found
  obtain ⟨directory, led, found⟩ := exists_of_bind_eq_ok found
  obtain rfl := eq_ofText_of_read parsed
  obtain ⟨opens, reached⟩ := (opens_start path).follow led
  split at found
  · cases found
  · next name last =>
    split at found
    · cases found
    · obtain ⟨entry, looked, found⟩ := exists_of_bind_eq_ok found
      have there := entryAt?_of_lookUp looked
      split at found
      · cases found
      · next noDirectory =>
        obtain rfl := Except.ok.inj found
        refine ⟨?_, ?_, directory, name, opens, rfl⟩
        · rw [reached, PathName.place, ← List.dropLast_append_getLast? name last,
            List.foldl_append]
          rfl
        · rw [there]
          rintro rfl
          exact noDirectory rfl

/-! ## What stays -/

theorem lookup_put (apart : other ≠ place) :
    (store.put place bytes).entries.lookup other = store.entries.lookup other := by
  have filtered : ∀ entries : List (Place × FileEntry),
      (entries.filter fun entry => entry.1 != place).lookup other = entries.lookup other := by
    intro entries
    induction entries with
    | nil => rfl
    | cons entry entries ih =>
        by_cases here : entry.1 = place
        · have passed : (other == entry.1) = false := by
            rw [here]
            exact beq_false_of_ne apart
          rw [List.filter_cons_of_neg (by simp [here]), ih, List.lookup_cons, passed]
        · rw [List.filter_cons_of_pos (by simp [here]), List.lookup_cons, List.lookup_cons, ih]
  rw [put, List.lookup_cons, beq_false_of_ne apart]
  exact filtered store.entries

/-- Below another place there is something afterwards if there has been something before, or
if it is on the way to the new file. -/
theorem any_put :
    ((store.put place bytes).entries.any fun entry => other.isPrefixOf entry.1) =
      (other.isPrefixOf place || store.entries.any fun entry => other.isPrefixOf entry.1) := by
  rw [put, List.any_cons, List.any_filter]
  cases onTheWay : other.isPrefixOf place with
  | true => rfl
  | false =>
      rw [Bool.false_or, Bool.false_or]
      congr 1
      funext entry
      by_cases here : entry.1 = place
      · simp [here, onTheWay]
      · simp [here]

/-- Putting bytes into a directory changes no other place. -/
theorem entryAt?_put (opens : store.Opens directory) (apart : other ≠ directory ++ [name]) :
    (store.put (directory ++ [name]) bytes).entryAt? other = store.entryAt? other := by
  rw [entryAt?, entryAt?, lookup_put apart, any_put]
  cases onTheWay : other.isPrefixOf (directory ++ [name]) with
  | false => rw [Bool.false_or]
  | true =>
      -- What is on the way to the new file has been a directory before.
      have before := opens other ((List.prefix_concat_iff.1
        (List.isPrefixOf_iff_prefix.1 onTheWay)).resolve_left apart)
      rw [entryAt?] at before
      split
      · rfl
      · next notAround =>
        rw [if_neg notAround] at before
        split
        · rfl
        · next absent =>
          rw [absent] at before
          rw [Bool.true_or, if_pos rfl]
          exact before.symm

/-- Entering a directory by a name that leads to none goes one step down. -/
theorem Opens.enter_eq (opens : store.Opens directory)
    (noDirectory : store.entryAt? (directory.enter name) ≠ some .directory) :
    directory.enter name = directory ++ [name] := by
  rw [Place.enter] at noDirectory ⊢
  split
  · next here =>
    rw [if_pos here] at noDirectory
    exact absurd (opens directory (List.prefix_refl _)) noDirectory
  · next notHere =>
    rw [if_neg notHere] at noDirectory
    split
    · next up =>
      rw [if_pos up] at noDirectory
      exact absurd (opens.parent _ (List.prefix_refl _)) noDirectory
    · rfl

/-- Writing a file changes what stands at the place of its path and nothing else. -/
theorem entryAt?_write (written : store.write path text = .ok after)
    (apart : other ≠ (PathName.ofText path).place) :
    after.entryAt? other = store.entryAt? other := by
  rw [write] at written
  split at written
  · cases written
  · next place found =>
    obtain rfl := Except.ok.inj written
    obtain ⟨there, noDirectory, directory, name, opens, rfl⟩ := exists_directory_of_target found
    rw [← there] at apart
    rw [opens.enter_eq noDirectory] at apart ⊢
    exact entryAt?_put opens apart

end FileStore

end Worksheet

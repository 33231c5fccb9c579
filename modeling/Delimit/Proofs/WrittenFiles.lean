import Delimit.Files.Tree

/-!
# Written files

A file that is written is found again under the path that it was written at: what lies
on the way stays a directory, and the file has the bytes that were given.
-/

namespace Delimit.Files.Tree

section

variable
    {tree : Tree}
    {location : Location}
    (bytes : List UInt8)

theorem kind?_write_self :
    (tree.write location bytes).kind? location = some (.file bytes) := by
  rw [kind?, write, List.lookup_cons_self]

/-- Only the written place is looked up in another way than before. -/
theorem lookup_write_of_ne
    {place : Location}
    (other : place ≠ location) :
    (tree.write location bytes).files.lookup place = tree.files.lookup place := by
  have elsewhere : (place == location) = false := by simpa using other
  rw [write, List.lookup_cons, elsewhere]
  dsimp only
  induction tree.files with
  | nil => rfl
  | cons file files induction =>
      obtain ⟨found, content⟩ := file
      rw [List.lookup_cons]
      by_cases written : found = location
      · have same : (place == found) = false := by rw [written, elsewhere]
        rw [List.filter_cons_of_neg (by simp [written]), induction, same]
      · rw [List.filter_cons_of_pos (by simpa using written), List.lookup_cons, induction]

/-- A directory stays one when a file is written. -/
theorem isDirectory_write
    {place : Location}
    (directory : tree.isDirectory place = true) :
    (tree.write location bytes).isDirectory place = true := by
  unfold isDirectory at directory ⊢
  rw [Bool.or_eq_true] at directory ⊢
  refine directory.imp id fun above => ?_
  obtain ⟨file, member, between⟩ := List.any_eq_true.mp above
  rw [write, List.any_cons, Bool.or_eq_true]
  by_cases written : file.1 = location
  · exact .inl (by rw [← written]; exact between)
  · refine .inr (List.any_eq_true.mpr ⟨file, List.mem_filter.mpr ⟨member, ?_⟩, between⟩)
    simpa using written

theorem kind?_write_of_directory
    (free : tree.kind? location ≠ some .directory)
    {place : Location}
    (directory : tree.kind? place = some .directory) :
    (tree.write location bytes).kind? place = some .directory := by
  have other : place ≠ location := by
    rintro rfl
    exact free directory
  rw [kind?, lookup_write_of_ne bytes other]
  rw [kind?] at directory
  split at directory
  · simp at directory
  · split at directory
    · next inside => rw [if_pos (isDirectory_write bytes inside)]
    · contradiction

/-- The way to a place stays the same when a file is written, which is no directory. -/
theorem follow_write
    (free : tree.kind? location ≠ some .directory)
    {names : List (List Char)}
    {start target : Location}
    (followed : tree.follow start names = .ok target) :
    (tree.write location bytes).follow start names = .ok target := by
  induction names generalizing start with
  | nil => exact followed
  | cons name rest induction =>
      rw [follow] at followed ⊢
      split at followed
      · contradiction
      · contradiction
      · next directory =>
          rw [kind?_write_of_directory bytes free directory]
          dsimp only
          split at followed
          · next up =>
              rw [if_pos up]
              exact induction followed
          · next down =>
              rw [if_neg down]
              split at followed
              · next fits =>
                  rw [if_pos fits]
                  exact induction followed
              · contradiction

theorem locate_write
    (free : tree.kind? location ≠ some .directory)
    {path : Path}
    {target : Location}
    (located : tree.locate path = .ok target) :
    (tree.write location bytes).locate path = .ok target := by
  unfold locate at located ⊢
  split at located
  · contradiction
  · next proper =>
      rw [if_neg proper]
      split at located
      · contradiction
      · next short =>
          rw [if_neg short]
          change (tree.follow _ _).mapError _ = _ at located
          have followed : tree.follow (if path.isAbsolute then [] else tree.working) path.names =
              .ok target := by
            generalize tree.follow _ _ = result at located
            cases result with
            | error reason => contradiction
            | ok place => rw [Except.ok.inj located]
          have again := follow_write bytes free followed
          exact congrArg (Except.mapError OpenFault.refused) again

end

/-- A file is read as it was written. -/
theorem bytes_write
    {tree : Tree}
    {path : Path}
    {location : Location}
    (target : tree.writeTarget path = .ok location)
    (bytes : List UInt8) :
    (tree.write location bytes).bytes path = .ok bytes := by
  unfold writeTarget at target
  split at target
  · contradiction
  · next found located =>
      split at target
      · contradiction
      · next free =>
          obtain rfl := Except.ok.inj target
          have again := locate_write bytes free located
          unfold Tree.bytes find
          rw [again]
          dsimp only
          rw [kind?_write_self]

end Delimit.Files.Tree

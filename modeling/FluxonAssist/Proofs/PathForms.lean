import FluxonAssist.Files.Tree

/-!
# Ways to write a path

Two paths are alike if they have the same components. A walk looks at more than the components: a
dot or a slash at the end asks for a directory, and a path may be too long. Where two alike paths
agree on these two points a disk that resolves paths name by name has the same file for both, since
inner dots and repeated slashes change nothing that a walk needs. Trees are such disks.
-/
set_option autoImplicit false
namespace FluxonAssist

namespace Text

theorem mem_consLine_iff (c d : Char) (lines : List (List Char)) :
    (∃ line ∈ consLine d lines, c ∈ line) ↔ c = d ∨ ∃ line ∈ lines, c ∈ line := by
  cases lines with
  | nil => simp [consLine]
  | cons line rest => simp [consLine, or_assoc]

theorem mem_pieces_iff (separator : Char → Bool) (text : List Char) (c : Char)
    (inside : separator c = false) :
    (∃ piece ∈ pieces separator text, c ∈ piece) ↔ c ∈ text := by
  induction text with
  | nil => simp [pieces]
  | cons d rest ih =>
      rw [pieces]
      by_cases cut : separator d = true
      · have differs : c ≠ d := by
          rintro rfl
          rw [inside] at cut
          cases cut
        rw [if_pos cut, List.mem_cons, or_iff_right differs, ← ih]
        simp
      · rw [if_neg cut, mem_consLine_iff, List.mem_cons, ih]

end Text

namespace Path

open FluxonAssist.Text

/-- The names of a path without its dots. -/
def plainNames (path : String) : List String := (names path).filter fun name => name != "."

/-- Whether a path can lead to a directory only. -/
def asksForDirectory (path : String) : Bool :=
  path.toList.getLast? == some '/' || (names path).getLast? == some "."

/-- The two paths ask for the same kind of item, and both or neither are too long. -/
def SameEnding (a b : String) : Prop :=
  asksForDirectory a = asksForDirectory b ∧ (4096 ≤ a.utf8ByteSize ↔ 4096 ≤ b.utf8ByteSize)

instance (a b : String) : Decidable (SameEnding a b) :=
  inferInstanceAs (Decidable (_ ∧ _))

theorem alike_iff (a b : String) : alike a b = true ↔ components a = components b := by
  simp [alike]

theorem isAbsolute_eq (path : String) : isAbsolute path = (components path).1 := by
  unfold components
  split
  · assumption
  · rfl

theorem plainNames_eq (path : String) :
    plainNames path = (components path).2.filter fun name => name != "." := by
  unfold components plainNames
  split
  · rename_i rest _ found
    rw [found]
    simp
  · simp

/-- A character that is no slash stands in one of the names. -/
theorem mem_names_iff (path : String) (c : Char) (inside : c ≠ '/') :
    (∃ name ∈ names path, c ∈ name.toList) ↔ c ∈ path.toList := by
  rw [← mem_pieces_iff (fun c => c == '/') path.toList c (by simpa using inside)]
  constructor
  · rintro ⟨name, member, here⟩
    obtain ⟨piece, kept, rfl⟩ := List.mem_map.mp member
    exact ⟨piece, (List.mem_filter.mp kept).1, by simpa using here⟩
  · rintro ⟨piece, member, here⟩
    have filled : (!piece.isEmpty) = true := by
      cases piece with
      | nil => cases here
      | cons => rfl
    exact ⟨String.ofList piece,
      List.mem_map_of_mem (List.mem_filter.mpr ⟨member, filled⟩), by simpa using here⟩

theorem mem_plainNames_iff (path : String) (c : Char) (noSlash : c ≠ '/') (noDot : c ≠ '.') :
    (∃ name ∈ plainNames path, c ∈ name.toList) ↔ c ∈ path.toList := by
  rw [← mem_names_iff path c noSlash]
  constructor
  · rintro ⟨name, member, here⟩
    exact ⟨name, (List.mem_filter.mp member).1, here⟩
  · rintro ⟨name, member, here⟩
    have other : name ≠ "." := by
      rintro rfl
      exact noDot (by simpa using here)
    exact ⟨name, List.mem_filter.mpr ⟨member, by simpa using other⟩, here⟩

theorem components_eq_nil_iff (path : String) :
    components path = (false, []) ↔ path.toList = [] := by
  constructor
  · intro empty
    have relative : isAbsolute path = false := by rw [isAbsolute_eq, empty]
    have noNames : names path = [] := by
      unfold components at empty
      split at empty
      · cases empty
      · rename_i starts
        cases found : names path with
        | nil => rfl
        | cons name rest =>
            rw [found, Prod.mk.injEq] at empty
            have dot : name = "." := by simpa using (List.filter_eq_nil_iff.mp empty.2) name
            exact absurd (found.trans (by rw [dot])) (starts rest relative)
    cases chars : path.toList with
    | nil => rfl
    | cons c rest =>
        have noSlash : c ≠ '/' := by
          rintro rfl
          rw [isAbsolute, chars] at relative
          cases relative
        have member : c ∈ path.toList := by rw [chars]; exact List.mem_cons_self
        obtain ⟨name, impossible, -⟩ := (mem_names_iff path c noSlash).mpr member
        rw [noNames] at impossible
        cases impossible
  · intro empty
    simp [components, isAbsolute, names, empty, pieces]

end Path

/-- The two paths exist or not alike, and the same is read from both. -/
def SameFile (disk : Disk) (a b : String) : Prop :=
  disk.has a = disk.has b ∧ disk.read a = disk.read b

/-- The disk has one file for all the ways to write a path that end alike. File systems promise this
of inner dots and repeated slashes. -/
def Disk.IgnoresSpelling (disk : Disk) : Prop :=
  ∀ a b, Path.alike a b = true → Path.SameEnding a b → SameFile disk a b

namespace FileTree

open FluxonAssist.Path

theorem enter?_dot (tree : FileTree) (place : Place) :
    tree.enter? place "." = if tree.itemAt? place = some .directory then some place else none := by
  by_cases directory : tree.itemAt? place = some .directory <;> simp [enter?, directory]

theorem enter?_of_not_directory (tree : FileTree) (place : Place) (name : String)
    (file : tree.itemAt? place ≠ some .directory) : tree.enter? place name = none := by
  simp [enter?, file]

/-- Dots on the way change nothing; a dot at the end asks for a directory. -/
theorem walk?_eq_plain (tree : FileTree) (place : Place) (names : List String) :
    tree.walk? place names =
      (tree.walk? place (names.filter fun name => name != ".")).filter fun last =>
        names.getLast? != some "." || tree.itemAt? last == some .directory := by
  induction names generalizing place with
  | nil => rfl
  | cons name rest ih =>
      by_cases dot : name = "."
      · subst dot
        rw [walk?, enter?_dot, List.filter_cons_of_neg (by simp)]
        by_cases directory : tree.itemAt? place = some .directory
        · rw [if_pos directory]
          cases rest with
          | nil => simp [walk?, directory, Option.filter]
          | cons next others =>
              rw [List.getLast?_cons_cons]
              exact ih place
        · rw [if_neg directory]
          -- the next name fails where the dot does; without one, the dot stands at the end
          cases plain : rest.filter fun name => name != "." with
          | nil =>
              have last : ("." :: rest).getLast? = some "." := by
                rw [List.getLast?_cons]
                cases found : rest.getLast? with
                | none => rfl
                | some final =>
                    have member := List.mem_of_getLast? found
                    simpa using (List.filter_eq_nil_iff.mp plain) final member
              simp [walk?, last, directory, Option.filter]
          | cons next others => simp [walk?, enter?_of_not_directory tree place next directory]
      · rw [List.filter_cons_of_pos (by simpa using dot), walk?, walk?]
        cases tree.enter? place name with
        | none => rfl
        | some next =>
            simp only
            rw [ih next]
            cases rest with
            | nil =>
                have differs : (some name != some ".") = true := by simpa using dot
                simp [walk?, differs, Option.filter]
            | cons second others => rw [List.getLast?_cons_cons]

/-- What a path leads to, by its plain names and the kind of item that it asks for. -/
theorem find?_eq_plain (tree : FileTree) (path : String) :
    tree.find? path =
      if path.toList = [] ∨ path.toList.contains (Char.ofNat 0) ∨ 4096 ≤ path.utf8ByteSize then none
      else ((tree.walk? (startOf path) (plainNames path)).bind tree.itemAt?).filter fun item =>
        !asksForDirectory path || item == .directory := by
  rw [find?]
  split
  · rfl
  · rw [walk?_eq_plain tree (startOf path) (names path), ← plainNames]
    cases tree.walk? (startOf path) (plainNames path) with
    | none => rfl
    | some place =>
        cases found : tree.itemAt? place with
        | none =>
            cases (names path).getLast? != some "." <;> simp [found, Option.filter]
        | some item =>
            by_cases directory : item = .directory
            · simp [found, directory, Option.filter]
            · -- a file is found unless a dot or a slash stands at the end
              by_cases dotted : (names path).getLast? = some "."
              · simp [found, directory, dotted, asksForDirectory, Option.filter]
              · by_cases slash : path.toList.getLast? = some '/' <;>
                  simp [found, directory, dotted, slash, asksForDirectory, Option.filter]

/-- Alike paths of the same ending lead to the same item. -/
theorem find?_alike (tree : FileTree) {a b : String} (same : alike a b = true)
    (ending : SameEnding a b) : tree.find? a = tree.find? b := by
  have components := (alike_iff a b).mp same
  have nulIff : a.toList.contains (Char.ofNat 0) = b.toList.contains (Char.ofNat 0) := by
    have through := mem_plainNames_iff a (Char.ofNat 0) (by decide) (by decide)
    rw [plainNames_eq, components, ← plainNames_eq,
      mem_plainNames_iff b (Char.ofNat 0) (by decide) (by decide)] at through
    rw [Bool.eq_iff_iff, List.contains_iff_mem, List.contains_iff_mem]
    exact through.symm
  have emptyIff : a.toList = [] ↔ b.toList = [] := by
    rw [← components_eq_nil_iff, ← components_eq_nil_iff, components]
  have start : startOf a = startOf b := by
    rw [startOf, startOf, isAbsolute_eq, isAbsolute_eq, components]
  have plain : plainNames a = plainNames b := by
    rw [plainNames_eq, plainNames_eq, components]
  simp only [find?_eq_plain, emptyIff, nulIff, ending.2, start, plain, ending.1]

theorem disk_ignoresSpelling (tree : FileTree) : tree.disk.IgnoresSpelling := by
  intro a b same ending
  have found := tree.find?_alike same ending
  constructor <;> simp only [disk, found]

end FileTree
end FluxonAssist

import Marquee.Panel.Library
import Marquee.Proofs.Text.Numerals

/-!
# Animations in a folder

Each folder with frame files in it is an animation of these files, and nothing else is one. The
frames are in the order of the first numbers in the names, however the folder lists them, and by
name where the numbers are equal. But a number that needs more than 64 bits counts as zero, so a
frame with such a number comes before those that it should follow.
-/

namespace Marquee

namespace FrameLibrary

/-- The natural number that the first digits in a name stand for. Without digits it is zero. -/
def firstNumber (name : String) : Nat :=
  Text.valueOf ((name.toList.dropWhile fun c => !Text.isDigit c).takeWhile Text.isDigit)

private theorem readUInt64_digits {digits : List Char} (all : ∀ c ∈ digits, Text.isDigit c = true) :
    ((Text.readUInt64 digits).map UInt64.toNat).getD 0 =
      if Text.valueOf digits < longLimit then Text.valueOf digits else 0 := by
  by_cases empty : digits = []
  · subst empty
    rfl
  · have numeral := Text.readNat_eq_some_iff.mp (Text.readNat_eq_valueOf empty all)
    have read : Text.readUnsigned digits = some (Text.valueOf digits) :=
      Text.readUnsigned_eq_some_iff.mpr (.digits numeral)
    rw [Text.readUInt64, read, Option.bind_eq_bind, Option.bind_some, toUInt64?]
    split
    · next fits => exact UInt64.toNat_ofNat_of_lt fits
    · rfl

private theorem frameNumber_eq (name : String) :
    frameNumber name = if firstNumber name < longLimit then firstNumber name else 0 :=
  readUInt64_digits fun _ member => List.mem_takeWhile_imp member

/-- A name comes before another one by its number, or by its characters if the numbers are equal. -/
def Precedes (number : String → Nat) (left right : String) : Prop :=
  number left < number right ∨ number left = number right ∧ Text.before left right = true

instance (number : String → Nat) (left right : String) : Decidable (Precedes number left right) :=
  inferInstanceAs (Decidable (_ ∨ _))

section

variable {number : String → Nat} {first second third : String}

theorem Precedes.asymm (before : Precedes number first second) : ¬Precedes number second first := by
  rintro (less | ⟨equal, after⟩)
  · rcases before with more | ⟨equal, _⟩ <;> omega
  · rcases before with more | ⟨_, ahead⟩
    · omega
    · rw [Text.before_asymm ahead] at after
      cases after

theorem Precedes.trans (lower : Precedes number first second)
    (upper : Precedes number second third) : Precedes number first third := by
  rcases lower with less | ⟨equal, ahead⟩ <;> rcases upper with more | ⟨level, later⟩
  · exact Or.inl (by omega)
  · exact Or.inl (by omega)
  · exact Or.inl (by omega)
  · exact Or.inr ⟨equal.trans level, Text.before_trans ahead later⟩

private theorem precedes_total (number : String → Nat) (left right : String) :
    left = right ∨ Precedes number left right ∨ Precedes number right left := by
  rcases Nat.lt_trichotomy (number left) (number right) with less | level | more
  · exact Or.inr (Or.inl (Or.inl less))
  · rcases Text.before_total left right with equal | ahead | behind
    · exact Or.inl equal
    · exact Or.inr (Or.inl (Or.inr ⟨level, ahead⟩))
    · exact Or.inr (Or.inr (Or.inr ⟨level.symm, behind⟩))
  · exact Or.inr (Or.inr (Or.inl more))

end

private theorem frameBefore_iff {left right : String × FrameData} :
    frameBefore left right = true ↔ left.1 = right.1 ∨ Precedes frameNumber left.1 right.1 := by
  simp only [frameBefore, Precedes, Bool.or_eq_true, decide_eq_true_eq, Bool.and_eq_true,
    beq_iff_eq, Text.upTo_iff]
  constructor
  · rintro (less | ⟨level, equal | ahead⟩)
    · exact Or.inr (Or.inl less)
    · exact Or.inl equal
    · exact Or.inr (Or.inr ⟨level, ahead⟩)
  · rintro (equal | less | ⟨level, ahead⟩)
    · exact Or.inr ⟨congrArg frameNumber equal, Or.inl equal⟩
    · exact Or.inl less
    · exact Or.inr ⟨level, Or.inr ahead⟩

private theorem frameBefore_trans (first second third : String × FrameData)
    (lower : frameBefore first second = true) (upper : frameBefore second third = true) :
    frameBefore first third = true := by
  rw [frameBefore_iff] at lower upper ⊢
  rcases lower with equal | lower
  · rwa [equal]
  · rcases upper with equal | upper
    · rw [← equal]
      exact Or.inr lower
    · exact Or.inr (lower.trans upper)

private theorem frameBefore_total (left right : String × FrameData) :
    (frameBefore left right || frameBefore right left) = true := by
  rw [Bool.or_eq_true, frameBefore_iff, frameBefore_iff]
  rcases precedes_total frameNumber left.1 right.1 with equal | ahead | behind
  · exact Or.inl (Or.inl equal)
  · exact Or.inl (Or.inr ahead)
  · exact Or.inr (Or.inr behind)

/-- The frame files of a folder, each of them once, in the order of some numbers of their names. -/
structure Arranged (number : String → Nat) (folder : Folder) (files : List (String × FrameData)) :
    Prop where
  ordered : files.Pairwise fun left right => Precedes number left.1 right.1
  mem_iff : ∀ name content, (name, content) ∈ files ↔
    (name, Entry.file content) ∈ folder ∧ isFrameName name = true

theorem Arranged.nodup {number : String → Nat} {folder : Folder}
    {files : List (String × FrameData)} (arranged : Arranged number folder files) :
    files.Nodup := by
  refine arranged.ordered.imp fun ahead same => ?_
  rw [same] at ahead
  exact ahead.asymm ahead

/-- There is one arrangement at most, however the folder is listed. -/
theorem Arranged.unique {number : String → Nat} {folder relisted : Folder}
    {files others : List (String × FrameData)} (arranged : Arranged number folder files)
    (other : Arranged number relisted others) (same : relisted.Perm folder) : others = files := by
  have members : ∀ file, file ∈ others ↔ file ∈ files := by
    rintro ⟨name, content⟩
    rw [other.mem_iff, arranged.mem_iff, same.mem_iff]
  have perm := (List.perm_ext_iff_of_nodup other.nodup arranged.nodup).mpr members
  exact perm.eq_of_pairwise (fun _ _ _ _ ahead behind => absurd behind ahead.asymm)
    other.ordered arranged.ordered

private theorem mem_frameFiles {folder : Folder} {name : String} {content : FrameData} :
    (name, content) ∈ frameFiles folder ↔
      (name, Entry.file content) ∈ folder ∧ isFrameName name = true := by
  rw [frameFiles, List.mem_filterMap]
  constructor
  · rintro ⟨⟨other, entry⟩, member, taken⟩
    cases entry with
    | folder entries => cases taken
    | file data =>
        dsimp only at taken
        split at taken
        · next isFrame =>
            cases taken
            exact ⟨member, isFrame⟩
        · cases taken
  · rintro ⟨member, isFrame⟩
    exact ⟨_, member, if_pos isFrame⟩

private theorem names_frameFiles (folder : Folder) :
    ((frameFiles folder).map Prod.fst).Sublist (folder.map Prod.fst) := by
  induction folder with
  | nil => exact .slnil
  | cons entry rest inductionHypothesis =>
      obtain ⟨name, entry⟩ := entry
      cases entry with
      | folder entries => exact inductionHypothesis.cons name
      | file content =>
          by_cases isFrame : isFrameName name = true
          · simpa [frameFiles, isFrame] using inductionHypothesis
          · simpa [frameFiles, isFrame] using inductionHypothesis.cons name

private theorem arranged_of_perm {number : String → Nat} {folder : Folder}
    {files : List (String × FrameData)} (perm : files.Perm (frameFiles folder))
    (ordered : files.Pairwise fun left right => Precedes number left.1 right.1) :
    Arranged number folder files :=
  ⟨ordered, fun _ _ => perm.mem_iff.trans mem_frameFiles⟩

/-- The frame files of a folder come in the order of the numbers that fit 64 bits. -/
theorem arranged_mergeSort {folder : Folder} (distinct : (folder.map Prod.fst).Nodup) :
    Arranged frameNumber folder ((frameFiles folder).mergeSort frameBefore) := by
  have sorted := List.pairwise_mergeSort frameBefore_trans frameBefore_total (frameFiles folder)
  have perm := List.mergeSort_perm (frameFiles folder) frameBefore
  -- Files of one folder have different names, so that no two of them are level.
  have names := (perm.map Prod.fst).nodup_iff.mpr (distinct.sublist (names_frameFiles folder))
  have different := List.pairwise_map.mp names
  exact arranged_of_perm perm ((sorted.and different).imp fun ⟨before, other⟩ =>
    (frameBefore_iff.mp before).resolve_left other)

private theorem framesOf_eq {folder : Folder} (distinct : (folder.map Prod.fst).Nodup)
    {files : List (String × FrameData)} (arranged : Arranged frameNumber folder files) :
    framesOf folder = files.map Prod.snd :=
  congrArg (List.map Prod.snd) (arranged.unique (arranged_mergeSort distinct) (.refl folder))

/-- The animation that an entry is. -/
def frames? : Entry → Option (List FrameData)
  | .file _ => none
  | .folder entries => if framesOf entries = [] then none else some (framesOf entries)

private theorem animations_addEntry (library : FrameLibrary) (entry : String × Entry)
    (name : String) :
    (library.addEntry entry).animations.get? name =
      if name = entry.1 then (frames? entry.2).or (library.animations.get? name)
      else library.animations.get? name := by
  obtain ⟨own, entry⟩ := entry
  cases entry with
  | file content =>
      rw [addEntry]
      split <;> simp [frames?]
  | folder entries =>
      rw [addEntry, frames?]
      split
      · next none => simp [none]
      · next some =>
          rw [if_neg some, Table.get?_set]
          rfl

private theorem distinct_addEntry {library : FrameLibrary} (distinct : library.animations.Distinct)
    (entry : String × Entry) : (library.addEntry entry).animations.Distinct := by
  obtain ⟨name, entry⟩ := entry
  cases entry with
  | file content =>
      rw [addEntry]
      split <;> exact distinct
  | folder entries =>
      rw [addEntry]
      split
      · exact distinct
      · exact Table.distinct_set name _ distinct

/-- No animation is there twice. -/
theorem distinct_foldl {library : FrameLibrary} (distinct : library.animations.Distinct)
    (assets : Folder) : (assets.foldl addEntry library).animations.Distinct := by
  induction assets generalizing library with
  | nil => exact distinct
  | cons entry rest inductionHypothesis =>
      exact inductionHypothesis (distinct_addEntry distinct entry)

private theorem animations_foldl_of_absent {assets : Folder} {name : String}
    (absent : name ∉ assets.map Prod.fst) (library : FrameLibrary) :
    (assets.foldl addEntry library).animations.get? name = library.animations.get? name := by
  induction assets generalizing library with
  | nil => rfl
  | cons entry rest inductionHypothesis =>
      obtain ⟨other, later⟩ := not_or.mp (List.mem_cons.not.mp absent)
      rw [List.foldl_cons, inductionHypothesis later, animations_addEntry, if_neg other]

private theorem animations_foldl_of_mem {assets : Folder} (distinct : (assets.map Prod.fst).Nodup)
    {name : String} {entry : Entry} (member : (name, entry) ∈ assets) (library : FrameLibrary) :
    (assets.foldl addEntry library).animations.get? name =
      (frames? entry).or (library.animations.get? name) := by
  induction assets generalizing library with
  | nil => cases member
  | cons first rest inductionHypothesis =>
      obtain ⟨fresh, others⟩ := List.nodup_cons.mp distinct
      rw [List.foldl_cons]
      rcases List.mem_cons.mp member with here | later
      · subst here
        rw [animations_foldl_of_absent fresh, animations_addEntry, if_pos rfl]
      · have other : name ≠ first.1 := by
          rintro rfl
          exact fresh (List.mem_map.mpr ⟨_, later, rfl⟩)
        rw [inductionHypothesis others later, animations_addEntry, if_neg other]

/-- The folder as a file system lists it: no name occurs twice in it, nor in the folders in it. -/
structure Listed (assets : Folder) : Prop where
  distinct : (assets.map Prod.fst).Nodup
  inside : ∀ name entries, (name, Entry.folder entries) ∈ assets → (entries.map Prod.fst).Nodup

/-- The animation of a folder among the assets. -/
theorem animation_of_mem {assets : Folder} (listed : Listed assets) {name : String}
    {entries : Folder} (member : (name, Entry.folder entries) ∈ assets)
    {files : List (String × FrameData)} (arranged : Arranged frameNumber entries files) :
    (ofFolder assets).animations.get? name =
      if files = [] then none else some (files.map Prod.snd) := by
  rw [ofFolder, animations_foldl_of_mem listed.distinct member, frames?,
    framesOf_eq (listed.inside name entries member) arranged]
  simp [empty]

private theorem animation_of_not_mem {assets : Folder} (listed : Listed assets) {name : String}
    (absent : ∀ entries, (name, Entry.folder entries) ∉ assets) :
    (ofFolder assets).animations.get? name = none := by
  by_cases known : name ∈ assets.map Prod.fst
  · obtain ⟨⟨_, entry⟩, member, rfl⟩ := List.mem_map.mp known
    cases entry with
    | folder entries => exact absurd member (absent entries)
    | file content => exact animations_foldl_of_mem listed.distinct member empty
  · exact animations_foldl_of_absent known empty

/-- Without numbers that need more than 64 bits the frames are in the order of their numbers. -/
theorem Arranged.of_small {folder : Folder} {files : List (String × FrameData)}
    (arranged : Arranged frameNumber folder files)
    (small : ∀ file ∈ files, firstNumber file.1 < longLimit) :
    Arranged firstNumber folder files where
  ordered := by
    refine arranged.ordered.imp_of_mem fun {left right} first second before => ?_
    have numbers (file : String × FrameData) (member : file ∈ files) :
        frameNumber file.1 = firstNumber file.1 := by
      rw [frameNumber_eq, if_pos (small file member)]
    rwa [Precedes, numbers left first, numbers right second] at before
  mem_iff := arranged.mem_iff

/-- Each folder among the assets that has frame files is one animation, of these files and each of
them once, and nothing else is an animation. However the folder is listed, its frames are in the order
of their numbers, and by name where the numbers are equal. The number of a frame is what the first
digits in its name stand for, or zero if that needs more than 64 bits. -/
theorem animations_ofFolder {assets : Folder} (listed : Listed assets) :
    (∀ name entries, (name, Entry.folder entries) ∈ assets → ∃ files,
      Arranged frameNumber entries files ∧
      (∀ relisted others, relisted.Perm entries → Arranged frameNumber relisted others →
        others = files) ∧
      (ofFolder assets).animations.get? name =
        (if files = [] then none else some (files.map Prod.snd)) ∧
      ((∀ file ∈ files, firstNumber file.1 < longLimit) → Arranged firstNumber entries files)) ∧
    (∀ name, (∀ entries, (name, Entry.folder entries) ∉ assets) →
      (ofFolder assets).animations.get? name = none) ∧
    (ofFolder assets).animations.Distinct ∧
    ∀ name, frameNumber name = if firstNumber name < longLimit then firstNumber name else 0 := by
  refine ⟨fun name entries member => ?_, fun name => animation_of_not_mem listed,
    distinct_foldl Table.distinct_empty assets, frameNumber_eq⟩
  have arranged := arranged_mergeSort (listed.inside name entries member)
  refine ⟨_, arranged, ?_, animation_of_mem listed member arranged, arranged.of_small⟩
  exact fun relisted others same other => arranged.unique other same

/-- A folder as it is listed by name, in which not every file is a frame. -/
def spinning : Folder :=
  [("cover.BMP", .file #[0]), ("frame10.raw", .file #[10]), ("frame2.raw", .file #[2]),
    ("notes2.txt", .file #[9])]

/-- Frame 2 is shown before frame 10, and after the one without a number. -/
theorem animations_ofFolder_spinning :
    Listed [("spin", .folder spinning)] ∧
      (ofFolder [("spin", .folder spinning)]).animations.get? "spin" =
        some [#[0], #[2], #[10]] := by
  have listed : Listed [("spin", .folder spinning)] := ⟨by decide, by simp [spinning]⟩
  have expected : Arranged frameNumber spinning
      [("cover.BMP", #[0]), ("frame2.raw", #[2]), ("frame10.raw", #[10])] :=
    arranged_of_perm (by decide) (by decide)
  obtain ⟨files, _, unique, found, _⟩ :=
    (animations_ofFolder listed).1 "spin" spinning (.head _)
  rw [found, ← unique spinning _ (.refl _) expected]
  exact ⟨listed, rfl⟩

/-- A folder with a frame whose number needs more than 64 bits. -/
def counting : Folder :=
  [("1.raw", .file #[1]), ("18446744073709551616.raw", .file #[2])]

/-- The frame with the greater number is shown first, as its number counts as zero. -/
theorem misordered_counting :
    Listed [("count", .folder counting)] ∧
      Arranged firstNumber counting [("1.raw", #[1]), ("18446744073709551616.raw", #[2])] ∧
      (ofFolder [("count", .folder counting)]).animations.get? "count" =
        some [#[2], #[1]] := by
  have listed : Listed [("count", .folder counting)] := ⟨by decide, by simp [counting]⟩
  have shown : Arranged frameNumber counting
      [("18446744073709551616.raw", #[2]), ("1.raw", #[1])] :=
    arranged_of_perm (by decide) (by decide)
  exact ⟨listed, arranged_of_perm (by decide) (by decide),
    animation_of_mem listed (.head _) shown⟩

end FrameLibrary

end Marquee

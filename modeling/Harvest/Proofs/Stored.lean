import Mathlib
import Harvest.Stored
import Harvest.Proofs.Directory.Lookup
import Harvest.Proofs.Text.Utf8

/-!
# What a program sees of a file system

Of what is stored in a directory a program sees a directory of its own: the entries that it gets to
know, under their names as texts, with a file or a directory that it cannot list as items.  What is
lost in a listing leaves nothing there.
-/

namespace Harvest

/-- Whether a file system permits a name. -/
def IsFileName (name : Bytes) : Prop :=
  (0x2F : UInt8) ∉ name ∧ name ∉ ([[], [0x2E], [0x2E, 0x2E]] : List Bytes)

instance : DecidablePred IsFileName := fun _ => inferInstanceAs (Decidable (_ ∧ _))

open Utf8 in
/-- What a file system permits as a name is one as a text. -/
theorem isName_lossy {name : Bytes} (permitted : IsFileName name) : Path.IsName (lossy name) := by
  obtain ⟨slashless, special⟩ := permitted
  simp only [List.mem_cons, List.not_mem_nil, or_false, not_or] at special
  obtain ⟨filled, notDot, notDots⟩ := special
  rw [Path.IsName, lossy, String.toList_ofList]
  refine ⟨fun slash => slashless (mem_of_mem_lossyChars (by decide) slash), ?_⟩
  have chars {s : String} (same : String.ofList (lossyChars name 0) = s) :
      lossyChars name 0 = s.toList := by rw [← same, String.toList_ofList]
  simp only [List.mem_cons, List.not_mem_nil, or_false, not_or]
  refine ⟨fun same => filled (eq_nil_of_lossyChars (chars same)), fun same => ?_, fun same => ?_⟩
  · obtain ⟨rest, rfl, none⟩ := exists_cons_of_lossyChars (by decide) (chars same)
    obtain rfl := eq_nil_of_lossyChars none
    exact notDot rfl
  · obtain ⟨rest, rfl, dot⟩ := exists_cons_of_lossyChars (by decide) (chars same)
    obtain ⟨rest, rfl, none⟩ := exists_cons_of_lossyChars (by decide) dot
    obtain rfl := eq_nil_of_lossyChars none
    exact notDots rfl

namespace Stored

open Directory (Named WellNamed Sole)

mutual

/-- Whether a file system permits the names of an entry and of those below it. -/
def Permitted : Stored → Prop
  | file name _ _ => IsFileName name
  | directory name _ entries => IsFileName name ∧ PermittedAll entries

/-- Whether a file system permits the names of some entries and of those below them. -/
def PermittedAll : List Stored → Prop
  | [] => True
  | s :: entries => Permitted s ∧ PermittedAll entries

end

mutual

/-- The files of an entry, by the names that lead to them, whether a program sees them or not. -/
def filesOf : Stored → List (List String)
  | file name _ _ => [[Utf8.lossy name]]
  | directory name _ entries => (files entries).map (Utf8.lossy name :: ·)

/-- The files of some entries, by the names that lead to them, whether a program sees them or not. -/
def files : List Stored → List (List String)
  | [] => []
  | s :: entries => filesOf s ++ files entries

end

/-- What a program sees under a name, unless it is a directory that it can list. -/
inductive Contents where
  /-- A file; without `bytes?` it cannot be opened. -/
  | file (bytes? : Option Bytes)
  /-- A directory that cannot be listed. -/
  | locked

mutual

/-- What a program sees of an entry.  What cannot be told to be a directory counts as a file. -/
def seenEntry : Stored → Option (Entry Contents)
  | file _ access bytes =>
      match access with
      | .free => some (.item (.file (some bytes)))
      | .locked => some (.item (.file none))
      | .veiled => some (.item (.file none))
      | .lost => none
  | directory _ access entries =>
      match access with
      | .free => some (.directory (seen entries))
      | .locked => some (.item .locked)
      | .veiled => some (.item (.file none))
      | .lost => none

/-- What a program sees of some entries. -/
def seen : List Stored → List (String × Entry Contents)
  | [] => []
  | s :: entries =>
      match seenEntry s with
      | some entry => (s.shown, entry) :: seen entries
      | none => seen entries

end

mutual

/-- The directories in an entry where something is lost, by the names that lead to them; the directory
of the entry itself if it is lost. -/
def lossesOf : Stored → List (List String)
  | file _ access _ => if access = .lost then [[]] else []
  | directory name access entries =>
      match access with
      | .free => (losses entries).map (Utf8.lossy name :: ·)
      | .locked => []
      | .veiled => []
      | .lost => [[]]

/-- The directories where something is lost, by the names that lead to them, once for each entry that
is lost in their listings. -/
def losses : List Stored → List (List String)
  | [] => []
  | s :: entries => lossesOf s ++ losses entries

end

/-- The directories that cannot be listed, by the names that lead to them. -/
def lockedIn (entries : List Stored) : List (List String) :=
  (Directory.files (seen entries)).filterMap fun item =>
    match item.2 with
    | .file _ => none
    | .locked => some item.1

/-- The directories of which not everything is seen, by the names that lead to them. -/
def barred (entries : List Stored) : List (List String) := losses entries ++ lockedIn entries

/-- What holds of no entries, and of some if it holds of those behind the first, holds always, where
the first is lost, is seen as an item, or is a directory of whose entries it holds too. -/
theorem inductionOn {motive : List Stored → Prop} (entries : List Stored) (nil : motive [])
    (lost : ∀ s entries, seenEntry s = none → lossesOf s = [[]] → motive entries →
      motive (s :: entries))
    (item : ∀ s contents entries, seenEntry s = some (.item contents) → lossesOf s = [] →
      motive entries → motive (s :: entries))
    (directory : ∀ name below entries, motive below → motive entries →
      motive (.directory name .free below :: entries)) : motive entries :=
  match entries with
  | [] => nil
  | .file name access bytes :: entries => by
      have rest := inductionOn entries nil lost item directory
      cases access with
      | free => exact item _ (.file (some bytes)) entries rfl rfl rest
      | locked => exact item _ (.file none) entries rfl rfl rest
      | veiled => exact item _ (.file none) entries rfl rfl rest
      | lost => exact lost _ entries rfl rfl rest
  | .directory name access below :: entries => by
      have inside := inductionOn below nil lost item directory
      have rest := inductionOn entries nil lost item directory
      cases access with
      | free => exact directory name below entries inside rest
      | locked => exact item _ .locked entries rfl rfl rest
      | veiled => exact item _ (.file none) entries rfl rfl rest
      | lost => exact lost _ entries rfl rfl rest

section Seen

variable {s : Stored} {entries : List Stored} {entry : Entry Contents}

theorem seen_cons_of_lost (lost : seenEntry s = none) : seen (s :: entries) = seen entries := by
  rw [seen, lost]

theorem seen_cons (known : seenEntry s = some entry) :
    seen (s :: entries) = (s.shown, entry) :: seen entries := by
  rw [seen, known]

theorem seen_directory (name : Bytes) (below entries : List Stored) :
    seen (.directory name .free below :: entries) =
      (Utf8.lossy name, .directory (seen below)) :: seen entries := by
  rw [seen, seenEntry, shown]

theorem Permitted.isName_shown (permitted : s.Permitted) : Path.IsName s.shown := by
  cases s with
  | file name access bytes => exact isName_lossy permitted
  | directory name access entries => exact isName_lossy permitted.1

/-- What a file system permits as names are names in what a program sees. -/
theorem named_seen (permitted : PermittedAll entries) : Named (seen entries) := by
  induction entries using inductionOn with
  | nil => trivial
  | lost s entries lost _ ih =>
      rw [seen_cons_of_lost lost]
      exact ih permitted.2
  | item s contents entries known _ ih =>
      rw [seen_cons known]
      exact ⟨permitted.1.isName_shown, trivial, ih permitted.2⟩
  | directory name below entries ihBelow ih =>
      obtain ⟨own, others⟩ := permitted
      rw [seen_directory]
      exact ⟨own.isName_shown, ihBelow own.2, ih others⟩

/-- A directory where something is lost is the top, or one of those that are seen. -/
theorem mem_directories_of_mem_losses {names : List String} (member : names ∈ losses entries) :
    names = [] ∨ names ∈ Directory.directories (seen entries) := by
  induction entries using inductionOn generalizing names with
  | nil => cases member
  | lost s entries lost loss ih =>
      rw [losses, loss, List.singleton_append] at member
      rw [seen_cons_of_lost lost]
      exact (List.mem_cons.mp member).elim .inl ih
  | item s contents entries known none ih =>
      rw [losses, none, List.nil_append] at member
      rw [seen_cons known, Directory.directories_item]
      exact ih member
  | directory name below entries ihBelow ih =>
      rw [losses, lossesOf, List.mem_append] at member
      rw [seen_directory, Directory.directories_directory, List.mem_append, List.mem_cons]
      rcases member with inside | later
      · obtain ⟨inner, lost, rfl⟩ := List.mem_map.mp inside
        rcases ihBelow lost with rfl | deeper
        · exact .inr (.inl (.inl rfl))
        · exact .inr (.inl (.inr (List.mem_map_of_mem deeper)))
      · exact (ih later).imp_right .inr

theorem mem_lockedIn_iff {names : List String} :
    names ∈ lockedIn entries ↔ (names, .locked) ∈ Directory.files (seen entries) := by
  rw [lockedIn, List.mem_filterMap]
  constructor
  · rintro ⟨⟨own, contents⟩, member, known⟩
    cases contents with
    | file bytes? => cases known
    | locked =>
        cases known
        exact member
  · exact fun member => ⟨_, member, rfl⟩

theorem ordinary_of_mem_barred (named : Named (seen entries)) {names : List String}
    (member : names ∈ barred entries) : ∀ name ∈ names, Path.IsName name := by
  rcases List.mem_append.mp member with lost | locked
  · rcases mem_directories_of_mem_losses lost with rfl | inside
    · exact nofun
    · exact named.ordinary_directories names inside
  · exact (named.ordinary _ (mem_lockedIn_iff.mp locked)).2

/-- Where there is a file under names without a rival, there is no directory of which not everything
is seen. -/
theorem not_mem_barred_of_file {names : List String} (sole : Sole names (seen entries))
    {bytes? : Option Bytes} (member : (names, .file bytes?) ∈ Directory.files (seen entries)) :
    names ∉ barred entries := by
  intro barred
  rcases List.mem_append.mp barred with lost | locked
  · rcases mem_directories_of_mem_losses lost with rfl | inside
    · exact Directory.not_mem_files_nil member
    · exact sole.not_mem_directories member inside
  · have found := sole.mem_files_iff.mp member
    rw [sole.mem_files_iff.mp (mem_lockedIn_iff.mp locked)] at found
    cases found

end Seen

/-! ## Free access -/

section Free

variable (d : Directory Bytes)

variable {d}

end Free

end Stored

end Harvest

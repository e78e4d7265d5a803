import Mathlib
import Harvest.Proofs.Catalog.SourceFile
import Harvest.Proofs.Plan.Compilation

/-!
# Nothing that is seen is lost when a catalog is loaded

Loading a directory does no more than tell the files of definitions with an extractor from those
with a fault: a file either has its name in the catalog or an error that is about it, never both and
never neither, unless another entry has one of its names.  What is not seen is reported at the
directory where it should have been, but not one by one.
-/

namespace Harvest

/-- A selection to which only elements with the key of `a` can belong is that of `a`. -/
theorem filterMap_eq_of_key {α β κ : Type} [BEq κ] [LawfulBEq κ] {key : α → κ} {l : List α} {a : α}
    (sole : (l.map key).count (key a) ≤ 1) (member : a ∈ l) {f : α → Option β}
    (only : ∀ b ∈ l, key b ≠ key a → f b = none) : l.filterMap f = (f a).toList := by
  obtain ⟨before, after, rfl⟩ := List.append_of_mem member
  rw [List.map_append, List.map_cons, List.count_append, List.count_cons_self] at sole
  have others {rest : List α} (part : rest ⊆ before ++ a :: after)
      (absent : (rest.map key).count (key a) = 0) : rest.filterMap f = [] :=
    List.filterMap_eq_nil_iff.mpr fun b inside => only b (part inside) fun same =>
      List.count_eq_zero.mp absent (same ▸ List.mem_map_of_mem inside)
  rw [List.filterMap_append, List.filterMap_cons,
    others (List.subset_append_left _ _) (by omega),
    others (fun b inside => List.mem_append_right _ (.tail a inside)) (by omega)]
  cases f a <;> rfl

namespace Catalog

open Directory
open Stored (seen barred PermittedAll)

/-- What loading a directory yields. -/
def loaded (dir : String) (entries : List Stored) : Sifted Extractor LoadError :=
  let read := Sources.read dir entries
  { compile read.kept with rejected := read.rejected ++ (compile read.kept).rejected }

section Loaded

variable {dir : String} {entries : List Stored}

theorem wellNamed_loaded (named : Named (seen entries)) : WellNamed (loaded dir entries).kept :=
  (Sources.wellNamed_read named).sift

/-- The catalog of a directory holds nothing but what is extracted from its files. -/
theorem files_loaded_subperm (dir : String) (named : Named (seen entries)) :
    (files (loaded dir entries).kept).Subperm
      ((sources entries).filterMap fun s =>
        (s.extractor dir).toOption.map fun x => (s.names, x)) := by
  refine (files_compile (Sources.wellNamed_read named)).subperm.trans
    ((filterMap_subperm _ (files_read_subperm dir named)).trans (List.Perm.of_eq ?_).subperm)
  rw [definitions, List.filterMap_filterMap]
  refine List.filterMap_congr fun s _ => ?_
  rw [s.toOption_extractor, Option.bind_map, Option.map_bind]
  rfl

/-- It lists nothing but the files without fault. -/
theorem names_loaded_subperm (dir : String) (named : Named (seen entries)) :
    (loaded dir entries).kept.names.Subperm
      (((sources entries).filter fun s => (s.fault? dir).isNone).map fun s =>
        Path.slashed s.names) := by
  rw [(wellNamed_loaded named).names.1.subperm_right, ← List.filterMap_eq_map]
  refine (filterMap_subperm _ (files_loaded_subperm dir named)).trans (List.Perm.of_eq ?_).subperm
  rw [List.filterMap_filterMap, ← List.filterMap_eq_map, List.filterMap_filter]
  refine List.filterMap_congr fun s _ => ?_
  rw [SourceFile.fault?]
  cases s.extractor dir <;> rfl

/-- Nothing is reported but the faults of files and directories of which not everything is seen. -/
theorem rejected_loaded_subperm (dir : String) (named : Named (seen entries)) :
    (loaded dir entries).rejected.Subperm
      (((sources entries).filterMap fun s => s.fault? dir) ++ barredFaults dir entries) := by
  have refused : (compile (Sources.read dir entries).kept).rejected.Subperm
      ((sources entries).filterMap fun s =>
        (s.definition dir).toOption.bind (refusal? s.names)) := by
    rw [rejected_compile (Sources.wellNamed_read named)]
    refine (filterMap_subperm _ (files_read_subperm dir named)).trans (List.Perm.of_eq ?_).subperm
    rw [definitions, List.filterMap_filterMap]
    exact List.filterMap_congr fun s _ => Option.bind_map
  have faults : (((sources entries).filterMap fun s => s.unread? dir) ++
      (sources entries).filterMap fun s =>
        (s.definition dir).toOption.bind (refusal? s.names)).Perm
          ((sources entries).filterMap fun s => s.fault? dir) := by
    simp only [SourceFile.fault?_eq]
    exact filterMap_append_perm fun s _ => s.unread?_or dir
  refine (List.Subperm.append (rejected_read dir named).subperm refused).trans
    (List.Perm.subperm ?_)
  rw [List.append_assoc]
  refine (List.perm_append_comm.append_left _).trans ?_
  rw [← List.append_assoc]
  exact faults.append_right _

/-! ## One file -/

theorem ordinary_of_mem_sources (named : Named (seen entries)) {s : SourceFile}
    (member : s ∈ sources entries) : s.names ≠ [] ∧ ∀ name ∈ s.names, Path.IsName name :=
  named.ordinary _ (of?_of_mem_sources member).1

/-- Under names without a rival there is one file at most. -/
theorem eq_of_names {s t : SourceFile} (sole : Sole s.names (seen entries))
    (member : s ∈ sources entries) (member' : t ∈ sources entries) (same : t.names = s.names) :
    t = s := by
  obtain ⟨shown, known⟩ := of?_of_mem_sources member
  obtain ⟨shown', known'⟩ := of?_of_mem_sources member'
  rw [same] at shown' known'
  have contents := (sole.mem_files_iff.mp shown').symm.trans (sole.mem_files_iff.mp shown)
  rw [Option.some.inj contents] at known'
  exact Option.some.inj (known'.symm.trans known)

theorem count_names_sources_le {names : List String} (sole : Sole names (seen entries)) :
    ((sources entries).map SourceFile.names).count names ≤ 1 := by
  have part : (sources entries).map SourceFile.names =
      ((files (seen entries)).filter fun item => (SourceFile.of? item).isSome).map Prod.fst := by
    rw [sources, List.map_filterMap, ← List.filterMap_eq_map, List.filterMap_filter]
    refine List.filterMap_congr fun item _ => ?_
    cases known : SourceFile.of? item with
    | none => rfl
    | some s => simp [SourceFile.names_of? known]
  rw [part]
  exact ((List.filter_sublist.map Prod.fst).count_le names).trans sole.count_files_le

/-- No error about a directory is about a file. -/
theorem not_concerns_of_mem_barredFaults (named : Named (seen entries)) {s : SourceFile}
    (member : s ∈ sources entries) (sole : Sole s.names (seen entries)) {e : LoadError}
    (about : e ∈ barredFaults dir entries) : e.concerns dir s.names = false := by
  obtain ⟨filled, ordinary⟩ := ordinary_of_mem_sources named member
  have relative := Path.not_isAbsolute_slashed ordinary
  obtain ⟨names, barred, rfl⟩ := List.mem_map.mp about
  rw [LoadError.concerns, decide_eq_false_iff_not]
  intro same
  cases names with
  | nil => exact Path.join_ne relative (Path.slashed_ne_empty filled ordinary) same.symm
  | cons name rest =>
      have others := Stored.ordinary_of_mem_barred named barred
      obtain ⟨front, -, joined⟩ := Path.exists_join_eq dir
      rw [Path.foldl_join others (List.cons_ne_nil name rest), joined _ relative,
        joined _ (Path.not_isAbsolute_slashed others), String.append_right_inj,
        Path.slashed_inj others (List.cons_ne_nil name rest) ordinary filled] at same
      exact Stored.not_mem_barred_of_file sole (of?_of_mem_sources member).1 (same ▸ barred)

/-- Of all that can be reported only its own fault is about a file under names without a rival. -/
theorem filter_concerns_faults (named : Named (seen entries)) {s : SourceFile}
    (member : s ∈ sources entries) (sole : Sole s.names (seen entries)) :
    (((sources entries).filterMap fun s => s.fault? dir) ++ barredFaults dir entries).filter
        (·.concerns dir s.names) = (s.fault? dir).toList := by
  have barred : (barredFaults dir entries).filter (·.concerns dir s.names) = [] :=
    List.filter_eq_nil_iff.mpr fun e about => by
      rw [not_concerns_of_mem_barredFaults named member sole about]
      exact Bool.false_ne_true
  obtain ⟨filled, own⟩ := ordinary_of_mem_sources named member
  rw [List.filter_append, barred, List.append_nil, List.filter_filterMap,
    filterMap_eq_of_key (count_names_sources_le sole) member fun t member' differ => ?_]
  · cases faulty : s.fault? dir with
    | none => rfl
    | some e =>
        rw [Option.filter_some, if_pos ((SourceFile.concerns_of_fault? faulty own own).mpr rfl)]
  · obtain ⟨filled', ordinary⟩ := ordinary_of_mem_sources named member'
    refine Option.filter_eq_none_iff.mpr fun e faulty about => differ ?_
    exact (Path.slashed_inj ordinary filled' own filled).mp
      ((SourceFile.concerns_of_fault? faulty ordinary own).mp about)

/-- That a file is in the catalog if it has no fault, and that its fault is the one error about it
otherwise. -/
def Settled (dir : String) (loaded : Sifted Extractor LoadError) (s : SourceFile) : Prop :=
  match s.extractor dir with
  | .ok x => (s.names, x) ∈ files loaded.kept ∧ Path.slashed s.names ∈ loaded.kept.names ∧
      loaded.rejected.filter (·.concerns dir s.names) = []
  | .error e => Path.slashed s.names ∉ loaded.kept.names ∧
      loaded.rejected.filter (·.concerns dir s.names) = [e]

section Settled

variable {s : SourceFile} (named : Named (seen entries)) (member : s ∈ sources entries)
  (sole : Sole s.names (seen entries))
include named member sole

theorem mem_files_loaded {x : Extractor} (extracted : s.extractor dir = .ok x) :
    (s.names, x) ∈ files (loaded dir entries).kept := by
  rw [← toOption_eq_some_iff, s.toOption_extractor, Option.bind_eq_some_iff] at extracted
  obtain ⟨d, defined, compiled⟩ := extracted
  have read := mem_files_read named member sole (toOption_eq_some_iff.mp defined)
  refine (files_compile (Sources.wellNamed_read named)).mem_iff.mpr
    (List.mem_filterMap.mpr ⟨_, read, ?_⟩)
  rw [compiled, Option.map_some]

theorem mem_rejected_loaded {e : LoadError} (faulty : s.fault? dir = some e) :
    e ∈ (loaded dir entries).rejected := by
  rw [s.fault?_eq, Option.or_eq_some_iff] at faulty
  rw [loaded, List.mem_append]
  rcases faulty with unread | ⟨-, refused⟩
  · refine .inl ((rejected_read dir named).mem_iff.mpr (List.mem_append_left _ ?_))
    exact List.mem_filterMap.mpr ⟨s, member, unread⟩
  · obtain ⟨d, defined, refused⟩ := Option.bind_eq_some_iff.mp refused
    have read := mem_files_read named member sole (toOption_eq_some_iff.mp defined)
    rw [rejected_compile (Sources.wellNamed_read named)]
    exact .inr (List.mem_filterMap.mpr ⟨_, read, refused⟩)

theorem not_mem_names_loaded {e : LoadError} (extracted : s.extractor dir = .error e) :
    Path.slashed s.names ∉ (loaded dir entries).kept.names := by
  have well : WellNamed (loaded dir entries).kept := wellNamed_loaded named
  obtain ⟨filled, own⟩ := ordinary_of_mem_sources named member
  intro listed
  obtain ⟨⟨names, x⟩, here, same⟩ := List.mem_map.mp (well.names.1.mem_iff.mp listed)
  obtain ⟨filled', ordinary⟩ := well.ordinary _ here
  obtain ⟨t, member', held⟩ := List.mem_filterMap.mp ((files_loaded_subperm dir named).subset here)
  obtain ⟨y, extracted', pair⟩ := Option.map_eq_some_iff.mp held
  obtain ⟨rfl, rfl⟩ := Prod.mk.inj pair
  obtain rfl := eq_of_names sole member member'
    ((Path.slashed_inj ordinary filled' own filled).mp same)
  rw [extracted] at extracted'
  cases extracted'

/-- Under names without a rival a file is settled. -/
theorem settled_loaded (dir : String) : Settled dir (loaded dir entries) s := by
  have bound := (rejected_loaded_subperm dir named).filter (·.concerns dir s.names)
  rw [filter_concerns_faults named member sole] at bound
  have own := (ordinary_of_mem_sources named member).2
  rw [Settled]
  cases extracted : s.extractor dir with
  | ok x =>
      rw [SourceFile.fault?, extracted] at bound
      have held := mem_files_loaded named member sole extracted
      exact ⟨held, (wellNamed_loaded named).names.1.mem_iff.mpr (List.mem_map_of_mem held),
        List.subperm_nil.mp bound⟩
  | error e =>
      have faulty : s.fault? dir = some e := SourceFile.fault?_eq_some_iff.mpr extracted
      rw [faulty] at bound
      have reported := List.mem_filter.mpr ⟨mem_rejected_loaded named member sole faulty,
        (SourceFile.concerns_of_fault? faulty own own).mpr rfl⟩
      exact ⟨not_mem_names_loaded named member sole extracted,
        List.perm_singleton.mp (bound.antisymm (List.singleton_subperm_iff.mpr reported))⟩

end Settled

/-! ## All files -/

/-- That what was loaded accounts for the files of definitions that are seen in a directory, and
besides for nothing but the directories of which not everything is seen. -/
structure Accounted (dir : String) (entries : List Stored)
    (loaded : Sifted Extractor LoadError) : Prop where
  /-- The catalog holds nothing but the extractors of the files without fault, each under the names
  of its file. -/
  kept : (files loaded.kept).Subperm
    ((sources entries).filterMap fun s => (s.extractor dir).toOption.map fun x => (s.names, x))
  /-- The catalog lists nothing but the files without fault. -/
  listed : loaded.kept.names.Subperm
    (((sources entries).filter fun s => (s.fault? dir).isNone).map fun s => Path.slashed s.names)
  /-- The errors are faults of the files, and others only for entries that are lost and for
  directories that cannot be listed. -/
  rejected : loaded.rejected.Subperm
    (((sources entries).filterMap fun s => s.fault? dir) ++ barredFaults dir entries)
  /-- Each file without a definition is reported, and so is each entry that is lost and each
  directory that cannot be listed. -/
  unread : (((sources entries).filterMap fun s => s.unread? dir) ++
    barredFaults dir entries).Subperm loaded.rejected
  /-- A file that is seen has its name in the list, or there is an error about it, and this once,
  unless another entry has one of its names. -/
  once : ∀ names bytes?, (names, .file bytes?) ∈ files (seen entries) →
    Sole names (seen entries) → EndsAsSource names →
      loaded.kept.names.count (Path.slashed names) +
        loaded.rejected.countP (·.concerns dir names) = 1
  /-- Which of the two it is, only the file decides. -/
  settled : ∀ s ∈ sources entries, Sole s.names (seen entries) → Settled dir loaded s
  /-- The directories of the catalog are directories that can be listed. -/
  nested : (directories loaded.kept).Subperm (directories (seen entries))
  /-- A directory that can be listed is one of the catalog, even if nothing is in it, unless another
  entry has one of its names. -/
  entered : ∀ names ∈ directories (seen entries), Sole names (seen entries) →
    names ∈ directories loaded.kept
  /-- No file is said to have an unknown form. -/
  formed : ∀ path other, .undecodable path (.unknownFormat other) ∉ loaded.rejected

/-- A file that is settled is listed once, or there is one error about it. -/
theorem Settled.once {loaded : Sifted Extractor LoadError} {s : SourceFile}
    (settled : Settled dir loaded s) (unique : loaded.kept.names.Nodup) :
    loaded.kept.names.count (Path.slashed s.names) +
      loaded.rejected.countP (·.concerns dir s.names) = 1 := by
  rw [List.countP_eq_length_filter]
  rw [Settled] at settled
  split at settled
  · obtain ⟨-, there, none⟩ := settled
    rw [none, List.count_eq_one_of_mem unique there]
    rfl
  · obtain ⟨absent, one⟩ := settled
    rw [one, List.count_eq_zero.mpr absent]
    rfl

theorem accounted_loaded (dir : String) (named : Named (seen entries)) :
    Accounted dir entries (loaded dir entries) := by
  have read : WellNamed (Sources.read dir entries).kept := Sources.wellNamed_read named
  have rejected := rejected_loaded_subperm dir named
  refine ⟨files_loaded_subperm dir named, names_loaded_subperm dir named, rejected, ?_,
    fun names bytes? member sole ends => ?_,
    fun s member sole => settled_loaded named member sole dir, ?_, fun names member sole => ?_,
    fun file other member => ?_⟩
  · exact (rejected_read dir named).symm.subperm.trans (List.sublist_append_left _ _).subperm
  · obtain ⟨form, source⟩ := mem_sources_iff.mpr ⟨member, ends⟩
    exact (settled_loaded named source sole dir).once (wellNamed_loaded named).nodup_names
  · exact read.directories_sift.subperm.trans (Sources.directories_read_subperm dir entries)
  · exact read.directories_sift.mem_iff.mpr (Sources.mem_directories_read sole member)
  · rcases List.mem_append.mp (rejected.subset member) with faulty | barred
    · obtain ⟨s, -, unknown⟩ := List.mem_filterMap.mp faulty
      exact s.fault?_ne_unknownFormat file other unknown
    · obtain ⟨_, -, unread⟩ := List.mem_map.mp barred
      cases unread

end Loaded

/-- Loading fails if and only if the directory cannot be listed itself.  Otherwise each file of a
definition that is seen in it, at any depth, is accounted for once, and each directory that can be
listed stays, unless there is another entry under one of the names that lead there.  Nothing else is
in the catalog, and nothing else is reported but each directory that cannot be listed and each entry
that is lost in a listing. -/
theorem load_accounted (dir : String) (listing? : Option (List Stored))
    (permitted : ∀ entries ∈ listing?, PermittedAll entries) :
    match listing? with
    | none => loadListing dir listing? = .error (.unreadable dir)
    | some entries =>
        ∃ loaded, loadListing dir listing? = .ok loaded ∧ Accounted dir entries loaded := by
  cases listing? with
  | none => rfl
  | some entries => exact ⟨_, rfl, accounted_loaded dir (Stored.named_seen (permitted entries rfl))⟩

/-- A file with a definition that says nothing. -/
def emptyFile : SourceFile := ⟨["a.JSON"], .json, some (Bytes.ofString "\x7b\x7d")⟩

/-- A file that should hold a definition but is no text. -/
def brokenFile : SourceFile := ⟨["sub", "b.c.Yml"], .yaml, some [0x80]⟩

/-- A file that cannot be opened, with a name that is no text. -/
def lockedFile : SourceFile := ⟨["\uFFFD.xml"], .xml, none⟩

/-- These files in a listing with files of something else, a directory in which there is nothing, one
that loses an entry, and one that cannot be listed. -/
def mixedListing : List Stored :=
  [.file (Bytes.ofString "a.JSON") .free (Bytes.ofString "\x7b\x7d"),
    .file (Bytes.ofString "notes.txt") .veiled [],
    .directory (Bytes.ofString "sub") .free
      [.directory (Bytes.ofString "empty") .free [],
        .file (Bytes.ofString "b.c.Yml") .free [0x80],
        .file (Bytes.ofString "c.xml") .lost []],
    .file (0xFF :: Bytes.ofString ".xml") .locked [],
    .directory (Bytes.ofString "shut") .locked [.file (Bytes.ofString "d.xml") .free []]]

theorem seen_mixedListing : seen mixedListing =
    [("a.JSON", .item (.file emptyFile.bytes?)), ("notes.txt", .item (.file none)),
      ("sub", .directory [("empty", .directory []), ("b.c.Yml", .item (.file brokenFile.bytes?))]),
      ("\uFFFD.xml", .item (.file none)), ("shut", .item .locked)] := by cbv

theorem sources_mixedListing : sources mixedListing = [emptyFile, brokenFile, lockedFile] := by
  rw [sources, seen_mixedListing]
  cbv

theorem barred_mixedListing : barred mixedListing = [["sub"], ["shut"]] := by cbv

theorem permittedAll_mixedListing : PermittedAll mixedListing := by
  simp only [mixedListing, PermittedAll, Stored.Permitted]
  decide +kernel

theorem fault?_emptyFile : emptyFile.fault? "defs" = none := by
  have definition : emptyFile.definition "defs" = .ok { field := { type := "struct" } } := by cbv
  have rooted : Definition.withRootType { field := { type := "struct" } } =
      { field := { type := "struct" } } := by
    have trimmed : Text.trim "struct" = "struct" := by cbv
    simp [Definition.withRootType, trimmed]
  have reads : Extractor.readsMime "" = true := by
    have blank : Text.lowerAscii (Text.trim "") = "" := by cbv
    simp [Extractor.readsMime, blank]
  have gate : TextFilter.compile none = .ok {} := rfl
  have lines : XPath.Query.compileLines .path {} = .ok [] := by cbv
  have shape : Shape.parse? "struct" = some ⟨.struct, false⟩ := by cbv
  have plan : Plan.compile { type := "struct" } =
      .ok (.node ⟨"", ⟨.struct, false⟩, [], {}, {}, false, false, false, false, false⟩ []) :=
    Plan.compile_eq_ok_iff.mpr ⟨⟨rfl, lines, rfl, rfl, shape, rfl, rfl, rfl, rfl, rfl⟩, .nil⟩
  simp only [SourceFile.fault?, SourceFile.extractor, definition, Extractor.compile, rooted, reads,
    gate, plan]
  rfl

theorem fault?_brokenFile :
    brokenFile.fault? "defs" = some (.unreadable "defs/sub/b.c.Yml") := by cbv

theorem fault?_lockedFile : lockedFile.fault? "defs" = some (.unreadable "defs/\uFFFD.xml") := by cbv

theorem load_accounted_mixedListing :
    PermittedAll mixedListing ∧
    (sources mixedListing).map (·.fault? "defs") =
      [none, some (.unreadable "defs/sub/b.c.Yml"), some (.unreadable "defs/\uFFFD.xml")] ∧
    (∀ s ∈ sources mixedListing, Sole s.names (seen mixedListing)) ∧
    barred mixedListing = [["sub"], ["shut"]] ∧
    ∃ loaded, loadListing "defs" (some mixedListing) = .ok loaded ∧
      Accounted "defs" mixedListing loaded := by
  have permitted : PermittedAll mixedListing := permittedAll_mixedListing
  refine ⟨permitted, ?_, ?_, barred_mixedListing,
    load_accounted "defs" (some mixedListing) (by simpa using permitted)⟩
  · rw [sources_mixedListing, List.map_cons, List.map_cons, List.map_singleton, fault?_emptyFile,
      fault?_brokenFile, fault?_lockedFile]
  · rw [sources_mixedListing, seen_mixedListing]
    simp [emptyFile, brokenFile, lockedFile, Sole]

/-- A directory that cannot be listed, with a file of a definition. -/
def lockedListing : List Stored :=
  [.directory (Bytes.ofString "shop") .locked
    [.file (Bytes.ofString "a.json") .free (Bytes.ofString "\x7b\x7d")]]

/-- Two files of definitions whose names are the same text. -/
def collidingListing : List Stored :=
  [.file (0xFF :: Bytes.ofString ".json") .free (Bytes.ofString "\x7b\"mime\": \"pdf\"\x7d"),
    .file (0xFE :: Bytes.ofString ".json") .free (Bytes.ofString "\x7b\"mime\": \"doc\"\x7d")]

/-- A file that cannot be decoded, and one that does not compile in a directory called like the
directory that both are in. -/
def echoingListing : List Stored :=
  [.file (Bytes.ofString "a.json") .free (Bytes.ofString "["),
    .directory (Bytes.ofString "patterns") .free
      [.file (Bytes.ofString "a.json") .free (Bytes.ofString "\x7b\"mime\": \"pdf\"\x7d")]]

/-- Not every file that is stored is accounted for.  Of a directory that cannot be listed there is
one error and no catalog, and nothing is said about the file in it; of two files whose names are the
same text only the one that is listed last gets through to the compiler.  And an error does not tell
by its path alone which file it is about. -/
theorem load_unaccounted :
    (Stored.files lockedListing = [["shop", "a.json"]] ∧
      loadListing "patterns" (some lockedListing) = .ok ⟨[], [.unreadable "patterns/shop"]⟩) ∧
    (Stored.files collidingListing = [["\uFFFD.json"], ["\uFFFD.json"]] ∧
      loadListing "patterns" (some collidingListing) =
        .ok ⟨[], [.uncompilable "\uFFFD.json" (.unknownMime "doc")]⟩) ∧
    (Stored.files echoingListing = [["a.json"], ["patterns", "a.json"]] ∧
      loadListing "patterns" (some echoingListing) =
        .ok ⟨[("patterns", .directory [])],
          [.undecodable "patterns/a.json" .json,
            .uncompilable "patterns/a.json" (.unknownMime "pdf")]⟩) := by
  refine ⟨⟨?_, ?_⟩, ⟨?_, ?_⟩, ?_, ?_⟩ <;> cbv

end Catalog

end Harvest

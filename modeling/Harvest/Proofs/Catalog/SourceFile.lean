import Mathlib
import Harvest.Proofs.Catalog.Reading
import Harvest.Proofs.Definition.Decoding

/-!
# Files of definitions

A directory is looked at as the list of the files of definitions that are seen in it, at any depth,
each with the names that lead to it.  Each of them gives an extractor or has one fault.  The two
passes, reading and compiling, follow one another, so what they do to a file is what reading and
compiling do to it alone.
-/

namespace Harvest

/-- Two selections of which no element of the list takes part in both, put together. -/
theorem filterMap_append_perm {α β : Type} {first second : α → Option β} {l : List α}
    (apart : ∀ a ∈ l, first a = none ∨ second a = none) :
    (l.filterMap first ++ l.filterMap second).Perm
      (l.filterMap fun a => (first a).or (second a)) := by
  induction l with
  | nil => exact .nil
  | cons a l ih =>
      have rest := ih fun b member => apart b (.tail _ member)
      simp only [List.filterMap_cons]
      rcases apart a (.head _) with none₁ | none₂
      · rw [none₁, Option.none_or]
        cases second a with
        | none => exact rest
        | some b => exact List.perm_middle.trans (rest.cons b)
      · rw [none₂, Option.or_none]
        cases first a with
        | none => exact rest
        | some b => exact rest.cons b

theorem filterMap_subperm {α β : Type} (f : α → Option β) {l l' : List α} (part : l.Subperm l') :
    (l.filterMap f).Subperm (l'.filterMap f) := by
  obtain ⟨_, same, sublist⟩ := part
  exact ⟨_, same.filterMap f, sublist.filterMap f⟩

theorem toOption_eq_some_iff {ε α : Type} {r : Except ε α} {a : α} :
    r.toOption = some a ↔ r = .ok a := by
  cases r <;> simp [Except.toOption]

/-- Whether an error is about the file to which the names lead in the directory at `dir`.  What
cannot be read is reported with its whole path, what cannot be compiled with the path below
`dir`. -/
def LoadError.concerns (dir : String) (names : List String) : LoadError → Bool
  | unreadable path => path = Path.join dir (Path.slashed names)
  | undecodable path _ => path = Path.join dir (Path.slashed names)
  | uncompilable path _ => path = Path.slashed names

namespace Catalog

open Directory
open Stored (Contents seen barred lockedIn)

/-! ## Files of definitions -/

/-- The error about a definition that does not compile. -/
def refusal? (names : List String) (d : Definition) : Option LoadError :=
  match Extractor.compile d with
  | .error defect => some (.uncompilable (Path.slashed names) defect)
  | .ok _ => none

/-- A file of a definition, with the names that lead to it; without `bytes?` it cannot be opened. -/
structure SourceFile where
  names : List String
  form : Definition.Form
  bytes? : Option Bytes

namespace SourceFile

/-- What is seen under some names as a file of a definition, if it is a file and the ending of its
name says so. -/
def of? (item : List String × Contents) : Option SourceFile :=
  match item.2 with
  | .file bytes? =>
      ((item.1.getLast?.bind Path.ending?).bind Definition.Form.ofEnding?).map fun form =>
        ⟨item.1, form, bytes?⟩
  | .locked => none

theorem names_of? {item : List String × Contents} {s : SourceFile} (known : of? item = some s) :
    s.names = item.1 := by
  rw [of?] at known
  split at known
  · obtain ⟨form, -, rfl⟩ := Option.map_eq_some_iff.mp known
    rfl
  · cases known

variable (dir : String) (file : SourceFile)

/-- The path of the file with those of the folder it is in. -/
def path : String := Path.join dir (Path.slashed file.names)

/-- The definition in the file. -/
def definition : Except LoadError Definition :=
  match file.bytes?.bind Bytes.text? with
  | none => .error (.unreadable (file.path dir))
  | some text =>
      match file.form.read text with
      | .error e => .error (.undecodable (file.path dir) e)
      | .ok d => .ok d.withRootType

/-- The extractor that the file is for. -/
def extractor : Except LoadError Extractor :=
  match file.definition dir with
  | .error e => .error e
  | .ok d =>
      match Extractor.compile d with
      | .error defect => .error (.uncompilable (Path.slashed file.names) defect)
      | .ok x => .ok x

/-- Why there is no definition in the file. -/
def unread? : Option LoadError :=
  match file.definition dir with
  | .error e => some e
  | .ok _ => none

/-- What is wrong with the file. -/
def fault? : Option LoadError :=
  match file.extractor dir with
  | .error e => some e
  | .ok _ => none

variable {dir file}

theorem fault?_eq_some_iff {e : LoadError} :
    file.fault? dir = some e ↔ file.extractor dir = .error e := by
  rw [fault?]
  cases file.extractor dir <;> simp

/-- What can be wrong with a file: it cannot be opened or its bytes are no text, or the text is not
written in the form that the name of the file tells, or the definition does not compile. -/
theorem fault?_cases {e : LoadError} (faulty : file.fault? dir = some e) :
    (file.bytes?.bind Bytes.text? = none ∧ e = .unreadable (file.path dir)) ∨
    (∃ text error, file.bytes?.bind Bytes.text? = some text ∧ file.form.read text = .error error ∧
      e = .undecodable (file.path dir) error) ∨
    ∃ text d defect, file.bytes?.bind Bytes.text? = some text ∧ file.form.read text = .ok d ∧
      Extractor.compile d.withRootType = .error defect ∧
      e = .uncompilable (Path.slashed file.names) defect := by
  rw [fault?_eq_some_iff, extractor, definition] at faulty
  cases decoded : file.bytes?.bind Bytes.text? with
  | none =>
      rw [decoded] at faulty
      exact .inl ⟨rfl, (Except.error.inj faulty).symm⟩
  | some text =>
      rw [decoded] at faulty
      dsimp only at faulty
      cases read : file.form.read text with
      | error error =>
          rw [read] at faulty
          exact .inr (.inl ⟨text, error, rfl, read, (Except.error.inj faulty).symm⟩)
      | ok d =>
          rw [read] at faulty
          dsimp only at faulty
          cases compiled : Extractor.compile d.withRootType with
          | error defect =>
              rw [compiled] at faulty
              exact .inr (.inr
                ⟨text, d, defect, rfl, read, compiled, (Except.error.inj faulty).symm⟩)
          | ok x =>
              rw [compiled] at faulty
              cases faulty

/-- What is extracted from the file comes from the definition in it. -/
theorem toOption_extractor (dir : String) (file : SourceFile) : (file.extractor dir).toOption =
    (file.definition dir).toOption.bind fun d => (Extractor.compile d).toOption := by
  rw [extractor]
  cases file.definition dir with
  | error e => rfl
  | ok d =>
      dsimp only [Except.toOption, Option.bind_some]
      cases Extractor.compile d <;> rfl

/-- What is wrong with the file is that there is no definition in it, or that this does not
compile. -/
theorem fault?_eq (dir : String) (file : SourceFile) : file.fault? dir =
    (file.unread? dir).or ((file.definition dir).toOption.bind (refusal? file.names)) := by
  rw [fault?, extractor, unread?]
  cases file.definition dir with
  | error e => rfl
  | ok d =>
      dsimp only [Except.toOption, Option.bind_some]
      rw [refusal?]
      cases Extractor.compile d <;> rfl

/-- One of the two at most. -/
theorem unread?_or (dir : String) (file : SourceFile) : file.unread? dir = none ∨
    (file.definition dir).toOption.bind (refusal? file.names) = none := by
  rw [unread?]
  cases file.definition dir with
  | error e => exact .inr rfl
  | ok d => exact .inl rfl

theorem path_eq_iff (own : ∀ name ∈ file.names, Path.IsName name) {names : List String}
    (other : ∀ name ∈ names, Path.IsName name) :
    file.path dir = Path.join dir (Path.slashed names) ↔
      Path.slashed file.names = Path.slashed names := by
  obtain ⟨front, -, joined⟩ := Path.exists_join_eq dir
  rw [path, joined _ (Path.not_isAbsolute_slashed own),
    joined _ (Path.not_isAbsolute_slashed other)]
  exact String.append_right_inj front

/-- What is wrong with a file is about this file and about no other. -/
theorem concerns_of_fault? {e : LoadError} (faulty : file.fault? dir = some e)
    (own : ∀ name ∈ file.names, Path.IsName name) {names : List String}
    (other : ∀ name ∈ names, Path.IsName name) :
    e.concerns dir names = true ↔ Path.slashed file.names = Path.slashed names := by
  rcases fault?_cases faulty with ⟨-, rfl⟩ | ⟨_, _, -, -, rfl⟩ | ⟨_, _, _, -, -, -, rfl⟩
  · rw [LoadError.concerns, decide_eq_true_iff, path_eq_iff own other]
  · rw [LoadError.concerns, decide_eq_true_iff, path_eq_iff own other]
  · rw [LoadError.concerns, decide_eq_true_iff]

/-- A file whose name tells its form is not said to have an unknown one. -/
theorem fault?_ne_unknownFormat (path other : String) :
    file.fault? dir ≠ some (.undecodable path (.unknownFormat other)) := by
  intro faulty
  rcases fault?_cases faulty with ⟨-, unread⟩ | ⟨_, _, -, failed, same⟩ | ⟨_, _, _, -, -, -, bad⟩
  · cases unread
  · obtain ⟨-, rfl⟩ := LoadError.undecodable.inj same
    cases Definition.Form.form?_of_read failed
  · cases bad

end SourceFile

/-- The files of definitions that are seen in a directory and below. -/
def sources (entries : List Stored) : List SourceFile :=
  (files (seen entries)).filterMap SourceFile.of?

/-- The endings by which files of definitions are known, in any case. -/
theorem isSome_ofEnding?_iff (ending : String) :
    (Definition.Form.ofEnding? ending).isSome ↔
      Text.lowerAscii ending ∈ ["xml", "yaml", "yml", "json"] := by
  rw [Definition.Form.ofEnding?]
  split <;> simp_all

/-- Whether the last of the names that lead to a file ends as that of a file of a definition. -/
def EndsAsSource (names : List String) : Prop :=
  ∃ ending ∈ names.getLast?.bind Path.ending?,
    Text.lowerAscii ending ∈ ["xml", "yaml", "yml", "json"]

/-- The files of definitions are those whose names have one of the endings. -/
theorem mem_sources_iff {entries : List Stored} {names : List String} {bytes? : Option Bytes} :
    (∃ form, ⟨names, form, bytes?⟩ ∈ sources entries) ↔
      (names, .file bytes?) ∈ files (seen entries) ∧ EndsAsSource names := by
  simp only [EndsAsSource, sources, List.mem_filterMap, ← isSome_ofEnding?_iff,
    Option.isSome_iff_exists]
  constructor
  · rintro ⟨form, ⟨own, contents⟩, member, known⟩
    cases contents with
    | locked => cases known
    | file own? =>
        obtain ⟨_, formed, same⟩ := Option.map_eq_some_iff.mp known
        obtain ⟨rfl, rfl, rfl⟩ := SourceFile.mk.inj same
        obtain ⟨ending, ends, formed⟩ := Option.bind_eq_some_iff.mp formed
        exact ⟨member, ending, ends, _, formed⟩
  · rintro ⟨member, ending, ends, form, formed⟩
    refine ⟨form, (names, .file bytes?), member, Option.map_eq_some_iff.mpr ⟨form, ?_, rfl⟩⟩
    exact Option.bind_eq_some_iff.mpr ⟨ending, ends, formed⟩

/-! ## The two passes -/

section Passes

variable {dir : String} {item : List String × Contents}

theorem ofPath?_foldl_join (dir : String) {names : List String} (filled : names ≠ [])
    (ordinary : ∀ name ∈ names, Path.IsName name) :
    Definition.Form.ofPath? (names.foldl Path.join dir) =
      (names.getLast?.bind Path.ending?).bind Definition.Form.ofEnding? := by
  obtain ⟨before, name, rfl⟩ := (List.eq_nil_or_concat' names).resolve_left filled
  have last : Path.IsName name := ordinary name (by simp)
  rw [List.foldl_append, List.foldl_cons, List.foldl_nil, Definition.Form.ofPath?,
    Path.fileName?_join last, List.getLast?_concat]

/-- What reading does to a file in its directory is what reading it alone gives. -/
theorem readFile_eq {names : List String} (filled : names ≠ [])
    (ordinary : ∀ name ∈ names, Path.IsName name) (bytes? : Option Bytes) :
    Sources.readFile (names.foldl Path.join dir) bytes? =
      match SourceFile.of? (names, .file bytes?) with
      | none => .ignored
      | some s =>
          match s.definition dir with
          | .ok d => .kept d
          | .error e => .rejected e := by
  have form := ofPath?_foldl_join dir filled ordinary
  simp only [Sources.readFile, Definition.isSource, Definition.ofFile, form, SourceFile.of?]
  cases (names.getLast?.bind Path.ending?).bind Definition.Form.ofEnding? with
  | none => rfl
  | some form =>
      simp only [Option.map_some, Option.isSome_some, if_true, SourceFile.definition,
        SourceFile.path, ← Path.foldl_join ordinary filled]
      cases bytes?.bind Bytes.text? with
      | none => rfl
      | some text =>
          dsimp only
          cases form.read text <;> rfl

/-- What compiling does to a definition in its directory is what compiling it alone gives. -/
theorem compileSource_eq {names : List String} (filled : names ≠ [])
    (ordinary : ∀ name ∈ names, Path.IsName name) (d : Definition) :
    compileSource (names.foldl Path.join "") d =
      match Extractor.compile d with
      | .ok x => .kept x
      | .error defect => .rejected (.uncompilable (Path.slashed names) defect) := by
  rw [Path.foldl_join ordinary filled, Path.join_empty (Path.not_isAbsolute_slashed ordinary)]
  rfl

/-- What becomes of what is seen is what becomes of the file that it is alone. -/
theorem kept?_readContents (filled : item.1 ≠ [])
    (ordinary : ∀ name ∈ item.1, Path.IsName name) :
    (Sources.readContents (item.1.foldl Path.join dir) item.2).kept? =
      (SourceFile.of? item).bind fun s => (s.definition dir).toOption := by
  obtain ⟨names, contents⟩ := item
  cases contents with
  | locked => rfl
  | file bytes? =>
      rw [Sources.readContents, readFile_eq filled ordinary]
      cases SourceFile.of? (names, .file bytes?) with
      | none => rfl
      | some s =>
          dsimp only [Option.bind_some]
          cases s.definition dir <;> rfl

/-- The error about a directory that cannot be listed. -/
def lockedFault? (dir : String) (item : List String × Contents) : Option LoadError :=
  match item.2 with
  | .file _ => none
  | .locked => some (.unreadable (item.1.foldl Path.join dir))

/-- What is rejected is a file in which there is no definition, or a directory that cannot be
listed. -/
theorem rejected?_readContents (filled : item.1 ≠ [])
    (ordinary : ∀ name ∈ item.1, Path.IsName name) :
    (Sources.readContents (item.1.foldl Path.join dir) item.2).rejected? =
      ((SourceFile.of? item).bind fun s => s.unread? dir).or (lockedFault? dir item) := by
  obtain ⟨names, contents⟩ := item
  cases contents with
  | locked => rfl
  | file bytes? =>
      rw [Sources.readContents, readFile_eq filled ordinary, lockedFault?, Option.or_none]
      cases SourceFile.of? (names, .file bytes?) with
      | none => rfl
      | some s =>
          dsimp only [Option.bind_some]
          rw [SourceFile.unread?]
          cases s.definition dir <;> rfl

variable {entries : List Stored}

/-- The files of definitions with what is seen under their names. -/
theorem of?_of_mem_sources {s : SourceFile} (member : s ∈ sources entries) :
    (s.names, .file s.bytes?) ∈ files (seen entries) ∧
      SourceFile.of? (s.names, .file s.bytes?) = some s := by
  obtain ⟨⟨names, contents⟩, inside, known⟩ := List.mem_filterMap.mp member
  cases contents with
  | locked => cases known
  | file bytes? =>
      obtain ⟨form, formed, rfl⟩ := Option.map_eq_some_iff.mp known
      exact ⟨inside, known⟩

/-- The definitions in the files, each under the names of its file. -/
def definitions (dir : String) (entries : List Stored) : List (List String × Definition) :=
  (sources entries).filterMap fun s => (s.definition dir).toOption.map fun d => (s.names, d)

theorem files_read_subperm (dir : String) (named : Named (seen entries)) :
    (files (Sources.read dir entries).kept).Subperm (definitions dir entries) := by
  refine (Sources.files_read_subperm dir entries).trans (List.Perm.of_eq ?_).subperm
  rw [definitions, sources, List.filterMap_filterMap]
  refine List.filterMap_congr fun item member => ?_
  obtain ⟨filled, ordinary⟩ := named.ordinary item member
  rw [kept?_readContents filled ordinary, Option.map_bind]
  exact Option.bind_congr fun s known => by
    rw [Function.comp_apply, SourceFile.names_of? known]

theorem mem_files_read (named : Named (seen entries)) {s : SourceFile} (member : s ∈ sources entries)
    (sole : Sole s.names (seen entries)) {d : Definition} (defined : s.definition dir = .ok d) :
    (s.names, d) ∈ files (Sources.read dir entries).kept := by
  obtain ⟨shown, known⟩ := of?_of_mem_sources member
  obtain ⟨filled, ordinary⟩ := named.ordinary _ shown
  refine Sources.mem_files_read sole shown ?_
  rw [kept?_readContents filled ordinary, known, Option.bind_some, defined]
  rfl

/-- The errors about directories of which not everything is seen. -/
def barredFaults (dir : String) (entries : List Stored) : List LoadError :=
  (barred entries).map fun names => .unreadable (names.foldl Path.join dir)

/-- What reading a directory reports. -/
theorem rejected_read (dir : String) (named : Named (seen entries)) :
    (Sources.read dir entries).rejected.Perm
      (((sources entries).filterMap fun s => s.unread? dir) ++ barredFaults dir entries) := by
  have locked : (lockedIn entries).map (fun names =>
      LoadError.unreadable (names.foldl Path.join dir)) =
        (files (seen entries)).filterMap (lockedFault? dir) := by
    rw [lockedIn, List.map_filterMap]
    refine List.filterMap_congr fun item _ => ?_
    rw [lockedFault?]
    cases item.2 <;> rfl
  have items : ((files (seen entries)).filterMap fun file =>
      (Sources.readContents (file.1.foldl Path.join dir) file.2).rejected?).Perm
        (((sources entries).filterMap fun s => s.unread? dir) ++
          (files (seen entries)).filterMap (lockedFault? dir)) := by
    rw [sources, List.filterMap_filterMap]
    refine .trans (.of_eq ?_) (filterMap_append_perm fun item _ => ?_).symm
    · refine List.filterMap_congr fun item member => ?_
      obtain ⟨filled, ordinary⟩ := named.ordinary item member
      exact rejected?_readContents filled ordinary
    · obtain ⟨names, contents⟩ := item
      cases contents with
      | file bytes? => exact .inr rfl
      | locked => exact .inl rfl
  rw [barredFaults, barred, List.map_append, locked]
  refine (Sources.rejected_read dir entries).trans ((items.append_right _).trans ?_)
  rw [List.append_assoc]
  exact List.perm_append_comm.append_left _

section Compile

variable {read : Sources} (well : WellNamed read)
include well

theorem files_compile : (files (compile read).kept).Perm
    ((files read).filterMap fun file =>
      (Extractor.compile file.2).toOption.map fun x => (file.1, x)) := by
  refine well.files_sift.trans (.of_eq (List.filterMap_congr fun file member => ?_))
  obtain ⟨filled, ordinary⟩ := well.ordinary file member
  rw [compileSource_eq filled ordinary]
  cases Extractor.compile file.2 <;> rfl

theorem rejected_compile : (compile read).rejected =
    (files read).filterMap fun file => refusal? file.1 file.2 := by
  rw [compile, rejected_sift]
  refine List.filterMap_congr fun file member => ?_
  obtain ⟨filled, ordinary⟩ := well.ordinary file member
  rw [compileSource_eq filled ordinary, refusal?]
  cases Extractor.compile file.2 <;> rfl

end Compile

end Passes

end Catalog

end Harvest

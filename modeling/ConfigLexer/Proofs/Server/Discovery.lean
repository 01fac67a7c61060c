import ConfigLexer.Files.Tree
import ConfigLexer.Server
import Mathlib.Logic.Basic
import Mathlib.Logic.ExistsUnique

/-!
# Finding the language server

A search path is cut at its colons.  Below each entry there is one place for the server's program,
but an empty entry has none.  The first of these places that holds a program is found, unless the
settings name a program: then nothing else is looked at.
-/

namespace ConfigLexer

/-! ## Search paths -/

/-- A search path is cut at every colon into its entries. -/
structure CutsInto (searchPath : Option String) (entries : List String) : Prop where
  /-- There is an entry, be it empty. -/
  nonempty : entries ≠ []
  /-- The search path is what the entries are with colons between them. -/
  joined : ":".intercalate entries = searchPath.getD ""
  /-- No entry is cut any further. -/
  whole : ∀ entry ∈ entries, ':' ∉ entry.toList

section Paths

variable {searchPath : Option String} {entries : List String}

theorem notMem_of_mem_splitOn {α : Type} [BEq α] [LawfulBEq α] {separator : α}
    {text piece : List α} (member : piece ∈ text.splitOn separator) : separator ∉ piece := by
  induction text generalizing piece with
  | nil =>
      obtain rfl : piece = [] := by simpa using member
      exact List.not_mem_nil
  | cons c text ih =>
      obtain ⟨first, later, split⟩ :=
        List.exists_cons_of_ne_nil (List.splitOn_ne_nil separator text)
      rw [split] at ih
      rw [List.splitOn_eq_splitOnP] at split
      rw [List.splitOn_eq_splitOnP, List.splitOnP_cons_eq_if_modifyHead, split] at member
      split at member
      · rcases List.mem_cons.mp member with rfl | member
        · exact List.not_mem_nil
        · exact ih member
      · rename_i other
        have differs : separator ≠ c := by
          rintro rfl
          exact other BEq.rfl
        rw [List.modifyHead_cons, List.mem_cons] at member
        rcases member with rfl | member
        · exact List.not_mem_cons_of_ne_of_not_mem differs (ih List.mem_cons_self)
        · exact ih (List.mem_cons_of_mem _ member)

theorem exists_cutsInto (searchPath : Option String) : ∃ entries, CutsInto searchPath entries := by
  let pieces := (searchPath.getD "").toList.splitOn ':'
  have map_toList : (pieces.map String.ofList).map String.toList = pieces := by
    rw [List.map_map]
    exact List.map_id'' (fun _ => String.toList_ofList) pieces
  refine ⟨pieces.map String.ofList, ?_, ?_, ?_⟩
  · exact mt List.map_eq_nil_iff.mp (List.splitOn_ne_nil ':' _)
  · rw [← String.toList_inj, String.toList_intercalate, map_toList]
    exact List.intercalate_splitOn ':'
  · intro entry member
    obtain ⟨piece, cut, rfl⟩ := List.mem_map.mp member
    rw [String.toList_ofList]
    exact notMem_of_mem_splitOn cut

theorem CutsInto.split_eq (cuts : CutsInto searchPath entries) :
    ((searchPath.getD "").split ':').toList.map (·.copy) = entries := by
  rw [← cuts.joined]
  exact (String.toList_split_intercalate cuts.whole).trans (if_neg cuts.nonempty)

theorem existsUnique_cutsInto (searchPath : Option String) :
    ∃! entries, CutsInto searchPath entries := by
  obtain ⟨entries, cuts⟩ := exists_cutsInto searchPath
  exact ⟨entries, cuts, fun others also => also.split_eq.symm.trans cuts.split_eq⟩

theorem CutsInto.searchDirectories_eq (cuts : CutsInto searchPath entries) :
    searchDirectories searchPath = entries.filter (· != "") := by
  rw [searchDirectories, cuts.split_eq]

end Paths

/-! ## Places -/

/-- A place for the server's program below an entry that is not empty.  One slash stands between
them, and it may be that of the entry. -/
structure PlaceBelow (entry place : String) : Prop where
  /-- The entry names a directory. -/
  named : entry ≠ ""
  /-- The name of the program is put behind it. -/
  joined : place.toList = entry.toList ++
    (if entry.toList.getLast? = some '/' then [] else ['/']) ++ serverProgram.toList

section Places

variable {entry place : String} {entries : List String} {files : Files}

theorem toList_entryPath (directory name : String) :
    (entryPath directory name).toList = directory.toList ++
      (if directory.toList.getLast? = some '/' then [] else ['/']) ++ name.toList := by
  have ends_iff : directory.endsWith "/" = true ↔ directory.toList.getLast? = some '/' := by
    rw [← String.endsWith_toSlice, String.Slice.endsWith_string_iff, String.copy_toSlice]
    exact List.singleton_suffix_iff_getLast?_eq_some
  rw [entryPath]
  by_cases ends : directory.toList.getLast? = some '/' <;> simp [ends_iff, ends]

theorem placeBelow_iff :
    PlaceBelow entry place ↔ entry ≠ "" ∧ place = entryPath entry serverProgram := by
  constructor
  · rintro ⟨named, joined⟩
    exact ⟨named, String.toList_inj.mp (joined.trans (toList_entryPath entry _).symm)⟩
  · rintro ⟨named, rfl⟩
    exact ⟨named, toList_entryPath entry _⟩

theorem PlaceBelow.ne_serverProgram (below : PlaceBelow entry place) : place ≠ serverProgram := by
  rintro rfl
  have none_before := List.append_left_eq_self.mp below.joined.symm
  exact below.named (String.toList_eq_nil_iff.mp (List.append_eq_nil_iff.mp none_before).1)

/-- There is a program below an entry. -/
def ProgramBelow (files : Files) (entry : String) : Prop :=
  ∃ place, PlaceBelow entry place ∧ files.isProgram place = true

theorem programBelow_iff :
    ProgramBelow files entry ↔
      entry ≠ "" ∧ files.isProgram (entryPath entry serverProgram) = true := by
  simp only [ProgramBelow, placeBelow_iff]
  constructor
  · rintro ⟨place, ⟨named, rfl⟩, program⟩
    exact ⟨named, program⟩
  · rintro ⟨named, program⟩
    exact ⟨_, ⟨named, rfl⟩, program⟩

instance (files : Files) : DecidablePred (ProgramBelow files) :=
  fun _ => decidable_of_iff _ programBelow_iff.symm

/-- The first place with a program is that below the first entry with a program below it. -/
theorem find?_places (files : Files) (entries : List String) :
    ((entries.filter (· != "")).map (entryPath · serverProgram)).find? files.isProgram =
      (entries.find? (ProgramBelow files ·)).map (entryPath · serverProgram) := by
  rw [List.find?_map, List.find?_filter]
  simp [programBelow_iff]

end Places

namespace ServerSettings

/-! ## Searching -/

/-- How the search for the server's program ends if the search path has these entries. -/
inductive SearchEnds (settings : ServerSettings) (files : Files) (entries : List String) :
    Except SettingsError String → Prop
  /-- The settings name a program. -/
  | named : settings.program ≠ "" → files.isProgram settings.program = true →
      SearchEnds settings files entries (.ok settings.program)
  /-- The settings name what is no program. -/
  | misnamed : settings.program ≠ "" → files.isProgram settings.program = false →
      SearchEnds settings files entries (.error (.noProgram settings.program))
  /-- There is a program below an entry, and none below those before it. -/
  | found {earlier later : List String} {entry place : String} : settings.program = "" →
      entries = earlier ++ entry :: later → (∀ other ∈ earlier, ¬ProgramBelow files other) →
      PlaceBelow entry place → files.isProgram place = true →
      SearchEnds settings files entries (.ok place)
  /-- There is no program below any entry. -/
  | nowhere : settings.program = "" → (∀ entry ∈ entries, ¬ProgramBelow files entry) →
      SearchEnds settings files entries (.error .notFound)

section Searching

variable {settings : ServerSettings} {files others : Files} {searchPath : Option String}
variable {entries : List String} {result : Except SettingsError String}

theorem resolve_of_named (named : settings.program ≠ "") :
    settings.resolve files searchPath =
      if files.isProgram settings.program = true then .ok settings.program
      else .error (.noProgram settings.program) := by
  rw [resolve, places, if_pos named, if_pos named, List.find?_singleton]
  cases files.isProgram settings.program <;> rfl

theorem resolve_of_unnamed (unnamed : settings.program = "")
    (cuts : CutsInto searchPath entries) :
    settings.resolve files searchPath =
      match entries.find? (ProgramBelow files ·) with
      | some entry => .ok (entryPath entry serverProgram)
      | none => .error .notFound := by
  have not_named : ¬settings.program ≠ "" := not_not_intro unnamed
  rw [resolve, places, if_neg not_named, if_neg not_named, cuts.searchDirectories_eq, find?_places]
  cases entries.find? (ProgramBelow files ·) <;> rfl

theorem SearchEnds.resolve_eq (cuts : CutsInto searchPath entries)
    (ends : settings.SearchEnds files entries result) :
    settings.resolve files searchPath = result := by
  cases ends with
  | named named program => rw [resolve_of_named named, if_pos program]
  | misnamed named not_program =>
      rw [resolve_of_named named, if_neg (Bool.eq_false_iff.mp not_program)]
  | @found earlier later entry place unnamed split none_before below program =>
      have first : entries.find? (ProgramBelow files ·) = some entry := by
        rw [List.find?_eq_some_iff_append]
        refine ⟨decide_eq_true ⟨place, below, program⟩, earlier, later, split, ?_⟩
        simpa using none_before
      rw [resolve_of_unnamed unnamed cuts, first, (placeBelow_iff.mp below).2]
  | nowhere unnamed none_below =>
      have no_first : entries.find? (ProgramBelow files ·) = none := by simpa using none_below
      rw [resolve_of_unnamed unnamed cuts, no_first]

theorem searchEnds_resolve (settings : ServerSettings) (files : Files)
    (cuts : CutsInto searchPath entries) :
    settings.SearchEnds files entries (settings.resolve files searchPath) := by
  rcases eq_or_ne settings.program "" with unnamed | named
  · rw [resolve_of_unnamed unnamed cuts]
    split
    · rename_i entry first
      obtain ⟨program, earlier, later, split, none_before⟩ :=
        List.find?_eq_some_iff_append.mp first
      obtain ⟨named, program⟩ := programBelow_iff.mp (of_decide_eq_true program)
      refine .found unnamed split ?_ (placeBelow_iff.mpr ⟨named, rfl⟩) program
      simpa using none_before
    · rename_i no_first
      refine .nowhere unnamed ?_
      simpa using no_first
  · rw [resolve_of_named named]
    split
    · rename_i program
      exact .named named program
    · rename_i not_program
      exact .misnamed named (Bool.eq_false_iff.mpr not_program)

theorem resolve_eq_iff (cuts : CutsInto searchPath entries) :
    settings.resolve files searchPath = result ↔ settings.SearchEnds files entries result := by
  constructor
  · rintro rfl
    exact searchEnds_resolve settings files cuts
  · exact fun ends => ends.resolve_eq cuts

/-- The bare name of the program is no place, whatever the search path is. -/
theorem resolve_ne_serverProgram (unnamed : settings.program = "") :
    settings.resolve files searchPath ≠ .ok serverProgram := by
  obtain ⟨entries, cuts⟩ := exists_cutsInto searchPath
  generalize bare : serverProgram = path
  intro found
  cases (resolve_eq_iff cuts).mp found with
  | named named => exact named unnamed
  | found _ _ _ below => exact below.ne_serverProgram bare.symm

theorem resolve_congr (unnamed : settings.program = "")
    (same : ∀ path, path ≠ serverProgram → others.isProgram path = files.isProgram path) :
    settings.resolve others searchPath = settings.resolve files searchPath := by
  obtain ⟨entries, cuts⟩ := exists_cutsInto searchPath
  have below_iff (entry : String) : ProgramBelow others entry ↔ ProgramBelow files entry :=
    exists_congr fun place => and_congr_right fun below => by rw [same _ below.ne_serverProgram]
  rw [resolve_of_unnamed unnamed cuts, resolve_of_unnamed unnamed cuts]
  simp only [below_iff]

end Searching

/-! ## Commands -/

/-- How the request for the server's command ends. -/
inductive CommandEnds (settings : ServerSettings) (files : Files) (entries : List String) :
    Except SettingsError ServerCommand → Prop
  /-- The server may not be started. -/
  | disabled : settings.enabled = false → CommandEnds settings files entries (.error .disabled)
  /-- There is no program to start. -/
  | failed {error : SettingsError} : settings.enabled = true →
      SearchEnds settings files entries (.error error) →
      CommandEnds settings files entries (.error error)
  /-- The program is started with the arguments that are set, or else with the default ones. -/
  | started {program : String} : settings.enabled = true →
      SearchEnds settings files entries (.ok program) →
      CommandEnds settings files entries (.ok ⟨program,
        if settings.arguments = [] then defaultServerArguments else settings.arguments,
        settings.trace⟩)

section Commands

variable {settings : ServerSettings} {files : Files} {searchPath : Option String}
variable {entries : List String} {answer : Except SettingsError ServerCommand}

theorem effectiveArguments_eq (settings : ServerSettings) :
    settings.effectiveArguments =
      if settings.arguments = [] then defaultServerArguments else settings.arguments := by
  simp only [effectiveArguments, List.isEmpty_iff]

theorem effectiveArguments_ne_nil (settings : ServerSettings) :
    settings.effectiveArguments ≠ [] := by
  rw [effectiveArguments_eq]
  split
  · exact List.cons_ne_nil _ _
  · assumption

theorem command_of_enabled (enabled : settings.enabled = true) :
    settings.command files searchPath = (settings.resolve files searchPath).map fun program =>
      ⟨program, settings.effectiveArguments, settings.trace⟩ :=
  if_pos enabled

theorem command_of_disabled (disabled : settings.enabled = false) :
    settings.command files searchPath = .error .disabled :=
  if_neg (Bool.eq_false_iff.mp disabled)

theorem CommandEnds.command_eq (cuts : CutsInto searchPath entries)
    (ends : settings.CommandEnds files entries answer) :
    settings.command files searchPath = answer := by
  cases ends with
  | disabled disabled => exact command_of_disabled disabled
  | failed enabled failed =>
      rw [command_of_enabled enabled, failed.resolve_eq cuts]
      rfl
  | started enabled found =>
      rw [command_of_enabled enabled, found.resolve_eq cuts, ← effectiveArguments_eq]
      rfl

theorem commandEnds_command (settings : ServerSettings) (files : Files)
    (cuts : CutsInto searchPath entries) :
    settings.CommandEnds files entries (settings.command files searchPath) := by
  cases enabled : settings.enabled with
  | false =>
      rw [command_of_disabled enabled]
      exact .disabled enabled
  | true =>
      have ends := searchEnds_resolve settings files cuts
      rw [command_of_enabled enabled]
      cases resolved : settings.resolve files searchPath with
      | error error => exact .failed enabled (resolved ▸ ends)
      | ok program =>
          rw [effectiveArguments_eq]
          exact .started enabled (resolved ▸ ends)

theorem command_eq_iff (cuts : CutsInto searchPath entries) :
    settings.command files searchPath = answer ↔ settings.CommandEnds files entries answer := by
  constructor
  · rintro rfl
    exact commandEnds_command settings files cuts
  · exact fun ends => ends.command_eq cuts

theorem arguments_ne_nil_of_command {command : ServerCommand}
    (asked : settings.command files searchPath = .ok command) : command.arguments ≠ [] := by
  obtain ⟨entries, cuts⟩ := exists_cutsInto searchPath
  cases (command_eq_iff cuts).mp asked with
  | started =>
      rw [← effectiveArguments_eq]
      exact settings.effectiveArguments_ne_nil

end Commands

end ServerSettings

theorem FileStatus.isProgram_iff {status : FileStatus} :
    status.isProgram = true ↔ status.isRegular = true ∧ status.mode &&& 0o111 ≠ 0 := by
  rw [isProgram, Bool.and_eq_true, bne_iff_ne, executeBits]

theorem Files.isProgram_iff (files : Files) {path : String} :
    files.isProgram path = true ↔ ∃ status, files.status? path = some status ∧
      status.isRegular = true ∧ status.mode &&& 0o111 ≠ 0 := by
  simp only [isProgram, Option.any_eq_true, FileStatus.isProgram_iff]

theorem FileTree.isProgram_iff (root : FileTree) (path : String) :
    root.files.isProgram path = true ↔
      ∃ bytes mode, root.find path = .ok (.file bytes mode) ∧ mode &&& 0o111 ≠ 0 := by
  have status_eq : root.files.status? path = root.status? path := rfl
  rw [Files.isProgram_iff, status_eq, FileTree.status?]
  constructor
  · rintro ⟨status, found, regular, executable⟩
    cases place_found : root.find path with
    | error failure => simp [place_found] at found
    | ok place =>
        obtain rfl : place.status = status := by simpa [place_found] using found
        cases place with
        | file bytes mode => exact ⟨bytes, mode, rfl, executable⟩
        | directory entries => cases regular
  · rintro ⟨bytes, mode, found, executable⟩
    rw [found]
    exact ⟨_, rfl, rfl, executable⟩

/-- The program is the one that the settings name, or else the first one below the entries of the
search path, of which empty ones count for nothing. -/
theorem server_discovery (settings : ServerSettings) (files : Files) (searchPath : Option String) :
    (∃! entries, CutsInto searchPath entries) ∧
      (∀ entries, CutsInto searchPath entries →
        (∀ result, settings.resolve files searchPath = result ↔
          settings.SearchEnds files entries result) ∧
        ∀ answer, settings.command files searchPath = answer ↔
          settings.CommandEnds files entries answer) ∧
      (settings.program = "" →
        settings.resolve files searchPath ≠ .ok serverProgram ∧
        ∀ others : Files,
          (∀ path, path ≠ serverProgram → others.isProgram path = files.isProgram path) →
          settings.resolve others searchPath = settings.resolve files searchPath) ∧
      (∀ command, settings.command files searchPath = .ok command → command.arguments ≠ []) ∧
      (∀ path, files.isProgram path = true ↔ ∃ status, files.status? path = some status ∧
        status.isRegular = true ∧ status.mode &&& 0o111 ≠ 0) ∧
      ∀ (root : FileTree) (path : String), root.files.isProgram path = true ↔
        ∃ bytes mode, root.find path = .ok (.file bytes mode) ∧ mode &&& 0o111 ≠ 0 :=
  ⟨existsUnique_cutsInto searchPath,
    fun _ cuts => ⟨fun _ => ServerSettings.resolve_eq_iff cuts,
      fun _ => ServerSettings.command_eq_iff cuts⟩,
    fun unnamed => ⟨ServerSettings.resolve_ne_serverProgram unnamed,
      fun _ same => ServerSettings.resolve_congr unnamed same⟩,
    fun _ asked => ServerSettings.arguments_ne_nil_of_command asked,
    fun _ => files.isProgram_iff, FileTree.isProgram_iff⟩

/-- A search goes past an empty entry and past a file that nobody may execute. -/
theorem server_discovery_past_empty_entry :
    let settings : ServerSettings := {}
    let files : Files := ⟨fun _ => .error .notFound, fun path =>
      [("terramate-ls", ⟨true, 0o755⟩), ("a/terramate-ls", ⟨true, 0o644⟩),
        ("b/terramate-ls", ⟨true, 0o755⟩)].lookup path⟩
    let others : Files := ⟨fun _ => .error .notFound, fun path =>
      [("a/terramate-ls", ⟨true, 0o644⟩), ("b/terramate-ls", ⟨true, 0o755⟩)].lookup path⟩
    settings.program = "" ∧ CutsInto (some ":a:b/:c") ["", "a", "b/", "c"] ∧
      settings.resolve files (some ":a:b/:c") = .ok "b/terramate-ls" ∧
      settings.resolve files (some ":a:b/:c") ≠ .ok serverProgram ∧
      (∀ path, path ≠ serverProgram → others.isProgram path = files.isProgram path) ∧
      settings.resolve others (some ":a:b/:c") = settings.resolve files (some ":a:b/:c") ∧
      settings.command files (some ":a:b/:c") = .ok ⟨"b/terramate-ls", ["-mode=stdio"], .off⟩ ∧
      ["-mode=stdio"] ≠ [] := by
  intro settings files others
  have unnamed : settings.program = "" := rfl
  have cuts : CutsInto (some ":a:b/:c") ["", "a", "b/", "c"] := ⟨by decide, by decide, by decide⟩
  have same (path : String) (other : path ≠ serverProgram) :
      others.isProgram path = files.isProgram path := by
    have not_bare : (path == "terramate-ls") = false := beq_false_of_ne other
    simp only [files, others, Files.isProgram, List.lookup_cons, not_bare]
  obtain ⟨-, ends, bare, filled, -⟩ := server_discovery settings files (some ":a:b/:c")
  have none_before : ∀ other ∈ ["", "a"], ¬ProgramBelow files other := by
    refine List.forall_mem_cons.mpr ⟨fun ⟨_, below, _⟩ => below.named rfl, ?_⟩
    rw [List.forall_mem_singleton]
    rintro ⟨place, below, program⟩
    have place_eq : place = "a/terramate-ls" := String.toList_inj.mp below.joined
    rw [place_eq] at program
    exact absurd program (by decide)
  have found : settings.SearchEnds files ["", "a", "b/", "c"] (.ok "b/terramate-ls") :=
    .found unnamed rfl none_before ⟨by decide, by decide⟩ (by decide)
  have started := (ends _ cuts).2 _ |>.mpr (.started rfl found)
  exact ⟨unnamed, cuts, ((ends _ cuts).1 _).mpr found, (bare unnamed).1, same,
    (bare unnamed).2 others same, started, filled _ started⟩

end ConfigLexer

import ConfigLexer.Proofs.Json.Printing
import ConfigLexer.Proofs.Json.Records
import ConfigLexer.Settings.Json
import Mathlib.Data.List.Nodup

/-!
# Settings documents

A settings document lists some of the settings and may say anything else besides.  It is read as the
default settings with exactly those replaced that are listed, whatever their order, the spaces
between them and the members that are no settings.  What is saved is a document that lists all of
the settings, so it is loaded as it was.
-/

namespace ConfigLexer

open Json

/-! ## What can be listed -/

/-- One of the server's settings with its value. -/
inductive ServerSetting where
  | enabled (value : Bool)
  | program (path : String)
  | arguments (texts : List String)
  | trace (level : TraceLevel)
deriving DecidableEq, Repr

namespace ServerSetting

/-- The key of the member that holds a setting. -/
def key : ServerSetting → String
  | enabled _ => "enabled"
  | program _ => "bin_path"
  | arguments _ => "args"
  | trace _ => "trace"

/-- The ways to write the value of a setting. -/
inductive Holds : ServerSetting → List Char → Prop
  | enabled {value : Bool} {form : List Char} : BoolForm value form → Holds (.enabled value) form
  | program {path : String} {form : List Char} : TextForm path form → Holds (.program path) form
  | arguments {texts : List String} {form : List Char} :
      TextsForm texts form → Holds (.arguments texts) form
  | trace {level : TraceLevel} {form : List Char} :
      VariantForm level.name form → Holds (.trace level) form

end ServerSetting

/-- The server's settings with one of them replaced. -/
def ServerSettings.set (settings : ServerSettings) : ServerSetting → ServerSettings
  | .enabled value => { settings with enabled := value }
  | .program path => { settings with program := path }
  | .arguments texts => { settings with arguments := texts }
  | .trace level => { settings with trace := level }

/-- One of all the settings with its value. -/
inductive Setting where
  | server (setting : ServerSetting)
  | extraWords (words : List String)
deriving DecidableEq, Repr

/-- The keys of the members that lead to a setting, from the outermost on. -/
def Setting.path : Setting → List String
  | .server setting => ["language_server", setting.key]
  | .extraWords _ => ["extra_keywords"]

/-- The settings with one of them replaced. -/
def Settings.set (settings : Settings) : Setting → Settings
  | .server setting => { settings with server := settings.server.set setting }
  | .extraWords words => { settings with extraWords := words }

/-! ## What a document lists -/

/-- The names of the members that hold the server's settings. -/
def ServerSettings.names : List String := ["enabled", "bin_path", "args", "trace"]

/-- The names of the members that hold settings. -/
def Settings.names : List String := ["language_server", "extra_keywords"]

/-- What one member of a document holds. -/
inductive Section where
  /-- Those of the server's settings that are listed. -/
  | server (listed : List ServerSetting)
  | extraWords (words : List String)

namespace Section

/-- The key of the member. -/
def key : Section → String
  | server _ => "language_server"
  | extraWords _ => "extra_keywords"

/-- The ways to write the value of the member. -/
inductive Holds : Section → List Char → Prop
  | server {listed : List ServerSetting} {form : List Char} :
      ObjectForm ServerSettings.names ServerSetting.key ServerSetting.Holds listed form →
      Holds (.server listed) form
  | extraWords {words : List String} {form : List Char} :
      TextsForm words form → Holds (.extraWords words) form

/-- The settings that the member lists. -/
def settings : Section → List Setting
  | server listed => listed.map .server
  | extraWords words => [.extraWords words]

end Section

/-- The text is an object that lists these settings, each at most once and in any order, with any
other members beside them. -/
inductive Document : List Setting → List Char → Prop
  | object {sections : List Section} {before form after : List Char} : Spaces before →
      ObjectForm Settings.names Section.key Section.Holds sections form → Spaces after →
      Document (sections.flatMap Section.settings) (before ++ form ++ after)

/-! ## Readers of settings -/

theorem lookup_name (level : TraceLevel) :
    TraceLevel.byName.lookup level.name = some level := by
  cases level <;> rfl

theorem takes_map {Record Value : Type} {read : List Char → Reading (Value × List Char)}
    {form : List Char} {value : Value} (takes : Takes read form value) (put : Value → Record) :
    Takes (fun text => (read text).map fun read => (put read.1, read.2)) form (put value) := by
  intro before rest spaces
  simp only [takes before rest spaces]
  rfl

theorem ServerSettings.fields_take :
    FieldsTake fields names ServerSetting.key ServerSetting.Holds set where
  known := by decide
  take {setting form} holds := by
    cases holds with
    | enabled value =>
        exact ⟨_, rfl, fun record => takes_map value.takes fun value => record.set (.enabled value)⟩
    | program path =>
        exact ⟨_, rfl, fun record => takes_map path.takes fun path => record.set (.program path)⟩
    | arguments texts =>
        exact ⟨_, rfl, fun record => takes_map texts.takes fun texts =>
          record.set (.arguments texts)⟩
    | trace level =>
        exact ⟨_, rfl, fun record => takes_map (level.takes (lookup_name _)) fun level =>
          record.set (.trace level)⟩

/-- The settings with what one member lists in the place of everything that it might list. -/
def Settings.setSection (settings : Settings) : Section → Settings
  | .server listed => { settings with server := listed.foldl ServerSettings.set {} }
  | .extraWords words => { settings with extraWords := words }

theorem Settings.fields_take :
    FieldsTake fields names Section.key Section.Holds setSection where
  known := by decide
  take {part form} holds := by
    cases holds with
    | server object =>
        have takes := object.takes ServerSettings.fields_take "struct LanguageServerSettings" {}
        exact ⟨_, rfl, fun record => takes_map takes fun server => { record with server }⟩
    | extraWords words =>
        exact ⟨_, rfl, fun record => takes_map words.takes fun words =>
          { record with extraWords := words }⟩

/-! ## Single settings instead of members -/

theorem Settings.foldl_set_server (listed : List ServerSetting) (settings : Settings) :
    (listed.map Setting.server).foldl set settings =
      { settings with server := listed.foldl ServerSettings.set settings.server } := by
  induction listed generalizing settings with
  | nil => rfl
  | cons setting listed listed_set => exact listed_set (settings.set (.server setting))

/-- Members with different keys set what they list one setting after another, as long as the
server's settings are the default ones when their member comes. -/
theorem Settings.foldl_setSection (sections : List Section) (settings : Settings)
    (distinct : (sections.map Section.key).Nodup)
    (unset : settings.server = {} ∨ "language_server" ∉ sections.map Section.key) :
    sections.foldl setSection settings =
      (sections.flatMap Section.settings).foldl set settings := by
  induction sections generalizing settings with
  | nil => rfl
  | cons part sections sections_set =>
      rw [List.map_cons, List.nodup_cons] at distinct
      rw [List.foldl_cons, List.flatMap_cons, List.foldl_append]
      cases part with
      | server listed =>
          rcases unset with default | absent
          · have one_by_one := foldl_set_server listed settings
            rw [default] at one_by_one
            rw [Section.settings, one_by_one]
            exact sections_set _ distinct.2 (.inr distinct.1)
          · exact absurd List.mem_cons_self absent
      | extraWords words =>
          refine sections_set _ distinct.2 (unset.imp_right fun absent present => ?_)
          exact absent (List.mem_cons_of_mem _ present)

theorem Document.ofJson_eq {listed : List Setting} {text : String}
    (document : Document listed text.toList) :
    Settings.ofJson text = .ok (listed.foldl Settings.set {}) := by
  rw [Settings.ofJson]
  generalize text.toList = chars at document
  obtain ⟨before, object, after⟩ := document
  have read := (object.takes Settings.fields_take "struct Settings" {}).readDocument_eq before after
  rwa [Settings.foldl_setSection _ _ object.distinct (.inl rfl)] at read

/-! ## The order of the settings -/

theorem ServerSettings.set_comm {first second : ServerSetting} (apart : first.key ≠ second.key)
    (settings : ServerSettings) :
    (settings.set first).set second = (settings.set second).set first := by
  cases first <;> cases second <;> first | rfl | exact absurd rfl apart

theorem Settings.set_comm {first second : Setting} (apart : first.path ≠ second.path)
    (settings : Settings) :
    (settings.set first).set second = (settings.set second).set first := by
  cases first with
  | server setting =>
      cases second with
      | server other =>
          have keys_apart : setting.key ≠ other.key := fun same =>
            apart (by rw [Setting.path, Setting.path, same])
          simp only [set, ServerSettings.set_comm keys_apart]
      | extraWords _ => rfl
  | extraWords words =>
      cases second with
      | server _ => rfl
      | extraWords _ => exact absurd rfl apart

theorem Section.head_of_mem {part : Section} {path : List String}
    (listed : path ∈ part.settings.map Setting.path) : path.head? = some part.key := by
  obtain ⟨setting, present, rfl⟩ := List.mem_map.mp listed
  cases part with
  | server _ =>
      obtain ⟨_, -, rfl⟩ := List.mem_map.mp present
      rfl
  | extraWords _ =>
      obtain rfl := List.mem_singleton.mp present
      rfl

theorem Section.Holds.distinct {part : Section} {form : List Char} (holds : part.Holds form) :
    (part.settings.map Setting.path).Nodup := by
  cases holds with
  | server object =>
      have under_key : Function.Injective fun key => ["language_server", key] := by
        intro first second same
        simpa using same
      have paths := object.distinct.map under_key
      rw [List.map_map] at paths
      rw [Section.settings, List.map_map]
      exact paths
  | extraWords _ => exact List.nodup_singleton _

theorem Document.distinct {listed : List Setting} {text : List Char}
    (document : Document listed text) : (listed.map Setting.path).Nodup := by
  obtain ⟨-, object, -⟩ := document
  rw [List.map_flatMap, List.nodup_flatMap]
  constructor
  · intro part present
    obtain ⟨_, holds⟩ := object.forall_mem part present
    exact holds.distinct
  · refine (List.pairwise_map.mp object.distinct).imp fun apart path listed other_listed => ?_
    have heads := (Section.head_of_mem listed).symm.trans (Section.head_of_mem other_listed)
    exact apart (Option.some.inj heads)

/-- What settings set does not depend on their order if no setting is among them twice. -/
theorem Settings.foldl_set_perm {listed others : List Setting} (same : others.Perm listed)
    (distinct : (listed.map Setting.path).Nodup) (settings : Settings) :
    others.foldl set settings = listed.foldl set settings := by
  refine (same.symm.foldl_eq' (fun first present second other_present settings => ?_) settings).symm
  by_cases apart : first.path = second.path
  · rw [List.inj_on_of_nodup_map distinct present other_present apart]
  · exact set_comm apart settings

/-- A text that lists settings is read as the default settings with those replaced.  Any other text
that lists the same settings is read alike. -/
theorem Settings.ofJson_document {listed : List Setting} {text : String}
    (document : Document listed text.toList) :
    Settings.ofJson text = .ok (listed.foldl Settings.set {}) ∧
      ∀ {others : List Setting} {other : String}, Document others other.toList →
        others.Perm listed → Settings.ofJson other = Settings.ofJson text := by
  refine ⟨document.ofJson_eq, fun {others other} other_document same => ?_⟩
  rw [document.ofJson_eq, other_document.ofJson_eq, Settings.foldl_set_perm same document.distinct]

/-- Two settings in either order, the second time with a line break, an unknown member and an
escape. -/
theorem Settings.ofJson_document_reordered :
    Settings.ofJson "\x7b\"language_server\":\x7b\"trace\":\"off\",\"enabled\":false\x7d\x7d" =
      .ok { server := { enabled := false } } ∧
    Settings.ofJson "\x7b\"?\":[\x7b\"args\":null\x7d],
        \"language_server\":\x7b\"enabled\":false,\"trace\":\"\\u006Fff\"\x7d\x7d" =
      Settings.ofJson
        "\x7b\"language_server\":\x7b\"trace\":\"off\",\"enabled\":false\x7d\x7d" := by
  have trace {form : List Char} (written : TextForm "off" form) :
      MemberForm ServerSettings.names ServerSetting.key ServerSetting.Holds
        (some (.trace .off)) _ :=
    .known (printText_form "trace") spaces_nil spaces_nil (.trace (.name written))
  have enabled : MemberForm ServerSettings.names ServerSetting.key ServerSetting.Holds
      (some (.enabled false)) _ :=
    .known (printText_form "enabled") spaces_nil spaces_nil (.enabled .false)
  have server {listed : List ServerSetting} {form : List Char} (object : ObjectForm
      ServerSettings.names ServerSetting.key ServerSetting.Holds listed form) :
      MemberForm Settings.names Section.key Section.Holds (some (.server listed)) _ :=
    .known (printText_form "language_server") spaces_nil spaces_nil (.server object)
  have first : Document [.server (.trace .off), .server (.enabled false)]
      "\x7b\"language_server\":\x7b\"trace\":\"off\",\"enabled\":false\x7d\x7d".toList := by
    have object := server (.members (.items (.more spaces_nil (trace (printText_form "off"))
      spaces_nil (.last spaces_nil enabled spaces_nil))) (by decide))
    have whole : ObjectForm Settings.names Section.key Section.Holds
        [.server [.trace .off, .enabled false]] _ :=
      .members (.items (.last spaces_nil object spaces_nil)) (by decide)
    exact Document.object spaces_nil whole spaces_nil
  have second : Document [.server (.enabled false), .server (.trace .off)]
      "\x7b\"?\":[\x7b\"args\":null\x7d],
        \"language_server\":\x7b\"enabled\":false,\"trace\":\"\\u006Fff\"\x7d\x7d".toList := by
    have args : Form .value ['n', 'u', 'l', 'l'] := .literal (List.mem_cons_self ..)
    have inner : Form .value _ := .block .object (.last
      (.object spaces_nil (printText_form "args") spaces_nil) spaces_nil args spaces_nil)
    have note : MemberForm Settings.names Section.key Section.Holds none _ :=
      .unknown (by decide) (printText_form "?") spaces_nil spaces_nil
        (.block .list (.last (.list spaces_nil) spaces_nil inner spaces_nil))
    have zero : HexDigit 0 '0' := .lower (by decide)
    have six : HexDigit 6 '6' := .lower (by decide)
    have fifteen : HexDigit 15 'F' := .upper (by decide)
    have escaped : CharForm 'o' _ := .unit (.digits zero zero six fifteen (by decide))
    have plain : CharForm 'f' ['f'] := .plain (by decide) (by decide) (by decide)
    have off : TextForm "off" _ := .quoted (.cons escaped (.cons plain (.cons plain .nil)))
    have object := server (.members (.items (.more spaces_nil enabled spaces_nil
      (.last spaces_nil (trace off) spaces_nil))) (by decide))
    have whole : ObjectForm Settings.names Section.key Section.Holds
        [.server [.enabled false, .trace .off]] _ :=
      .members (.items (.more spaces_nil note spaces_nil
        (.last (newLine_spaces 4) object spaces_nil))) (by decide)
    exact Document.object spaces_nil whole spaces_nil
  obtain ⟨read, alike⟩ := Settings.ofJson_document first
  exact ⟨read, alike second (.swap _ _ _)⟩

/-! ## Saved settings -/

/-- All settings with their values. -/
def Settings.listed (settings : Settings) : List Setting :=
  [.server (.enabled settings.server.enabled), .server (.program settings.server.program),
    .server (.arguments settings.server.arguments), .server (.trace settings.server.trace),
    .extraWords settings.extraWords]

theorem ServerSettings.print_form (settings : ServerSettings) (depth : Nat) :
    ObjectForm names ServerSetting.key ServerSetting.Holds
      [.enabled settings.enabled, .program settings.program, .arguments settings.arguments,
        .trace settings.trace] (settings.print depth) := by
  refine printObject_form ?_ (by simp [ServerSetting.key]) depth
  exact .cons ⟨rfl, .enabled (printBool_form _)⟩ (.cons ⟨rfl, .program (printText_form _)⟩
    (.cons ⟨rfl, .arguments (printTexts_form _ _)⟩
      (.cons ⟨rfl, .trace (.name (printText_form _))⟩ .nil)))

theorem Settings.print_document (settings : Settings) :
    Document settings.listed (settings.print 0) := by
  have object : ObjectForm names Section.key Section.Holds
      [.server [.enabled settings.server.enabled, .program settings.server.program,
        .arguments settings.server.arguments, .trace settings.server.trace],
        .extraWords settings.extraWords] (settings.print 0) := by
    refine printObject_form ?_ (by simp [Section.key]) 0
    exact .cons ⟨rfl, .server (settings.server.print_form 1)⟩
      (.cons ⟨rfl, .extraWords (printTexts_form _ _)⟩ .nil)
  have document := Document.object spaces_nil object spaces_nil
  rwa [List.nil_append, List.append_nil] at document

/-- Saved settings are loaded as they were, whatever their strings and lists hold. -/
theorem Settings.ofJson_toJson (settings : Settings) :
    Settings.ofJson settings.toJson = .ok settings := by
  have document : Document settings.listed settings.toJson.toList := by
    rw [toJson, String.toList_ofList]
    exact settings.print_document
  exact document.ofJson_eq

end ConfigLexer

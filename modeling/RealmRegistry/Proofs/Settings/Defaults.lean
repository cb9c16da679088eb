/-
Settings some of which are left out.

Every section and most fields of the settings have standard values.  Which of these are written in a
document, and how much of a section is there, makes no difference to the settings that are read,
whether they are read from TOML or straight from JSON.

* `StandardsMayBeLeftOut` — all that is said of it;
* `standards_may_be_left_out` — documents with and without standard values give the same settings.
-/
import Mathlib
import RealmRegistry.Proofs.Schema.Defaults
import RealmRegistry.Proofs.Settings.RoundTrip

namespace RealmRegistry

open Schema Access

/-- All that is said of leaving out standard values. -/
structure StandardsMayBeLeftOut : Prop where
  /-- of two TOML texts, one with standard values that the other leaves out, the same settings are
  read, if they are read of either; -/
  toml : ∀ (full brief : String) (ms ns : List (String × Toml)),
    Toml.parse full.toList = some ms → Toml.parse brief.toList = some ns →
    (Shaped.shape Settings).Omits (Toml.table ms) (Toml.table ns) →
    ∀ c, fromToml Settings full = .ok c ↔ fromToml Settings brief = .ok c
  /-- so they are of two JSON texts; -/
  json : ∀ (full brief : String) (v w : Json),
    Json.outline? full.toList = some v → Json.outline? brief.toList = some w →
    (Shaped.shape Settings).Omits v w →
    ∀ c, fromText Settings full = .ok c ↔ fromText Settings brief = .ok c
  /-- and every text that settings are read from is one of these; -/
  accepted : ∀ (text : String) (c : Settings),
    (fromToml Settings text = .ok c → ∃ ms, Toml.parse text.toList = some ms) ∧
      (fromText Settings text = .ok c → ∃ v, Json.outline? text.toList = some v)
  /-- a section may be left out, be an empty table, or have some of its standard values; -/
  sections : ∀ (V : Type) [Document V] (u : V), Document.view u = .table [] →
    (Shaped.shape StorageSettings).Stands .bare u ∧ (Shaped.shape FileStorage).Stands .bare u ∧
      (Shaped.shape ObservabilitySettings).Stands .bare u ∧
      (Shaped.shape LogSettings).Stands .bare u ∧
      (Shaped.shape AuthorizationSettings).Stands .bare u
  /-- these are the places of standard values, and what is written of each; -/
  places : (Shaped.shape Settings).places =
    [(["storage"], .object [("backend", .text "sqlite"),
      ("sqlite", .object [("max_connections", .integer 10), ("busy_timeout_secs", .integer 5)])]),
    (["storage", "backend"], .text "sqlite"),
    (["storage", "sqlite"],
      .object [("max_connections", .integer 10), ("busy_timeout_secs", .integer 5)]),
    (["storage", "sqlite", "max_connections"], .integer 10),
    (["storage", "sqlite", "busy_timeout_secs"], .integer 5),
    (["storage", "postgres", "port"], .integer 5432),
    (["storage", "postgres", "pool_size"], .integer 10),
    (["storage", "postgres", "max_lifetime_secs"], .integer 1800),
    (["observability"], .object [("filter_level", .text "info"),
      ("log", .object [("output", .text "console"), ("rotate", .flag false),
        ("path", .text "logs/")])]),
    (["observability", "filter_level"], .text "info"),
    (["observability", "log"],
      .object [("output", .text "console"), ("rotate", .flag false), ("path", .text "logs/")]),
    (["observability", "log", "output"], .text "console"),
    (["observability", "log", "rotate"], .flag false),
    (["observability", "log", "path"], .text "logs/"),
    (["authorization"], .object []),
    (["authorization", "scopes"], .list []),
    (["authorization", "scopes", "apis"], .list [])]
  /-- and these are the sections of which nothing is written. -/
  standards : standard StorageSettings = ⟨.sqlite, ⟨10, 5⟩, none⟩ ∧
    standard ObservabilitySettings = ⟨"info", ⟨"console", false, "logs/"⟩⟩ ∧
    standard AuthorizationSettings = ⟨[]⟩

theorem Settings.depth_le : (Shaped.shape Settings).depth + 2 ≤ Json.maxDepth := by decide

/-- Standard values of settings may be left out. -/
theorem standards_may_be_left_out : StandardsMayBeLeftOut where
  toml full brief ms ns hfull hbrief h c := fromToml_omits Recoverable.sound hfull hbrief h
  json full brief v w hfull hbrief h c :=
    fromText_omits Recoverable.sound Settings.depth_le hfull hbrief h
  accepted text c := by
    constructor
    · intro h
      obtain ⟨ms, hparse, -⟩ := fromToml_eq_ok_iff.1 h
      exact ⟨ms, hparse⟩
    · intro h
      obtain ⟨v, houtline, -⟩ := (fromText_eq_ok_iff Settings.depth_le).1 h
      exact ⟨v, houtline⟩
  sections V _ u hview := ⟨Shape.stands_of_empty rfl hview, Shape.stands_of_empty rfl hview,
    Shape.stands_of_empty rfl hview, Shape.stands_of_empty rfl hview,
    Shape.stands_of_empty rfl hview⟩
  places := rfl
  standards := ⟨StorageSettings.standard_eq_usual, ObservabilitySettings.standard_eq_usual,
    AuthorizationSettings.standard_eq_usual⟩

/-- Settings with an empty section, and a group that is a whole service. -/
def briefSettings : String :=
  "name = \"a\"\nenv = \"dev\"\nsqlite_path = \"db\"\n[storage]\n" ++
  "[[authorization.scopes]]\nservice = \"bridge\"\n"

/-- The same settings with some of their standard values. -/
def fullSettings : String :=
  "name = \"a\"\nenv = \"dev\"\nsqlite_path = \"db\"\n[storage]\nbackend = \"sqlite\"\n" ++
  "[storage.sqlite]\nbusy_timeout_secs = 5\n[observability]\n" ++
  "[[authorization.scopes]]\nservice = \"bridge\"\napis = []\n"

/-- The members of the brief settings. -/
def briefMembers : List (String × Toml) :=
  [("name", .text "a"), ("env", .text "dev"), ("sqlite_path", .text "db"), ("storage", .table []),
    ("authorization", .table [("scopes", .tables [[("service", .text "bridge")]])])]

/-- The members of the full settings. -/
def fullMembers : List (String × Toml) :=
  [("name", .text "a"), ("env", .text "dev"), ("sqlite_path", .text "db"),
    ("storage", .table [("backend", .text "sqlite"),
      ("sqlite", .table [("busy_timeout_secs", .integer 5)])]),
    ("observability", .table []),
    ("authorization", .table [("scopes", .tables [[("service", .text "bridge"),
      ("apis", .list [])]])])]

theorem omits_fullMembers :
    (Shaped.shape Settings).Omits (Toml.table fullMembers) (Toml.table briefMembers) := by
  refine .inr (.inl ⟨_, _, rfl, rfl, .inl (.cons rfl .nil), .inl (.cons rfl .nil),
    .inl (.cons rfl .nil), ?storage, ?observability, ?authorization, trivial⟩)
  case storage =>
    -- the kind of storage is written, and a part of how files are used
    refine .inl (.cons (.inr (.inl ⟨_, _, rfl, rfl, ?_, ?_, .inl .nil, trivial⟩)) .nil)
    · exact .inr ⟨_, _, _, rfl, rfl, rfl, .inr ⟨nofun, rfl⟩⟩
    · refine .inr ⟨_, _, _, rfl, rfl, rfl, .inr (.inr ⟨_, rfl, ?_, ?_, trivial⟩)⟩
      · exact .inl ⟨rfl, nofun⟩
      · exact .inr ⟨_, _, _, rfl, rfl, .inr rfl⟩
  case observability =>
    exact .inr ⟨_, _, _, rfl, rfl, rfl, Shape.stands_of_empty rfl rfl⟩
  case authorization =>
    refine .inl (.cons (.inr (.inl ⟨_, _, rfl, rfl, .inl (.cons ?_ .nil), trivial⟩)) .nil)
    refine .inr ⟨_, _, rfl, rfl, .cons (.inr (.inl ⟨_, _, rfl, rfl, .inl (.cons rfl .nil),
      .inr ⟨_, _, _, rfl, rfl, rfl, .inr ⟨_, rfl, .nil⟩⟩, trivial⟩)) .nil⟩

/-- Settings in JSON without any section. -/
def briefSettingsInJson : String :=
  "\x7b\"name\": \"a\", \"env\": \"dev\", \"sqlite_path\": \"db\"\x7d"

/-- The same settings with an empty section. -/
def fullSettingsInJson : String :=
  "\x7b\"name\": \"a\", \"env\": \"dev\", \"authorization\": \x7b\x7d, \"sqlite_path\": \"db\"\x7d"

theorem omits_authorization {name env path : Json} :
    (Shaped.shape Settings).Omits
      (Json.object [("name", name), ("env", env), ("authorization", .object []),
        ("sqlite_path", path)])
      (Json.object [("name", name), ("env", env), ("sqlite_path", path)]) := by
  refine .inr (.inl ⟨_, _, rfl, rfl, .inl (.cons rfl .nil), .inl (.cons rfl .nil),
    .inl (.cons rfl .nil), .inl .nil, .inl .nil, ?_, trivial⟩)
  exact .inr ⟨_, _, _, rfl, rfl, rfl, Shape.stands_of_empty rfl rfl⟩

/-- Settings of which much is left out, in either format. -/
theorem standards_may_be_left_out_in_part :
    (∃ c : Settings, c.storage.file = ⟨10, 5⟩ ∧ fromToml Settings fullSettings = .ok c ∧
      fromToml Settings briefSettings = .ok c) ∧
    ∃ c : Settings, c.authorization = ⟨[]⟩ ∧
      fromText Settings fullSettingsInJson = .ok c ∧
      fromText Settings briefSettingsInJson = .ok c := by
  constructor
  · have hfull : Toml.parse fullSettings.toList = some fullMembers := by cbv
    have hbrief : Toml.parse briefSettings.toList = some briefMembers := by cbv
    have hsame := standards_may_be_left_out.toml _ _ _ _ hfull hbrief omits_fullMembers
    have hread : fromToml Settings briefSettings =
        .ok ⟨"a", "dev", "db", standard StorageSettings, standard ObservabilitySettings,
          ⟨[⟨.bridge, []⟩]⟩⟩ :=
      fromToml_eq_ok_iff.2 ⟨briefMembers, hbrief, rfl⟩
    exact ⟨_, rfl, (hsame _).2 hread, hread⟩
  · have hfull : Json.outline? fullSettingsInJson.toList =
        some (.object [("name", .text "a"), ("env", .text "dev"), ("authorization", .object []),
          ("sqlite_path", .text "db")]) := by cbv
    have hbrief : Json.outline? briefSettingsInJson.toList =
        some (.object [("name", .text "a"), ("env", .text "dev"), ("sqlite_path", .text "db")]) :=
      by cbv
    have hsame := standards_may_be_left_out.json _ _ _ _ hfull hbrief omits_authorization
    have hread : fromText Settings briefSettingsInJson =
        .ok ⟨"a", "dev", "db", standard StorageSettings, standard ObservabilitySettings, ⟨[]⟩⟩ :=
      (fromText_eq_ok_iff Settings.depth_le).2 ⟨_, hbrief, rfl⟩
    exact ⟨_, rfl, (hsame _).2 hread, hread⟩

end RealmRegistry

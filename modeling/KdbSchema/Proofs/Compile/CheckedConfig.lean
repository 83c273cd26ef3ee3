import KdbSchema.Config.Document
import KdbSchema.Proofs.Compile.Dependence
import KdbSchema.Proofs.Table.Name

/-!
# Checked configurations

The default namespace is looked at twice: when a configuration is read, and when the name of a
record without a marker is resolved.  Both times an absent and an empty one pass, and any other one
has to be a sequence of identifiers.  So a configuration is refused exactly if it would leave all
such records without a name, and under a configuration that was read only the base name of a record
can be at fault.
-/

namespace KdbSchema

variable {config config' : Config}

/-- What the table of a record is called inside its namespace. -/
def Record.baseName {ρ : Type} (r : Record ρ) : String := r.tableName.getD (camelCase r.ident)

namespace Config

/-- The namespace that records without a marker take, if it is a namespace at all. -/
def space? (config : Config) : Option String := config.defaultNamespace.filter (· ≠ "")

theorem check_eq (config : Config) :
    config.check =
      match config.space? with
      | none => .ok config
      | some s =>
          ((checkNamespace s).mapError fun _ => .invalidNamespace s).map fun _ => config := by
  unfold check space?
  cases config.defaultNamespace with
  | none => rfl
  | some name =>
      by_cases hname : name = ""
      · subst hname
        rfl
      · have hspace : (some name).filter (· ≠ "") = some name := by
          simp [hname]
        rw [hspace]
        simp only [if_neg hname]
        cases checkNamespace name <;> rfl

theorem check_eq_ok_iff :
    config.check = .ok config' ↔
      config = config' ∧ ∀ s, config.space? = some s → checkNamespace s = .ok () := by
  rw [check_eq]
  cases config.space? with
  | none => simp
  | some s =>
      rw [Except.map_eq_ok_iff]
      simp only [Except.mapError_eq_ok_iff, Option.some.injEq, forall_eq']
      constructor
      · rintro ⟨_, hspace, heq⟩
        exact ⟨heq, hspace⟩
      · rintro ⟨heq, hspace⟩
        exact ⟨(), hspace, heq⟩

theorem check_eq_error_iff {e : ConfigError} :
    config.check = .error e ↔
      ∃ s reason, config.space? = some s ∧ checkNamespace s = .error reason ∧
        e = .invalidNamespace s := by
  rw [check_eq]
  cases config.space? with
  | none => simp
  | some s =>
      rw [Except.map_eq_error_iff, Except.mapError_eq_error_iff]
      simp [eq_comm]

theorem readChecked_eq_ok_iff {Document : Type} {read : Document → Except ConfigError Config}
    {document : Document} :
    readChecked read document = .ok config ↔
      read document = .ok config ∧ config.check = .ok config := by
  rw [readChecked, Except.bind_eq_ok_iff]
  constructor
  · rintro ⟨found, hread, hcheck⟩
    obtain ⟨rfl, _⟩ := check_eq_ok_iff.mp hcheck
    exact ⟨hread, hcheck⟩
  · rintro ⟨hread, hcheck⟩
    exact ⟨config, hread, hcheck⟩

end Config

/-! ## Records without a marker -/

section Unmarked

variable {r : Record RecordId} (hmarker : r.marker = none)

include hmarker

theorem Record.space_of_unmarked :
    (r.marker.or config.defaultNamespace).filter (· ≠ "") = config.space? := by
  rw [hmarker, Option.none_or, Config.space?]

theorem Record.qualifiedName_exists_iff_check
    (hbase : checkName .table config.reserved.tables r.baseName = .ok ()) :
    (∃ q, r.qualifiedName config = .ok q) ↔ config.check = .ok config := by
  rw [Config.check_eq_ok_iff]
  constructor
  · rintro ⟨q, hq⟩
    obtain ⟨_, hspace, _, hcheck⟩ := Record.qualifiedName_eq_ok_iff.mp hq
    rw [Record.space_of_unmarked hmarker] at hspace
    exact ⟨rfl, fun s hs => hcheck s (hspace.trans hs)⟩
  · rintro ⟨_, hcheck⟩
    refine ⟨⟨config.space?, r.baseName⟩, ?_⟩
    rw [Record.qualifiedName_eq_ok_iff, Record.space_of_unmarked hmarker]
    exact ⟨rfl, rfl, hbase, hcheck⟩

theorem Record.check_of_qualifiedName_error {e : Failure}
    (hbase : checkName .table config.reserved.tables r.baseName = .ok ())
    (he : r.qualifiedName config = .error e) :
    ∃ s reason, e = .tableName r.ident s reason ∧ checkNamespace s = .error reason ∧
      config.check = .error (.invalidNamespace s) := by
  rcases Record.qualifiedName_eq_error_iff.mp he with
    ⟨reason, hreason, _⟩ | ⟨_, s, reason, hs, hreason, rfl⟩
  · cases hbase.symm.trans hreason
  · rw [Record.space_of_unmarked hmarker] at hs
    exact ⟨s, reason, rfl, hreason, Config.check_eq_error_iff.mpr ⟨s, reason, hs, hreason, rfl⟩⟩

theorem Record.base_of_qualifiedName_error {e : Failure} (hcheck : config.check = .ok config)
    (he : r.qualifiedName config = .error e) :
    ∃ reason, checkName .table config.reserved.tables r.baseName = .error reason ∧
      e = .tableName r.ident r.baseName reason := by
  rcases Record.qualifiedName_eq_error_iff.mp he with
    hbase | ⟨_, s, reason, hs, hreason, _⟩
  · exact hbase
  · rw [Record.space_of_unmarked hmarker] at hs
    rw [(Config.check_eq_ok_iff.mp hcheck).2 s hs] at hreason
    cases hreason

end Unmarked

/-! ## The empty namespace -/

theorem Record.qualifiedName_of_empty_default (r : Record RecordId) (config : Config) :
    r.qualifiedName { config with defaultNamespace := some "" } =
      r.qualifiedName { config with defaultNamespace := none } := by
  unfold Record.qualifiedName
  cases r.marker <;> rfl

theorem Compiler.agree_of_empty_default (catalog : Catalog) (config : Config)
    (ids : List RecordId) :
    Agree { catalog := catalog, config := { config with defaultNamespace := some "" } }
      { catalog := catalog, config := { config with defaultNamespace := none } } ids := by
  refine Agree.of_table rfl ?_
  intro id _
  refine table_congr rfl rfl rfl ?_ ?_
  · exact Record.qualifiedName_of_empty_default (catalog id) config
  · intro _ _ target _
    exact Record.qualifiedName_of_empty_default (catalog target) config

/-- Where the base name of a record without a marker is fine, its name resolves exactly if the check
of the configuration passes, and otherwise both tell the same namespace.  Whatever reads documents,
TOML or others, a configuration is accepted exactly if it is what was read and it passes the check.
Then such a record can only fail for its base name.  An empty default namespace passes the check and
does what none at all does. -/
theorem Config.check_agrees_with_names (config : Config) :
    (∀ r : Record RecordId, r.marker = none →
      checkName .table config.reserved.tables r.baseName = .ok () →
      ((∃ q, r.qualifiedName config = .ok q) ↔ config.check = .ok config) ∧
      ∀ e, r.qualifiedName config = .error e →
        ∃ s reason, e = .tableName r.ident s reason ∧
          config.check = .error (.invalidNamespace s)) ∧
    (∀ (Document : Type) (read : Document → Except ConfigError Config) (document : Document),
      Config.readChecked read document = .ok config ↔
        read document = .ok config ∧ config.check = .ok config) ∧
    (∀ text, Config.ofToml text = .ok config → config.check = .ok config) ∧
    (config.check = .ok config → ∀ r : Record RecordId, r.marker = none →
      ∀ e, r.qualifiedName config = .error e →
        ∃ reason, checkName .table config.reserved.tables r.baseName = .error reason ∧
          e = .tableName r.ident r.baseName reason) ∧
    (let empty : Config := { config with defaultNamespace := some "" }
     let absent : Config := { config with defaultNamespace := none }
     empty.check = .ok empty ∧ absent.check = .ok absent ∧
      (∀ r : Record RecordId, r.qualifiedName empty = r.qualifiedName absent) ∧
      ∀ (catalog : Catalog) (ids : List RecordId),
        Compiler.Agree { catalog := catalog, config := empty }
          { catalog := catalog, config := absent } ids) := by
  refine ⟨?_, fun _ _ _ => Config.readChecked_eq_ok_iff,
    fun _ htext => (Config.readChecked_eq_ok_iff.mp htext).2, ?_, ?_⟩
  · intro r hmarker hbase
    refine ⟨Record.qualifiedName_exists_iff_check hmarker hbase, ?_⟩
    intro e he
    obtain ⟨s, reason, hname, _, hcheck⟩ :=
      Record.check_of_qualifiedName_error hmarker hbase he
    exact ⟨s, reason, hname, hcheck⟩
  · intro hcheck r hmarker e he
    exact Record.base_of_qualifiedName_error hmarker hcheck he
  · refine ⟨rfl, rfl, fun r => Record.qualifiedName_of_empty_default r config, ?_⟩
    intro catalog ids
    exact Compiler.agree_of_empty_default catalog config ids

/-- A namespace with a blank is refused with the same text both times.  Under a configuration that
was read, a trade has a name, and a count has none since the word is taken. -/
theorem Config.check_agrees_with_names_market :
    let trade : Record RecordId := { ident := "Trade" }
    let count : Record RecordId := { ident := "Count" }
    let blank : Config := { defaultNamespace := some "mkt eu" }
    let market : Config := { defaultNamespace := some "mkt.eu" }
    let e : Failure := .tableName "Trade" "mkt eu" (.invalidCharacter ' ')
    let e' : Failure := .tableName "Count" "count" (.reserved "count" .table)
    (checkName .table [] trade.baseName = .ok () ∧
      trade.qualifiedName blank = .error e ∧ blank.check = .error (.invalidNamespace "mkt eu")) ∧
      Config.ofToml "default_namespace = 'mkt.eu'" = .ok market ∧
      (∃ q, trade.qualifiedName market = .ok q) ∧ count.qualifiedName market = .error e' ∧
      ∃ reason, checkName .table [] count.baseName = .error reason := by
  intro trade count blank market e e'
  have hbase : checkName .table [] trade.baseName = .ok () := by decide +kernel
  have htrade : trade.qualifiedName blank = .error e := by decide +kernel
  have hread : Config.ofToml "default_namespace = 'mkt.eu'" = .ok market := by decide +kernel
  have hcount : count.qualifiedName market = .error e' := by decide +kernel
  obtain ⟨_, hrefused⟩ := (check_agrees_with_names blank).1 trade rfl hbase
  obtain ⟨s, reason, hs, hcheck⟩ := hrefused e htrade
  obtain ⟨rfl, _⟩ : s = "mkt eu" ∧ reason = .invalidCharacter ' ' := by
    simpa [e, trade, eq_comm] using hs
  obtain ⟨hnames, _, hloaded, honlyBase, _⟩ := check_agrees_with_names market
  have hmarket : market.check = .ok market := hloaded _ hread
  obtain ⟨reason', hreason, _⟩ := honlyBase hmarket count rfl e' hcount
  exact ⟨⟨hbase, htrade, hcheck⟩, hread, (hnames trade rfl hbase).1.mpr hmarket, hcount, reason',
    hreason⟩

end KdbSchema

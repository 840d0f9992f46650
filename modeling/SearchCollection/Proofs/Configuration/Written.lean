import SearchCollection.Configuration.Text
import SearchCollection.Proofs.Toml.Tables

/-! # Written configurations are read back

The text of a configuration has three tables, with all that the configuration has
(`Configuration.tables`). Read under any home folder it gives the same configuration, but for
tildes in the paths (`Configuration.read?_write`): what is written is not replaced by a default,
and a log file that is left out stays left out.
-/

namespace SearchCollection.Configuration

/-- What the section on logging has. -/
def loggingPairs (configuration : Configuration) : List (String × String) :=
  ("level", configuration.logLevel) ::
    (configuration.logFile.map fun file => ("file", file)).toList

/-- The three sections of a configuration file. -/
def tables (configuration : Configuration) : List TextTable :=
  [{ name := "logging"
     pairs := configuration.loggingPairs
     bare := by decide
     bare_keys := by cases file : configuration.logFile <;> simp [loggingPairs, file] <;> decide
     nodup_keys := by cases file : configuration.logFile <;> simp [loggingPairs, file] },
   { name := "observability"
     pairs := [("log_format", configuration.logFormat)]
     bare := by decide
     bare_keys := by simp; decide
     nodup_keys := by simp },
   { name := "schemas"
     pairs := [("dir", configuration.declarations),
       ("primary_key", configuration.conventions.primaryKey),
       ("deleted_at", configuration.conventions.deletedAt)]
     bare := by decide
     bare_keys := by simp; decide
     nodup_keys := by simp }]

theorem write_eq_writeAll (configuration : Configuration) :
    configuration.write = TextTable.writeAll configuration.tables := by
  have logging : "[logging]\n" = Toml.header "logging" := rfl
  have observability : "\n[observability]\n" = "\n" ++ Toml.header "observability" := rfl
  have schemas : "\n[schemas]\n" = "\n" ++ Toml.header "schemas" := rfl
  unfold write
  cases file : configuration.logFile <;>
    simp only [tables, loggingPairs, file, TextTable.writeAll, TextTable.writeRest,
      TextTable.write, logging, observability, schemas, Option.map_none, Option.map_some,
      Option.toList_none, Option.toList_some, List.map_cons, List.map_nil, String.join_cons,
      String.join_nil, String.append_assoc, String.append_empty]

/-- The entries of a configuration file. -/
theorem read?_toml_write (configuration : Configuration) :
    Toml.read? configuration.write =
      some (configuration.tables.map fun table => (table.name, table.toToml)) := by
  rw [write_eq_writeAll]
  apply TextTable.read?_writeAll
  change ["logging", "observability", "schemas"].Nodup
  decide

/-- Nothing is missing in the entries, so that it does not matter what the defaults are. -/
theorem ofEntries?_tables (home : Path) (configuration : Configuration) :
    ofEntries? home (configuration.tables.map fun table => (table.name, table.toToml)) =
      some configuration := by
  obtain ⟨logLevel, logFile, logFormat, declarations, primaryKey, deletedAt⟩ := configuration
  cases logFile with
  | none => rfl
  | some file => rfl

/-- A configuration that is written is read back with its paths expanded. -/
theorem read?_write (home : Path) (configuration : Configuration) :
    read? home configuration.write = some (configuration.expandPaths home) := by
  rw [read?, read?_toml_write, Option.bind_some, ofEntries?_tables, Option.map_some]

end SearchCollection.Configuration

import SqlFilter.Command.Run
import SqlFilter.Json.Writer
import SqlFilter.Query.Build

set_option autoImplicit false

/-! # The command is the pipeline of the library

A run decodes its source, reads the tree in it and renders the tree by the table of the dialect.
`Dialect.Yields` says that all three succeed, without the command; a run writes the text that the
source yields and exits with zero, or it writes nothing to standard output and exits with one
(`Settings.run_cases`). So the two depend on the dialect and on the bytes of the source alone: not
on the place where the bytes come from, on the debug flag, or on the choice of log records.
-/

namespace SqlFilter

/-! ## Sources -/

/-- A text is decoded from bytes exactly if they are its encoding. -/
theorem decode_eq_ok_iff (bytes : ByteArray) (document : String) :
    decode bytes = .ok document ↔ bytes = document.toUTF8 := by
  rw [decode, String.fromUTF8?]
  by_cases hvalid : bytes.IsValidUTF8
  · rw [dif_pos hvalid]
    constructor
    · rintro ⟨⟩
      rfl
    · rintro rfl
      rfl
  · rw [dif_neg hvalid]
    refine iff_of_false (fun h => nomatch h) ?_
    rintro rfl
    exact hvalid document.isValidUTF8

/-- A source can be read as a text exactly if it is the encoding of the text. -/
theorem bind_decode_eq_ok_iff (source : Except FileError ByteArray) (document : String) :
    source.bind decode = .ok document ↔ source = .ok document.toUTF8 := by
  cases source with
  | error e => exact iff_of_false (fun h => nomatch h) fun h => nomatch h
  | ok bytes =>
      show decode bytes = .ok document ↔ _
      rw [decode_eq_ok_iff, Except.ok.injEq]

/-- The source holds the document of a tree, in UTF-8, and the tree has the text in the dialect. -/
def Dialect.Yields (dialect : Dialect) (source : Except FileError ByteArray) (sql : String) :
    Prop :=
  ∃ document tree, source = .ok document.toUTF8 ∧ Expr.ofJson document = .ok tree ∧
    dialect.table.render tree = .ok sql

/-- A source holds a tree exactly if it is the encoding of a document of the tree. -/
theorem Expr.load_eq_ok_iff (source : Except FileError ByteArray) (tree : Expr) :
    Expr.load source = .ok tree ↔
      ∃ document, source = .ok document.toUTF8 ∧ Expr.ofJson document = .ok tree := by
  simp only [← bind_decode_eq_ok_iff]
  rw [load]
  cases source.bind decode with
  | error e => simp
  | ok document => cases hread : Expr.ofJson document <;> simp [hread]

namespace Settings

/-- A run has a tree exactly if its source does. -/
theorem load_eq_ok_iff (settings : Settings) (source : Except FileError ByteArray) (tree : Expr) :
    settings.load source = .ok tree ↔ Expr.load source = .ok tree := by
  rw [load]
  cases Expr.load source with
  | ok other => cases settings.input <;> simp
  | error e => cases settings.input <;> cases e <;> simp

/-- A run has a text exactly if its source yields the text. -/
theorem render_eq_ok_iff (settings : Settings) (source : Except FileError ByteArray)
    (sql : String) :
    (settings.render source).2 = .ok sql ↔ settings.dialect.Yields source sql := by
  have hyields : settings.dialect.Yields source sql ↔
      ∃ tree, settings.load source = .ok tree ∧ settings.dialect.table.render tree = .ok sql := by
    simp only [load_eq_ok_iff, Expr.load_eq_ok_iff]
    constructor
    · rintro ⟨document, tree, hsource, hread, hsql⟩
      exact ⟨tree, ⟨document, hsource, hread⟩, hsql⟩
    · rintro ⟨tree, ⟨document, hsource, hread⟩, hsql⟩
      exact ⟨document, tree, hsource, hread, hsql⟩
  rw [hyields, render]
  cases settings.load source with
  | error failure => simp
  | ok tree =>
      simp only [Except.ok.injEq, exists_eq_left', Dialect.built, Table.render]
      cases (settings.dialect.table.walk tree).outcome <;> simp

/-- A run writes the text that its source yields, or fails. -/
theorem run_cases (settings : Settings) (spec : Option String)
    (source : Except FileError ByteArray) :
    (∃ sql, settings.dialect.Yields source sql ∧ (settings.run spec source).exit = 0 ∧
      (settings.run spec source).stdout = sql ++ "\n") ∨
    ((∀ sql, ¬ settings.dialect.Yields source sql) ∧ (settings.run spec source).exit = 1 ∧
      (settings.run spec source).stdout = "") := by
  simp only [← render_eq_ok_iff]
  cases hresult : (settings.render source).2 with
  | ok sql =>
      refine .inl ⟨sql, rfl, ?_, ?_⟩
      · simp only [run, hresult]
      · simp only [run, hresult]
  | error failure =>
      refine .inr ⟨fun sql h => (nomatch h), ?_, ?_⟩
      · simp only [run, hresult]
      · simp only [run, hresult]

end Settings

/-! ## Runs -/

theorem runCommand_of_run {arguments : List String} {settings : Settings}
    (h : Request.ofArguments arguments = .ok (.run settings)) (around : Surroundings) :
    runCommand arguments around = settings.run around.logSpec (around.source settings) := by
  rw [runCommand, h]

/-- The text that a source yields is determined by its bytes. -/
theorem Dialect.Yields.congr {dialect : Dialect} {source source' : Except FileError ByteArray}
    (hbytes : ∀ bytes, source' = .ok bytes ↔ source = .ok bytes) (sql : String) :
    dialect.Yields source' sql ↔ dialect.Yields source sql := by
  simp only [Dialect.Yields, hbytes]

theorem Dialect.Yields.unique {dialect : Dialect} {source : Except FileError ByteArray}
    {sql sql' : String} (h : dialect.Yields source sql) (h' : dialect.Yields source sql') :
    sql = sql' := by
  have hsettings (sql) := Settings.render_eq_ok_iff ⟨none, dialect, false⟩ source sql
  have hsame := ((hsettings sql).mpr h).symm.trans ((hsettings sql').mpr h')
  exact Except.ok.inj hsame

/-- **The command is the pipeline.** A run exits with zero exactly if its source yields a text, which
it then writes on a line of its own; every other run exits with one and writes nothing to standard
output, also where the source cannot be read. Two runs with one dialect and the same bytes agree in
both, whatever their other arguments, the place of the bytes and the choice of log records. -/
theorem runCommand_pipeline {arguments : List String} {settings : Settings}
    (h : Request.ofArguments arguments = .ok (.run settings)) (around : Surroundings) :
    ((runCommand arguments around).exit = 0 ↔
      ∃ sql, settings.dialect.Yields (around.source settings) sql) ∧
    (∀ sql, settings.dialect.Yields (around.source settings) sql →
      (runCommand arguments around).exit = 0 ∧
      (runCommand arguments around).stdout = sql ++ "\n") ∧
    ((∀ sql, ¬ settings.dialect.Yields (around.source settings) sql) →
      (runCommand arguments around).exit = 1 ∧ (runCommand arguments around).stdout = "") ∧
    (∀ arguments' settings' around',
      Request.ofArguments arguments' = .ok (.run settings') →
      settings'.dialect = settings.dialect →
      (∀ bytes, around'.source settings' = .ok bytes ↔ around.source settings = .ok bytes) →
      (runCommand arguments' around').exit = (runCommand arguments around).exit ∧
      (runCommand arguments' around').stdout = (runCommand arguments around).stdout) ∧
    (∀ spec source, (∀ bytes, source ≠ .ok bytes) →
      (settings.run spec source).exit = 1 ∧ (settings.run spec source).stdout = "") := by
  rw [runCommand_of_run h]
  have hcases := settings.run_cases around.logSpec (around.source settings)
  refine ⟨?_, ?_, ?_, ?_, ?_⟩
  · rcases hcases with ⟨sql, hsql, hexit, -⟩ | ⟨hnone, hexit, -⟩
    · exact iff_of_true hexit ⟨sql, hsql⟩
    · rw [hexit]
      exact iff_of_false Nat.one_ne_zero fun ⟨sql, hsql⟩ => hnone sql hsql
  · intro sql hsql
    rcases hcases with ⟨sql', hsql', hexit, hstdout⟩ | ⟨hnone, -⟩
    · rw [hsql.unique hsql']
      exact ⟨hexit, hstdout⟩
    · exact absurd hsql (hnone sql)
  · intro hnone
    rcases hcases with ⟨sql, hsql, -⟩ | ⟨-, hfails⟩
    · exact absurd hsql (hnone sql)
    · exact hfails
  · intro arguments' settings' around' h' hdialect hbytes
    rw [runCommand_of_run h']
    have hcases' := settings'.run_cases around'.logSpec (around'.source settings')
    rw [hdialect] at hcases'
    simp only [Dialect.Yields.congr hbytes] at hcases'
    -- both runs have the same text or none
    rcases hcases with ⟨sql, hsql, hexit, hstdout⟩ | ⟨hnone, hexit, hstdout⟩
    · rcases hcases' with ⟨sql', hsql', hexit', hstdout'⟩ | ⟨hnone', -⟩
      · rw [hexit, hexit', hstdout, hstdout', hsql.unique hsql']
        exact ⟨rfl, rfl⟩
      · exact absurd hsql (hnone' sql)
    · rcases hcases' with ⟨sql', hsql', -⟩ | ⟨-, hexit', hstdout'⟩
      · exact absurd hsql' (hnone sql')
      · rw [hexit, hexit', hstdout, hstdout']
        exact ⟨rfl, rfl⟩
  · intro spec source hunreadable
    rcases settings.run_cases spec source with ⟨sql, ⟨document, -, hsource, -⟩, -⟩ | ⟨-, hfails⟩
    · exact absurd hsource (hunreadable _)
    · exact hfails

/-- A file with a negated column, asked for by its name and with all records of the log, and the
same bytes on standard input with the log switched off. -/
theorem runCommand_pipeline_of_file :
    Request.ofArguments ["-i", "q.json", "--debug"] =
      .ok (.run ⟨some "q.json", .postgres, true⟩) ∧
    Request.ofArguments ["--dialect=PostgreSQL"] = .ok (.run ⟨none, .postgres, false⟩) ∧
    (runCommand ["-i", "q.json", "--debug"] ⟨.empty,
      (Folder.ofList [("q.json", (Expr.not (.column "a b")).toJson.toUTF8)]).read,
        some "trace"⟩).stdout = "NOT(\"a b\")\n" ∧
    (runCommand ["--dialect=PostgreSQL"] ⟨(Expr.not (.column "a b")).toJson.toUTF8,
      fun _ => .error .notFound, some "off"⟩).stdout = "NOT(\"a b\")\n" := by
  have hfile : Request.ofArguments ["-i", "q.json", "--debug"] =
      .ok (.run ⟨some "q.json", .postgres, true⟩) := by rfl
  have hstdin : Request.ofArguments ["--dialect=PostgreSQL"] =
      .ok (.run ⟨none, .postgres, false⟩) := by rfl
  have hread : Expr.ofJson (Expr.not (.column "a b")).toJson = .ok (.not (.column "a b")) := by rfl
  have hsql : Dialect.postgres.table.render (.not (.column "a b")) = .ok "NOT(\"a b\")" := by rfl
  refine ⟨hfile, hstdin, ?_, ?_⟩
  · exact ((runCommand_pipeline hfile _).2.1 _ ⟨_, _, rfl, hread, hsql⟩).2
  · exact ((runCommand_pipeline hstdin _).2.1 _ ⟨_, _, rfl, hread, hsql⟩).2

end SqlFilter

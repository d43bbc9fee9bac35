import Mathlib.Data.List.Basic
import MarkedRoutes.Command.Run
import MarkedRoutes.Proofs.Command.FileTrees
import MarkedRoutes.Proofs.Generated.Header

/-!
# Failed runs

A run that is to write a generated file and fails has changed no file, with one exception.
The formatting program is started on the file where it stands, so the generated text is
already there when that program cannot be run or fails.  What is left then is what that
program leaves.
-/

namespace MarkedRoutes

open MarkedRoutes.Source (SourceParser)

def CommandFault.isOfFormatter : CommandFault → Bool
  | formatterMissing _ => true
  | formatterFailed _ _ => true
  | _ => false

def CommandFault.isOfWriting : CommandFault → Bool
  | unwritable _ _ => true
  | _ => false

variable {place : Workplace} {configuration : Configuration} {invocation : Invocation}
  {path : String} {file : GeneratedFile} {fault : CommandFault}

/-! ### Reading -/

theorem isOfFormatter_of_readConfiguration {files : FileTree}
    (hread : readConfiguration files path = .error fault) : fault.isOfFormatter = false := by
  rw [readConfiguration] at hread
  split at hread
  · cases hread
    rfl
  · split at hread
    · cases hread
      rfl
    · cases hread

theorem isOfFormatter_of_checkConfiguration [SourceParser]
    (hcheck : checkConfiguration configuration = .error fault) : fault.isOfFormatter = false := by
  rw [checkConfiguration] at hcheck
  split at hcheck
  · cases hcheck
    rfl
  · cases hcheck

theorem isOfFormatter_of_loadConfiguration [SourceParser] {path : Option String}
    (hload : loadConfiguration place path = .error fault) : fault.isOfFormatter = false := by
  have hread : ∀ path, (readConfiguration place.files path >>= fun base =>
      checkConfiguration (base.withEnvironment place.environment)) = .error fault →
      fault.isOfFormatter = false := by
    intro path hload
    rcases bind_eq_error_iff.mp hload with hread | ⟨base, -, hcheck⟩
    · exact isOfFormatter_of_readConfiguration hread
    · exact isOfFormatter_of_checkConfiguration hcheck
  cases path with
  | some path => exact hread path hload
  | none =>
      rw [loadConfiguration] at hload
      dsimp only at hload
      split_ifs at hload
      · exact hread _ hload
      · exact isOfFormatter_of_checkConfiguration hload

theorem isOfFormatter_of_resolveConfiguration [SourceParser]
    (hresolve : resolveConfiguration place invocation = .error fault) :
    fault.isOfFormatter = false := by
  rcases bind_eq_error_iff.mp hresolve with hload | ⟨loaded, -, hcheck⟩
  · exact isOfFormatter_of_loadConfiguration hload
  · exact isOfFormatter_of_checkConfiguration hcheck

theorem isOfFormatter_of_readSources [SourceParser] {input : String}
    (hread : readSources place configuration input = .error fault) :
    fault.isOfFormatter = false := by
  rw [readSources] at hread
  split at hread
  · cases hread
    rfl
  · split at hread
    · cases hread
      rfl
    · cases hread

/-! ### Writing -/

/-- A formatting program is at fault: there is none of its name, and the files stay as they were
written, or it fails and leaves some files. -/
inductive FailsToFormat (place : Workplace) (path : String) (written : FileTree) :
    CommandFault → FileTree → Prop
  | missing (hmissing : place.formatter (formatterName place) path written = .missing) :
      FailsToFormat place path written (.formatterMissing (formatterName place)) written
  | failed {left : FileTree}
      (hfailed : place.formatter (formatterName place) path written = .failed left) :
      FailsToFormat place path written (.formatterFailed (formatterName place) path) left

theorem FailsToFormat.isOfFormatter {written after : FileTree}
    (hfails : FailsToFormat place path written fault after) : fault.isOfFormatter = true := by
  cases hfails <;> rfl

theorem failsToFormat_of_formatFile {written : FileTree}
    (hformat : (formatFile place written path).1 = .error fault) :
    FailsToFormat place path written fault (formatFile place written path).2 := by
  rw [formatFile] at hformat ⊢
  cases hformatter : place.formatter (formatterName place) path written with
  | missing =>
      rw [hformatter] at hformat
      cases hformat
      exact .missing hformatter
  | failed left =>
      rw [hformatter] at hformat
      cases hformat
      exact .failed hformatter
  | formatted left =>
      rw [hformatter] at hformat
      cases hformat

/-- What stands in the files when formatting has failed: the generated text was written to an
output that held another text, no other file was changed, and the formatting program was then
at fault. -/
structure LeftUnformatted (place : Workplace) (path : String) (configuration : Configuration)
    (file : GeneratedFile) (fault : CommandFault) (after : FileTree) : Prop where
  formats : configuration.formats = true
  changes : place.files.read path ≠ .ok file.text
  fails : ∃ written, place.files.Rewrites path file.text written ∧
    FailsToFormat place path written fault after

/-- A generated file that replaces another text is written, and then formatted. -/
theorem writeGenerated_format {events : List Event} {written : FileTree}
    (hformats : configuration.formats = true) (hchanges : place.files.read path ≠ .ok file.text)
    (hwrite : place.files.write path file.text = .ok written) :
    writeGenerated place configuration path file events =
      ⟨(formatFile place written path).1.map fun _ => writtenLine file path,
        (formatFile place written path).2, events,
        [.write path file.text, .format (formatterName place) path file.text]⟩ := by
  have hother : (place.files.read path).toOption ≠ some file.text := fun hsame =>
    hchanges (eq_ok_of_toOption hsame)
  rw [writeGenerated, if_neg hother, hwrite]
  exact if_pos hformats

/-- A write that fails through no fault of writing fails in formatting. -/
theorem leftUnformatted_of_writeGenerated {events : List Event}
    (hfailed : (writeGenerated place configuration path file events).result = .error fault)
    (hwrites : fault.isOfWriting = false) :
    LeftUnformatted place path configuration file fault
      (writeGenerated place configuration path file events).files := by
  by_cases hsame : (place.files.read path).toOption = some file.text
  · rw [writeGenerated, if_pos hsame] at hfailed
    cases hfailed
  · have hchanges : place.files.read path ≠ .ok file.text := by
      intro hread
      rw [hread] at hsame
      exact hsame rfl
    cases hwrite : place.files.write path file.text with
    | error reason =>
        rw [writeGenerated, if_neg hsame, hwrite] at hfailed
        cases hfailed
        cases hwrites
    | ok written =>
        by_cases hformats : configuration.formats = true
        · rw [writeGenerated_format hformats hchanges hwrite] at hfailed ⊢
          dsimp only at hfailed
          have hformat : (formatFile place written path).1 = .error fault := by
            cases hresult : (formatFile place written path).1 with
            | ok value =>
                rw [hresult] at hfailed
                cases hfailed
            | error reason =>
                rw [hresult] at hfailed
                cases hfailed
                rfl
          exact ⟨hformats, hchanges, written, FileTree.rewrites_write hwrite,
            failsToFormat_of_formatFile hformat⟩
        · rw [writeGenerated, if_neg hsame, hwrite] at hfailed
          dsimp only at hfailed
          rw [if_neg hformats] at hfailed
          cases hfailed

/-- A formatting program that fails on a text that was written leaves the files that it leaves. -/
theorem writeGenerated_formatterFailed {events : List Event} {written left : FileTree}
    (hformats : configuration.formats = true) (hchanges : place.files.read path ≠ .ok file.text)
    (hwrite : place.files.write path file.text = .ok written)
    (hformatter : place.formatter (formatterName place) path written = .failed left) :
    writeGenerated place configuration path file events =
      ⟨.error (.formatterFailed (formatterName place) path), left, events,
        [.write path file.text, .format (formatterName place) path file.text]⟩ := by
  rw [writeGenerated_format hformats hchanges hwrite, formatFile, hformatter]
  rfl

/-! ### Runs -/

/-- An invocation compiles its input to a file, with a configuration. -/
structure Generates [SourceParser] (place : Workplace) (invocation : Invocation)
    (configuration : Configuration) (file : GeneratedFile) : Prop where
  resolves : resolveConfiguration place invocation = .ok configuration
  compiles : ∃ sources, readSources place configuration invocation.input = .ok sources ∧
    (compile configuration sources).1 = .ok file

/-- The text of a generated file has more than one line. -/
theorem lineFeed_mem_text [SourceParser]
    (hgenerates : Generates place invocation configuration file) :
    '\n' ∈ file.text.toList := by
  obtain ⟨sources, -, hcompile⟩ := hgenerates.compiles
  obtain ⟨groups, -, hgenerate⟩ := compile_ok hcompile
  obtain ⟨-, tokens, -, htext⟩ := generate_ok hgenerate
  rw [htext]
  simp [renderFile, headerLines, Text.joinTexts, Text.join]

/-- An invocation that generates a file writes it to its output. -/
theorem exists_runCommand_eq [SourceParser]
    (hgenerates : Generates place invocation configuration file)
    (hcommand : invocation.command = .generate) (houtput : invocation.output = some path) :
    ∃ events, runCommand place invocation =
      writeGenerated place configuration path file events := by
  obtain ⟨sources, hread, hcompile⟩ := hgenerates.compiles
  rw [runCommand, hgenerates.resolves]
  dsimp only
  rw [hread, hcommand, houtput]
  dsimp only
  rw [runGenerate]
  rcases hresult : compile configuration sources with ⟨result, events⟩
  rw [hresult] at hcompile
  cases hcompile
  exact ⟨events, rfl⟩

theorem files_of_runGenerate [SourceParser] {sources : SourceSet}
    (hfailed : (runGenerate place configuration (some path) sources).result = .error fault)
    (hwrites : fault.isOfWriting = false) :
    (fault.isOfFormatter = false ∧
      (runGenerate place configuration (some path) sources).files = place.files) ∨
    (fault.isOfFormatter = true ∧ ∃ file, (compile configuration sources).1 = .ok file ∧
      LeftUnformatted place path configuration file fault
        (runGenerate place configuration (some path) sources).files) := by
  rw [runGenerate] at hfailed ⊢
  rcases hcompile : compile configuration sources with ⟨reason | file, events⟩
  · rw [hcompile] at hfailed
    cases hfailed
    exact Or.inl ⟨rfl, rfl⟩
  · rw [hcompile] at hfailed
    have hleft := leftUnformatted_of_writeGenerated hfailed hwrites
    obtain ⟨written, -, hfails⟩ := hleft.fails
    exact Or.inr ⟨hfails.isOfFormatter, file, rfl, hleft⟩

/-- A workplace with a source, an output that is there already, and a formatting program that
fails and leaves the files as they are. -/
def keptPlace (source : String) : Workplace where
  files := .ofFiles [("routes.rs", source), ("out.rs", "// kept")]
  environment := fun name => if name = "ROUTECRAFT_RUSTFMT_BIN" then some "false" else none
  formatter := fun _ _ files => .failed files

def emptyGroupText : String := "#[route_group] pub mod a \x7b\x7d"

/-- The invocation of `generate --input routes.rs --output out.rs --fmt`. -/
def formattingInvocation : Invocation where
  command := .generate
  isVerbose := false
  logFormat := .text
  configPath := none
  input := "routes.rs"
  modulePath := none
  output := some "out.rs"
  runtimePath := none
  entryFunction := none
  formats := true
  asJson := false

def formattingConfiguration : Configuration := { Configuration.standard with formats := true }

section Standard

attribute [local instance] SourceParser.standard

/-- The sources that the invocation reads. -/
def emptyGroupSources : SourceSet :=
  (readSources (keptPlace emptyGroupText) formattingConfiguration "routes.rs").toOption.getD .empty

def emptyGroupFile : GeneratedFile :=
  (compile formattingConfiguration emptyGroupSources).1.toOption.getD ⟨"", []⟩

theorem generates_emptyGroup :
    Generates (keptPlace emptyGroupText) formattingInvocation formattingConfiguration
      emptyGroupFile := by
  have hread : (readSources (keptPlace emptyGroupText) formattingConfiguration
      "routes.rs").isOk = true := by
    decide +kernel
  have hcompile : (compile formattingConfiguration emptyGroupSources).1.isOk = true := by
    decide +kernel
  exact ⟨by decide +kernel, emptyGroupSources, eq_ok_getD hread .empty,
    eq_ok_getD hcompile ⟨"", []⟩⟩

/-- The invocation fails in formatting, and the output holds the generated text. -/
theorem runCommand_emptyGroup :
    (runCommand (keptPlace emptyGroupText) formattingInvocation).result =
        .error (.formatterFailed "false" "out.rs") ∧
      (runCommand (keptPlace emptyGroupText) formattingInvocation).files.read "out.rs" =
        .ok emptyGroupFile.text := by
  have hchanges : (keptPlace emptyGroupText).files.read "out.rs" ≠ .ok emptyGroupFile.text := by
    have hread : (keptPlace emptyGroupText).files.read "out.rs" = .ok "// kept" := by
      decide +kernel
    intro hsame
    have hkept : '\n' ∈ "// kept".toList := by
      rw [Except.ok.inj (hread.symm.trans hsame)]
      exact lineFeed_mem_text generates_emptyGroup
    exact absurd hkept (by decide)
  obtain ⟨after, hwrite⟩ : ∃ after,
      (keptPlace emptyGroupText).files.write "out.rs" emptyGroupFile.text = .ok after := by
    rw [← isOk_eq_true_iff, FileTree.isOk_write ""]
    decide +kernel
  obtain ⟨events, hrun⟩ := exists_runCommand_eq generates_emptyGroup rfl rfl
  rw [hrun, writeGenerated_formatterFailed rfl hchanges hwrite rfl]
  exact ⟨rfl, (FileTree.rewrites_write hwrite).written⟩

end Standard

end MarkedRoutes

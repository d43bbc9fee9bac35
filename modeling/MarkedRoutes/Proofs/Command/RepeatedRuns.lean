import MarkedRoutes.Proofs.Command.FailedRuns

/-!
# Repeated runs

A run that generates a file, and whose formatting program leaves the text alone, can be repeated:
the second run finds its text in place.  It reads what the first one has read, as long as the
output is neither the input nor the file of the configuration, because writing and formatting
change no other file and take no directory away.
-/

namespace MarkedRoutes

open FileTree
open MarkedRoutes.Source (SourceParser)

variable {place : Workplace} {configuration : Configuration} {invocation : Invocation}
  {files : FileTree} {path printed : String} {file : GeneratedFile}

/-! ### Reading again -/

theorem readConfiguration_again (hread : (files.read path).toOption =
      (place.files.read path).toOption)
    (hconfiguration : readConfiguration place.files path = .ok configuration) :
    readConfiguration files path = .ok configuration := by
  rw [readConfiguration] at hconfiguration ⊢
  cases htext : place.files.read path with
  | error fault =>
      rw [htext] at hconfiguration
      cases hconfiguration
  | ok text =>
      rw [htext] at hread hconfiguration
      cases hagain : files.read path with
      | error fault => rw [hagain] at hread; cases hread
      | ok other =>
          rw [hagain] at hread
          cases hread
          exact hconfiguration

/-- The file that the configuration of an invocation is read from, when it is there. -/
def Invocation.configurationPath (invocation : Invocation) : String :=
  invocation.configPath.getD defaultConfigurationPath

/-- The configuration depends on the files only by what is read from its own file. -/
theorem resolveConfiguration_again [SourceParser]
    (hread : (files.read invocation.configurationPath).toOption =
      (place.files.read invocation.configurationPath).toOption)
    (hresolve : resolveConfiguration place invocation = .ok configuration) :
    resolveConfiguration { place with files } invocation = .ok configuration := by
  obtain ⟨loaded, hload, hcheck⟩ := bind_eq_ok_iff.mp hresolve
  refine bind_eq_ok_iff.mpr ⟨loaded, ?_, hcheck⟩
  rw [Invocation.configurationPath] at hread
  cases hpath : invocation.configPath with
  | some path =>
      rw [hpath] at hread hload
      obtain ⟨base, hbase, hloaded⟩ := bind_eq_ok_iff.mp hload
      exact bind_eq_ok_iff.mpr ⟨base, readConfiguration_again hread hbase, hloaded⟩
  | none =>
      rw [hpath, Option.getD_none] at hread
      rw [hpath] at hload
      have hfile : files.isFile defaultConfigurationPath =
          place.files.isFile defaultConfigurationPath := by
        rw [isFile_eq_isSome, isFile_eq_isSome, hread]
      rw [loadConfiguration] at hload ⊢
      dsimp only at hload ⊢
      rw [hfile]
      split_ifs at hload ⊢
      · obtain ⟨base, hbase, hloaded⟩ := bind_eq_ok_iff.mp hload
        exact bind_eq_ok_iff.mpr ⟨base, readConfiguration_again hread hbase, hloaded⟩
      · exact hload

theorem readSources_again [SourceParser] {input : String} {sources : SourceSet}
    (hread : (files.read input).toOption = (place.files.read input).toOption)
    (hsources : readSources place configuration input = .ok sources) :
    readSources { place with files } configuration input = .ok sources := by
  rw [readSources] at hsources ⊢
  cases htext : place.files.read input with
  | error fault =>
      rw [htext] at hsources
      cases hsources
  | ok text =>
      rw [htext] at hread hsources
      dsimp only
      cases hagain : files.read input with
      | error fault => rw [hagain] at hread; cases hread
      | ok other =>
          rw [hagain] at hread
          cases hread
          exact hsources

/-- A successful run has read its input, so paths lead to places. -/
theorem exists_place_of_readSources [SourceParser] {input : String} {sources : SourceSet}
    (hsources : readSources place configuration input = .ok sources) :
    ∃ names, place.files.place input = .ok names := by
  rw [readSources] at hsources
  split at hsources
  · cases hsources
  · next text hread => exact exists_place_of_read hread

/-- The path of the configuration leads to a place, whether or not a file is there. -/
theorem exists_place_of_resolveConfiguration [SourceParser]
    (hroot : place.files.entry [] = .directory)
    (hresolve : resolveConfiguration place invocation = .ok configuration) :
    ∃ names, place.files.place invocation.configurationPath = .ok names := by
  obtain ⟨loaded, hload, -⟩ := bind_eq_ok_iff.mp hresolve
  rw [Invocation.configurationPath]
  cases hpath : invocation.configPath with
  | some path =>
      rw [hpath] at hload
      obtain ⟨base, hbase, -⟩ := bind_eq_ok_iff.mp hload
      rw [readConfiguration] at hbase
      split at hbase
      · cases hbase
      · next text hread => exact exists_place_of_read hread
  | none =>
      have hpieces : pathPieces defaultConfigurationPath = [defaultConfigurationPath] := by
        decide +kernel
      refine ⟨[defaultConfigurationPath], ?_⟩
      rw [Option.getD_none, FileTree.place, hpieces, if_neg (by decide +kernel), walk, hroot]
      rfl

/-! ### Writing again -/

/-- Formatting programs change only the file at the path that they are given. -/
def Workplace.FormatsInPlace (place : Workplace) : Prop :=
  ∀ program path files left, place.formatter program path files = .formatted left →
    files.KeepsOthers path left

/-- Each text that a run called a formatting program on stands in its file after the run. -/
def CommandOutcome.FormatsAlike (outcome : CommandOutcome) : Prop :=
  ∀ program path content, FileAction.format program path content ∈ outcome.actions →
    outcome.files.read path = .ok content

/-- A generated file that is in place already is not written. -/
theorem writeGenerated_of_read {events : List Event}
    (hread : place.files.read path = .ok file.text) :
    writeGenerated place configuration path file events =
      .untouched place (.ok (writtenLine file path)) events := by
  rw [writeGenerated, if_pos]
  rw [hread]
  rfl

/-- A generated file that replaces another text, and is formatted. -/
theorem writeGenerated_formatted {events : List Event} {written left : FileTree}
    (hformats : configuration.formats = true) (hchanges : place.files.read path ≠ .ok file.text)
    (hwrite : place.files.write path file.text = .ok written)
    (hformatter : place.formatter (formatterName place) path written = .formatted left) :
    writeGenerated place configuration path file events =
      ⟨.ok (writtenLine file path), left, events,
        [.write path file.text, .format (formatterName place) path file.text]⟩ := by
  rw [writeGenerated_format hformats hchanges hwrite, formatFile, hformatter]
  rfl

/-- When a generated file was written, it stands at its path, and no other file has changed. -/
theorem writeGenerated_ok (hplace : place.FormatsInPlace) {events : List Event}
    (hresult : (writeGenerated place configuration path file events).result = .ok printed)
    (halike : (writeGenerated place configuration path file events).FormatsAlike) :
    printed = writtenLine file path ∧
      (writeGenerated place configuration path file events).files.read path = .ok file.text ∧
      place.files.KeepsOthers path
        (writeGenerated place configuration path file events).files := by
  by_cases hsame : (place.files.read path).toOption = some file.text
  · rw [writeGenerated, if_pos hsame] at hresult ⊢
    cases hresult
    exact ⟨rfl, eq_ok_of_toOption hsame, .refl _ _⟩
  · cases hwrite : place.files.write path file.text with
    | error fault =>
        rw [writeGenerated, if_neg hsame, hwrite] at hresult
        cases hresult
    | ok written =>
        have hrewrites := rewrites_write hwrite
        have hkeeps := hrewrites.keepsOthers (covers_write hwrite)
        by_cases hformats : configuration.formats = true
        · cases hformatter : place.formatter (formatterName place) path written with
          | missing =>
              rw [writeGenerated, if_neg hsame, hwrite] at hresult
              dsimp only at hresult
              rw [if_pos hformats, formatFile, hformatter] at hresult
              cases hresult
          | failed left =>
              rw [writeGenerated, if_neg hsame, hwrite] at hresult
              dsimp only at hresult
              rw [if_pos hformats, formatFile, hformatter] at hresult
              cases hresult
          | formatted left =>
              have hchanges : place.files.read path ≠ .ok file.text := by
                intro hread
                rw [hread] at hsame
                exact hsame rfl
              rw [writeGenerated_formatted hformats hchanges hwrite hformatter] at *
              cases hresult
              have hread := halike (formatterName place) path file.text (by simp)
              exact ⟨rfl, hread, hkeeps.trans (hplace _ _ _ _ hformatter)⟩
        · rw [writeGenerated, if_neg hsame, hwrite] at hresult ⊢
          dsimp only at hresult ⊢
          rw [if_neg hformats] at hresult ⊢
          cases hresult
          exact ⟨rfl, hrewrites.written, hkeeps⟩

/-! ### Running again -/

variable {output : Option String} {sources : SourceSet}

/-- Generating a file changes nothing that is read from places of another name. -/
theorem toOption_read_of_runGenerate [SourceParser] (hformats : place.FormatsInPlace)
    {kept : String} {names : List String}
    (hresult : (runGenerate place configuration output sources).result = .ok printed)
    (halike : (runGenerate place configuration output sources).FormatsAlike)
    (hapart : ∀ path ∈ output, NamesApart path kept)
    (hplace : place.files.place kept = .ok names) :
    ((runGenerate place configuration output sources).files.read kept).toOption =
      (place.files.read kept).toOption := by
  rw [runGenerate] at hresult halike ⊢
  rcases hcompile : compile configuration sources with ⟨fault | file, events⟩
  · rfl
  · rw [hcompile] at hresult halike
    cases output with
    | none => rfl
    | some path =>
        obtain ⟨-, -, hkeeps⟩ := writeGenerated_ok hformats hresult halike
        exact hkeeps.toOption_read_eq (hapart path rfl) hplace

/-- Generating a file from the same sources once more finds it in place. -/
theorem runGenerate_again [SourceParser] (hformats : place.FormatsInPlace)
    (hresult : (runGenerate place configuration output sources).result = .ok printed)
    (halike : (runGenerate place configuration output sources).FormatsAlike)
    (hfiles : files = (runGenerate place configuration output sources).files) :
    ∃ events, runGenerate { place with files } configuration output sources =
      .untouched { place with files } (.ok printed) events := by
  rw [runGenerate] at hresult halike hfiles ⊢
  rcases hcompile : compile configuration sources with ⟨fault | file, events⟩
  · rw [hcompile] at hresult
    cases hresult
  · rw [hcompile] at hresult halike hfiles
    cases output with
    | none =>
        cases hresult
        exact ⟨events, rfl⟩
    | some path =>
        obtain ⟨hprinted, hread, -⟩ := writeGenerated_ok hformats hresult halike
        rw [← hfiles] at hread
        rw [hprinted]
        exact ⟨events, writeGenerated_of_read hread⟩

/-- A successful run has a configuration and sources. -/
theorem exists_of_runCommand_ok [SourceParser]
    (hresult : (runCommand place invocation).result = .ok printed) :
    ∃ configuration sources, resolveConfiguration place invocation = .ok configuration ∧
      readSources place configuration invocation.input = .ok sources := by
  rw [runCommand] at hresult
  cases hresolve : resolveConfiguration place invocation with
  | error fault =>
      rw [hresolve] at hresult
      cases hresult
  | ok configuration =>
      rw [hresolve] at hresult
      dsimp only at hresult
      cases hsources : readSources place configuration invocation.input with
      | error fault =>
          rw [hsources] at hresult
          cases hresult
      | ok sources => exact ⟨configuration, sources, rfl, hsources⟩

theorem runCommand_eq_runGenerate [SourceParser] (hcommand : invocation.command = .generate)
    (hresolve : resolveConfiguration place invocation = .ok configuration)
    (hsources : readSources place configuration invocation.input = .ok sources) :
    runCommand place invocation =
      runGenerate place configuration invocation.output sources := by
  rw [runCommand, hresolve]
  dsimp only
  rw [hsources, hcommand]

/-- The output of an invocation is neither its input nor the file of its configuration. -/
structure Invocation.WritesApart (invocation : Invocation) : Prop where
  input : ∀ path ∈ invocation.output, NamesApart path invocation.input
  configuration : ∀ path ∈ invocation.output, NamesApart path invocation.configurationPath

/-- What commands find around them after a run. -/
def Workplace.after (place : Workplace) (outcome : CommandOutcome) : Workplace :=
  { place with files := outcome.files }

/-- A workplace with a source, an output that holds another text, and a formatting program that
leaves every file alone. -/
def tidyPlace : Workplace :=
  { keptPlace emptyGroupText with formatter := fun _ _ files => .formatted files }

theorem formatsInPlace_tidyPlace : tidyPlace.FormatsInPlace := by
  intro program path files left hleft
  cases hleft
  exact .refl files path

section Standard

attribute [local instance] SourceParser.standard

theorem generates_tidyPlace :
    Generates tidyPlace formattingInvocation formattingConfiguration emptyGroupFile :=
  ⟨generates_emptyGroup.resolves, generates_emptyGroup.compiles⟩

/-- The output is written and formatted, and holds the generated text. -/
theorem runCommand_tidyPlace :
    (runCommand tidyPlace formattingInvocation).result =
        .ok (writtenLine emptyGroupFile "out.rs") ∧
      (runCommand tidyPlace formattingInvocation).actions =
        [.write "out.rs" emptyGroupFile.text, .format "false" "out.rs" emptyGroupFile.text] ∧
      (runCommand tidyPlace formattingInvocation).files.read "out.rs" =
        .ok emptyGroupFile.text := by
  have hchanges : tidyPlace.files.read "out.rs" ≠ .ok emptyGroupFile.text := by
    have hread : tidyPlace.files.read "out.rs" = .ok "// kept" := by
      decide +kernel
    intro hsame
    have hkept : '\n' ∈ "// kept".toList := by
      rw [Except.ok.inj (hread.symm.trans hsame)]
      exact lineFeed_mem_text generates_tidyPlace
    exact absurd hkept (by decide)
  obtain ⟨written, hwrite⟩ : ∃ written,
      tidyPlace.files.write "out.rs" emptyGroupFile.text = .ok written := by
    rw [← isOk_eq_true_iff, FileTree.isOk_write ""]
    decide +kernel
  obtain ⟨events, hrun⟩ := exists_runCommand_eq generates_tidyPlace rfl rfl
  rw [hrun, writeGenerated_formatted rfl hchanges hwrite rfl]
  exact ⟨rfl, rfl, (rewrites_write hwrite).written⟩

theorem formatsAlike_tidyPlace : (runCommand tidyPlace formattingInvocation).FormatsAlike := by
  obtain ⟨-, hactions, hread⟩ := runCommand_tidyPlace
  intro program path content hmem
  rw [hactions] at hmem
  rcases List.mem_cons.mp hmem with hwrite | hmem
  · cases hwrite
  · cases List.mem_singleton.mp hmem
    exact hread

end Standard

end MarkedRoutes

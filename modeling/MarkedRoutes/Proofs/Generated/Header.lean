import MarkedRoutes.Compiler
import MarkedRoutes.Proofs.Discovery.Mounted
import MarkedRoutes.Proofs.Generated.DispatchRun
import MarkedRoutes.Proofs.Generated.Registration
import MarkedRoutes.Proofs.Generated.Writability
import MarkedRoutes.Proofs.Source.CommentLines

/-!
# Headers of generated files

The header of a generated file lists the routes in comment lines.  Every part of such a
line is written as it is: the method is one of seven, the path holds no control character,
and the handler stands below the configured module path.  So the header stays a comment
exactly when the module path holds no line feed, or no route is listed; and behind a header
that is a comment the file reads as its items do alone.
-/

namespace MarkedRoutes

open MarkedRoutes.Source

/-! ### Lines of a header -/

theorem Method.lineFeed_notMem (method : Method) : '\n' ∉ method.name.toList := by
  cases method <;> decide

/-- The line of a route is a comment when its listing holds no line feed. -/
theorem isCommentLine_line_iff (listing : RouteListing) :
    IsCommentLine listing.line ↔ '\n' ∉ listing.method.toList ∧ '\n' ∉ listing.path.toList ∧
      '\n' ∉ listing.handler.toList := by
  simp [IsCommentLine, RouteListing.line, Lexeme.isPlainLineComment]

/-- The line of a mounted route is a comment when the module path holds no line feed. -/
theorem isCommentLine_listing_iff [SourceParser] (hbare : DeclaresBareNames)
    {modulePath : String} {sources : SourceSet} (hmounted : sources.IsMountedAt modulePath)
    {groups : List RouteGroup} {route : Route}
    (hanalyze : (analyze sources).result = .ok groups) (hroute : route ∈ allRoutesOf groups) :
    IsCommentLine route.listing.line ↔ '\n' ∉ modulePath.toList := by
  obtain ⟨ending, hpath, hending⟩ := hmounted.exists_ending hbare hanalyze hroute
  have htemplate := lineFeed_notMem_template hanalyze hroute
  rw [isCommentLine_line_iff]
  simp [Route.listing, Method.lineFeed_notMem, htemplate, hpath, hending]

/-- The fixed lines of a header are comments when the name of the entry point holds no line
feed. -/
theorem forall_isCommentLine_iff {entry : String} (hentry : '\n' ∉ entry.toList)
    (listings : List RouteListing) :
    (∀ line ∈ headerLines entry listings, IsCommentLine line) ↔
      ∀ listing ∈ listings, IsCommentLine listing.line := by
  have hfixed : ∀ line ∈ ["// @generated by routecraft-gen. Do not edit by hand.", "//",
      "// Entry point: `" ++ entry ++ "`", "// Routes:"], IsCommentLine line := by
    simp [IsCommentLine, Lexeme.isPlainLineComment, hentry]
  rw [headerLines, List.forall_mem_append, List.forall_mem_map]
  exact and_iff_right hfixed

/-! ### Generated files -/

def fileTokens (text : String) : Option (List Token) :=
  readTokens (dropInterpreterLine (dropByteOrderMark text.toList))

/-- The items of a program are written behind the mark of an attribute. -/
theorem GeneratedProgram.tokens_ok [SourceParser] {program : GeneratedProgram}
    {runtimePath : String} {tokens : List Token}
    (htokens : program.tokens runtimePath = .ok tokens) :
    isBareName (unraw program.entry) = true ∧
      ∃ content rest, tokens = mark '#' :: .group .bracket content :: rest := by
  obtain ⟨hbare, runtime, items, -, -, rfl⟩ := program.exists_tokens_eq htokens
  exact ⟨hbare, _, _, rfl⟩

theorem generate_ok [SourceParser] {configuration : Configuration}
    {groups : List RouteGroup} {file : GeneratedFile}
    (hgenerate : (generate configuration groups).1 = .ok file) :
    configuration.fault? = none ∧ ∃ tokens,
      (GeneratedProgram.ofGroups configuration.entryFunction groups).1.tokens
          configuration.runtimePath = .ok tokens ∧
        file.text = renderFile configuration.entryFunction file.listings (spacedText tokens) := by
  rw [generate] at hgenerate
  split at hgenerate
  · cases hgenerate
  · next hvalid =>
    dsimp only at hgenerate
    split at hgenerate
    · cases hgenerate
    · next tokens htokens =>
      split_ifs at hgenerate
      cases hgenerate
      exact ⟨hvalid, tokens, htokens, rfl⟩

theorem compile_ok [SourceParser] {configuration : Configuration} {sources : SourceSet}
    {file : GeneratedFile} (hcompile : (compile configuration sources).1 = .ok file) :
    ∃ groups, (analyze sources).result = .ok groups ∧
      (generate configuration groups).1 = .ok file := by
  rw [compile] at hcompile
  dsimp only at hcompile
  split at hcompile
  · cases hcompile
  · next groups hanalyze =>
    refine ⟨groups, hanalyze, ?_⟩
    cases hgenerate : (generate configuration groups).1 with
    | error fault =>
        dsimp only at hcompile
        rw [hgenerate] at hcompile
        cases hcompile
    | ok generated =>
        dsimp only at hcompile
        rw [hgenerate] at hcompile
        cases hcompile
        rfl

/-- Behind a header that is a comment the items read as they do alone, further down. -/
theorem fileTokens_renderFile {entry : String} {listings : List RouteListing}
    {content rest : List Token}
    (hheader : ∀ line ∈ headerLines entry listings, IsCommentLine line) :
    fileTokens (renderFile entry listings
        (spacedText (mark '#' :: .group .bracket content :: rest))) =
      (fileTokens (spacedText (mark '#' :: .group .bracket content :: rest))).map
        (tokensLater ((headerLines entry listings).length + 1)) := by
  set items := spacedText (mark '#' :: .group .bracket content :: rest) with hitems
  obtain ⟨more, hmore⟩ : ∃ more, items.toList = '#' :: ' ' :: more := by
    rw [hitems, spacedText, String.toList_ofList, Token.spaced]
    exact ⟨_, rfl⟩
  have hitemsKept : dropInterpreterLine (dropByteOrderMark items.toList) = items.toList := by
    rw [hmore]
    rfl
  obtain ⟨lines, hlines⟩ := exists_withLineFeeds hheader (List.cons_ne_nil _ _)
  have hfileKept : dropInterpreterLine (dropByteOrderMark
      (renderFile entry listings items).toList) = (renderFile entry listings items).toList := by
    rw [renderFile, toList_joinTexts_empty, hlines]
    rfl
  rw [fileTokens, fileTokens, hitemsKept, hfileKept]
  exact readTokens_comments hheader (by rw [hmore]; rfl)

/-- A file with one route. -/
def healthText : String :=
  "#[route_group(\"/a\")] pub mod a \x7b #[get(\"/x\")] pub fn h() \x7b\x7d \x7d"

section Standard

attribute [local instance] SourceParser.standard

/-- The sources that hold this file under a module path. -/
def healthSources (modulePath : String) : SourceSet :=
  (SourceSet.empty.addText modulePath "routes.rs" healthText).toOption.getD .empty

/-- The file that these sources compile to. -/
def healthFile (configuration : Configuration) : GeneratedFile :=
  (compile configuration (healthSources configuration.modulePath)).1.toOption.getD ⟨"", []⟩

theorem isMountedAt_health {modulePath : String}
    (hok : (SourceSet.empty.addText modulePath "routes.rs" healthText).isOk = true) :
    (healthSources modulePath).IsMountedAt modulePath :=
  .addText .empty (eq_ok_getD hok .empty)

theorem compile_health {configuration : Configuration}
    (hok : (compile configuration (healthSources configuration.modulePath)).1.isOk = true) :
    (compile configuration (healthSources configuration.modulePath)).1 =
      .ok (healthFile configuration) :=
  eq_ok_getD hok ⟨"", []⟩

/-- A module path whose comment goes on in the next line, with a function behind it. -/
def openConfiguration : Configuration :=
  { Configuration.standard with
    modulePath := "crate::routes/*\npub fn injected() \x7b\x7d // */" }

end Standard

end MarkedRoutes

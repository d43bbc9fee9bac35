import MarkedRoutes.Command.Arguments
import MarkedRoutes.Proofs.Results
import Mathlib.Tactic.ByContra
import Mathlib.Tactic.SplitIfs

/-!
# The options of a command line

Options are looked up among those that a command has, and an option that is read is kept
until the line ends.  So whatever a command line gives is the value of an option that its
command has.
-/

namespace MarkedRoutes

/-- Every option that was read is among the known ones. -/
structure ScannedOptions.Within (known : List OptionName) (scanned : ScannedOptions) : Prop where
  settled : ∀ option ∈ scanned.settled, option.1 ∈ known
  pending : ∀ option, scanned.pending = some option → option.1 ∈ known

namespace ScannedOptions

variable {known : List OptionName} {scanned after : ScannedOptions}

theorem within_empty (known : List OptionName) : empty.Within known :=
  ⟨fun _ hmem => absurd hmem List.not_mem_nil, fun _ hpending => nomatch hpending⟩

/-- An option that has a value is a known one. -/
theorem Within.mem_of_value? (hwithin : scanned.Within known) {name : OptionName} {value : String}
    (hvalue : scanned.value? name = some value) : name ∈ known := by
  obtain ⟨option, hfind, -⟩ := Option.map_eq_some_iff.mp hvalue
  have hname : option.1 = name := by simpa using List.find?_some hfind
  exact hname ▸ hwithin.settled option (List.mem_of_find?_eq_some hfind)

/-! ### Steps -/

theorem Within.record (hwithin : scanned.Within known) {name : OptionName} {value : String}
    (hname : name ∈ known) (hrecord : scanned.record name value = .ok after) :
    after.Within known := by
  rw [ScannedOptions.record] at hrecord
  split_ifs at hrecord
  cases hrecord
  refine ⟨fun option hmem => ?_, hwithin.pending⟩
  rcases List.mem_append.mp hmem with hmem | hmem
  · exact hwithin.settled option hmem
  · rw [List.mem_singleton.mp hmem]
    exact hname

theorem Within.settle (hwithin : scanned.Within known) (hsettle : scanned.settle = .ok after) :
    after.Within known := by
  rw [ScannedOptions.settle] at hsettle
  split at hsettle
  · cases hsettle
    exact hwithin
  · cases hsettle
  · next name value hpending =>
    have hcleared : { scanned with pending := none }.Within known :=
      ⟨hwithin.settled, fun _ hpending => nomatch hpending⟩
    exact hcleared.record (hwithin.pending _ hpending) hsettle

theorem Within.takeFlag (hwithin : scanned.Within known) {name : OptionName} (hname : name ∈ known)
    (htake : scanned.takeFlag name = .ok after) : after.Within known := by
  rw [ScannedOptions.takeFlag] at htake
  obtain ⟨settled, hsettle, htake⟩ := bind_eq_ok_iff.mp htake
  split at htake
  · cases htake
  · cases htake
  · exact (hwithin.settle hsettle).record hname htake

theorem Within.takeOption (hwithin : scanned.Within known) {name : OptionName}
    {attached : Option String} (hname : name ∈ known)
    (htake : scanned.takeOption name attached = .ok after) : after.Within known := by
  rw [ScannedOptions.takeOption] at htake
  obtain ⟨settled, hsettle, htake⟩ := bind_eq_ok_iff.mp htake
  have hsettled := hwithin.settle hsettle
  cases attached with
  | some value => exact hsettled.record hname htake
  | none =>
      cases htake
      refine ⟨hsettled.settled, fun option hpending => ?_⟩
      cases hpending
      exact hname

theorem Within.takeLong (hwithin : scanned.Within known) {text : String}
    (htake : scanned.takeLong known text = .ok after) : after.Within known := by
  rw [ScannedOptions.takeLong] at htake
  split at htake
  · cases htake
  · next found hfind =>
    have hfound := List.mem_of_find?_eq_some hfind
    split_ifs at htake
    · exact hwithin.takeOption hfound htake
    · exact hwithin.takeFlag hfound htake

theorem Within.takeLetters (hwithin : scanned.Within known) {letters : List Char}
    (htake : scanned.takeLetters known letters = .ok after) : after.Within known := by
  induction letters generalizing scanned with
  | nil =>
      cases htake
      exact hwithin
  | cons letter letters ih =>
      rw [ScannedOptions.takeLetters.eq_def] at htake
      dsimp only at htake
      split at htake
      · cases htake
      · next found hfind =>
        have hfound := List.mem_of_find?_eq_some hfind
        split_ifs at htake
        · split at htake
          · exact hwithin.takeOption hfound htake
          · exact hwithin.takeOption hfound htake
          · exact hwithin.takeOption hfound htake
        · obtain ⟨flagged, hflag, htake⟩ := bind_eq_ok_iff.mp htake
          exact ih (hwithin.takeFlag hfound hflag) htake

end ScannedOptions

/-! ### Command lines -/

/-- Reading options keeps to those that are known. -/
theorem within_of_scanOptions {command : Option CommandName} {scanned after : ScannedOptions}
    {words : List String} {found : Option (CommandName × List String)}
    (hwithin : scanned.Within (knownOptions command))
    (hscan : scanOptions command scanned words = .ok (after, found)) :
    after.Within (knownOptions command) := by
  induction words generalizing scanned with
  | nil =>
      cases hscan
      exact hwithin
  | cons word rest ih =>
      rw [scanOptions.eq_def] at hscan
      dsimp only at hscan
      split at hscan
      · cases hscan
      · -- a word is the name of a command, an option, or the value that an option waits for
        split at hscan
        · cases hscan
          exact hwithin
        · split at hscan
          · split at hscan
            · cases hscan
              exact hwithin
            · cases hscan
          · obtain ⟨taken, htake, hscan⟩ := bind_eq_ok_iff.mp hscan
            exact ih (hwithin.takeLong htake) hscan
          · obtain ⟨taken, htake, hscan⟩ := bind_eq_ok_iff.mp hscan
            exact ih (hwithin.takeLetters htake) hscan
          · split at hscan
            · next name hpending =>
              have hfilled : ScannedOptions.Within (knownOptions command)
                  { scanned with pending := some (name, some word) } := by
                refine ⟨hwithin.settled, fun option hset => ?_⟩
                cases hset
                exact hwithin.pending (name, none) hpending
              exact ih hfilled hscan
            · cases hscan

theorem within_of_finishOptions {environment : Option String} {known : List OptionName}
    {scanned after : ScannedOptions} (hwithin : scanned.Within known)
    (hfinish : finishOptions environment scanned = .ok after) : after.Within known := by
  rw [finishOptions] at hfinish
  obtain ⟨settled, hsettle, hfinish⟩ := bind_eq_ok_iff.mp hfinish
  split_ifs at hfinish
  · cases hfinish
    exact hwithin.settle hsettle
  · cases hfinish
    exact hwithin.settle hsettle

/-- An invocation gives only values of options that its command has. -/
structure Invocation.KeepsToOptions (invocation : Invocation) : Prop where
  modulePath : invocation.modulePath.isSome = true →
    .modulePath ∈ knownOptions (some invocation.command)
  runtimePath : invocation.runtimePath.isSome = true →
    .runtimePath ∈ knownOptions (some invocation.command)
  entryFunction : invocation.entryFunction.isSome = true →
    .registerFn ∈ knownOptions (some invocation.command)
  formats : invocation.formats = true → .fmt ∈ knownOptions (some invocation.command)

/-- What a command line asks for keeps to the options of its command. -/
theorem keepsToOptions_of_parseArguments {environment : Option String} {arguments : List String}
    {invocation : Invocation} (hparse : parseArguments environment arguments = .ok invocation) :
    invocation.KeepsToOptions := by
  rw [parseArguments] at hparse
  obtain ⟨⟨before, found⟩, -, hparse⟩ := bind_eq_ok_iff.mp hparse
  cases found with
  | none =>
      obtain ⟨finished, -, hparse⟩ := bind_eq_ok_iff.mp hparse
      split_ifs at hparse
  | some found =>
      obtain ⟨command, rest⟩ := found
      obtain ⟨⟨scanned, left⟩, hscan, hparse⟩ := bind_eq_ok_iff.mp hparse
      obtain ⟨behind, hfinish, hparse⟩ := bind_eq_ok_iff.mp hparse
      have hbehind : behind.Within (knownOptions (some command)) :=
        within_of_finishOptions
          (within_of_scanOptions (ScannedOptions.within_empty _) hscan) hfinish
      have hknown : ∀ name, (behind.value? name).isSome = true →
          name ∈ knownOptions (some command) := by
        intro name hgiven
        obtain ⟨value, hvalue⟩ := Option.isSome_iff_exists.mp hgiven
        exact hbehind.mem_of_value? hvalue
      split at hparse
      · cases hparse
      · obtain ⟨finished, -, hparse⟩ := bind_eq_ok_iff.mp hparse
        cases hparse
        exact ⟨hknown .modulePath, hknown .runtimePath, hknown .registerFn, hknown .fmt⟩

end MarkedRoutes

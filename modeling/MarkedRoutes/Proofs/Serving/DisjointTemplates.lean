import MarkedRoutes.Proofs.Serving.Routing
import Mathlib.Data.List.ReduceOption

/-!
# Templates that share no path

A path determines its pieces, and a template that matches takes all of them.  So two templates
share a path only when, with some optional placeholders left out, their parts take the same
pieces.  When no two templates of one method share a path, a route that matches is the one that
is found, whatever the order.
-/

namespace MarkedRoutes.Serving

open MarkedRoutes.Http
open MarkedRoutes.Text

/-! ### Pieces of a path -/

/-- A path consists of pieces, with a slash before each and perhaps one behind the last. -/
structure HasPieces (path : String) (pieces : List (List Char)) : Prop where
  isPiece : ∀ piece ∈ pieces, piece ≠ [] ∧ '/' ∉ piece
  path_eq : path.toList = pieces.flatMap (fun piece => '/' :: piece) ∨
    path.toList = pieces.flatMap (fun piece => '/' :: piece) ++ ['/']

theorem stopsAtSlash_flatMap (pieces : List (List Char)) {ending : List Char}
    (hending : StopsAtSlash ending) :
    StopsAtSlash (pieces.flatMap (fun piece => '/' :: piece) ++ ending) := by
  cases pieces with
  | nil => exact hending
  | cons piece pieces => exact Or.inr ⟨_, rfl⟩

/-- Pieces can be read off the text that they make, and so can a slash behind them. -/
theorem pieces_eq_of_flatMap_eq {pieces others : List (List Char)} {ending otherEnding : List Char}
    (hpieces : ∀ piece ∈ pieces, piece ≠ [] ∧ '/' ∉ piece)
    (hothers : ∀ piece ∈ others, piece ≠ [] ∧ '/' ∉ piece)
    (hending : ending = [] ∨ ending = ['/']) (hotherEnding : otherEnding = [] ∨ otherEnding = ['/'])
    (hsame : pieces.flatMap (fun piece => '/' :: piece) ++ ending =
      others.flatMap (fun piece => '/' :: piece) ++ otherEnding) : pieces = others := by
  have hstops : ∀ {ending : List Char}, ending = [] ∨ ending = ['/'] → StopsAtSlash ending :=
    fun hending => hending.imp_right fun hslash => ⟨[], hslash⟩
  have hshort : ∀ {piece : List Char} {more : List (List Char)} {ending otherEnding : List Char},
      piece ≠ [] → (ending = [] ∨ ending = ['/']) →
      ending ≠ (piece :: more).flatMap (fun piece => '/' :: piece) ++ otherEnding := by
    rintro piece more ending otherEnding hpiece (rfl | rfl) hsame
    · cases hsame
    · rw [List.flatMap_cons, List.cons_append, List.cons_append, List.cons.injEq,
        List.append_assoc] at hsame
      exact hpiece (List.append_eq_nil_iff.mp hsame.2.symm).1
  induction pieces generalizing others with
  | nil =>
      cases others with
      | nil => rfl
      | cons other others =>
          exact absurd hsame (hshort (hothers other List.mem_cons_self).1 hending)
  | cons piece pieces ih =>
      obtain ⟨hpiece, hrest⟩ := List.forall_mem_cons.mp hpieces
      cases others with
      | nil => exact absurd hsame.symm (hshort hpiece.1 hotherEnding)
      | cons other others =>
          obtain ⟨hother, hotherRest⟩ := List.forall_mem_cons.mp hothers
          rw [List.flatMap_cons, List.flatMap_cons, List.append_assoc, List.append_assoc,
            List.cons_append, List.cons_append, List.cons.injEq] at hsame
          have hfirst := split_append hpiece.2 (stopsAtSlash_flatMap pieces (hstops hending))
          have hsecond := split_append hother.2 (stopsAtSlash_flatMap others (hstops hotherEnding))
          rw [hsame.2] at hfirst
          rw [hfirst.1.symm.trans hsecond.1, ih hrest hotherRest (hfirst.2.symm.trans hsecond.2)]

theorem HasPieces.unique {path : String} {pieces others : List (List Char)}
    (hpieces : HasPieces path pieces) (hothers : HasPieces path others) : pieces = others := by
  have hends : ∀ {pieces : List (List Char)}, HasPieces path pieces →
      ∃ ending, (ending = [] ∨ ending = ['/']) ∧
        path.toList = pieces.flatMap (fun piece => '/' :: piece) ++ ending := fun hpieces =>
    hpieces.path_eq.elim (fun hpath => ⟨[], Or.inl rfl, by rw [hpath, List.append_nil]⟩)
      fun hpath => ⟨['/'], Or.inr rfl, hpath⟩
  obtain ⟨ending, hending, hpath⟩ := hends hpieces
  obtain ⟨otherEnding, hotherEnding, hotherPath⟩ := hends hothers
  exact pieces_eq_of_flatMap_eq hpieces.isPiece hothers.isPiece hending hotherEnding
    (hpath.symm.trans hotherPath)

theorem spell_eq_flatMap (selection : Selection) :
    spell selection = selection.reduceOption.flatMap fun piece => '/' :: piece := by
  induction selection with
  | nil => rfl
  | cons kept selection ih =>
      rw [spell, List.flatMap_cons, ← spell, ih]
      cases kept with
      | none => rw [List.reduceOption_cons_of_none]; rfl
      | some piece => rw [List.reduceOption_cons_of_some, List.flatMap_cons]

theorem ne_nil_of_literal {template text : String}
    (hmem : Part.literal text ∈ templateParts template) : text.toList ≠ [] := by
  obtain ⟨segment, hsegment, hpart⟩ := List.mem_map.mp hmem
  rw [toList_of_ofText_eq_literal hpart]
  simpa using List.of_mem_filter hsegment

theorem isPiece_of_fits {parts : List Part} {selection : Selection} (hslashless : Slashless parts)
    (hliterals : ∀ text, Part.literal text ∈ parts → text.toList ≠ [])
    (hfits : List.Forall₂ Fits parts selection) :
    ∀ piece ∈ selection.reduceOption, piece ≠ [] ∧ '/' ∉ piece := by
  induction hfits with
  | nil => exact fun _ hmem => absurd hmem List.not_mem_nil
  | @cons part kept parts selection hfirst _ ih =>
      have hrest := ih (fun text hmem => hslashless text (List.mem_cons_of_mem _ hmem))
        fun text hmem => hliterals text (List.mem_cons_of_mem _ hmem)
      cases kept with
      | none => rwa [List.reduceOption_cons_of_none]
      | some piece =>
          rw [List.reduceOption_cons_of_some, List.forall_mem_cons]
          refine ⟨?_, hrest⟩
          cases part with
          | literal text =>
              cases hfirst
              exact ⟨hliterals text List.mem_cons_self, hslashless text List.mem_cons_self⟩
          | placeholder name isOptional => exact hfirst

/-- A path that matches a template consists of the pieces that the template's parts take. -/
theorem Matches.hasPieces {template path : String} {selection : Selection}
    (hmatches : Matches template path selection) : HasPieces path selection.reduceOption := by
  refine ⟨isPiece_of_fits (slashless_templateParts template) (fun _ => ne_nil_of_literal)
    hmatches.spells.fits, ?_⟩
  rw [← spell_eq_flatMap]
  exact hmatches.spells.path_eq

/-- A path whose pieces a template's parts take matches the template. -/
theorem HasPieces.matches {template path : String} {selection : Selection}
    (hpieces : HasPieces path selection.reduceOption) (hparts : templateParts template ≠ [])
    (hfits : List.Forall₂ Fits (templateParts template) selection) :
    Matches template path selection := by
  refine ⟨⟨hfits, ?_⟩, fun hroot => absurd hroot hparts⟩
  rw [spell_eq_flatMap]
  exact hpieces.path_eq

/-! ### Values of pieces -/

theorem StandsFor.eq_decodePiece {piece : List Char} {value : String}
    (hvalue : StandsFor piece value) : value = decodePiece piece := by
  rw [decodePiece]
  rcases hvalue with hvalue | ⟨hnone, rfl⟩
  · rw [ofUtf8?_eq_some_iff.mpr hvalue]
    rfl
  · cases hdecoded : ofUtf8? (percentDecode (utf8 piece)) with
    | none => rfl
    | some text => exact absurd (ofUtf8?_eq_some_iff.mp hdecoded) (hnone text)

/-- The values that are reported for the placeholders that a selection keeps. -/
def pieceValues (parts : List Part) (selection : Selection) : List (String × String) :=
  (keptPlaceholders parts selection).map fun kept => (kept.1, decodePiece kept.2)

theorem Reports.parameters_eq_pieceValues {template path : String} {selection : Selection}
    {parameters : List (String × String)}
    (hreports : Reports template path selection parameters) :
    parameters = pieceValues (templateParts template) selection := by
  obtain ⟨-, -, hvalues⟩ := hreports
  rw [pieceValues]
  generalize keptPlaceholders (templateParts template) selection = kept at hvalues ⊢
  induction hvalues with
  | nil => rfl
  | cons hfirst _ ih =>
      rw [List.map_cons, ← ih, ← hfirst.1, ← hfirst.2.eq_decodePiece]

theorem length_reduceOption_of_fits {parts : List Part} {selection : Selection}
    (hrequired : parts.countP isOptional = 0) (hfits : List.Forall₂ Fits parts selection) :
    selection.reduceOption.length = parts.length := by
  induction hfits with
  | nil => rfl
  | @cons part kept parts selection hfirst _ ih =>
      rw [List.countP_cons, Nat.add_eq_zero_iff] at hrequired
      cases kept with
      | none =>
          rw [if_pos (fits_none_iff.mp hfirst)] at hrequired
          exact absurd hrequired.2 Nat.one_ne_zero
      | some piece =>
          rw [List.reduceOption_cons_of_some, List.length_cons, ih hrequired.1, List.length_cons]

/-- The only part that can be left out takes a piece more than when it is left out. -/
theorem reduceOption_ne_cons {part : Part} {parts : List Part} {selection other : Selection}
    {piece : List Char} (hone : (part :: parts).countP isOptional ≤ 1) (hnone : Fits part none)
    (hselection : List.Forall₂ Fits parts selection) (hother : List.Forall₂ Fits parts other) :
    selection.reduceOption ≠ piece :: other.reduceOption := by
  intro hsame
  rw [List.countP_cons, if_pos (fits_none_iff.mp hnone)] at hone
  have hrequired := Nat.eq_zero_of_le_zero (Nat.le_of_succ_le_succ hone)
  have hlength := congrArg List.length hsame
  rw [List.length_cons, length_reduceOption_of_fits hrequired hselection,
    length_reduceOption_of_fits hrequired hother] at hlength
  exact Nat.ne_of_lt (Nat.lt_succ_self _) hlength

/-- When at most one part can be left out, the pieces tell which part takes which. -/
theorem eq_of_reduceOption_eq {parts : List Part} {selection other : Selection}
    (hone : parts.countP isOptional ≤ 1) (hselection : List.Forall₂ Fits parts selection)
    (hother : List.Forall₂ Fits parts other)
    (hsame : selection.reduceOption = other.reduceOption) : selection = other := by
  induction hselection generalizing other with
  | nil =>
      cases hother
      rfl
  | @cons part kept parts selection hfirst hrest ih =>
      obtain ⟨second, others, hsecond, hothers, rfl⟩ := List.forall₂_cons_left_iff.mp hother
      have hone' : parts.countP isOptional ≤ 1 := by
        rw [List.countP_cons] at hone
        exact Nat.le_trans (Nat.le_add_right _ _) hone
      cases kept with
      | none =>
          rw [List.reduceOption_cons_of_none] at hsame
          cases second with
          | none => rw [ih hone' hothers hsame]
          | some piece => exact absurd hsame (reduceOption_ne_cons hone hfirst hrest hothers)
      | some piece =>
          rw [List.reduceOption_cons_of_some] at hsame
          cases second with
          | none =>
              rw [List.reduceOption_cons_of_none] at hsame
              exact absurd hsame.symm (reduceOption_ne_cons hone hsecond hothers hrest)
          | some other =>
              rw [List.reduceOption_cons_of_some, List.cons.injEq] at hsame
              rw [hsame.1, ih hone' hothers hsame.2]

/-! ### Parts that take the same pieces -/

/-- The parts of a template, with any of the optional placeholders left out. -/
def expansions : List Part → List (List Part)
  | [] => [[]]
  | part :: parts =>
    (expansions parts).map (part :: ·) ++ if isOptional part then expansions parts else []

/-- Whether two parts can take the same piece. -/
def agrees : Part → Part → Bool
  | .literal first, .literal second => first == second
  | _, _ => true

/-- Whether the parts of two lists can take the same pieces, one by one. -/
def agreeAll : List Part → List Part → Bool
  | [], [] => true
  | first :: parts, second :: others => agrees first second && agreeAll parts others
  | _, _ => false

/-- Whether some path may match two templates. -/
def sharePath (first second : String) : Bool :=
  (expansions (templateParts first)).any fun parts =>
    (expansions (templateParts second)).any fun others => agreeAll parts others

/-- The parts that are kept take the pieces. -/
theorem exists_expansion {parts : List Part} {selection : Selection}
    (hfits : List.Forall₂ Fits parts selection) :
    ∃ kept ∈ expansions parts,
      List.Forall₂ (fun part piece => Fits part (some piece)) kept selection.reduceOption := by
  induction hfits with
  | nil => exact ⟨[], List.mem_singleton_self _, .nil⟩
  | @cons part kept parts selection hfirst _ ih =>
      obtain ⟨others, hmem, hothers⟩ := ih
      rw [expansions]
      cases kept with
      | none =>
          rw [if_pos (fits_none_iff.mp hfirst), List.reduceOption_cons_of_none]
          exact ⟨others, List.mem_append_right _ hmem, hothers⟩
      | some piece =>
          rw [List.reduceOption_cons_of_some]
          exact ⟨part :: others, List.mem_append_left _ (List.mem_map_of_mem hmem),
            .cons hfirst hothers⟩

/-- The pieces of a path that matches are taken by the parts of the template that are kept. -/
theorem Matches.exists_pieces {template path : String} {selection : Selection}
    (hmatches : Matches template path selection) :
    ∃ pieces, HasPieces path pieces ∧ ∃ parts ∈ expansions (templateParts template),
      List.Forall₂ (fun part piece => Fits part (some piece)) parts pieces := by
  obtain ⟨parts, hparts, htakes⟩ := exists_expansion hmatches.spells.fits
  exact ⟨_, hmatches.hasPieces, parts, hparts, htakes⟩

theorem agrees_of_fits {first second : Part} {piece : List Char}
    (hfirst : Fits first (some piece)) (hsecond : Fits second (some piece)) :
    agrees first second = true := by
  cases first with
  | placeholder name isOptional => rfl
  | literal text =>
      cases second with
      | placeholder name isOptional => rfl
      | literal other =>
          rw [agrees, beq_iff_eq, ← String.toList_inj]
          exact Option.some.inj (hfirst.symm.trans hsecond)

theorem agreeAll_of_fits {parts others : List Part} {pieces : List (List Char)}
    (hparts : List.Forall₂ (fun part piece => Fits part (some piece)) parts pieces)
    (hothers : List.Forall₂ (fun part piece => Fits part (some piece)) others pieces) :
    agreeAll parts others = true := by
  induction hparts generalizing others with
  | nil =>
      cases hothers
      rfl
  | cons hfirst _ ih =>
      cases hothers with
      | cons hsecond hrest =>
          rw [agreeAll, agrees_of_fits hfirst hsecond, ih hrest]
          rfl

/-- Templates that match one path may share a path. -/
theorem sharePath_of_matches {first second path : String} {selection other : Selection}
    (hfirst : Matches first path selection) (hsecond : Matches second path other) :
    sharePath first second = true := by
  obtain ⟨parts, hparts, htakes⟩ := exists_expansion hfirst.spells.fits
  obtain ⟨others, hothers, htakesOthers⟩ := exists_expansion hsecond.spells.fits
  rw [hfirst.hasPieces.unique hsecond.hasPieces] at htakes
  exact List.any_eq_true.mpr
    ⟨parts, hparts, List.any_eq_true.mpr ⟨others, hothers, agreeAll_of_fits htakes htakesOthers⟩⟩

/-! ### Routing without order -/

variable {m : Type → Type}

/-- Two calls register routes of different methods or routes that share no path. -/
def RouteCall.IsApart (call other : RouteCall m) : Prop :=
  call.method = other.method → sharePath call.template other.template = false

theorem route_eq_find? (router : Router m) (method : RequestMethod) (path : String) :
    (router.route method path).1 = router.find? method path := by
  rw [Router.route]
  cases router.find? method path <;> rfl

variable [PatternEngine] {calls : List (RouteCall m)}

/-- When all calls are apart and accepted, the route whose template matches is the one that is
found. -/
theorem find?_of_matches (haccepts : ∀ call ∈ calls, AcceptsTemplate call.template)
    (hapart : calls.Pairwise RouteCall.IsApart) {call : RouteCall m} (hcall : call ∈ calls)
    {path : String} {selection : Selection}
    (hmatches : Matches call.template path selection) :
    ∃ found, (registerAll calls).find? call.method path = some found ∧
      found.template = call.template ∧ found.endpoint = call.endpoint ∧
      ∃ kept, Reports call.template path kept found.pathParameters := by
  have hroute := (route_registerAll haccepts call.method path).2
  rw [route_eq_find?] at hroute
  cases hfind : (registerAll calls).find? call.method path with
  | none =>
      rw [hfind] at hroute
      exact absurd hmatches (hroute call hcall rfl selection)
  | some found =>
      rw [hfind] at hroute
      obtain ⟨earlier, first, later, kept, hcalls, hmethod, htemplate, hendpoint, hreports,
        hnone⟩ := hroute
      rw [hcalls, List.mem_append, List.mem_cons] at hcall
      rw [hcalls, List.pairwise_append, List.pairwise_cons] at hapart
      rcases hcall with hcall | rfl | hcall
      · exact absurd hmatches (hnone call hcall rfl selection)
      · exact ⟨found, rfl, htemplate, hendpoint, kept, hreports⟩
      · have hshare := hapart.2.1.1 call hcall hmethod
        rw [sharePath_of_matches hreports.isMatch hmatches] at hshare
        cases hshare

/-- A route whose parts fit the pieces of a path is the one that is found, with the values that
the pieces stand for. -/
theorem find?_of_pieces (haccepts : ∀ call ∈ calls, AcceptsTemplate call.template)
    (hapart : calls.Pairwise RouteCall.IsApart) {call : RouteCall m} (hcall : call ∈ calls)
    {path : String} {selection : Selection}
    (hparts : templateParts call.template ≠ [])
    (hone : (templateParts call.template).countP isOptional ≤ 1)
    (hfits : List.Forall₂ Fits (templateParts call.template) selection)
    (hpieces : HasPieces path selection.reduceOption) :
    (registerAll calls).find? call.method path =
      some ⟨call.template, pieceValues (templateParts call.template) selection, call.endpoint⟩ := by
  obtain ⟨⟨template, parameters, endpoint⟩, hfind, rfl, rfl, kept, hreports⟩ :=
    find?_of_matches haccepts hapart hcall (hpieces.matches hparts hfits)
  have hkept : kept = selection := eq_of_reduceOption_eq hone hreports.isMatch.spells.fits hfits
    (hreports.isMatch.hasPieces.unique hpieces)
  have hvalues := hreports.parameters_eq_pieceValues
  rw [hkept] at hvalues
  rw [hfind, ← hvalues]

/-- A request is routed by one of the calls, whose template matches. -/
theorem exists_call_of_find? (haccepts : ∀ call ∈ calls, AcceptsTemplate call.template)
    {method : RequestMethod} {path : String} {found : RouteMatch m}
    (hfind : (registerAll calls).find? method path = some found) :
    ∃ call ∈ calls, call.method = method ∧ found.template = call.template ∧
      ∃ kept, Matches call.template path kept := by
  have hroute := (route_registerAll haccepts method path).2
  rw [route_eq_find?, hfind] at hroute
  obtain ⟨earlier, call, later, kept, hcalls, hmethod, htemplate, -, hreports, -⟩ := hroute
  exact ⟨call, by rw [hcalls]; exact List.mem_append_right _ List.mem_cons_self, hmethod,
    htemplate, kept, hreports.isMatch⟩

end MarkedRoutes.Serving

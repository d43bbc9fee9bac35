import MarkedRoutes.Text.Split

/-!
# Types that name the same type

Two canonical type texts name the same type when they are equal or when one is a
path suffix of the other: `chrono::NaiveDate` and `NaiveDate`.  Nothing else is
inferred.
-/

namespace MarkedRoutes

/-- Whether a text ends in `::` and then the other text, with something before the `::`. -/
def isPathSuffix (short long : List Char) : Bool :=
  match Text.dropBack? short long with
  | none => false
  | some lead =>
    match Text.dropBack? [':', ':'] lead with
    | none => false
    | some outer => !outer.isEmpty

/-- Whether two canonical texts name the same type. -/
def sameType (left right : String) : Bool :=
  left == right || isPathSuffix right.toList left.toList || isPathSuffix left.toList right.toList

end MarkedRoutes

import MarkedRoutes.Text.Split

/-!
# Paths relative to a module

A path that starts with `crate::` or `::` is absolute.  Any other path is read in
the module where it is written: leading `self::` stay in that module, leading
`super::` climb out of it, but never above the outermost module.
-/

namespace MarkedRoutes

def isAbsolute (written : List Char) : Bool :=
  (Text.dropFront? "crate::".toList written).isSome ||
    (Text.dropFront? "::".toList written).isSome

/-- The module one level up; the outermost module is its own parent. -/
def parentModule (segments : List (List Char)) : List (List Char) :=
  if 1 < segments.length then segments.dropLast else segments

/-- Applies leading `self::` and `super::` to a module, and returns the module reached with
the rest of the path.  The fuel is the length of the path. -/
def climb : Nat → List (List Char) → List Char → List (List Char) × List Char
  | 0, segments, rest => (segments, rest)
  | fuel + 1, segments, rest =>
    match Text.dropFront? "self::".toList rest with
    | some tail => climb fuel segments tail
    | none =>
      match Text.dropFront? "super::".toList rest with
      | some tail => climb fuel (parentModule segments) tail
      | none => (segments, rest)

def absolutePath (modulePath written : String) : String :=
  if isAbsolute written.toList then written
  else
    let (segments, rest) :=
      climb written.length (Text.splitOnColons modulePath.toList) written.toList
    String.ofList (Text.join [':', ':'] segments ++ ':' :: ':' :: rest)

end MarkedRoutes

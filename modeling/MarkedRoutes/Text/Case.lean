/-!
# Letter case

Names that differ only in the case of ASCII letters count as one name.
-/

namespace MarkedRoutes.Text

/-- The lower-case form of the ASCII letters of a text. -/
def foldCase (text : String) : List Char := text.toList.map Char.toLower

/-- Whether two texts are equal up to the case of ASCII letters. -/
def sameFolded (first second : String) : Bool := foldCase first == foldCase second

/-- The upper-case form of the ASCII letters of a text. -/
def upperCase (text : String) : String := String.ofList (text.toList.map Char.toUpper)

/-- The lower-case form of the ASCII letters of a text. -/
def lowerCase (text : String) : String := String.ofList (foldCase text)

theorem sameFolded_iff {first second : String} :
    sameFolded first second = true ↔ foldCase first = foldCase second := by
  simp [sameFolded]

end MarkedRoutes.Text

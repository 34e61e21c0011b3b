/-!
# Parts of a text

The parts of a text between the occurrences of a character: one more than there are occurrences.
-/

namespace Phrasing.Text

/-- The parts between the occurrences of a character. -/
def splitAtEach (mark : Char) : List Char → List (List Char)
  | [] => [[]]
  | c :: rest =>
    match splitAtEach mark rest with
    | [] => [[c]]
    | part :: parts => if c = mark then [] :: part :: parts else (c :: part) :: parts

end Phrasing.Text

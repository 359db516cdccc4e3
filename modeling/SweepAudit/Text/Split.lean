/-!
Cutting a text at a separator, and finding a word in it.
-/

namespace SweepAudit.Text

/-- The parts between the characters of a class; there is always one more than of those. -/
def splitBy (isSeparator : Char → Bool) : List Char → List (List Char)
  | [] => [[]]
  | c :: cs =>
    if isSeparator c then [] :: splitBy isSeparator cs
    else
      match splitBy isSeparator cs with
      | [] => [[c]]
      | part :: parts => (c :: part) :: parts

/-- What stands before the first character of a class, and what stands behind it if there is
one. -/
def cutBy (isSeparator : Char → Bool) : List Char → List Char × Option (List Char)
  | [] => ([], none)
  | c :: cs =>
    if isSeparator c then ([], some cs)
    else
      let (before, behind) := cutBy isSeparator cs
      (c :: before, behind)

def hasWord (word : List Char) : List Char → Bool
  | [] => word.isEmpty
  | c :: cs => word.isPrefixOf (c :: cs) || hasWord word cs

end SweepAudit.Text

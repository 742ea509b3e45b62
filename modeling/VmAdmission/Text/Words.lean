/-!
# Names made of words

A name of several words may join them by underscores or hyphens, or by capitals.
-/

namespace VmAdmission.Text

/-- A word with a capital first letter and small ones behind it. -/
def capitalized : List Char → List Char
  | [] => []
  | c :: cs => c.toUpper :: cs.map Char.toLower

/-- A name whose words are joined by underscores or hyphens, with its words joined by capitals. -/
def camelCase (name : String) : String :=
  .ofList ((name.toList.splitOnP fun c => c = '_' || c = '-').flatMap capitalized)

end VmAdmission.Text

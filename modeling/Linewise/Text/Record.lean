/-!
# Record text — a value written field by field
-/

namespace Linewise

/-- A record with its name and fields in braces; a record that is `partly` written ends in two
dots. -/
def recordText (name : String) (fields : List (String × String)) (partly : Bool) : String :=
  let items := fields.map (fun (field, value) => field ++ ": " ++ value)
  let items := if partly then items ++ [".."] else items
  name ++ " \x7b " ++ ", ".intercalate items ++ " \x7d"

end Linewise

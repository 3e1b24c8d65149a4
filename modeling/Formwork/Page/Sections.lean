import Formwork.Template.Tree

/-!
# Sections kept and dropped

Two kinds of section depend on the page as a whole: those shown only if the form's input was wrong,
and those for expandable or for other forms. Both are settled before any field is written.
-/

namespace Formwork.Node

mutual

/-- The source of a node with its error tags filled in. A section for errors loses its delimiters,
and is dropped if there are no errors. -/
def fillErrors (errors : String) : Node → String
  | .section _ children _ => if errors = "" then "" else fillErrorsAll errors children
  | .tag mark => if mark.opens "formErrors" then errors else mark.source
  | .text content => content

/-- The source of nodes with their error tags filled in. -/
def fillErrorsAll (errors : String) : List Node → String
  | [] => ""
  | node :: rest => fillErrors errors node ++ fillErrorsAll errors rest

end

mutual

/-- The source of a node in which sections of the kept name lose their delimiters and all other
sections are dropped. Delimiters of the kept name that stand alone are dropped as well. -/
def keepOnly (kept : String) : Node → String
  | .section opening children _ => if opening.isNamed kept then keepOnlyAll kept children else ""
  | .tag mark => if mark.isNamed kept then "" else mark.source
  | .text content => content

/-- The source of nodes in which only sections of the kept name remain. -/
def keepOnlyAll (kept : String) : List Node → String
  | [] => ""
  | node :: rest => keepOnly kept node ++ keepOnlyAll kept rest

end

/-- The template with its error sections and error tags settled. -/
def settleErrors (errors template : String) : String :=
  fillErrorsAll errors (parse ["ifFormErrors"] template)

/-- The template with its sections for expandable and for other forms settled. -/
def settleExpandable (expandable : Bool) (template : String) : String :=
  let (kept, dropped) :=
    if expandable then ("ifExpandable", "noShowExpandable")
    else ("noShowExpandable", "ifExpandable")
  keepOnlyAll kept (parse [kept, dropped] template)

end Formwork.Node

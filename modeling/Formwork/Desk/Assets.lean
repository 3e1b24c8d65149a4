import Formwork.Desk.Basic

/-!
# Scripts and styles

The scripts and styles that the forms of a page need are written into the page: first the script that
all forms share, then the assets of every field, each once.
-/

namespace Formwork

/-- What an asset is, by its extension. -/
inductive AssetKind where
  /-- A script. -/
  | script
  /-- A style sheet. -/
  | style
deriving DecidableEq, Repr

/-- The kind of an asset. -/
def AssetKind.ofName? (name : String) : Option AssetKind :=
  match ((Path.extension? name).getD "").toLower with
  | "js" => some .script
  | "css" | "less" | "sass" => some .style
  | _ => none

/-- The element that holds an asset. -/
def AssetKind.element (kind : AssetKind) (content : String) : String :=
  match kind with
  | .script => "<script>" ++ content ++ "</script>"
  | .style => "<style>" ++ content ++ "</style>"

namespace Desk

/-- The script that all forms share. -/
def sharedScript (desk : Desk) : String :=
  let base := (desk.settings.assetsUrl.toList.reverse.dropWhile (· = '/')).reverse
  String.ofList base ++ "/formEvents.js"

/-- The assets of all forms, each once, in the order in which they are first named. -/
def assetNames (desk : Desk) : List String :=
  let named := desk.forms.forms.flatMap fun form => form.catalog.fields.flatMap (·.assets)
  (desk.sharedScript :: named).foldl
    (fun known asset => if known.contains asset then known else known ++ [asset]) []

/-- Writes one asset. One that is of no known kind or not found is reported and left out. -/
def writeAsset (name : String) : StateM Desk String := do
  match AssetKind.ofName? name with
  | none =>
    modify (·.report .debug s!"Unknown asset type for '{name}'")
    return ""
  | some kind =>
    match (← get).templates.load name with
    | .ok content => return kind.element content
    | .error failure =>
      modify (·.reportFailure failure)
      return ""

/-- Writes all assets. -/
def showAssets : StateM Desk String := do
  return String.join (← (← get).assetNames.mapM writeAsset)

end Desk

end Formwork

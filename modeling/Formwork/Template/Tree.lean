import Formwork.Template.Token

/-!
# Sections of a template

A section is an opening tag, what follows, and the closing tag of the same name. Only sections whose
names are asked for are recognised. A closing tag ends the innermost open section of its name;
sections that were opened inside and never closed fall apart into plain tags, and so does whatever is
still open at the end. Nothing is lost: the sources of the nodes, read in order, are the template.
-/

namespace Formwork

/-- A part of a template in which sections are paired. -/
inductive Node where
  /-- Text between tags. -/
  | text (content : String)
  /-- A tag that delimits no recognised section. -/
  | tag (tag : Tag)
  /-- A recognised section. -/
  | section (opening : Tag) (children : List Node) (closing : Tag)
deriving Repr, Inhabited

namespace Node

mutual

/-- The part of the template that the node stands for. -/
def source : Node → String
  | .text content => content
  | .tag mark => mark.source
  | .section opening children closing => opening.source ++ sources children ++ closing.source

/-- The text of a node list. -/
def sources : List Node → String
  | [] => ""
  | node :: rest => node.source ++ sources rest

end

mutual

/-- How many sections are nested in each other. -/
def depth : Node → Nat
  | .section _ children _ => depths children + 1
  | _ => 0

/-- The greatest nesting among the nodes. -/
def depths : List Node → Nat
  | [] => 0
  | node :: rest => max node.depth (depths rest)

end

mutual

/-- The number of nodes, a section counting itself and its parts. -/
def count : Node → Nat
  | .section _ children _ => counts children + 1
  | _ => 1

/-- The number of all nodes in a list. -/
def counts : List Node → Nat
  | [] => 0
  | node :: rest => node.count + counts rest

end

/-- A section that has been opened and not yet closed. -/
structure Frame where
  /-- Its opening tag. -/
  opening : Tag
  /-- What has been read behind the opening tag. -/
  children : List Node

/-- What has been read of a template: the open sections, innermost first, and the nodes before the
outermost of them. -/
structure Forest where
  /-- The open sections, innermost first. -/
  pending : List Frame := []
  /-- The nodes outside every open section. -/
  roots : List Node := []

namespace Forest

/-- Adds nodes at the current place. -/
def attach (nodes : List Node) (forest : Forest) : Forest :=
  match forest.pending with
  | [] => { forest with roots := forest.roots ++ nodes }
  | frame :: rest =>
    { forest with pending := { frame with children := frame.children ++ nodes } :: rest }

/-- The nodes of a section that was never closed. -/
def loosen (frame : Frame) (inner : List Node) : List Node :=
  .tag frame.opening :: frame.children ++ inner

/-- Ends the innermost open section that the tag names. The nodes of the sections inside it, which
were never closed, are handed outwards. -/
def close (closing : Tag) (roots : List Node) (inner : List Node) : List Frame → Forest
  | [] => { roots := roots ++ inner ++ [.tag closing] }
  | frame :: rest =>
    if frame.opening.isNamed closing.name then
      attach [.section frame.opening (frame.children ++ inner) closing] { pending := rest, roots }
    else close closing roots (loosen frame inner) rest

/-- Reads one more token. -/
def read (names : List String) (forest : Forest) : Token → Forest
  | .text content => forest.attach [.text content]
  | .tag mark =>
    if !names.any mark.isNamed then forest.attach [.tag mark]
    else if !mark.closing then { forest with pending := ⟨mark, []⟩ :: forest.pending }
    else if forest.pending.any fun frame => frame.opening.isNamed mark.name then
      close mark forest.roots [] forest.pending
    else forest.attach [.tag mark]

/-- All nodes, once nothing more is read. -/
def finish (forest : Forest) : List Node :=
  forest.roots ++ forest.pending.foldl (fun inner frame => loosen frame inner) []

end Forest

/-- Pairs the sections of the given names. -/
def ofTokens (names : List String) (tokens : List Token) : List Node :=
  (tokens.foldl (Forest.read names) {}).finish

/-- The nodes of a template, with the sections of the given names paired. -/
def parse (names : List String) (template : String) : List Node :=
  ofTokens names (Token.tokenize template)

end Node

end Formwork

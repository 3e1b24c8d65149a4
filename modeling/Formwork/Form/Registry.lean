import Formwork.Form.Basic

/-!
# Registered forms

Forms are registered under their names and found under every spelling that stands for the same name.
-/

namespace Formwork

/-- Forms by name. -/
structure Registry where
  /-- The forms. -/
  byName : TextMap Form := .empty

namespace Registry

/-- No forms. -/
def empty : Registry := {}

/-- The form of a name, however it is spelled. -/
def get? (registry : Registry) (name : String) : Option Form :=
  registry.byName.get? (Form.normalizeName name)

/-- There is a form of the name. -/
def contains (registry : Registry) (name : String) : Bool := (registry.get? name).isSome

/-- The registry with one more form; its name must be free. -/
def insert (registry : Registry) (form : Form) : Except Failure Registry :=
  if registry.byName.contains form.name then .error (.duplicateName form.name)
  else .ok ⟨registry.byName.insert form.name form⟩

/-- The registry with a new form without fields. -/
def create (registry : Registry) (name : String) (settings : Settings) :
    Except Failure Registry :=
  registry.insert (Form.named name settings)

/-- The registry without the form of a name. -/
def erase (registry : Registry) (name : String) : Registry :=
  ⟨registry.byName.erase (Form.normalizeName name)⟩

/-- Puts a form in place of the registered form of a name. -/
def replace (registry : Registry) (name : String) (form : Form) : Registry :=
  ⟨registry.byName.modify (Form.normalizeName name) fun _ => form⟩

/-- The forms in the order of their names. -/
def forms (registry : Registry) : List Form := registry.byName.values

/-- The names in order. -/
def names (registry : Registry) : List String := registry.byName.keys

/-- The number of forms. -/
def size (registry : Registry) : Nat := registry.byName.size

/-- There are no forms. -/
def isEmpty (registry : Registry) : Bool := registry.byName.isEmpty

end Registry

end Formwork

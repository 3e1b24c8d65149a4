import Formwork.Desk.Basic

/-!
# Saving forms and taking them back

A form is saved as it is at that moment. What comes back is processed by the saved form, not by the
form of the same name that the desk has now, and once a processor is made it serves its identifier
from then on.
-/

namespace Formwork.Desk

/-- The identifier that the next saved form will have. -/
def nextIdentifier (desk : Desk) : String := desk.identifiers desk.saved

/-- Saves a snapshot under the next identifier. -/
def saveSnapshot (desk : Desk) (snapshot : Snapshot) (kind : FormKind) :
    Except Failure (String × Desk) :=
  match desk.writeFault with
  | some failure => .error failure
  | none =>
    let id := desk.nextIdentifier
    let value := (SavedForm.ofSnapshot snapshot kind).toJson
    let store :=
      desk.store.insert desk.now (desk.settings.sessionKey id) value desk.settings.formTimeout
    .ok (id, { desk with store, saved := desk.saved + 1 })

/-- Saves a form and gives its identifier. -/
def save (name : String) (kind : FormKind) : StateM Desk (Except Failure String) :=
  reporting fun desk => do
    let form ← desk.form name
    desk.saveSnapshot form.snapshot kind

/-- What is saved under an identifier. -/
def readSaved (desk : Desk) (id : String) : Except Failure SavedForm :=
  match desk.readFault with
  | some failure => .error failure
  | none =>
    match desk.store.get? desk.now (desk.settings.sessionKey id) with
    | none => .error (.invalidId id)
    | some value => (SavedForm.ofJson value).mapError fun _ => .invalidId id

/-- The processor of what is saved under an identifier. -/
def loadProcessor (desk : Desk) (id : String) : Except Failure Processor := do
  let saved ← desk.readSaved id
  let snapshot ← saved.snapshot.mapError fun _ => Failure.invalidId id
  let form ← snapshot.restore desk.make
  match form.binding with
  | some binding => return .ofForm form binding saved.kind
  | none => throw (.noDatabaseLink form.name)

/-- The processor under an identifier: the one made before, or else a new one. -/
def processorOf (desk : Desk) (id : String) : Except Failure (Processor × Desk) :=
  match desk.processors.get? id with
  | some processor => .ok (processor, desk)
  | none => do
    let processor ← desk.loadProcessor id
    return (processor, { desk with processors := desk.processors.insert id processor })

/-- The processor under the given identifier, or else the posted one. -/
def processor (id : Option String) : StateM Desk (Except Failure Processor) :=
  reporting fun desk =>
    match id.or desk.submission.formId? with
    | some id => desk.processorOf id
    | none => .error .noId

/-- Collects what was posted for the form under an identifier. -/
def process (id : Option String) : StateM Desk (Except Failure Collected) := do
  let made ← processor id
  let posted := (← get).submission
  return made.map fun processor => processor.collect posted

end Formwork.Desk

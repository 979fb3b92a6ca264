import Stagecraft.Scene.Snapshot

/-!
Playbills: the entities that a scene starts with, and the events that are sent to it, as one
document.
-/

namespace Stagecraft

structure Cue where
  name : String
  payload : Option Json
  targets : List String
deriving DecidableEq, Inhabited

structure Playbill where
  snapshot : Snapshot
  cues : List Cue
deriving DecidableEq, Inhabited

/-- A payload of null counts as missing. -/
def Cue.payload? (depth : Nat) : Option Json.Form → Option (Option Json)
  | none => some none
  | some .null => some none
  | some form => (form.json? depth).map (fun json => some json.sorted)

/-- A cue, three levels down in the document of a playbill. It needs a name. -/
def Cue.decode? (form : Json.Form) : Option Cue := do
  match ← form.parts? ["name", "payload", "targets"] with
  | [name, payload, targets] =>
    let name ← (← name).text?
    let payload ← Cue.payload? (Json.nestingLimit - 3) payload
    let items ← Json.Form.itemsOrNone? targets
    return ⟨name, payload, ← items.mapM Json.Form.text?⟩
  | _ => none

/-- Every entry but the events denotes a document, whether it belongs to a playbill or not. -/
def Playbill.isReadable (entries : List (List Json.Glyph × Json.Form)) : Bool :=
  entries.all fun (glyphs, form) =>
    Json.Glyph.spell? glyphs [] == some "events" || (form.json? (Json.nestingLimit - 1)).isSome

def Playbill.read? (text : String) : Option Playbill := do
  match ← Json.Form.ofText? text with
  | .object entries =>
    guard (Playbill.isReadable entries)
    match ← (Json.Form.object entries).parts? ["name", "entities", "events"] with
    | [name, entities, events] =>
      let snapshot ← Snapshot.ofParts? name entities
      let items ← Json.Form.itemsOrNone? events
      return ⟨snapshot, ← items.mapM Cue.decode?⟩
    | _ => none
  | _ => none

end Stagecraft

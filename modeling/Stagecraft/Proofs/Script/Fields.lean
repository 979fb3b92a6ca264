import Stagecraft.Proofs.Script.Declarations

/-!
Fields: the records that components with fields consist of. Every line is read where its component stands in
the script. Of several lines with one name the last one counts, so that all lines have their fields exactly if
no name is written twice.
-/

namespace Stagecraft.Script

def ComponentDecl.lines (decl : ComponentDecl) : List Field :=
  match decl.body with
  | .fields lines => lines
  | .alias_ _ => []

variable {known : Registry Component} {source : String} {lines : List Field}
  {entries : List (String × Schema)}

abbrev Read (known : Registry Component) (source : String) : List Field → List (String × Schema) → Prop :=
  List.Forall₂ fun line entry => line.name = entry.1 ∧ resolve known source line.type = .ok entry.2

theorem ComponentDecl.schema_of_fields {decl : ComponentDecl} (body : decl.body = .fields lines)
    {schema : Schema} (found : decl.schema known source = .ok schema) :
    ∃ entries, schema = .record (Keyed.ofList entries) ∧ Read known source lines entries := by
  rw [ComponentDecl.schema, body] at found
  obtain ⟨entries, read, same⟩ := bind_ok found
  cases same
  refine ⟨entries, rfl, (mapM_ok_iff.mp read).imp fun line entry here => ?_⟩
  obtain ⟨schema, resolved, same⟩ := bind_ok here
  cases same
  exact ⟨rfl, resolved⟩

namespace Read

theorem names (read : Read known source lines entries) : lines.map Field.name = entries.map Prod.fst := by
  induction read with
  | nil => rfl
  | cons here _ ih => rw [List.map_cons, List.map_cons, here.1, ih]

/-- The first entry of a name belongs to the first line of the name. -/
theorem lookup_iff (read : Read known source lines entries) (name : String) (schema : Schema) :
    entries.lookup name = some schema ↔
      ∃ line, lines.find? (fun line => line.name == name) = some line ∧
        resolve known source line.type = .ok schema := by
  induction read with
  | nil => simp
  | @cons line entry _ _ here _ ih =>
    obtain ⟨other, type⟩ := entry
    obtain ⟨rfl, resolved⟩ := here
    rw [Keyed.lookup_cons]
    by_cases same : name = line.name
    · rw [if_pos same, List.find?_cons_of_pos (by simp [same])]
      simp only [Option.some.injEq, exists_eq_left', resolved, Except.ok.injEq]
    · rw [if_neg same, List.find?_cons_of_neg (by simpa using Ne.symm same), ih]

end Read

/-- Every line has a field of its own, of the line's type, and there are no more fields. -/
structure Kept (known : Registry Component) (source : String) (lines : List Field)
    (fields : List (String × Schema)) : Prop where
  each : ∀ line ∈ lines, ∃ schema, resolve known source line.type = .ok schema ∧
    fields.lookup line.name = some schema
  size : fields.length = lines.length

theorem Read.kept_iff (read : Read known source lines entries) :
    Kept known source lines (Keyed.ofList entries) ↔ (lines.map Field.name).Nodup := by
  rw [read.names]
  constructor
  · intro kept
    exact (Keyed.length_ofList_iff entries).mp (kept.size.trans read.length_eq)
  · intro distinct
    obtain ⟨sorted, members⟩ := Keyed.ofList_spec distinct
    refine ⟨fun line inside => ?_, ((Keyed.length_ofList_iff entries).mpr distinct).trans read.length_eq.symm⟩
    obtain ⟨entry, there, named, resolved⟩ := exists_image_of_forall₂ read inside
    refine ⟨entry.2, resolved, ?_⟩
    rw [named]
    exact (Keyed.lookup_eq_some_iff sorted.distinct).mpr ((members entry).mpr there)

/-- A component with fields that a script declares is registered as a record. A field has the type of the last
line of its name, as it is read where the component stands, and there are no other fields. Every line has a
field of its own exactly if no name is written twice. -/
theorem load_records_fields {settings : Settings} {before after : Catalog} {summary : Summary}
    (loaded : load settings source before = .ok (summary, after)) :
    ∃ tree, parse source = .ok tree ∧ ∀ decl ∈ tree.components, ∀ lines, decl.body = .fields lines →
      ∃ fields, after.components.find? decl.name = some (.of decl.name (.record fields)) ∧
        Keyed.Sorted fields ∧
        (∀ line ∈ lines, ∃ schema,
          resolve (after.components.before decl.name) source line.type = .ok schema) ∧
        (∀ name schema, fields.lookup name = some schema ↔
          ∃ line, lines.reverse.find? (fun line => line.name == name) = some line ∧
            resolve (after.components.before decl.name) source line.type = .ok schema) ∧
        (Kept (after.components.before decl.name) source lines fields ↔ (lines.map Field.name).Nodup) := by
  obtain ⟨tree, more, parsed, -, -, -, -, registered⟩ := load_registers loaded
  refine ⟨tree, parsed, fun decl inside lines body => ?_⟩
  obtain ⟨schema, same, found⟩ := registered _ (Tree.mem_components.mp inside)
  obtain ⟨entries, rfl, read⟩ := decl.schema_of_fields body same
  refine ⟨_, found, Keyed.ofList_sorted entries, ?_, ?_, read.kept_iff⟩
  · intro line among
    obtain ⟨entry, -, -, resolved⟩ := exists_image_of_forall₂ read among
    exact ⟨entry.2, resolved⟩
  · intro name schema
    rw [Keyed.lookup_ofList, Read.lookup_iff (List.forall₂_reverse_iff.mpr read)]

def twiceScript : String := "component C\n\tNumber x\n\tString x\n"

/-- The script is accepted, and the first line is a number where the record has a text. -/
theorem overwritten_line :
    ∃ tree summary after, parse twiceScript = .ok tree ∧
      load .standard twiceScript .empty = .ok (summary, after) ∧
      ∃ decl ∈ tree.components, ∃ line ∈ decl.lines,
        resolve (after.components.before decl.name) twiceScript line.type = .ok (.basic .number) ∧
        line.name = "x" ∧
        after.components.find? decl.name = some (.of decl.name (.record [("x", .basic .text)])) :=
  exists_loaded_of_decide (by decide +kernel)

def pairScript : String :=
  "component Lamp\n\tNumber power\n\tBoolean lit\ncomponent Pair\n\tLamp left\n\tLamp right\n"

theorem pairScript_keeps :
    ∃ tree summary after, parse pairScript = .ok tree ∧
      load .standard pairScript .empty = .ok (summary, after) ∧
      tree.components.map ComponentDecl.name = ["Lamp", "Pair"] ∧
      ∀ decl ∈ tree.components, ∀ lines, decl.body = .fields lines →
        ∃ fields, after.components.find? decl.name = some (.of decl.name (.record fields)) ∧
          Kept (after.components.before decl.name) pairScript lines fields := by
  obtain ⟨tree, summary, after, parsed, loaded, names, distinct⟩ :
      ∃ tree summary after, parse pairScript = .ok tree ∧
        load .standard pairScript .empty = .ok (summary, after) ∧
        tree.components.map ComponentDecl.name = ["Lamp", "Pair"] ∧
        ∀ decl ∈ tree.components, (decl.lines.map Field.name).Nodup :=
    exists_loaded_of_decide (by decide +kernel)
  obtain ⟨same, parsedSame, recorded⟩ := load_records_fields loaded
  cases parsed.symm.trans parsedSame
  refine ⟨tree, summary, after, parsed, loaded, names, fun decl inside lines body => ?_⟩
  obtain ⟨fields, found, -, -, -, kept⟩ := recorded decl inside lines body
  have apart := distinct decl inside
  rw [ComponentDecl.lines, body] at apart
  exact ⟨fields, found, kept.mpr apart⟩

end Stagecraft.Script

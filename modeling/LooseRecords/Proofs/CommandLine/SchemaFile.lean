import LooseRecords.CommandLine.SchemaFile
import LooseRecords.Proofs.CommandLine.Files
import LooseRecords.Proofs.Schema.JsonText

/-!
# Schema files are loaded as they were saved

Saving a schema puts its text at the path of a name; loading under this name reads the text back and
then checks the schema.  So loading gives the schema where it is valid, and otherwise the fault of
the check.
-/

namespace LooseRecords

open Text (Symbol)

/-- The extension of a name asks for YAML. -/
def FileName.IsYaml (name : String) : Prop :=
  ∃ extension ∈ FileName.extension? name,
    extension.map Char.toLower ∈ [['y', 'm', 'l'], ['y', 'a', 'm', 'l']]

theorem SchemaFormat.ofName_eq_json {name : String} (h : ¬FileName.IsYaml name) :
    ofName name = .json := by
  unfold ofName
  unfold FileName.IsYaml at h
  cases hextension : FileName.extension? name with
  | none => rfl
  | some extension =>
    have hother : extension.map Char.toLower ∉ [['y', 'm', 'l'], ['y', 'a', 'm', 'l']] :=
      fun hmem => h ⟨extension, hextension, hmem⟩
    rw [Option.map_some]
    split
    · next hsome => exact absurd (by simp [Option.some.inj hsome]) hother
    · next hsome => exact absurd (by simp [Option.some.inj hsome]) hother
    · rfl

namespace Schema

/-- Where a file can be written, a schema can be saved. -/
theorem save_eq_ok {files : Files} {name : String} {path : Path} (s : Schema)
    (htarget : files.target name = .ok path) : save files name s =
      .ok (files.put path (Symbol.ofText ((SchemaFormat.ofName name).write s))) := by
  rw [save, saveTarget, htarget]
  rfl

/-- A schema that lies in a file as JSON is loaded and checked. -/
theorem load_of_read {files : Files} {name : String} (s : Schema) (hname : ¬FileName.IsYaml name)
    (hread : files.read name = .ok (Symbol.ofText s.toJson.prettyText)) :
    load files name = match s.validate with
      | .ok () => .ok s
      | .error fault => .error ⟨[.validatingSchema name], .request (.invalidSchema fault)⟩ := by
  rw [load, hread, SchemaFormat.ofName_eq_json hname]
  have hparsed : Activity.parsingSchema.around
      (Failure.blame Cause.schema (ofJsonSymbols (Symbol.ofText s.toJson.prettyText))) = .ok s := by
    rw [ofJsonSymbols_prettyText]
    rfl
  simp only [SchemaFormat.read, hparsed, bind, Except.bind, check]
  cases s.validate <;> rfl

/-- A schema that was put where its name leads is loaded and checked. -/
theorem load_put {files : Files} {name : String} {path : Path} (s : Schema)
    (hname : ¬FileName.IsYaml name) (htarget : files.target name = .ok path) :
    load (files.put path (Symbol.ofText ((SchemaFormat.ofName name).write s))) name =
      match s.validate with
      | .ok () => .ok s
      | .error fault => .error ⟨[.validatingSchema name], .request (.invalidSchema fault)⟩ := by
  rw [SchemaFormat.ofName_eq_json hname]
  exact load_of_read s hname (Files.read_put_self htarget)

end Schema
end LooseRecords

import ScriptDoc.Page.Data
import ScriptDoc.Proofs.JsonText
import ScriptDoc.Proofs.SectionKinds

namespace ScriptDoc.DataPage
open JsonText SectionKinds

theorem worded_texts (ts : List Text) : Worded (.array (ts.map .string)) := by
  refine .array fun v member => ?_
  obtain ⟨t,_,rfl⟩ := List.mem_map.mp member
  exact .string t

theorem worded_fields (r : Record) : ∀ m ∈ r.fields, Worded m.2 := by
  cases r with
  | text kind t => simp [Record.fields,Worded.string]
  | entry kind term description => cases kind <;> simp [Record.fields,Worded.string]
  | sample s => simp [Record.fields,Worded.string]
  | function f => simp [Record.fields,Worded.string,worded_texts]
  | option o => simp [Record.fields,Worded.string]

theorem worded_record (r : Record) : Worded r.json := by
  refine .object fun m member => ?_
  rcases List.mem_cons.mp member with rfl | old
  · exact .string r.kind
  · exact worded_fields r m old

theorem worded_records (records : List Record) : Worded (.array (records.map Record.json)) := by
  refine .array fun v member => ?_
  obtain ⟨r,_,rfl⟩ := List.mem_map.mp member
  exact worded_record r

theorem worded_sections (s : Sections) :
    Worded (.object (s.map fun e => (e.1, .array (e.2.map Record.json)))) := by
  refine .object fun m member => ?_
  obtain ⟨e,_,rfl⟩ := List.mem_map.mp member
  exact worded_records e.2

theorem worded_document (d : Document) : Worded d.json := by
  refine .object fun m member => ?_
  simp only [List.mem_cons,List.not_mem_nil,or_false] at member
  rcases member with rfl | rfl | rfl
  · exact .string d.filename
  · cases d.filepath with
    | none => exact .null
    | some path => exact .string path
  · exact worded_sections d.sections

def recordForm : Record → Form
  | .text kind _ => .text kind
  | .entry kind _ _ => .entry kind
  | .sample _ => .sample
  | .function _ => .function
  | .option _ => .option

-- The kind that is written tells which record it is.
theorem ofTag_kind (r : Record) : Form.ofTag r.kind = recordForm r := by
  cases r with
  | text kind t => exact ofTag_text kind
  | entry kind term description => exact ofTag_entry kind
  | sample s => exact ofTag_sample
  | function f => exact ofTag_function
  | option o => exact ofTag_option

theorem strings_eq_iff (ts us : List Text) : ts.map Json.string = us.map Json.string ↔ ts = us :=
  List.map_inj_right fun _ _ equal => Json.string.inj equal

theorem fields_inj {r q : Record} (forms : recordForm r = recordForm q) (same : r.fields = q.fields) : r = q := by
  cases r with
  | text kind t =>
    cases q <;> simp [recordForm] at forms
    subst forms
    simpa [Record.fields] using same
  | entry kind term description =>
    cases q <;> simp [recordForm] at forms
    subst forms
    cases kind <;> simpa [Record.fields] using same
  | sample s =>
    cases q <;> simp [recordForm] at forms
    rename_i other
    cases s
    cases other
    simpa [Record.fields] using same
  | function f =>
    cases q <;> simp [recordForm] at forms
    rename_i other
    cases f
    cases other
    simpa [Record.fields,strings_eq_iff] using same
  | option o =>
    cases q <;> simp [recordForm] at forms
    rename_i other
    obtain ⟨⟨_,_,_⟩,_,_,_,_⟩ := o
    obtain ⟨⟨_,_,_⟩,_,_,_,_⟩ := other
    simp only [Record.fields,List.cons.injEq,Prod.mk.injEq,Json.string.injEq,true_and,and_true] at same
    obtain ⟨rfl,rfl,rfl,rfl,rfl,rfl,rfl⟩ := same
    rfl

theorem record_inj {r q : Record} (same : r.json = q.json) : r = q := by
  have members := Json.object.inj same
  obtain ⟨kinds,fields⟩ := List.cons.inj members
  have kinds : r.kind = q.kind := Json.string.inj (Prod.mk.inj kinds).2
  have forms : recordForm r = recordForm q := by rw [← ofTag_kind,← ofTag_kind,kinds]
  exact fields_inj forms fields

theorem sections_inj {s t : Sections}
    (same : s.map (fun e => (e.1, Json.array (e.2.map Record.json)))
      = t.map fun e => (e.1, Json.array (e.2.map Record.json))) : s = t := by
  apply List.map_injective_iff.mpr _ same
  intro e f equal
  obtain ⟨names,arrays⟩ := Prod.mk.inj equal
  have records := List.map_injective_iff.mpr (fun _ _ => record_inj) (Json.array.inj arrays)
  exact Prod.ext names records

theorem document_inj {d e : Document} (same : d.json = e.json) : d = e := by
  obtain ⟨filename,filepath,sections⟩ := d
  obtain ⟨otherName,otherPath,others⟩ := e
  simp only [Document.json,Json.object.injEq,List.cons.injEq,Prod.mk.injEq,Json.string.injEq,true_and,and_true] at same
  obtain ⟨rfl,paths,groups⟩ := same
  have filed : filepath = otherPath := by
    cases filepath <;> cases otherPath <;> simp at paths <;> simp [paths]
  rw [filed,sections_inj groups]

-- A document can be had back from its data: nothing is left out, and nothing is written twice alike.
theorem renderJson_eq_iff (d e : Document) : d.renderJson = e.renderJson ↔ d = e := by
  constructor
  · intro same
    exact document_inj (prettyAt_cut (worded_document d) (worded_document e) 0 _ _ same).1
  · rintro rfl
    rfl

end ScriptDoc.DataPage

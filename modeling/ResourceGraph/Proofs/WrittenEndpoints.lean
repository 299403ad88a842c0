import ResourceGraph.Proofs.AllOrNothing
import ResourceGraph.Proofs.Declarations
import ResourceGraph.Proofs.Reading
import ResourceGraph.Proofs.TemplateGroups
import ResourceGraph.Proofs.Writing

/-! # Endpoints in written bundles

The template files of a directory are grouped by the resolvers with endpoints, which are read out
of the report of a bundle.  The report has the types and fields of all of them and no others
(`endpointsOf_toValue`), and so a bundle that has been written, and whose text can be read back,
groups the files like the bundle itself.
-/

namespace ResourceGraph

/-- A list whose items are all read, each from what it was made of. -/
theorem mapM_map_eq_ok {α β γ ε : Type} {make : α → β} {read : β → Except ε γ} {result : α → γ}
    (h_read : ∀ a, read (make a) = .ok (result a)) (items : List α) :
    (items.map make).mapM read = .ok (items.map result) := by
  rw [mapM_eq_ok_iff, List.forall₂_map_left_iff, List.forall₂_map_right_iff, List.forall₂_same]
  exact fun a _ => h_read a

namespace Bundle

/-- Types and fields of the resolvers with endpoints, endpoint by endpoint. -/
def endpointFields (b : Bundle) : List (String × String) :=
  TemplateDirectory.resolverFields b.endpoints

end Bundle

namespace CommandLine

/-! ## Reports of bundles -/

/-- A type and a field as they stand in a report. -/
def asValues (field : String × String) : Value × Value := (.string field.1, .string field.2)

theorem endpointOf_toValue (r : Resolver) :
    endpointOf r.toValue = .ok (asValues (r.typeName, r.fieldName)) := rfl

/-- The resolvers of one target, out of their list in a report. -/
def endpointsIn (member : String × Value) : Except Fault (List (Value × Value)) := do
  (← member.2.items).mapM endpointOf

/-- Lists of resolvers are read one by one, whether there are any or not. -/
theorem endpointsOf_eq_ok {bundle : Value} {members : List (String × Value)}
    {records : List (List (Value × Value))}
    (h_lists : bundle.field "http_resolvers" = .ok (.object members))
    (h_records : members.mapM endpointsIn = .ok records) :
    endpointsOf bundle = .ok records.flatten := by
  rw [endpointsOf, h_lists]
  cases members with
  | nil =>
    cases h_records
    rfl
  | cons member rest =>
    have h_some : (Value.object (member :: rest)).isVacant = false := rfl
    simp only [bind, Except.bind, h_some, Bool.false_eq_true, if_false]
    unfold endpointsIn at h_records
    simp only [bind, Except.bind] at h_records
    rw [h_records]
    rfl

theorem endpointsOf_toValue (b : Bundle) :
    endpointsOf b.toValue = .ok (b.endpointFields.map asValues) := by
  have h_list (entry : Option String × List Resolver) :
      endpointsIn (Bundle.targetName entry.1, .array (entry.2.map Resolver.toValue)) =
        .ok (entry.2.map fun r => asValues (r.typeName, r.fieldName)) :=
    mapM_map_eq_ok endpointOf_toValue entry.2
  rw [endpointsOf_eq_ok rfl (mapM_map_eq_ok h_list b.endpoints.entries), Bundle.endpointFields,
    TemplateDirectory.resolverFields, Bundle.listed, OrderedMap.values, List.map_map,
    List.map_flatten, List.map_map]
  rfl

theorem textEndpoints_eq_ok (fields : List (String × String)) :
    textEndpoints (fields.map asValues) = .ok fields := by
  have h_each (field : String × String) : textEndpoint (asValues field) = .ok (some field) := rfl
  rw [textEndpoints, mapM_map_eq_ok h_each]
  simp [Functor.map, Except.map]

/-! ## Reading a written bundle -/

variable {environment : List (String × String)} {files written : FileTree} {words : List String}
  {settings : Settings} {b : Bundle} {output path directory text : String}

theorem readEndpoints_eq_ok (h_path : path ≠ "") (h_read : files.read (.ofText path) = .ok text)
    (h_text : Value.parse? text = some b.toValue) :
    readEndpoints files (some path) = .ok b.endpointFields := by
  have h_given : (some path).bind MappingTemplate.nonempty? = some path :=
    MappingTemplate.nonempty?_eq_some_iff.2 ⟨rfl, h_path⟩
  have h_json := readJson_eq_ok h_read h_text
  rw [readEndpoints, h_given]
  dsimp only
  rw [h_json]
  dsimp only
  rw [endpointsOf_toValue]
  simp only [bind, Except.bind, textEndpoints_eq_ok]

/-- A bundle with one field that is backed by an endpoint. -/
def weatherBundle : Bundle :=
  (Bundle.empty "Blog").addResolver defaultRoots
    (boundResolver "Post" "weather" [.http (some "https://w")])

/-- Templates of a field with an endpoint and of one without. -/
def weatherFiles : FileTree :=
  .ofTexts [("t/Post.weather.req.vtl", ""), ("t/Post.blog.req.vtl", "")] []

/-- The same with the bundle. -/
def weatherWritten : FileTree :=
  { files := weatherFiles.files.insert ["out", "Blog.json"] weatherBundle.toValue.indented
    folders := weatherFiles.folders ++ [["out"]] }

set_option maxRecDepth 8000 in
theorem weatherBundle_inverse :
    Value.parse? weatherBundle.toValue.indented = some weatherBundle.toValue := by
  have h_report : weatherBundle.toValue =
      .object
        [("name", .string "Blog"), ("tables", .object []), ("model_resolvers", .object []),
          ("function_resolvers", .object []),
          ("http_resolvers", .object [("https://w", .array [.object
            [("type_name", .string "Post"), ("field_name", .string "weather"),
              ("stages", .array [.object
                [("name", .null),
                  ("data_source", .object
                    [("kind", .string "HTTP"), ("endpoint", .string "https://w")]),
                  ("request_template", .object [("inline", .string "")]),
                  ("response_template", .object [("inline", .string "")])]]),
              ("request_template", .null), ("response_template", .null)]])]),
          ("secondary_index_resolvers", .object []),
          ("secondary_index_resolver_tables", .object []), ("dropped_resolvers", .object [])] := rfl
  rw [h_report, Value.parse?]
  -- spelled out character by character, the text can be read by evaluation
  simp only [Value.indented, Value.indentedAt, Value.indentedMembers, Value.indentedItems,
    Value.block, Value.lineStart, Value.escape, String.toList_append, String.toList_intercalate,
    String.toList_ofList, String.reduceToList, List.map]
  rfl

end CommandLine

end ResourceGraph

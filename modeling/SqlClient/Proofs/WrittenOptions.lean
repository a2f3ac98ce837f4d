import SqlClient.Proofs.WrittenJson
import SqlClient.Transaction.Document

namespace SqlClient.TransactionOptions

open Text (digits ofDigits isDigit denotes_digits)

variable {α β : Type} {name : String} {value : Option Json} {fs : List (String × Option Json)}

def fields (o : TransactionOptions) : List (String × Option Json) :=
  [("type", some (.ofString o.kind.name)),
   ("label", o.label.map Json.ofString),
   ("include_ddl", o.includeDdl.map Json.boolean),
   ("write_preserve", listJson o.writePreserve),
   ("inclusive_read_area", listJson o.inclusiveReadArea),
   ("exclusive_read_area", listJson o.exclusiveReadArea),
   ("scan_parallel", o.scanParallel.map fun n => .number (digits n.toNat)),
   ("priority", o.priority.map fun p => .ofString p.name)]

def given (fs : List (String × Option Json)) : List (String × Json) :=
  fs.filterMap fun f => f.2.map fun v => (f.1, v)

def values (o : TransactionOptions) : List Json :=
  [.ofString o.kind.name,
   o.label.elim .null .ofString,
   o.includeDdl.elim .null .boolean,
   .array (o.writePreserve.map .ofString),
   .array (o.inclusiveReadArea.map .ofString),
   .array (o.exclusiveReadArea.map .ofString),
   o.scanParallel.elim .null fun n => .number (digits n.toNat),
   o.priority.elim .null fun p => .ofString p.name]

theorem filter_given_of_notMem (h : name ∉ fs.map Prod.fst) :
    (given fs).filter (fun m => m.1 = name) = [] := by
  rw [List.filter_eq_nil_iff]
  intro m hm
  obtain ⟨f, hf, same⟩ := List.mem_filterMap.mp hm
  obtain ⟨v, -, rfl⟩ := Option.map_eq_some_iff.mp same
  intro named
  exact h (List.mem_map.mpr ⟨f, hf, of_decide_eq_true named⟩)

theorem filter_given (distinct : (fs.map Prod.fst).Nodup) (h : (name, value) ∈ fs) :
    (given fs).filter (fun m => m.1 = name) = (value.map fun v => (name, v)).toList := by
  induction fs with
  | nil => cases h
  | cons f fs ih =>
    obtain ⟨once, others⟩ := List.nodup_cons.mp distinct
    rcases List.mem_cons.mp h with rfl | later
    · cases value with
      | none => simpa [given] using filter_given_of_notMem once
      | some v => simpa [given] using filter_given_of_notMem once
    · have other : f.1 ≠ name := by
        rintro rfl
        exact once (List.mem_map.mpr ⟨_, later, rfl⟩)
      obtain ⟨_, _ | v⟩ := f <;> simpa [given, other] using ih others later

theorem member?_given (distinct : (fs.map Prod.fst).Nodup) :
    ∀ f ∈ fs, ∀ absent, member? (given fs) f.1 absent = f.2.or absent := by
  rintro ⟨name, value⟩ h absent
  rw [member?, filter_given distinct h]
  cases value <;> rfl

theorem distinct_fields (o : TransactionOptions) : (o.fields.map Prod.fst).Nodup := by
  simp [fields]

theorem mapM_map (make : α → β) (read : β → Option α) (h : ∀ a, read (make a) = some a)
    (as : List α) : (as.map make).mapM read = some as := by
  induction as with
  | nil => rfl
  | cons a as ih => simp [h, ih]

theorem toJson_eq (o : TransactionOptions) :
    o.toJson = .object ((given o.fields).map fun m => (some m.1, m.2)) := by
  have named (fs : List (String × Option Json)) :
      (given fs).map (fun m => (some m.1, m.2)) = fs.flatMap fun f => namedIf f.1 f.2 := by
    induction fs with
    | nil => rfl
    | cons f fs ih =>
      obtain ⟨name, _ | v⟩ := f <;> simpa [given, namedIf] using ih
  rw [named]
  simp [toJson, fields]

theorem or_null (value : Option α) (make : α → Json) :
    (value.map make).or (some .null) = some (value.elim .null make) := by
  cases value <;> rfl

theorem listJson_or (names : List String) :
    (listJson names).or (some (.array [])) = some (.array (names.map .ofString)) := by
  cases names <;> rfl

theorem ofJson?_toJson_eq (o : TransactionOptions) : ofJson? o.toJson = ofJson? (.array o.values) := by
  have named := mapM_map (fun m : String × Json => (some m.1, m.2))
    (fun m => m.1.map fun name => (name, m.2)) (fun _ => rfl) (given o.fields)
  have found := member?_given o.distinct_fields
  rw [toJson_eq, ofJson?, ofMembers?, named]
  -- from here on only what is found under each name matters
  generalize given o.fields = ms at found ⊢
  simp only [fields, List.forall_mem_cons] at found
  obtain ⟨kind, label, ddl, write, inclusive, exclusive, scan, priority, -⟩ := found
  simp only [kind, label, ddl, write, inclusive, exclusive, scan, priority, or_null, listJson_or,
    Option.some_or, Option.bind_eq_bind, Option.bind_some]
  rfl

theorem word?_digits (n : UInt32) : word? (.number (digits n.toNat)) = some n := by
  obtain ⟨⟨-, all⟩, value⟩ := denotes_digits n.toNat
  have fits : n.toNat < UInt32.size := n.toNat_lt
  simp [word?, all, value, fits]

theorem ofName?_name_kind (k : TransactionKind) : TransactionKind.ofName? k.name = some k := by
  cases k <;> decide

theorem ofName?_name_priority (p : Priority) : Priority.ofName? p.name = some p := by
  cases p <;> decide

theorem nullable?_elim (make : α → Json) (read : Json → Option α) (set : ∀ a, make a ≠ .null)
    (same : ∀ a, read (make a) = some a) (value : Option α) :
    nullable? read (value.elim .null make) = some value := by
  cases value with
  | none => rfl
  | some a => rw [Option.elim_some, nullable?.eq_2 _ _ (set a), same, Option.map_some]

theorem ofJson?_values (o : TransactionOptions) : ofJson? (.array o.values) = some o := by
  have label := nullable?_elim Json.ofString Json.string? (fun _ => nofun) (fun _ => rfl) o.label
  have ddl := nullable?_elim Json.boolean boolean? (fun _ => nofun) (fun _ => rfl) o.includeDdl
  have scan := nullable?_elim (fun n : UInt32 => .number (digits n.toNat)) word? (fun _ => nofun)
    word?_digits o.scanParallel
  have priority := nullable?_elim (fun p : Priority => .ofString p.name)
    (fun v => name? v >>= Priority.ofName?) (fun _ => nofun) ofName?_name_priority o.priority
  have names (ns : List String) : names? (.array (ns.map .ofString)) = some ns :=
    mapM_map Json.ofString Json.string? (fun _ => rfl) ns
  have kind : name? (.ofString o.kind.name) >>= TransactionKind.ofName? = some o.kind :=
    ofName?_name_kind o.kind
  simp only [values, ofJson?, ofFields?, kind, label, ddl, names, scan, priority]
  rfl

theorem ofJson?_toJson (o : TransactionOptions) : ofJson? o.toJson = some o :=
  o.ofJson?_toJson_eq.trans o.ofJson?_values

theorem plain_elim {make : α → Json} (plain : ∀ a, (make a).Plain) (value : Option α) :
    (value.elim .null make).Plain := by
  cases value with
  | none => exact .null
  | some a => exact plain a

theorem plain_names (names : List String) : (Json.array (names.map .ofString)).Plain :=
  .array (List.forall_mem_map.mpr fun name _ => .string name)

theorem plain_list (names : List String) : ∀ v ∈ listJson names, v.Plain := by
  unfold listJson
  split
  next => nofun
  next =>
    rintro _ ⟨⟩
    exact plain_names names

theorem plain_map {make : α → Json} (plain : ∀ a, (make a).Plain) (value : Option α) :
    ∀ v ∈ value.map make, v.Plain := by
  intro v hv
  obtain ⟨a, -, rfl⟩ := Option.map_eq_some_iff.mp hv
  exact plain a

theorem plain_fields (o : TransactionOptions) : ∀ f ∈ o.fields, ∀ v ∈ f.2, v.Plain := by
  simp only [fields, List.forall_mem_cons]
  refine ⟨?_, plain_map .string _, plain_map .boolean _, plain_list _, plain_list _, plain_list _,
    plain_map (fun _ => .number _) _, plain_map (fun _ => .string _) _, nofun⟩
  rintro _ ⟨⟩
  exact .string _

theorem plain_values (o : TransactionOptions) : (Json.array o.values).Plain := by
  apply Json.Plain.array
  simp only [values, List.forall_mem_cons]
  exact ⟨.string _, plain_elim .string _, plain_elim .boolean _, plain_names _, plain_names _,
    plain_names _, plain_elim (fun _ => .number _) _, plain_elim (fun _ => .string _) _, nofun⟩

theorem plain_toJson (o : TransactionOptions) : o.toJson.Plain := by
  have plain : ∀ m ∈ given o.fields, m.2.Plain := by
    intro m hm
    obtain ⟨f, hf, same⟩ := List.mem_filterMap.mp hm
    obtain ⟨v, hv, rfl⟩ := Option.map_eq_some_iff.mp same
    exact o.plain_fields f hf v hv
  rw [toJson_eq]
  refine .object ?_ ?_ <;> intro member hm <;> obtain ⟨m, given, rfl⟩ := List.mem_map.mp hm
  · rfl
  · exact plain m given

theorem read?_json_write (o : TransactionOptions) : Json.read? o.write.toList = some o.toJson := by
  rw [write, String.toList_ofList, Json.read?_write o.plain_toJson]

theorem read?_array (o : TransactionOptions) :
    read? (String.ofList (Json.array o.values).write) = some o := by
  rw [read?, String.toList_ofList, Json.read?_write o.plain_values]
  exact o.ofJson?_values

def settings (o : TransactionOptions) : List (String × Bool) :=
  [("type", true),
   ("label", o.label.isSome),
   ("include_ddl", o.includeDdl.isSome),
   ("write_preserve", !o.writePreserve.isEmpty),
   ("inclusive_read_area", !o.inclusiveReadArea.isEmpty),
   ("exclusive_read_area", !o.exclusiveReadArea.isEmpty),
   ("scan_parallel", o.scanParallel.isSome),
   ("priority", o.priority.isSome)]

def announced (o : TransactionOptions) : List String :=
  (o.settings.filter Prod.snd).map Prod.fst

theorem names_given (fs : List (String × Option Json)) :
    (given fs).map Prod.fst = ((fs.map fun f => (f.1, f.2.isSome)).filter Prod.snd).map Prod.fst := by
  induction fs with
  | nil => rfl
  | cons f fs ih =>
    obtain ⟨name, _ | v⟩ := f <;> simpa [given] using ih

theorem isSome_listJson (names : List String) : (listJson names).isSome = !names.isEmpty := by
  cases names <;> rfl

theorem announced_eq (o : TransactionOptions) : (given o.fields).map Prod.fst = o.announced := by
  rw [names_given, announced]
  simp [fields, settings, isSome_listJson]

/-- Options come back from their text, which names what is set and nothing else; and a text in whatever
notation has the same options as the one that is written for them. -/
theorem json_round_trip :
    (∀ o : TransactionOptions, read? o.write = some o ∧
      ∃ members, Json.read? o.write.toList = some (.object members) ∧
        members.map Prod.fst = o.announced.map some) ∧
    ∀ (text : String) (o : TransactionOptions), read? text = some o →
      ∃ again, read? o.write = some again ∧ again = o ∧ again.write = o.write := by
  have back (o : TransactionOptions) : read? o.write = some o := by
    rw [read?, read?_json_write]
    exact o.ofJson?_toJson
  have names (o : TransactionOptions) :
      ∃ members, Json.read? o.write.toList = some (.object members) ∧
        members.map Prod.fst = o.announced.map some := by
    refine ⟨(given o.fields).map fun m => (some m.1, m.2), ?_, ?_⟩
    · rw [read?_json_write, toJson_eq]
    · rw [← announced_eq, List.map_map, List.map_map]
      rfl
  exact ⟨fun o => ⟨back o, names o⟩, fun _ o _ => ⟨o, back o, rfl, rfl⟩⟩

def arrayed : String :=
  "[\x7b\"long\":null\x7d, \"caf\\u00e9 \\ud83d\\ude00\\u000b\", null, [\"orders\"], [], [], 4, \"wait\"]"

theorem json_round_trip_arrayed :
    ∃ o, read? arrayed = some o ∧ o.label = some "café 😀\x0b" ∧
      o.announced = ["type", "label", "write_preserve", "scan_parallel", "priority"] ∧
      o.write = "\x7b\"type\":\"long\",\"label\":\"café 😀\\u000b\",\"write_preserve\":[\"orders\"]," ++
        "\"scan_parallel\":4,\"priority\":\"wait\"\x7d" ∧
      ∃ again, read? o.write = some again ∧ again = o ∧ again.write = o.write := by
  have read : read? arrayed = some
      ⟨.long, some "café 😀\x0b", none, ["orders"], [], [], some 4, some .wait⟩ := by
    decide +kernel
  exact ⟨_, read, rfl, by decide, by decide +kernel, json_round_trip.2 arrayed _ read⟩

end SqlClient.TransactionOptions

import ServiceCli.Descriptor.Reading
import ServiceCli.Proofs.Paired

/-!
# The file that a descriptor describes

`File.Describes` says of a descriptor and a file, level by level, that the one describes the other:
what stands in the descriptor stands in the file, in order and no more than that, but for the fields
whose type is absent or has no known number. Each descriptor describes the file that it is converted
to and no other (`describes_iff`). So fields of unknown type may as well be missing, at any depth
(`TrimsTo`, `toProto_of_trimsTo`), and a compiled set has the files that it describes
(`filesOf?_eq_some_iff`).
-/

namespace ServiceCli

open Wire

/-! ## The numbers of types -/

/-- The number of a type in a descriptor. -/
def Proto.WireType.number : WireType → Int
  | double => 1
  | float => 2
  | int64 => 3
  | uint64 => 4
  | int32 => 5
  | fixed64 => 6
  | fixed32 => 7
  | bool => 8
  | string => 9
  | group => 10
  | message => 11
  | bytes => 12
  | uint32 => 13
  | enum => 14
  | sfixed32 => 15
  | sfixed64 => 16
  | sint32 => 17
  | sint64 => 18

theorem Proto.WireType.ofNumber?_eq_some_iff {n : Int} {w : WireType} :
    ofNumber? n = some w ↔ n = w.number := by
  constructor
  · intro h
    have hall : ∀ k (hk : k < all.length), (all[k]).number = k + 1 := by decide
    obtain ⟨hn, hget⟩ := Option.ite_none_right_eq_some.1 h
    obtain ⟨hk, rfl⟩ := List.getElem?_eq_some_iff.1 hget
    have hnumber := hall _ hk
    omega
  · rintro rfl
    cases w <;> rfl

namespace Descriptor

/-! ## What is described -/

/-- The type of the field is given by a number from 1 to 18. -/
def Field.hasType (f : Field) : Bool :=
  f.type.any fun n => decide (1 ≤ n ∧ n ≤ 18)

/-- The field `p` is the one that `f` describes. -/
structure Field.Describes (f : Field) (p : Proto.Field) : Prop where
  type : f.type = some p.wireType.number
  name : p.name = f.name.getD ""
  jsonName : p.jsonName = f.jsonName
  label : p.label = .repeated ↔ f.label = some 3
  typeName : ∀ t, p.typeName = some t ↔ f.typeName = some t ∧ t ≠ ""
  proto3Optional : p.proto3Optional = f.proto3Optional.getD false
  oneofIndex : p.oneofIndex = f.oneofIndex

/-- The message `p` is the one that `m` describes, with the messages inside it. -/
inductive Message.Describes : Message → Proto.Message → Prop
  | intro {m : Message} {p : Proto.Message} (name : p.name = m.name.getD "")
    (fields : List.Forall₂ Field.Describes (m.fields.filter Field.hasType) p.fields)
    (nested : List.Forall₂ Message.Describes m.nested p.nested)
    (mapEntry : p.mapEntry = m.mapEntry.getD false) : m.Describes p

/-- The method `p` is the one that `m` describes. -/
structure Method.Describes (m : Method) (p : Proto.Method) : Prop where
  name : p.name = m.name.getD ""
  inputType : p.inputType = m.inputType.getD ""
  outputType : p.outputType = m.outputType.getD ""
  clientStreaming : p.clientStreaming = m.clientStreaming.getD false
  serverStreaming : p.serverStreaming = m.serverStreaming.getD false

/-- The service `p` is the one that `s` describes, with its methods. -/
structure Service.Describes (s : Service) (p : Proto.Service) : Prop where
  name : p.name = s.name.getD ""
  methods : List.Forall₂ Method.Describes s.methods p.methods

/-- The file `p` is the one that `f` describes, with all its declarations. -/
structure File.Describes (f : File) (p : Proto.File) : Prop where
  name : p.name = f.name.getD ""
  package : p.package = f.package.getD ""
  goPackage : p.goPackage = f.goPackage
  dependencies : p.dependencies = f.dependencies
  messages : List.Forall₂ Message.Describes f.messages p.messages
  services : List.Forall₂ Service.Describes f.services p.services

/-! ## Fields -/

theorem Field.toProto?_eq_some_iff {f : Field} {p : Proto.Field} :
    f.toProto? = some p ↔ f.Describes p := by
  rw [toProto?, Option.map_eq_some_iff]
  constructor
  · rintro ⟨w, hw, rfl⟩
    obtain ⟨n, hn, hw⟩ := Option.bind_eq_some_iff.1 hw
    obtain rfl := Proto.WireType.ofNumber?_eq_some_iff.1 hw
    exact { type := hn
            name := rfl
            jsonName := rfl
            label := by
              dsimp only
              split
              · next h => exact iff_of_true rfl h
              · next h => exact iff_of_false nofun h
            typeName := by simp [Option.filter_eq_some_iff]
            proto3Optional := rfl
            oneofIndex := rfl }
  · intro h
    refine ⟨p.wireType, ?_, ?_⟩
    · rw [h.type]
      exact Proto.WireType.ofNumber?_eq_some_iff.2 rfl
    · have hlabel : (if f.label = some repeatedLabel then .repeated else .singular) = p.label := by
        cases hp : p.label with
        | repeated => exact if_pos (h.label.1 hp)
        | singular => exact if_neg fun hf => nomatch hp.symm.trans (h.label.2 hf)
      have htypeName : f.typeName.filter (· != "") = p.typeName := by
        ext t
        rw [h.typeName, Option.filter_eq_some_iff, bne_iff_ne]
      rw [hlabel, htypeName, ← h.name, ← h.jsonName, ← h.proto3Optional, ← h.oneofIndex]

/-- A field is kept exactly if its type has a number from 1 to 18. -/
theorem Field.isSome_toProto? (f : Field) : f.toProto?.isSome = f.hasType := by
  rw [toProto?, Option.isSome_map, hasType, Bool.eq_iff_iff]
  cases f.type with
  | none => simp
  | some n => simp [Proto.WireType.ofNumber?_isSome_iff]

theorem Field.toProto?_eq_none {f : Field} (h : f.hasType = false) : f.toProto? = none := by
  rw [← f.isSome_toProto?] at h
  simpa using h

theorem Field.forall₂_describes_iff {fs : List Field} {ps : List Proto.Field} :
    List.Forall₂ Field.Describes (fs.filter hasType) ps ↔ ps = fs.filterMap toProto? := by
  have hown : List.Forall₂ Field.Describes (fs.filter hasType) (fs.filterMap toProto?) :=
    forall₂_filter_filterMap
      (fun f _ hf => by
        obtain ⟨p, hp⟩ := Option.isSome_iff_exists.1 (f.isSome_toProto?.trans hf)
        exact ⟨p, hp, toProto?_eq_some_iff.1 hp⟩)
      fun f _ hf => toProto?_eq_none hf
  have hunique : Relator.RightUnique Field.Describes := fun f p q hp hq =>
    Option.some.inj ((toProto?_eq_some_iff.2 hp).symm.trans (toProto?_eq_some_iff.2 hq))
  constructor
  · exact fun h => List.right_unique_forall₂' hunique h hown
  · rintro rfl
    exact hown

/-- Fields of unknown type make no difference. -/
theorem Field.filterMap_toProto?_filter (fs : List Field) :
    (fs.filter hasType).filterMap toProto? = fs.filterMap toProto? := by
  rw [List.filterMap_filter]
  refine List.filterMap_congr fun f _ => ?_
  split
  · rfl
  · next hf => exact (toProto?_eq_none (by simpa using hf)).symm

/-! ## Messages -/

mutual

/-- A message is the described one exactly if it is what the descriptor is converted to. -/
theorem Message.describes_iff : ∀ {m : Message} {p : Proto.Message},
    m.Describes p ↔ p = m.toProto
  | ⟨name, fields, nested, mapEntry⟩, ⟨pname, pfields, pnested, pmapEntry⟩ => by
    have ih : List.Forall₂ Message.Describes nested pnested ↔ pnested = toProtoList nested :=
      forall₂_describes_iff
    rw [toProto, Proto.Message.mk.injEq, ← Field.forall₂_describes_iff, ← ih]
    constructor
    · rintro ⟨hname, hfields, hnested, hentry⟩
      exact ⟨hname, hfields, hnested, hentry⟩
    · rintro ⟨hname, hfields, hnested, hentry⟩
      exact .intro hname hfields hnested hentry

theorem Message.forall₂_describes_iff : ∀ {ms : List Message} {ps : List Proto.Message},
    List.Forall₂ Message.Describes ms ps ↔ ps = toProtoList ms
  | [], ps => List.forall₂_nil_left_iff
  | m :: ms, [] => by simp [toProtoList]
  | m :: ms, p :: ps => by
    have ih : m.Describes p ↔ p = m.toProto := describes_iff
    have ihs : List.Forall₂ Message.Describes ms ps ↔ ps = toProtoList ms := forall₂_describes_iff
    rw [List.forall₂_cons, ih, ihs, toProtoList, List.cons.injEq]

end

/-! ## Files -/

theorem Method.describes_iff {m : Method} {p : Proto.Method} : m.Describes p ↔ p = m.toProto := by
  constructor
  · rintro ⟨hname, hinput, houtput, hclient, hserver⟩
    rw [toProto, ← hname, ← hinput, ← houtput, ← hclient, ← hserver]
  · rintro rfl
    exact ⟨rfl, rfl, rfl, rfl, rfl⟩

theorem Service.describes_iff {s : Service} {p : Proto.Service} :
    s.Describes p ↔ p = s.toProto := by
  have hmethods : List.Forall₂ Method.Describes s.methods p.methods ↔
      p.methods = s.methods.map Method.toProto :=
    forall₂_iff_eq_map @Method.describes_iff
  constructor
  · rintro ⟨hname, hall⟩
    rw [toProto, ← hname, ← hmethods.1 hall]
  · rintro rfl
    exact ⟨rfl, hmethods.2 rfl⟩

theorem File.describes_iff {f : File} {p : Proto.File} : f.Describes p ↔ p = f.toProto := by
  have hmessages : List.Forall₂ Message.Describes f.messages p.messages ↔
      p.messages = f.messages.map Message.toProto :=
    forall₂_iff_eq_map @Message.describes_iff
  have hservices : List.Forall₂ Service.Describes f.services p.services ↔
      p.services = f.services.map Service.toProto :=
    forall₂_iff_eq_map @Service.describes_iff
  constructor
  · rintro ⟨hname, hpackage, hgoPackage, hdependencies, hms, hss⟩
    rw [toProto, ← hname, ← hpackage, ← hgoPackage, ← hdependencies, ← hmessages.1 hms,
      ← hservices.1 hss]
  · rintro rfl
    exact ⟨rfl, rfl, rfl, rfl, hmessages.2 rfl, hservices.2 rfl⟩

/-- A compiled set that can be read has one file for each descriptor in it, in order. -/
theorem filesOf?_eq_some_iff {bytes : List UInt8} {files : List Proto.File} :
    filesOf? bytes = some files ↔ ∃ r, Record.read? .fileSet bytes = some r ∧
      List.Forall₂ File.Describes ((r.records 1).map File.ofRecord) files := by
  have hall (fs : List File) :
      List.Forall₂ File.Describes fs files ↔ files = fs.map File.toProto :=
    forall₂_iff_eq_map @File.describes_iff
  rw [filesOf?, Option.map_eq_some_iff]
  refine exists_congr fun r => and_congr_right fun _ => ?_
  rw [hall, List.map_map, eq_comm]
  rfl

/-! ## Fields that are left out -/

/-- The message `m'` is `m` without some fields of unknown type, in it and in those inside it. -/
inductive Message.TrimsTo : Message → Message → Prop
  | intro {m m' : Message} (name : m'.name = m.name) (fewer : m'.fields.Sublist m.fields)
    (kept : m'.fields.filter Field.hasType = m.fields.filter Field.hasType)
    (nested : List.Forall₂ Message.TrimsTo m.nested m'.nested)
    (mapEntry : m'.mapEntry = m.mapEntry) : m.TrimsTo m'

/-- The file `g` is `f` without some fields of unknown type in its messages. -/
structure File.TrimsTo (f g : File) : Prop where
  messages : List.Forall₂ Message.TrimsTo f.messages g.messages
  rest : g = { f with messages := g.messages }

mutual

/-- The message without any field of unknown type, in it and in those inside it. -/
def Message.trimmed : Message → Message
  | ⟨name, fields, nested, mapEntry⟩ =>
    ⟨name, fields.filter Field.hasType, trimmedList nested, mapEntry⟩

/-- The messages without any field of unknown type. -/
def Message.trimmedList : List Message → List Message
  | [] => []
  | m :: ms => m.trimmed :: trimmedList ms

end

/-- The file without any field of unknown type in its messages. -/
def File.trimmed (f : File) : File :=
  { f with messages := Message.trimmedList f.messages }

mutual

theorem Message.trimsTo_trimmed : ∀ m : Message, m.TrimsTo m.trimmed
  | ⟨name, fields, nested, mapEntry⟩ => by
    rw [trimmed]
    exact .intro rfl List.filter_sublist (by simp [List.filter_filter])
      (forall₂_trimsTo_trimmedList nested) rfl

theorem Message.forall₂_trimsTo_trimmedList :
    ∀ ms : List Message, List.Forall₂ Message.TrimsTo ms (trimmedList ms)
  | [] => .nil
  | m :: ms => .cons (trimsTo_trimmed m) (forall₂_trimsTo_trimmedList ms)

end

mutual

/-- A message is converted to the same without its fields of unknown type. -/
theorem Message.toProto_of_trimsTo :
    ∀ {m m' : Message}, m.TrimsTo m' → m'.toProto = m.toProto
  | ⟨name, fields, nested, mapEntry⟩, ⟨name', fields', nested', mapEntry'⟩, h => by
    obtain ⟨hname, -, hkept, hnested, hentry⟩ := h
    dsimp only at hname hkept hnested hentry
    have hfields : fields'.filterMap Field.toProto? = fields.filterMap Field.toProto? := by
      rw [← Field.filterMap_toProto?_filter, hkept, Field.filterMap_toProto?_filter]
    rw [toProto, toProto, hname, hfields, toProtoList_of_forall₂_trimsTo hnested, hentry]

theorem Message.toProtoList_of_forall₂_trimsTo :
    ∀ {ms ms' : List Message}, List.Forall₂ Message.TrimsTo ms ms' →
      toProtoList ms' = toProtoList ms
  | [], _, h => by rw [List.forall₂_nil_left_iff.1 h]
  | m :: ms, [], h => nomatch h
  | m :: ms, m' :: ms', h => by
    obtain ⟨hm, hms⟩ := List.forall₂_cons.1 h
    rw [toProtoList, toProtoList, toProto_of_trimsTo hm, toProtoList_of_forall₂_trimsTo hms]

end

/-- A descriptor is converted to the file that it describes, and to nothing else: the declarations
correspond one to one and in order at every level, and so do the fields whose type has a number from
1 to 18. The fields of unknown type can be deleted, and it makes no difference which of them are,
and at which depth. -/
theorem File.toProto_keeps_tree (f : File) :
    (∀ p, f.Describes p ↔ p = f.toProto) ∧ f.TrimsTo f.trimmed ∧
      ∀ g, f.TrimsTo g → g.toProto = f.toProto := by
  refine ⟨fun _ => describes_iff, ⟨Message.forall₂_trimsTo_trimmedList _, rfl⟩, fun g h => ?_⟩
  have hmessages : g.messages.map Message.toProto = f.messages.map Message.toProto := by
    rw [← Message.toProtoList_eq_map, ← Message.toProtoList_eq_map,
      Message.toProtoList_of_forall₂_trimsTo h.messages]
  rw [h.rest, toProto, toProto, hmessages]

/-- A message with a field of unknown type and a map, to whose entries some fields are added. -/
def gazetteer (added : List Field) : File where
  name := some "geo.proto"
  package := some "geo"
  messages :=
    [{ name := some "Place"
       fields :=
        [{ name := some "codes", type := some 3, label := some 3, typeName := some "" },
          { name := some "shape", type := some 19, label := some 1 },
          { name := some "names", type := some 11, label := some 3,
            typeName := some ".geo.Place.NamesEntry", jsonName := some "names" }]
       nested :=
        [{ name := some "NamesEntry"
           fields := added ++ [{ name := some "key", type := some 9 }]
           mapEntry := some true }] }]
  services :=
    [{ name := some "Places"
       methods :=
        [{ name := some "Watch", inputType := some ".geo.Place", serverStreaming := some true }] }]

/-- What is described there, if the added fields are of unknown type. -/
def places : Proto.File where
  name := "geo.proto"
  package := "geo"
  messages :=
    [{ name := "Place"
       fields :=
        [{ name := "codes", wireType := .int64, label := .repeated },
          { name := "names", jsonName := some "names", wireType := .message, label := .repeated,
            typeName := some ".geo.Place.NamesEntry" }]
       nested :=
        [{ name := "NamesEntry", fields := [{ name := "key", wireType := .string }],
           mapEntry := true }] }]
  services :=
    [{ name := "Places"
       methods :=
        [{ name := "Watch", inputType := ".geo.Place", outputType := "",
           serverStreaming := true }] }]

theorem toProto_keeps_tree_gazetteer :
    (gazetteer [{ name := some "lost" }]).TrimsTo (gazetteer []) ∧
      (gazetteer []).toProto = (gazetteer [{ name := some "lost" }]).toProto ∧
      (gazetteer [{ name := some "lost" }]).Describes places := by
  have htrims : (gazetteer [{ name := some "lost" }]).TrimsTo (gazetteer []) :=
    { messages := .cons (.intro rfl (by decide) rfl
        (.cons (.intro rfl (by decide) rfl .nil rfl) .nil) rfl) .nil
      rest := rfl }
  obtain ⟨hdescribes, -, hkeeps⟩ := (gazetteer [{ name := some "lost" }]).toProto_keeps_tree
  exact ⟨htrims, hkeeps _ htrims, (hdescribes places).2 (by decide)⟩

end Descriptor

end ServiceCli

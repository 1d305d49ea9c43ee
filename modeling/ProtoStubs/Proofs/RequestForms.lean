import ProtoStubs.Proofs.Loading
import ProtoStubs.Proofs.WireForms
import ProtoStubs.Wire.Response

/-!
# Requests and responses on the wire

Whatever form a request has on the wire, the same request is read: what is absent stays absent, and what
is present with the value that absence stands for stays present. So a run on bytes is a run on the request.
-/

namespace ProtoStubs

open Descriptor

namespace Descriptor

def IsInt32 (i : Int) : Prop := -0x80000000 ≤ i ∧ i < 0x80000000

instance (i : Int) : Decidable (IsInt32 i) := inferInstanceAs (Decidable (_ ∧ _))

/-- The numbers of a field are of their type, and the enumerated ones of their enumeration. -/
structure Field.Representable (d : Field) : Prop where
  number : ∀ i ∈ d.number, IsInt32 i
  oneofIndex : ∀ i ∈ d.oneofIndex, IsInt32 i
  label : ∀ i ∈ d.label, 1 ≤ i ∧ i ≤ 3
  type : ∀ i ∈ d.type, 1 ≤ i ∧ i ≤ 18
  jsType : ∀ o ∈ d.options, ∀ i ∈ o.jsType, 0 ≤ i ∧ i ≤ 2

instance (d : Field) : Decidable d.Representable :=
  decidable_of_iff
    ((∀ i ∈ d.number, IsInt32 i) ∧ (∀ i ∈ d.oneofIndex, IsInt32 i) ∧
      (∀ i ∈ d.label, 1 ≤ i ∧ i ≤ 3) ∧ (∀ i ∈ d.type, 1 ≤ i ∧ i ≤ 18) ∧
      ∀ o ∈ d.options, ∀ i ∈ o.jsType, 0 ≤ i ∧ i ≤ 2)
    ⟨fun ⟨number, oneofIndex, label, type, jsType⟩ => ⟨number, oneofIndex, label, type, jsType⟩,
      fun h => ⟨h.number, h.oneofIndex, h.label, h.type, h.jsType⟩⟩

def Enum.Representable (d : Enum) : Prop := ∀ v ∈ d.values, ∀ i ∈ v.number, IsInt32 i

instance (d : Enum) : Decidable d.Representable := inferInstanceAs (Decidable (∀ v ∈ _, _))

structure Message.Representable (m : Message) : Prop where
  fields : ∀ f ∈ m.fields, f.Representable
  extensions : ∀ f ∈ m.extensions, f.Representable
  enums : ∀ e ∈ m.enums, e.Representable

instance (m : Message) : Decidable m.Representable :=
  decidable_of_iff
    ((∀ f ∈ m.fields, f.Representable) ∧ (∀ f ∈ m.extensions, f.Representable) ∧
      ∀ e ∈ m.enums, e.Representable)
    ⟨fun ⟨fields, extensions, enums⟩ => ⟨fields, extensions, enums⟩,
      fun h => ⟨h.fields, h.extensions, h.enums⟩⟩

structure File.Representable (d : File) : Prop where
  messages : ∀ p ∈ d.allMessages, p.2.Representable
  enums : ∀ e ∈ d.enums, e.Representable
  extensions : ∀ f ∈ d.extensions, f.Representable

instance (d : File) : Decidable d.Representable :=
  decidable_of_iff
    ((∀ p ∈ d.allMessages, p.2.Representable) ∧ (∀ e ∈ d.enums, e.Representable) ∧
      ∀ f ∈ d.extensions, f.Representable)
    ⟨fun ⟨messages, enums, extensions⟩ => ⟨messages, enums, extensions⟩,
      fun h => ⟨h.messages, h.enums, h.extensions⟩⟩

def Request.Representable (r : Request) : Prop := ∀ d ∈ r.files, d.Representable

instance (r : Request) : Decidable r.Representable := inferInstanceAs (Decidable (∀ d ∈ _, _))

end Descriptor

namespace Wire

theorem ofInt_lt (i : Int) : ofInt i < size64 := by
  simp only [ofInt, size64]
  omega

theorem toInt32_ofInt {i : Int} (h : IsInt32 i) : toInt32 (ofInt i) = i := by
  simp only [IsInt32, toInt32, ofInt, size64, size32, Int.bmod] at *
  omega

theorem map_toInt32_map_ofInt {o : Option Int} (h : ∀ i ∈ o, IsInt32 i) :
    (o.map ofInt).map toInt32 = o := by
  cases o with
  | none => rfl
  | some i => simp [toInt32_ofInt (h i rfl)]

theorem ne_zero_comp_toNat : (fun n : Nat => n != 0) ∘ Bool.toNat = id := by
  funext b
  cases b <;> rfl

section Select

variable {α : Type}

theorem filterMap_optional {β : Type} (f : Node → Option β) (o : Option α) (g : α → Node) :
    (o.map g).toList.filterMap f = (o.bind fun x => f (g x)).toList := by
  cases o with
  | none => rfl
  | some x => cases h : f (g x) <;> simp [h]

theorem getLast?_toList (o : Option α) : o.toList.getLast? = o := by
  cases o <;> rfl

theorem bind_some_eq_map {β : Type} (o : Option α) (g : α → β) :
    (o.bind fun x => some (g x)) = o.map g :=
  Option.map_eq_bind.symm

theorem map_eq_self {f : α → α} {xs : List α} (h : ∀ x ∈ xs, f x = x) : xs.map f = xs :=
  (List.map_congr_left h).trans (List.map_id' xs)

theorem body?_of_bodiesIn {field : Nat} {nodes : List Node} {o : Option (List Node)}
    (h : bodiesIn field nodes = o.toList) : body? field nodes = o := by
  cases o <;> simp [body?, h]

end Select

section Records

attribute [local simp] textsIn numbersIn bodiesIn text? number? int32? bool? optionalText optionalInt
  optionalBool optionalNested filterMap_optional getLast?_toList bind_some_eq_map ne_zero_comp_toNat

theorem fieldOptionsOf_nodes {o : FieldOptions} (h : ∀ i ∈ o.jsType, 0 ≤ i ∧ i ≤ 2) :
    fieldOptionsOf (fieldOptionsNodes o) = o := by
  have hjs : ∀ i ∈ o.jsType, IsInt32 i := fun i hi => by
    have := h i hi
    simp only [IsInt32]
    omega
  simp [fieldOptionsOf, fieldOptionsNodes, map_toInt32_map_ofInt hjs]

theorem fieldOf_nodes {d : Field} (h : d.Representable) : fieldOf (fieldNodes d) = d := by
  have hlabel : ∀ i ∈ d.label, IsInt32 i := fun i hi => by
    have := h.label i hi
    simp only [IsInt32]
    omega
  have htype : ∀ i ∈ d.type, IsInt32 i := fun i hi => by
    have := h.type i hi
    simp only [IsInt32]
    omega
  have hbody : body? 8 (fieldNodes d) = d.options.map fieldOptionsNodes :=
    body?_of_bodiesIn (by simp [fieldNodes])
  have hoptions : (d.options.map fieldOptionsNodes).map fieldOptionsOf = d.options := by
    cases hd : d.options with
    | none => rfl
    | some o => simp [fieldOptionsOf_nodes (h.jsType o hd)]
  simp only [fieldOf, hbody, hoptions]
  simp [fieldNodes, map_toInt32_map_ofInt hlabel, map_toInt32_map_ofInt htype,
    map_toInt32_map_ofInt h.number, map_toInt32_map_ofInt h.oneofIndex]

theorem enumOf_nodes {d : Descriptor.Enum} (h : d.Representable) : enumOf (enumNodes d) = d := by
  have hvalues : d.values.map (fun v => enumValueOf (enumValueNodes v)) = d.values :=
    map_eq_self fun v hv => by simp [enumValueOf, enumValueNodes, map_toInt32_map_ofInt (h v hv)]
  simp [enumOf, enumNodes, hvalues, Function.comp_def]

theorem oneofOf_nodes (d : Oneof) : oneofOf (oneofNodes d) = d := by
  simp [oneofOf, oneofNodes]

theorem messageOptionsOf_nodes (o : MessageOptions) :
    messageOptionsOf (messageOptionsNodes o) = o := by
  simp [messageOptionsOf, messageOptionsNodes]

theorem methodOf_nodes (d : Method) : methodOf (methodNodes d) = d := by
  simp [methodOf, methodNodes]

theorem serviceOf_nodes (d : Service) : serviceOf (serviceNodes d) = d := by
  simp [serviceOf, serviceNodes, methodOf_nodes, Function.comp_def]

theorem messageNodes_eq (m : Message) :
    messageNodes m = optionalText 1 m.name ++ (m.fields.map fun d => .nested 2 (fieldNodes d)) ++
      (m.nested.map fun n => .nested 3 (messageNodes n)) ++
      (m.enums.map fun d => .nested 4 (enumNodes d)) ++
      (m.extensions.map fun d => .nested 6 (fieldNodes d)) ++
      optionalNested 7 (m.options.map messageOptionsNodes) ++
      m.oneofs.map fun d => .nested 8 (oneofNodes d) := by
  cases m
  simp only [messageNodes, nestedMessageNodes_eq_map]

theorem messageWith_nodes {m : Message} (scope : String)
    (h : ∀ p ∈ m.withNested scope, p.2.Representable) :
    messageWith (messageNodes m) (messagesIn 3 (messageNodes m)) = m := by
  induction m using Message.induct generalizing scope with
  | step m ih =>
    have hself := h _ (m.mem_withNested_self scope)
    have hfields : m.fields.map (fun d => fieldOf (fieldNodes d)) = m.fields :=
      map_eq_self fun d hd => fieldOf_nodes (hself.fields d hd)
    have hextensions : m.extensions.map (fun d => fieldOf (fieldNodes d)) = m.extensions :=
      map_eq_self fun d hd => fieldOf_nodes (hself.extensions d hd)
    have henums : m.enums.map (fun d => enumOf (enumNodes d)) = m.enums :=
      map_eq_self fun d hd => enumOf_nodes (hself.enums d hd)
    have hnested : messagesIn 3 (messageNodes m) = m.nested := by
      have hbodies : bodiesIn 3 (messageNodes m) = m.nested.map messageNodes := by
        rw [messageNodes_eq]
        simp
      rw [messagesIn_eq_map, hbodies, List.map_map]
      exact map_eq_self fun n hn => ih n hn _ fun p hp => h p (Message.withNested_subset hn hp)
    have hbody : body? 7 (messageNodes m) = m.options.map messageOptionsNodes := by
      apply body?_of_bodiesIn
      rw [messageNodes_eq]
      simp
    rw [hnested, messageWith, hbody, messageNodes_eq]
    simp [Function.comp_def, messageOptionsOf_nodes, oneofOf_nodes, hfields, hextensions, henums]
    cases m
    rfl

theorem messagesIn_nodes {scope : String} {ms : List Message}
    (h : ∀ p ∈ allNested scope ms, p.2.Representable) {field : Nat} {nodes : List Node}
    (hnodes : bodiesIn field nodes = ms.map messageNodes) : messagesIn field nodes = ms := by
  rw [messagesIn_eq_map, hnodes, List.map_map]
  refine map_eq_self fun m hm => messageWith_nodes scope fun p hp => h p ?_
  rw [allNested_eq_flatMap]
  exact List.mem_flatMap.mpr ⟨m, hm, hp⟩

theorem fileOf_nodes {d : File} (h : d.Representable) : fileOf (fileNodes d) = d := by
  have henums : d.enums.map (fun d => enumOf (enumNodes d)) = d.enums :=
    map_eq_self fun e he => enumOf_nodes (h.enums e he)
  have hextensions : d.extensions.map (fun d => fieldOf (fieldNodes d)) = d.extensions :=
    map_eq_self fun f hf => fieldOf_nodes (h.extensions f hf)
  have hmessages : messagesIn 4 (fileNodes d) = d.messages :=
    messagesIn_nodes h.messages (by simp [fileNodes, nestedMessageNodes_eq_map])
  rw [fileOf, hmessages]
  simp [fileNodes, nestedMessageNodes_eq_map, Function.comp_def, serviceOf_nodes, henums, hextensions]

theorem requestOf_nodes {r : Request} (h : r.Representable) : requestOf (requestNodes r) = r := by
  have hfiles : r.files.map (fun d => fileOf (fileNodes d)) = r.files :=
    map_eq_self fun d hd => fileOf_nodes (h d hd)
  simp [requestOf, requestNodes, Function.comp_def, hfiles]

theorem responseOf_nodes (r : Response) : responseOf (responseNodes r) = r := by
  simp [responseOf, responseNodes, outputFileOf, outputFileNodes, Function.comp_def]

end Records

section Fits

variable {k : Kind} {field : Nat}

theorem fits_optionalText (shape : k.shape? field = some .text) (s : Option String) :
    Fits k (optionalText field s) :=
  Fits.optional fun s _ => fits_text shape s

theorem fits_optionalInt (shape : k.shape? field = some .number) (i : Option Int) :
    Fits k (optionalInt field i) :=
  Fits.optional fun i _ => fits_number shape (ofInt_lt i)

theorem fits_optionalChoice {least greatest : Int}
    (shape : k.shape? field = some (.choice least greatest))
    (hleast : -0x80000000 ≤ least) (hgreatest : greatest < 0x80000000) {o : Option Int}
    (h : ∀ i ∈ o, least ≤ i ∧ i ≤ greatest) : Fits k (optionalInt field o) := by
  refine Fits.optional fun i hi => fits_choice shape (ofInt_lt i) ?_
  have hrange := h i hi
  have hint : IsInt32 i := by
    simp only [IsInt32]
    omega
  rwa [toInt32_ofInt hint]

theorem fits_optionalBool (shape : k.shape? field = some .number) (b : Option Bool) :
    Fits k (optionalBool field b) :=
  Fits.optional fun b _ => fits_number shape (by cases b <;> decide)

theorem fits_optionalNested {inner : Kind} (shape : k.shape? field = some (.nested inner))
    {α : Type} {o : Option α} {body : α → List Node} (h : ∀ x ∈ o, Fits inner (body x)) :
    Fits k (optionalNested field (o.map body)) := by
  rw [optionalNested, Option.map_map]
  exact Fits.optional fun x hx => fits_nested shape (h x hx)

theorem fits_allNested {inner : Kind} (shape : k.shape? field = some (.nested inner))
    {α : Type} {xs : List α} {body : α → List Node} (h : ∀ x ∈ xs, Fits inner (body x)) :
    Fits k (xs.map fun x => .nested field (body x)) :=
  Fits.map fun x hx => fits_nested shape (h x hx)

theorem fits_fieldNodes {d : Field} (h : d.Representable) : Fits .field (fieldNodes d) := by
  have hoptions : ∀ o ∈ d.options, Fits .fieldOptions (fieldOptionsNodes o) := fun o ho =>
    fits_optionalChoice rfl (by decide) (by decide) (h.jsType o ho)
  exact (((((((fits_optionalText rfl d.name).append (fits_optionalInt rfl d.number)).append
    (fits_optionalChoice rfl (by decide) (by decide) h.label)).append
    (fits_optionalChoice rfl (by decide) (by decide) h.type)).append
    (fits_optionalText rfl d.typeName)).append (fits_optionalNested rfl hoptions)).append
    (fits_optionalInt rfl d.oneofIndex)).append (fits_optionalBool rfl d.proto3Optional)

theorem fits_enumNodes (d : Descriptor.Enum) : Fits .enum (enumNodes d) := by
  have hvalue : ∀ v : EnumValue, Fits .enumValue (enumValueNodes v) := fun v =>
    (fits_optionalText rfl v.name).append (fits_optionalInt rfl v.number)
  exact (fits_optionalText rfl d.name).append (fits_allNested rfl fun v _ => hvalue v)

theorem fits_messageNodes {m : Message} (scope : String)
    (h : ∀ p ∈ m.withNested scope, p.2.Representable) : Fits .message (messageNodes m) := by
  induction m using Message.induct generalizing scope with
  | step m ih =>
    have hself := h _ (m.mem_withNested_self scope)
    have hnested : ∀ n ∈ m.nested, Fits .message (messageNodes n) := fun n hn =>
      ih n hn _ fun p hp => h p (Message.withNested_subset hn hp)
    have hoptions : ∀ o ∈ m.options, Fits .messageOptions (messageOptionsNodes o) := fun o _ =>
      fits_optionalBool rfl o.mapEntry
    have honeofs : ∀ o ∈ m.oneofs, Fits .oneof (oneofNodes o) := fun o _ =>
      fits_optionalText rfl o.name
    rw [messageNodes_eq]
    exact ((((((fits_optionalText rfl m.name).append
      (fits_allNested rfl fun d hd => fits_fieldNodes (hself.fields d hd))).append
      (fits_allNested rfl hnested)).append
      (fits_allNested rfl fun d _ => fits_enumNodes d)).append
      (fits_allNested rfl fun d hd => fits_fieldNodes (hself.extensions d hd))).append
      (fits_optionalNested rfl hoptions)).append (fits_allNested rfl honeofs)

theorem fits_methodNodes (d : Method) : Fits .method (methodNodes d) :=
  ((((fits_optionalText rfl d.name).append (fits_optionalText rfl d.inputType)).append
    (fits_optionalText rfl d.outputType)).append (fits_optionalBool rfl d.clientStreaming)).append
    (fits_optionalBool rfl d.serverStreaming)

theorem fits_serviceNodes (d : Service) : Fits .service (serviceNodes d) :=
  (fits_optionalText rfl d.name).append (fits_allNested rfl fun m _ => fits_methodNodes m)

theorem fits_fileNodes {d : File} (h : d.Representable) : Fits .file (fileNodes d) := by
  have hmessages : ∀ m ∈ d.messages, Fits .message (messageNodes m) := fun m hm => by
    refine fits_messageNodes d.ownPackage fun p hp => h.messages p ?_
    rw [File.allMessages, allNested_eq_flatMap]
    exact List.mem_flatMap.mpr ⟨m, hm, hp⟩
  rw [fileNodes, nestedMessageNodes_eq_map]
  exact (((((((fits_optionalText rfl d.name).append (fits_optionalText rfl d.package)).append
    (Fits.map fun s _ => fits_text rfl s)).append (fits_allNested rfl hmessages)).append
    (fits_allNested rfl fun e _ => fits_enumNodes e)).append
    (fits_allNested rfl fun s _ => fits_serviceNodes s)).append
    (fits_allNested rfl fun f hf => fits_fieldNodes (h.extensions f hf))).append
    (fits_optionalText rfl d.dialect)

theorem fits_requestNodes {r : Request} (h : r.Representable) : Fits .request (requestNodes r) :=
  ((Fits.map fun s _ => fits_text rfl s).append (fits_optionalText rfl r.parameter)).append
    (fits_allNested rfl fun d hd => fits_fileNodes (h d hd))

theorem fits_responseNodes {r : Response} (h : r.supportedFeatures < size64) :
    Fits .response (responseNodes r) := by
  have hfile : ∀ f : OutputFile, Fits .outputFile (outputFileNodes f) := fun f =>
    Fits.append (fits_text rfl f.name) (fits_text rfl f.content)
  exact Fits.append (fits_number rfl h) (fits_allNested rfl fun f _ => hfile f)

end Fits

/-- The request may be written as these bytes, with other content around what is read of it. -/
structure WireForm (r : Request) (bytes : Bytes) : Prop where
  size : bytes.length < messageLimit
  content : ∃ nodes, Encodes .request nodes bytes ∧ nodesDepth nodes ≤ depthLimit ∧
    requestOf nodes = r

theorem WireForm.decodeRequest {r : Request} {bytes : Bytes} (h : WireForm r bytes) :
    decodeRequest bytes = some r := by
  obtain ⟨nodes, hnodes, hdepth, rfl⟩ := h.content
  rw [Wire.decodeRequest, readMessage_encodes hnodes h.size hdepth, Option.map_some]

theorem wireForm_encodeRequest {r : Request} (hr : r.Representable)
    (hdepth : nodesDepth (requestNodes r) ≤ depthLimit)
    (hsize : (encodeRequest r).length < messageLimit) : WireForm r (encodeRequest r) where
  size := hsize
  content := ⟨requestNodes r, fits_requestNodes hr, hdepth, requestOf_nodes hr⟩

theorem nodesDepth_responseNodes (r : Response) : nodesDepth (responseNodes r) ≤ 1 := by
  have hfiles (files : List OutputFile) :
      nodesDepth (files.map fun f => .nested 15 (outputFileNodes f)) ≤ 1 := by
    induction files with
    | nil => simp [nodesDepth]
    | cons f files ih => simpa [nodesDepth, Node.depth, outputFileNodes, Nat.max_le] using ih
  simpa [responseNodes, nodesDepth, Node.depth] using hfiles r.files

theorem decodeResponse_encodeResponse {r : Response} (hfeatures : r.supportedFeatures < size64)
    (hsize : (encodeResponse r).length < messageLimit) :
    decodeResponse (encodeResponse r) = some r := by
  have hdepth : nodesDepth (responseNodes r) ≤ depthLimit :=
    Nat.le_trans (nodesDepth_responseNodes r) (by decide)
  rw [decodeResponse, encodeResponse, readMessage_encodes (fits_responseNodes hfeatures) hsize hdepth,
    Option.map_some, responseOf_nodes]

end Wire

open Wire

theorem supportedFeatures_of_generate {r : Request} {override : Option String} {response : Response}
    (h : generate r override = .ok response) : response.supportedFeatures = 1 := by
  obtain ⟨parameters, -, h⟩ := bind_eq_ok.mp h
  obtain ⟨files, -, h⟩ := bind_eq_ok.mp h
  obtain ⟨index, -, h⟩ := bind_eq_ok.mp h
  obtain ⟨outputs, -, h⟩ := bind_eq_ok.mp h
  rw [← pure_eq_ok.mp h]

theorem run_of_decodeRequest {r : Request} {bytes : Bytes} (h : decodeRequest bytes = some r)
    (override : Option String) :
    run bytes override =
      (((generate r override).mapError .generation).map encodeResponse,
        generationNotices r override) := by
  rw [run, h]
  cases hg : generate r override <;> simp [Except.map, Except.mapError, hg]

/-- A run on any form of a request fails as the generation fails, and otherwise answers with bytes that
are read back as the features and the files in their order. -/
theorem run_wireForm {r : Request} (hr : r.Representable)
    (hdepth : nodesDepth (requestNodes r) ≤ depthLimit)
    (hsize : (encodeRequest r).length < messageLimit) (override : Option String) :
    WireForm r (encodeRequest r) ∧
      ∀ bytes, WireForm r bytes →
        decodeRequest bytes = some r ∧
        (run bytes override).2 = generationNotices r override ∧
        (∀ e, (run bytes override).1 = .error e ↔
          ∃ g, generate r override = .error g ∧ e = .generation g) ∧
        ∀ response, generate r override = .ok response →
          ∃ output, (run bytes override).1 = .ok output ∧
            (output.length < messageLimit →
              decodeResponse output = some { supportedFeatures := 1, files := response.files }) := by
  refine ⟨wireForm_encodeRequest hr hdepth hsize, fun bytes hbytes => ?_⟩
  have hread := hbytes.decodeRequest
  rw [run_of_decodeRequest hread]
  refine ⟨hread, rfl, fun e => ?_, fun response hresponse => ?_⟩
  · cases generate r override with
    | error g => simp [Except.map, Except.mapError, eq_comm]
    | ok response => simp [Except.map, Except.mapError]
  · have hfeatures := supportedFeatures_of_generate hresponse
    refine ⟨encodeResponse response, by simp [hresponse, Except.map, Except.mapError], ?_⟩
    intro hlength
    rw [decodeResponse_encodeResponse (by rw [hfeatures]; decide) hlength, ← hfeatures]

/-- A field with every number present, some with the value that their absence stands for, beside a bare
one. -/
def presenceRequest : Request where
  filesToGenerate := ["a.proto"]
  files := [{
    name := some "a.proto"
    messages := [{
      name := some "A"
      fields := [{
        name := some "b"
        number := some (-1)
        label := some 1
        type := some 3
        oneofIndex := some 0
        options := some { jsType := some 0 } }]
      nested := [{ fields := [{}] }] }] }]

theorem presenceRequest_run :
    (presenceRequest.Representable ∧ nodesDepth (requestNodes presenceRequest) ≤ depthLimit ∧
      (encodeRequest presenceRequest).length < messageLimit) ∧
    decodeRequest (encodeRequest presenceRequest) = some presenceRequest ∧
    ∃ output, (run (encodeRequest presenceRequest) none).1 = .ok output := by
  have hr : presenceRequest.Representable := by decide
  have hdepth : nodesDepth (requestNodes presenceRequest) ≤ depthLimit := by decide
  have hsize : (encodeRequest presenceRequest).length < messageLimit := by decide +kernel
  have hgenerate : (generate presenceRequest none).isOk = true := by decide +kernel
  obtain ⟨hform, hrun⟩ := run_wireForm hr hdepth hsize none
  obtain ⟨hread, -, -, hanswer⟩ := hrun _ hform
  refine ⟨⟨hr, hdepth, hsize⟩, hread, ?_⟩
  cases hg : generate presenceRequest none with
  | error e => simp [hg, Except.isOk, Except.toBool] at hgenerate
  | ok response =>
    obtain ⟨output, houtput, -⟩ := hanswer response hg
    exact ⟨output, houtput⟩

end ProtoStubs

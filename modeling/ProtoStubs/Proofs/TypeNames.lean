import Mathlib.Data.List.Perm.Basic
import ProtoStubs.Proofs.PromiseVariant

/-!
# The names of types in a client's declaration

At its outermost level the declaration of a client declares a type for each method, a class for each service, a
class for the client of each service, and the types that all clients share. Where a name is made of that of a
service, it is this name with a suffix: nothing, the name of a method, or `Client`. So the names of different
services and methods can come to the same, and it is told here exactly when they do.
-/

namespace ProtoStubs

open Layout
open Text (IsName IsToken tokens tokens_ofList closes_ofList opens_ofList)

theorem Text.append_eq_append_iff {a b c d : String} :
    a ++ b = c ++ d ↔ (∃ rest, c = a ++ rest ∧ b = rest ++ d) ∨ ∃ rest, a = c ++ rest ∧ d = rest ++ b := by
  have hexists {P : String → Prop} : (∃ rest, P rest) ↔ ∃ cs : List Char, P (String.ofList cs) :=
    ⟨fun ⟨rest, h⟩ => ⟨rest.toList, by rwa [String.ofList_toList]⟩, fun ⟨cs, h⟩ => ⟨_, h⟩⟩
  simp only [hexists, ← String.toList_inj, String.toList_append, String.toList_ofList,
    List.append_eq_append_iff]

def typeKeywords : List String := ["type", "class", "interface"]

def typeName? : List String → Option String
  | word :: name :: rest =>
    if word = "export" then typeName? (name :: rest)
    else if word ∈ typeKeywords then some name else none
  | _ => none

def outermostTypes (ss : List Section) : List String := ss.filterMap fun s => typeName? (tokens s.head)

/-- The types that a text declares at its outermost level, in their order. -/
def declaredTypes (t : String) : List String := outermostTypes (sections (readLines t))

theorem typeName?_keyword {word name : String} {rest : List String} (h : word ∈ typeKeywords) :
    typeName? (word :: name :: rest) = some name := by
  have hne : word ≠ "export" := by
    rintro rfl
    exact absurd h (by decide)
  rw [typeName?, if_neg hne, if_pos h]

theorem typeName?_export (ts : List String) : typeName? ("export" :: ts) = typeName? ts := by
  cases ts with
  | nil => rfl
  | cons word rest => rw [typeName?, if_pos rfl]

theorem typeName?_of_head {ts : List String} {word : String} (hhead : ts.head? = some word)
    (hword : word ∉ "export" :: typeKeywords) : typeName? ts = none := by
  rw [List.mem_cons, not_or] at hword
  match ts, hhead with
  | [_], _ => rfl
  | w :: name :: rest, hhead =>
    cases hhead
    rw [typeName?, if_neg hword.1, if_neg hword.2]

theorem typeName?_of_lead {lead : List Char} {word : String}
    (hcloses : lead.getLast?.any (fun c => !Text.isTokenChar c) = true)
    (hlead : ((Text.tokenChars lead).map String.ofList).head? = some word)
    (hword : word ∉ "export" :: typeKeywords) (rest : String) :
    typeName? (tokens (String.ofList lead ++ rest)) = none := by
  refine typeName?_of_head (Text.head?_tokens_append (closes_ofList hcloses) ?_ rest) hword
  rw [tokens_ofList rfl, hlead]

theorem outermostTypes_append (xs ys : List Section) :
    outermostTypes (xs ++ ys) = outermostTypes xs ++ outermostTypes ys := List.filterMap_append

theorem outermostTypes_line (content : String) :
    outermostTypes (outline [line content]) = (typeName? (tokens content)).toList := filterMap_one _ _

theorem outermostTypes_braced (head tail : String) (body : List Line) :
    outermostTypes (outline (braced head body tail)) = (typeName? (tokens (head ++ openBrace))).toList := by
  have hclose : typeName? (tokens (closeBrace ++ tail)) = none := typeName?_of_lead rfl rfl (by decide) tail
  rw [outline_braced, outermostTypes, List.filterMap_cons, List.filterMap_cons, hclose]
  cases typeName? (tokens (head ++ openBrace)) <;> rfl

structure ServiceNames where
  name : String
  methods : List String
  deriving DecidableEq

namespace ServiceNames

def suffixes (s : ServiceNames) : List String := s.methods ++ ["", "Client"]

def typeNames (s : ServiceNames) : List String := s.suffixes.map (s.name ++ ·)

theorem nodup_typeNames_iff {s : ServiceNames} (h : s.methods.Nodup) (hne : "" ∉ s.methods) :
    s.typeNames.Nodup ↔ "Client" ∉ s.methods := by
  have hinjective : Function.Injective (s.name ++ ·) := fun _ _ =>
    (String.append_right_inj s.name).mp
  have hlast : (["", "Client"] : List String).Nodup := by decide
  rw [typeNames, List.nodup_map_iff hinjective, suffixes, List.nodup_append']
  simp [h, hlast, hne]

end ServiceNames

def Schema.Service.names (s : Service) : ServiceNames := ⟨s.name, s.methods.map (·.name)⟩

namespace Service

def Stub.names (s : Stub) : ServiceNames := ⟨s.name, s.methods.map (·.name)⟩

theorem File.names_of_link {index : TypeIndex} {f : Schema.File} {s : File} (h : File.link index f = .ok s) :
    s.services.map Stub.names = f.services.map Schema.Service.names := by
  obtain ⟨stubs, hstubs, h⟩ := bind_eq_ok.mp h
  cases pure_eq_ok.mp h
  refine map_related (mapM_eq_ok.mp hstubs) fun x _ stub hstub => ?_
  obtain ⟨hname, -, hmethods⟩ := Stub.source_of_link hstub
  rw [Stub.names, Schema.Service.names, hname, ← hmethods, List.map_map]
  rfl

namespace Web

def sharedTypeNames (promises : Bool) : List String :=
  ["ServiceError", "Status"] ++ (if promises then [] else ["UnaryResponse"]) ++
    ["ResponseStream", "RequestStream", "BidirectionalStream"]

def typeNames (promises : Bool) (services : List ServiceNames) : List String :=
  (services.flatMap fun s => s.methods.map (s.name ++ ·) ++ [s.name]) ++ sharedTypeNames promises ++
    services.map (·.name ++ "Client")

section Read

variable {s : Stub} {m : Method} {name : String}

theorem outermostTypes_methodType (hs : IsName s.name) (hm : IsName m.name) :
    outermostTypes (outline (methodType s m)) = [s.name ++ m.name] := by
  have hname : IsToken (s.name ++ m.name) := hs.isToken.append hm.isToken.2
  have hhead : tokens ("type " ++ s.name ++ m.name ++ " = " ++ openBrace) =
      ["type"] ++ (s.name ++ m.name) :: ["=", "\x7b"] := by
    have hsame : "type " ++ s.name ++ m.name ++ " = " ++ openBrace =
        "type " ++ (s.name ++ m.name) ++ " = \x7b" := by
      simp only [String.append_assoc]
      rfl
    rw [hsame]
    exact Text.tokens_frame hname rfl rfl rfl
  rw [methodType, outline_append (outermost_braced _ _ _), outline_blank, List.nil_append, outermostTypes_braced,
    hhead, List.singleton_append, typeName?_keyword (by decide)]
  rfl

theorem outermostTypes_class (hname : IsToken name) (body : List Line) :
    outermostTypes (outline ([.blank] ++ braced ("export class " ++ name ++ " ") body "")) = [name] := by
  have hhead : tokens ("export class " ++ name ++ " " ++ openBrace) = ["export", "class"] ++ name :: ["\x7b"] := by
    have hsame : "export class " ++ name ++ " " ++ openBrace = "export class " ++ name ++ " \x7b" := by
      rw [String.append_assoc]
      rfl
    rw [hsame]
    exact Text.tokens_frame hname rfl rfl rfl
  rw [outline_append (outermost_braced _ _ _), outline_blank, List.nil_append, outermostTypes_braced, hhead,
    List.cons_append, List.singleton_append, typeName?_export, typeName?_keyword (by decide)]
  rfl

theorem outermostTypes_serviceClass (hs : IsName s.name) : outermostTypes (outline (serviceClass s)) = [s.name] :=
  outermostTypes_class hs.isToken _

theorem outermostTypes_clientClass (promises : Bool) (hs : IsName s.name) :
    outermostTypes (outline (clientClass promises s)) = [s.name ++ "Client"] := by
  have hhead : "export class " ++ s.name ++ "Client " = "export class " ++ (s.name ++ "Client") ++ " " := by
    simp only [String.append_assoc]
    rfl
  rw [clientClass, hhead]
  exact outermostTypes_class (hs.isToken.append (by decide)) _

theorem outermostTypes_serviceLines (hs : s.Named) :
    outermostTypes (outline (serviceLines s)) = s.names.methods.map (s.name ++ ·) ++ [s.name] := by
  rw [serviceLines, outline_append (outermost_serviceClass s), outermostTypes_append,
    outermostTypes_serviceClass hs.name, outline_flatMap fun m _ => outermost_methodType s m, outermostTypes,
    List.filterMap_flatMap, Stub.names, List.map_map, List.map_eq_flatMap]
  exact congrArg (· ++ [s.name]) (List.flatMap_congr fun m hm =>
    outermostTypes_methodType hs.name (hs.methods m hm).name)

theorem outermostTypes_statusType (hname : IsToken name) (firstField : String) :
    outermostTypes (outline [statusType name firstField]) = [name] := by
  have hopens : Text.Opens (" = " ++ openBrace ++ " " ++ firstField ++
      ": string, code: number; metadata: grpc.Metadata " ++ closeBrace) := by
    simp [Text.Opens]
    decide
  have hsame : "export type " ++ name ++ " = " ++ openBrace ++ " " ++ firstField ++
      ": string, code: number; metadata: grpc.Metadata " ++ closeBrace = "export type " ++ name ++
      (" = " ++ openBrace ++ " " ++ firstField ++ ": string, code: number; metadata: grpc.Metadata " ++
        closeBrace) := by
    simp only [String.append_assoc]
  have hlead : tokens "export type " = ["export", "type"] := tokens_ofList rfl
  rw [statusType, outermostTypes_line, hsame, Text.tokens_insert (closes_ofList rfl) hname hopens, hlead,
    List.cons_append, List.singleton_append, typeName?_export, typeName?_keyword (by decide)]
  rfl

theorem outermostTypes_interface {head : String} {rest : List String} (body : List Line)
    (hhead : tokens head = "interface" :: name :: rest) :
    outermostTypes (outline (braced head body "")) = [name] := by
  have hbrace : Text.Opens openBrace := opens_ofList rfl
  have hopen : tokens (head ++ openBrace) = "interface" :: name :: (rest ++ tokens openBrace) := by
    rw [Text.tokens_append_of_opens head hbrace, hhead]
    rfl
  rw [outermostTypes_braced, hopen, typeName?_keyword (by decide)]
  rfl

theorem outermostTypes_sharedTypes (promises : Bool) :
    outermostTypes (outline (sharedTypes promises)) = sharedTypeNames promises := by
  have hstatus : outermostTypes (outline [.blank, statusType "ServiceError" "message",
      statusType "Status" "details"]) = ["ServiceError", "Status"] := by
    have happend : outline [.blank, statusType "ServiceError" "message", statusType "Status" "details"] =
        outline [statusType "ServiceError" "message"] ++ outline [statusType "Status" "details"] := rfl
    rw [happend, outermostTypes_append, outermostTypes_statusType (by decide),
      outermostTypes_statusType (by decide)]
    rfl
  have hunary : outermostTypes (outline unaryResponse) = ["UnaryResponse"] := by
    rw [unaryResponse, outline_append (outermost_braced _ _ _), outline_blank, List.nil_append,
      outermostTypes_interface _ (tokens_ofList rfl)]
  have hstreams : outermostTypes (outline streamTypes) =
      ["ResponseStream", "RequestStream", "BidirectionalStream"] := by
    rw [streamTypes, outline_append (outermost_braced _ _ _), outline_append (outermost_braced _ _ _),
      outline_append (outermost_braced _ _ _), outline_blank, List.nil_append, outermostTypes_append,
      outermostTypes_append, outermostTypes_interface _ (tokens_ofList rfl),
      outermostTypes_interface _ (tokens_ofList rfl), outermostTypes_interface _ (tokens_ofList rfl)]
    rfl
  rw [sharedTypes, outline_append outermost_streamTypes, outermostTypes_append, hstreams]
  cases promises with
  | true => rw [if_pos rfl, List.append_nil, hstatus, sharedTypeNames, if_pos rfl, List.append_nil]
  | false =>
    rw [if_neg Bool.false_ne_true, outline_append outermost_unaryResponse, outermostTypes_append, hstatus, hunary]
    rfl

theorem outermostTypes_headLines (f : File) : outermostTypes (outline (headLines f)) = [] := by
  have hpackage : typeName? (tokens ("// package: " ++ f.package)) = none :=
    typeName?_of_lead rfl rfl (by decide) _
  have hfile : typeName? (tokens ("// file: " ++ f.name)) = none := typeName?_of_lead rfl rfl (by decide) _
  have houtline : outline (headLines f) = [⟨"// package: " ++ f.package, []⟩, ⟨"// file: " ++ f.name, []⟩] :=
    rfl
  rw [houtline, outermostTypes, List.filterMap_cons, hpackage, List.filterMap_cons, hfile]
  rfl

theorem typeName?_importLine (viewer target : String) : typeName? (tokens (importLine viewer target)) = none := by
  simp only [importLine, String.append_assoc]
  exact typeName?_of_lead rfl rfl (by decide) _

theorem typeName?_runtime : typeName? (tokens ("import " ++ openBrace ++ "grpc" ++ closeBrace ++
    " from \"@improbable-eng/grpc-web\";")) = none := by
  simp only [String.append_assoc]
  exact typeName?_of_lead rfl rfl (by decide) _

theorem outermostTypes_lines (promises : Bool) {f : File} (h : f.Named) :
    outermostTypes (outline (lines promises f)) = typeNames promises (f.services.map Stub.names) := by
  have himports : outermostTypes (outline (f.imports.map fun target => line (importLine f.name target))) = [] := by
    rw [outline_map_line, outermostTypes, List.filterMap_map, List.filterMap_eq_nil_iff]
    intro target _
    rw [Function.comp_apply, typeName?_importLine]
  have hservices : outermostTypes (outline (f.services.flatMap serviceLines)) =
      (f.services.map Stub.names).flatMap fun s => s.methods.map (s.name ++ ·) ++ [s.name] := by
    rw [outline_flatMap fun s _ => outermost_serviceLines s, outermostTypes, List.filterMap_flatMap,
      List.flatMap_map]
    exact List.flatMap_congr fun s hs => outermostTypes_serviceLines (h.services s hs)
  have hclients : outermostTypes (outline (f.services.flatMap (clientClass promises))) =
      (f.services.map Stub.names).map (·.name ++ "Client") := by
    rw [outline_flatMap fun s _ => outermost_clientClass promises s, outermostTypes, List.filterMap_flatMap,
      List.map_map, List.map_eq_flatMap]
    exact List.flatMap_congr fun s hs => outermostTypes_clientClass promises (h.services s hs).name
  rw [lines, outline_append (outermost_flatMap fun s _ => outermost_clientClass promises s),
    outline_append (outermost_sharedTypes promises),
    outline_append (outermost_flatMap fun s _ => outermost_serviceLines s),
    outline_append (outermost_line _), outline_append (outermost_map_line _ _)]
  simp only [outermostTypes_append, outermostTypes_headLines, himports, outermostTypes_line, typeName?_runtime,
    hservices, outermostTypes_sharedTypes, hclients]
  rfl

theorem declaredTypes_lines (promises : Bool) {f : File} (h : f.Named) :
    declaredTypes (render (lines promises f)) = typeNames promises (f.services.map Stub.names) := by
  rw [declaredTypes, readLines_render (legible_lines promises h), ← outline, outermostTypes_lines promises h]

end Read

/-- What keeps the names of types apart. A method named `Client` would name its type as the client of its service
is named, and where the name of a service goes on as `rest` in that of another, a suffix of the first that is
`rest` with a suffix of the other would name a type of both. -/
structure TypesApart (promises : Bool) (services : List ServiceNames) : Prop where
  client : ∀ s ∈ services, "Client" ∉ s.methods
  shared : ∀ s ∈ services, ∀ suffix ∈ s.suffixes, s.name ++ suffix ∉ sharedTypeNames promises
  services : ∀ s ∈ services, ∀ t ∈ services, ∀ rest, rest ≠ "" → t.name = s.name ++ rest →
    ∀ suffix ∈ t.suffixes, rest ++ suffix ∉ s.suffixes

theorem typeNames_perm (promises : Bool) (services : List ServiceNames) :
    (typeNames promises services).Perm (sharedTypeNames promises ++ services.flatMap ServiceNames.typeNames) := by
  have hnames (s : ServiceNames) :
      s.methods.map (s.name ++ ·) ++ [s.name] ++ [s.name ++ "Client"] = s.typeNames := by
    simp [ServiceNames.typeNames, ServiceNames.suffixes]
  have hservices : ((services.flatMap fun s => s.methods.map (s.name ++ ·) ++ [s.name]) ++
      services.map (·.name ++ "Client")).Perm (services.flatMap ServiceNames.typeNames) := by
    rw [List.map_eq_flatMap, ← List.flatMap_congr fun s _ => hnames s]
    exact List.flatMap_append_perm services _ _
  refine (List.perm_append_comm.append_right _).trans ?_
  rw [List.append_assoc]
  exact hservices.append_left _

variable {services : List ServiceNames}

/-- Services of different names share the name of a type just where the one name goes on in the other. -/
theorem pairwise_disjoint_iff (hservices : (services.map (·.name)).Nodup) :
    services.Pairwise (Function.onFun List.Disjoint ServiceNames.typeNames) ↔
      ∀ s ∈ services, ∀ t ∈ services, ∀ rest, rest ≠ "" → t.name = s.name ++ rest →
        ∀ suffix ∈ t.suffixes, rest ++ suffix ∉ s.suffixes := by
  refine ⟨?_, fun h => ?_⟩
  -- The longer name with `suffix` is the shorter name with `rest` and `suffix`.
  · intro h s hs t ht rest hrest hname suffix hsuffix hmem
    have hne : s ≠ t := by
      rintro rfl
      exact hrest (by simpa using congrArg String.length hname)
    have hsymm : Std.Symm (Function.onFun List.Disjoint ServiceNames.typeNames) := ⟨fun _ _ => List.Disjoint.symm⟩
    have hdisjoint : List.Disjoint s.typeNames t.typeNames := h.forall hs ht hne
    refine hdisjoint (List.mem_map.mpr ⟨_, hmem, rfl⟩) (List.mem_map.mpr ⟨suffix, hsuffix, ?_⟩)
    rw [hname, String.append_assoc]
  · refine (List.pairwise_map.mp hservices).imp_of_mem fun {s t} hs ht hne name hname hname' => ?_
    obtain ⟨a, ha, rfl⟩ := List.mem_map.mp hname
    obtain ⟨b, hb, heq⟩ := List.mem_map.mp hname'
    -- Either name may be the longer one.
    rcases Text.append_eq_append_iff.mp heq with ⟨rest, hlonger, rfl⟩ | ⟨rest, hlonger, rfl⟩
    · have hrest : rest ≠ "" := by
        rintro rfl
        exact hne (by simpa using hlonger)
      exact h t ht s hs rest hrest hlonger a ha hb
    · have hrest : rest ≠ "" := by
        rintro rfl
        exact hne (by simpa using hlonger.symm)
      exact h s hs t ht rest hrest hlonger b hb ha

theorem nodup_typeNames_iff (promises : Bool) (hservices : (services.map (·.name)).Nodup)
    (hmethods : ∀ s ∈ services, s.methods.Nodup ∧ "" ∉ s.methods) :
    (typeNames promises services).Nodup ↔ TypesApart promises services := by
  have hshared : (sharedTypeNames promises).Nodup := by cases promises <;> decide
  have hown : (∀ s ∈ services, s.typeNames.Nodup) ↔ ∀ s ∈ services, "Client" ∉ s.methods :=
    forall₂_congr fun s hs => ServiceNames.nodup_typeNames_iff (hmethods s hs).1 (hmethods s hs).2
  have hapart : List.Disjoint (sharedTypeNames promises) (services.flatMap ServiceNames.typeNames) ↔
      ∀ s ∈ services, ∀ suffix ∈ s.suffixes, s.name ++ suffix ∉ sharedTypeNames promises := by
    refine ⟨fun h s hs suffix hsuffix hmem => ?_, fun h name hname hmem => ?_⟩
    · exact h hmem (List.mem_flatMap.mpr ⟨s, hs, List.mem_map.mpr ⟨suffix, hsuffix, rfl⟩⟩)
    · obtain ⟨s, hs, hmem⟩ := List.mem_flatMap.mp hmem
      obtain ⟨suffix, hsuffix, rfl⟩ := List.mem_map.mp hmem
      exact h s hs suffix hsuffix hname
  rw [(typeNames_perm promises services).nodup_iff, List.nodup_append', List.nodup_flatMap, hown, hapart,
    pairwise_disjoint_iff hservices]
  exact ⟨fun ⟨_, ⟨hclient, happart⟩, hshared⟩ => ⟨hclient, hshared, happart⟩,
    fun h => ⟨hshared, ⟨h.client, h.services⟩, h.shared⟩⟩

end Web

theorem webService_of_link {index : TypeIndex} {f : Schema.File} {s : File} (promises : Bool)
    (h : File.link index f = .ok s) :
    webService promises index f = .ok [
      ⟨SourcePath.modulePath f.name ++ "_service" ++ ".d.ts", render (Web.lines promises s)⟩,
      ⟨SourcePath.modulePath f.name ++ "_service" ++ ".js", render (WebScript.lines promises s)⟩] := by
  have hfiles : webService promises index f = .ok (webFiles promises s) := by
    rw [webService, h]
    rfl
  rw [hfiles, webFiles, (File.imports_of_link h).1]

/-- What is declared for a file depends on the names of its services and methods alone. -/
theorem declaredTypes_of_link {ds : List Descriptor.File} {files : List Schema.File} {index : TypeIndex}
    {f : Schema.File} {s : File} (hload : ds.mapM Schema.File.load = .ok files)
    (hindex : TypeIndex.ofFiles files = .ok index) (hf : f ∈ files) (htypes : ∀ g ∈ files, g.TypesNamed)
    (hnames : ∀ x ∈ f.services, x.Named) (h : File.link index f = .ok s) (promises : Bool) :
    declaredTypes (render (Web.lines promises s)) =
      Web.typeNames promises (f.services.map Schema.Service.names) := by
  obtain ⟨d, -, hd⟩ := (mem_results (mapM_eq_ok.mp hload)).mp hf
  have hexports := TypeIndex.named_exports hload hindex htypes
  rw [Web.declaredTypes_lines promises (File.named_of_link hexports hd (htypes f hf) hnames h),
    File.names_of_link h]

/-- A declaration of a client declares the types of its services, and no name twice just where these are apart. -/
theorem nodup_declaredTypes_iff {ds : List Descriptor.File} {files : List Schema.File} {index : TypeIndex}
    {promises : Bool} {f : Schema.File} {outputs : List OutputFile}
    (hload : ds.mapM Schema.File.load = .ok files) (hindex : TypeIndex.ofFiles files = .ok index)
    (hf : f ∈ files) (htypes : ∀ g ∈ files, g.TypesNamed) (hnames : ∀ x ∈ f.services, x.Named)
    (hservices : (f.services.map (·.name)).Nodup)
    (hmethods : ∀ x ∈ f.services, (x.methods.map (·.name)).Nodup)
    (h : webService promises index f = .ok outputs) :
    ∃ declaration script,
      outputs = [⟨SourcePath.modulePath f.name ++ "_service" ++ ".d.ts", declaration⟩,
        ⟨SourcePath.modulePath f.name ++ "_service" ++ ".js", script⟩] ∧
      declaredTypes declaration = Web.typeNames promises (f.services.map Schema.Service.names) ∧
      ((declaredTypes declaration).Nodup ↔ Web.TypesApart promises (f.services.map Schema.Service.names)) ∧
      ∀ mode, f.services ≠ [] →
        Service.files index { service := if promises then .grpcPromise else .grpcWeb, mode } f = .ok outputs := by
  have hall : ∀ x ∈ f.services.map Schema.Service.names, x.methods.Nodup ∧ "" ∉ x.methods := by
    rw [List.forall_mem_map]
    refine fun x hx => ⟨hmethods x hx, fun hmem => ?_⟩
    obtain ⟨m, hm, hempty⟩ := List.mem_map.mp hmem
    exact ((hnames x hx).methods m hm).1 hempty
  have hdistinct : ((f.services.map Schema.Service.names).map (·.name)).Nodup := by
    rw [List.map_map]
    exact hservices
  have hfiles (mode : Mode) (hsome : f.services ≠ []) :
      Service.files index { service := if promises then .grpcPromise else .grpcWeb, mode } f = .ok outputs := by
    rw [files_eq_webService rfl hsome, h]
  obtain ⟨s, hs, -⟩ := bind_eq_ok.mp h
  rw [webService_of_link promises hs, Except.ok.injEq] at h
  have htexts := declaredTypes_of_link hload hindex hf htypes hnames hs promises
  refine ⟨render (Web.lines promises s), render (WebScript.lines promises s), h.symm, htexts, ?_, hfiles⟩
  rw [htexts, Web.nodup_typeNames_iff promises hdistinct hall]

theorem talkFile_types :
    [talkDescriptor, answerFile].mapM Schema.File.load = .ok talkFiles ∧
      TypeIndex.ofFiles talkFiles = .ok talkIndex ∧ (∀ g ∈ talkFiles, g.TypesNamed) ∧
      (∀ x ∈ talkFile.services, x.Named) ∧ (talkFile.services.map (·.name)).Nodup ∧
      (∀ x ∈ talkFile.services, (x.methods.map (·.name)).Nodup) ∧
      ∃ declaration script, webService false talkIndex talkFile =
          .ok [⟨"a/talk_pb_service.d.ts", declaration⟩, ⟨"a/talk_pb_service.js", script⟩] ∧
        declaredTypes declaration = ["TalkAsk", "TalkListen", "TalkTell", "TalkChat", "Talk", "ServiceError",
          "Status", "UnaryResponse", "ResponseStream", "RequestStream", "BidirectionalStream", "TalkClient"] ∧
        (declaredTypes declaration).Nodup := by
  have hload : [talkDescriptor, answerFile].mapM Schema.File.load = .ok talkFiles := by rfl
  have hindex : TypeIndex.ofFiles talkFiles = .ok talkIndex := by rfl
  have htypes : ∀ g ∈ talkFiles, g.TypesNamed := by decide
  have hnames : ∀ x ∈ talkFile.services, x.Named := by decide
  have hservices : (talkFile.services.map (·.name)).Nodup := by decide
  have hmethods : ∀ x ∈ talkFile.services, (x.methods.map (·.name)).Nodup := by decide
  obtain ⟨outputs, houtputs⟩ : Succeeds (webService false talkIndex talkFile) := by decide
  obtain ⟨declaration, script, rfl, htexts, -, -⟩ :=
    nodup_declaredTypes_iff hload hindex List.mem_cons_self htypes hnames hservices hmethods houtputs
  refine ⟨hload, hindex, htypes, hnames, hservices, hmethods, declaration, script, houtputs, htexts, ?_⟩
  rw [htexts]
  decide

/-- Two services, and for a method of each a type of the same name. -/
def abcDescriptor : Descriptor.File where
  name := some "abc.proto"
  messages := [{ name := some "Note" }]
  services := [{
    name := some "A"
    methods := [{ name := some "BC", inputType := some ".Note", outputType := some ".Note" }] }, {
    name := some "AB"
    methods := [{ name := some "C", inputType := some ".Note", outputType := some ".Note" }] }]

def abcFile : Schema.File where
  name := "abc.proto"
  messages := [{ name := "Note", fullName := "Note" }]
  services := [
    { name := "A", fullName := "A", methods := [{ name := "BC", inputType := "Note", outputType := "Note" }] },
    { name := "AB", fullName := "AB", methods := [{ name := "C", inputType := "Note", outputType := "Note" }] }]

def abcIndex : TypeIndex where
  exports := [{ kind := .message, fullName := "Note", package := "", fileName := "abc.proto" }]

theorem abcFile_types :
    [abcDescriptor].mapM Schema.File.load = .ok [abcFile] ∧
      TypeIndex.ofFiles [abcFile] = .ok abcIndex ∧ abcFile.TypesNamed ∧
      (∀ x ∈ abcFile.services, x.Named) ∧ (abcFile.services.map (·.name)).Nodup ∧
      (∀ x ∈ abcFile.services, (x.methods.map (·.name)).Nodup) ∧
      ∀ promises, ∃ declaration script, webService promises abcIndex abcFile =
          .ok [⟨"abc_pb_service.d.ts", declaration⟩, ⟨"abc_pb_service.js", script⟩] ∧
        (declaredTypes declaration).take 4 = ["ABC", "A", "ABC", "AB"] ∧ ¬ (declaredTypes declaration).Nodup := by
  have hload : [abcDescriptor].mapM Schema.File.load = .ok [abcFile] := by rfl
  have hindex : TypeIndex.ofFiles [abcFile] = .ok abcIndex := by rfl
  have htypes : abcFile.TypesNamed := by decide
  have hnames : ∀ x ∈ abcFile.services, x.Named := by decide
  refine ⟨hload, hindex, htypes, hnames, by decide, by decide, fun promises => ?_⟩
  obtain ⟨s, hs⟩ : Succeeds (File.link abcIndex abcFile) := by decide
  have htexts := declaredTypes_of_link hload hindex List.mem_cons_self
    (List.forall_mem_singleton.mpr htypes) hnames hs promises
  refine ⟨render (Web.lines promises s), render (WebScript.lines promises s),
    webService_of_link promises hs, ?_, ?_⟩
  · rw [htexts]
    rfl
  · rw [htexts]
    cases promises <;> decide

end Service

end ProtoStubs

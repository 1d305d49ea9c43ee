import Mathlib.Data.List.Induction
import ProtoStubs.Proofs.Redirection
import ProtoStubs.Proofs.TopLines

/-!
# The imports of a declaration

A declaration imports all declared dependencies of its file, and after them each other file that it refers
to, once and in the order of the first reference. So every type that is printed is declared in the file
itself, and goes by its bare name, or in an imported one, and goes by its name there.
-/

namespace ProtoStubs

namespace Schema

def Field.referent? (index : TypeIndex) (f : Field) : Option Export :=
  f.reference?.bind fun r => index.find? r.1 r.2

mutual

/-- The fields that a message shows: its own, those of the messages nested in it, and its extensions. -/
def Message.shown (index : TypeIndex) : Message → List Field
  | ⟨_, _, fields, nested, _, _, extensions, isMapEntry⟩ =>
    if isMapEntry then []
    else fields.flatMap (Field.shown index) ++ shownInMessages index nested ++ extensions

def shownInMessages (index : TypeIndex) : List Message → List Field
  | [] => []
  | m :: rest => m.shown index ++ shownInMessages index rest

end

theorem shownInMessages_eq_flatMap (index : TypeIndex) (ms : List Message) :
    shownInMessages index ms = ms.flatMap (Message.shown index) := by
  induction ms with
  | nil => rfl
  | cons m rest ih => simp [shownInMessages, ih]

theorem Message.shown_eq (index : TypeIndex) (m : Message) :
    m.shown index =
      if m.isMapEntry then []
      else m.fields.flatMap (Field.shown index) ++ m.nested.flatMap (Message.shown index) ++
        m.extensions := by
  cases m
  simp only [Message.shown, shownInMessages_eq_flatMap]

def File.shown (index : TypeIndex) (f : File) : List Field :=
  f.messages.flatMap (Message.shown index) ++ f.extensions

def File.references (index : TypeIndex) (f : File) : List Export :=
  (f.shown index).filterMap (Field.referent? index)

/-- The files that a file refers to without naming them as dependencies, each once and in the order of
the first reference. -/
def File.otherFiles (index : TypeIndex) (f : File) : List String :=
  ((f.references index).map (·.fileName)).eraseDups.filter fun g => g ≠ f.name ∧ g ∉ f.dependencies

end Schema

theorem foreignFiles_eq (viewer : String) (files : List String) :
    foreignFiles viewer files = files.eraseDups.filter (· ≠ viewer) := by
  induction files using List.reverseRecOn with
  | nil => rfl
  | append_singleton files file ih =>
    have hstep : foreignFiles viewer (files ++ [file]) =
        noteFile viewer (foreignFiles viewer files) file := by
      simp [foreignFiles]
    have hmem : file ∈ files.eraseDups.filter (· ≠ viewer) ↔ file ∈ files ∧ file ≠ viewer := by
      rw [List.mem_filter, List.mem_eraseDups, decide_eq_true_iff]
    rw [hstep, noteFile, ih, eraseDups_concat]
    simp only [hmem]
    by_cases hfile : file ∈ files
    · have hseen : file = viewer ∨ file ∈ files ∧ file ≠ viewer := by tauto
      rw [if_pos hseen, if_pos hfile]
    · rw [if_neg hfile, List.filter_append]
      by_cases hviewer : file = viewer
      · simp [hviewer]
      · simp [hviewer, hfile]

theorem TypeExpr.origin?_toList (t : TypeExpr) :
    t.origin?.toList = t.target?.toList.map (·.fileName) := by
  cases t <;> rfl

namespace Declaration

variable {index : TypeIndex} {viewer : String}

section Origins

theorem PropertyType.origins_eq (t : PropertyType) :
    t.origins = t.targets.map (·.fileName) := by
  cases t <;> simp [origins, targets, TypeExpr.origin?_toList]

theorem Message.origins_eq_flatMap (m : Message) :
    m.origins = m.properties.flatMap (·.type.origins) ++
      m.nested.flatMap Message.origins ++ m.extensions.flatMap (·.type.origin?.toList) := by
  cases m
  simp only [Message.origins, originsOfMessages_eq_flatMap]

theorem Message.origins_eq (m : Message) : m.origins = m.targets.map (·.fileName) := by
  induction m using Message.induct with
  | step m ih =>
    have hnested : m.nested.flatMap Message.origins =
        m.nested.flatMap fun n => n.targets.map (·.fileName) := List.flatMap_congr ih
    rw [Message.origins_eq_flatMap, hnested, Message.targets_eq]
    simp [List.map_flatMap, PropertyType.origins_eq, TypeExpr.origin?_toList]

theorem File.origins_eq (f : File) : f.origins = f.targets.map (·.fileName) := by
  have hmessages : f.messages.flatMap Message.origins =
      f.messages.flatMap fun m => m.targets.map (·.fileName) :=
    List.flatMap_congr fun m _ => m.origins_eq
  rw [File.origins, File.targets, originsOfMessages_eq_flatMap, hmessages]
  simp [List.map_flatMap, TypeExpr.origin?_toList]

end Origins

section Linked

open Schema (Field.referent?)

theorem Property.targets_of_link {f : Schema.Field} {p : Property}
    (h : Property.link index viewer f = .ok p) :
    p.type.targets = (f.shown index).filterMap (Field.referent? index) := by
  unfold Property.link at h
  cases hf : f.isMap with
  | true =>
    rw [if_pos hf] at h
    obtain ⟨type, htype, h⟩ := bind_eq_ok.mp h
    cases pure_eq_ok.mp h
    obtain ⟨e, he, htype⟩ := bind_eq_ok.mp htype
    obtain ⟨pair, hpair, htype⟩ := bind_eq_ok.mp htype
    obtain ⟨key, hkey, htype⟩ := bind_eq_ok.mp htype
    obtain ⟨value, hvalue, htype⟩ := bind_eq_ok.mp htype
    cases pure_eq_ok.mp htype
    rw [Schema.Field.shown_of_pair hf (TypeIndex.resolve_eq_ok.mp he) (require_eq_ok.mp hpair)]
    have hkey : key.target? = Field.referent? index pair.key := TypeExpr.ofField_eq_ok hkey
    have hvalue : value.target? = Field.referent? index pair.value := TypeExpr.ofField_eq_ok hvalue
    rw [PropertyType.targets, hkey, hvalue]
    cases h₁ : Field.referent? index pair.key <;> cases h₂ : Field.referent? index pair.value <;>
      simp [h₁, h₂]
  | false =>
    rw [if_neg (by simp [hf])] at h
    obtain ⟨type, htype, h⟩ := bind_eq_ok.mp h
    cases pure_eq_ok.mp h
    have htype : type.target? = Field.referent? index f := TypeExpr.ofField_eq_ok htype
    rw [Schema.Field.shown_of_not_isMap hf, PropertyType.targets, htype]
    cases h₁ : Field.referent? index f <;> simp [h₁]

theorem Extension.targets_of_link {fs : List Schema.Field} {xs : List Extension}
    (h : fs.mapM (Extension.link index viewer) = .ok xs) :
    xs.flatMap (·.type.target?.toList) = fs.filterMap (Field.referent? index) := by
  rw [List.filterMap_eq_flatMap_toList]
  apply flatMap_related (mapM_eq_ok.mp h)
  intro f _ x hx
  obtain ⟨type, htype, hx⟩ := bind_eq_ok.mp hx
  cases pure_eq_ok.mp hx
  rw [TypeExpr.ofField_eq_ok htype]
  rfl

theorem targets_of_linkMessages {ms : List Schema.Message} {linked : List Message}
    (hlink : linkMessages index viewer ms = .ok linked)
    (h : ∀ m ∈ ms, ∀ m', Message.link index viewer m = .ok m' → m.isMapEntry = false →
      m'.targets = (m.shown index).filterMap (Field.referent? index)) :
    linked.flatMap Message.targets =
      (ms.flatMap (Schema.Message.shown index)).filterMap (Field.referent? index) := by
  have hpairs : ms.flatMap (Schema.Message.shown index) =
      (ms.filter fun m => !m.isMapEntry).flatMap (Schema.Message.shown index) := by
    clear hlink h
    induction ms with
    | nil => rfl
    | cons m ms ih =>
      cases hm : m.isMapEntry with
      | true => simp [hm, ih, m.shown_eq]
      | false => simp [hm, ih]
  rw [linkMessages_eq_mapM] at hlink
  rw [hpairs, List.filterMap_flatMap]
  apply flatMap_related (mapM_eq_ok.mp hlink)
  intro m hm m' hm'
  obtain ⟨hm, hpair⟩ := List.mem_filter.mp hm
  exact h m hm m' hm' (by simpa using hpair)

theorem Message.targets_of_link {m : Schema.Message} {m' : Message}
    (h : Message.link index viewer m = .ok m') (hm : m.isMapEntry = false) :
    m'.targets = (m.shown index).filterMap (Field.referent? index) := by
  induction m using Schema.Message.induct generalizing m' with
  | step m ih =>
    rw [Message.link_eq] at h
    obtain ⟨properties, hproperties, h⟩ := bind_eq_ok.mp h
    obtain ⟨nested, hnested, h⟩ := bind_eq_ok.mp h
    obtain ⟨extensions, hextensions, h⟩ := bind_eq_ok.mp h
    cases pure_eq_ok.mp h
    have hfields := flatMap_related (mapM_eq_ok.mp hproperties) fun f _ p hp =>
      Property.targets_of_link hp
    have hmessages := targets_of_linkMessages hnested fun n hn n' hn' hpair => ih n hn hn' hpair
    rw [Message.targets_eq, hfields, hmessages, Extension.targets_of_link hextensions, m.shown_eq, hm,
      if_neg Bool.false_ne_true]
    simp only [List.filterMap_append, List.filterMap_flatMap]

theorem File.targets_of_link {f : Schema.File} {d : File} (h : File.link index f = .ok d) :
    d.targets = f.references index := by
  obtain ⟨messages, hmessages, h⟩ := bind_eq_ok.mp h
  obtain ⟨extensions, hextensions, h⟩ := bind_eq_ok.mp h
  cases pure_eq_ok.mp h
  have htypes := targets_of_linkMessages hmessages fun m _ m' hm' hpair =>
    Message.targets_of_link hm' hpair
  rw [File.targets, htypes, Extension.targets_of_link hextensions, Schema.File.references,
    Schema.File.shown, List.filterMap_append]

end Linked

theorem File.link_name {f : Schema.File} {d : File} (h : File.link index f = .ok d) :
    d.name = f.name ∧ d.package = f.package ∧ d.dialect = f.dialect ∧
      d.dependencies = f.dependencies ∧ d.enums = f.enums := by
  obtain ⟨messages, -, h⟩ := bind_eq_ok.mp h
  obtain ⟨extensions, -, h⟩ := bind_eq_ok.mp h
  cases pure_eq_ok.mp h
  exact ⟨rfl, rfl, rfl, rfl, rfl⟩

theorem File.imports_of_link {f : Schema.File} {d : File} (h : File.link index f = .ok d) :
    d.imports = f.dependencies ++ f.otherFiles index := by
  obtain ⟨hname, -, -, hdependencies, -⟩ := File.link_name h
  rw [File.imports, File.origins_eq, foreignFiles_eq, File.targets_of_link h, hname, hdependencies,
    List.filter_filter, Schema.File.otherFiles]
  apply congrArg
  apply List.filter_congr
  intro g _
  rw [Bool.eq_iff_iff]
  simp [and_comm]

theorem referent?_eq_some {g : Schema.Field} {e : Export} (h : g.referent? index = some e) :
    index.find? e.kind e.fullName = some e := by
  obtain ⟨r, -, he⟩ := Option.bind_eq_some_iff.mp h
  obtain ⟨-, hkind, hname⟩ := TypeIndex.mem_of_find? he
  rw [hkind, hname]
  exact he

theorem mem_otherFiles {f : Schema.File} {g : String} :
    g ∈ f.otherFiles index ↔
      g ≠ f.name ∧ g ∉ f.dependencies ∧ ∃ e ∈ f.references index, e.fileName = g := by
  simp only [Schema.File.otherFiles, List.mem_filter, List.mem_eraseDups, List.mem_map,
    decide_eq_true_iff]
  tauto

def preamble (f : Schema.File) : List Line := [
  Layout.line ("// package: " ++ f.package), Layout.line ("// file: " ++ f.name), .blank,
  Layout.line "import * as jspb from \"google-protobuf\";"]

section Body

open Layout

theorem render_line (content : String) : (line content).render = content ++ "\n" := by
  rw [line, Line.render]
  exact congrArg (· ++ "\n") String.empty_append

theorem lacks_import_classLines (dialect : Schema.Dialect) (viewer name : String)
    (properties : List Property) (oneofs : List Oneof) :
    Lacks isImport (classLines dialect viewer name properties oneofs) := by
  rw [classLines, String.append_assoc]
  exact lacks_import_braced rfl _ _ _

theorem Message.lacks_import_lines (dialect : Schema.Dialect) (viewer : String) (m : Message) :
    Lacks isImport (m.lines dialect viewer) := by
  rw [Message.lines_eq, String.append_assoc]
  simp only [lacks_append]
  exact ⟨⟨⟨lacks_blank _, lacks_import_classLines _ _ _ _ _⟩, lacks_blank _⟩,
    lacks_import_braced rfl _ _ _⟩

theorem Extension.lacks_import_lines (viewer : String) (x : Extension) :
    Lacks isImport (x.lines viewer) := by
  refine lacks_append.mpr ⟨lacks_blank _, List.forall_mem_singleton.mpr ?_⟩
  change isImport (x.constant.render viewer) = false
  rw [constant, List.cons_append, Phrase.render_cons, Piece.render, String.append_assoc,
    String.append_assoc]
  exact not_isImport rfl _

theorem lacks_import_enumLines (e : Schema.Enum) : Lacks isImport (enumLines e) := by
  have hconst : Lacks isImport [.blank, line ("export const " ++ e.name ++ ": " ++ e.name ++ "Map;")] := by
    refine lacks_append.mpr ⟨lacks_blank _, List.forall_mem_singleton.mpr ?_⟩
    simp only [String.append_assoc]
    exact not_isImport rfl _
  simp only [enumLines, String.append_assoc] at hconst ⊢
  exact lacks_append.mpr ⟨lacks_append.mpr ⟨lacks_blank _, lacks_import_braced rfl _ _ _⟩, hconst⟩

theorem File.lacks_import_bodyLines (d : File) : Lacks isImport d.bodyLines := by
  simp only [bodyLines, linesOfMessages_eq_flatMap, lacks_append]
  refine ⟨⟨⟨?_, ?_⟩, ?_⟩, lacks_blank _⟩
  · exact Lacks.flatMap fun m _ => m.lacks_import_lines d.dialect d.name
  · exact Lacks.flatMap fun x _ => x.lacks_import_lines d.name
  · exact Lacks.flatMap fun e _ => lacks_import_enumLines e

end Body

/-- What a piece of a line spells if its type goes by a name. -/
def Piece.spelling (name : String) : Piece → String
  | .text content => content
  | .type (.scalar s) | .object (.scalar s) => s.text
  | .type (.message _) => name
  | .object (.message _) => name ++ ".AsObject"
  | .type (.enum _) | .object (.enum _) => name ++ "Map[keyof " ++ name ++ "Map]"

theorem Piece.render_eq_spelling {piece : Piece} {e : Export} (h : piece.target? = some e)
    (viewer : String) : piece.render viewer = piece.spelling (e.reference viewer) := by
  cases piece with
  | text content => cases h
  | type shown | object shown =>
    cases shown with
    | scalar type => cases h
    | message target | enum target =>
      cases h
      rfl

theorem Row.render_of_piece {r : Row} {front back : Phrase} {piece : Piece} {e : Export}
    (hr : r.content = .phrase (front ++ piece :: back)) (he : piece.target? = some e) (viewer : String) :
    (r.line viewer).render = Line.indentation r.place.depth ++ front.render viewer ++
      piece.spelling (e.reference viewer) ++ back.render viewer ++ "\n" := by
  rw [Row.line, hr, Content.line, Line.indentBy, Line.render, Phrase.render_append, Phrase.render_cons,
    Piece.render_eq_spelling he, Nat.add_zero]
  simp only [String.append_assoc]

/-- The name of a type of the index in a file: bare in its own file, and under the import of its file in
all others. -/
def GoesBy (index : TypeIndex) (f : Schema.File) (e : Export) (name : String) : Prop :=
  index.find? e.kind e.fullName = some e ∧
    (e.fileName = f.name ∧ name = e.localName ∨
      e.fileName ≠ f.name ∧ e.fileName ∈ f.dependencies ++ f.otherFiles index ∧
        name = SourcePath.namespaceName e.fileName ++ "." ++ e.localName)

theorem goesBy_reference {f : Schema.File} {e : Export} (h : e ∈ f.references index) :
    GoesBy index f e (e.reference f.name) := by
  obtain ⟨g, -, hg⟩ := List.mem_filterMap.mp h
  refine ⟨referent?_eq_some hg, ?_⟩
  by_cases hown : e.fileName = f.name
  · exact .inl ⟨hown, if_pos hown⟩
  · refine .inr ⟨hown, ?_, if_neg hown⟩
    rw [List.mem_append, or_iff_not_imp_left]
    exact fun hdep => mem_otherFiles.mpr ⟨hown, hdep, e, h, rfl⟩

theorem File.render_lines_of_link {f : Schema.File} {d : File} (h : File.link index f = .ok d) :
    Layout.render d.lines =
      "// package: " ++ f.package ++ "\n" ++ "// file: " ++ f.name ++ "\n" ++ "\n" ++
        "import * as jspb from \"google-protobuf\";\n" ++
        String.join ((f.dependencies ++ f.otherFiles index).map fun g =>
          "import * as " ++ SourcePath.namespaceName g ++ " from \"" ++ SourcePath.importPath f.name g ++
            "\";\n") ++
        String.join (d.rows.map fun r => (r.line f.name).render) := by
  obtain ⟨hname, hpackage, -, -, -⟩ := File.link_name h
  rw [← hname, ← hpackage, ← File.imports_of_link h]
  have himport (g : String) : (Layout.line (importLine d.name g)).render =
      "import * as " ++ SourcePath.namespaceName g ++ " from \"" ++ SourcePath.importPath d.name g ++
        "\";\n" := by
    rw [render_line, importLine, String.append_assoc]
    rfl
  simp only [File.lines, File.headLines, ← File.rows_lines, Layout.render, List.map_append, List.map_map,
    List.map_cons, List.map_nil, String.join_append, String.join_cons, String.join_nil, render_line,
    Function.comp_def, himport]
  simp only [String.append_assoc, Line.render]
  rfl

/-- The imports of a declaration are complete, and they hold nothing that is neither declared nor
printed. Each type is printed under the name it goes by; the text around it, and that of all other rows, does
not depend on what is referred to. -/
theorem text_imports {index : TypeIndex} {f : Schema.File} {t : String} (h : text index f = .ok t) :
    ∃ d, File.link index f = .ok d ∧
      t = "// package: " ++ f.package ++ "\n" ++ "// file: " ++ f.name ++ "\n" ++ "\n" ++
        "import * as jspb from \"google-protobuf\";\n" ++
        String.join ((f.dependencies ++ f.otherFiles index).map fun g =>
          "import * as " ++ SourcePath.namespaceName g ++ " from \"" ++ SourcePath.importPath f.name g ++
            "\";\n") ++
        String.join (d.rows.map fun r => (r.line f.name).render) ∧
      Layout.Lacks Layout.isImport (d.rows.map (Row.line f.name)) ∧
      (∀ e, (∃ r ∈ d.rows, e ∈ r.targets) ↔ e ∈ f.references index) ∧
      (∀ r ∈ d.rows, ∀ front piece back e, r.content = .phrase (front ++ piece :: back) →
        piece.target? = some e → ∃ name, GoesBy index f e name ∧
          (r.line f.name).render = Line.indentation r.place.depth ++ Phrase.render f.name front ++
            piece.spelling name ++ Phrase.render f.name back ++ "\n") ∧
      (∀ ρ, (d.redirect ρ).rows = d.rows.map (Row.redirect ρ)) ∧
      (f.otherFiles index).Nodup ∧
      ∀ g ∈ f.otherFiles index, g ≠ f.name ∧ g ∉ f.dependencies ∧
        ∃ r ∈ d.rows, ∃ e ∈ r.targets, e.fileName = g := by
  obtain ⟨d, hd, h⟩ := bind_eq_ok.mp h
  cases pure_eq_ok.mp h
  have hrows : d.rows.map (Row.line f.name) = d.bodyLines := by
    rw [← (File.link_name hd).1]
    exact d.rows_lines
  have hprints (e : Export) : (∃ r ∈ d.rows, e ∈ r.targets) ↔ e ∈ f.references index := by
    rw [← File.targets_of_link hd]
    exact File.prints_rows
  refine ⟨d, hd, File.render_lines_of_link hd, ?body, hprints, ?names, fun ρ => d.rows_redirect ρ, ?nodup,
    ?needed⟩
  case body =>
    rw [hrows]
    exact d.lacks_import_bodyLines
  case names =>
    intro r hr front piece back e hcontent he
    have htarget : e ∈ r.targets := by
      simp only [Row.targets, hcontent, Phrase.targets, List.mem_filterMap]
      exact ⟨piece, by simp, he⟩
    exact ⟨_, goesBy_reference ((hprints e).mp ⟨r, hr, htarget⟩), Row.render_of_piece hcontent he f.name⟩
  case nodup => exact (nodup_eraseDups _).filter _
  case needed =>
    intro g hg
    obtain ⟨hown, hdep, e, href, he⟩ := mem_otherFiles.mp hg
    obtain ⟨r, hr, her⟩ := (hprints e).mpr href
    exact ⟨hown, hdep, r, hr, e, her, he⟩

/-- A file with a message of its own and a message of a file that is no dependency. -/
def mixedFile : Schema.File where
  name := "a.proto"
  package := "p"
  dependencies := ["c.proto"]
  messages := [{
    name := "A"
    fullName := "p.A"
    fields := [
      { name := "own", number := 1, type := .message, typeName := "p.A" },
      { name := "other", number := 2, type := .message, typeName := "q.B" }] }]

def mixedIndex : TypeIndex where
  exports := [
    { kind := .message, fullName := "p.A", package := "p", fileName := "a.proto" },
    { kind := .message, fullName := "q.B", package := "q", fileName := "b.proto" }]

theorem mixedFile_text : ∃ t d, text mixedIndex mixedFile = .ok t ∧
    File.link mixedIndex mixedFile = .ok d ∧
    mixedFile.dependencies ++ mixedFile.otherFiles mixedIndex = ["c.proto", "b.proto"] ∧
    ∃ r ∈ d.rows, ∃ e ∈ r.targets, e.fileName = "b.proto" := by
  obtain ⟨t, ht⟩ : Succeeds (text mixedIndex mixedFile) := by decide
  obtain ⟨d, hd, -, -, -, -, -, -, hneeded⟩ := text_imports ht
  have hother : mixedFile.otherFiles mixedIndex = ["b.proto"] := by decide
  have hb : "b.proto" ∈ mixedFile.otherFiles mixedIndex := by
    rw [hother]
    exact List.mem_singleton_self _
  refine ⟨t, d, ht, hd, ?_, (hneeded _ hb).2.2⟩
  rw [hother]
  rfl

end Declaration

end ProtoStubs

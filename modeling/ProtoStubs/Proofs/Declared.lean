import ProtoStubs.Proofs.Imports
import ProtoStubs.Proofs.ReadRows
import ProtoStubs.Proofs.Visible

/-!
# What a declaration declares

Read back, a declaration has a class for each visible message of its file and an interface for each visible
enumeration, under the local names of their exports.
-/

namespace ProtoStubs

open Text (Dotted Flat IsPath flat_append NameChars)

namespace Schema

theorem dotted_qualify {scope name : String} (hscope : Dotted scope) (hname : Dotted name) :
    Dotted (qualify scope name) := by
  unfold qualify
  split
  · exact hname
  · intro c hc
    rw [String.toList_append, String.toList_append, List.mem_append, List.mem_append] at hc
    rcases hc with (hc | hc) | hc
    · exact hscope c hc
    · exact .inr (List.mem_singleton.mp hc)
    · exact hname c hc

theorem dotted_qualifyAll {pkg : String} {path : List String} (hpkg : Dotted pkg)
    (hpath : ∀ name ∈ path, Dotted name) : Dotted (qualifyAll pkg path) := by
  induction path generalizing pkg with
  | nil => exact hpkg
  | cons name path ih =>
    rw [List.forall_mem_cons] at hpath
    exact ih (dotted_qualify hpkg hpath.1) hpath.2

theorem File.dotted_fullName {d : Descriptor.File} {f : File} (h : File.load d = .ok f)
    (hnames : f.TypesNamed) :
    (∀ m ∈ f.allMessages, Dotted m.fullName) ∧ ∀ e ∈ f.allEnums, Dotted e.fullName := by
  have hload := File.loadedFrom h
  have hpackage : Dotted f.package := hnames.package.dotted
  have hmessages : ∀ m ∈ f.allMessages, Dotted m.fullName ∧ ∀ e ∈ m.enums, Dotted e.fullName := by
    intro m hm
    rw [← File.located_messages] at hm
    obtain ⟨p, hp, rfl⟩ := List.mem_map.mp hm
    have hpath : ∀ name ∈ p.1 ++ [p.2.name], Dotted name := fun name hname =>
      (File.isName_of_located hnames.messages hp name hname).dotted
    have hfull := File.fullName_of_located h hp
    refine ⟨hfull.1 ▸ dotted_qualifyAll hpackage hpath, ?_⟩
    intro e he
    have hown := (hnames.messages _ (File.mem_allMessages_of_located hp)).enums e he
    rw [hfull.2 e he, qualifyAll_concat]
    exact dotted_qualify (dotted_qualifyAll hpackage hpath) hown.name.dotted
  refine ⟨fun m hm => (hmessages m hm).1, ?_⟩
  intro e he
  rcases File.mem_allEnums.mp he with ⟨m, hm, he⟩ | he
  · exact (hmessages m hm).2 e he
  · have hename := (hnames.enums e he).name.dotted
    rw [hload.enums] at he
    obtain ⟨x, -, rfl⟩ := List.mem_map.mp he
    exact dotted_qualify (hload.package ▸ hpackage) hename

end Schema

section Index

variable {ds : List Descriptor.File} {files : List Schema.File} {index : TypeIndex}

theorem TypeIndex.named_exports (hload : ds.mapM Schema.File.load = .ok files)
    (hindex : TypeIndex.ofFiles files = .ok index) (hnames : ∀ f ∈ files, f.TypesNamed) :
    ∀ e ∈ index.exports, Dotted e.fullName ∧ IsPath e.fileName := by
  intro e he
  rcases (TypeIndex.mem_exports hindex).mp he with ⟨f, hf, m, hm, hem⟩ | ⟨f, hf, x, hx, rfl⟩
  · obtain ⟨d, -, hdf⟩ := (mem_results (mapM_eq_ok.mp hload)).mp hf
    obtain ⟨-, hfull, -, hfile, -⟩ := Export.ofMessage_eq_ok hem
    rw [hfull, hfile]
    exact ⟨(Schema.File.dotted_fullName hdf (hnames f hf)).1 m hm, (hnames f hf).name⟩
  · obtain ⟨d, -, hdf⟩ := (mem_results (mapM_eq_ok.mp hload)).mp hf
    exact ⟨(Schema.File.dotted_fullName hdf (hnames f hf)).2 x hx, (hnames f hf).name⟩

theorem TypeIndex.flat_names (hload : ds.mapM Schema.File.load = .ok files)
    (hindex : TypeIndex.ofFiles files = .ok index) (hnames : ∀ f ∈ files, f.Named) :
    ∀ e ∈ index.exports, Flat e.fullName ∧ Flat e.fileName := fun e he =>
  have hnamed := TypeIndex.named_exports hload hindex (fun f hf => (hnames f hf).typesNamed) e he
  ⟨hnamed.1.flat, hnamed.2.flat⟩

theorem Export.flat_reference {e : Export} (hname : Flat e.fullName) (hfile : Flat e.fileName)
    (viewer : String) : Flat (e.reference viewer) := by
  have hlocal : Flat e.localName := Identifier.flat_withinPackage hname
  have hnamespace := SourcePath.flat_namespaceName hfile
  unfold Export.reference
  split
  · exact hlocal
  · simp +decide only [Export.namespacedName, flat_append, hnamespace, hlocal]

end Index

namespace Declaration

variable {index : TypeIndex} {viewer : String} {dialect : Schema.Dialect} {scope : List String}

theorem Property.field_of_link {f : Schema.Field} {p : Property}
    (h : Property.link index viewer f = .ok p) : p.field = f := by
  unfold Property.link at h
  split at h
  · obtain ⟨type, -, h⟩ := bind_eq_ok.mp h
    cases pure_eq_ok.mp h
    rfl
  · obtain ⟨type, -, h⟩ := bind_eq_ok.mp h
    cases pure_eq_ok.mp h
    rfl

theorem Property.mem_exports_of_link {f : Schema.Field} {p : Property}
    (h : Property.link index viewer f = .ok p) : ∀ e ∈ p.type.targets, e ∈ index.exports := by
  intro e he
  rw [Property.targets_of_link h] at he
  obtain ⟨g, -, hg⟩ := List.mem_filterMap.mp he
  exact (TypeIndex.mem_of_find? (referent?_eq_some hg)).1

theorem Extension.mem_exports_of_link {f : Schema.Field} {x : Extension}
    (h : Extension.link index viewer f = .ok x) :
    x.field = f ∧ ∀ e, x.type.target? = some e → e ∈ index.exports := by
  obtain ⟨type, htype, h⟩ := bind_eq_ok.mp h
  cases pure_eq_ok.mp h
  refine ⟨rfl, ?_⟩
  intro e he
  rw [TypeExpr.ofField_eq_ok htype] at he
  exact (TypeIndex.mem_of_find? (referent?_eq_some he)).1

theorem Property.flat_of_link (hindex : ∀ e ∈ index.exports, Text.Flat (e.reference viewer))
    {f : Schema.Field} {p : Property} (h : Property.link index viewer f = .ok p)
    (hname : NameChars f.name) : p.Flat viewer where
  name := by
    rw [Property.field_of_link h]
    exact hname
  targets := fun e he => hindex e (Property.mem_exports_of_link h e he)

theorem Extension.declares_of_link (hindex : ∀ e ∈ index.exports, Flat (e.reference viewer))
    {f : Schema.Field} {x : Extension} (h : Extension.link index viewer f = .ok x)
    (hname : NameChars f.name) : Declares viewer scope (x.rows scope) [] [] := by
  obtain ⟨hfield, hexports⟩ := Extension.mem_exports_of_link h
  exact Extension.declares (hfield ▸ hname) fun e he => hindex e (hexports e he)

theorem mem_realOneofs {oneofs : List String} {fields : List Schema.Field} {o : Oneof}
    (h : o ∈ realOneofs oneofs fields) : o.name ∈ oneofs ∧ ∀ f ∈ o.members, f ∈ fields := by
  obtain ⟨p, hp, ho⟩ := List.mem_filterMap.mp h
  obtain ⟨name, i⟩ := p
  simp only at ho
  split at ho
  · cases ho
  · cases ho
    refine ⟨(List.mem_zipIdx hp).2.2 ▸ List.getElem_mem _, ?_⟩
    intro f hf
    exact (List.mem_filter.mp (List.mem_filter.mp hf).1).1

theorem nameChars_realOneofs {m : Schema.Message} (h : m.Named) :
    ∀ o ∈ realOneofs m.oneofs m.fields, NameChars o.name ∧ ∀ f ∈ o.members, NameChars f.name := by
  intro o ho
  obtain ⟨hname, hmembers⟩ := mem_realOneofs ho
  exact ⟨(h.oneofs _ hname).2, fun f hf => (h.fields f (hmembers f hf)).2⟩

def headingIn (scope : List String) (name : String) : Heading := ⟨scope ++ [name], 2 * scope.length⟩

def classHeading (p : List String × Schema.Message) : Heading := headingIn p.1 p.2.name

def enumHeadings (p : List String × Schema.Message) : List Heading :=
  p.2.enums.map fun e => headingIn (p.1 ++ [p.2.name]) e.name

theorem declares_linkMessages {ms : List Schema.Message} {linked : List Message}
    (hlink : linkMessages index viewer ms = .ok linked)
    (h : ∀ m ∈ ms, ∀ m', Message.link index viewer m = .ok m' → m.isMapEntry = false →
      Declares viewer scope (m'.rows dialect scope) ((m.visible scope).map classHeading)
        ((m.visible scope).flatMap enumHeadings)) :
    Declares viewer scope (linked.flatMap (Message.rows dialect scope))
      ((ms.flatMap (Schema.Message.visible scope)).map classHeading)
      ((ms.flatMap (Schema.Message.visible scope)).flatMap enumHeadings) := by
  induction ms generalizing linked with
  | nil =>
    cases pure_eq_ok.mp hlink
    exact .nil
  | cons m ms ih =>
    rw [List.forall_mem_cons] at h
    cases hm : m.isMapEntry with
    | true =>
      rw [linkMessages, if_pos hm] at hlink
      have hnone : m.visible scope = [] := by rw [Schema.Message.visible_eq, if_pos hm]
      rw [List.flatMap_cons, hnone, List.nil_append]
      exact ih hlink h.2
    | false =>
      rw [linkMessages, hm, if_neg Bool.false_ne_true] at hlink
      obtain ⟨m', hm', hlink⟩ := bind_eq_ok.mp hlink
      obtain ⟨rest, hrest, hlink⟩ := bind_eq_ok.mp hlink
      cases pure_eq_ok.mp hlink
      rw [List.flatMap_cons, List.flatMap_cons, List.map_append, List.flatMap_append]
      exact (h.1 m' hm' hm).append (ih hrest h.2)

theorem declares_enums {enums : List Schema.Enum} (h : ∀ e ∈ enums, e.Named) :
    Declares viewer scope (rowsAt (.inNamespace scope) (enums.flatMap enumLines)) []
      (enums.map fun e => headingIn scope e.name) := by
  induction enums with
  | nil => exact .nil
  | cons e enums ih =>
    rw [List.forall_mem_cons] at h
    rw [List.flatMap_cons, rowsAt_append]
    exact (declares_enum h.1.name.2 fun v hv => (h.1.values v hv).2).append (ih h.2)

theorem declares_oneofs {oneofs : List Oneof}
    (h : ∀ o ∈ oneofs, NameChars o.name ∧ ∀ f ∈ o.members, NameChars f.name) :
    Declares viewer scope (rowsAt (.inNamespace scope) (oneofs.flatMap Oneof.lines)) [] [] := by
  rw [rowsAt, List.map_flatMap]
  exact Declares.flatMap_nothing fun o ho => declares_oneof (h o ho).1 (h o ho).2

theorem declares_extensions (hindex : ∀ e ∈ index.exports, Flat (e.reference viewer))
    {fs : List Schema.Field} {xs : List Extension}
    (hlink : fs.mapM (Extension.link index viewer) = .ok xs) (h : ∀ f ∈ fs, Text.IsName f.name) :
    Declares viewer scope (xs.flatMap (Extension.rows scope)) [] [] := by
  apply Declares.flatMap_nothing
  intro x hx
  obtain ⟨f, hf, hfx⟩ := (mem_results (mapM_eq_ok.mp hlink)).mp hx
  exact Extension.declares_of_link hindex hfx (h f hf).2

/-- The rows of a message declare it and the visible messages nested in it. -/
theorem Message.declares (hindex : ∀ e ∈ index.exports, Flat (e.reference viewer))
    {m : Schema.Message} {m' : Message} (hlink : Message.link index viewer m = .ok m')
    (hm : m.isMapEntry = false) (hnames : ∀ n ∈ m.withNested, n.Named) :
    Declares viewer scope (m'.rows dialect scope) ((m.visible scope).map classHeading)
      ((m.visible scope).flatMap enumHeadings) := by
  induction m using Schema.Message.induct generalizing m' scope with
  | step m ih =>
    have hown := hnames m m.mem_withNested_self
    rw [Message.link_eq] at hlink
    obtain ⟨properties, hproperties, hlink⟩ := bind_eq_ok.mp hlink
    obtain ⟨nested, hnested, hlink⟩ := bind_eq_ok.mp hlink
    obtain ⟨extensions, hextensions, hlink⟩ := bind_eq_ok.mp hlink
    cases pure_eq_ok.mp hlink
    have hflat : ∀ p ∈ properties, p.Flat viewer := by
      intro p hp
      obtain ⟨f, hf, hfp⟩ := (mem_results (mapM_eq_ok.mp hproperties)).mp hp
      exact Property.flat_of_link hindex hfp (hown.fields f hf).2
    have honeofs := nameChars_realOneofs hown
    have hnestedNames : ∀ n ∈ m.nested, ∀ k ∈ n.withNested, k.Named :=
      fun n hn k hk => hnames k (Schema.Message.withNested_subset hn hk)
    have hmessages : Declares viewer (scope ++ [m.name])
        (nested.flatMap (Message.rows dialect (scope ++ [m.name]))) _ _ :=
      declares_linkMessages hnested fun n hn n' hn' hpair => ih n hn hn' hpair (hnestedNames n hn)
    have hclass : Declares viewer scope
        (classRows dialect scope m.name properties (realOneofs m.oneofs m.fields)) _ _ :=
      declares_classRows hown.name.2 hflat fun o ho => (honeofs o ho).1
    have hobject : Declares viewer (scope ++ [m.name])
        (objectRows dialect (scope ++ [m.name]) properties) [] [] := declares_objectRows hflat
    -- The parts in the order of the rows. The class has its heading before those of the nested messages.
    have hbody := ((hobject.append hmessages).append
      ((declares_enums hown.enums).append (declares_oneofs honeofs))).append
        (declares_extensions hindex hextensions hown.extensions)
    have hblank : Declares viewer scope (rowsAt (.inNamespace scope) [.blank]) [] [] :=
      Declares.flat (by simp [FlatLine])
    have hall := (hblank.append hclass).append
      (hblank.append (Declares.namespaceBlock hown.name.2.flat hbody))
    have hhead : rowsAt (.inNamespace scope)
        [.blank, Layout.line ("export namespace " ++ m.name ++ " " ++ Layout.openBrace)] =
          rowsAt (.inNamespace scope) [.blank] ++ rowsAt (.inNamespace scope)
            [Layout.line ("export namespace " ++ m.name ++ " " ++ Layout.openBrace)] := rfl
    simp only [List.append_nil, List.nil_append] at hall
    rw [Message.rows_eq, Schema.Message.visible_eq, hm, if_neg Bool.false_ne_true, List.flatMap_cons,
      List.map_cons]
    refine Declares.perm ?_ List.perm_append_comm
    simp only [hhead, rowsAt_append, List.append_assoc] at hall ⊢
    exact hall

theorem File.declares {f : Schema.File} (hindex : ∀ e ∈ index.exports, Flat (e.reference f.name))
    (hnames : f.Named) {d : File} (hlink : File.link index f = .ok d) :
    Declares f.name [] d.rows (f.visible.map classHeading)
      (f.visible.flatMap enumHeadings ++ f.enums.map fun e => headingIn [] e.name) := by
  obtain ⟨messages, hmessages, hlink⟩ := bind_eq_ok.mp hlink
  obtain ⟨extensions, hextensions, hlink⟩ := bind_eq_ok.mp hlink
  cases pure_eq_ok.mp hlink
  have htypes : Declares f.name [] (messages.flatMap (Message.rows f.dialect [])) _ _ :=
    declares_linkMessages hmessages fun m hm m' hm' hpair => Message.declares hindex hm' hpair
      fun n hn => hnames.messages n (Schema.File.mem_allMessages.mpr ⟨m, hm, hn⟩)
  have hconstants : Declares f.name [] (extensions.flatMap (Extension.rows [])) [] [] :=
    declares_extensions hindex hextensions hnames.extensions
  have hblank : Declares f.name [] (rowsAt (.inNamespace []) [.blank]) [] [] :=
    Declares.flat (by simp [FlatLine])
  have hall := (htypes.append hconstants).append ((declares_enums hnames.enums).append hblank)
  simp only [List.append_nil] at hall
  rw [File.rows, rowsAt_append]
  exact hall

theorem File.forall_imports {P : String → Prop} {f : Schema.File} {d : File}
    (hlink : File.link index f = .ok d) (hdependencies : ∀ g ∈ f.dependencies, P g)
    (hindex : ∀ e ∈ index.exports, P e.fileName) : ∀ g ∈ d.imports, P g := by
  intro g hg
  rw [File.imports_of_link hlink, List.mem_append] at hg
  rcases hg with hg | hg
  · exact hdependencies g hg
  · obtain ⟨-, -, e, he, rfl⟩ := mem_otherFiles.mp hg
    obtain ⟨x, -, hx⟩ := List.mem_filterMap.mp he
    exact hindex e (TypeIndex.mem_of_find? (referent?_eq_some hx)).1

theorem File.flat_headLines {f : Schema.File} (hindex : ∀ e ∈ index.exports, Flat e.fileName)
    (hnames : f.Named) {d : File} (hlink : File.link index f = .ok d) :
    ∀ l ∈ d.headLines, FlatLine l := by
  obtain ⟨hname, hpackage, -, -, -⟩ := File.link_name hlink
  have himports : ∀ g ∈ d.imports, Flat g :=
    File.forall_imports hlink (fun g hg => (hnames.dependencies g hg).flat) hindex
  rw [File.headLines, List.forall_mem_append]
  constructor
  · have hflatPackage : Flat d.package := hpackage ▸ hnames.package.flat
    have hflatName : Flat d.name := hname ▸ hnames.name.flat
    simp only [List.forall_mem_cons]
    exact ⟨hflatPackage.ofList_append (by decide), hflatName.ofList_append (by decide), trivial,
      Text.flat_of_all (by decide), by simp⟩
  · intro l hl
    obtain ⟨g, hg, rfl⟩ := List.mem_map.mp hl
    have hnamespace := SourcePath.flat_namespaceName (himports g hg)
    have hpath := SourcePath.flat_importPath d.name (himports g hg)
    exact (((hnamespace.ofList_append (by decide)).append_ofList (by decide)).append
      hpath).append_ofList (by decide)

def File.allRows (d : File) : List Row := rowsAt (.inNamespace []) d.headLines ++ d.rows

theorem File.allRows_lines (d : File) : d.allRows.map (Row.line d.name) = d.lines := by
  rw [File.allRows, List.map_append, rowsAt_lines, File.rows_lines]
  exact congrArg (· ++ d.bodyLines) (Layout.indentBy_zero d.headLines)

def Heading.dotted (h : Heading) : String := String.intercalate "." h.path

section Text

variable {ds : List Descriptor.File} {files : List Schema.File} {f : Schema.File}

/-- A whole declaration file is read back as what its file makes visible. -/
theorem File.reads (hload : ds.mapM Schema.File.load = .ok files)
    (hindex : TypeIndex.ofFiles files = .ok index) (hnames : ∀ g ∈ files, g.Named) (hf : f ∈ files)
    {d : File} (hlink : File.link index f = .ok d) :
    ∃ found, found.Perm (f.visible.flatMap enumHeadings ++ f.enums.map fun e => headingIn [] e.name) ∧
      Reads f.name {} d.allRows ⟨[], f.visible.map classHeading, found⟩ := by
  have hflat := TypeIndex.flat_names hload hindex hnames
  have hreference : ∀ e ∈ index.exports, Flat (e.reference f.name) := fun e he =>
    Export.flat_reference (hflat e he).1 (hflat e he).2 f.name
  have hhead := File.flat_headLines (fun e he => (hflat e he).2) (hnames f hf) hlink
  obtain ⟨found, hperm, hread⟩ := File.declares hreference (hnames f hf) hlink {} rfl
  exact ⟨found, hperm, (Reads.flat {} hhead).append hread⟩

theorem read_text {t : String} {d : File} (hlink : File.link index f = .ok d)
    (htext : text index f = .ok t) {s : Reader} (h : Reads f.name {} d.allRows s) :
    Reader.read t = s := by
  obtain ⟨d', hd', htext⟩ := bind_eq_ok.mp htext
  cases hlink.symm.trans hd'
  cases pure_eq_ok.mp htext
  rw [Reader.read, ← File.allRows_lines, (File.link_name hlink).1]
  exact h.read_lines

theorem dotted_enumHeadings {x : Descriptor.File} (hx : Schema.File.load x = .ok f) (hnames : f.Named) :
    (f.visible.flatMap enumHeadings ++ f.enums.map fun e => headingIn [] e.name).map Heading.dotted =
      f.visibleEnums.map fun e => (Export.ofEnum f e).localName := by
  have hnested : f.visible.flatMap (fun p => (enumHeadings p).map Heading.dotted) =
      f.visible.flatMap fun p => p.2.enums.map fun e => (Export.ofEnum f e).localName := by
    apply List.flatMap_congr
    intro p hp
    rw [enumHeadings, List.map_map]
    apply List.map_congr_left
    intro e he
    exact (Schema.File.localName_of_locatedEnum hx hnames (Schema.File.visible_subset hp) he).symm
  have houter : f.enums.map (fun e => (headingIn [] e.name).dotted) =
      f.enums.map fun e => (Export.ofEnum f e).localName := by
    apply List.map_congr_left
    intro e he
    rw [Schema.File.localName_of_enum hx hnames he]
    exact String.intercalate_singleton
  rw [Schema.File.visibleEnums, List.map_append, List.map_append, List.map_flatMap, List.map_flatMap,
    hnested, List.map_map, ← houter]
  rfl

theorem indentation_headingIn (scope : List String) (name : String) :
    (headingIn scope name).indentation = 2 * (headingIn scope name).path.dropLast.length := by
  rw [headingIn, List.dropLast_concat]

/-- What a declaration declares is what the index exports for its file. -/
theorem text_declares (hload : ds.mapM Schema.File.load = .ok files)
    (hindex : TypeIndex.ofFiles files = .ok index) (hnames : ∀ g ∈ files, g.Named) (hf : f ∈ files)
    {t : String} (htext : text index f = .ok t) :
    ∃ es, (f.visible.mapM fun p => Export.ofMessage f p.2) = .ok es ∧
      (∀ e ∈ es, e ∈ index.exports) ∧ (∀ x ∈ f.visibleEnums, Export.ofEnum f x ∈ index.exports) ∧
      (Reader.read t).classes.map Heading.dotted = es.map (·.localName) ∧
      ((Reader.read t).interfaces.map Heading.dotted).Perm
        (f.visibleEnums.map fun x => (Export.ofEnum f x).localName) ∧
      (∀ h ∈ (Reader.read t).classes ++ (Reader.read t).interfaces,
        h.indentation = 2 * h.path.dropLast.length) ∧
      (Reader.read t).blocks = [] := by
  obtain ⟨d, hlink, -⟩ := bind_eq_ok.mp htext
  obtain ⟨x, -, hx⟩ := (mem_results (mapM_eq_ok.mp hload)).mp hf
  obtain ⟨found, hperm, hreads⟩ := File.reads hload hindex hnames hf hlink
  have hread := read_text hlink htext hreads
  have hmessages : ∀ p ∈ f.visible, p.2 ∈ f.allMessages := fun p hp =>
    Schema.File.mem_allMessages_of_located (Schema.File.visible_subset hp)
  obtain ⟨es, hes⟩ : Succeeds (f.visible.mapM fun p => Export.ofMessage f p.2) := by
    rw [succeeds_mapM]
    intro p hp
    exact Export.succeeds_ofMessage.mpr
      (TypeIndex.succeeds_ofFiles.mp ⟨index, hindex⟩ f hf p.2 (hmessages p hp))
  have hresults := mapM_eq_ok.mp hes
  rw [hread]
  -- The exports stay in the order of the messages, which is that of the classes.
  refine ⟨es, hes, ?_, ?_, ?_, ?_, ?_, rfl⟩
  · intro e he
    obtain ⟨p, hp, hpe⟩ := (mem_results hresults).mp he
    exact (TypeIndex.mem_exports hindex).mpr
      (.inl ⟨f, hf, p.2, hmessages p hp, hpe⟩)
  · intro e he
    refine (TypeIndex.mem_exports hindex).mpr (.inr ⟨f, hf, e, ?_, rfl⟩)
    rw [Schema.File.mem_allEnums]
    rcases List.mem_append.mp he with he | he
    · obtain ⟨p, hp, he⟩ := List.mem_flatMap.mp he
      exact Or.inl ⟨p.2, hmessages p hp, he⟩
    · exact Or.inr he
  · rw [List.map_map]
    refine (map_related hresults fun p hp e hpe => ?_).symm
    exact Schema.File.localName_of_located hx (hnames f hf) (Schema.File.visible_subset hp) hpe
  · rw [← dotted_enumHeadings hx (hnames f hf)]
    exact hperm.map _
  · intro h hh
    rcases List.mem_append.mp hh with hh | hh
    · obtain ⟨p, -, rfl⟩ := List.mem_map.mp hh
      exact indentation_headingIn _ _
    · rcases List.mem_append.mp (hperm.mem_iff.mp hh) with hh | hh
      · obtain ⟨p, -, hh⟩ := List.mem_flatMap.mp hh
        obtain ⟨e, -, rfl⟩ := List.mem_map.mp hh
        exact indentation_headingIn _ _
      · obtain ⟨e, -, rfl⟩ := List.mem_map.mp hh
        exact indentation_headingIn _ _

/-- A file with a message nested in another one beside an enumeration and the pair type of a map. -/
def nestedDescriptor : Descriptor.File where
  name := some "n.proto"
  package := some "p.q"
  messages := [{
    name := some "A"
    fields := [
      { name := some "pairs", number := some 1, label := some 3, type := some 11,
        typeName := some ".p.q.A.PairsEntry" }]
    nested := [
      { name := some "B" },
      { name := some "PairsEntry"
        fields := [
          { name := some "key", number := some 1, type := some 9 },
          { name := some "value", number := some 2, type := some 11, typeName := some ".p.q.A.B" }]
        options := some { mapEntry := some true } }]
    enums := [{ name := some "E", values := [{ name := some "ZERO", number := some 0 }] }] }]

theorem nestedDescriptor_declares : ∃ f index t, Schema.File.load nestedDescriptor = .ok f ∧
    TypeIndex.ofFiles [f] = .ok index ∧ text index f = .ok t ∧
    (Reader.read t).classes.map Heading.dotted = ["A", "A.B"] ∧
    (Reader.read t).interfaces.map Heading.dotted = ["A.E"] := by
  have hload : [nestedDescriptor].mapM Schema.File.load = .ok [_] := rfl
  refine ⟨_, _, _, rfl, rfl, rfl, ?_⟩
  obtain ⟨es, hes, -, -, hclasses, hinterfaces, -⟩ :=
    text_declares hload rfl (by decide) List.mem_cons_self rfl
  rw [hclasses]
  cases hes
  exact ⟨by decide, List.perm_singleton.mp hinterfaces⟩

end Text

end Declaration

end ProtoStubs

import ProtoStubs.Proofs.Brackets
import ProtoStubs.Proofs.NamedStubs

/-!
# The brackets of a declaration

The names and references of a declaration are tokens, which hold no brackets. Each member closes what it
opens, and the class, the namespace and the plain-object form of a message are closed after all that stands
in them, at every depth.
-/

namespace ProtoStubs

open Layout Text

theorem Export.tokenChars_reference {e : Export} (hname : Dotted e.fullName) (hfile : IsPath e.fileName)
    (viewer : String) : TokenChars (e.reference viewer) := by
  unfold Export.reference
  split
  · exact fun c hc => hname.tokenChars c (Identifier.mem_withinPackage hc)
  · exact (Export.isToken_namespacedName hname hfile).2

theorem Artifact.bracketed_imports (a : Artifact) (viewer : String) {targets : List String}
    (h : ∀ target ∈ targets, IsPath target) :
    Bracketed (targets.map fun target => line (a.importLine viewer target)) := by
  apply Bracketed.map_line
  intro target htarget
  have hmodule := (SourcePath.isToken_namespaceName (h target htarget)).wellBracketed
  have hpath := (SourcePath.isToken_importPath viewer (h target htarget)).wellBracketed
  cases a <;> exact ((turns_between hmodule rfl rfl).insert hpath).text rfl

namespace Declaration

variable {viewer : String}

def TokenTarget (viewer : String) (t : TypeExpr) : Prop :=
  ∀ e, t.target? = some e → TokenChars (e.reference viewer)

theorem wellBracketed_text {t : TypeExpr} (h : TokenTarget viewer t) : WellBracketed (t.text viewer) := by
  cases t with
  | scalar type => cases type <;> exact turns_ofList rfl
  | message target => exact (h target rfl).wellBracketed
  | enum target =>
    have htarget := (h target rfl).wellBracketed
    exact ((Turns.text htarget rfl).insert htarget).text rfl

theorem wellBracketed_objectText {t : TypeExpr} (h : TokenTarget viewer t) :
    WellBracketed (t.objectText viewer) := by
  have htext := wellBracketed_text h
  cases t with
  | scalar type => exact htext
  | message target => exact Turns.text htext rfl
  | enum target => exact htext

section Phrases

variable {a b c : List Char} {s : String} {t : TypeExpr} {phrase : Phrase}

theorem turns_nil : Turns a (Phrase.render viewer []) a := turns_ofList rfl

theorem turns_text (hs : Turns a s b) (h : Turns b (Phrase.render viewer phrase) c) :
    Turns a (Phrase.render viewer (.text s :: phrase)) c := by
  rw [Phrase.render_cons]
  exact hs.append h

theorem turns_type (ht : TokenTarget viewer t) (h : Turns a (Phrase.render viewer phrase) c) :
    Turns a (Phrase.render viewer (.type t :: phrase)) c := by
  rw [Phrase.render_cons]
  exact ((wellBracketed_text ht).inside a).append h

theorem turns_object (ht : TokenTarget viewer t) (h : Turns a (Phrase.render viewer phrase) c) :
    Turns a (Phrase.render viewer (.object t :: phrase)) c := by
  rw [Phrase.render_cons]
  exact ((wellBracketed_objectText ht).inside a).append h

end Phrases

section Members

variable {stem : String} {t key value : TypeExpr}

theorem wellBracketed_mapAccessors (hstem : WellBracketed stem) (hkey : TokenTarget viewer key)
    (hvalue : TokenTarget viewer value) :
    ∀ a ∈ mapAccessors stem key value, WellBracketed (a.render viewer) := by
  simp only [mapAccessors, List.forall_mem_cons]
  refine ⟨?get, ?clear, by simp⟩
  case get =>
    exact turns_text (turns_between hstem rfl rfl) (turns_type hkey (turns_text (turns_ofList rfl)
      (turns_type hvalue (turns_text (turns_ofList rfl) turns_nil))))
  case clear => exact turns_text (turns_between hstem rfl rfl) turns_nil

theorem wellBracketed_repeatedAccessors (hstem : WellBracketed stem) (ht : TokenTarget viewer t) :
    ∀ a ∈ repeatedAccessors stem t, WellBracketed (a.render viewer) := by
  have hclear : WellBracketed (Phrase.render viewer [.text ("clear" ++ stem ++ "List(): void;")]) :=
    turns_text (turns_between hstem rfl rfl) turns_nil
  have hget : WellBracketed (Phrase.render viewer
      [.text ("get" ++ stem ++ "List(): Array<"), .type t, .text ">;"]) :=
    turns_text (turns_between hstem rfl rfl) (turns_type ht (turns_text (turns_ofList rfl) turns_nil))
  have hset : WellBracketed (Phrase.render viewer
      [.text ("set" ++ stem ++ "List(value: Array<"), .type t, .text ">): void;"]) :=
    turns_text (turns_between hstem rfl rfl) (turns_type ht (turns_text (turns_ofList rfl) turns_nil))
  have hadd (optional : String) (hoptional : WellBracketed optional) : WellBracketed (Phrase.render viewer
      [.text ("add" ++ stem ++ "(value" ++ optional ++ ": "), .type t, .text ", index?: number): ",
        .type t, .text ";"]) :=
    turns_text (((turns_between hstem rfl rfl).insert hoptional).text rfl)
      (turns_type ht (turns_text (turns_ofList rfl) (turns_type ht (turns_text (turns_ofList rfl) turns_nil))))
  have hbytes : WellBracketed (Phrase.render viewer
        [.text ("get" ++ stem ++ "List_asU8(): Array<Uint8Array>;")]) ∧
      WellBracketed (Phrase.render viewer [.text ("get" ++ stem ++ "List_asB64(): Array<string>;")]) :=
    ⟨turns_text (turns_between hstem rfl rfl) turns_nil, turns_text (turns_between hstem rfl rfl) turns_nil⟩
  have hoptional : WellBracketed (if t.isMessage then "?" else "") := by
    split <;> exact turns_ofList rfl
  simp only [repeatedAccessors, List.forall_mem_append, List.forall_mem_cons]
  refine ⟨⟨⟨hclear, hget, by simp⟩, ?_⟩, hset, hadd _ hoptional, by simp⟩
  split
  · simp only [List.forall_mem_cons]
    exact ⟨hbytes.1, hbytes.2, by simp⟩
  · simp

theorem wellBracketed_singularAccessors (hstem : WellBracketed stem) (ht : TokenTarget viewer t) :
    ∀ a ∈ singularAccessors stem t, WellBracketed (a.render viewer) := by
  -- Every accessor here is a member with the type after it, or between it and the rest of the line.
  have htyped {xs ys zs : List Char} {b : List Char} (hxs : readBrackets [] xs = some [])
      (hys : readBrackets [] ys = some b) (hzs : readBrackets b zs = some []) :
      WellBracketed (Phrase.render viewer
        [.text (String.ofList xs ++ stem ++ String.ofList ys), .type t, .text (String.ofList zs)]) :=
    turns_text (turns_between hstem hxs hys) (turns_type ht (turns_text (turns_ofList hzs) turns_nil))
  have hbytes : WellBracketed (Phrase.render viewer [.text ("get" ++ stem ++ "_asU8(): Uint8Array;")]) ∧
      WellBracketed (Phrase.render viewer [.text ("get" ++ stem ++ "_asB64(): string;")]) :=
    ⟨turns_text (turns_between hstem rfl rfl) turns_nil, turns_text (turns_between hstem rfl rfl) turns_nil⟩
  unfold singularAccessors
  split
  · simp only [List.forall_mem_cons]
    exact ⟨htyped rfl rfl rfl, htyped rfl rfl rfl, by simp⟩
  · simp only [List.forall_mem_append, List.forall_mem_cons]
    refine ⟨⟨⟨htyped rfl rfl rfl, by simp⟩, ?_⟩, htyped rfl rfl rfl, by simp⟩
    split
    · simp only [List.forall_mem_cons]
      exact ⟨hbytes.1, hbytes.2, by simp⟩
    · simp

theorem wellBracketed_presenceAccessors (hstem : WellBracketed stem) :
    ∀ a ∈ presenceAccessors stem, WellBracketed (a.render viewer) := by
  simp only [presenceAccessors, List.forall_mem_cons]
  exact ⟨turns_text (turns_between hstem rfl rfl) turns_nil, turns_text (turns_between hstem rfl rfl) turns_nil,
    by simp⟩

end Members

structure Property.Tokens (viewer : String) (p : Property) : Prop where
  name : NameChars p.field.name
  targets : ∀ e ∈ p.type.targets, TokenChars (e.reference viewer)

theorem Property.wellBracketed_accessors {p : Property} (h : p.Tokens viewer) (dialect : Schema.Dialect) :
    ∀ a ∈ p.accessors dialect, WellBracketed (a.render viewer) := by
  have hstem : WellBracketed p.upperStem :=
    (Identifier.nameChars_accessorStem h.name).upperFirst.wellBracketed
  have htargets := h.targets
  unfold Property.accessors
  cases htype : p.type with
  | map key value =>
    rw [htype, PropertyType.forall_targets_map] at htargets
    exact wellBracketed_mapAccessors hstem htargets.1 htargets.2
  | plain type =>
    rw [htype, PropertyType.forall_targets_plain] at htargets
    simp only
    split
    · exact wellBracketed_repeatedAccessors hstem htargets
    · rw [List.forall_mem_append]
      refine ⟨?_, wellBracketed_singularAccessors hstem htargets⟩
      split
      · exact wellBracketed_presenceAccessors hstem
      · simp

theorem Property.wellBracketed_objectKey {p : Property} (hname : NameChars p.field.name)
    (dialect : Schema.Dialect) : WellBracketed (p.objectKey dialect) := by
  have hstem : WellBracketed p.stem := (Identifier.nameChars_accessorStem hname).wellBracketed
  have hescaped : WellBracketed (Identifier.objectKey p.stem) :=
    (Identifier.nameChars_objectKey (Identifier.nameChars_accessorStem hname)).wellBracketed
  unfold Property.objectKey
  cases p.type with
  | map key value => exact Turns.text hstem rfl
  | plain type =>
    simp only
    split
    · exact Turns.text hstem rfl
    · split
      · exact Turns.text hescaped rfl
      · exact hescaped

theorem Property.wellBracketed_objectEntry {p : Property} (h : p.Tokens viewer)
    (dialect : Schema.Dialect) : WellBracketed ((p.objectEntry dialect).render viewer) := by
  have hkey : WellBracketed (p.objectKey dialect ++ ": ") :=
    Turns.text (p.wellBracketed_objectKey h.name dialect) rfl
  have htargets := h.targets
  unfold Property.objectEntry Property.objectType
  cases htype : p.type with
  | map key value =>
    rw [htype, PropertyType.forall_targets_map] at htargets
    exact turns_text hkey (turns_text (turns_ofList rfl) (turns_object htargets.1
      (turns_text (turns_ofList rfl) (turns_object htargets.2
        (turns_text (turns_ofList rfl) (turns_text (turns_ofList rfl) turns_nil))))))
  | plain type =>
    rw [htype, PropertyType.forall_targets_plain] at htargets
    simp only
    split
    · exact turns_text hkey (turns_text (turns_ofList rfl) (turns_object htargets
        (turns_text (turns_ofList rfl) (turns_text (turns_ofList rfl) turns_nil))))
    · exact turns_text hkey (turns_object htargets (turns_text (turns_ofList rfl) turns_nil))

theorem Property.bracketed_lines {p : Property} (h : p.Tokens viewer) (dialect : Schema.Dialect) :
    Bracketed (p.lines dialect viewer) :=
  (Bracketed.map_line (p.wellBracketed_accessors h dialect)).append (.blank .nil)

theorem bracketed_enumLines {e : Schema.Enum} (h : e.Named) : Bracketed (enumLines e) := by
  have hname := h.name.2.wellBracketed
  have hvalues : Bracketed (e.values.map fun v =>
      line (Text.upper v.name ++ ": " ++ toString v.number ++ ";")) := by
    apply Bracketed.map_line
    intro v hv
    have hvalue := (h.values v hv).2.upper.wellBracketed
    exact ((Turns.text hvalue rfl).insert (wellBracketed_toString_int v.number)).text rfl
  have hconstant : WellBracketed ("export const " ++ e.name ++ ": " ++ e.name ++ "Map;") :=
    (((turns_ofList rfl).insert hname |>.text rfl).insert hname).text rfl
  exact ((Bracketed.blank .nil).append
    (.braced (turns_between hname rfl rfl) hvalues (turns_ofList rfl))).append
      (.blank (.cons hconstant .nil))

theorem Oneof.bracketed_lines {o : Oneof} (hname : NameChars o.name)
    (hmembers : ∀ f ∈ o.members, NameChars f.name) : Bracketed o.lines := by
  have hstem := (Identifier.nameChars_oneofStem hname).wellBracketed
  have hnone : WellBracketed (Text.upper o.name ++ "_NOT_SET = 0,") :=
    Turns.text hname.upper.wellBracketed rfl
  have hcases : Bracketed (o.members.map fun f =>
      line (Text.upper f.name ++ " = " ++ toString f.number ++ ",")) := by
    apply Bracketed.map_line
    intro f hf
    have hcase := (hmembers f hf).upper.wellBracketed
    exact ((Turns.text hcase rfl).insert (wellBracketed_toString_int f.number)).text rfl
  exact (Bracketed.blank .nil).append
    (.braced (turns_between hstem rfl rfl) (.cons hnone hcases) (turns_ofList rfl))

theorem Oneof.wellBracketed_caseAccessor {o : Oneof} {className : String} (hname : NameChars o.name)
    (hclass : WellBracketed className) : WellBracketed (o.caseAccessor className) := by
  have hstem := (Identifier.nameChars_oneofStem hname).wellBracketed
  exact ((((turns_between hstem rfl rfl).insert hclass).text rfl).insert hstem).text rfl

theorem Extension.bracketed_lines {x : Extension} (hname : NameChars x.field.name)
    (ht : TokenTarget viewer x.type) : Bracketed (x.lines viewer) := by
  have hstem := (Identifier.nameChars_camelCase hname).wellBracketed
  have hconstant : WellBracketed (x.constant.render viewer) := by
    unfold Extension.constant
    cases x.field.isRepeated with
    | true =>
      exact turns_text (turns_between hstem rfl rfl) (turns_text (turns_ofList rfl)
        (turns_type ht (turns_text (turns_ofList rfl) (turns_text (turns_ofList rfl) turns_nil))))
    | false =>
      exact turns_text (turns_between hstem rfl rfl)
        (turns_type ht (turns_text (turns_ofList rfl) turns_nil))
  exact .blank (.cons hconstant .nil)

theorem wellBracketed_commonMembers {name : String} (h : WellBracketed name) :
    ∀ s ∈ commonMembers name, WellBracketed s := by
  have hkeyed {lead type : List Char} (hlead : readBrackets [] lead = some [])
      (htype : readBrackets ['\x7d'] type = some ['\x7d']) :
      WellBracketed (String.ofList lead ++ numberKeyed (String.ofList type) ++ ";") := by
    have hindex : WellBracketed (numberKeyed (String.ofList type)) :=
      Turns.append (((turns_ofList rfl : Turns [] openBrace ['\x7d']).text rfl).text htype) (turns_ofList rfl)
    exact ((turns_ofList hlead).insert hindex).text rfl
  simp only [commonMembers, List.forall_mem_cons]
  refine ⟨turns_ofList rfl, turns_between h rfl rfl, ?message, hkeyed rfl rfl, hkeyed rfl rfl,
    turns_between h rfl rfl, turns_between h rfl rfl, ?reader, by simp⟩
  case message => exact ((turns_between h rfl rfl).insert h).text rfl
  case reader => exact ((turns_between h rfl rfl).insert h).text rfl

theorem bracketed_classLines {name : String} {properties : List Property} {oneofs : List Oneof}
    (dialect : Schema.Dialect) (hname : NameChars name) (hproperties : ∀ p ∈ properties, p.Tokens viewer)
    (honeofs : ∀ o ∈ oneofs, NameChars o.name) :
    Bracketed (classLines dialect viewer name properties oneofs) := by
  have hclass := hname.wellBracketed
  have hmembers : Bracketed (properties.flatMap (Property.lines dialect viewer)) :=
    .flatMap fun p hp => p.bracketed_lines (hproperties p hp) dialect
  have hcases : Bracketed (oneofs.map fun o => line (o.caseAccessor name)) :=
    .map_line fun o ho => Oneof.wellBracketed_caseAccessor (honeofs o ho) hclass
  have hcommon : Bracketed ((commonMembers name).map line) :=
    .map_line (f := id) (wellBracketed_commonMembers hclass)
  exact .braced (turns_between hclass rfl rfl) ((hmembers.append hcases).append hcommon) (turns_ofList rfl)

theorem bracketed_objectLines {properties : List Property} (dialect : Schema.Dialect)
    (h : ∀ p ∈ properties, p.Tokens viewer) : Bracketed (objectLines dialect viewer properties) :=
  .block rfl (.map_line fun p hp => p.wellBracketed_objectEntry (h p hp) dialect) rfl

section Linked

variable {index : TypeIndex}

theorem bracketed_linkMessages {ms : List Schema.Message} {linked : List Message}
    {dialect : Schema.Dialect} (hlink : linkMessages index viewer ms = .ok linked)
    (h : ∀ m ∈ ms, ∀ m', Message.link index viewer m = .ok m' → Bracketed (m'.lines dialect viewer)) :
    Bracketed (linked.flatMap (Message.lines dialect viewer)) := by
  rw [linkMessages_eq_mapM] at hlink
  apply Bracketed.flatMap
  intro m' hm'
  obtain ⟨m, hm, hmm⟩ := (mem_results (mapM_eq_ok.mp hlink)).mp hm'
  exact h m (List.mem_filter.mp hm).1 m' hmm

variable (hindex : ∀ e ∈ index.exports, TokenChars (e.reference viewer))

include hindex

theorem Property.tokens_of_link {f : Schema.Field} {p : Property}
    (h : Property.link index viewer f = .ok p) (hname : NameChars f.name) : p.Tokens viewer where
  name := by
    rw [Property.field_of_link h]
    exact hname
  targets := fun e he => hindex e (Property.mem_exports_of_link h e he)

theorem bracketed_extensions {fs : List Schema.Field} {xs : List Extension}
    (hlink : fs.mapM (Extension.link index viewer) = .ok xs) (h : ∀ f ∈ fs, IsName f.name) :
    Bracketed (xs.flatMap (Extension.lines viewer)) := by
  apply Bracketed.flatMap
  intro x hx
  obtain ⟨f, hf, hfx⟩ := (mem_results (mapM_eq_ok.mp hlink)).mp hx
  obtain ⟨hfield, hexports⟩ := Extension.mem_exports_of_link hfx
  exact Extension.bracketed_lines (hfield ▸ (h f hf).2) fun e he => hindex e (hexports e he)

theorem Message.bracketed_lines {m : Schema.Message} {m' : Message} (dialect : Schema.Dialect)
    (hlink : Message.link index viewer m = .ok m') (hnames : ∀ n ∈ m.withNested, n.Named) :
    Bracketed (m'.lines dialect viewer) := by
  induction m using Schema.Message.induct generalizing m' with
  | step m ih =>
    have hown := hnames m m.mem_withNested_self
    have hname := hown.name.2.wellBracketed
    rw [Message.link_eq] at hlink
    obtain ⟨properties, hproperties, hlink⟩ := bind_eq_ok.mp hlink
    obtain ⟨nested, hnested, hlink⟩ := bind_eq_ok.mp hlink
    obtain ⟨extensions, hextensions, hlink⟩ := bind_eq_ok.mp hlink
    cases pure_eq_ok.mp hlink
    have htokens : ∀ p ∈ properties, p.Tokens viewer := by
      intro p hp
      obtain ⟨f, hf, hfp⟩ := (mem_results (mapM_eq_ok.mp hproperties)).mp hp
      exact Property.tokens_of_link hindex hfp (hown.fields f hf).2
    have honeofs := nameChars_realOneofs hown
    have hmessages : Bracketed (nested.flatMap (Message.lines dialect viewer)) :=
      bracketed_linkMessages hnested fun n hn n' hn' =>
        ih n hn hn' fun k hk => hnames k (Schema.Message.withNested_subset hn hk)
    have hclass := bracketed_classLines dialect hown.name.2 htokens fun o ho => (honeofs o ho).1
    have henums : Bracketed (m.enums.flatMap enumLines) :=
      .flatMap fun e he => bracketed_enumLines (hown.enums e he)
    have hcases : Bracketed ((realOneofs m.oneofs m.fields).flatMap Oneof.lines) :=
      .flatMap fun o ho => Oneof.bracketed_lines (honeofs o ho).1 (honeofs o ho).2
    have hbody := ((((bracketed_objectLines dialect htokens).append hmessages).append henums).append
      hcases).append (bracketed_extensions hindex hextensions hown.extensions)
    rw [Message.lines_eq]
    exact (((Bracketed.blank .nil).append hclass).append (.blank .nil)).append
      (.braced (turns_between hname rfl rfl) hbody (turns_ofList rfl))

end Linked

section Text

variable {ds : List Descriptor.File} {files : List Schema.File} {index : TypeIndex} {f : Schema.File}

theorem File.bracketed_headLines (hindex : ∀ e ∈ index.exports, IsPath e.fileName) (hnames : f.Named)
    {d : File} (hlink : File.link index f = .ok d) : Bracketed d.headLines := by
  obtain ⟨hname, hpackage, -⟩ := File.link_name hlink
  have hpackage : WellBracketed d.package := hpackage ▸ hnames.package.dotted.tokenChars.wellBracketed
  have hname : WellBracketed d.name := hname ▸ (SourcePath.tokenChars_of_isPath hnames.name).wellBracketed
  have himports : Bracketed (d.imports.map fun target => line (importLine d.name target)) :=
    Artifact.declaration.bracketed_imports d.name (File.forall_imports hlink hnames.dependencies hindex)
  exact Bracketed.append (.cons ((turns_ofList rfl).insert hpackage) (.cons ((turns_ofList rfl).insert hname)
    (.blank (.literal rfl .nil)))) himports

theorem File.bracketed_bodyLines (hindex : ∀ e ∈ index.exports, TokenChars (e.reference f.name))
    (hnames : f.Named) {d : File} (hlink : File.link index f = .ok d) : Bracketed d.bodyLines := by
  obtain ⟨messages, hmessages, hlink⟩ := bind_eq_ok.mp hlink
  obtain ⟨extensions, hextensions, hlink⟩ := bind_eq_ok.mp hlink
  cases pure_eq_ok.mp hlink
  have htypes : Bracketed (messages.flatMap (Message.lines f.dialect f.name)) :=
    bracketed_linkMessages hmessages fun m hm m' hlink => Message.bracketed_lines hindex f.dialect hlink
      fun n hn => hnames.messages n (Schema.File.mem_allMessages.mpr ⟨m, hm, hn⟩)
  have henums : Bracketed (f.enums.flatMap enumLines) :=
    .flatMap fun e he => bracketed_enumLines (hnames.enums e he)
  rw [File.bodyLines, linesOfMessages_eq_flatMap]
  exact ((htypes.append (bracketed_extensions hindex hextensions hnames.extensions)).append henums).append
    (.blank .nil)

theorem wellBracketed_of_text (hload : ds.mapM Schema.File.load = .ok files)
    (hindex : TypeIndex.ofFiles files = .ok index) (hnames : ∀ g ∈ files, g.Named) (hf : f ∈ files)
    {t : String} (h : text index f = .ok t) : WellBracketed t := by
  have hexports := TypeIndex.named_exports hload hindex fun g hg => (hnames g hg).typesNamed
  obtain ⟨d, hlink, h⟩ := bind_eq_ok.mp h
  cases pure_eq_ok.mp h
  have hhead : Bracketed d.headLines :=
    File.bracketed_headLines (fun e he => (hexports e he).2) (hnames f hf) hlink
  have hbody : Bracketed d.bodyLines := by
    apply File.bracketed_bodyLines _ (hnames f hf) hlink
    intro e he
    exact Export.tokenChars_reference (hexports e he).1 (hexports e he).2 f.name
  exact hhead.append hbody

end Text

end Declaration

end ProtoStubs

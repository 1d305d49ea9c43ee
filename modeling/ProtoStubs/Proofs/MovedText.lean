import ProtoStubs.Proofs.Imports
import ProtoStubs.Proofs.Moving
import ProtoStubs.Service.Files

/-!
# Texts about renamed types

A declaration shows a full name nowhere but in the comment on its package, and the stubs of a file show
only those of its services. All other lines are the same before and after a renaming.
-/

namespace ProtoStubs

variable {ρ : String → String}

namespace Declaration

section Parts

variable {p p' : Property} {x x' : Extension}

theorem repeatedAccessors_moved {t t' : TypeExpr} (h : t.Moved ρ t') (stem viewer : String) :
    (repeatedAccessors stem t').map (Phrase.render viewer) =
      (repeatedAccessors stem t).map (Phrase.render viewer) := by
  rw [repeatedAccessors, repeatedAccessors, h.isMessage, h.isBytes]
  cases t.isBytes <;> simp [Phrase.render, Piece.render, h.text]

theorem singularAccessors_moved {t t' : TypeExpr} (h : t.Moved ρ t') (stem viewer : String) :
    (singularAccessors stem t').map (Phrase.render viewer) =
      (singularAccessors stem t).map (Phrase.render viewer) := by
  rw [singularAccessors, singularAccessors, h.isMessage, h.isBytes]
  cases t.isMessage <;> cases t.isBytes <;> simp [Phrase.render, Piece.render, h.text]

theorem Property.Moved.isRepeated (h : p.Moved ρ p') : p'.field.isRepeated = p.field.isRepeated := by
  rw [h.field]
  rfl

theorem Property.Moved.stem (h : p.Moved ρ p') : p'.stem = p.stem := by
  rw [Property.stem, h.field]
  rfl

theorem Property.Moved.accessors (h : p.Moved ρ p') (dialect : Schema.Dialect) (viewer : String) :
    (p'.accessors dialect).map (Phrase.render viewer) =
      (p.accessors dialect).map (Phrase.render viewer) := by
  have hstem : p'.upperStem = p.upperStem := congrArg Text.upperFirst h.stem
  have hpresence : p'.field.hasPresence dialect = p.field.hasPresence dialect := by
    rw [h.field]
    rfl
  have hrepeated := h.isRepeated
  have htype := h.type
  unfold Property.accessors
  rw [hstem, hpresence, hrepeated]
  generalize p.type = t at htype
  generalize p'.type = t' at htype
  cases htype with
  | map hkey hvalue => simp [mapAccessors, Phrase.render, Piece.render, hkey.text, hvalue.text]
  | plain ht =>
    dsimp only
    split
    · exact repeatedAccessors_moved ht _ viewer
    · rw [List.map_append, List.map_append, singularAccessors_moved ht _ viewer]

theorem Property.Moved.lines (h : p.Moved ρ p') (dialect : Schema.Dialect) (viewer : String) :
    p'.lines dialect viewer = p.lines dialect viewer := by
  have haccessors := congrArg (List.map Layout.line) (h.accessors dialect viewer)
  rw [List.map_map, List.map_map] at haccessors
  exact congrArg (· ++ [Line.blank]) haccessors

theorem Property.Moved.objectEntry (h : p.Moved ρ p') (dialect : Schema.Dialect) (viewer : String) :
    (p'.objectEntry dialect).render viewer = (p.objectEntry dialect).render viewer := by
  have hoptional : p'.field.proto3Optional = p.field.proto3Optional := by
    rw [h.field]
    rfl
  have hrepeated := h.isRepeated
  have htype := h.type
  unfold Property.objectEntry Property.objectKey Property.objectType
  rw [h.stem, hoptional, hrepeated]
  generalize p.type = t at htype
  generalize p'.type = t' at htype
  cases htype with
  | map hkey hvalue => simp [Phrase.render, Piece.render, hkey.objectText, hvalue.objectText]
  | plain ht =>
    simp only [ht.isMessage]
    cases p.field.isRepeated <;> simp [Phrase.render, Piece.render, ht.objectText]

theorem Property.Moved.origins (h : p.Moved ρ p') : p'.type.origins = p.type.origins := by
  have htype := h.type
  generalize p.type = t at htype
  generalize p'.type = t' at htype
  cases htype with
  | map hkey hvalue => simp only [PropertyType.origins, hkey.origin?, hvalue.origin?]
  | plain ht => simp only [PropertyType.origins, ht.origin?]

theorem Extension.Moved.lines (h : x.Moved ρ x') (viewer : String) :
    x'.lines viewer = x.lines viewer := by
  have hrepeated : x'.field.isRepeated = x.field.isRepeated := by
    rw [h.field]
    rfl
  have hname : x'.field.name = x.field.name := by
    rw [h.field]
    rfl
  simp only [Extension.lines, Extension.constant, hrepeated, hname]
  cases x.field.isRepeated <;> simp [Phrase.render, Piece.render, h.type.text]

end Parts

theorem oneofFields_rename (fields : List Schema.Field) (index : Nat) :
    Schema.oneofFields (fields.map (Schema.Field.rename ρ)) index =
      (Schema.oneofFields fields index).map (Schema.Field.rename ρ) := by
  rw [Schema.oneofFields, Schema.oneofFields, List.filter_map]
  rfl

def Oneof.rename (ρ : String → String) (o : Oneof) : Oneof :=
  { o with members := o.members.map (Schema.Field.rename ρ) }

theorem realOneofs_rename (oneofs : List String) (fields : List Schema.Field) :
    realOneofs oneofs (fields.map (Schema.Field.rename ρ)) =
      (realOneofs oneofs fields).map (Oneof.rename ρ) := by
  have hsynthetic (index : Nat) : Schema.isSyntheticOneof (fields.map (Schema.Field.rename ρ)) index =
      Schema.isSyntheticOneof fields index := by
    simp [Schema.isSyntheticOneof, oneofFields_rename, Function.comp_def, Schema.Field.rename]
  rw [realOneofs, realOneofs, List.map_filterMap]
  apply List.filterMap_congr
  intro p _
  obtain ⟨name, index⟩ := p
  dsimp only
  rw [hsynthetic, oneofFields_rename, List.filter_map]
  cases Schema.isSyntheticOneof fields index <;> rfl

theorem Oneof.lines_rename (o : Oneof) : (o.rename ρ).lines = o.lines := by
  simp [Oneof.lines, Oneof.rename, Function.comp_def, Schema.Field.rename]

theorem enumLines_rename (e : Schema.Enum) : enumLines (e.rename ρ) = enumLines e := rfl

/-- Two messages that are printed alike, and mention the same files. -/
structure Message.Alike (viewer : String) (m m' : Message) : Prop where
  lines : ∀ dialect, m'.lines dialect viewer = m.lines dialect viewer
  origins : m'.origins = m.origins

theorem Message.Alike.of_parts {viewer : String} {m m' : Message} (hname : m'.name = m.name)
    (hproperties : List.Forall₂ (Property.Moved ρ) m.properties m'.properties)
    (hnested : List.Forall₂ (Message.Alike viewer) m.nested m'.nested)
    (henums : m'.enums = m.enums.map (Schema.Enum.rename ρ))
    (honeofs : m'.oneofs = m.oneofs.map (Oneof.rename ρ))
    (hextensions : List.Forall₂ (Extension.Moved ρ) m.extensions m'.extensions) :
    m.Alike viewer m' where
  lines := by
    intro dialect
    have hmembers := flatMap_related hproperties fun p _ p' hp => hp.lines dialect viewer
    have hentries := map_related hproperties fun p _ p' hp =>
      congrArg Layout.line (hp.objectEntry dialect viewer)
    have hinner := flatMap_related hnested fun n _ n' hn => hn.lines dialect
    have hconstants := flatMap_related hextensions fun x _ x' hx => hx.lines viewer
    rw [Message.lines_eq, Message.lines_eq, classLines, classLines, objectLines, objectLines, hname,
      hmembers, hentries, hinner, hconstants, henums, honeofs, List.flatMap_map, List.flatMap_map,
      List.map_map]
    simp only [enumLines_rename, Oneof.lines_rename]
    rfl
  origins := by
    rw [Message.origins_eq_flatMap, Message.origins_eq_flatMap,
      flatMap_related hproperties fun p _ p' hp => hp.origins,
      flatMap_related hnested fun n _ n' hn => hn.origins,
      flatMap_related hextensions fun x _ x' hx => congrArg Option.toList hx.type.origin?]

theorem File.tail_lines {d d' : File} (hname : d'.name = d.name) (hdialect : d'.dialect = d.dialect)
    (hdependencies : d'.dependencies = d.dependencies)
    (hmessages : List.Forall₂ (Message.Alike d.name) d.messages d'.messages)
    (hextensions : List.Forall₂ (Extension.Moved ρ) d.extensions d'.extensions)
    (henums : d'.enums = d.enums.map (Schema.Enum.rename ρ)) : d'.lines.tail = d.lines.tail := by
  have horigins : d'.origins = d.origins := by
    rw [File.origins, File.origins, originsOfMessages_eq_flatMap, originsOfMessages_eq_flatMap,
      flatMap_related hmessages fun m _ m' hm => hm.origins,
      flatMap_related hextensions fun x _ x' hx => congrArg Option.toList hx.type.origin?]
  have himports : d'.imports = d.imports := by
    rw [File.imports, File.imports, horigins, hname, hdependencies]
  have hbody : d'.bodyLines = d.bodyLines := by
    rw [File.bodyLines, File.bodyLines, linesOfMessages_eq_flatMap, linesOfMessages_eq_flatMap, hname,
      hdialect, flatMap_related hmessages fun m _ m' hm => hm.lines d.dialect,
      flatMap_related hextensions fun x _ x' hx => hx.lines d.name, henums, List.flatMap_map]
    simp only [enumLines_rename]
  rw [File.lines, File.lines, File.headLines, File.headLines, himports, hbody, hname]
  rfl

/-- The first line names the package; all others are the same in both files. -/
def DiffersInPackage (f f' : Schema.File) (lines lines' : List Line) : Prop :=
  ∃ rest, lines = Layout.line ("// package: " ++ f.package) :: rest ∧
    lines' = Layout.line ("// package: " ++ f'.package) :: rest

section Link

variable {index index' : TypeIndex} (h : index.Moved ρ index') (hρ : Function.Injective ρ)
  (viewer : String)

theorem alike_linkMessages {ms : List Schema.Message}
    (ih : ∀ m ∈ ms, Agree (Message.Alike viewer) (Message.link index viewer m)
      (Message.link index' viewer (m.rename ρ))) :
    Agree (List.Forall₂ (Message.Alike viewer)) (linkMessages index viewer ms)
      (linkMessages index' viewer (ms.map (Schema.Message.rename ρ))) := by
  have hentry (m : Schema.Message) : (m.rename ρ).isMapEntry = m.isMapEntry := by
    rw [Schema.Message.rename_eq]
  rw [linkMessages_eq_mapM, linkMessages_eq_mapM, List.filter_map]
  simp only [Function.comp_def, hentry]
  apply Agree.mapM
  rw [List.forall₂_map_right_iff]
  exact List.forall₂_same.mpr fun m hm => ih m (List.mem_filter.mp hm).1

include h hρ

theorem Message.alike_link (m : Schema.Message) :
    Agree (Message.Alike viewer) (Message.link index viewer m)
      (Message.link index' viewer (m.rename ρ)) := by
  induction m using Schema.Message.induct with
  | step m ih =>
    have hproperties : List.Forall₂ (fun f f' => Agree (Property.Moved ρ)
        (Property.link index viewer f) (Property.link index' viewer f'))
        m.fields (m.fields.map (Schema.Field.rename ρ)) := by
      rw [List.forall₂_map_right_iff]
      exact List.forall₂_same.mpr fun f _ => Property.moved_link h hρ viewer f
    have hextensions : List.Forall₂ (fun f f' => Agree (Extension.Moved ρ)
        (Extension.link index viewer f) (Extension.link index' viewer f'))
        m.extensions (m.extensions.map (Schema.Field.rename ρ)) := by
      rw [List.forall₂_map_right_iff]
      exact List.forall₂_same.mpr fun f _ => Extension.moved_link h hρ viewer f
    rw [Message.link_eq, Message.link_eq, Schema.Message.rename_eq]
    refine (Agree.mapM hproperties).bind fun ps ps' hps => ?_
    refine (alike_linkMessages viewer ih).bind fun ns ns' hns => ?_
    refine (Agree.mapM hextensions).bind fun xs xs' hxs => agree_pure ?_
    exact .of_parts rfl hps hns rfl (realOneofs_rename _ _) hxs

omit viewer in
theorem File.link_moved {f f' : Schema.File} (hf : f.Moved ρ f') :
    Agree (fun d d' => DiffersInPackage f f' d.lines d'.lines) (File.link index f)
      (File.link index' f') := by
  have hextensions : List.Forall₂ (fun x x' => Agree (Extension.Moved ρ)
      (Extension.link index f.name x) (Extension.link index' f.name x'))
      f.extensions f'.extensions := by
    rw [hf.extensions, List.forall₂_map_right_iff]
    exact List.forall₂_same.mpr fun x _ => Extension.moved_link h hρ f.name x
  have hmessages := alike_linkMessages f.name fun m (_ : m ∈ f.messages) =>
    Message.alike_link h hρ f.name m
  rw [← hf.messages] at hmessages
  rw [File.link, File.link, hf.name]
  refine hmessages.bind fun ms ms' hms => (Agree.mapM hextensions).bind_pure fun xs xs' hxs => ?_
  refine ⟨_, rfl, congrArg (List.cons _) ?_⟩
  exact File.tail_lines rfl hf.dialect hf.dependencies hms hxs hf.enums

theorem text_moved {f f' : Schema.File} (hf : f.Moved ρ f') :
    Agree (fun s s' => ∃ rest, s = "// package: " ++ f.package ++ "\n" ++ rest ∧
      s' = "// package: " ++ f'.package ++ "\n" ++ rest) (text index f) (text index' f') := by
  refine (File.link_moved h hρ hf).bind_pure fun d d' hlines => ?_
  obtain ⟨rest, hd, hd'⟩ := hlines
  exact ⟨Layout.render rest, by rw [hd, Layout.render_cons]; rfl, by rw [hd', Layout.render_cons]; rfl⟩

end Link

end Declaration

end ProtoStubs

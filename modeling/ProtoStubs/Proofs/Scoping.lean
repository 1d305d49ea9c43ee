import Mathlib.Data.List.Infix
import Mathlib.Data.List.Nodup
import ProtoStubs.Proofs.Declared

/-!
# What references stand for

A reference to a message of the same file is printed as the path of that message, whatever namespaces are
open around it. The first name of the path is looked up in these namespaces from the innermost to the
module, and the other names are members of what it stands for. So the reference stands for the message
exactly if no namespace around it declares a message with the first name of the path.
-/

namespace ProtoStubs

namespace Text

def components (s : String) : List String := (splitChars '.' s.toList).map String.ofList

theorem exists_components (s : String) : ∃ first names, components s = first :: names := by
  obtain ⟨first, parts, h⟩ := exists_splitChars '.' s.toList
  exact ⟨String.ofList first, parts.map String.ofList, by rw [components, h, List.map_cons]⟩

theorem IsName.not_mem_dot {s : String} (h : IsName s) : '.' ∉ s.toList := by
  intro hmem
  exact absurd (h.2 '.' hmem) (by decide)

theorem components_intercalate {path : List String} (hpath : path ≠ [])
    (hnames : ∀ name ∈ path, IsName name) : components (String.intercalate "." path) = path := by
  induction path with
  | nil => exact absurd rfl hpath
  | cons name rest ih =>
    rw [List.forall_mem_cons] at hnames
    have hdot := hnames.1.not_mem_dot
    cases rest with
    | nil =>
      rw [String.intercalate_singleton, components, splitChars_of_not_mem hdot, List.map_singleton,
        String.ofList_toList]
    | cons next rest =>
      have hchars : (name ++ "." ++ String.intercalate "." (next :: rest)).toList =
          name.toList ++ '.' :: (String.intercalate "." (next :: rest)).toList := by simp
      have hrest := ih (by simp) hnames.2
      unfold components at hrest
      rw [String.intercalate_cons_cons, components, hchars, splitChars_append hdot, List.map_cons,
        String.ofList_toList, hrest]

end Text

namespace Schema

def File.paths (f : File) : List (List String) := f.visible.map fun p => p.1 ++ [p.2.name]

/-- The names that the namespace at a path declares. The empty path is that of the module. -/
def File.members (f : File) (path : List String) : List String :=
  (f.visible.filter fun p => p.1 = path).map fun p => p.2.name

/-- What names lead to as members, one after the other, of what stands at a path. -/
def File.follow (f : File) (path : List String) : List String → Option (List String)
  | [] => some path
  | name :: names => if name ∈ f.members path then f.follow (path ++ [name]) names else none

/-- The path of what a reference stands for in a scope. The first name is that of the innermost namespace
of the scope that declares it, the module last. -/
def File.resolve (f : File) (scope : List String) : List String → Option (List String)
  | [] => none
  | first :: names =>
    (scope.inits.reverse.find? fun s => first ∈ f.members s).bind fun s => f.follow s (first :: names)

section Resolve

variable {f : File}

theorem File.mem_members {path : List String} {name : String} :
    name ∈ f.members path ↔ path ++ [name] ∈ f.paths := by
  simp only [members, paths, List.mem_map, List.mem_filter, decide_eq_true_eq]
  constructor
  · intro h
    obtain ⟨p, ⟨hp, rfl⟩, rfl⟩ := h
    exact ⟨p, hp, rfl⟩
  · intro h
    obtain ⟨p, hp, heq⟩ := h
    obtain ⟨hscope, hname⟩ := List.append_inj' heq rfl
    exact ⟨p, ⟨hp, hscope⟩, List.singleton_inj.mp hname⟩

theorem Message.scope_of_visible {m : Message} {scope : List String} {p : List String × Message}
    (hp : p ∈ m.visible scope) :
    p.1 = scope ∨ ∃ q ∈ m.visible scope, q.1 ++ [q.2.name] = p.1 := by
  induction m using Message.induct generalizing scope with
  | step m ih =>
    obtain ⟨hm, hp⟩ := Message.mem_visible.mp hp
    rcases hp with rfl | ⟨n, hn, hp⟩
    · exact Or.inl rfl
    · rcases ih n hn hp with hscope | ⟨q, hq, hqp⟩
      · exact Or.inr ⟨(scope, m), Message.mem_visible.mpr ⟨hm, Or.inl rfl⟩, hscope.symm⟩
      · exact Or.inr ⟨q, Message.mem_visible.mpr ⟨hm, Or.inr ⟨n, hn, hq⟩⟩, hqp⟩

theorem File.path_of_concat {path : List String} {name : String} (h : path ++ [name] ∈ f.paths) :
    path = [] ∨ path ∈ f.paths := by
  obtain ⟨p, hp, heq⟩ := List.mem_map.mp h
  obtain ⟨rfl, -⟩ := List.append_inj' heq rfl
  obtain ⟨m, hm, hp⟩ := List.mem_flatMap.mp hp
  rcases Message.scope_of_visible hp with hscope | ⟨q, hq, hqp⟩
  · exact Or.inl hscope
  · exact Or.inr (List.mem_map.mpr ⟨q, List.mem_flatMap.mpr ⟨m, hm, hq⟩, hqp⟩)

theorem File.follow_concat (path names : List String) (name : String) :
    f.follow path (names ++ [name]) =
      (f.follow path names).bind fun s => if name ∈ f.members s then some (s ++ [name]) else none := by
  induction names generalizing path with
  | nil => rfl
  | cons first names ih =>
    rw [List.cons_append, follow, follow]
    split
    · exact ih (path ++ [first])
    · rfl

theorem File.follow_eq_some {path names target : List String} (h : f.follow path names = some target) :
    target = path ++ names := by
  induction names generalizing path with
  | nil =>
    rw [List.append_nil]
    exact (Option.some.inj h).symm
  | cons name names ih =>
    rw [follow] at h
    split at h
    · rw [ih h, List.append_assoc, List.singleton_append]
    · cases h

theorem File.follow_module {path : List String} :
    f.follow [] path = some path ↔ path = [] ∨ path ∈ f.paths := by
  -- The last name is split off, since the path without it is again that of a visible message.
  induction path using List.reverseRecOn with
  | nil => simp [follow]
  | append_singleton names name ih =>
    rw [follow_concat]
    constructor
    · intro h
      obtain ⟨s, hs, h⟩ := Option.bind_eq_some_iff.mp h
      rw [follow_eq_some hs, List.nil_append] at h
      split at h
      · rename_i hmem
        exact Or.inr (mem_members.mp hmem)
      · cases h
    · intro h
      rcases h with hnil | hpath
      · simp at hnil
      · rw [ih.mpr (path_of_concat hpath), Option.bind_some, if_pos (mem_members.mpr hpath)]

theorem mem_tail_inits {α : Type} {s l : List α} : s ∈ l.inits.tail ↔ s <+: l ∧ s ≠ [] := by
  cases l with
  | nil => simp
  | cons a l =>
    rw [List.inits_cons, List.tail_cons, List.mem_map, List.prefix_cons_iff]
    simp only [List.mem_inits]
    constructor
    · intro h
      obtain ⟨t, ht, rfl⟩ := h
      exact ⟨Or.inr ⟨t, rfl, ht⟩, List.cons_ne_nil a t⟩
    · intro h
      rcases h.1 with hnil | ⟨t, hs, ht⟩
      · exact absurd hnil h.2
      · exact ⟨t, ht, hs.symm⟩

theorem find?_inits_eq_nil {α : Type} {p : List α → Bool} {l : List α} :
    l.inits.reverse.find? p = some [] ↔ p [] = true ∧ ∀ s, s <+: l → s ≠ [] → p s = false := by
  have hinits : l.inits.reverse = l.inits.tail.reverse ++ [[]] := by
    cases l <;> simp
  rw [hinits, List.find?_append, Option.or_eq_some_iff]
  constructor
  · intro h
    rcases h with hinner | ⟨hinner, houter⟩
    · have hmem := List.mem_reverse.mp (List.mem_of_find?_eq_some hinner)
      exact absurd rfl (mem_tail_inits.mp hmem).2
    · refine ⟨List.find?_some houter, ?_⟩
      intro s hs hne
      have hmem := List.mem_reverse.mpr (mem_tail_inits.mpr ⟨hs, hne⟩)
      exact Bool.eq_false_iff.mpr (List.find?_eq_none.mp hinner s hmem)
  · intro h
    refine Or.inr ⟨List.find?_eq_none.mpr ?_, List.find?_cons_of_pos h.1⟩
    intro s hs
    obtain ⟨hs, hne⟩ := mem_tail_inits.mp (List.mem_reverse.mp hs)
    exact Bool.eq_false_iff.mp (h.2 s hs hne)

theorem File.resolve_eq_self {scope : List String} {first : String} {names : List String} :
    f.resolve scope (first :: names) = some (first :: names) ↔
      first :: names ∈ f.paths ∧ ∀ s, s <+: scope → s ≠ [] → first ∉ f.members s := by
  rw [resolve, Option.bind_eq_some_iff]
  constructor
  · intro h
    obtain ⟨s, hs, hfollow⟩ := h
    -- A namespace inside the module would stay in front of the path that is found.
    have hmodule : s = [] := List.self_eq_append_left.mp (follow_eq_some hfollow)
    subst hmodule
    refine ⟨(follow_module.mp hfollow).resolve_left (List.cons_ne_nil _ _), ?_⟩
    intro s hprefix hne
    exact of_decide_eq_false ((find?_inits_eq_nil.mp hs).2 s hprefix hne)
  · intro h
    have hfollow := follow_module.mpr (Or.inr h.1)
    have hfirst : first ∈ f.members [] := by
      by_contra hnot
      rw [follow, if_neg hnot] at hfollow
      cases hfollow
    refine ⟨[], find?_inits_eq_nil.mpr ⟨decide_eq_true hfirst, ?_⟩, hfollow⟩
    intro s hprefix hne
    exact decide_eq_false (h.2 s hprefix hne)

end Resolve

section Paths

variable {x : Descriptor.File} {f : File}

theorem File.components_localName (hload : File.load x = .ok f) (hnames : f.Named)
    {p : List String × Message} (hp : p ∈ f.located) {e : Export}
    (he : Export.ofMessage f p.2 = .ok e) : Text.components e.localName = p.1 ++ [p.2.name] := by
  rw [File.localName_of_located hload hnames hp he]
  exact Text.components_intercalate (by simp) (File.isName_of_located hnames.messages hp)

theorem File.localName_mem_paths (hload : File.load x = .ok f) (hnames : f.Named)
    (hdistinct : (f.allMessages.map (·.fullName)).Nodup) {m : Message} (hm : m ∈ f.allMessages)
    {e : Export} (he : Export.ofMessage f m = .ok e) :
    Text.components e.localName ∈ f.paths ↔ ∃ p ∈ f.visible, p.2 = m := by
  constructor
  · intro h
    obtain ⟨q, hq, hpath⟩ := List.mem_map.mp h
    -- The message has a path as well; being the same path, the two messages have one full name.
    have hm' := hm
    rw [← File.located_messages] at hm'
    obtain ⟨p, hp, rfl⟩ := List.mem_map.mp hm'
    rw [File.components_localName hload hnames hp he] at hpath
    have hfull : q.2.fullName = p.2.fullName := by
      rw [(File.fullName_of_located hload (File.visible_subset hq)).1, hpath,
        ← (File.fullName_of_located hload hp).1]
    have hmessage := File.mem_allMessages_of_located (File.visible_subset hq)
    exact ⟨q, hq, List.inj_on_of_nodup_map hdistinct hmessage hm hfull⟩
  · intro h
    obtain ⟨p, hp, rfl⟩ := h
    rw [File.components_localName hload hnames (File.visible_subset hp) he]
    exact List.mem_map_of_mem hp

end Paths

end Schema

namespace Declaration

open Text (components Flat flat_append)

/-- A place in the text of a declaration where a type is printed: the rows before its own one, the place of
that row, and what the row prints before the type. -/
structure Occurrence where
  before : List Row
  place : Place
  front : Phrase
  target : Export

namespace Occurrence

def In (o : Occurrence) (rows : List Row) : Prop :=
  ∃ piece back after, Piece.target? piece = some o.target ∧
    rows = o.before ++ phraseRow o.place (o.front ++ piece :: back) :: after

def lead (viewer : String) (o : Occurrence) : String :=
  Layout.render (o.before.map (Row.line viewer)) ++ Line.indentation o.place.depth ++
    Phrase.render viewer o.front

end Occurrence

theorem Piece.spelling_of_target {piece : Piece} {e : Export} (h : piece.target? = some e)
    (name : String) : ∃ tail, piece.spelling name = name ++ tail := by
  have henum : name ++ "Map[keyof " ++ name ++ "Map]" = name ++ ("Map[keyof " ++ (name ++ "Map]")) := by
    simp only [String.append_assoc]
  cases piece with
  | text content => cases h
  | type shown =>
    cases shown with
    | scalar type => cases h
    | message target => exact ⟨"", String.append_empty.symm⟩
    | enum target => exact ⟨_, henum⟩
  | object shown =>
    cases shown with
    | scalar type => cases h
    | message target => exact ⟨".AsObject", rfl⟩
    | enum target => exact ⟨_, henum⟩

namespace Occurrence

variable {viewer : String} {o : Occurrence} {rows : List Row}

theorem In.of_row (i : Nat) (place : Place) (front : Phrase) (piece : Piece) {back : Phrase} {e : Export}
    (hrow : rows[i]? = some (phraseRow place (front ++ piece :: back)))
    (htarget : piece.target? = some e) : In ⟨rows.take i, place, front, e⟩ rows := by
  refine ⟨piece, back, rows.drop (i + 1), htarget, ?_⟩
  obtain ⟨hi, hrow⟩ := List.getElem?_eq_some_iff.mp hrow
  rw [← hrow, ← List.drop_eq_getElem_cons hi, List.take_append_drop]

theorem In.render (h : o.In rows) (viewer : String) :
    ∃ tail, Layout.render (rows.map (Row.line viewer)) =
      o.lead viewer ++ o.target.reference viewer ++ tail := by
  obtain ⟨piece, back, after, htarget, rfl⟩ := h
  obtain ⟨tail, htail⟩ := Piece.spelling_of_target htarget (o.target.reference viewer)
  rw [← Piece.render_eq_spelling htarget] at htail
  have hcons : Phrase.render viewer (piece :: back) = piece.render viewer ++ Phrase.render viewer back := by
    simp [Phrase.render]
  refine ⟨tail ++ Phrase.render viewer back ++ "\n" ++
    Layout.render (after.map (Row.line viewer)), ?_⟩
  rw [List.map_append, Layout.render_append, List.map_cons, Layout.render_cons, phraseRow_line,
    Line.render, Phrase.render_append, hcons, htail, lead]
  simp only [String.append_assoc]

/-- Before a type, the namespaces of its place are open. -/
theorem In.scope_lead (h : o.In rows) {s : Reader} (hread : Reads viewer {} rows s) :
    (Reader.read (o.lead viewer)).scope = o.place.scope := by
  obtain ⟨piece, back, after, -, rfl⟩ := h
  obtain ⟨u, hbefore, hrest⟩ := hread.of_append
  cases hrest with
  | cons _ hlocated _ =>
    obtain ⟨hscope, hflat⟩ := hlocated _ rfl
    rw [Phrase.render_append, flat_append] at hflat
    have hfront : FlatLine (.text o.place.depth (Phrase.render viewer o.front)) := hflat.1
    have hlead : (o.lead viewer).toList = (Layout.render (o.before.map (Row.line viewer))).toList ++
        lineChars (.text o.place.depth (Phrase.render viewer o.front)) := by
      simp [lead, lineChars, Line.indentation]
    have hline := Text.splitChars_of_not_mem hfront.oneLine.not_mem
    rw [Reader.read, hlead, hbefore.read_append, hline, List.foldl_cons, List.foldl_nil,
      step_of_flat u hfront]
    exact hscope

end Occurrence

theorem reference_own {e : Export} {viewer : String} (h : e.fileName = viewer) :
    e.reference viewer = e.localName := if_pos h

section Text

variable {ds : List Descriptor.File} {files : List Schema.File} {f : Schema.File} {index : TypeIndex}

/-- A reference to a message of the same file stands for this message exactly if it is visible and no
namespace open around the reference declares the first name of its path. -/
theorem reference_resolves_iff (hload : ds.mapM Schema.File.load = .ok files)
    (hindex : TypeIndex.ofFiles files = .ok index) (hf : f ∈ files) (hnames : f.Named)
    (hdistinct : (f.allMessages.map (·.fullName)).Nodup) {d : File}
    (hlink : File.link index f = .ok d) {o : Occurrence} (ho : o.In d.allRows) {m : Schema.Message}
    (hm : m ∈ f.allMessages) (htarget : Export.ofMessage f m = .ok o.target) :
    (∃ tail, text index f = .ok (o.lead f.name ++ o.target.reference f.name ++ tail)) ∧
      ((∀ g ∈ files, g.Named) → (Reader.read (o.lead f.name)).scope = o.place.scope) ∧
      (f.resolve o.place.scope (components (o.target.reference f.name)) =
          some (components o.target.localName) ↔
        (∃ p ∈ f.visible, p.2 = m) ∧ ∀ s, s <+: o.place.scope → s ≠ [] →
          ∀ first ∈ (components o.target.localName).head?, first ∉ f.members s) := by
  obtain ⟨x, -, hx⟩ := (mem_results (mapM_eq_ok.mp hload)).mp hf
  refine ⟨?_, ?_, ?_⟩
  · obtain ⟨tail, htail⟩ := ho.render f.name
    refine ⟨tail, ?_⟩
    rw [← htail, ← (File.link_name hlink).1, File.allRows_lines, text, hlink]
    rfl
  · intro hall
    obtain ⟨found, -, hreads⟩ := File.reads hload hindex hall hf hlink
    exact ho.scope_lead hreads
  · obtain ⟨-, -, -, hfile, -⟩ := Export.ofMessage_eq_ok htarget
    rw [reference_own hfile, ← Schema.File.localName_mem_paths hx hnames hdistinct hm htarget]
    obtain ⟨first, names, hpath⟩ := Text.exists_components o.target.localName
    rw [hpath, Schema.File.resolve_eq_self]
    simp only [List.head?_cons, Option.mem_def, Option.some.injEq, forall_eq']

/-- A file in which a nested message has the name of the message around it. -/
def capturedDescriptor : Descriptor.File where
  name := some "a.proto"
  dialect := some "proto3"
  messages := [{
    name := some "A"
    fields := [
      { name := some "x", number := some 1, label := some 1, type := some 11, typeName := some ".A.B" }]
    nested := [
      { name := some "A", nested := [{ name := some "B" }] },
      { name := some "B" }] }]

def capturedField : Schema.Field where
  name := "x"
  number := 1
  type := .message
  typeName := "A.B"

def capturedFile : Schema.File where
  name := "a.proto"
  dialect := .proto3
  messages := [{
    name := "A"
    fullName := "A"
    fields := [capturedField]
    nested := [
      { name := "A", fullName := "A.A", nested := [{ name := "B", fullName := "A.A.B" }] },
      { name := "B", fullName := "A.B" }] }]

def capturedTarget : Export where
  kind := .message
  fullName := "A.B"
  package := ""
  fileName := "a.proto"

def capturedDeclaration : File where
  name := "a.proto"
  package := ""
  dialect := .proto3
  dependencies := []
  messages := [⟨"A", [⟨capturedField, .plain (.message capturedTarget)⟩],
    [⟨"A", [], [⟨"B", [], [], [], [], []⟩], [], [], []⟩, ⟨"B", [], [], [], [], []⟩], [], [], []⟩]
  extensions := []
  enums := []

def capturedMessage : Schema.Message where
  name := "B"
  fullName := "A.B"

theorem capturedMessage_mem : capturedMessage ∈ capturedFile.allMessages :=
  List.mem_of_getElem? (i := 3) rfl

/-- In the class of the outer message the path leads to the message that is meant. -/
theorem capturedFile_class : ∃ index, ∃ o : Occurrence,
    [capturedDescriptor].mapM Schema.File.load = .ok [capturedFile] ∧
    TypeIndex.ofFiles [capturedFile] = .ok index ∧
    File.link index capturedFile = .ok capturedDeclaration ∧ o.In capturedDeclaration.allRows ∧
    o.place = .inClass ["A"] ∧ o.target = capturedTarget ∧
    capturedFile.resolve o.place.scope ["A", "B"] = some ["A", "B"] := by
  have hload : [capturedDescriptor].mapM Schema.File.load = .ok [capturedFile] := rfl
  have ho : Occurrence.In ⟨_, .inClass ["A"], [.text "getX(): "], capturedTarget⟩
      capturedDeclaration.allRows := .of_row 8 _ _ (.type (.message capturedTarget)) rfl rfl
  have hvisible : (["A"], capturedMessage) ∈ capturedFile.visible := List.mem_of_getElem? (i := 3) rfl
  obtain ⟨-, -, hresolves⟩ := reference_resolves_iff hload rfl List.mem_cons_self (by decide)
    (by decide) rfl ho capturedMessage_mem rfl
  refine ⟨_, _, hload, rfl, rfl, ho, rfl, rfl, hresolves.mpr ⟨⟨_, hvisible, rfl⟩, ?_⟩⟩
  intro s hs hne
  exact absurd (List.prefix_nil.mp hs) hne

/-- In its plain-object form the same path leads into the nested message of the same name. -/
theorem capturedFile_objectType : ∃ index, ∃ o : Occurrence,
    [capturedDescriptor].mapM Schema.File.load = .ok [capturedFile] ∧ capturedFile.Named ∧
    (capturedFile.allMessages.map (·.fullName)).Nodup ∧
    TypeIndex.ofFiles [capturedFile] = .ok index ∧
    File.link index capturedFile = .ok capturedDeclaration ∧ o.In capturedDeclaration.allRows ∧
    capturedMessage ∈ capturedFile.allMessages ∧
    Export.ofMessage capturedFile capturedMessage = .ok o.target ∧
    (Reader.read (o.lead capturedFile.name)).scope = ["A"] ∧
    components (o.target.reference capturedFile.name) = ["A", "B"] ∧
    components o.target.localName = ["A", "B"] ∧
    capturedFile.resolve ["A"] ["A", "B"] = some ["A", "A", "B"] := by
  have hload : [capturedDescriptor].mapM Schema.File.load = .ok [capturedFile] := rfl
  have hnames : capturedFile.Named := by decide
  have ho : Occurrence.In ⟨_, .inObjectType ["A"], [.text "x?: "], capturedTarget⟩
      capturedDeclaration.allRows := .of_row 23 _ _ (.object (.message capturedTarget)) rfl rfl
  obtain ⟨found, -, hreads⟩ := File.reads hload rfl (by simpa using hnames) List.mem_cons_self rfl
  exact ⟨_, _, hload, hnames, by decide, rfl, rfl, ho, capturedMessage_mem, rfl, ho.scope_lead hreads,
    rfl, rfl, rfl⟩

end Text

end Declaration

end ProtoStubs

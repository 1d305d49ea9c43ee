import ProtoStubs.Proofs.Indexing
import ProtoStubs.Proofs.LeadingDots
import ProtoStubs.Proofs.Visible

/-!
# The identity of types

A loaded file has the lists of its descriptor, element by element, with the same names and numbers. The full
name of a type is the path to it in the file after the package, and its entry in the index cuts the package
off again, so that the local name is the path. The dots before the name of a type that a field or a method
refers to are not part of the name, and a request that differs in them only is answered alike.
-/

namespace ProtoStubs

namespace Schema

structure Field.Mirrors (d : Descriptor.Field) (f : Field) : Prop where
  name : f.name = d.name.getD ""
  number : f.number = d.number.getD 0

structure EnumValue.Mirrors (d : Descriptor.EnumValue) (v : EnumValue) : Prop where
  name : v.name = d.name.getD ""
  number : v.number = d.number.getD 0

structure Enum.Mirrors (d : Descriptor.Enum) (e : Enum) : Prop where
  name : e.name = d.name.getD ""
  values : List.Forall₂ EnumValue.Mirrors d.values e.values

/-- The message has the lists of the descriptor, at all depths. -/
inductive Message.Mirrors : Descriptor.Message → Message → Prop
  | intro {d : Descriptor.Message} {m : Message} (name : m.name = d.name.getD "")
      (fields : List.Forall₂ Field.Mirrors d.fields m.fields)
      (nested : List.Forall₂ Message.Mirrors d.nested m.nested)
      (enums : List.Forall₂ Enum.Mirrors d.enums m.enums)
      (oneofs : List.Forall₂ (fun o name => name = o.name.getD "") d.oneofs m.oneofs)
      (extensions : List.Forall₂ Field.Mirrors d.extensions m.extensions) : Message.Mirrors d m

structure Service.Mirrors (d : Descriptor.Service) (s : Service) : Prop where
  name : s.name = d.name.getD ""
  methods : List.Forall₂ (fun x m => m.name = x.name.getD "") d.methods s.methods

structure File.Mirrors (d : Descriptor.File) (f : File) : Prop where
  name : f.name = d.name.getD ""
  package : f.package = d.package.getD ""
  dependencies : f.dependencies = d.dependencies
  messages : List.Forall₂ Message.Mirrors d.messages f.messages
  enums : List.Forall₂ Enum.Mirrors d.enums f.enums
  services : List.Forall₂ Service.Mirrors d.services f.services
  extensions : List.Forall₂ Field.Mirrors d.extensions f.extensions

theorem Field.mirrors_of_load {mapEntries : List String} {d : Descriptor.Field} {f : Field}
    (h : Field.load mapEntries d = .ok f) : f.Mirrors d := by
  obtain ⟨type, -, h⟩ := bind_eq_ok.mp h
  obtain ⟨label, -, h⟩ := bind_eq_ok.mp h
  cases pure_eq_ok.mp h
  exact ⟨rfl, rfl⟩

theorem Enum.mirrors_load (scope : String) (d : Descriptor.Enum) : (Enum.load scope d).Mirrors d :=
  ⟨rfl, related_map (fun _ => ⟨rfl, rfl⟩) d.values⟩

theorem Service.mirrors_load (pkg : String) (d : Descriptor.Service) : (Service.load pkg d).Mirrors d :=
  ⟨rfl, List.forall₂_map_right_iff.mpr (List.forall₂_same.mpr fun _ _ => rfl)⟩

theorem Message.mirrors_of_load (d : Descriptor.Message) (scope : String) {m : Message}
    (h : Message.load scope d = .ok m) : m.Mirrors d := by
  induction d using Descriptor.Message.induct generalizing scope m with
  | step d ih =>
    rw [Message.load_eq] at h
    obtain ⟨fields, hfields, h⟩ := bind_eq_ok.mp h
    obtain ⟨nested, hnested, h⟩ := bind_eq_ok.mp h
    obtain ⟨extensions, hextensions, h⟩ := bind_eq_ok.mp h
    cases pure_eq_ok.mp h
    apply Message.Mirrors.intro
    case name => rfl
    case fields =>
      exact related_of_results (mapM_eq_ok.mp hfields) fun _ _ _ hx => Field.mirrors_of_load hx
    case nested =>
      exact related_of_results (mapM_eq_ok.mp hnested) fun n hn _ hx => ih n hn _ hx
    case enums => exact related_map (Enum.mirrors_load _) d.enums
    case oneofs => exact List.forall₂_map_right_iff.mpr (List.forall₂_same.mpr fun _ _ => rfl)
    case extensions =>
      exact related_of_results (mapM_eq_ok.mp hextensions) fun _ _ _ hx => Field.mirrors_of_load hx

theorem File.mirrors_of_load {d : Descriptor.File} {f : File} (h : File.load d = .ok f) :
    f.Mirrors d := by
  obtain ⟨dialect, -, h⟩ := bind_eq_ok.mp h
  obtain ⟨messages, hmessages, h⟩ := bind_eq_ok.mp h
  obtain ⟨extensions, hextensions, h⟩ := bind_eq_ok.mp h
  cases pure_eq_ok.mp h
  rw [loadMessages_eq_mapM] at hmessages
  apply File.Mirrors.mk
  case name | package | dependencies => rfl
  case messages =>
    exact related_of_results (mapM_eq_ok.mp hmessages) fun m _ _ hx => Message.mirrors_of_load m _ hx
  case enums => exact related_map (Enum.mirrors_load _) d.enums
  case services => exact related_map (Service.mirrors_load _) d.services
  case extensions =>
    exact related_of_results (mapM_eq_ok.mp hextensions) fun _ _ _ hx => Field.mirrors_of_load hx

/-- The message holds a type of this kind at the path, its own name in front, and with the full name. -/
inductive Message.Holds : Message → TypeKind → List String → String → Prop
  | self (m : Message) : m.Holds .message [m.name] m.fullName
  | enum {m : Message} {x : Enum} (hx : x ∈ m.enums) : m.Holds .enum [m.name, x.name] x.fullName
  | nested {m n : Message} {kind : TypeKind} {path : List String} {fullName : String}
      (hn : n ∈ m.nested) (h : n.Holds kind path fullName) : m.Holds kind (m.name :: path) fullName

/-- The file holds a type of this kind at the path and with the full name. -/
inductive File.Holds (f : File) : TypeKind → List String → String → Prop
  | message {m : Message} {kind : TypeKind} {path : List String} {fullName : String}
      (hm : m ∈ f.messages) (h : m.Holds kind path fullName) : f.Holds kind path fullName
  | enum {x : Enum} (hx : x ∈ f.enums) : f.Holds .enum [x.name] x.fullName

theorem Message.path_ne_nil_of_holds {m : Message} {kind : TypeKind} {path : List String}
    {fullName : String} (h : m.Holds kind path fullName) : path ≠ [] := by
  cases h <;> exact List.cons_ne_nil _ _

theorem Message.fullName_of_holds {m : Message} {kind : TypeKind} {path : List String}
    {fullName : String} (hm : m.Holds kind path fullName) {d : Descriptor.Message} {scope : String}
    (h : Message.load scope d = .ok m) : fullName = qualifyAll scope path := by
  induction hm generalizing d scope with
  | self m =>
    have hload := Message.loadedFrom h
    rw [hload.fullName, hload.name]
    rfl
  | @enum m x hx =>
    have hload := Message.loadedFrom h
    rw [hload.enums] at hx
    obtain ⟨y, -, rfl⟩ := List.mem_map.mp hx
    rw [hload.name]
    rfl
  | @nested m n kind path fullName hn _ ih =>
    have hload := Message.loadedFrom h
    obtain ⟨y, -, hy⟩ := (mem_results hload.nested).mp hn
    rw [ih hy, hload.name]
    rfl

theorem Message.declared_of_holds {m : Message} {kind : TypeKind} {path : List String}
    {fullName : String} (h : m.Holds kind path fullName) :
    (kind = .message ∧ ∃ n : Message, n.Within m ∧ n.fullName = fullName) ∨
      kind = .enum ∧ ∃ n : Message, n.Within m ∧ ∃ x ∈ n.enums, x.fullName = fullName := by
  induction h with
  | self m => exact .inl ⟨rfl, m, .self m, rfl⟩
  | @enum m x hx => exact .inr ⟨rfl, m, .self m, x, hx, rfl⟩
  | nested hn _ ih =>
    rcases ih with ⟨hkind, p, hp, hname⟩ | ⟨hkind, p, hp, hx⟩
    · exact .inl ⟨hkind, p, .nested hn hp, hname⟩
    · exact .inr ⟨hkind, p, .nested hn hp, hx⟩

theorem Message.holds_of_within {m top : Message} {kind : TypeKind} {path : List String}
    {fullName : String} (hm : m.Within top) (h : m.Holds kind path fullName) :
    ∃ longer, top.Holds kind longer fullName := by
  induction hm with
  | self => exact ⟨path, h⟩
  | nested hn _ ih =>
    obtain ⟨longer, hlonger⟩ := ih
    exact ⟨_, .nested hn hlonger⟩

variable {d : Descriptor.File} {f : File} {kind : TypeKind} {path : List String} {fullName : String}

theorem File.fullName_of_holds (h : File.load d = .ok f) (ht : f.Holds kind path fullName) :
    path ≠ [] ∧ fullName = qualifyAll f.package path := by
  have hload := File.loadedFrom h
  cases ht with
  | message hm ht =>
    obtain ⟨x, -, hx⟩ := (mem_results hload.messages).mp hm
    rw [hload.package]
    exact ⟨Message.path_ne_nil_of_holds ht, Message.fullName_of_holds ht hx⟩
  | enum hx =>
    refine ⟨List.cons_ne_nil _ _, ?_⟩
    rw [hload.enums] at hx
    obtain ⟨y, -, rfl⟩ := List.mem_map.mp hx
    rw [hload.package]
    rfl

theorem File.holds_message_iff :
    (∃ path, f.Holds .message path fullName) ↔ ∃ m, f.Declares m ∧ m.fullName = fullName := by
  constructor
  · intro h
    obtain ⟨path, h⟩ := h
    cases h with
    | @message top _ _ _ htop h =>
      rcases Message.declared_of_holds h with ⟨-, m, hm, hname⟩ | ⟨hkind, -⟩
      · exact ⟨m, ⟨top, htop, hm⟩, hname⟩
      · cases hkind
  · rintro ⟨m, ⟨top, htop, hm⟩, rfl⟩
    obtain ⟨path, hpath⟩ := Message.holds_of_within hm (.self m)
    exact ⟨path, .message htop hpath⟩

theorem File.holds_enum_iff :
    (∃ path, f.Holds .enum path fullName) ↔ ∃ x, f.DeclaresEnum x ∧ x.fullName = fullName := by
  constructor
  · intro h
    obtain ⟨path, h⟩ := h
    cases h with
    | @message top _ _ _ htop h =>
      rcases Message.declared_of_holds h with ⟨hkind, -⟩ | ⟨-, m, hm, x, hx, hname⟩
      · cases hkind
      · exact ⟨x, .inr ⟨m, ⟨top, htop, hm⟩, hx⟩, hname⟩
    | @enum x hx => exact ⟨x, .inl hx, rfl⟩
  · rintro ⟨x, hx | ⟨m, ⟨top, htop, hm⟩, hx⟩, rfl⟩
    · exact ⟨_, .enum hx⟩
    · obtain ⟨path, hpath⟩ := Message.holds_of_within hm (.enum hx)
      exact ⟨path, .message htop hpath⟩

theorem File.exists_find?_of_holds (ht : f.Holds kind path fullName) {before after : List File}
    {index : TypeIndex} (hindex : TypeIndex.ofFiles (before ++ f :: after) = .ok index)
    (hafter : ∀ g ∈ after, ∀ other, ¬ g.Holds kind other fullName) :
    ∃ e, index.find? kind fullName = some e ∧ e.fullName = fullName ∧ e.package = f.package := by
  have hf : f ∈ before ++ f :: after := List.mem_append_right _ List.mem_cons_self
  cases kind with
  | message =>
    obtain ⟨m, hm, hname⟩ := File.holds_message_iff.mp ⟨path, ht⟩
    have hm := File.declares_iff.mp hm
    obtain ⟨e, he⟩ := (TypeIndex.exists_find?_message hindex).mpr ⟨f, hf, m, hm, hname⟩
    obtain ⟨p, hlast, hp⟩ := TypeIndex.describesMessage_of_find? hindex he
    have hfile : p.1 = f := hlast.fst_eq ⟨m, hm, hname⟩ fun g hg n hn hnname =>
      (File.holds_message_iff.mpr ⟨n, File.declares_iff.mpr hn, hnname⟩).elim (hafter g hg)
    exact ⟨e, he, (TypeIndex.mem_of_find? he).2.2, hp.package.trans (congrArg _ hfile)⟩
  | enum =>
    obtain ⟨x, hx, hname⟩ := File.holds_enum_iff.mp ⟨path, ht⟩
    have hx := File.declaresEnum_iff.mp hx
    obtain ⟨e, he⟩ := (TypeIndex.exists_find?_enum hindex).mpr ⟨f, hf, x, hx, hname⟩
    obtain ⟨p, hlast, hp⟩ := TypeIndex.describesEnum_of_find? hindex he
    have hfile : p.1 = f := hlast.fst_eq ⟨x, hx, hname⟩ fun g hg y hy hyname =>
      (File.holds_enum_iff.mpr ⟨y, File.declaresEnum_iff.mpr hy, hyname⟩).elim (hafter g hg)
    exact ⟨e, he, (TypeIndex.mem_of_find? he).2.2, hp.package.trans (congrArg _ hfile)⟩

/-- A type's full name is its path after the package of its file, and its entry in the index has the path as
its local name. Loading keeps every list, and dots before references change nothing. -/
theorem identity_of_load :
    (∀ d f, File.load d = .ok f →
      f.Mirrors d ∧
      (Succeeds (TypeIndex.ofFiles [f]) ↔ ∀ m, f.Declares m → ¬ m.Incomplete) ∧
      ∀ kind path fullName, f.Holds kind path fullName →
        (f.package = "" → ∀ name ∈ path, name ≠ "") →
        fullName = (if f.package = "" then "" else f.package ++ ".") ++ String.intercalate "." path ∧
        ∀ before after index, TypeIndex.ofFiles (before ++ f :: after) = .ok index →
          (∀ g ∈ after, ∀ other, ¬ g.Holds kind other fullName) →
          ∃ e, index.find? kind fullName = some e ∧ e.package = f.package ∧
            e.localName = String.intercalate "." path ∧ qualify e.package e.localName = fullName) ∧
    (∀ d d', Descriptor.File.SameButDots d d' → File.load d' = File.load d) ∧
    ∀ r r' override, Descriptor.Request.SameButDots r r' →
      generate r' override = generate r override ∧
        generationNotices r' override = generationNotices r override := by
  refine ⟨?_, fun d d' => File.load_sameButDots, fun r r' override => generate_sameButDots override⟩
  intro d f h
  refine ⟨File.mirrors_of_load h, ?_, ?_⟩
  · have hfails := @TypeIndex.not_succeeds_ofFiles [f]
    simp only [List.mem_singleton, exists_eq_left] at hfails
    rw [← not_iff_not, hfails]
    push Not
    rfl
  · intro kind path fullName ht hnames
    obtain ⟨hpath, hfull⟩ := File.fullName_of_holds h ht
    have hjoined := hfull.trans (qualifyAll_eq hpath hnames)
    refine ⟨hjoined, ?_⟩
    intro before after index hindex hafter
    obtain ⟨e, he, hname, hpackage⟩ := File.exists_find?_of_holds ht hindex hafter
    have hlocal : e.localName = String.intercalate "." path := by
      rw [Export.localName, hname, hpackage, hfull]
      exact withinPackage_qualifyAll hpath hnames
    refine ⟨e, he, hpackage, hlocal, ?_⟩
    rw [hlocal, hpackage, hjoined, qualify]
    split
    · exact (String.empty_append).symm
    · rfl

end Schema

end ProtoStubs

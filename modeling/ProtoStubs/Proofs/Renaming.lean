import Mathlib.Data.List.TakeWhile
import Mathlib.Logic.Function.Basic
import ProtoStubs.Proofs.Agreeing
import ProtoStubs.Proofs.Loading

/-!
# Other names for the same types

A renaming replaces full names, and all references to them. Loading renamed descriptors gives the loaded
messages, renamed: names are only put together, compared with each other, and kept.
-/

namespace ProtoStubs

namespace Descriptor

/-- A reference keeps the dots in front of its name. -/
def renameReference (ρ : String → String) (reference : String) : String :=
  String.ofList (reference.toList.takeWhile (· == '.')) ++ ρ (Schema.bareTypeName reference)

def Field.rename (ρ : String → String) (d : Field) : Field :=
  { d with typeName := d.typeName.map (renameReference ρ) }

mutual

def Message.rename (ρ : String → String) : Message → Message
  | ⟨name, fields, nested, enums, oneofs, extensions, options⟩ =>
    ⟨name, fields.map (Field.rename ρ), renameMessages ρ nested, enums, oneofs,
      extensions.map (Field.rename ρ), options⟩

def renameMessages (ρ : String → String) : List Message → List Message
  | [] => []
  | m :: rest => m.rename ρ :: renameMessages ρ rest

end

theorem renameMessages_eq_map (ρ : String → String) (ms : List Message) :
    renameMessages ρ ms = ms.map (Message.rename ρ) := by
  induction ms with
  | nil => rfl
  | cons m rest ih => simp [renameMessages, ih]

theorem Message.rename_eq (ρ : String → String) (m : Message) :
    m.rename ρ = { m with
      fields := m.fields.map (Field.rename ρ)
      nested := m.nested.map (Message.rename ρ)
      extensions := m.extensions.map (Field.rename ρ) } := by
  cases m
  simp only [Message.rename, renameMessages_eq_map]

theorem Message.fullName_rename (ρ : String → String) (scope : String) (m : Message) :
    (m.rename ρ).fullName scope = m.fullName scope := by
  rw [rename_eq, fullName, ownName, fullName, ownName]

theorem Message.isMapEntry_rename (ρ : String → String) (m : Message) :
    (m.rename ρ).isMapEntry = m.isMapEntry := by
  rw [rename_eq, isMapEntry, isMapEntry]

def Method.rename (ρ : String → String) (d : Method) : Method :=
  { d with
    inputType := d.inputType.map (renameReference ρ)
    outputType := d.outputType.map (renameReference ρ) }

def Service.rename (ρ : String → String) (d : Service) : Service :=
  { d with methods := d.methods.map (Method.rename ρ) }

def File.rename (ρ : String → String) (package : Option String) (d : File) : File :=
  { d with
    package
    messages := renameMessages ρ d.messages
    services := d.services.map (Service.rename ρ)
    extensions := d.extensions.map (Field.rename ρ) }

end Descriptor

namespace Schema

def Field.rename (ρ : String → String) (f : Field) : Field := { f with typeName := ρ f.typeName }

def Enum.rename (ρ : String → String) (e : Enum) : Enum := { e with fullName := ρ e.fullName }

mutual

def Message.rename (ρ : String → String) : Message → Message
  | ⟨name, fullName, fields, nested, enums, oneofs, extensions, isMapEntry⟩ =>
    ⟨name, ρ fullName, fields.map (Field.rename ρ), renameMessages ρ nested,
      enums.map (Enum.rename ρ), oneofs, extensions.map (Field.rename ρ), isMapEntry⟩

def renameMessages (ρ : String → String) : List Message → List Message
  | [] => []
  | m :: rest => m.rename ρ :: renameMessages ρ rest

end

theorem renameMessages_eq_map (ρ : String → String) (ms : List Message) :
    renameMessages ρ ms = ms.map (Message.rename ρ) := by
  induction ms with
  | nil => rfl
  | cons m rest ih => simp [renameMessages, ih]

theorem Message.rename_eq (ρ : String → String) (m : Message) :
    m.rename ρ = { m with
      fullName := ρ m.fullName
      fields := m.fields.map (Field.rename ρ)
      nested := m.nested.map (Message.rename ρ)
      enums := m.enums.map (Enum.rename ρ)
      extensions := m.extensions.map (Field.rename ρ) } := by
  cases m
  simp only [Message.rename, renameMessages_eq_map]

def Method.rename (ρ : String → String) (m : Method) : Method :=
  { m with inputType := ρ m.inputType, outputType := ρ m.outputType }

/-! ## Full names in another package -/

/-- A scope of a file, from its name inside the package. -/
def inPackage (pkg scope : String) : String := if scope = "" then pkg else qualify pkg scope

theorem qualify_ne_empty {name : String} (h : name ≠ "") (scope : String) :
    qualify scope name ≠ "" := by
  unfold qualify
  split
  · exact h
  · simp

theorem inPackage_empty (pkg : String) : inPackage pkg "" = pkg := if_pos rfl

theorem qualify_inPackage (pkg scope name : String) :
    qualify (inPackage pkg scope) name = qualify pkg (qualify scope name) := by
  unfold inPackage
  by_cases hscope : scope = ""
  · simp [hscope, qualify]
  · rw [if_neg hscope]
    by_cases hpkg : pkg = "" <;> simp [qualify, hpkg, hscope, String.append_assoc]

theorem inPackage_qualify {name : String} (h : name ≠ "") (pkg scope : String) :
    inPackage pkg (qualify scope name) = qualify (inPackage pkg scope) name := by
  rw [qualify_inPackage, inPackage, if_neg (qualify_ne_empty h scope)]

/-- These names go from the one package to the other. -/
def Moves (ρ : String → String) (pkg pkg' : String) (names : List String) : Prop :=
  ∀ name, qualify pkg name ∈ names → ρ (qualify pkg name) = qualify pkg' name

def Bare (name : String) : Prop := name.toList.head? ≠ some '.'

theorem bareTypeName_of_bare {name : String} (h : Bare name) : bareTypeName name = name := by
  have hdrop : name.toList.dropWhile (· == '.') = name.toList := by
    unfold Bare at h
    generalize name.toList = cs at h
    cases cs with
    | nil => rfl
    | cons c cs => rw [List.dropWhile_cons_of_neg (by simpa using h)]
  rw [bareTypeName, hdrop, String.ofList_toList]

theorem bare_bareTypeName (name : String) : Bare (bareTypeName name) := by
  have h := List.head?_dropWhile_not (· == '.') name.toList
  rw [Bare, bareTypeName, String.toList_ofList]
  intro hdot
  simp [hdot] at h

/-- Different names stay different, and a reference is still told from the dots in front of it. -/
structure IsRenaming (ρ : String → String) : Prop where
  injective : Function.Injective ρ
  empty : ρ "" = ""
  bare : ∀ name, Bare name → Bare (ρ name)

section Load

variable {ρ : String → String} (hρ : IsRenaming ρ)

include hρ

theorem IsRenaming.bareTypeName_renameReference (reference : String) :
    bareTypeName (Descriptor.renameReference ρ reference) = ρ (bareTypeName reference) := by
  have hdots : ∀ c ∈ reference.toList.takeWhile (· == '.'), (c == '.') = true := fun c hc =>
    List.mem_takeWhile_imp (p := (· == '.')) hc
  conv_rhs => rw [← bareTypeName_of_bare (hρ.bare _ (bare_bareTypeName reference))]
  rw [bareTypeName, Descriptor.renameReference, String.toList_append, String.toList_ofList,
    List.dropWhile_append_of_pos hdots, ← bareTypeName]

theorem IsRenaming.bareTypeName_map (reference : Option String) :
    bareTypeName ((reference.map (Descriptor.renameReference ρ)).getD "") =
      ρ (bareTypeName (reference.getD "")) := by
  cases reference with
  | none => exact hρ.empty.symm
  | some reference => exact hρ.bareTypeName_renameReference reference

theorem Field.load_rename (mapEntries : List String) (d : Descriptor.Field) :
    Agree (fun f f' => f' = f.rename ρ) (Field.load mapEntries d)
      (Field.load (mapEntries.map ρ) (d.rename ρ)) := by
  refine (Agree.refl (R := Eq) (fun _ => rfl) _).bind fun type _ htype => ?_
  subst htype
  refine (Agree.refl (R := Eq) (fun _ => rfl) _).bind fun label _ hlabel => ?_
  subst hlabel
  apply agree_pure
  simp [Field.rename, Descriptor.Field.rename, hρ.bareTypeName_map,
    List.mem_map_of_injective hρ.injective]

theorem Field.load_rename_extension (d : Descriptor.Field) :
    Agree (fun f f' => f' = f.rename ρ) (Field.load [] d) (Field.load [] (d.rename ρ)) :=
  Field.load_rename hρ [] d

theorem Method.load_rename (d : Descriptor.Method) :
    Method.load (d.rename ρ) = (Method.load d).rename ρ := by
  simp [Method.load, Method.rename, Descriptor.Method.rename, hρ.bareTypeName_map]

variable {pkg pkg' : String} {names : List String}

omit hρ in
theorem Moves.qualify (h : Moves ρ pkg pkg' names) {scope name : String}
    (hname : qualify (inPackage pkg scope) name ∈ names) :
    ρ (Schema.qualify (inPackage pkg scope) name) = Schema.qualify (inPackage pkg' scope) name := by
  rw [qualify_inPackage] at hname ⊢
  rw [qualify_inPackage]
  exact h _ hname

def DeclaredIn (names : List String) (p : String × Descriptor.Message) : Prop :=
  p.2.ownName ≠ "" ∧ p.2.fullName p.1 ∈ names ∧
    ∀ e ∈ p.2.enums, Descriptor.Enum.fullName (p.2.fullName p.1) e ∈ names

omit hρ in
theorem mapEntryNames_rename (scope : String) {scope' : String} {nested : List Descriptor.Message}
    (h : ∀ n ∈ nested, ρ (n.fullName scope) = n.fullName scope') :
    mapEntryNames scope' (nested.map (Descriptor.Message.rename ρ)) =
      (mapEntryNames scope nested).map ρ := by
  simp only [mapEntryNames, List.filter_map, List.map_map, Function.comp_def,
    Descriptor.Message.isMapEntry_rename]
  refine List.map_congr_left fun n hn => ?_
  exact (n.fullName_rename ρ scope').trans (h n (List.mem_filter.mp hn).1).symm

omit hρ in
theorem Enum.map_load_rename (hmoves : Moves ρ pkg pkg' names) {enums : List Descriptor.Enum}
    {scope : String}
    (h : ∀ e ∈ enums, Descriptor.Enum.fullName (inPackage pkg scope) e ∈ names) :
    (enums.map (Enum.load (inPackage pkg scope))).map (Enum.rename ρ) =
      enums.map (Enum.load (inPackage pkg' scope)) := by
  rw [List.map_map]
  refine List.map_congr_left fun e he => ?_
  have hfull := hmoves.qualify (h e he)
  simp only [Function.comp_apply, Enum.load, Enum.rename, hfull]

theorem Message.load_rename (hmoves : Moves ρ pkg pkg' names) {d : Descriptor.Message}
    {scope : String} (hnames : ∀ p ∈ d.withNested (inPackage pkg scope), DeclaredIn names p) :
    Agree (fun m m' => m' = m.rename ρ) (Message.load (inPackage pkg scope) d)
      (Message.load (inPackage pkg' scope) (d.rename ρ)) := by
  induction d using Descriptor.Message.induct generalizing scope with
  | step d ih =>
    obtain ⟨hname, hfull, henums⟩ := hnames _ (d.mem_withNested_self _)
    have hfull' : ρ (d.fullName (inPackage pkg scope)) = d.fullName (inPackage pkg' scope) :=
      hmoves.qualify hfull
    -- Below the message, its own name is the scope.
    have hscope : d.fullName (inPackage pkg scope) = inPackage pkg (d.fullName scope) :=
      (inPackage_qualify hname pkg scope).symm
    have hscope' : d.fullName (inPackage pkg' scope) = inPackage pkg' (d.fullName scope) :=
      (inPackage_qualify hname pkg' scope).symm
    have hnested : ∀ n ∈ d.nested, ∀ p ∈ n.withNested (inPackage pkg (d.fullName scope)),
        DeclaredIn names p := fun n hn p hp =>
      hnames p (Descriptor.Message.withNested_subset hn (hscope ▸ hp))
    rw [Message.load_eq, Message.load_eq, Descriptor.Message.fullName_rename]
    simp only [Descriptor.Message.rename_eq ρ d]
    rw [mapEntryNames_rename (d.fullName (inPackage pkg scope)) ?entries]
    case entries =>
      intro n hn
      have hmem := (hnested n hn _ (n.mem_withNested_self _)).2.1
      rw [hscope, hscope']
      exact hmoves.qualify hmem
    refine (Agree.mapM_map fun f _ => Field.load_rename hρ _ f).bind fun fields _ hfields => ?_
    subst hfields
    rw [hscope, hscope']
    refine (Agree.mapM_map fun n hn => ih n hn (hnested n hn)).bind fun nested _ hsub => ?_
    subst hsub
    refine (Agree.mapM_map fun f _ => Field.load_rename_extension hρ f).bind
      fun extensions _ hextensions => ?_
    subst hextensions
    apply agree_pure
    have hloaded : (d.enums.map (Enum.load (d.fullName (inPackage pkg scope)))).map (Enum.rename ρ) =
        d.enums.map (Enum.load (d.fullName (inPackage pkg' scope))) := by
      rw [hscope] at henums ⊢
      rw [hscope']
      exact Enum.map_load_rename hmoves henums
    rw [Message.rename_eq, ← hscope, ← hscope', hfull', hloaded]
    rfl

end Load

/-- A service as it is in another package. Its full name tells in which. -/
structure Service.Moved (ρ : String → String) (pkg pkg' : String) (s s' : Service) : Prop where
  name : s'.name = s.name
  fullName : pkg' = pkg → s'.fullName = s.fullName
  methods : s'.methods = s.methods.map (Method.rename ρ)

/-- A loaded file as it is in another package. -/
structure File.Moved (ρ : String → String) (f f' : File) : Prop where
  name : f'.name = f.name
  dialect : f'.dialect = f.dialect
  dependencies : f'.dependencies = f.dependencies
  messages : f'.messages = f.messages.map (Message.rename ρ)
  enums : f'.enums = f.enums.map (Enum.rename ρ)
  extensions : f'.extensions = f.extensions.map (Field.rename ρ)
  services : List.Forall₂ (Service.Moved ρ f.package f'.package) f.services f'.services

end Schema

namespace Descriptor

def File.typeNames (d : File) : List String := d.messageNames ++ d.enumNames

theorem File.declaredIn_typeNames {d : File} (hnames : ∀ p ∈ d.allMessages, p.2.ownName ≠ "")
    {m : Message} (hm : m ∈ d.messages) :
    ∀ p ∈ m.withNested d.ownPackage, Schema.DeclaredIn d.typeNames p := by
  intro p hp
  have hmem : p ∈ d.allMessages := by
    rw [allMessages, allNested_eq_flatMap]
    exact List.mem_flatMap.mpr ⟨m, hm, hp⟩
  refine ⟨hnames p hmem, ?_, ?_⟩
  · exact List.mem_append_left _ (List.mem_map.mpr ⟨p, hmem, rfl⟩)
  · intro e he
    refine List.mem_append_right _ (List.mem_append_left _ ?_)
    exact List.mem_flatMap.mpr ⟨p, hmem, List.mem_map.mpr ⟨e, he, rfl⟩⟩

end Descriptor

namespace Schema

theorem Service.moved_load {ρ : String → String} (hρ : IsRenaming ρ) (pkg pkg' : String)
    (d : Descriptor.Service) :
    Service.Moved ρ pkg pkg' (Service.load pkg d) (Service.load pkg' (d.rename ρ)) where
  name := rfl
  fullName := by
    intro h
    rw [h]
    rfl
  methods := by
    simp only [Service.load, Descriptor.Service.rename, List.map_map]
    exact List.map_congr_left fun m _ => Method.load_rename hρ m

theorem File.load_rename {ρ : String → String} (hρ : IsRenaming ρ) {d : Descriptor.File}
    {package : Option String} (hmoves : Moves ρ d.ownPackage (package.getD "") d.typeNames)
    (hnames : ∀ p ∈ d.allMessages, p.2.ownName ≠ "") :
    Agree (File.Moved ρ) (File.load d) (File.load (d.rename ρ package)) := by
  have henums : (d.enums.map (Enum.load d.ownPackage)).map (Enum.rename ρ) =
      d.enums.map (Enum.load (package.getD "")) := by
    rw [← inPackage_empty d.ownPackage, ← inPackage_empty (package.getD "")]
    refine Enum.map_load_rename hmoves fun e he => ?_
    rw [inPackage_empty]
    exact List.mem_append_right _ (List.mem_append_right _ (List.mem_map.mpr ⟨e, he, rfl⟩))
  refine (Agree.refl (R := Eq) (fun _ => rfl) _).bind fun dialect _ hdialect => ?_
  subst hdialect
  simp only [loadMessages_eq_mapM, Descriptor.File.rename, Descriptor.renameMessages_eq_map]
  have hmessages : ∀ m ∈ d.messages, Agree (fun m m' => m' = m.rename ρ)
      (Message.load d.ownPackage m) (Message.load (package.getD "") (m.rename ρ)) := by
    intro m hm
    have hdeclared := Descriptor.File.declaredIn_typeNames hnames hm
    rw [← inPackage_empty d.ownPackage] at hdeclared ⊢
    rw [← inPackage_empty (package.getD "")]
    exact Message.load_rename hρ hmoves hdeclared
  refine (Agree.mapM_map hmessages).bind fun messages _ hmessages => ?_
  refine (Agree.mapM_map fun f _ => Field.load_rename_extension hρ f).bind
    fun extensions _ hextensions => ?_
  apply agree_pure
  exact {
    name := rfl
    dialect := rfl
    dependencies := rfl
    messages := hmessages
    enums := henums.symm
    extensions := hextensions
    services := by
      simp only [List.forall₂_map_left_iff, List.forall₂_map_right_iff]
      exact List.forall₂_same.mpr fun s _ => Service.moved_load hρ _ _ s }

end Schema

end ProtoStubs

import ProtoStubs.Proofs.Lookup
import ProtoStubs.Proofs.Loading
import ProtoStubs.Proofs.Names
import ProtoStubs.Text.Split

/-!
# The visible messages of a file

A message is visible if neither it nor a message around it is the pair type of a map. Its path is its name
after the names of the messages around it. In a loaded file the full name of a visible message is its path
under the package, so the export of the message has the dotted path as its local name.
-/

namespace ProtoStubs

namespace Text

def IsName (s : String) : Prop := s ≠ "" ∧ NameChars s

def IsPath (s : String) : Prop := ∀ c ∈ s.toList, isNameChar c = true ∨ c ∈ ['.', '/', '-']

/-- Packages are empty, or names with dots between them. -/
def IsPackage (s : String) : Prop :=
  s = "" ∨ ∀ part ∈ splitChars '.' s.toList, IsName (String.ofList part)

instance (s : String) : Decidable (IsName s) := inferInstanceAs (Decidable (_ ∧ _))

instance (s : String) : Decidable (IsPath s) := List.decidableBAll _ _

instance (s : String) : Decidable (IsPackage s) := inferInstanceAs (Decidable (_ ∨ _))

theorem IsPath.flat {s : String} (h : IsPath s) : Flat s := by
  have hothers : ['.', '/', '-'].all isFlatChar = true := by decide
  intro c hc
  rcases h c hc with hname | hother
  · exact isFlatChar_of_isNameChar hname
  · exact List.all_eq_true.mp hothers c hother

def Dotted (s : String) : Prop := ∀ c ∈ s.toList, isNameChar c = true ∨ c = '.'

theorem Dotted.flat {s : String} (h : Dotted s) : Flat s := by
  intro c hc
  rcases h c hc with hname | rfl
  · exact isFlatChar_of_isNameChar hname
  · decide

theorem IsName.dotted {s : String} (h : IsName s) : Dotted s := fun c hc => .inl (h.2 c hc)

theorem IsPackage.dotted {s : String} (h : IsPackage s) : Dotted s := by
  rcases h with rfl | h
  · intro c hc
    cases hc
  · intro c hc
    rcases mem_splitChars '.' hc with hdot | ⟨part, hpart, hmem⟩
    · exact .inr hdot
    · exact .inl (nameChars_ofList.mp (h part hpart).2 c hmem)

theorem IsPackage.flat {s : String} (h : IsPackage s) : Flat s := h.dotted.flat

end Text

namespace Schema

open Text (IsName IsPath IsPackage Flat)

structure Enum.Named (e : Enum) : Prop where
  name : IsName e.name
  values : ∀ v ∈ e.values, IsName v.name

structure Message.Named (m : Message) : Prop where
  name : IsName m.name
  fields : ∀ f ∈ m.fields, IsName f.name
  enums : ∀ e ∈ m.enums, e.Named
  oneofs : ∀ o ∈ m.oneofs, IsName o
  extensions : ∀ x ∈ m.extensions, IsName x.name

/-- All names of the file are identifiers. -/
structure File.Named (f : File) : Prop where
  name : IsPath f.name
  dependencies : ∀ d ∈ f.dependencies, IsPath d
  package : IsPackage f.package
  messages : ∀ m ∈ f.allMessages, m.Named
  enums : ∀ e ∈ f.enums, e.Named
  extensions : ∀ x ∈ f.extensions, IsName x.name

structure File.TypesNamed (f : File) : Prop where
  name : IsPath f.name
  package : IsPackage f.package
  messages : ∀ m ∈ f.allMessages, m.Named
  enums : ∀ e ∈ f.enums, e.Named

theorem File.Named.typesNamed {f : File} (h : f.Named) : f.TypesNamed :=
  ⟨h.name, h.package, h.messages, h.enums⟩

instance (e : Enum) : Decidable e.Named :=
  decidable_of_iff (IsName e.name ∧ ∀ v ∈ e.values, IsName v.name)
    ⟨fun h => ⟨h.1, h.2⟩, fun h => ⟨h.name, h.values⟩⟩

instance (m : Message) : Decidable m.Named :=
  decidable_of_iff (IsName m.name ∧ (∀ f ∈ m.fields, IsName f.name) ∧ (∀ e ∈ m.enums, e.Named) ∧
      (∀ o ∈ m.oneofs, IsName o) ∧ ∀ x ∈ m.extensions, IsName x.name)
    ⟨fun h => ⟨h.1, h.2.1, h.2.2.1, h.2.2.2.1, h.2.2.2.2⟩,
      fun h => ⟨h.name, h.fields, h.enums, h.oneofs, h.extensions⟩⟩

instance (f : File) : Decidable f.Named :=
  decidable_of_iff (IsPath f.name ∧ (∀ d ∈ f.dependencies, IsPath d) ∧ IsPackage f.package ∧
      (∀ m ∈ f.allMessages, m.Named) ∧ (∀ e ∈ f.enums, e.Named) ∧ ∀ x ∈ f.extensions, IsName x.name)
    ⟨fun h => ⟨h.1, h.2.1, h.2.2.1, h.2.2.2.1, h.2.2.2.2.1, h.2.2.2.2.2⟩,
      fun h => ⟨h.name, h.dependencies, h.package, h.messages, h.enums, h.extensions⟩⟩

instance (f : File) : Decidable f.TypesNamed :=
  decidable_of_iff (IsPath f.name ∧ IsPackage f.package ∧ (∀ m ∈ f.allMessages, m.Named) ∧
      ∀ e ∈ f.enums, e.Named)
    ⟨fun h => ⟨h.1, h.2.1, h.2.2.1, h.2.2.2⟩, fun h => ⟨h.name, h.package, h.messages, h.enums⟩⟩

mutual

/-- The message and the messages nested in it that are visible, each before those nested in it and beside
the names of the messages around it. -/
def Message.visible (scope : List String) : Message → List (List String × Message)
  | ⟨name, fullName, fields, nested, enums, oneofs, extensions, isMapEntry⟩ =>
    if isMapEntry then []
    else (scope, ⟨name, fullName, fields, nested, enums, oneofs, extensions, isMapEntry⟩) ::
      visibleMessages (scope ++ [name]) nested

def visibleMessages (scope : List String) : List Message → List (List String × Message)
  | [] => []
  | m :: rest => m.visible scope ++ visibleMessages scope rest

end

theorem visibleMessages_eq_flatMap (scope : List String) (ms : List Message) :
    visibleMessages scope ms = ms.flatMap (Message.visible scope) := by
  induction ms with
  | nil => rfl
  | cons m rest ih => simp [visibleMessages, ih]

theorem Message.visible_eq (scope : List String) (m : Message) :
    m.visible scope =
      if m.isMapEntry then []
      else (scope, m) :: m.nested.flatMap (Message.visible (scope ++ [m.name])) := by
  cases m
  simp only [Message.visible, visibleMessages_eq_flatMap]

theorem Message.mem_visible {scope : List String} {m : Message} {p : List String × Message} :
    p ∈ m.visible scope ↔ m.isMapEntry = false ∧
      (p = (scope, m) ∨ ∃ n ∈ m.nested, p ∈ n.visible (scope ++ [m.name])) := by
  rw [Message.visible_eq]
  cases m.isMapEntry with
  | true => simp
  | false => simp

mutual

def Message.located (scope : List String) : Message → List (List String × Message)
  | ⟨name, fullName, fields, nested, enums, oneofs, extensions, isMapEntry⟩ =>
    (scope, ⟨name, fullName, fields, nested, enums, oneofs, extensions, isMapEntry⟩) ::
      locatedMessages (scope ++ [name]) nested

def locatedMessages (scope : List String) : List Message → List (List String × Message)
  | [] => []
  | m :: rest => m.located scope ++ locatedMessages scope rest

end

theorem locatedMessages_eq_flatMap (scope : List String) (ms : List Message) :
    locatedMessages scope ms = ms.flatMap (Message.located scope) := by
  induction ms with
  | nil => rfl
  | cons m rest ih => simp [locatedMessages, ih]

theorem Message.located_eq (scope : List String) (m : Message) :
    m.located scope = (scope, m) :: m.nested.flatMap (Message.located (scope ++ [m.name])) := by
  cases m
  simp only [Message.located, locatedMessages_eq_flatMap]

theorem Message.mem_located {scope : List String} {m : Message} {p : List String × Message} :
    p ∈ m.located scope ↔ p = (scope, m) ∨ ∃ n ∈ m.nested, p ∈ n.located (scope ++ [m.name]) := by
  rw [Message.located_eq, List.mem_cons, List.mem_flatMap]

theorem Message.located_messages (scope : List String) (m : Message) :
    (m.located scope).map (·.2) = m.withNested := by
  induction m using Message.induct generalizing scope with
  | step m ih =>
    rw [Message.located_eq, Message.withNested_eq, List.map_cons, List.map_flatMap]
    exact congrArg (m :: ·) (List.flatMap_congr fun n hn => ih n hn _)

def File.located (f : File) : List (List String × Message) := f.messages.flatMap (Message.located [])

theorem File.located_messages (f : File) : f.located.map (·.2) = f.allMessages := by
  rw [located, allMessages, allNested_eq_flatMap, List.map_flatMap]
  exact List.flatMap_congr fun m _ => Message.located_messages [] m

theorem File.mem_allMessages_of_located {f : File} {p : List String × Message} (hp : p ∈ f.located) :
    p.2 ∈ f.allMessages :=
  File.located_messages f ▸ List.mem_map_of_mem hp

def File.visible (f : File) : List (List String × Message) := f.messages.flatMap (Message.visible [])

def File.visibleEnums (f : File) : List Enum := f.visible.flatMap (·.2.enums) ++ f.enums

theorem Message.visible_subset {m : Message} {scope : List String} {p : List String × Message}
    (hp : p ∈ m.visible scope) : p ∈ m.located scope := by
  induction m using Message.induct generalizing scope with
  | step m ih =>
    obtain ⟨-, hp⟩ := Message.mem_visible.mp hp
    rw [Message.mem_located]
    rcases hp with hself | ⟨n, hn, hp⟩
    · exact Or.inl hself
    · exact Or.inr ⟨n, hn, ih n hn hp⟩

theorem File.visible_subset {f : File} {p : List String × Message} (hp : p ∈ f.visible) :
    p ∈ f.located := by
  obtain ⟨m, hm, hp⟩ := List.mem_flatMap.mp hp
  exact List.mem_flatMap.mpr ⟨m, hm, Message.visible_subset hp⟩

def qualifyAll (pkg : String) (path : List String) : String := path.foldl qualify pkg

theorem qualifyAll_concat (pkg : String) (path : List String) (name : String) :
    qualifyAll pkg (path ++ [name]) = qualify (qualifyAll pkg path) name := by
  simp [qualifyAll]

theorem qualifyAll_of_ne_empty {pkg : String} (hpkg : pkg ≠ "") (path : List String) :
    qualifyAll pkg path = String.intercalate "." (pkg :: path) := by
  induction path generalizing pkg with
  | nil => simp [qualifyAll]
  | cons name path ih =>
    have hne : pkg ++ "." ++ name ≠ "" := by simp
    -- After the first name the scope is never empty again, so each further name has a dot before it.
    have hstep : qualifyAll pkg (name :: path) = qualifyAll (pkg ++ "." ++ name) path := by
      rw [qualifyAll, List.foldl_cons, qualify, if_neg hpkg]
      rfl
    rw [hstep, ih hne, String.intercalate_cons_cons, String.intercalate_cons_append]

theorem qualifyAll_eq {pkg : String} {path : List String} (hpath : path ≠ [])
    (hnames : pkg = "" → ∀ name ∈ path, name ≠ "") :
    qualifyAll pkg path = (if pkg = "" then "" else pkg ++ ".") ++ String.intercalate "." path := by
  obtain ⟨name, rest, rfl⟩ := List.exists_cons_of_ne_nil hpath
  by_cases hpkg : pkg = ""
  · have hname := hnames hpkg name List.mem_cons_self
    have hstep : qualifyAll "" (name :: rest) = qualifyAll name rest := by
      rw [qualifyAll, List.foldl_cons, qualify, if_pos rfl]
      rfl
    rw [if_pos hpkg, hpkg, hstep, qualifyAll_of_ne_empty hname, String.empty_append]
  · rw [if_neg hpkg, qualifyAll_of_ne_empty hpkg, String.intercalate_cons_cons]

theorem withinPackage_qualifyAll {pkg : String} {path : List String} (hpath : path ≠ [])
    (hnames : pkg = "" → ∀ name ∈ path, name ≠ "") :
    Identifier.withinPackage pkg (qualifyAll pkg path) = String.intercalate "." path := by
  rw [qualifyAll_eq hpath hnames, Identifier.withinPackage]
  by_cases hpkg : pkg = ""
  · rw [if_pos hpkg, if_pos hpkg, String.empty_append]
  · have hlength : pkg.toList.length + 1 = (pkg ++ ".").toList.length := by simp
    rw [if_neg hpkg, if_neg hpkg, hlength, @String.toList_append (pkg ++ "."), List.drop_left,
      String.ofList_toList]

theorem Message.fullName_of_located {scope : String} {d : Descriptor.Message} {m : Message}
    (h : Message.load scope d = .ok m) {pkg : String} {path : List String}
    (hscope : scope = qualifyAll pkg path) {p : List String × Message} (hp : p ∈ m.located path) :
    p.2.fullName = qualifyAll pkg (p.1 ++ [p.2.name]) ∧
      ∀ e ∈ p.2.enums, e.fullName = qualifyAll pkg (p.1 ++ [p.2.name] ++ [e.name]) := by
  induction d using Descriptor.Message.induct generalizing scope m path with
  | step d ih =>
    have hload := Message.loadedFrom h
    have hname : m.fullName = qualifyAll pkg (path ++ [m.name]) := by
      rw [qualifyAll_concat, ← hscope, hload.fullName, hload.name]
      rfl
    rcases Message.mem_located.mp hp with rfl | ⟨n, hn, hp⟩
    · refine ⟨hname, ?_⟩
      intro e he
      rw [hload.enums] at he
      obtain ⟨x, -, rfl⟩ := List.mem_map.mp he
      rw [qualifyAll_concat, ← hname, hload.fullName]
      rfl
    · obtain ⟨x, hx, hxn⟩ := (mem_results hload.nested).mp hn
      exact ih x hx hxn (by rw [← hname, hload.fullName]) hp

theorem File.fullName_of_located {d : Descriptor.File} {f : File} (h : File.load d = .ok f)
    {p : List String × Message} (hp : p ∈ f.located) :
    p.2.fullName = qualifyAll f.package (p.1 ++ [p.2.name]) ∧
      ∀ e ∈ p.2.enums, e.fullName = qualifyAll f.package (p.1 ++ [p.2.name] ++ [e.name]) := by
  obtain ⟨m, hm, hp⟩ := List.mem_flatMap.mp hp
  obtain ⟨x, -, hxm⟩ := (mem_results (File.loadedFrom h).messages).mp hm
  exact Message.fullName_of_located hxm (by rw [(File.loadedFrom h).package]; rfl) hp

theorem Message.names_of_located {m : Message} {scope : List String} {p : List String × Message}
    (hp : p ∈ m.located scope) :
    ∀ name ∈ p.1, name ∈ scope ∨ ∃ n ∈ m.withNested, n.name = name := by
  induction m using Message.induct generalizing scope with
  | step m ih =>
    rcases Message.mem_located.mp hp with rfl | ⟨n, hn, hp⟩
    · exact fun name hname => Or.inl hname
    · intro name hname
      rcases ih n hn hp name hname with hscope | ⟨k, hk, hkname⟩
      · rcases List.mem_append.mp hscope with hscope | hown
        · exact Or.inl hscope
        · exact Or.inr ⟨m, m.mem_withNested_self, (List.mem_singleton.mp hown).symm⟩
      · exact Or.inr ⟨k, Message.withNested_subset hn hk, hkname⟩

theorem File.isName_of_located {f : File} (h : ∀ m ∈ f.allMessages, m.Named) {p : List String × Message}
    (hp : p ∈ f.located) : ∀ name ∈ p.1 ++ [p.2.name], IsName name := by
  have hown := h _ (File.mem_allMessages_of_located hp)
  obtain ⟨m, hm, hp⟩ := List.mem_flatMap.mp hp
  intro name hname
  rcases List.mem_append.mp hname with hname | hname
  · rcases Message.names_of_located hp name hname with hnil | ⟨n, hn, rfl⟩
    · cases hnil
    · exact (h n (File.mem_allMessages.mpr ⟨m, hm, hn⟩)).name
  · rw [List.mem_singleton.mp hname]
    exact hown.name

theorem File.localName_of_located {d : Descriptor.File} {f : File} (h : File.load d = .ok f)
    (hnames : f.Named) {p : List String × Message} (hp : p ∈ f.located) {e : Export}
    (he : Export.ofMessage f p.2 = .ok e) :
    e.localName = String.intercalate "." (p.1 ++ [p.2.name]) := by
  obtain ⟨-, hfull, hpackage, -, -⟩ := Export.ofMessage_eq_ok he
  rw [Export.localName, hfull, hpackage, (File.fullName_of_located h hp).1]
  apply withinPackage_qualifyAll (by simp)
  intro _ name hname
  exact (File.isName_of_located hnames.messages hp name hname).1

theorem File.localName_of_locatedEnum {d : Descriptor.File} {f : File} (h : File.load d = .ok f)
    (hnames : f.Named) {p : List String × Message} (hp : p ∈ f.located) {e : Enum}
    (he : e ∈ p.2.enums) :
    (Export.ofEnum f e).localName = String.intercalate "." (p.1 ++ [p.2.name] ++ [e.name]) := by
  have hown := (hnames.messages _ (File.mem_allMessages_of_located hp)).enums e he
  have hfull := (File.fullName_of_located h hp).2 e he
  rw [Export.localName, Export.ofEnum, hfull]
  apply withinPackage_qualifyAll (by simp)
  intro _ name hname
  rcases List.mem_append.mp hname with hname | hname
  · exact (File.isName_of_located hnames.messages hp name hname).1
  · rw [List.mem_singleton.mp hname]
    exact hown.name.1

theorem File.localName_of_enum {d : Descriptor.File} {f : File} (h : File.load d = .ok f)
    (hnames : f.Named) {e : Enum} (he : e ∈ f.enums) : (Export.ofEnum f e).localName = e.name := by
  have hname := (hnames.enums e he).name
  have hfull : e.fullName = qualifyAll f.package [e.name] := by
    have hload := File.loadedFrom h
    rw [hload.enums] at he
    obtain ⟨x, -, rfl⟩ := List.mem_map.mp he
    rw [hload.package]
    rfl
  rw [Export.localName, Export.ofEnum, hfull,
    withinPackage_qualifyAll (by simp) fun _ => by simpa using hname.1,
    String.intercalate_singleton]

end Schema

end ProtoStubs

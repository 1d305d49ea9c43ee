import ProtoStubs.Proofs.Artifacts
import ProtoStubs.Proofs.Declared
import ProtoStubs.Proofs.LegibleLines

/-!
# The names in stubs

Stubs show the names of services and methods and the types of the methods. In a linked file all of these are
tokens, so they are found again in the texts that show them.
-/

namespace ProtoStubs

open Text (Dotted IsName IsPath IsToken)

theorem Text.Dotted.tokenChars {s : String} (h : Dotted s) : TokenChars s := by
  intro c hc
  rcases h c hc with hname | rfl
  · exact isTokenChar_of_isNameChar hname
  · decide

theorem Text.Dotted.not_mem_newline {s : String} (h : Dotted s) : '\n' ∉ s.toList := by
  intro hmem
  exact absurd (h.tokenChars _ hmem) (by decide)

theorem Export.isToken_namespacedName {e : Export} (hname : Dotted e.fullName) (hfile : IsPath e.fileName) :
    IsToken e.namespacedName := by
  have hlocal : Text.TokenChars e.localName := fun c hc =>
    hname.tokenChars c (Identifier.mem_withinPackage hc)
  exact ((SourcePath.isToken_namespaceName hfile).append (by decide)).append hlocal

namespace Schema

structure Service.Named (s : Service) : Prop where
  name : IsName s.name
  methods : ∀ m ∈ s.methods, IsName m.name

instance (s : Service) : Decidable s.Named :=
  decidable_of_iff (IsName s.name ∧ ∀ m ∈ s.methods, IsName m.name)
    ⟨fun h => ⟨h.1, h.2⟩, fun h => ⟨h.name, h.methods⟩⟩

theorem File.fullName_of_service {d : Descriptor.File} {f : File} (h : File.load d = .ok f) {s : Service}
    (hs : s ∈ f.services) : s.fullName = qualify f.package s.name := by
  have hload := File.loadedFrom h
  rw [hload.services] at hs
  obtain ⟨x, -, rfl⟩ := List.mem_map.mp hs
  rw [hload.package]
  rfl

end Schema

namespace Service

section Linked

variable {index : TypeIndex} (hexports : ∀ e ∈ index.exports, Dotted e.fullName ∧ IsPath e.fileName)

include hexports

theorem Method.named_of_link {viewer : String} {m : Schema.Method} {m' : Method} (hname : IsName m.name)
    (h : Method.link index viewer m = .ok m') : m'.Named := by
  obtain ⟨request, hrequest, h⟩ := bind_eq_ok.mp h
  obtain ⟨response, hresponse, h⟩ := bind_eq_ok.mp h
  cases pure_eq_ok.mp h
  have hrequest := hexports _ (TypeIndex.mem_of_find? (TypeIndex.resolve_eq_ok.mp hrequest)).1
  have hresponse := hexports _ (TypeIndex.mem_of_find? (TypeIndex.resolve_eq_ok.mp hresponse)).1
  exact ⟨hname, Export.isToken_namespacedName hrequest.1 hrequest.2,
    Export.isToken_namespacedName hresponse.1 hresponse.2⟩

theorem Stub.named_of_link {viewer : String} {s : Schema.Service} {s' : Stub} (hs : s.Named)
    (hfull : Dotted s.fullName) (h : Stub.link index viewer s = .ok s') : s'.Named := by
  obtain ⟨methods, hmethods, h⟩ := bind_eq_ok.mp h
  cases pure_eq_ok.mp h
  refine ⟨hs.name, hfull.not_mem_newline, ?_⟩
  intro m' hm'
  obtain ⟨m, hm, hlink⟩ := (mem_results (mapM_eq_ok.mp hmethods)).mp hm'
  exact Method.named_of_link hexports (hs.methods m hm) hlink

theorem File.named_of_link {d : Descriptor.File} {f : Schema.File} {s : File}
    (hload : Schema.File.load d = .ok f) (htypes : f.TypesNamed) (hservices : ∀ x ∈ f.services, x.Named)
    (h : File.link index f = .ok s) : s.Named := by
  obtain ⟨hname, hpackage, himports⟩ := File.imports_of_link h
  refine ⟨?_, ?_, ?_, ?_⟩
  · rw [hname]
    exact fun hmem => absurd (SourcePath.tokenChars_of_isPath htypes.name _ hmem) (by decide)
  · rw [hpackage]
    exact htypes.package.dotted.not_mem_newline
  · obtain ⟨stubs, hstubs, h⟩ := bind_eq_ok.mp h
    cases pure_eq_ok.mp h
    intro stub hstub
    obtain ⟨x, hx, hlink⟩ := (mem_results (mapM_eq_ok.mp hstubs)).mp hstub
    refine Stub.named_of_link hexports (hservices x hx) ?_ hlink
    rw [Schema.File.fullName_of_service hload hx]
    exact Schema.dotted_qualify htypes.package.dotted (hservices x hx).name.dotted
  · intro target htarget
    rw [himports, Schema.File.stubImports, List.mem_cons, List.mem_filter, List.mem_eraseDups,
      List.mem_map] at htarget
    rcases htarget with rfl | ⟨⟨e, he, rfl⟩, -⟩
    · exact htypes.name
    · obtain ⟨x, -, he⟩ := List.mem_flatMap.mp he
      obtain ⟨m, -, he⟩ := List.mem_flatMap.mp he
      obtain ⟨name, -, hfind⟩ := List.mem_filterMap.mp he
      exact (hexports e (TypeIndex.mem_of_find? hfind).1).2

end Linked

end Service

end ProtoStubs

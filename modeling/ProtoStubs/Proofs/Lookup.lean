import Mathlib.Data.List.Induction
import ProtoStubs.Proofs.Nesting
import ProtoStubs.Proofs.Success

/-!
# What the index of types holds

The index is built exactly if every pair type has its key and its value. It then finds the full names of
the declared types and no others, and a name that is declared once leads to its own declaration.
-/

namespace ProtoStubs

theorem Schema.Message.succeeds_mapEntry {m : Schema.Message} :
    Succeeds m.mapEntry ↔ m.isMapEntry = true →
      (∃ f ∈ m.fields, f.name = "key") ∧ ∃ f ∈ m.fields, f.name = "value" := by
  have named (name : String) :
      (∃ f, m.fieldNamed? name = some f) ↔ ∃ f ∈ m.fields, f.name = name := by
    rw [← Option.isSome_iff_exists, fieldNamed?, List.getLast?_isSome, ne_eq, List.filter_eq_nil_iff]
    simp
  unfold mapEntry
  cases hm : m.isMapEntry with
  | false => simp [succeeds_ok]
  | true =>
    rw [← named "key", ← named "value"]
    cases m.fieldNamed? "key" <;> cases m.fieldNamed? "value" <;>
      simp [succeeds_ok, not_succeeds_error]

theorem Schema.Message.mapEntry_of_isMapEntry {m : Schema.Message} {o : Option MapEntry}
    (hm : m.isMapEntry = true) (h : m.mapEntry = .ok o) :
    ∃ key value, m.fieldNamed? "key" = some key ∧ m.fieldNamed? "value" = some value ∧
      o = some ⟨key, value⟩ := by
  unfold mapEntry at h
  rw [if_pos hm] at h
  split at h
  · rename_i key value hkey hvalue
    exact ⟨key, value, hkey, hvalue, (Except.ok.inj h).symm⟩
  · cases h

theorem Export.ofMessage_eq_ok {file : Schema.File} {m : Schema.Message} {e : Export}
    (h : Export.ofMessage file m = .ok e) :
    e.kind = .message ∧ e.fullName = m.fullName ∧ e.package = file.package ∧
      e.fileName = file.name ∧ m.mapEntry = .ok e.mapEntry := by
  obtain ⟨o, ho, h⟩ := bind_eq_ok.mp h
  cases pure_eq_ok.mp h
  exact ⟨rfl, rfl, rfl, rfl, ho⟩

theorem Export.succeeds_ofMessage {file : Schema.File} {m : Schema.Message} :
    Succeeds (Export.ofMessage file m) ↔ Succeeds m.mapEntry :=
  succeeds_bind_of_total fun _ => succeeds_pure _

theorem Export.succeeds_ofFile {file : Schema.File} :
    Succeeds (Export.ofFile file) ↔ ∀ m ∈ file.allMessages, Succeeds m.mapEntry := by
  have hfile : Succeeds (Export.ofFile file) ↔
      Succeeds (file.allMessages.mapM (Export.ofMessage file)) :=
    succeeds_bind_of_total fun _ => succeeds_pure _
  simp only [hfile, succeeds_mapM, Export.succeeds_ofMessage]

theorem Export.mem_ofFile {file : Schema.File} {es : List Export} (h : Export.ofFile file = .ok es)
    {e : Export} :
    e ∈ es ↔ (∃ m ∈ file.allMessages, Export.ofMessage file m = .ok e) ∨
      ∃ x ∈ file.allEnums, Export.ofEnum file x = e := by
  obtain ⟨ms, hms, h⟩ := bind_eq_ok.mp h
  cases pure_eq_ok.mp h
  rw [List.mem_append, mem_results (mapM_eq_ok.mp hms), List.mem_map]

theorem eraseDups_concat (xs : List String) (x : String) :
    (xs ++ [x]).eraseDups = if x ∈ xs then xs.eraseDups else xs.eraseDups ++ [x] := by
  rw [List.eraseDups_append]
  by_cases hx : x ∈ xs
  · have hremove : [x].removeAll xs = [] := by simp [List.removeAll, hx]
    rw [hremove, if_pos hx, List.eraseDups_nil, List.append_nil]
  · have hremove : [x].removeAll xs = [x] := by simp [List.removeAll, hx]
    rw [hremove, if_neg hx, List.eraseDups_cons, List.filter_nil, List.eraseDups_nil]

theorem nodup_eraseDups (xs : List String) : xs.eraseDups.Nodup := by
  induction xs using List.reverseRecOn with
  | nil => exact List.nodup_nil
  | append_singleton xs x ih =>
    rw [eraseDups_concat]
    by_cases hx : x ∈ xs
    · rw [if_pos hx]
      exact ih
    · rw [if_neg hx]
      refine List.nodup_append.mpr ⟨ih, List.pairwise_singleton _ x, ?_⟩
      intro y hy z hz hyz
      rw [List.mem_singleton.mp hz] at hyz
      exact hx (hyz ▸ List.mem_eraseDups.mp hy)

namespace TypeIndex

theorem succeeds_ofFiles {files : List Schema.File} :
    Succeeds (TypeIndex.ofFiles files) ↔
      ∀ f ∈ files, ∀ m ∈ f.allMessages, Succeeds m.mapEntry := by
  have hfiles : Succeeds (TypeIndex.ofFiles files) ↔ Succeeds (files.mapM Export.ofFile) :=
    succeeds_bind_of_total fun _ => succeeds_pure _
  simp only [hfiles, succeeds_mapM, Export.succeeds_ofFile]

variable {files : List Schema.File} {index : TypeIndex}

theorem mem_exports (h : TypeIndex.ofFiles files = .ok index) {e : Export} :
    e ∈ index.exports ↔
      (∃ f ∈ files, ∃ m ∈ f.allMessages, Export.ofMessage f m = .ok e) ∨
        ∃ f ∈ files, ∃ x ∈ f.allEnums, Export.ofEnum f x = e := by
  obtain ⟨groups, hgroups, h⟩ := bind_eq_ok.mp h
  cases pure_eq_ok.mp h
  have hall := mapM_eq_ok.mp hgroups
  simp only [List.mem_flatten, mem_results hall, ← exists_or, ← and_or_left]
  constructor
  · intro h
    obtain ⟨group, ⟨f, hf, hgroup⟩, he⟩ := h
    exact ⟨f, hf, (Export.mem_ofFile hgroup).mp he⟩
  · intro h
    obtain ⟨f, hf, he⟩ := h
    obtain ⟨group, -, hgroup⟩ := exists_related hall hf
    exact ⟨group, ⟨f, hf, hgroup⟩, (Export.mem_ofFile hgroup).mpr he⟩

theorem mem_of_find? {kind : TypeKind} {name : String} {e : Export}
    (h : index.find? kind name = some e) :
    e ∈ index.exports ∧ e.kind = kind ∧ e.fullName = name := by
  have hmem := List.mem_filter.mp (List.mem_of_getLast? h)
  simpa using hmem

theorem exists_find? {kind : TypeKind} {name : String} :
    (∃ e, index.find? kind name = some e) ↔
      ∃ e ∈ index.exports, e.kind = kind ∧ e.fullName = name := by
  rw [← Option.isSome_iff_exists, find?, List.getLast?_isSome, ne_eq, declared,
    List.filter_eq_nil_iff]
  simp

theorem exists_find?_message (h : TypeIndex.ofFiles files = .ok index) {name : String} :
    (∃ e, index.find? .message name = some e) ↔
      ∃ f ∈ files, ∃ m ∈ f.allMessages, m.fullName = name := by
  rw [exists_find?]
  constructor
  · intro h
    obtain ⟨e, he, hkind, hname⟩ := h
    rcases (mem_exports h).mp he with ⟨f, hf, m, hm, hem⟩ | ⟨f, -, x, -, rfl⟩
    · exact ⟨f, hf, m, hm, (Export.ofMessage_eq_ok hem).2.1 ▸ hname⟩
    · cases hkind
  · intro h
    obtain ⟨f, hf, m, hm, rfl⟩ := h
    obtain ⟨e, he⟩ := Export.succeeds_ofMessage.mpr (succeeds_ofFiles.mp ⟨index, h⟩ f hf m hm)
    obtain ⟨hkind, hname, -⟩ := Export.ofMessage_eq_ok he
    exact ⟨e, (mem_exports h).mpr (.inl ⟨f, hf, m, hm, he⟩), hkind, hname⟩

theorem exists_find?_enum (h : TypeIndex.ofFiles files = .ok index) {name : String} :
    (∃ e, index.find? .enum name = some e) ↔
      ∃ f ∈ files, ∃ x ∈ f.allEnums, x.fullName = name := by
  rw [exists_find?]
  constructor
  · intro h
    obtain ⟨e, he, hkind, hname⟩ := h
    rcases (mem_exports h).mp he with ⟨f, -, m, -, hem⟩ | ⟨f, hf, x, hx, rfl⟩
    · rw [(Export.ofMessage_eq_ok hem).1] at hkind
      cases hkind
    · exact ⟨f, hf, x, hx, hname⟩
  · intro h
    obtain ⟨f, hf, x, hx, rfl⟩ := h
    exact ⟨_, (mem_exports h).mpr (.inr ⟨f, hf, x, hx, rfl⟩), rfl, rfl⟩

theorem find?_message (h : TypeIndex.ofFiles files = .ok index) {file : Schema.File}
    (hfile : file ∈ files) {m : Schema.Message} (hm : m ∈ file.allMessages)
    (hunique : ∀ f ∈ files, ∀ n ∈ f.allMessages, n.fullName = m.fullName → f = file ∧ n = m) :
    ∃ e, index.find? .message m.fullName = some e ∧ Export.ofMessage file m = .ok e := by
  obtain ⟨e, he⟩ := (exists_find?_message h).mpr ⟨file, hfile, m, hm, rfl⟩
  refine ⟨e, he, ?_⟩
  obtain ⟨hmem, hkind, hname⟩ := mem_of_find? he
  rcases (mem_exports h).mp hmem with ⟨f, hf, n, hn, hen⟩ | ⟨f, -, x, -, rfl⟩
  · obtain ⟨rfl, rfl⟩ := hunique f hf n hn ((Export.ofMessage_eq_ok hen).2.1 ▸ hname)
    exact hen
  · cases hkind

end TypeIndex

end ProtoStubs

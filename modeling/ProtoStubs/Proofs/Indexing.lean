import Mathlib.Data.Finset.Card
import Mathlib.Data.Finset.Dedup
import ProtoStubs.Proofs.Lookup

/-!
# The index against the declarations

The declarations of a request are walked in the order of its files, and in a file each message comes before
those nested in it. The first pair type on this walk that lacks its key or its value stops the run. Without
one, the index holds the full names of the declared types and no others, and of several declarations with
one name the last on the walk is what the name stands for.
-/

namespace ProtoStubs

section Walk

variable {α : Type}

def IsFirst (p : α → Prop) (xs : List α) (x : α) : Prop :=
  ∃ before after, xs = before ++ x :: after ∧ p x ∧ ∀ y ∈ before, ¬ p y

def IsLast (p : α → Prop) (xs : List α) (x : α) : Prop :=
  ∃ before after, xs = before ++ x :: after ∧ p x ∧ ∀ y ∈ after, ¬ p y

theorem getLast?_filter_iff {p : α → Bool} {xs : List α} {x : α} :
    (xs.filter p).getLast? = some x ↔ IsLast (p · = true) xs x := by
  rw [List.getLast?_filter, List.find?_eq_some_iff_append]
  constructor
  · intro h
    obtain ⟨hx, as, bs, hsplit, has⟩ := h
    refine ⟨bs.reverse, as.reverse, ?_, hx, ?_⟩
    · rw [← List.reverse_reverse xs, hsplit, List.reverse_append, List.reverse_cons,
        List.append_assoc, List.singleton_append]
    · intro y hy
      have hpy := has y (List.mem_reverse.mp hy)
      simpa using hpy
  · intro h
    obtain ⟨before, after, rfl, hx, hafter⟩ := h
    refine ⟨hx, after.reverse, before.reverse, ?_, ?_⟩
    · rw [List.reverse_append, List.reverse_cons, List.append_assoc, List.singleton_append]
    · intro y hy
      have hpy := hafter y (List.mem_reverse.mp hy)
      simpa using hpy

theorem IsLast.mem {p : α → Prop} {xs : List α} {x : α} (h : IsLast p xs x) : x ∈ xs := by
  obtain ⟨before, after, rfl, -⟩ := h
  exact List.mem_append_right _ List.mem_cons_self

theorem IsLast.of_append {p : α → Prop} {xs ys : List α} {x : α} (h : IsLast p (xs ++ ys) x)
    (hys : ∃ y ∈ ys, p y) : IsLast p ys x := by
  obtain ⟨before, after, hsplit, hx, hafter⟩ := h
  rcases List.append_eq_append_iff.mp hsplit with ⟨zs, rfl, rfl⟩ | ⟨zs, rfl, hzs⟩
  · exact ⟨zs, after, rfl, hx, hafter⟩
  · cases zs with
    | nil => exact ⟨[], after, hzs.symm, hx, hafter⟩
    | cons z zs =>
      obtain ⟨y, hy, hpy⟩ := hys
      obtain ⟨-, rfl⟩ := List.cons.inj hzs
      exact absurd hpy (hafter y (List.mem_append_right _ hy))

theorem mem_flatMap_pairs {β : Type} {as : List α} {g : α → List β} {p : α × β} :
    p ∈ as.flatMap (fun a => (g a).map fun b => (a, b)) ↔ p.1 ∈ as ∧ p.2 ∈ g p.1 := by
  obtain ⟨a, b⟩ := p
  simp only [List.mem_flatMap, List.mem_map, Prod.mk.injEq]
  constructor
  · rintro ⟨a, ha, b, hb, rfl, rfl⟩
    exact ⟨ha, hb⟩
  · intro h
    exact ⟨a, h.1, b, h.2, rfl, rfl⟩

theorem IsLast.fst_eq {β : Type} {g : α → List β} {q : β → Prop} {before after : List α} {a : α} {p : α × β}
    (h : IsLast (fun p => q p.2) ((before ++ a :: after).flatMap fun a => (g a).map fun b => (a, b)) p)
    (ha : ∃ b ∈ g a, q b) (hafter : ∀ c ∈ after, ∀ b ∈ g c, ¬ q b) : p.1 = a := by
  obtain ⟨b, hb, hqb⟩ := ha
  rw [List.flatMap_append] at h
  have hlast := h.of_append ⟨(a, b), mem_flatMap_pairs.mpr ⟨List.mem_cons_self, hb⟩, hqb⟩
  obtain ⟨hmem, hp⟩ := mem_flatMap_pairs.mp hlast.mem
  obtain ⟨-, -, -, hq, -⟩ := hlast
  rcases List.mem_cons.mp hmem with heq | hmem
  · exact heq
  · exact absurd hq (hafter p.1 hmem p.2 hp)

end Walk

section Failure

variable {ε α β : Type}

def failure? : Except ε α → Option ε
  | .ok _ => none
  | .error e => some e

theorem failure?_eq_some {x : Except ε α} {e : ε} : failure? x = some e ↔ x = .error e := by
  cases x <;> simp [failure?]

theorem failure?_bind_pure (x : Except ε α) (f : α → β) :
    failure? (x >>= fun a => pure (f a)) = failure? x := by
  cases x <;> rfl

theorem failure?_mapM (f : α → Except ε β) (xs : List α) :
    failure? (xs.mapM f) = xs.findSome? fun x => failure? (f x) := by
  induction xs with
  | nil => rfl
  | cons x xs ih =>
    rw [List.mapM_cons, List.findSome?_cons, ← ih]
    cases f x with
    | error e => rfl
    | ok y => exact failure?_bind_pure (xs.mapM f) (y :: ·)

theorem failure?_eq_none {x : Except ε α} : failure? x = none ↔ Succeeds x := by
  cases x with
  | error e => exact iff_of_false (by simp [failure?]) (not_succeeds_error e)
  | ok a => exact iff_of_true rfl (succeeds_ok a)

/-- A list that is run through fails as its first element that fails. -/
theorem mapM_eq_error {f : α → Except ε β} {xs : List α} {e : ε} :
    xs.mapM f = .error e ↔ ∃ x, IsFirst (fun x => ¬ Succeeds (f x)) xs x ∧ f x = .error e := by
  rw [← failure?_eq_some, failure?_mapM, List.findSome?_eq_some_iff]
  simp only [failure?_eq_none, failure?_eq_some]
  constructor
  · intro h
    obtain ⟨before, x, after, hsplit, hx, hbefore⟩ := h
    have hfails : ¬ Succeeds (f x) := by
      rw [hx]
      exact not_succeeds_error e
    exact ⟨x, ⟨before, after, hsplit, hfails, fun y hy => not_not.mpr (hbefore y hy)⟩, hx⟩
  · intro h
    obtain ⟨x, ⟨before, after, hsplit, -, hbefore⟩, hx⟩ := h
    exact ⟨before, x, after, hsplit, hx, fun y hy => not_not.mp (hbefore y hy)⟩

theorem findSome?_flatMap {γ : Type} (g : α → List β) (f : β → Option γ) (xs : List α) :
    (xs.flatMap g).findSome? f = xs.findSome? fun x => (g x).findSome? f := by
  induction xs with
  | nil => rfl
  | cons x xs ih =>
    rw [List.flatMap_cons, List.findSome?_append, List.findSome?_cons, ih]
    cases (g x).findSome? f <;> rfl

end Failure

namespace Schema

/-- A message stands in another one, at any depth. -/
inductive Message.Within : Message → Message → Prop
  | self (m : Message) : Within m m
  | nested {m n top : Message} (hn : n ∈ top.nested) (h : Within m n) : Within m top

def File.Declares (f : File) (m : Message) : Prop := ∃ top ∈ f.messages, m.Within top

def File.DeclaresEnum (f : File) (x : Enum) : Prop := x ∈ f.enums ∨ ∃ m, f.Declares m ∧ x ∈ m.enums

theorem Message.mem_withNested_iff {m top : Message} : m ∈ top.withNested ↔ m.Within top := by
  constructor
  · intro h
    induction top using Message.induct with
    | step top ih =>
      rw [Message.withNested_eq, List.mem_cons, List.mem_flatMap] at h
      rcases h with rfl | ⟨n, hn, h⟩
      · exact .self _
      · exact .nested hn (ih n hn h)
  · intro h
    induction h with
    | self => exact Message.mem_withNested_self _
    | nested hn _ ih => exact Message.withNested_subset hn ih

theorem File.declares_iff {f : File} {m : Message} : f.Declares m ↔ m ∈ f.allMessages := by
  simp only [File.Declares, File.mem_allMessages, Message.mem_withNested_iff]

theorem File.declaresEnum_iff {f : File} {x : Enum} : f.DeclaresEnum x ↔ x ∈ f.allEnums := by
  simp only [File.DeclaresEnum, File.declares_iff, File.mem_allEnums]
  exact or_comm

/-- A pair type without its key or without its value. -/
def Message.Incomplete (m : Message) : Prop :=
  m.isMapEntry = true ∧ ((∀ f ∈ m.fields, f.name ≠ "key") ∨ ∀ f ∈ m.fields, f.name ≠ "value")

theorem Message.incomplete_iff {m : Message} : m.Incomplete ↔ ¬ Succeeds m.mapEntry := by
  rw [Message.succeeds_mapEntry, Message.Incomplete, Classical.not_imp, not_and_or]
  simp only [not_exists, not_and, ne_eq]

theorem Message.failure?_mapEntry (m : Message) (e : GenerationError) :
    failure? m.mapEntry = some e ↔ m.Incomplete ∧ e = .incompleteMapEntry m.fullName := by
  rw [Message.incomplete_iff, failure?_eq_some]
  constructor
  · intro h
    refine ⟨h ▸ not_succeeds_error e, ?_⟩
    unfold Message.mapEntry at h
    split at h
    · split at h <;> cases h
      rfl
    · cases h
  · intro h
    obtain ⟨hfails, rfl⟩ := h
    unfold Message.mapEntry at hfails ⊢
    split
    · split
      · simp_all [succeeds_ok]
      · rfl
    · simp_all [succeeds_ok]

end Schema

/-- A message as the index has it. -/
structure Export.DescribesMessage (e : Export) (f : Schema.File) (m : Schema.Message) : Prop where
  kind : e.kind = .message
  fullName : e.fullName = m.fullName
  package : e.package = f.package
  fileName : e.fileName = f.name
  pair : m.isMapEntry = true → ∃ pair, e.mapEntry = some pair ∧
    IsLast (·.name = "key") m.fields pair.key ∧ IsLast (·.name = "value") m.fields pair.value
  noPair : m.isMapEntry = false → e.mapEntry = none

/-- An enumeration as the index has it. -/
structure Export.DescribesEnum (e : Export) (f : Schema.File) (x : Schema.Enum) : Prop where
  kind : e.kind = .enum
  fullName : e.fullName = x.fullName
  package : e.package = f.package
  fileName : e.fileName = f.name
  noPair : e.mapEntry = none

theorem Schema.Message.fieldNamed?_iff {m : Schema.Message} {name : String} {f : Schema.Field} :
    m.fieldNamed? name = some f ↔ IsLast (·.name = name) m.fields f := by
  simp only [Schema.Message.fieldNamed?, getLast?_filter_iff, beq_iff_eq]

theorem Export.describesMessage_of_ofMessage {f : Schema.File} {m : Schema.Message} {e : Export}
    (h : Export.ofMessage f m = .ok e) : e.DescribesMessage f m := by
  obtain ⟨hkind, hfullName, hpackage, hfileName, hentry⟩ := Export.ofMessage_eq_ok h
  refine ⟨hkind, hfullName, hpackage, hfileName, ?_, ?_⟩
  · intro hm
    obtain ⟨key, value, hkey, hvalue, hpair⟩ := Schema.Message.mapEntry_of_isMapEntry hm hentry
    exact ⟨⟨key, value⟩, hpair, Schema.Message.fieldNamed?_iff.mp hkey,
      Schema.Message.fieldNamed?_iff.mp hvalue⟩
  · intro hm
    unfold Schema.Message.mapEntry at hentry
    rw [hm] at hentry
    exact (Except.ok.inj hentry).symm

namespace TypeIndex

def messageWalk (files : List Schema.File) : List (Schema.File × Schema.Message) :=
  files.flatMap fun f => f.allMessages.map fun m => (f, m)

def enumWalk (files : List Schema.File) : List (Schema.File × Schema.Enum) :=
  files.flatMap fun f => f.allEnums.map fun x => (f, x)

theorem mem_messageWalk {files : List Schema.File} {p : Schema.File × Schema.Message} :
    p ∈ messageWalk files ↔ p.1 ∈ files ∧ p.1.Declares p.2 := by
  rw [messageWalk, mem_flatMap_pairs, Schema.File.declares_iff]

theorem mem_enumWalk {files : List Schema.File} {p : Schema.File × Schema.Enum} :
    p ∈ enumWalk files ↔ p.1 ∈ files ∧ p.1.DeclaresEnum p.2 := by
  rw [enumWalk, mem_flatMap_pairs, Schema.File.declaresEnum_iff]

theorem failure?_ofFiles (files : List Schema.File) :
    failure? (ofFiles files) = (messageWalk files).findSome? fun p => failure? p.2.mapEntry := by
  have hfile (f : Schema.File) :
      failure? (Export.ofFile f) = f.allMessages.findSome? fun m => failure? m.mapEntry := by
    have hmessage (m : Schema.Message) : failure? (Export.ofMessage f m) = failure? m.mapEntry :=
      failure?_bind_pure m.mapEntry _
    rw [Export.ofFile, failure?_bind_pure, failure?_mapM]
    simp only [hmessage]
  rw [ofFiles, failure?_bind_pure, failure?_mapM, messageWalk, findSome?_flatMap]
  simp only [hfile, List.findSome?_map]
  rfl

/-- The first pair type on the walk that lacks a field is the one reported. -/
theorem ofFiles_eq_error {files : List Schema.File} {e : GenerationError} :
    ofFiles files = .error e ↔
      ∃ p, IsFirst (·.2.Incomplete) (messageWalk files) p ∧
        e = .incompleteMapEntry p.2.fullName := by
  have hnone (m : Schema.Message) : failure? m.mapEntry = none ↔ ¬ m.Incomplete := by
    rw [Schema.Message.incomplete_iff, not_not, failure?_eq_none]
  rw [← failure?_eq_some, failure?_ofFiles, List.findSome?_eq_some_iff]
  simp only [hnone, Schema.Message.failure?_mapEntry]
  constructor
  · intro h
    obtain ⟨before, p, after, hsplit, ⟨hp, he⟩, hbefore⟩ := h
    exact ⟨p, ⟨before, after, hsplit, hp, hbefore⟩, he⟩
  · intro h
    obtain ⟨p, ⟨before, after, hsplit, hp, hbefore⟩, he⟩ := h
    exact ⟨before, p, after, hsplit, ⟨hp, he⟩, hbefore⟩

theorem not_succeeds_ofFiles {files : List Schema.File} :
    ¬ Succeeds (ofFiles files) ↔ ∃ f ∈ files, ∃ m, f.Declares m ∧ m.Incomplete := by
  simp only [succeeds_ofFiles, not_forall, Schema.File.declares_iff, Schema.Message.incomplete_iff,
    exists_prop]

section Found

variable {files : List Schema.File} {index : TypeIndex}

theorem exports_ofFiles (h : ofFiles files = .ok index) :
    ∃ groups, List.Forall₂ (fun f es => Export.ofFile f = .ok es) files groups ∧
      index.exports = groups.flatten := by
  obtain ⟨groups, hgroups, h⟩ := bind_eq_ok.mp h
  cases pure_eq_ok.mp h
  exact ⟨groups, mapM_eq_ok.mp hgroups, rfl⟩

theorem filter_ofFile {f : Schema.File} {es : List Export} (h : Export.ofFile f = .ok es) :
    List.Forall₂ (fun m e => Export.ofMessage f m = .ok e) f.allMessages
        (es.filter (·.kind == .message)) ∧
      es.filter (·.kind == .enum) = f.allEnums.map (Export.ofEnum f) := by
  obtain ⟨ms, hms, h⟩ := bind_eq_ok.mp h
  cases pure_eq_ok.mp h
  have hms := mapM_eq_ok.mp hms
  have hmessage : ∀ e ∈ ms, e.kind = .message := by
    intro e he
    obtain ⟨m, -, hm⟩ := (mem_results hms).mp he
    exact (Export.ofMessage_eq_ok hm).1
  have henum : ∀ e ∈ f.allEnums.map (Export.ofEnum f), e.kind = .enum := by
    intro e he
    obtain ⟨x, -, rfl⟩ := List.mem_map.mp he
    rfl
  have hfirst : ms.filter (·.kind == .message) = ms :=
    List.filter_eq_self.mpr fun e he => by rw [hmessage e he]; rfl
  have hfirst' : ms.filter (·.kind == .enum) = [] :=
    List.filter_eq_nil_iff.mpr fun e he => by rw [hmessage e he]; exact Bool.false_ne_true
  have hsecond : (f.allEnums.map (Export.ofEnum f)).filter (·.kind == .message) = [] :=
    List.filter_eq_nil_iff.mpr fun e he => by rw [henum e he]; exact Bool.false_ne_true
  have hsecond' : (f.allEnums.map (Export.ofEnum f)).filter (·.kind == .enum) =
      f.allEnums.map (Export.ofEnum f) :=
    List.filter_eq_self.mpr fun e he => by rw [henum e he]; rfl
  rw [List.filter_append, List.filter_append, hfirst, hfirst', hsecond, hsecond', List.append_nil]
  exact ⟨hms, List.nil_append _⟩

theorem related_messages (h : ofFiles files = .ok index) :
    List.Forall₂ (fun p e => Export.ofMessage p.1 p.2 = .ok e) (messageWalk files)
      (index.exports.filter (·.kind == .message)) := by
  obtain ⟨groups, hgroups, hexports⟩ := exports_ofFiles h
  rw [hexports]
  clear h hexports
  induction hgroups with
  | nil => exact .nil
  | cons hes _ ih =>
    rw [messageWalk, List.flatMap_cons, List.flatten_cons, List.filter_append]
    exact List.rel_append (List.forall₂_map_left_iff.mpr (filter_ofFile hes).1) ih

theorem filter_enums (h : ofFiles files = .ok index) :
    index.exports.filter (·.kind == .enum) = (enumWalk files).map fun p => Export.ofEnum p.1 p.2 := by
  obtain ⟨groups, hgroups, hexports⟩ := exports_ofFiles h
  rw [hexports]
  clear h hexports
  induction hgroups with
  | nil => rfl
  | cons hes _ ih =>
    rw [enumWalk, List.flatMap_cons, List.map_append, List.flatten_cons, List.filter_append,
      (filter_ofFile hes).2, List.map_map]
    exact congrArg _ ih

theorem find?_eq_getLast? (kind : TypeKind) (name : String) :
    index.find? kind name =
      ((index.exports.filter (·.kind == kind)).filter (·.fullName == name)).getLast? := by
  rw [find?, declared, List.filter_filter]
  simp only [Bool.and_comm]

theorem describesMessage_of_find? (h : ofFiles files = .ok index) {name : String} {e : Export}
    (he : index.find? .message name = some e) :
    ∃ p, IsLast (·.2.fullName = name) (messageWalk files) p ∧ e.DescribesMessage p.1 p.2 := by
  rw [find?_eq_getLast?] at he
  have hname (p : Schema.File × Schema.Message) (e : Export)
      (hpe : Export.ofMessage p.1 p.2 = .ok e) :
      (e.fullName == name) = (p.2.fullName == name) := by
    rw [(Export.ofMessage_eq_ok hpe).2.1]
  have hlast := getLast?_filter_related (related_messages h) hname
  rw [he] at hlast
  generalize hp : ((messageWalk files).filter fun p => p.2.fullName == name).getLast? = o at hlast
  cases hlast with
  | some hpe =>
    refine ⟨_, ?_, Export.describesMessage_of_ofMessage hpe⟩
    simpa only [beq_iff_eq] using getLast?_filter_iff.mp hp

theorem describesEnum_of_find? (h : ofFiles files = .ok index) {name : String} {e : Export}
    (he : index.find? .enum name = some e) :
    ∃ p, IsLast (·.2.fullName = name) (enumWalk files) p ∧ e.DescribesEnum p.1 p.2 := by
  rw [find?_eq_getLast?, filter_enums h, List.filter_map, List.getLast?_map,
    Option.map_eq_some_iff] at he
  obtain ⟨p, hp, rfl⟩ := he
  refine ⟨p, ?_, rfl, rfl, rfl, rfl, rfl⟩
  simpa only [Function.comp_apply, Export.ofEnum, beq_iff_eq] using getLast?_filter_iff.mp hp

theorem length_eraseDups (names : List String) : names.eraseDups.length = names.toFinset.card := by
  rw [← List.toFinset_card_of_nodup (nodup_eraseDups names)]
  congr 1
  ext name
  rw [List.mem_toFinset, List.mem_toFinset, List.mem_eraseDups]

theorem size_eq_card (h : ofFiles files = .ok index) :
    index.size = ((messageWalk files).map (·.2.fullName)).toFinset.card +
      ((enumWalk files).map (·.2.fullName)).toFinset.card := by
  have hmessages : (index.exports.filter (·.kind == .message)).map (·.fullName) =
      (messageWalk files).map (·.2.fullName) :=
    map_related (related_messages h) fun p _ e hpe => (Export.ofMessage_eq_ok hpe).2.1
  have henums : (index.exports.filter (·.kind == .enum)).map (·.fullName) =
      (enumWalk files).map (·.2.fullName) := by
    rw [filter_enums h, List.map_map]
    rfl
  rw [size, names, names, hmessages, henums, length_eraseDups, length_eraseDups]

end Found

/-- The index holds every declared type and only those, under the name and with the data of its last
declaration; the only fault is a pair type that lacks its key or its value. -/
theorem ofFiles_indexes (files : List Schema.File) :
    (¬ Succeeds (ofFiles files) ↔ ∃ f ∈ files, ∃ m, f.Declares m ∧ m.Incomplete) ∧
    (∀ e, ofFiles files = .error e ↔ ∃ p, IsFirst (·.2.Incomplete) (messageWalk files) p ∧
      e = .incompleteMapEntry p.2.fullName) ∧
    ∀ index, ofFiles files = .ok index →
      (∀ name, (∃ e, index.find? .message name = some e) ↔
        ∃ f ∈ files, ∃ m, f.Declares m ∧ m.fullName = name) ∧
      (∀ name, (∃ e, index.find? .enum name = some e) ↔
        ∃ f ∈ files, ∃ x, f.DeclaresEnum x ∧ x.fullName = name) ∧
      (∀ name e, index.find? .message name = some e →
        ∃ p, IsLast (·.2.fullName = name) (messageWalk files) p ∧ e.DescribesMessage p.1 p.2) ∧
      (∀ name e, index.find? .enum name = some e →
        ∃ p, IsLast (·.2.fullName = name) (enumWalk files) p ∧ e.DescribesEnum p.1 p.2) ∧
      ∃ messageNames enumNames : Finset String,
        (∀ name, name ∈ messageNames ↔ ∃ f ∈ files, ∃ m, f.Declares m ∧ m.fullName = name) ∧
        (∀ name, name ∈ enumNames ↔ ∃ f ∈ files, ∃ x, f.DeclaresEnum x ∧ x.fullName = name) ∧
        index.size = messageNames.card + enumNames.card := by
  refine ⟨not_succeeds_ofFiles, fun e => ofFiles_eq_error, ?_⟩
  intro index h
  refine ⟨?_, ?_, fun name e => describesMessage_of_find? h, fun name e => describesEnum_of_find? h,
    _, _, ?_, ?_, size_eq_card h⟩
  · intro name
    simp only [exists_find?_message h, Schema.File.declares_iff]
  · intro name
    simp only [exists_find?_enum h, Schema.File.declaresEnum_iff]
  · intro name
    simp only [List.mem_toFinset, List.mem_map, mem_messageWalk, Prod.exists, and_assoc,
      exists_and_left]
  · intro name
    simp only [List.mem_toFinset, List.mem_map, mem_enumWalk, Prod.exists, and_assoc,
      exists_and_left]

end TypeIndex

end ProtoStubs

import ProtoStubs.Schema.Load
import ProtoStubs.TypeIndex

/-!
# Nested messages

Descriptors and loaded messages are trees of the same form. Each comes with its induction principle and
with the equations of the functions that walk over it, and a descriptor with the list of the messages
below it, each beside the scope that it stands in.
-/

namespace ProtoStubs.Descriptor

theorem Message.induct {P : Message → Prop}
    (step : ∀ m : Message, (∀ n ∈ m.nested, P n) → P m) (m : Message) : P m :=
  step m fun n _hn => Message.induct step n
termination_by sizeOf m
decreasing_by
  have hlt := List.sizeOf_lt_of_mem _hn
  cases m
  simp only [Message.mk.sizeOf_spec]
  simp only at hlt
  omega

def Message.ownName (m : Message) : String := m.name.getD ""

def Message.fullName (scope : String) (m : Message) : String := Schema.qualify scope m.ownName

mutual

/-- The message and all messages nested in it, each with the full name of what it stands in. -/
def Message.withNested (scope : String) : Message → List (String × Message)
  | ⟨name, fields, nested, enums, oneofs, extensions, options⟩ =>
    (scope, ⟨name, fields, nested, enums, oneofs, extensions, options⟩) ::
      allNested (Schema.qualify scope (name.getD "")) nested

def allNested (scope : String) : List Message → List (String × Message)
  | [] => []
  | m :: rest => m.withNested scope ++ allNested scope rest

end

theorem allNested_eq_flatMap (scope : String) (ms : List Message) :
    allNested scope ms = ms.flatMap (Message.withNested scope) := by
  induction ms with
  | nil => rfl
  | cons m rest ih => simp [allNested, ih]

theorem Message.withNested_eq (scope : String) (m : Message) :
    m.withNested scope =
      (scope, m) :: m.nested.flatMap (Message.withNested (m.fullName scope)) := by
  cases m
  simp only [Message.withNested, allNested_eq_flatMap, Message.fullName, Message.ownName]

theorem Message.mem_withNested_self (scope : String) (m : Message) :
    (scope, m) ∈ m.withNested scope := by
  rw [Message.withNested_eq]
  exact List.mem_cons_self

theorem Message.withNested_subset {scope : String} {m n : Message} (hn : n ∈ m.nested) :
    n.withNested (m.fullName scope) ⊆ m.withNested scope := by
  intro p hp
  rw [m.withNested_eq]
  exact List.mem_cons_of_mem _ (List.mem_flatMap.mpr ⟨n, hn, hp⟩)

end ProtoStubs.Descriptor

namespace ProtoStubs.Schema

theorem Message.induct {P : Message → Prop}
    (step : ∀ m : Message, (∀ n ∈ m.nested, P n) → P m) (m : Message) : P m :=
  step m fun n _hn => Message.induct step n
termination_by sizeOf m
decreasing_by
  have hlt := List.sizeOf_lt_of_mem _hn
  cases m
  simp only [Message.mk.sizeOf_spec]
  simp only at hlt
  omega

theorem Message.withNested_eq (m : Message) :
    m.withNested = m :: m.nested.flatMap Message.withNested := by
  cases m
  simp only [Message.withNested, allNested_eq_flatMap]

theorem Message.mem_withNested_self (m : Message) : m ∈ m.withNested := by
  rw [Message.withNested_eq]
  exact List.mem_cons_self

theorem Message.withNested_subset {m n : Message} (hn : n ∈ m.nested) : n.withNested ⊆ m.withNested := by
  intro p hp
  rw [m.withNested_eq]
  exact List.mem_cons_of_mem _ (List.mem_flatMap.mpr ⟨n, hn, hp⟩)

theorem Message.allEnums_eq (m : Message) :
    m.allEnums = m.nested.flatMap Message.allEnums ++ m.enums := by
  cases m
  simp only [Message.allEnums, nestedEnums_eq_flatMap]

theorem Message.mem_allEnums {m : Message} {e : Enum} :
    e ∈ m.allEnums ↔ ∃ n ∈ m.withNested, e ∈ n.enums := by
  induction m using Message.induct with
  | step m ih =>
    simp only [Message.allEnums_eq, Message.withNested_eq, List.mem_append, List.mem_cons,
      or_and_right, exists_or, exists_eq_left]
    rw [or_comm]
    apply or_congr Iff.rfl
    constructor
    · intro h
      obtain ⟨n, hn, he⟩ := List.mem_flatMap.mp h
      obtain ⟨p, hp, hep⟩ := (ih n hn).mp he
      exact ⟨p, List.mem_flatMap.mpr ⟨n, hn, hp⟩, hep⟩
    · intro h
      obtain ⟨p, hp, hep⟩ := h
      obtain ⟨n, hn, hpn⟩ := List.mem_flatMap.mp hp
      exact List.mem_flatMap.mpr ⟨n, hn, (ih n hn).mpr ⟨p, hpn, hep⟩⟩

theorem File.mem_allMessages {f : File} {m : Message} :
    m ∈ f.allMessages ↔ ∃ n ∈ f.messages, m ∈ n.withNested := by
  rw [File.allMessages, allNested_eq_flatMap, List.mem_flatMap]

theorem File.mem_allEnums {f : File} {e : Enum} :
    e ∈ f.allEnums ↔ (∃ m ∈ f.allMessages, e ∈ m.enums) ∨ e ∈ f.enums := by
  rw [File.allEnums, nestedEnums_eq_flatMap, List.mem_append]
  apply or_congr _ Iff.rfl
  simp only [List.mem_flatMap, Message.mem_allEnums, File.mem_allMessages]
  constructor
  · intro h
    obtain ⟨n, hn, m, hm, he⟩ := h
    exact ⟨m, ⟨n, hn, hm⟩, he⟩
  · intro h
    obtain ⟨m, ⟨n, hn, hm⟩, he⟩ := h
    exact ⟨n, hn, m, hm, he⟩

end ProtoStubs.Schema

import ProtoStubs.Proofs.Linking
import ProtoStubs.Service.Files

/-!
# Larger indexes

An index extends another one if each name that the other knows leads to the same declaration in it. What
can be linked against an index can be linked against all that extend it, and the result is the same: names
are looked up only to be found.
-/

namespace ProtoStubs

section Carrying

variable {ε α β : Type}

/-- What the first computation gives, the second gives as well. -/
def Carries (x y : Except ε α) : Prop := ∀ a, x = .ok a → y = .ok a

theorem Carries.refl (x : Except ε α) : Carries x x := fun _ h => h

theorem Carries.bind {x y : Except ε α} {f g : α → Except ε β} (hxy : Carries x y)
    (hfg : ∀ a, Carries (f a) (g a)) : Carries (x >>= f) (y >>= g) := by
  intro b hb
  obtain ⟨a, ha, hb⟩ := bind_eq_ok.mp hb
  exact bind_eq_ok.mpr ⟨a, hxy a ha, hfg a b hb⟩

theorem Carries.bind_left {x y : Except ε α} (hxy : Carries x y) (f : α → Except ε β) :
    Carries (x >>= f) (y >>= f) :=
  hxy.bind fun a => .refl (f a)

theorem Carries.mapM {f g : α → Except ε β} {xs : List α} (h : ∀ x ∈ xs, Carries (f x) (g x)) :
    Carries (xs.mapM f) (xs.mapM g) := by
  induction xs with
  | nil => exact .refl _
  | cons x xs ih =>
    rw [List.mapM_cons, List.mapM_cons]
    refine (h x List.mem_cons_self).bind fun y => ?_
    exact (ih fun z hz => h z (List.mem_cons_of_mem _ hz)).bind_left _

end Carrying

namespace TypeIndex

/-- No two declarations of a kind have the same full name. -/
def Distinct (index : TypeIndex) : Prop :=
  ∀ e ∈ index.exports, ∀ e' ∈ index.exports, e'.kind = e.kind → e'.fullName = e.fullName → e' = e

def Extends (larger index : TypeIndex) : Prop :=
  ∀ kind name e, index.find? kind name = some e → larger.find? kind name = some e

theorem extends_of_subset {larger index : TypeIndex} (h : larger.Distinct)
    (hsub : index.exports ⊆ larger.exports) : larger.Extends index := by
  intro kind name e he
  obtain ⟨hmem, hkind, hname⟩ := mem_of_find? he
  obtain ⟨e', he'⟩ := exists_find?.mpr ⟨e, hsub hmem, hkind, hname⟩
  obtain ⟨hmem', hkind', hname'⟩ := mem_of_find? he'
  have heq := h e (hsub hmem) e' hmem' (hkind'.trans hkind.symm) (hname'.trans hname.symm)
  rw [he', heq]

end TypeIndex

section Extended

variable {larger index : TypeIndex}

theorem TypeIndex.Extends.resolve (h : larger.Extends index) (kind : TypeKind)
    (name viewer : String) :
    Carries (index.resolve kind name viewer) (larger.resolve kind name viewer) := by
  intro e he
  exact resolve_eq_ok.mpr (h kind name e (resolve_eq_ok.mp he))

theorem TypeExpr.carries_ofField (h : larger.Extends index) (viewer : String) (f : Schema.Field) :
    Carries (ofField index viewer f) (ofField larger viewer f) := by
  by_cases hm : f.type.isMessage = true
  · rw [ofField_of_isMessage hm, ofField_of_isMessage hm]
    exact (h.resolve _ _ _).bind_left _
  · have hm := Bool.eq_false_iff.mpr hm
    by_cases he : f.type = .enum
    · rw [ofField_of_enum he, ofField_of_enum he]
      exact (h.resolve _ _ _).bind_left _
    · rw [ofField_of_scalar hm he, ofField_of_scalar hm he]
      exact .refl _

namespace Declaration

theorem PropertyType.carries_ofMap (h : larger.Extends index) (viewer : String) (f : Schema.Field) :
    Carries (ofMap index viewer f) (ofMap larger viewer f) := by
  refine (h.resolve _ _ _).bind fun target => ?_
  refine (Carries.refl _).bind fun entry => ?_
  refine (TypeExpr.carries_ofField h viewer entry.key).bind fun key => ?_
  exact (TypeExpr.carries_ofField h viewer entry.value).bind_left _

theorem Property.carries_link (h : larger.Extends index) (viewer : String) (f : Schema.Field) :
    Carries (Property.link index viewer f) (Property.link larger viewer f) := by
  unfold Property.link
  cases f.isMap with
  | true => exact (PropertyType.carries_ofMap h viewer f).bind_left _
  | false => exact (TypeExpr.carries_ofField h viewer f).bind_left _

theorem Extension.carries_link (h : larger.Extends index) (viewer : String) (f : Schema.Field) :
    Carries (Extension.link index viewer f) (Extension.link larger viewer f) :=
  (TypeExpr.carries_ofField h viewer f).bind_left _

theorem carries_linkMessages {viewer : String} {ms : List Schema.Message}
    (h : ∀ m ∈ ms, Carries (Message.link index viewer m) (Message.link larger viewer m)) :
    Carries (linkMessages index viewer ms) (linkMessages larger viewer ms) := by
  rw [linkMessages_eq_mapM, linkMessages_eq_mapM]
  exact .mapM fun m hm => h m (List.mem_filter.mp hm).1

theorem Message.carries_link (h : larger.Extends index) (viewer : String) (m : Schema.Message) :
    Carries (Message.link index viewer m) (Message.link larger viewer m) := by
  induction m using Schema.Message.induct with
  | step m ih =>
    rw [Message.link_eq, Message.link_eq]
    refine (Carries.mapM fun f _ => Property.carries_link h viewer f).bind fun properties => ?_
    refine (carries_linkMessages ih).bind fun nested => ?_
    exact (Carries.mapM fun f _ => Extension.carries_link h viewer f).bind_left _

theorem File.carries_link (h : larger.Extends index) (f : Schema.File) :
    Carries (File.link index f) (File.link larger f) := by
  refine (carries_linkMessages fun m _ => Message.carries_link h f.name m).bind fun messages => ?_
  exact (Carries.mapM fun x _ => Extension.carries_link h f.name x).bind_left _

end Declaration

namespace Service

theorem Method.carries_link (h : larger.Extends index) (viewer : String) (m : Schema.Method) :
    Carries (Method.link index viewer m) (Method.link larger viewer m) := by
  refine (h.resolve _ _ _).bind fun request => ?_
  exact (h.resolve _ _ _).bind_left _

theorem Stub.carries_link (h : larger.Extends index) (viewer : String) (s : Schema.Service) :
    Carries (Stub.link index viewer s) (Stub.link larger viewer s) :=
  (Carries.mapM fun m _ => Method.carries_link h viewer m).bind_left _

theorem File.carries_link (h : larger.Extends index) (f : Schema.File) :
    Carries (File.link index f) (File.link larger f) :=
  (Carries.mapM fun s _ => Stub.carries_link h f.name s).bind_left _

theorem carries_files (h : larger.Extends index) (parameters : Parameters) (f : Schema.File) :
    Carries (files index parameters f) (files larger parameters f) := by
  unfold files
  split
  · exact .refl _
  · exact (File.carries_link h f).bind_left _

end Service

end Extended

end ProtoStubs

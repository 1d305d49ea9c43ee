import ProtoStubs.Proofs.Imports
import ProtoStubs.Resolver

/-!
# What a resolver records

A resolver answers one question after another, and keeps a record of the other files whose types it has
named. Its work is written here as it goes, with the record as a state that outlives a failure. The answers
do not depend on the record, and the record is the list of the files that were named, each at its first
mention.
-/

namespace ProtoStubs

/-- Work that names types on behalf of one file. The state is the record of the files named so far. -/
abbrev Recording : Type → Type :=
  ExceptT GenerationError (StateM (List String))

namespace Recording

variable {α β : Type}

def outcome (x : Recording α) (seen : List String) : Except GenerationError α × List String :=
  (StateT.run (ExceptT.run x) seen).run

def ofExcept (x : Except GenerationError α) : Recording α :=
  ExceptT.mk (pure x)

def keep (seen : List String) (file : String) : List String :=
  if file ∈ seen then seen else seen ++ [file]

def note (file : String) : Recording Unit :=
  modify fun seen => keep seen file

variable (seen : List String)

@[simp] theorem outcome_pure (a : α) : (pure a : Recording α).outcome seen = (.ok a, seen) := rfl

@[simp] theorem outcome_ofExcept (x : Except GenerationError α) :
    (ofExcept x).outcome seen = (x, seen) := rfl

@[simp] theorem outcome_note (file : String) :
    (note file).outcome seen = (.ok (), keep seen file) := rfl

theorem outcome_bind (x : Recording α) (f : α → Recording β) :
    (x >>= f).outcome seen =
      match x.outcome seen with
      | (.ok a, seen) => (f a).outcome seen
      | (.error e, seen) => (.error e, seen) := by
  unfold outcome ExceptT.run StateT.run Id.run
  simp only [bind, ExceptT.bind, ExceptT.mk, StateT.bind, ExceptT.bindCont]
  cases x seen with
  | mk result seen => cases result <;> rfl

@[simp] theorem outcome_map (f : α → β) (x : Recording α) :
    (f <$> x).outcome seen = ((x.outcome seen).1.map f, (x.outcome seen).2) := by
  rw [map_eq_pure_bind, outcome_bind]
  cases x.outcome seen with
  | mk result seen => cases result <;> rfl

theorem outcome_bind_of_ok {x : Recording α} {f : α → Recording β} {seen next : List String} {a : α}
    (h : x.outcome seen = (.ok a, next)) : (x >>= f).outcome seen = (f a).outcome next := by
  rw [outcome_bind, h]

theorem outcome_bind_of_error {x : Recording α} {f : α → Recording β} {seen next : List String}
    {e : GenerationError} (h : x.outcome seen = (.error e, next)) :
    (x >>= f).outcome seen = (.error e, next) := by
  rw [outcome_bind, h]

theorem mapM_return {γ : Type} (f : α → Recording β) (g : β → γ) (xs : List α) :
    (xs.mapM fun x => do return g (← f x)) = do return (← xs.mapM f).map g := by
  induction xs with
  | nil => rfl
  | cons x xs ih => simp only [List.mapM_cons, ih, bind_assoc, pure_bind, List.map_cons]

section Asks

variable {keep : List String → String → List String}

/-- The work has the result of a computation. Where it succeeds, it puts the files that the result mentions on
record, as the record keeps them. -/
def Asks (keep : List String → String → List String) (x : Recording α) (y : Except GenerationError α)
    (origins : α → List String) : Prop :=
  ∀ seen, (x.outcome seen).1 = y ∧
    ∀ a, y = .ok a → (x.outcome seen).2 = (origins a).foldl keep seen

theorem Asks.outcome_of_ok {x : Recording α} {a : α} {origins : α → List String}
    (h : Asks keep x (.ok a) origins) (seen : List String) :
    x.outcome seen = (.ok a, (origins a).foldl keep seen) :=
  Prod.ext (h seen).1 ((h seen).2 a rfl)

theorem Asks.outcome_of_error {x : Recording α} {e : GenerationError} {origins : α → List String}
    (h : Asks keep x (.error e) origins) (seen : List String) :
    x.outcome seen = (.error e, (x.outcome seen).2) :=
  Prod.ext (h seen).1 rfl

theorem Asks.pure (a : α) {origins : α → List String} (h : origins a = []) :
    Asks keep (pure a) (pure a) origins := by
  intro seen
  refine ⟨rfl, fun b hb => ?_⟩
  rw [← pure_eq_ok.mp hb, h]
  rfl

theorem Asks.ofExcept (y : Except GenerationError α) : Asks keep (ofExcept y) y fun _ => [] :=
  fun _ => ⟨rfl, fun _ _ => rfl⟩

/-- What is mentioned first goes on record first. -/
theorem Asks.bind {x : Recording α} {y : Except GenerationError α} {f : α → Recording β}
    {g : α → Except GenerationError β} {first : α → List String} {origins : β → List String}
    (next : α → β → List String) (hx : Asks keep x y first)
    (hf : ∀ a, Asks keep (f a) (g a) (next a))
    (horigins : ∀ a b, g a = .ok b → origins b = first a ++ next a b) :
    Asks keep (x >>= f) (y >>= g) origins := by
  intro seen
  cases y with
  | error e =>
    rw [outcome_bind_of_error (hx.outcome_of_error seen)]
    exact ⟨rfl, fun b hb => nomatch hb⟩
  | ok a =>
    rw [outcome_bind_of_ok (hx.outcome_of_ok seen)]
    obtain ⟨hresult, hrecord⟩ := hf a ((first a).foldl keep seen)
    refine ⟨hresult, fun b hb => ?_⟩
    rw [hrecord b hb, horigins a b hb, List.foldl_append]

theorem Asks.map {x : Recording α} {y : Except GenerationError α} {origins : α → List String}
    (hx : Asks keep x y origins) (f : α → β) {shown : β → List String}
    (hshown : ∀ a, shown (f a) = origins a) :
    Asks keep (do return f (← x)) (do return f (← y)) shown := by
  refine Asks.bind (fun _ _ => []) hx (fun a => Asks.pure _ rfl) fun a b hb => ?_
  rw [← pure_eq_ok.mp hb, hshown, List.append_nil]

theorem Asks.cons {x : Recording α} {y : Except GenerationError α} {xs : Recording (List α)}
    {ys : Except GenerationError (List α)} {origins : α → List String} (hx : Asks keep x y origins)
    (hxs : Asks keep xs ys fun as => as.flatMap origins) :
    Asks keep (do return (← x) :: (← xs)) (do return (← y) :: (← ys)) fun as => as.flatMap origins := by
  refine Asks.bind (fun _ as => as.tail.flatMap origins) hx (fun a => ?_) fun a as has => ?_
  · exact Asks.map hxs (a :: ·) fun _ => rfl
  · obtain ⟨rest, -, has⟩ := bind_eq_ok.mp has
    rw [← pure_eq_ok.mp has]
    rfl

theorem Asks.mapM {f : α → Recording β} {g : α → Except GenerationError β} {origins : β → List String}
    {xs : List α} (h : ∀ x ∈ xs, Asks keep (f x) (g x) origins) :
    Asks keep (xs.mapM f) (xs.mapM g) fun ys => ys.flatMap origins := by
  induction xs with
  | nil => exact Asks.pure [] rfl
  | cons x xs ih =>
    rw [List.forall_mem_cons] at h
    rw [List.mapM_cons, List.mapM_cons]
    exact Asks.cons h.1 (ih h.2)

end Asks

end Recording

namespace Resolver

/-- What a call returns: the text of a type, or the pair of a map's pair type. -/
inductive Reply
  | type (text : String)
  | mapEntry (entry : Option MapEntry)
  deriving DecidableEq

def Answer.reply (viewer : String) : Answer → Reply
  | .type t => .type (t.text viewer)
  | .mapEntry entry => .mapEntry entry

section Calls

variable (index : TypeIndex) (viewer : String)

/-- A type of the own file goes by its bare name. A type of another file puts that file on record. -/
def reference (e : Export) : Recording String :=
  if e.fileName = viewer then return e.localName
  else do
    Recording.note e.fileName
    return e.namespacedName

def messageType (name : String) : Recording String := do
  reference viewer (← Recording.ofExcept (index.resolve .message name viewer))

def enumType (name : String) : Recording String := do
  return enumValueType (← reference viewer (← Recording.ofExcept (index.resolve .enum name viewer)))

def pairOf (name : String) : Recording (Option MapEntry) := do
  return (← Recording.ofExcept (index.resolve .message name viewer)).mapEntry

def fieldType (type : Schema.FieldType) (typeName : String) (jsType : Schema.JsType) :
    Recording String :=
  match type with
  | .message | .group => messageType index viewer typeName
  | .enum => enumType index viewer typeName
  | _ => return (← Recording.ofExcept (type.scalar jsType)).text

def call : Query → Recording Reply
  | .messageType name => return .type (← messageType index viewer name)
  | .enumType name => return .type (← enumType index viewer name)
  | .mapEntry name => return .mapEntry (← pairOf index viewer name)
  | .fieldType keyword typeName jsType => do
    let type ← Recording.ofExcept (fieldTypeNamed keyword)
    return .type (← fieldType index viewer type typeName (.ofKeyword jsType))

/-- The record of a new resolver after a sequence of calls. -/
def recorded (qs : List Query) : List String :=
  qs.foldl (fun seen q => ((call index viewer q).outcome seen).2) []

end Calls

def Query.reference? : Query → Option (TypeKind × String)
  | .messageType name => some (.message, name)
  | .enumType name => some (.enum, name)
  | .mapEntry _ => none
  | .fieldType keyword typeName _ =>
    if keyword = "message" ∨ keyword = "group" then some (.message, typeName)
    else if keyword = "enum" then some (.enum, typeName)
    else none

def Query.target? (index : TypeIndex) (q : Query) : Option Export :=
  q.reference?.bind fun r => index.find? r.1 r.2

def typeText : TypeKind → String → String
  | .message, name => name
  | .enum, name => enumValueType name

def replyTo (viewer : String) (kind : TypeKind) (e : Export) : Reply :=
  .type (typeText kind
    (if e.fileName = viewer then e.localName
     else SourcePath.namespaceName e.fileName ++ "." ++ e.localName))

section Outcomes

variable {index : TypeIndex} {viewer : String}

theorem outcome_reference (e : Export) (seen : List String) :
    (reference viewer e).outcome seen = (.ok (e.reference viewer), noteFile viewer seen e.fileName) := by
  unfold reference
  by_cases hown : e.fileName = viewer
  · simp [hown, Export.reference, noteFile]
  · rw [if_neg hown, Recording.outcome_bind_of_ok (Recording.outcome_note seen e.fileName)]
    simp [hown, Export.reference, noteFile, Recording.keep]

theorem outcome_messageType (name : String) (seen : List String) :
    (messageType index viewer name).outcome seen =
      match index.find? .message name with
      | none => (.error (.unresolvedType .message name viewer), seen)
      | some e => (.ok (e.reference viewer), noteFile viewer seen e.fileName) := by
  unfold messageType TypeIndex.resolve
  rw [Recording.outcome_bind, Recording.outcome_ofExcept]
  cases index.find? .message name with
  | none => rfl
  | some e => exact outcome_reference e seen

theorem outcome_enumType (name : String) (seen : List String) :
    (enumType index viewer name).outcome seen =
      match index.find? .enum name with
      | none => (.error (.unresolvedType .enum name viewer), seen)
      | some e => (.ok (enumValueType (e.reference viewer)), noteFile viewer seen e.fileName) := by
  unfold enumType TypeIndex.resolve
  rw [Recording.outcome_bind, Recording.outcome_ofExcept]
  cases index.find? .enum name with
  | none => rfl
  | some e =>
    change (enumValueType <$> reference viewer e).outcome seen = _
    rw [Recording.outcome_map, outcome_reference]
    rfl

theorem outcome_pairOf (name : String) (seen : List String) :
    (pairOf index viewer name).outcome seen =
      ((index.resolve .message name viewer).map (·.mapEntry), seen) := by
  change ((·.mapEntry) <$> Recording.ofExcept (index.resolve .message name viewer)).outcome seen = _
  rw [Recording.outcome_map, Recording.outcome_ofExcept]

theorem outcome_fieldType_of_scalar {type : Schema.FieldType} (hm : type.isMessage = false)
    (he : type ≠ .enum) (typeName : String) (jsType : Schema.JsType) (seen : List String) :
    (fieldType index viewer type typeName jsType).outcome seen =
      ((type.scalar jsType).map ScalarType.text, seen) := by
  have hscalar : fieldType index viewer type typeName jsType =
      ScalarType.text <$> Recording.ofExcept (type.scalar jsType) := by
    unfold fieldType
    cases type <;> simp_all [Schema.FieldType.isMessage]
  rw [hscalar, Recording.outcome_map, Recording.outcome_ofExcept]

theorem not_isMessage_of_reference {keyword typeName jsType : String} {type : Schema.FieldType}
    (hword : fieldTypeNamed keyword = .ok type)
    (h : (Query.fieldType keyword typeName jsType).reference? = none) :
    type.isMessage = false ∧ type ≠ .enum := by
  have hfind : Schema.FieldType.all.find? (·.keyword == keyword) = some type := require_eq_ok.mp hword
  have hkeyword : type.keyword = keyword := by
    have hmatch := List.find?_some hfind
    simpa using hmatch
  subst hkeyword
  cases type
  case message => cases h
  case group => cases h
  case enum => cases h
  all_goals exact ⟨rfl, by decide⟩

theorem outcome_call_messageType (name : String) (seen : List String) :
    (call index viewer (.messageType name)).outcome seen =
      match index.find? .message name with
      | none => (.error (.unresolvedType .message name viewer), seen)
      | some e => (.ok (replyTo viewer .message e), noteFile viewer seen e.fileName) := by
  change (Reply.type <$> messageType index viewer name).outcome seen = _
  rw [Recording.outcome_map, outcome_messageType]
  cases index.find? .message name <;> rfl

theorem outcome_call_enumType (name : String) (seen : List String) :
    (call index viewer (.enumType name)).outcome seen =
      match index.find? .enum name with
      | none => (.error (.unresolvedType .enum name viewer), seen)
      | some e => (.ok (replyTo viewer .enum e), noteFile viewer seen e.fileName) := by
  change (Reply.type <$> enumType index viewer name).outcome seen = _
  rw [Recording.outcome_map, outcome_enumType]
  cases index.find? .enum name <;> rfl

theorem outcome_call_of_reference {q : Query} {kind : TypeKind} {name : String}
    (h : q.reference? = some (kind, name)) (seen : List String) :
    (call index viewer q).outcome seen =
      match index.find? kind name with
      | none => (.error (.unresolvedType kind name viewer), seen)
      | some e => (.ok (replyTo viewer kind e), noteFile viewer seen e.fileName) := by
  cases q with
  | messageType n =>
    cases h
    exact outcome_call_messageType name seen
  | enumType n =>
    cases h
    exact outcome_call_enumType name seen
  | mapEntry n => cases h
  | fieldType keyword typeName jsType =>
    simp only [Query.reference?] at h
    split_ifs at h with hmessage henum
    · cases h
      rcases hmessage with rfl | rfl <;> exact outcome_call_messageType name seen
    · cases h
      subst henum
      exact outcome_call_enumType name seen

theorem outcome_call_of_none {q : Query} (h : q.reference? = none) (seen : List String) :
    (call index viewer q).outcome seen = (((call index viewer q).outcome []).1, seen) := by
  cases q with
  | messageType n => cases h
  | enumType n => cases h
  | mapEntry n =>
    change (Reply.mapEntry <$> pairOf index viewer n).outcome seen =
      (((Reply.mapEntry <$> pairOf index viewer n).outcome []).1, seen)
    simp only [Recording.outcome_map, outcome_pairOf]
  | fieldType keyword typeName jsType =>
    simp only [call, Recording.outcome_bind, Recording.outcome_ofExcept]
    cases hword : fieldTypeNamed keyword with
    | error e => rfl
    | ok type =>
      obtain ⟨hm, he⟩ := not_isMessage_of_reference hword h
      simp only [outcome_fieldType_of_scalar hm he]
      cases type.scalar (.ofKeyword jsType) <;> rfl

theorem record_call (q : Query) (seen : List String) :
    ((call index viewer q).outcome seen).2 =
      ((q.target? index).map (·.fileName)).toList.foldl (noteFile viewer) seen := by
  unfold Query.target?
  cases h : q.reference? with
  | none =>
    rw [outcome_call_of_none h]
    rfl
  | some r =>
    obtain ⟨kind, name⟩ := r
    rw [outcome_call_of_reference h, Option.bind_some]
    cases index.find? kind name <;> rfl

theorem reply_call (q : Query) (seen : List String) :
    ((call index viewer q).outcome seen).1 = ((call index viewer q).outcome []).1 := by
  cases h : q.reference? with
  | none => rw [outcome_call_of_none h]
  | some r =>
    obtain ⟨kind, name⟩ := r
    rw [outcome_call_of_reference h, outcome_call_of_reference h]
    cases index.find? kind name <;> rfl

theorem recorded_concat (qs : List Query) (q : Query) :
    recorded index viewer (qs ++ [q]) = ((call index viewer q).outcome (recorded index viewer qs)).2 := by
  rw [recorded, List.foldl_append]
  rfl

/-- The record of a run is the list of the files of its entries, the own file left out. -/
theorem recorded_eq (qs : List Query) :
    recorded index viewer qs =
      ((qs.filterMap (Query.target? index)).map (·.fileName)).eraseDups.filter (· ≠ viewer) := by
  rw [← foreignFiles_eq]
  induction qs using List.reverseRecOn with
  | nil => rfl
  | append_singleton qs q ih =>
    rw [recorded_concat, record_call, ih, List.filterMap_append, List.map_append, foreignFiles, foreignFiles,
      List.foldl_append]
    cases h : q.target? index <;> simp [h]

theorem prefix_noteFile (seen : List String) (file : String) : seen <+: noteFile viewer seen file := by
  unfold noteFile
  split_ifs
  · exact List.prefix_refl seen
  · exact List.prefix_append seen [file]

theorem recorded_prefix (qs later : List Query) :
    recorded index viewer qs <+: recorded index viewer (qs ++ later) := by
  induction later using List.reverseRecOn with
  | nil => simp only [List.append_nil, List.prefix_rfl]
  | append_singleton later q ih =>
    refine ih.trans ?_
    rw [← List.append_assoc, recorded_concat, record_call]
    cases q.target? index with
    | none => exact List.prefix_refl _
    | some e => exact prefix_noteFile _ e.fileName

theorem mem_recorded {qs : List Query} {file : String} :
    file ∈ recorded index viewer qs ↔
      file ≠ viewer ∧ ∃ q ∈ qs, ∃ e, q.target? index = some e ∧ e.fileName = file := by
  rw [recorded_eq]
  simp only [List.mem_filter, List.mem_eraseDups, List.mem_map, List.mem_filterMap, decide_eq_true_iff]
  tauto

theorem outcome_fieldType (type : Schema.FieldType) (typeName : String) (jsType : Schema.JsType)
    (seen : List String) :
    (fieldType index viewer type typeName jsType).outcome seen =
      ((TypeExpr.resolve index viewer type typeName jsType).map (TypeExpr.text viewer),
        ((TypeExpr.resolve index viewer type typeName jsType).toOption.bind TypeExpr.origin?).toList.foldl
          (noteFile viewer) seen) := by
  by_cases hm : type.isMessage = true
  · have htype : fieldType index viewer type typeName jsType = messageType index viewer typeName := by
      cases type <;> first | rfl | cases hm
    have hresolve : TypeExpr.resolve index viewer type typeName jsType =
        TypeExpr.ofMessage index viewer typeName := by
      cases type <;> first | rfl | cases hm
    rw [htype, hresolve, outcome_messageType, TypeExpr.ofMessage, TypeIndex.resolve]
    cases index.find? .message typeName <;> rfl
  · have hm := Bool.eq_false_iff.mpr hm
    by_cases he : type = .enum
    · subst he
      rw [TypeExpr.resolve, fieldType, outcome_enumType, TypeExpr.ofEnum, TypeIndex.resolve]
      cases index.find? .enum typeName <;> rfl
    · have hresolve : TypeExpr.resolve index viewer type typeName jsType =
          (do return .scalar (← type.scalar jsType)) := by
        unfold TypeExpr.resolve
        cases type <;> simp_all [Schema.FieldType.isMessage]
      rw [hresolve, outcome_fieldType_of_scalar hm he]
      cases type.scalar jsType <;> rfl

theorem answer_fieldType {keyword typeName jsType : String} {type : Schema.FieldType}
    (h : fieldTypeNamed keyword = .ok type) (seen : List String) :
    answer ⟨viewer, index, seen⟩ (.fieldType keyword typeName jsType) =
      (TypeExpr.resolve index viewer type typeName (.ofKeyword jsType)).map Answer.type := by
  rw [answer, h]
  change (do return Answer.type (← TypeExpr.resolve index viewer type typeName (.ofKeyword jsType))) = _
  cases TypeExpr.resolve index viewer type typeName (.ofKeyword jsType) <;> rfl

theorem after_mentioned (q : Query) (seen : List String) :
    (after ⟨viewer, index, seen⟩ q).mentioned =
      ((answer ⟨viewer, index, seen⟩ q).toOption.bind Answer.origin?).toList.foldl (noteFile viewer)
        seen := by
  unfold after
  cases (answer ⟨viewer, index, seen⟩ q).toOption.bind Answer.origin? <;> rfl

/-- The resolver that answers the queries of a run does what the calls do. -/
theorem outcome_call (q : Query) (seen : List String) :
    (call index viewer q).outcome seen =
      ((answer ⟨viewer, index, seen⟩ q).map (Answer.reply viewer),
        (after ⟨viewer, index, seen⟩ q).mentioned) := by
  rw [after_mentioned]
  cases q with
  | messageType name =>
    rw [outcome_call_messageType, answer, TypeExpr.ofMessage, TypeIndex.resolve]
    cases index.find? .message name <;> rfl
  | enumType name =>
    rw [outcome_call_enumType, answer, TypeExpr.ofEnum, TypeIndex.resolve]
    cases index.find? .enum name <;> rfl
  | mapEntry name =>
    change (Reply.mapEntry <$> pairOf index viewer name).outcome seen = _
    rw [Recording.outcome_map, outcome_pairOf, answer]
    cases index.resolve .message name viewer <;> rfl
  | fieldType keyword typeName jsType =>
    rw [call, Recording.outcome_bind, Recording.outcome_ofExcept]
    cases hword : fieldTypeNamed keyword with
    | error e =>
      rw [answer, hword]
      rfl
    | ok type =>
      change (Reply.type <$> fieldType index viewer type typeName (.ofKeyword jsType)).outcome seen = _
      rw [answer_fieldType hword, Recording.outcome_map, outcome_fieldType]
      cases TypeExpr.resolve index viewer type typeName (.ofKeyword jsType) <;> rfl

theorem foldl_after (qs : List Query) :
    qs.foldl after ⟨viewer, index, []⟩ = ⟨viewer, index, recorded index viewer qs⟩ := by
  induction qs using List.reverseRecOn with
  | nil => rfl
  | append_singleton qs q ih =>
    rw [List.foldl_append, ih, recorded_concat, outcome_call]
    simp only [List.foldl_cons, List.foldl_nil]
    unfold after
    split <;> rfl

theorem target?_of_not_succeeds {q : Query} {seen : List String}
    (h : ¬ Succeeds ((call index viewer q).outcome seen).1) : q.target? index = none := by
  cases href : q.reference? with
  | none => rw [Query.target?, href, Option.bind_none]
  | some r =>
    obtain ⟨kind, name⟩ := r
    rw [outcome_call_of_reference href] at h
    rw [Query.target?, href, Option.bind_some]
    cases hfind : index.find? kind name with
    | none => rfl
    | some e =>
      rw [hfind] at h
      exact absurd (succeeds_ok _) h

end Outcomes

/-- A run of a resolver. The record only grows, by the files of the entries that are named, and the replies do
not depend on it. -/
theorem run_records (index : TypeIndex) (viewer : String) (before : List Query) (q : Query) :
    let r := before.foldl after ⟨viewer, index, []⟩
    let next := (r.after q).mentioned
    let reply := ((call index viewer q).outcome r.mentioned).1
    (call index viewer q).outcome r.mentioned = ((r.answer q).map (Answer.reply viewer), next) ∧
      r.mentioned <+: next ∧ next.Nodup ∧ viewer ∉ next ∧
      (¬ Succeeds reply ∨ (∃ name, q = .mapEntry name) → next = r.mentioned) ∧
      next = (((before ++ [q]).filterMap (Query.target? index)).map (·.fileName)).eraseDups.filter
        (· ≠ viewer) ∧
      reply = ((call index viewer q).outcome []).1 ∧
      (∀ kind name, q.reference? = some (kind, name) →
        reply = match index.find? kind name with
          | none => .error (.unresolvedType kind name viewer)
          | some e => .ok (replyTo viewer kind e)) ∧
      ∀ e, q.target? index = some e → e.fileName ≠ viewer →
        ∀ later : List Query, e.fileName ∈ (later.foldl after (r.after q)).mentioned := by
  have hrun (qs : List Query) : qs.foldl after ⟨viewer, index, []⟩ = _ := foldl_after qs
  have hnext : (before.foldl after ⟨viewer, index, []⟩).after q =
      ⟨viewer, index, recorded index viewer (before ++ [q])⟩ := by
    rw [← hrun, List.foldl_append]
    rfl
  -- The state of a resolver is what it recorded of the queries so far, so `recorded` tells of both records.
  intro r next reply
  have hseen : r.mentioned = recorded index viewer before := congrArg mentioned (hrun before)
  have hrecord : next = recorded index viewer (before ++ [q]) := congrArg mentioned hnext
  refine ⟨?_, ?_, ?_, ?_, ?_, ?_, reply_call q _, ?_, ?_⟩
  · change _ = ((answer (before.foldl after ⟨viewer, index, []⟩) q).map _, next)
    rw [hrun, hseen, hrecord, recorded_concat, outcome_call]
  · rw [hseen, hrecord]
    exact recorded_prefix before [q]
  · rw [hrecord, recorded_eq]
    exact (nodup_eraseDups _).filter _
  · rw [hrecord, mem_recorded]
    exact fun h => h.1 rfl
  · intro h
    have hnone : q.target? index = none := by
      rcases h with h | ⟨name, rfl⟩
      · exact target?_of_not_succeeds h
      · rfl
    rw [hseen, hrecord, recorded_concat, record_call, hnone]
    rfl
  · rw [hrecord, recorded_eq]
  · intro kind name href
    change ((call index viewer q).outcome r.mentioned).1 = _
    rw [outcome_call_of_reference href]
    cases index.find? kind name <;> rfl
  · intro e he hother later
    have hlater : later.foldl after (r.after q) =
        (before ++ q :: later).foldl after ⟨viewer, index, []⟩ := by
      rw [List.foldl_append]
      rfl
    rw [hlater, hrun, mem_recorded]
    exact ⟨hother, q, by simp, e, he, rfl⟩

/-- A message of the file itself and one of another file. -/
def twoFileIndex : TypeIndex where
  exports := [
    { kind := .message, fullName := "p.A", package := "p", fileName := "a.proto" },
    { kind := .message, fullName := "q.B", package := "q", fileName := "b.proto" }]

-- A failure, a repetition, the own file and a pair type leave no trace.
example : (([.enumType "q.B", .messageType "q.B", .messageType "p.A", .fieldType "group" "q.B" "",
    .mapEntry "p.A"] : List Query).foldl after ⟨"a.proto", twoFileIndex, []⟩).mentioned =
      ["b.proto"] := by decide

end Resolver

end ProtoStubs

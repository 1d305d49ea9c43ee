import ProtoStubs.Proofs.Reading

/-!
# Reading the rows of a declaration

Rows that stand in some namespaces declare classes and interfaces there: they are read from any state in
which these namespaces are open, and leave that state with the headings added. What rows declare is found
block by block.
-/

namespace ProtoStubs.Declaration

open Layout Text

/-- Reading rows leads from one state to another. Each row is a line of its own. A row that prints types is
flat, and it is read where the namespaces of its place are open. -/
inductive Reads (viewer : String) : Reader → List Row → Reader → Prop
  | nil (s : Reader) : Reads viewer s [] s
  | cons {s t : Reader} {r : Row} {rows : List Row} (oneLine : OneLine (r.line viewer))
      (located : ∀ phrase, r.content = .phrase phrase →
        s.scope = r.place.scope ∧ Flat (phrase.render viewer))
      (rest : Reads viewer (s.step (lineChars (r.line viewer))) rows t) : Reads viewer s (r :: rows) t

def Reader.declare (s : Reader) (classes interfaces : List Heading) : Reader :=
  { s with classes := s.classes ++ classes, interfaces := s.interfaces ++ interfaces }

/-- What rows that stand in the namespaces `scope` declare. -/
def Declares (viewer : String) (scope : List String) (rows : List Row)
    (classes interfaces : List Heading) : Prop :=
  ∀ s : Reader, s.scope = scope →
    ∃ found, found.Perm interfaces ∧ Reads viewer s rows (s.declare classes found)

variable {viewer : String} {scope : List String}

namespace Reads

theorem append {s t u : Reader} {xs ys : List Row} (hxs : Reads viewer s xs t)
    (hys : Reads viewer t ys u) : Reads viewer s (xs ++ ys) u := by
  induction hxs with
  | nil => exact hys
  | cons hline hlocated _ ih => exact .cons hline hlocated (ih hys)

theorem of_append {s t : Reader} {xs ys : List Row} (h : Reads viewer s (xs ++ ys) t) :
    ∃ u, Reads viewer s xs u ∧ Reads viewer u ys t := by
  induction xs generalizing s with
  | nil => exact ⟨s, .nil s, h⟩
  | cons r xs ih =>
    cases h with
    | cons hline hlocated hrest =>
      obtain ⟨u, hxs, hys⟩ := ih hrest
      exact ⟨u, .cons hline hlocated hxs, hys⟩

theorem single {s t : Reader} {r : Row} (hline : OneLine (r.line viewer))
    (hlocated : ∀ phrase, r.content = .phrase phrase →
      s.scope = r.place.scope ∧ Flat (phrase.render viewer))
    (hstep : s.step (lineChars (r.line viewer)) = t) : Reads viewer s [r] t := by
  refine .cons hline hlocated ?_
  rw [hstep]
  exact .nil t

theorem line {s t : Reader} {place : Place} {content : String}
    (hline : '\n' ∉ content.toList)
    (hstep : s.step (lineChars (.text place.depth content)) = t) :
    Reads viewer s (rowsAt place [line content]) t := by
  apply single
  · exact hline
  · intro phrase h
    cases h
  · exact hstep

theorem flat {place : Place} (s : Reader) {lines : List Line} (h : ∀ l ∈ lines, FlatLine l) :
    Reads viewer s (rowsAt place lines) s := by
  induction lines with
  | nil => exact .nil s
  | cons l lines ih =>
    rw [List.forall_mem_cons] at h
    have hl : FlatLine ((Row.mk place (.plain l)).line viewer) := h.1.indentBy _
    refine .cons hl.oneLine ?_ ?_
    · intro phrase h
      cases h
    · rw [step_of_flat s hl]
      exact ih h.2

theorem phraseRow {s : Reader} {place : Place} {phrase : Phrase} (hs : s.scope = place.scope)
    (h : Flat (phrase.render viewer)) :
    Reads viewer s [phraseRow place phrase] s := by
  have hl : FlatLine ((Declaration.phraseRow place phrase).line viewer) := h
  refine single hl.oneLine ?_ (step_of_flat s hl)
  intro _ hcontent
  cases hcontent
  exact ⟨hs, h⟩

theorem read_append {s t : Reader} {rows : List Row} (h : Reads viewer s rows t) (rest : List Char) :
    (splitChars '\n' ((render (rows.map (Row.line viewer))).toList ++ rest)).foldl Reader.step s =
      (splitChars '\n' rest).foldl Reader.step t := by
  induction h with
  | nil s => rfl
  | @cons s t r rows hline _ _ ih =>
    -- The row is one line, so the text is cut at its end and not before.
    rw [List.map_cons, render_cons, String.toList_append, hline.render, List.append_assoc,
      List.append_assoc, List.singleton_append, splitChars_append hline.not_mem, List.foldl_cons, ih]

theorem read_lines {s t : Reader} {rows : List Row} (h : Reads viewer s rows t) :
    (splitChars '\n' (render (rows.map (Row.line viewer))).toList).foldl Reader.step s = t := by
  have hread := h.read_append []
  rw [List.append_nil] at hread
  exact hread.trans (step_of_flat t (l := .blank) trivial)

end Reads

namespace Declares

theorem nil : Declares viewer scope [] [] [] := by
  intro s _
  refine ⟨[], .nil, ?_⟩
  simp only [Reader.declare, List.append_nil]
  exact .nil s

theorem append {xs ys : List Row} {cs ds is js : List Heading} (hxs : Declares viewer scope xs cs is)
    (hys : Declares viewer scope ys ds js) :
    Declares viewer scope (xs ++ ys) (cs ++ ds) (is ++ js) := by
  intro s hs
  obtain ⟨found, hperm, hread⟩ := hxs s hs
  obtain ⟨found', hperm', hread'⟩ := hys (s.declare cs found) hs
  refine ⟨found ++ found', hperm.append hperm', hread.append ?_⟩
  simpa [Reader.declare] using hread'

theorem perm {rows : List Row} {cs is js : List Heading} (h : Declares viewer scope rows cs is)
    (hperm : is.Perm js) : Declares viewer scope rows cs js := by
  intro s hs
  obtain ⟨found, hfound, hread⟩ := h s hs
  exact ⟨found, hfound.trans hperm, hread⟩

theorem flatMap {α : Type} {xs : List α} {rows : α → List Row} {cs is : α → List Heading}
    (h : ∀ x ∈ xs, Declares viewer scope (rows x) (cs x) (is x)) :
    Declares viewer scope (xs.flatMap rows) (xs.flatMap cs) (xs.flatMap is) := by
  induction xs with
  | nil => exact nil
  | cons x xs ih =>
    rw [List.forall_mem_cons] at h
    exact h.1.append (ih h.2)

/-- Rows that are read without a trace declare nothing. -/
theorem of_reads {rows : List Row} (h : ∀ s : Reader, s.scope = scope → Reads viewer s rows s) :
    Declares viewer scope rows [] [] := by
  intro s hs
  refine ⟨[], .nil, ?_⟩
  simpa [Reader.declare] using h s hs

theorem flat {place : Place} {lines : List Line} (h : ∀ l ∈ lines, FlatLine l) :
    Declares viewer scope (rowsAt place lines) [] [] :=
  of_reads fun s _ => .flat s h

theorem flatMap_nothing {α : Type} {xs : List α} {rows : α → List Row}
    (h : ∀ x ∈ xs, Declares viewer scope (rows x) [] []) :
    Declares viewer scope (xs.flatMap rows) [] [] := by
  have hall := flatMap h
  rwa [List.flatMap_eq_nil_iff.mpr fun _ _ => rfl] at hall

/-- A block that is no namespace stands in the namespaces around it. What its head declares is found before
what is declared in it. -/
theorem block {head : String} {rows : List Row} {cs is : List Heading}
    (hline : '\n' ∉ head.toList)
    (hhead : ∀ s : Reader, s.scope = scope →
      s.step (lineChars (.text scope.length head)) = (s.push none).declare cs is)
    (hrows : Declares viewer scope rows [] []) :
    Declares viewer scope (rowsAt (.inNamespace scope) [line head] ++ rows ++
      rowsAt (.inNamespace scope) [line closeBrace]) cs is := by
  intro s hs
  obtain ⟨found, hperm, hread⟩ := hrows ((s.push none).declare cs is) hs
  rw [List.perm_nil] at hperm
  subst hperm
  refine ⟨is, .refl _, ((Reads.line hline (hhead s hs)).append hread).append ?_⟩
  apply Reads.line (by decide)
  rw [step_close]
  simp [Reader.declare, Reader.push, Reader.pop]

theorem namespaceBlock {name : String} {rows : List Row} {cs is : List Heading}
    (hname : Flat name) (hrows : Declares viewer (scope ++ [name]) rows cs is) :
    Declares viewer scope
      (rowsAt (.inNamespace scope) [line ("export namespace " ++ name ++ " " ++ openBrace)] ++ rows ++
        rowsAt (.inNamespace scope) [line closeBrace]) cs is := by
  intro s hs
  have hscope : (s.push (some name)).scope = scope ++ [name] := by
    rw [Reader.scope_push_some, hs]
  have hline : '\n' ∉ ("export namespace " ++ name ++ " " ++ openBrace).toList := by
    simp [openBrace, hname.not_mem_newline]
  obtain ⟨found, hperm, hread⟩ := hrows (s.push (some name)) hscope
  refine ⟨found, hperm, ((Reads.line hline (step_namespace s _ name)).append hread).append ?_⟩
  apply Reads.line (by decide)
  rw [step_close]
  rfl

end Declares

theorem rowsAt_append (place : Place) (xs ys : List Line) :
    rowsAt place (xs ++ ys) = rowsAt place xs ++ rowsAt place ys :=
  List.map_append

theorem Reads.phraseRows {s : Reader} {place : Place} (hs : s.scope = place.scope)
    {phrases : List Phrase} (h : ∀ a ∈ phrases, Flat (a.render viewer)) :
    Reads viewer s (phrases.map (Declaration.phraseRow place)) s := by
  induction phrases with
  | nil => exact .nil s
  | cons a phrases ih =>
    rw [List.forall_mem_cons] at h
    exact (Reads.phraseRow hs h.1).append (ih h.2)

theorem Reads.commonMembers (s : Reader) (place : Place) {name : String} (h : Flat name) :
    Reads viewer s (rowsAt place ((Declaration.commonMembers name).map Layout.line)) s := by
  have hstep := step_commonMembers s place.depth h
  generalize Declaration.commonMembers name = members at hstep
  induction members with
  | nil => exact .nil s
  | cons c members ih =>
    rw [List.forall_mem_cons] at hstep
    have hline : Reads viewer s (rowsAt place [Layout.line c]) s := .line hstep.1.1 hstep.1.2
    exact hline.append (ih hstep.2)

section Parts

variable {dialect : Schema.Dialect}

theorem Property.declares {name : String} {p : Property} (h : p.Flat viewer) :
    Declares viewer scope (p.rows dialect (scope ++ [name])) [] [] := by
  apply Declares.of_reads
  intro s hs
  have hplace : s.scope = (Place.inClass (scope ++ [name])).scope := by
    rw [hs, Place.scope, List.dropLast_concat]
  apply (Reads.phraseRows hplace (h.accessors dialect)).append
  apply Reads.flat
  simp [FlatLine]

theorem declares_classRows {name : String} {properties : List Property} {oneofs : List Oneof}
    (hname : NameChars name) (hproperties : ∀ p ∈ properties, p.Flat viewer)
    (honeofs : ∀ o ∈ oneofs, NameChars o.name) :
    Declares viewer scope (classRows dialect scope name properties oneofs)
      [⟨scope ++ [name], 2 * scope.length⟩] [] := by
  have hline : '\n' ∉ ("export class " ++ name ++ " extends jspb.Message " ++ openBrace).toList := by
    simp [openBrace, hname.flat.not_mem_newline]
  have hcases : ∀ l ∈ oneofs.map fun o => line (o.caseAccessor name), FlatLine l := by
    intro l hl
    obtain ⟨o, ho, rfl⟩ := List.mem_map.mp hl
    exact flat_caseAccessor hname (honeofs o ho)
  have hmembers : Declares viewer scope (rowsAt (.inClass (scope ++ [name]))
      ((oneofs.map fun o => line (o.caseAccessor name)) ++ (commonMembers name).map line)) [] [] := by
    rw [rowsAt_append]
    exact (Declares.flat hcases).append
      (Declares.of_reads fun s _ => .commonMembers s _ hname.flat)
  have hfields : Declares viewer scope
      (properties.flatMap (Property.rows dialect (scope ++ [name]))) [] [] :=
    Declares.flatMap_nothing fun p hp => Property.declares (hproperties p hp)
  rw [classRows, List.append_assoc (rowsAt _ _)]
  refine Declares.block hline ?_ (hfields.append hmembers)
  intro s hs
  rw [step_class, hs]
  simp [Reader.declare, Reader.push]

theorem declares_objectRows {properties : List Property}
    (hproperties : ∀ p ∈ properties, p.Flat viewer) :
    Declares viewer scope (objectRows dialect scope properties) [] [] := by
  refine Declares.block (by decide) ?_ ?_
  · intro s _
    rw [step_type]
    simp [Reader.declare]
  · apply Declares.of_reads
    intro s hs
    have hentries : ∀ a ∈ properties.map (Property.objectEntry dialect), Flat (a.render viewer) := by
      intro a ha
      obtain ⟨p, hp, rfl⟩ := List.mem_map.mp ha
      exact (hproperties p hp).objectEntry dialect
    have hread : Reads viewer s ((properties.map (Property.objectEntry dialect)).map
        (phraseRow (.inObjectType scope))) s := Reads.phraseRows hs hentries
    rw [List.map_map] at hread
    exact hread

theorem Extension.declares {x : Extension} (hname : NameChars x.field.name)
    (ht : FlatTarget viewer x.type) : Declares viewer scope (x.rows scope) [] [] := by
  apply Declares.of_reads
  intro s hs
  refine (Reads.flat s ?_).append (Reads.phraseRow hs (Extension.flat_constant hname ht))
  simp [FlatLine]

theorem Declares.braced {head : String} {body : List Line} {cs is : List Heading}
    (hline : '\n' ∉ (head ++ openBrace).toList)
    (hhead : ∀ s : Reader, s.scope = scope →
      s.step (lineChars (.text scope.length (head ++ openBrace))) = (s.push none).declare cs is)
    (hbody : ∀ l ∈ body, FlatLine l) :
    Declares viewer scope (rowsAt (.inNamespace scope) (Layout.braced head body "")) cs is := by
  have hindent : ∀ l ∈ indent body, FlatLine l := by
    intro l hl
    obtain ⟨l', hl', rfl⟩ := List.mem_map.mp hl
    exact (hbody l' hl').indentBy 1
  have hlines : Declares viewer scope (rowsAt (.inNamespace scope) (indent body)) [] [] :=
    Declares.flat hindent
  have hblock := Declares.block hline hhead hlines
  rw [← rowsAt_append, ← rowsAt_append] at hblock
  exact hblock

theorem declares_enum {e : Schema.Enum} (hname : NameChars e.name)
    (hvalues : ∀ v ∈ e.values, NameChars v.name) :
    Declares viewer scope (rowsAt (.inNamespace scope) (enumLines e)) []
      [⟨scope ++ [e.name], 2 * scope.length⟩] := by
  have hline : '\n' ∉ ("export interface " ++ e.name ++ "Map " ++ openBrace).toList := by
    simp [openBrace, hname.flat.not_mem_newline]
  have hconst : ∀ l ∈ [Line.blank, line ("export const " ++ e.name ++ ": " ++ e.name ++ "Map;")],
      FlatLine l := by
    simp +decide [FlatLine, line, flat_append, hname.flat]
  have hblank : ∀ l ∈ [Line.blank], FlatLine l := by simp [FlatLine]
  have hblock : Declares viewer scope (rowsAt (.inNamespace scope)
      (braced ("export interface " ++ e.name ++ "Map ") (enumValueLines e) "")) []
        [⟨scope ++ [e.name], 2 * scope.length⟩] := by
    refine Declares.braced hline ?_ (flat_enumValueLines hvalues)
    intro s hs
    rw [step_interface, hs]
    simp [Reader.declare, Reader.push]
  rw [enumLines, rowsAt_append, rowsAt_append]
  exact ((Declares.flat hblank).append hblock).append (Declares.flat hconst)

theorem declares_oneof {o : Oneof} (hname : NameChars o.name)
    (hmembers : ∀ f ∈ o.members, NameChars f.name) :
    Declares viewer scope (rowsAt (.inNamespace scope) (Oneof.lines o)) [] [] := by
  have hstem := (Identifier.nameChars_oneofStem hname).flat
  have hline : '\n' ∉ ("export enum " ++ Identifier.oneofStem o.name ++ "Case " ++ openBrace).toList := by
    simp [openBrace, hstem.not_mem_newline]
  have hblank : ∀ l ∈ [Line.blank], FlatLine l := by simp [FlatLine]
  rw [Oneof.lines, rowsAt_append]
  apply (Declares.flat hblank).append
  refine Declares.braced hline ?_ (flat_oneofCaseLines hname hmembers)
  intro s _
  rw [step_enum s _ hstem]
  simp [Reader.declare]

end Parts

end ProtoStubs.Declaration

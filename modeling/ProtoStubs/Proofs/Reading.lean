import ProtoStubs.Proofs.FlatLines
import ProtoStubs.Text.Split

/-!
# Reading a declaration

A declaration is read line by line with a stack of the blocks that are open. The heads of namespaces,
classes and interfaces count; of all other lines only the braces do. Each row is read at the namespaces of
its place, and a block leaves the stack as it was.
-/

namespace ProtoStubs.Declaration

open Layout Text

/-- What stands between `lead` and `tail`, if the line starts and ends so. -/
def between? (lead tail : String) (cs : List Char) : Option String :=
  if lead.toList.isPrefixOf cs && tail.toList.isSuffixOf (dropLeadChars lead.toList cs) then
    some (String.ofList (dropTailChars tail.toList (dropLeadChars lead.toList cs)))
  else none

/-- The head of a class or an interface: the namespaces that are open there and its name after them, and
the number of blanks before it. -/
structure Heading where
  path : List String
  indentation : Nat
  deriving DecidableEq

/-- What has been read. Of the open blocks, the innermost first, those of namespaces have names. -/
structure Reader where
  blocks : List (Option String) := []
  classes : List Heading := []
  interfaces : List Heading := []
  deriving DecidableEq

namespace Reader

def scope (s : Reader) : List String := (s.blocks.filterMap id).reverse

def push (s : Reader) (block : Option String) : Reader := { s with blocks := block :: s.blocks }

def pop (s : Reader) : Reader := { s with blocks := s.blocks.tail }

def brace (s : Reader) (c : Char) : Reader :=
  if c = '\x7b' then s.push none else if c = '\x7d' then s.pop else s

/-- What is read at a line, of which the blanks at its start are counted already. -/
def content (s : Reader) (indentation : Nat) (content : List Char) : Reader :=
  match between? "export namespace " (" " ++ openBrace) content with
  | some name => s.push (some name)
  | none =>
    match between? "export class " (" extends jspb.Message " ++ openBrace) content with
    | some name =>
      { s.push none with classes := s.classes ++ [⟨s.scope ++ [name], indentation⟩] }
    | none =>
      match between? "export interface " ("Map " ++ openBrace) content with
      | some name =>
        { s.push none with interfaces := s.interfaces ++ [⟨s.scope ++ [name], indentation⟩] }
      | none => content.foldl brace s

def step (s : Reader) (l : List Char) : Reader :=
  s.content (l.takeWhile (· == ' ')).length (l.dropWhile (· == ' '))

def read (t : String) : Reader := (splitChars '\n' t.toList).foldl step {}

theorem scope_push_some (s : Reader) (name : String) :
    (s.push (some name)).scope = s.scope ++ [name] := by
  simp [scope, push]

end Reader

def lineChars : Line → List Char
  | .text depth content => List.replicate (2 * depth) ' ' ++ content.toList
  | .blank => []
  | .verbatim content => content.toList

theorem OneLine.not_mem {l : Line} (h : OneLine l) : '\n' ∉ lineChars l := by
  cases l with
  | text depth content =>
    rw [lineChars, List.mem_append, not_or]
    refine ⟨?_, h⟩
    intro hmem
    exact absurd (List.eq_of_mem_replicate hmem) (by decide)
  | blank => simp [lineChars]
  | verbatim content => cases h

theorem OneLine.render {l : Line} (h : OneLine l) : l.render.toList = lineChars l ++ ['\n'] := by
  cases l with
  | text depth content => simp [Line.render, lineChars, Line.indentation]
  | blank => rfl
  | verbatim content => cases h

section Between

theorem between?_append (lead name tail : String) :
    between? lead tail (lead ++ name ++ tail).toList = some name := by
  have hlead : dropLeadChars lead.toList (lead ++ name ++ tail).toList = (name ++ tail).toList := by
    simp [dropLeadChars]
  rw [between?, hlead]
  simp [dropTailChars]

theorem between?_of_not_lead {lead tail : String} {cs : List Char}
    (h : lead.toList.isPrefixOf cs = false) : between? lead tail cs = none := by
  rw [between?, h, Bool.false_and, if_neg Bool.false_ne_true]

theorem between?_of_flat {lead tail : String} {cs : List Char}
    (h : ∀ c ∈ cs, isFlatChar c = true) : between? lead (tail ++ openBrace) cs = none := by
  have hbrace : '\x7b' ∉ cs := by
    intro hmem
    exact absurd (h _ hmem) (by decide)
  apply if_neg
  intro hends
  rw [Bool.and_eq_true, List.isSuffixOf_iff_suffix] at hends
  have hmem : '\x7b' ∈ dropLeadChars lead.toList cs := by
    apply hends.2.mem
    simp [openBrace]
  unfold dropLeadChars at hmem
  split at hmem
  · exact hbrace (List.mem_of_mem_drop hmem)
  · exact hbrace hmem

end Between

section Steps

variable (s : Reader)

theorem foldl_brace_of_flat {cs : List Char} (h : ∀ c ∈ cs, isFlatChar c = true) :
    cs.foldl Reader.brace s = s := by
  induction cs generalizing s with
  | nil => rfl
  | cons c cs ih =>
    rw [List.forall_mem_cons] at h
    have hc : s.brace c = s := by
      have hflat := h.1
      simp only [isFlatChar, Bool.and_eq_true, bne_iff_ne] at hflat
      rw [Reader.brace, if_neg hflat.1.1, if_neg hflat.1.2]
    rw [List.foldl_cons, hc]
    exact ih s h.2

theorem step_of_flat {l : Line} (h : FlatLine l) : s.step (lineChars l) = s := by
  have hcontent : ∀ c ∈ (lineChars l).dropWhile (· == ' '), isFlatChar c = true := by
    intro c hc
    have hc := (List.dropWhile_sublist _).mem hc
    cases l with
    | text depth content =>
      rcases List.mem_append.mp hc with hc | hc
      · rw [List.eq_of_mem_replicate hc]
        decide
      · exact h c hc
    | blank => cases hc
    | verbatim content => cases h
  rw [Reader.step, Reader.content, between?_of_flat hcontent, between?_of_flat hcontent,
    between?_of_flat hcontent]
  exact foldl_brace_of_flat s hcontent

theorem step_text (depth : Nat) {content : String} {c : Char} {rest : List Char}
    (hcontent : content.toList = c :: rest) (hc : c ≠ ' ') :
    s.step (lineChars (.text depth content)) = s.content (2 * depth) content.toList := by
  have hblank : (c == ' ') = false := beq_eq_false_iff_ne.mpr hc
  have hreplicate : ∀ d ∈ List.replicate (2 * depth) ' ', (d == ' ') = true := by
    intro d hd
    rw [List.eq_of_mem_replicate hd]
    rfl
  rw [lineChars, Reader.step, List.takeWhile_append_of_pos hreplicate,
    List.dropWhile_append_of_pos hreplicate, hcontent, List.takeWhile_cons, List.dropWhile_cons,
    hblank]
  simp

theorem step_namespace (depth : Nat) (name : String) :
    s.step (lineChars (.text depth ("export namespace " ++ name ++ " " ++ openBrace))) =
      s.push (some name) := by
  have hcontent : ("export namespace " ++ name ++ " " ++ openBrace).toList =
      'e' :: ("xport namespace " ++ name ++ " " ++ openBrace).toList := by simp
  rw [step_text s depth hcontent (by decide), Reader.content, String.append_assoc,
    between?_append]

theorem step_class (depth : Nat) (name : String) :
    s.step (lineChars (.text depth
      ("export class " ++ name ++ " extends jspb.Message " ++ openBrace))) =
      { s.push none with classes := s.classes ++ [⟨s.scope ++ [name], 2 * depth⟩] } := by
  have hcontent : ("export class " ++ name ++ " extends jspb.Message " ++ openBrace).toList =
      "export class ".toList ++ (name ++ " extends jspb.Message " ++ openBrace).toList := by simp
  have hnamespace : "export namespace ".toList.isPrefixOf
      ("export class " ++ name ++ " extends jspb.Message " ++ openBrace).toList = false := by
    rw [hcontent]
    rfl
  rw [step_text s depth hcontent (by decide), Reader.content, between?_of_not_lead hnamespace,
    String.append_assoc, between?_append]

theorem step_interface (depth : Nat) (name : String) :
    s.step (lineChars (.text depth ("export interface " ++ name ++ "Map " ++ openBrace))) =
      { s.push none with interfaces := s.interfaces ++ [⟨s.scope ++ [name], 2 * depth⟩] } := by
  have hcontent : ("export interface " ++ name ++ "Map " ++ openBrace).toList =
      "export interface ".toList ++ (name ++ "Map " ++ openBrace).toList := by simp
  have hnamespace : "export namespace ".toList.isPrefixOf
      ("export interface " ++ name ++ "Map " ++ openBrace).toList = false := by
    rw [hcontent]
    rfl
  have hclass : "export class ".toList.isPrefixOf
      ("export interface " ++ name ++ "Map " ++ openBrace).toList = false := by
    rw [hcontent]
    rfl
  rw [step_text s depth hcontent (by decide), Reader.content, between?_of_not_lead hnamespace,
    between?_of_not_lead hclass, String.append_assoc, between?_append]

/-- Of a line that is no head only the braces are read. -/
theorem content_eq_foldl {indentation : Nat} {cs : List Char}
    (hnamespace : "export namespace ".toList.isPrefixOf cs = false)
    (hclass : "export class ".toList.isPrefixOf cs = false)
    (hinterface : "export interface ".toList.isPrefixOf cs = false) :
    s.content indentation cs = cs.foldl Reader.brace s := by
  rw [Reader.content, between?_of_not_lead hnamespace, between?_of_not_lead hclass,
    between?_of_not_lead hinterface]

theorem foldl_brace_open {head : String} (h : Flat head) :
    (head ++ openBrace).toList.foldl Reader.brace s = s.push none := by
  rw [String.toList_append, List.foldl_append, foldl_brace_of_flat s h]
  rfl

theorem step_type (depth : Nat) :
    s.step (lineChars (.text depth ("export type AsObject = " ++ openBrace))) = s.push none := by
  rw [step_text s depth rfl (by decide), content_eq_foldl s rfl rfl rfl]
  exact foldl_brace_open s (by decide)

theorem step_enum (depth : Nat) {name : String} (h : Flat name) :
    s.step (lineChars (.text depth ("export enum " ++ name ++ "Case " ++ openBrace))) =
      s.push none := by
  have hcontent : ("export enum " ++ name ++ "Case " ++ openBrace).toList =
      "export enum ".toList ++ (name ++ "Case " ++ openBrace).toList := by simp
  have hflat : Flat ("export enum " ++ name ++ "Case ") := by
    simp only [flat_append]
    exact ⟨⟨by decide, h⟩, by decide⟩
  rw [step_text s depth hcontent (by decide)]
  rw [content_eq_foldl s (by rw [hcontent]; rfl) (by rw [hcontent]; rfl) (by rw [hcontent]; rfl)]
  exact foldl_brace_open s hflat

theorem step_close (depth : Nat) : s.step (lineChars (.text depth closeBrace)) = s.pop := by
  rw [step_text s depth rfl (by decide), content_eq_foldl s rfl rfl rfl]
  rfl

theorem foldl_brace_numberKeyed {head type : String} (hhead : Flat head) (htype : Flat type) :
    (head ++ numberKeyed type ++ ";").toList.foldl Reader.brace s = s := by
  have hopen : openBrace.toList.foldl Reader.brace s = s.push none := rfl
  have hclose : closeBrace.toList.foldl Reader.brace (s.push none) = s := rfl
  have hkey : Flat "[key: number]: " := by decide
  have hend : Flat ";" := by decide
  simp only [numberKeyed, String.toList_append, List.foldl_append, foldl_brace_of_flat s hhead, hopen,
    foldl_brace_of_flat (s.push none) hkey, foldl_brace_of_flat (s.push none) htype, hclose,
    foldl_brace_of_flat s hend]

theorem step_numberKeyed (depth : Nat) {head type : String} {rest : List Char}
    (hrest : head.toList = 's' :: rest) (hhead : Flat head) (htype : Flat type) :
    OneLine (.text depth (head ++ numberKeyed type ++ ";")) ∧
      s.step (lineChars (.text depth (head ++ numberKeyed type ++ ";"))) = s := by
  have hcontent : (head ++ numberKeyed type ++ ";").toList =
      's' :: (rest ++ (numberKeyed type ++ ";").toList) := by simp [hrest]
  constructor
  · have hkeyed : OneLine (.text depth (numberKeyed type ++ ";")) := by
      simp [OneLine, numberKeyed, openBrace, closeBrace, htype.not_mem_newline]
    simp only [OneLine, String.append_assoc] at hkeyed ⊢
    rw [String.toList_append, List.mem_append]
    exact not_or.mpr ⟨hhead.not_mem_newline, hkeyed⟩
  · rw [step_text s depth hcontent (by decide)]
    rw [content_eq_foldl s (by rw [hcontent]; rfl) (by rw [hcontent]; rfl) (by rw [hcontent]; rfl)]
    exact foldl_brace_numberKeyed s hhead htype

/-- The members that all classes have close every block that they open. -/
theorem step_commonMembers (depth : Nat) {name : String} (h : Flat name) :
    ∀ c ∈ commonMembers name, OneLine (.text depth c) ∧ s.step (lineChars (.text depth c)) = s := by
  have hflat {c : String} (hc : Flat c) :
      OneLine (.text depth c) ∧ s.step (lineChars (.text depth c)) = s :=
    ⟨FlatLine.oneLine hc, step_of_flat s hc⟩
  simp only [commonMembers, List.forall_mem_cons]
  refine ⟨hflat (flat_of_all (by decide)), hflat ?_, hflat ?_,
    step_numberKeyed s depth rfl (flat_of_all (by decide)) (flat_of_all (by decide)),
    step_numberKeyed s depth rfl (flat_of_all (by decide)) (flat_of_all (by decide)),
    hflat ?_, hflat ?_, hflat ?_, by simp⟩
  · exact (h.ofList_append (by decide)).append_ofList (by decide)
  · exact (((h.ofList_append (by decide)).append_ofList (by decide)).append h).append_ofList (by decide)
  · exact (h.ofList_append (by decide)).append_ofList (by decide)
  · exact (h.ofList_append (by decide)).append_ofList (by decide)
  · exact (((h.ofList_append (by decide)).append_ofList (by decide)).append h).append_ofList (by decide)

end Steps

end ProtoStubs.Declaration

import Mathlib
import ProtoStubs.Proofs.LegibleLines
import ProtoStubs.Proofs.ScriptedClient

/-!
# The statements of a client's function

The statements of a function are found one after another, each with what it does. Most do nothing that is
read.
-/

namespace ProtoStubs.Service.WebScript

open Layout Text

variable {s : Stub} {m : Method}

/-- Outermost lines, and what they do as the statements of a function. -/
structure Does (ls : List Line) (es : List Effect) : Prop where
  outermost : Outermost ls
  effects : (outline ls).flatMap effects = es

theorem does_nil : Does [] [] := ⟨outermost_nil, rfl⟩

theorem Does.append {xs ys : List Line} {es es' : List Effect} (hx : Does xs es) (hy : Does ys es') :
    Does (xs ++ ys) (es ++ es') where
  outermost := hx.outermost.append hy.outermost
  effects := by rw [outline_append hy.outermost, List.flatMap_append, hx.effects, hy.effects]

theorem tokens_braced (head : String) : tokens (head ++ openBrace) = tokens head ++ ["\x7b"] := by
  have hbrace : Opens openBrace := opens_ofList rfl
  rw [tokens_append_of_opens head hbrace]
  rfl

theorem tokens_close {tail : String} {ts : List String} (h : tokens tail = ts) :
    tokens (closeBrace ++ tail) = "\x7d" :: ts := by
  have hclose : Closes closeBrace := closes_ofList rfl
  rw [tokens_append_of_closes hclose, h]
  rfl

theorem call?_of_tokens {head : String} {ts : List String} (h : tokens head = ts) :
    call? head = called? (capture ["$", "(", "$", ",", "\x7b"] ts <|>
      capture ["var", "client", "=", "$", "(", "$", ",", "\x7b"] ts) := by
  have hdirect : tokens "$($, \x7b" = ["$", "(", "$", ",", "\x7b"] := tokens_ofList rfl
  have hclient : tokens "var client = $($, \x7b" = ["var", "client", "=", "$", "(", "$", ",", "\x7b"] :=
    tokens_ofList rfl
  rw [call?, captures, captures, hdirect, hclient, h]

theorem does_line {content : String} (h : effects ⟨content, []⟩ = []) : Does [line content] [] where
  outermost := outermost_line content
  effects := by rw [outline_line, List.flatMap_singleton, h]

theorem effects_close {tail : String} (h : tail = ";" ∨ tail = ");" ∨ tail = "") :
    effects ⟨closeBrace ++ tail, []⟩ = [] := by
  have hvalue : tokens ";" = [";"] := tokens_ofList rfl
  have hcall : tokens ");" = [")", ";"] := tokens_ofList rfl
  have hnothing : tokens "" = [] := rfl
  rcases h with rfl | rfl | rfl
  · rw [effects, call?_of_tokens (tokens_close hvalue), tokens_close hvalue]
    rfl
  · rw [effects, call?_of_tokens (tokens_close hcall), tokens_close hcall]
    rfl
  · rw [effects, call?_of_tokens (tokens_close hnothing), tokens_close hnothing]
    rfl

theorem does_braced {head : String} {body : List Line} {es : List Effect} {tail : String}
    (h : effects ⟨head ++ openBrace, written body⟩ = es) (htail : tail = ";" ∨ tail = ");" ∨ tail = "") :
    Does (braced head body tail) es where
  outermost := outermost_braced _ _ _
  effects := by
    rw [outline_braced, List.flatMap_cons, List.flatMap_singleton, effects_close htail, List.append_nil, h]

theorem does_listeners (hasData : Bool) :
    Does (listeners hasData) ((if hasData then [.listened "data"] else []) ++
      [.listened "end", .listened "status"]) := by
  have hhead : tokens ("var listeners = " ++ openBrace) = ["var", "listeners", "=", "\x7b"] := by
    rw [tokens_braced, tokens_ofList rfl]
    rfl
  have hdata : tokens "data: []," = ["data", ":", "[", "]", ","] := tokens_ofList rfl
  have hend : tokens "end: []," = ["end", ":", "[", "]", ","] := tokens_ofList rfl
  have hstatus : tokens "status: []" = ["status", ":", "[", "]"] := tokens_ofList rfl
  refine does_braced ?_ (.inl rfl)
  rw [effects, hhead]
  cases hasData <;> simp [written, written?, line, hdata, hend, hstatus]

theorem does_shift : Does (braced "if (arguments.length === 2) " [line "callback = arguments[1];"] "")
    [.shifted 2 1 "callback"] := by
  have hhead : tokens ("if (arguments.length === 2) " ++ openBrace) =
      ["if", "(", "arguments.length", "=", "=", "=", "2", ")", "\x7b"] := by
    rw [tokens_braced, tokens_ofList rfl]
    rfl
  have hcount : captures "if (arguments.length === $) \x7b" ("if (arguments.length === 2) " ++ openBrace) =
      some ["2"] := by
    have hpattern : tokens "if (arguments.length === $) \x7b" =
        ["if", "(", "arguments.length", "=", "=", "=", "$", ")", "\x7b"] := tokens_ofList rfl
    rw [captures, hpattern, hhead]
    rfl
  have hplace : captures "$ = arguments[$];" "callback = arguments[1];" = some ["callback", "1"] := by
    have hpattern : tokens "$ = arguments[$];" = ["$", "=", "arguments", "[", "$", "]", ";"] :=
      tokens_ofList rfl
    have hline : tokens "callback = arguments[1];" = ["callback", "=", "arguments", "[", "1", "]", ";"] :=
      tokens_ofList rfl
    rw [captures, hpattern, hline]
    rfl
  have htwo : "2".toNat? = some 2 := by cbv
  have hone : "1".toNat? = some 1 := by cbv
  refine does_braced ?_ (.inr (.inr rfl))
  rw [effects, hhead]
  simp [shifted?, hcount, capturesAll, written, written?, line, hplace, htwo, hone]

theorem tokens_runtimeCall {function : String} (hfunction : IsName function) (hs : IsName s.name)
    (hm : m.Named) :
    tokens (runtimeCall function s m) = ["grpc." ++ function, "(", s.name ++ "." ++ m.name, ","] := by
  have hcalled : IsToken ("grpc." ++ function) := IsToken.append (by decide) hfunction.isToken.2
  have hdescription : IsToken (s.name ++ "." ++ m.name) :=
    (hs.isToken.append (by decide)).append hm.name.isToken.2
  have hopen : tokens "(" = ["("] := tokens_ofList rfl
  have hcomma : tokens ", " = [","] := tokens_ofList rfl
  have hline : runtimeCall function s m =
      ("grpc." ++ function) ++ "(" ++ (s.name ++ "." ++ m.name) ++ ", " := by
    simp only [runtimeCall, String.append_assoc]
  rw [hline, tokens_insert (.append (closes_ofList rfl) _) hdescription (opens_ofList rfl),
    tokens_token_append hcalled (opens_ofList rfl), hopen, hcomma]
  rfl

theorem does_call (function : String) (hfunction : IsName function) (hs : IsName s.name) (hm : m.Named)
    (body : List Line) :
    Does (braced ("var client = " ++ runtimeCall function s m) body ");")
      [.called ("grpc." ++ function) (s.name ++ "." ++ m.name)] := by
  have hlead : tokens "var client = " = ["var", "client", "="] := tokens_ofList rfl
  have hhead : tokens ("var client = " ++ runtimeCall function s m ++ openBrace) =
      ["var", "client", "=", "grpc." ++ function, "(", s.name ++ "." ++ m.name, ",", "\x7b"] := by
    rw [tokens_braced, tokens_append_of_closes (closes_ofList rfl), tokens_runtimeCall hfunction hs hm, hlead]
    rfl
  refine does_braced ?_ (.inr (.inl rfl))
  rw [effects, call?_of_tokens hhead, hhead]
  simp [capture, called?]

theorem does_returnObject {members : List Line} {found : List (String × Nat)}
    (h : (outline members).filterMap member? = found) :
    Does (braced "return " members ";") [.returned (.object found)] := by
  have hhead : tokens ("return " ++ openBrace) = ["return", "\x7b"] := by
    rw [tokens_braced, tokens_ofList rfl]
    rfl
  refine does_braced ?_ (.inl rfl)
  rw [effects, hhead]
  exact congrArg (fun ms => [Effect.returned (.object ms)]) h

theorem does_promise (hs : IsName s.name) (hm : m.Named) (body : List Line) :
    Does (braced "return new Promise(function (resolve, reject) "
      (braced (runtimeCall "unary" s m) body ");") ");")
      [.called "grpc.unary" (s.name ++ "." ++ m.name), .returned .promise] := by
  have hhead : tokens ("return new Promise(function (resolve, reject) " ++ openBrace) =
      ["return", "new", "Promise", "(", "function", "(", "resolve", ",", "reject", ")", "\x7b"] := by
    rw [tokens_braced, tokens_ofList rfl]
    rfl
  have hinner : tokens (runtimeCall "unary" s m ++ openBrace) =
      ["grpc.unary", "(", s.name ++ "." ++ m.name, ",", "\x7b"] := by
    rw [tokens_braced, tokens_runtimeCall (by decide) hs hm]
    rfl
  have hcall : call? (runtimeCall "unary" s m ++ openBrace) =
      some (.called "grpc.unary" (s.name ++ "." ++ m.name)) := by
    rw [call?_of_tokens hinner]
    simp [capture, called?]
  have hclose : call? (closeBrace ++ ");") = none := by
    rw [call?_of_tokens (tokens_close (tokens_ofList rfl))]
    rfl
  have hsections : sections (written (braced (runtimeCall "unary" s m) body ");")) =
      [⟨runtimeCall "unary" s m ++ openBrace, written body⟩, ⟨closeBrace ++ ");", []⟩] :=
    outline_braced (runtimeCall "unary" s m) ");" body
  refine does_braced ?_ (.inr (.inl rfl))
  rw [effects, hhead]
  simp [hsections, hcall, hclose]

section Members

theorem member?_close {tail : String} (h : tail = "," ∨ tail = "") :
    member? ⟨closeBrace ++ tail, []⟩ = none := by
  have hcomma : tokens "," = [","] := tokens_ofList rfl
  have hnothing : tokens "" = [] := rfl
  rcases h with rfl | rfl
  · rw [member?, tokens_close hcomma]
    rfl
  · rw [member?, tokens_close hnothing]

theorem members_braced {head name : String} {definition : List String} {count : Nat} {tail : String}
    (h : tokens head = name :: ":" :: definition)
    (hcount : (parameters? (definition ++ ["\x7b"])).map List.length = some count)
    (htail : tail = "," ∨ tail = "") (body : List Line) :
    (outline (braced head body tail)).filterMap member? = [(name, count)] := by
  obtain ⟨parameters, hparameters, rfl⟩ := Option.map_eq_some_iff.mp hcount
  have hhead : member? ⟨head ++ openBrace, written body⟩ = some (name, parameters.length) := by
    rw [member?, tokens_braced, h]
    simp [hparameters]
  rw [outline_braced, List.filterMap_cons, List.filterMap_cons, hhead, member?_close htail]
  rfl

theorem members_addHandler : (outline addHandler).filterMap member? = [("on", 2)] := by
  have hhead : tokens "on: function (type, handler) " =
      ["on", ":", "function", "(", "type", ",", "handler", ")"] := tokens_ofList rfl
  exact members_braced hhead rfl (by simp) _

theorem members_cancelStream : (outline cancelStream).filterMap member? = [("cancel", 0)] := by
  have hhead : tokens "cancel: function () " = ["cancel", ":", "function", "(", ")"] := tokens_ofList rfl
  exact members_braced hhead rfl (by simp) _

theorem members_serverStream :
    (outline (addHandler ++ cancelStream)).filterMap member? = [("on", 2), ("cancel", 0)] := by
  have hcancel : Outermost cancelStream := outermost_braced _ _ _
  rw [outline_append hcancel, List.filterMap_append, members_addHandler, members_cancelStream]
  rfl

theorem members_stream :
    (outline (addHandler ++
      braced "write: function (requestMessage) "
        [line "client.send(requestMessage);", line "return this;"] "," ++
      braced "end: function () " [line "client.finishSend();"] "," ++
      cancelStream)).filterMap member? = [("on", 2), ("write", 1), ("end", 0), ("cancel", 0)] := by
  have hwrite : tokens "write: function (requestMessage) " =
      ["write", ":", "function", "(", "requestMessage", ")"] := tokens_ofList rfl
  have hend : tokens "end: function () " = ["end", ":", "function", "(", ")"] := tokens_ofList rfl
  have hcancel : Outermost cancelStream := outermost_braced _ _ _
  rw [outline_append hcancel, outline_append (outermost_braced _ _ _),
    outline_append (outermost_braced _ _ _), List.filterMap_append, List.filterMap_append,
    List.filterMap_append, members_addHandler, members_cancelStream,
    members_braced hwrite rfl (by simp), members_braced hend rfl (by simp)]
  rfl

end Members

end ProtoStubs.Service.WebScript

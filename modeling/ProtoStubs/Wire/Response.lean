import ProtoStubs.Generate
import ProtoStubs.Wire.Request

/-! Responses on the wire, and a whole run from bytes to bytes. -/

namespace ProtoStubs

namespace Wire

def outputFileNodes (f : OutputFile) : List Node := [.text 1 f.name, .text 15 f.content]

def responseNodes (r : Response) : List Node :=
  .number 2 r.supportedFeatures :: r.files.map fun f => .nested 15 (outputFileNodes f)

def encodeResponse (r : Response) : Bytes := encodeNodes (responseNodes r)

def outputFileOf (nodes : List Node) : OutputFile where
  name := (text? 1 nodes).getD ""
  content := (text? 15 nodes).getD ""

def responseOf (nodes : List Node) : Response where
  supportedFeatures := (number? 2 nodes).getD 0
  files := (bodiesIn 15 nodes).map outputFileOf

def decodeResponse (bytes : Bytes) : Option Response :=
  (readMessage depthLimit .response bytes).map responseOf

end Wire

inductive RunError
  | malformed
  | generation (error : GenerationError)
  deriving DecidableEq

/-- A run on wire data: the bytes of the response, and the notices that the run gives rise to in
either case. -/
def run (bytes : Bytes) (override : Option String) : Except RunError Bytes × List Notice :=
  match Wire.decodeRequest bytes with
  | none => (.error .malformed, [])
  | some request =>
    let answer := match generate request override with
      | .ok response => .ok (Wire.encodeResponse response)
      | .error e => .error (.generation e)
    (answer, generationNotices request override)

end ProtoStubs

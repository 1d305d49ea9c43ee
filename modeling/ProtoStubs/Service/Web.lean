import ProtoStubs.Layout
import ProtoStubs.Service

/-! The declaration of a browser client. A unary call takes a callback, or returns a promise; the
other shapes are the same in both variants. -/

namespace ProtoStubs.Service.Web

open Layout

def headLines (f : File) : List Line :=
  [line ("// package: " ++ f.package), line ("// file: " ++ f.name), .blank]

def importLine (viewer target : String) : String :=
  "import * as " ++ SourcePath.namespaceName target ++ " from \"" ++
    SourcePath.importPath viewer target ++ "\";"

def methodType (s : Stub) (m : Method) : List Line :=
  [.blank] ++ braced ("type " ++ s.name ++ m.name ++ " = ") [
    line "readonly methodName: string;",
    line ("readonly service: typeof " ++ s.name ++ ";"),
    line ("readonly requestStream: " ++ m.requestStream ++ ";"),
    line ("readonly responseStream: " ++ m.responseStream ++ ";"),
    line ("readonly requestType: typeof " ++ m.requestType ++ ";"),
    line ("readonly responseType: typeof " ++ m.responseType ++ ";")] ";"

def serviceClass (s : Stub) : List Line :=
  [.blank] ++ braced ("export class " ++ s.name ++ " ")
    (line "static readonly serviceName: string;" ::
      s.methods.map fun m => line ("static readonly " ++ m.name ++ ": " ++ s.name ++ m.name ++ ";"))
    ""

def serviceLines (s : Stub) : List Line :=
  s.methods.flatMap (methodType s) ++ serviceClass s

def unaryResponse : List Line :=
  [.blank] ++ braced "interface UnaryResponse " [line "cancel(): void;"] ""

def statusType (name : String) (firstField : String) : Line :=
  line ("export type " ++ name ++ " = " ++ openBrace ++ " " ++ firstField ++
    ": string, code: number; metadata: grpc.Metadata " ++ closeBrace)

def handlerMember (event handler result : String) : Line :=
  line ("on(type: '" ++ event ++ "', handler: (" ++ handler ++ ") => void): " ++ result ++ ";")

def streamTypes : List Line :=
  [.blank] ++
  braced "interface ResponseStream<T> " [
    line "cancel(): void;",
    handlerMember "data" "message: T" "ResponseStream<T>",
    handlerMember "end" "status?: Status" "ResponseStream<T>",
    handlerMember "status" "status: Status" "ResponseStream<T>"] "" ++
  braced "interface RequestStream<T> " [
    line "write(message: T): RequestStream<T>;",
    line "end(): void;",
    line "cancel(): void;",
    handlerMember "end" "status?: Status" "RequestStream<T>",
    handlerMember "status" "status: Status" "RequestStream<T>"] "" ++
  braced "interface BidirectionalStream<ReqT, ResT> " [
    line "write(message: ReqT): BidirectionalStream<ReqT, ResT>;",
    line "end(): void;",
    line "cancel(): void;",
    handlerMember "data" "message: ResT" "BidirectionalStream<ReqT, ResT>",
    handlerMember "end" "status?: Status" "BidirectionalStream<ReqT, ResT>",
    handlerMember "status" "status: Status" "BidirectionalStream<ReqT, ResT>"] ""

def sharedTypes (promises : Bool) : List Line :=
  [.blank, statusType "ServiceError" "message", statusType "Status" "details"] ++
    (if promises then [] else unaryResponse) ++ streamTypes

def promiseMember (m : Method) : List Line :=
  line (m.clientName ++ "(") :: indent [
    line ("requestMessage: " ++ m.requestType ++ ","),
    line "metadata?: grpc.Metadata"] ++
  [line ("): Promise<" ++ m.responseType ++ ">;")]

def callbackMember (m : Method) (others : List Line) : List Line :=
  line (m.clientName ++ "(") :: indent (
    line ("requestMessage: " ++ m.requestType ++ ",") :: others ++
    [line ("callback: (error: ServiceError|null, responseMessage: " ++ m.responseType ++
      "|null) => void")]) ++
  [line "): UnaryResponse;"]

def clientMember (promises : Bool) (m : Method) : List Line :=
  match m.shape with
  | .unary =>
    if promises then promiseMember m
    else callbackMember m [line "metadata: grpc.Metadata,"] ++ callbackMember m []
  | .serverStreaming => [
    line (m.clientName ++ "(requestMessage: " ++ m.requestType ++
      ", metadata?: grpc.Metadata): ResponseStream<" ++ m.responseType ++ ">;")]
  | .clientStreaming => [
    line (m.clientName ++ "(metadata?: grpc.Metadata): RequestStream<" ++ m.requestType ++ ">;")]
  | .bidiStreaming => [
    line (m.clientName ++ "(metadata?: grpc.Metadata): BidirectionalStream<" ++ m.requestType ++
      ", " ++ m.responseType ++ ">;")]

def clientClass (promises : Bool) (s : Stub) : List Line :=
  [.blank] ++ braced ("export class " ++ s.name ++ "Client ") (
    [line "readonly serviceHost: string;", .blank,
      line "constructor(serviceHost: string, options?: grpc.RpcOptions);"] ++
    s.methods.flatMap (clientMember promises)) ""

def lines (promises : Bool) (f : File) : List Line :=
  headLines f ++ (f.imports.map fun target => line (importLine f.name target)) ++
    [line ("import " ++ openBrace ++ "grpc" ++ closeBrace ++
      " from \"@improbable-eng/grpc-web\";")] ++
    f.services.flatMap serviceLines ++ sharedTypes promises ++
    f.services.flatMap (clientClass promises)

end ProtoStubs.Service.Web

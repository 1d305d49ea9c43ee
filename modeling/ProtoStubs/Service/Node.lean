import ProtoStubs.Parameter
import ProtoStubs.Service.Web

/-! The declaration of a node client and server. Each method shows in four places: the service
definition, its own definition, the server and the client. -/

namespace ProtoStubs.Service.Node

open Layout

def runtimePackage : Mode → String
  | .none => "grpc"
  | .grpcJs => "@grpc/grpc-js"

def serverHandler : Schema.CallShape → String
  | .unary => "handleUnaryCall"
  | .serverStreaming => "handleServerStreamingCall"
  | .clientStreaming => "handleClientStreamingCall"
  | .bidiStreaming => "handleBidiStreamingCall"

def definitionName (s : Stub) : String := "I" ++ s.name ++ "Service"

def methodDefinitionName (s : Stub) (m : Method) : String := definitionName s ++ "_I" ++ m.name

def serviceDefinition (s : Stub) : List Line :=
  [.blank] ++ braced ("interface " ++ definitionName s ++
      " extends grpc.ServiceDefinition<grpc.UntypedServiceImplementation> ")
    (s.methods.map fun m => line (m.clientName ++ ": " ++ methodDefinitionName s m ++ ";")) ""

def methodDefinition (s : Stub) (m : Method) : List Line :=
  [.blank] ++ braced ("interface " ++ methodDefinitionName s m ++
      " extends grpc.MethodDefinition<" ++ m.requestType ++ ", " ++ m.responseType ++ "> ") [
    line ("path: \"" ++ s.path m ++ "\";"),
    line ("requestStream: " ++ m.requestStream ++ ";"),
    line ("responseStream: " ++ m.responseStream ++ ";"),
    line ("requestSerialize: grpc.serialize<" ++ m.requestType ++ ">;"),
    line ("requestDeserialize: grpc.deserialize<" ++ m.requestType ++ ">;"),
    line ("responseSerialize: grpc.serialize<" ++ m.responseType ++ ">;"),
    line ("responseDeserialize: grpc.deserialize<" ++ m.responseType ++ ">;")] ""

def serverInterface (s : Stub) : List Line :=
  [.blank] ++ braced ("export interface I" ++ s.name ++
      "Server extends grpc.UntypedServiceImplementation ")
    (s.methods.map fun m => line (m.clientName ++ ": grpc." ++ serverHandler m.shape ++ "<" ++
      m.requestType ++ ", " ++ m.responseType ++ ">;")) ""

def overloads (m : Method) : List String × String :=
  let argument := "argument: " ++ m.requestType
  let callback := "callback: grpc.requestCallback<" ++ m.responseType ++ ">"
  let eitherRequired := "metadataOrOptions: grpc.Metadata | grpc.CallOptions | null"
  let bothRequired := "metadata: grpc.Metadata | null, options: grpc.CallOptions | null"
  let eitherOptional := "metadataOrOptions?: grpc.Metadata | grpc.CallOptions | null"
  let bothOptional := "metadata?: grpc.Metadata | null, options?: grpc.CallOptions | null"
  match m.shape with
  | .unary => ([argument ++ ", " ++ callback,
      argument ++ ", " ++ eitherRequired ++ ", " ++ callback,
      argument ++ ", " ++ bothRequired ++ ", " ++ callback], "grpc.ClientUnaryCall")
  | .serverStreaming => ([argument ++ ", " ++ eitherOptional, argument ++ ", " ++ bothOptional],
      "grpc.ClientReadableStream<" ++ m.responseType ++ ">")
  | .clientStreaming => ([callback, eitherRequired ++ ", " ++ callback,
      bothRequired ++ ", " ++ callback], "grpc.ClientWritableStream<" ++ m.requestType ++ ">")
  | .bidiStreaming => ([eitherOptional, bothOptional],
      "grpc.ClientDuplexStream<" ++ m.requestType ++ ", " ++ m.responseType ++ ">")

def clientMember (m : Method) : List Line :=
  (overloads m).1.map fun parameters =>
    line (m.clientName ++ "(" ++ parameters ++ "): " ++ (overloads m).2 ++ ";")

def clientClass (s : Stub) : List Line :=
  [.blank] ++ braced ("export class " ++ s.name ++ "Client extends grpc.Client ")
    (line "constructor(address: string, credentials: grpc.ChannelCredentials, options?: object);" ::
      s.methods.flatMap clientMember) ""

def serviceLines (s : Stub) : List Line :=
  serviceDefinition s ++ s.methods.flatMap (methodDefinition s) ++
    [.blank, line ("export const " ++ s.name ++ "Service: " ++ definitionName s ++ ";")] ++
    serverInterface s ++ clientClass s

def lines (mode : Mode) (f : File) : List Line :=
  [line "// GENERATED CODE -- DO NOT EDIT!", .blank] ++ Web.headLines f ++
    (f.imports.map fun target => line (Web.importLine f.name target)) ++
    [line ("import * as grpc from \"" ++ runtimePackage mode ++ "\";")] ++
    f.services.flatMap serviceLines

end ProtoStubs.Service.Node

import ProtoStubs.Service.Web

/-! The script of a browser client, which does what its declaration says. -/

namespace ProtoStubs.Service.WebScript

open Layout

def requireLine (viewer target : String) : String :=
  "var " ++ SourcePath.namespaceName target ++ " = require(\"" ++
    SourcePath.importPath viewer target ++ "\");"

def serviceObject (s : Stub) : List Line :=
  [.blank] ++ braced ("var " ++ s.name ++ " = (function () ") [
    line ("function " ++ s.name ++ "() " ++ openBrace ++ closeBrace),
    line (s.name ++ ".serviceName = \"" ++ s.fullName ++ "\";"),
    line ("return " ++ s.name ++ ";")] "());"

def methodObject (s : Stub) (m : Method) : List Line :=
  [.blank] ++ braced (s.name ++ "." ++ m.name ++ " = ") [
    line ("methodName: \"" ++ m.name ++ "\","),
    line ("service: " ++ s.name ++ ","),
    line ("requestStream: " ++ m.requestStream ++ ","),
    line ("responseStream: " ++ m.responseStream ++ ","),
    line ("requestType: " ++ m.requestType ++ ","),
    line ("responseType: " ++ m.responseType)] ";"

def clientConstructor (s : Stub) : List Line :=
  [.blank] ++ braced ("function " ++ s.name ++ "Client(serviceHost, options) ") [
    line "this.serviceHost = serviceHost;",
    line ("this.options = options || " ++ openBrace ++ closeBrace ++ ";")] ""

def exportLine (name : String) : Line :=
  line ("exports." ++ name ++ " = " ++ name ++ ";")

def clientFunction (s : Stub) (m : Method) (parameters : String) (body : List Line) : List Line :=
  braced (s.name ++ "Client.prototype." ++ m.clientName ++ " = function (" ++ parameters ++ ") ")
    body ";"

def runtimeCall (function : String) (s : Stub) (m : Method) : String :=
  "grpc." ++ function ++ "(" ++ s.name ++ "." ++ m.name ++ ", "

def makeError : List Line := [
  line "var err = new Error(response.statusMessage);",
  line "err.code = response.status;",
  line "err.metadata = response.trailers;"]

def unlessOk : String := "if (response.status !== grpc.Code.OK) "

def promiseCall (s : Stub) (m : Method) : List Line :=
  clientFunction s m "requestMessage, metadata" (
    [line "var serviceHost = this.serviceHost;", line "var options = this.options;"] ++
    braced "return new Promise(function (resolve, reject) " (
      braced (runtimeCall "unary" s m) (
        [line "request: requestMessage,", line "host: serviceHost,", line "metadata: metadata,",
          line "transport: options.transport,", line "debug: options.debug,"] ++
        braced "onEnd: function (response) " (
          bracedElse unlessOk (makeError ++ [line "reject(err);"])
            [line "resolve(response.message);"]) "") ");") ");")

def clientSettings : List Line := [
  line "request: requestMessage,", line "host: this.serviceHost,", line "metadata: metadata,",
  line "transport: this.options.transport,", line "debug: this.options.debug,"]

def callbackCall (s : Stub) (m : Method) : List Line :=
  clientFunction s m "requestMessage, metadata, callback" (
    braced "if (arguments.length === 2) " [line "callback = arguments[1];"] "" ++
    braced ("var client = " ++ runtimeCall "unary" s m) (
      clientSettings ++
      braced "onEnd: function (response) " (
        braced "if (callback) " (
          bracedElse unlessOk (makeError ++ [line "callback(err, null);"])
            [line "callback(null, response.message);"]) "") "") ");" ++
    braced "return " (
      braced "cancel: function () " [line "callback = null;", line "client.close();"] "") ";")

def listeners (hasData : Bool) : List Line :=
  braced "var listeners = "
    ((if hasData then [line "data: [],"] else []) ++ [line "end: [],", line "status: []"]) ";"

def tellEnd (event : String) : List Line :=
  braced ("listeners." ++ event ++ ".forEach(function (handler) ") [
    line ("handler(" ++ openBrace ++ " code: status, details: statusMessage, metadata: trailers " ++
      closeBrace ++ ");")] ");"

def tellData (message : String) : List Line :=
  braced "listeners.data.forEach(function (handler) " [line ("handler(" ++ message ++ ");")] ");"

def endStream : List Line :=
  tellEnd "status" ++ tellEnd "end" ++ [line "listeners = null;"]

def addHandler : List Line :=
  braced "on: function (type, handler) "
    [line "listeners[type].push(handler);", line "return this;"] ","

def cancelStream : List Line :=
  braced "cancel: function () " [line "listeners = null;", line "client.close();"] ""

def serverStreamCall (s : Stub) (m : Method) : List Line :=
  clientFunction s m "requestMessage, metadata" (
    listeners true ++
    braced ("var client = " ++ runtimeCall "invoke" s m) (
      clientSettings ++
      braced "onMessage: function (responseMessage) " (tellData "responseMessage") "," ++
      braced "onEnd: function (status, statusMessage, trailers) " endStream "") ");" ++
    braced "return " (addHandler ++ cancelStream) ";")

def clientStreamCall (hasData : Bool) (s : Stub) (m : Method) : List Line :=
  clientFunction s m "metadata" (
    listeners hasData ++
    braced ("var client = " ++ runtimeCall "client" s m) [
      line "host: this.serviceHost,", line "metadata: metadata,",
      line "transport: this.options.transport"] ");" ++
    braced "client.onEnd(function (status, statusMessage, trailers) " endStream ");" ++
    (if hasData then braced "client.onMessage(function (message) " (tellData "message") ");"
      else []) ++
    [line "client.start(metadata);"] ++
    braced "return " (
      addHandler ++
      braced "write: function (requestMessage) "
        [line "client.send(requestMessage);", line "return this;"] "," ++
      braced "end: function () " [line "client.finishSend();"] "," ++
      cancelStream) ";")

def clientMember (promises : Bool) (s : Stub) (m : Method) : List Line :=
  match m.shape with
  | .unary => if promises then promiseCall s m else callbackCall s m
  | .serverStreaming => serverStreamCall s m
  | .clientStreaming => clientStreamCall false s m
  | .bidiStreaming => clientStreamCall true s m

def serviceLines (promises : Bool) (s : Stub) : List Line :=
  serviceObject s ++ s.methods.flatMap (methodObject s) ++ [.blank, exportLine s.name] ++
    clientConstructor s ++ (s.methods.flatMap fun m => .blank :: clientMember promises s m) ++
    [.blank, exportLine (s.name ++ "Client")]

def lines (promises : Bool) (f : File) : List Line :=
  Web.headLines f ++ (f.imports.map fun target => line (requireLine f.name target)) ++
    [line "var grpc = require(\"@improbable-eng/grpc-web\").grpc;"] ++
    f.services.flatMap (serviceLines promises)

end ProtoStubs.Service.WebScript

/-! Descriptors as a compiler hands them over: every value that may be left out is an `Option`, the
names of types may carry leading dots, and enumerated values are plain numbers. -/

namespace ProtoStubs.Descriptor

structure FieldOptions where
  jsType : Option Int := none
  deriving DecidableEq

structure Field where
  name : Option String := none
  number : Option Int := none
  label : Option Int := none
  type : Option Int := none
  typeName : Option String := none
  oneofIndex : Option Int := none
  proto3Optional : Option Bool := none
  options : Option FieldOptions := none
  deriving DecidableEq

structure EnumValue where
  name : Option String := none
  number : Option Int := none
  deriving DecidableEq

structure Enum where
  name : Option String := none
  values : List EnumValue := []
  deriving DecidableEq

structure Oneof where
  name : Option String := none
  deriving DecidableEq

structure MessageOptions where
  mapEntry : Option Bool := none
  deriving DecidableEq

structure Message where
  name : Option String := none
  fields : List Field := []
  nested : List Message := []
  enums : List Enum := []
  oneofs : List Oneof := []
  extensions : List Field := []
  options : Option MessageOptions := none

structure Method where
  name : Option String := none
  inputType : Option String := none
  outputType : Option String := none
  clientStreaming : Option Bool := none
  serverStreaming : Option Bool := none
  deriving DecidableEq

structure Service where
  name : Option String := none
  methods : List Method := []
  deriving DecidableEq

structure File where
  name : Option String := none
  package : Option String := none
  dependencies : List String := []
  messages : List Message := []
  enums : List Enum := []
  services : List Service := []
  extensions : List Field := []
  dialect : Option String := none

structure Request where
  filesToGenerate : List String := []
  parameter : Option String := none
  files : List File := []

def Message.isMapEntry (m : Message) : Bool :=
  (m.options.bind (·.mapEntry)).getD false

end ProtoStubs.Descriptor

/-! Generated files. -/

namespace ProtoStubs

structure OutputFile where
  name : String
  content : String
  deriving DecidableEq

end ProtoStubs

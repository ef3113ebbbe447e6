import RouteScript.Text.CodePoint

/-!
# Log records
-/

namespace RouteScript

inductive Level where
  | debug
  | info
  | warning
  | error
  deriving DecidableEq, Repr

inductive Logger where
  | pipeline
  | scanner
  | compiler
  | configuration
  | codeExtractor
  | documentExtractor
  deriving DecidableEq, Repr

structure Record where
  level : Level
  logger : Logger
  message : Text
  deriving DecidableEq, Repr

namespace Level

def name : Level → Text
  | .debug => "DEBUG"
  | .info => "INFO"
  | .warning => "WARNING"
  | .error => "ERROR"

def isShown : Level → Bool
  | .debug => false
  | _ => true

end Level

def Logger.name : Logger → Text
  | .pipeline => "csimplegen.pipeline"
  | .scanner => "csimplegen.scanner"
  | .compiler => "csimplegen.compiler"
  | .configuration => "csimplegen.compiler.configuration"
  | .codeExtractor => "csimplegen.extractors.code"
  | .documentExtractor => "csimplegen.extractors.document"

namespace Record

def full (r : Record) : Text := r.level.name ++ " " ++ r.logger.name ++ ": " ++ r.message

def consoleLine (r : Record) : Text := "[csimplegen] " ++ r.level.name ++ " " ++ r.message ++ "\n"

def fileLine (time : Text) (r : Record) : Text := time ++ " " ++ r.full ++ "\n"

end Record

end RouteScript

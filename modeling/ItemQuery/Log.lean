/-! Log lines. -/

set_option autoImplicit false

namespace ItemQuery

inductive Level where
  | error
  | warn
  | info
  | debug
  | trace
  deriving DecidableEq, Repr

/-- Diagnostic levels are shown on demand only. -/
def Level.isDiagnostic : Level → Bool
  | .debug | .trace => true
  | _ => false

def Level.label : Level → String
  | .error => "ERROR"
  | .warn => "WARN"
  | .info => "INFO"
  | .debug => "DEBUG"
  | .trace => "TRACE"

structure LogLine where
  level : Level
  text : String
  deriving DecidableEq, Repr

namespace LogLine

def error (text : String) : LogLine := ⟨.error, text⟩

def warn (text : String) : LogLine := ⟨.warn, text⟩

def info (text : String) : LogLine := ⟨.info, text⟩

def debug (text : String) : LogLine := ⟨.debug, text⟩

def trace (text : String) : LogLine := ⟨.trace, text⟩

end LogLine

end ItemQuery

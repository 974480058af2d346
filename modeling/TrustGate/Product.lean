/-!
# The product

What the program calls itself, and the names of what it leaves in its folder.
-/

namespace TrustGate.Product

def name : String :=
  "eaptrust"

def version : String :=
  "0.1.0"

def logFolder : String :=
  "logs"

def logFile : String :=
  "eaptrust.log"

/-- The environment variable that filters the log. -/
def logVariable : String :=
  "EAPTRUST_LOG"

/-- The environment variable that names the folder of the program. -/
def folderVariable : String :=
  "EAPTRUST_CONFIG_DIR"

def tickMilliseconds : Nat :=
  250

end TrustGate.Product

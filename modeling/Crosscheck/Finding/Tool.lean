/-!
# Analyzers

The static analyzers whose findings are compared.
-/

namespace Crosscheck

/-- A static analyzer. -/
inductive Tool
  | pmd
  | spotbugs
  | checkstyle
  | infer
  | sonarqube
  | codenavi
  deriving DecidableEq, Repr, Inhabited

namespace Tool

/-- All analyzers, in order of precedence. -/
def all : List Tool := [.pmd, .spotbugs, .checkstyle, .infer, .sonarqube, .codenavi]

theorem mem_all (tool : Tool) : tool ∈ all := by cases tool <;> decide

/-- The short name of an analyzer. -/
def id : Tool → String
  | .pmd => "pmd"
  | .spotbugs => "spotbugs"
  | .checkstyle => "checkstyle"
  | .infer => "infer"
  | .sonarqube => "sonarqube"
  | .codenavi => "codenavi"

/-- The name that the analyzer's configuration keys begin with. -/
def key : Tool → String
  | .pmd => "PMD"
  | .spotbugs => "SPOTBUGS"
  | .checkstyle => "CHECKSTYLE"
  | .infer => "INFER"
  | .sonarqube => "SONARQUBE"
  | .codenavi => "CODENAVI"

/-- The name of an analyzer in print. -/
def title : Tool → String
  | .pmd => "PMD"
  | .spotbugs => "SpotBugs"
  | .checkstyle => "CheckStyle"
  | .infer => "Infer"
  | .sonarqube => "SonarQube"
  | .codenavi => "CodeNavi"

/-- The analyzer of a short name. -/
def ofId? (s : String) : Option Tool := all.find? (·.id == s)

end Tool

end Crosscheck

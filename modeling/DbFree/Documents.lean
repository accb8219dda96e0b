import DbFree.Texts

/- The documents that the program saves: dashboards, workflows and diagrams
(model/documents.rs). -/
namespace DbFree

inductive DocumentKind where
  | dashboard | workflow | diagram
deriving DecidableEq

def DocumentKind.asStr : DocumentKind → String
  | dashboard => "dashboard"
  | workflow => "workflow"
  | diagram => "diagram"

/-- A document, as far as saving it looks into it. -/
structure Document (Body : Type) where
  id : Text
  kind : DocumentKind
  name : Text
  body : Body
deriving DecidableEq

end DbFree
